import SourceTally.Counter.Basic

/- The parsers of a counter, in the order in which they were registered, each id once. A parser is
   referred to by its id or by a parser with its id. -/
namespace SourceTally.Counter

def referredId? : Value → Option String
  | .parser p => some p.id
  | .str id => some id
  | _ => none

def parserWithId? (c : Counter) (id : String) : Option Parser := c.parsers.find? (·.id == id)

def getParser? (c : Counter) (reference : Value) : Option Parser :=
  (referredId? reference).bind c.parserWithId?

def hasParser (c : Counter) (reference : Value) : Bool := (c.getParser? reference).isSome

def addOne (c : Counter) (p : Parser) : Bool × Counter :=
  if (c.parserWithId? p.id).isSome then (false, c)
  else (true, { c with parsers := c.parsers ++ [p] })

def addEach (c : Counter) : List Parser → Bool × Counter
  | [] => (false, c)
  | p :: rest =>
    let (added, c) := c.addOne p
    let (addedLater, c) := addEach c rest
    (added || addedLater, c)

def parserItem : Value → Except Error Parser
  | .parser p => .ok p
  | value => .error (.notParserItem value.typeName)

def parsersOf : Value → Except Error (List Parser)
  | .parser p => .ok [p]
  | .list items => items.mapM parserItem
  | .tuple items => items.mapM parserItem
  | value => .error (.notParser value.typeName)

/-- All of the argument is checked before anything is registered. -/
def addParser (c : Counter) (value : Value) : Except Error (Bool × Counter) := do
  return c.addEach (← parsersOf value)

def removeParser (c : Counter) (reference : Value) : Bool × Counter :=
  match c.getParser? reference with
  | some p => (true, { c with parsers := c.parsers.eraseP (·.id == p.id) })
  | none => (false, c)

def parserForExtension? (c : Counter) (extension : Value) : Option Parser :=
  if extension.cleanExtension = "" then none
  else c.parsers.find? (·.hasExtension (.str extension.cleanExtension))

/-- A parser that was changed, wherever the counter holds it. -/
def updateParser (c : Counter) (changed : Parser) : Counter :=
  let update := fun (p : Parser) => if p.serial = changed.serial then changed else p
  { c with
    parsers := c.parsers.map update
    options := { c.options with defaultParser := c.options.defaultParser.map update } }

def make (options : Options.Request) (parsers : Value) : Except Error Counter := do
  let c ← Counter.applyOptions {} options []
  match parsers with
  | .nothing => return c
  | value => return (← c.addParser value).2

end SourceTally.Counter
