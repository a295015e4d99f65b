import SourceTally.Counter.Registry
import SourceTally.Note

/- The parsers that can be asked for by id, and their registration on a counter. -/
namespace SourceTally.Catalogue

def scanners : List Scanner := [.plain, .cFamily]

def ids : List String := scanners.map (·.defaultId)

def seedExtensions : Scanner → List String
  | .plain => ["txt", "text"]
  | _ => []

def normalize (id : String) : String := String.ofList (Text.trim (Text.lower id.toList))

def scanner? : Value → Option Scanner
  | .str id => scanners.find? (·.defaultId == normalize id)
  | _ => none

def create (serial : Nat) (id : Value) : Except Error Parser :=
  match id.unkeyable? with
  | some typeName => .error (.unkeyable typeName)
  | none =>
    match scanner? id with
    | none => .error (.unknownParserId id ids)
    | some scanner =>
      Parser.make serial scanner .nothing .nothing
        (.list ((seedExtensions scanner).map .str))

/-- What a registration did: the parsers that it added or why it ended early, the counter after it,
    and the notes that it left. -/
structure Registration where
  added : Except Error (List Parser)
  counter : Counter
  notes : List Note := []

/-- Registers new parsers one by one. Those before an unknown id stay registered. -/
def addIds (c : Counter) (serial : Nat) : List Value → Registration
  | [] => { added := .ok [], counter := c }
  | id :: rest =>
    match create serial id with
    | .error e => { added := .error e, counter := c }
    | .ok p =>
      let (isNew, next) := c.addOne p
      let later := addIds next (serial + 1) rest
      if isNew then
        { later with
          added := later.added.map (p :: ·)
          notes := .registered p.id p.name :: later.notes }
      else { later with notes := .alreadyRegistered p.id :: later.notes }

def requestedIds (requested : Value) : Except Error (List Value) :=
  if requested.isTrue then
    match requested.items? with
    | some items => .ok items
    | none => .error (.notIterable requested.typeName)
  else .ok (ids.map .str)

def chooseDefault (c : Counter) (serial : Nat) (id : Value) : Except Error Parser :=
  match if id.isTrue then id else .str Scanner.plain.defaultId with
  | .str text =>
    match c.parserWithId? (normalize text) with
    | some p => .ok p
    | none => create serial (.str text)
  | value => .error (.noLowerCase value.typeName)

def isGiven : Value → Bool
  | .nothing => false
  | _ => true

def defaultParser? (c : Counter) (serial : Nat) (defaultId allowUnknowns : Value) :
    Except Error (Option Parser) :=
  if isGiven defaultId || allowUnknowns.isTrue then
    (chooseDefault c serial defaultId).map some
  else .ok none

/-- Registers the parsers asked for and sets the options. Serial numbers from `serial` on are free to
    use; as many are used as there are ids, and one more. -/
def register (c : Counter) (serial : Nat) (requested defaultId allowUnknowns : Value) :
    Registration :=
  match requestedIds requested with
  | .error e => { added := .error e, counter := c }
  | .ok wanted =>
    let registration := addIds c serial wanted
    match registration.added with
    | .error _ => registration
    | .ok _ =>
      let c := registration.counter
      match defaultParser? c (serial + wanted.length) defaultId allowUnknowns with
      | .error e => { registration with added := .error e }
      | .ok fallback =>
        { registration with
          counter :=
            { c with
              options :=
                { requireExtension := .bool (!allowUnknowns.isTrue), defaultParser := fallback } }
          notes :=
            registration.notes ++ [.registry (c.parsers.map (·.id)) (fallback.map (·.id))] }

def serialsUsed (requested : Value) : Nat :=
  match requestedIds requested with
  | .ok wanted => wanted.length + 1
  | .error _ => 0

end SourceTally.Catalogue
