import SourceTally.Error

/- The extensions that a parser claims: clean, not empty, each once, in the order in which they were
   added. -/
namespace SourceTally.Parser

def addText (p : Parser) (text : String) : Bool × Parser :=
  let cleaned := Extension.clean text
  if cleaned = "" || p.extensions.contains cleaned then (false, p)
  else (true, { p with extensions := p.extensions ++ [cleaned] })

def addTexts (p : Parser) : List String → Bool × Parser
  | [] => (false, p)
  | text :: rest =>
    let (added, p) := p.addText text
    let (addedLater, p) := addTexts p rest
    (added || addedLater, p)

def textItem (item : Value) : Except Error String :=
  match item.text? with
  | some text => .ok text
  | none => .error (.notExtensionItem item.typeName)

def extensionTexts : Value → Except Error (List String)
  | .str text => .ok [text]
  | .list items => items.mapM textItem
  | .tuple items => items.mapM textItem
  | value => .error (.notExtension value.typeName)

/-- All of the argument is checked before anything is added. -/
def addExtension (p : Parser) (value : Value) : Except Error (Bool × Parser) := do
  return p.addTexts (← extensionTexts value)

def hasExtension (p : Parser) (value : Value) : Bool :=
  let cleaned := value.cleanExtension
  cleaned ≠ "" && p.extensions.contains cleaned

def removeExtension (p : Parser) (value : Value) : Bool × Parser :=
  if p.hasExtension value then
    (true, { p with extensions := p.extensions.erase value.cleanExtension })
  else (false, p)

/-- A new parser. An id or name that is no text or is empty gives way to that of the scanner. -/
def make (serial : Nat) (scanner : Scanner) (id name extensions : Value) : Except Error Parser :=
  let bare : Parser :=
    { serial
      scanner
      id := id.nonemptyText?.getD scanner.defaultId
      name := name.nonemptyText?.getD scanner.defaultName
      extensions := [] }
  let seeded := (bare.addTexts scanner.defaultExtensions).2
  match extensions with
  | .nothing => .ok seeded
  | value => do return (← seeded.addExtension value).2

def parseText (p : Parser) (text : String) : Except Error Statistics :=
  match p.scanner.scan? text.toList with
  | some statistics => .ok statistics
  | none => .error (.refused text.length)

def parse (p : Parser) (contents : Value) : Except Error Statistics :=
  match contents.nonemptyText? with
  | some text => p.parseText text
  | none => .error (.emptyText p.name)

end SourceTally.Parser
