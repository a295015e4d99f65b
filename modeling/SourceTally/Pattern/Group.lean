import SourceTally.Assoc
import SourceTally.Pattern.Token
import SourceTally.Text.Blank
import SourceTally.Text.Identifier

/- The groups of a search pattern while it is read, and referring to them by name or by number. A
   group can be referred to once it is closed, and from behind only if it was closed before. -/
namespace SourceTally.Pattern

structure Groups where
  names : List (String × Nat) := []
  /-- The widths of the groups from the first on, those of open ones missing. -/
  widths : List (Option Width) := []
  /-- The groups that conditions ask for by number, with the places where they do so first. -/
  asked : List (Nat × Nat) := []
  /-- The first group of the outermost part that is being looked for behind. -/
  lookbehind : Option Nat := none

namespace Groups

def count (g : Groups) : Nat := g.widths.length

def isClosed (g : Groups) (index : Nat) : Bool := (g.widths[index - 1]?.bind id).isSome

def opened (g : Groups) : Groups := { g with widths := g.widths ++ [none] }

def closed (g : Groups) (index : Nat) (w : Width) : Groups :=
  { g with widths := g.widths.set (index - 1) (some w) }

def openedAs (g : Groups) (name : List Char) (s : Source) : Reading Groups :=
  let text := String.ofList name
  let g := g.opened
  match Assoc.get? g.names text with
  | some before => fail (.redefinedGroup text g.count before) (s.position - (name.length + 1))
  | none => .ok { g with names := Assoc.insert g.names text g.count }

/-- What is looked for behind is read forwards, so a group in it has not matched yet. -/
def checkBehind (g : Groups) (index : Nat) (s : Source) : Reading Unit :=
  match g.lookbehind with
  | none => .ok ()
  | some first =>
    if !g.isClosed index then fail .openReference s.position
    else if first ≤ index then fail .lookbehindReference s.position
    else .ok ()

def named (g : Groups) (name : List Char) (s : Source) : Reading Nat :=
  match Assoc.get? g.names (String.ofList name) with
  | some index => .ok index
  | none => fail (.unknownGroup (String.ofList name)) (s.position - (name.length + 1))

end Groups

def checkName (name : List Char) (s : Source) : Reading Unit :=
  if Text.isIdentifier name then .ok ()
  else fail (.badGroupName (String.ofList name)) (s.position - (name.length + 1))

def digitsOf? : List Char → Option (List Nat)
  | [] => none
  | [c] => (Text.digitValue? c).map ([·])
  | c :: '_' :: rest => do return (← Text.digitValue? c) :: (← digitsOf? rest)
  | c :: rest => do return (← Text.digitValue? c) :: (← digitsOf? rest)

def unsigned? (cs : List Char) : Option Nat := do
  let digits ← digitsOf? cs
  if Text.digitLimit < digits.length then none
  else some (digits.foldl (fun n d => 10 * n + d) 0)

def groupNumber? (name : List Char) : Option Nat :=
  match Text.trim name with
  | '+' :: rest => unsigned? rest
  | '-' :: rest => (unsigned? rest).filter (· = 0)
  | cs => unsigned? cs

def maxGroups : Nat := 1073741823

def readCondition (g : Groups) (name : List Char) (s : Source) : Reading (Nat × Groups) := do
  let position := s.position - (name.length + 1)
  if Text.isIdentifier name then
    let index ← g.named name s
    g.checkBehind index s
    return (index, g)
  match groupNumber? name with
  | none => fail (.badGroupName (String.ofList name)) position
  | some 0 => fail .badGroupNumber position
  | some index =>
    if maxGroups ≤ index then fail (.invalidReference index) position
    g.checkBehind index s
    let asked := if Assoc.has g.asked index then g.asked else g.asked ++ [(index, position)]
    return (index, { g with asked })

end SourceTally.Pattern
