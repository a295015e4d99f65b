import SourceTally.Pattern.Flags
import SourceTally.Pattern.Group

/- Escapes in search patterns, and sets of characters. -/
namespace SourceTally.Pattern

def numberOf (base : Nat) (digits : List Char) : Nat :=
  digits.foldl (fun n c => base * n + (Text.hexValue? c).getD 0) 0

def controlEscape? (c : Char) : Option Char :=
  match c with
  | 'a' => some '\x07'
  | 'f' => some '\x0c'
  | 'n' => some '\n'
  | 'r' => some '\r'
  | 't' => some '\t'
  | 'v' => some '\x0b'
  | _ => none

def categoryEscape? (c : Char) : Option Member :=
  match c with
  | 'd' => some (.category .digit false)
  | 'D' => some (.category .digit true)
  | 's' => some (.category .space false)
  | 'S' => some (.category .space true)
  | 'w' => some (.category .word false)
  | 'W' => some (.category .word true)
  | _ => none

def placeEscape? (ascii : Bool) (c : Char) : Option Place :=
  match c with
  | 'A' => some .textStart
  | 'Z' => some .textEnd
  | 'b' => some (.wordEdge ascii false)
  | 'B' => some (.wordEdge ascii true)
  | _ => none

def hexLength? (c : Char) : Option Nat :=
  match c with
  | 'x' => some 2
  | 'u' => some 4
  | 'U' => some 8
  | _ => none

def lastCode : Nat := 0x10ffff

def isOctal (c : Char) : Bool := '0' ≤ c && c ≤ '7'

def written (cs : List Char) : String := String.ofList ('\\' :: cs)

def readHex (c : Char) (length position : Nat) (s : Source) : Reading (Nat × Source) := do
  let (digits, s) ← s.takeWhile (fun d => (Text.hexValue? d).isSome) length
  let code := numberOf 16 digits
  if digits.length ≠ length then fail (.incompleteEscape (written (c :: digits))) position
  else if lastCode < code then fail (.badEscape (written (c :: digits))) position
  else return (code, s)

/-- A character by its name. No names are known. -/
def readNamed (position : Nat) (s : Source) : Reading (Nat × Source) := do
  match ← s.take? '\x7b' with
  | none => fail .missingBrace s.position
  | some s =>
    let (name, _) ← s.nameUpTo '\x7d' "character name"
    fail (.unknownCharacter (String.ofList name)) position

def readCode (c : Char) (position : Nat) (s : Source) : Reading (Nat × Source) :=
  match controlEscape? c, hexLength? c with
  | some control, _ => .ok (control.toNat, s)
  | none, some length => readHex c length position s
  | none, none =>
    if c = 'N' then readNamed position s
    else if c.isAlpha then fail (.badEscape (written [c])) position
    else .ok (c.toNat, s)

def octalCode (digits : List Char) (position : Nat) : Reading Nat :=
  let code := numberOf 8 digits
  if 0o377 < code then fail (.octalEscape (written digits)) position else .ok code

/-- An escape of digits outside of sets: a code if it starts with a zero or has three octal digits,
    and otherwise a reference to a group. -/
def readDigits (g : Groups) (flags : Flags) (c : Char) (position : Nat) (s : Source) :
    Reading (Expr × Source) := do
  if c = '0' then
    let (digits, s) ← s.takeWhile isOctal 2
    return (flags.expr false [.code (numberOf 8 digits)], s)
  let (second, s) ← s.takeWhile Char.isDigit 1
  let (third, s) ←
    if isOctal c && second.all isOctal && !second.isEmpty then s.takeWhile isOctal 1
    else pure ([], s)
  if !third.isEmpty then
    let code ← octalCode (c :: second ++ third) position
    return (flags.expr false [.code code], s)
  let index := numberOf 10 (c :: second)
  if g.count < index then fail (.invalidReference index) (position + 1)
  if !g.isClosed index then fail .openReference position
  g.checkBehind index s
  return (.reference flags.caseRule index, s)

def readEscape (g : Groups) (flags : Flags) (c : Char) (position : Nat) (s : Source) :
    Reading (Expr × Source) :=
  match categoryEscape? c, placeEscape? flags.isAscii c with
  | some m, _ => .ok (flags.expr false [m], s)
  | none, some p => .ok (.place p, s)
  | none, none =>
    if c.isDigit then readDigits g flags c position s
    else do
      let (code, s) ← readCode c position s
      return (flags.expr false [.code code], s)

def readSetEscape (c : Char) (position : Nat) (s : Source) : Reading (Member × Source) :=
  match categoryEscape? c with
  | some m => .ok (m, s)
  | none =>
    if c = 'b' then .ok (.code 0x08, s)
    else if isOctal c then do
      let (digits, s) ← s.takeWhile isOctal 2
      return (.code (← octalCode (c :: digits) position), s)
    else if c.isDigit then fail (.badEscape (written [c])) position
    else do
      let (code, s) ← readCode c position s
      return (.code code, s)

def readMember (t : Token) (s : Source) : Reading (Member × Source) :=
  match t.kind with
  | .plain c => .ok (.code c.toNat, s)
  | .escaped c => readSetEscape c t.position s
  | .dangling => fail .danglingEscape t.position

def takeInSet (opened : Nat) (s : Source) : Reading (Token × Source) :=
  match s.tokens with
  | [] => fail .unclosedSet opened
  | t :: rest => do return (t, ← s.moved rest)

/-- The members of a set up to its closing bracket, which is a member when it comes first. A range
    that is none is placed by the tokens of its ends, without what belongs to their escapes. -/
def readMembers (opened : Nat) : Nat → List Member → Source → Reading (List Member × Source)
  | 0, _, _ => fail .unclosedSet opened
  | fuel + 1, members, s => do
    let (low, s) ← takeInSet opened s
    if low.is ']' && !members.isEmpty then return (members, s)
    let (member, s) ← readMember low s
    match ← s.take? '-' with
    | none => readMembers opened fuel (members ++ [member]) s
    | some s =>
      let (high, s) ← takeInSet opened s
      if high.is ']' then return (members ++ [member, .code '-'.toNat], s)
      let (bound, s) ← readMember high s
      let start := s.position - (low.chars.length + 1 + high.chars.length)
      match member, bound with
      | .code a, .code b =>
        if b < a then fail (.badRange low.text high.text) start
        else readMembers opened fuel (members ++ [.range a b]) s
      | _, _ => fail (.badRange low.text high.text) start

def readSet (flags : Flags) (opened : Nat) (s : Source) : Reading (Expr × Source) := do
  let (negated, s) ←
    match ← s.take? '^' with
    | some s => pure (true, s)
    | none => pure (false, s)
  let (members, s) ← readMembers opened (s.tokens.length + 1) [] s
  return (flags.expr negated members, s)

end SourceTally.Pattern
