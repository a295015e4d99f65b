import SourceTally.Pattern.Fault

/- The text of a search pattern as a source of tokens. A backslash at the very end is met as soon as
   what stands before it is taken. -/
namespace SourceTally.Pattern

/-- A character of a pattern, or a backslash with the character after it, if there is one. -/
inductive TokenKind where
  | plain (c : Char)
  | escaped (c : Char)
  | dangling
  deriving DecidableEq, Repr

structure Token where
  kind : TokenKind
  position : Nat
  deriving DecidableEq, Repr

def tokensFrom (position : Nat) : List Char → List Token
  | [] => []
  | ['\\'] => [⟨.dangling, position⟩]
  | '\\' :: c :: rest => ⟨.escaped c, position⟩ :: tokensFrom (position + 2) rest
  | c :: rest => ⟨.plain c, position⟩ :: tokensFrom (position + 1) rest

namespace Token

def chars (t : Token) : List Char :=
  match t.kind with
  | .plain c => [c]
  | .escaped c => ['\\', c]
  | .dangling => ['\\']

def text (t : Token) : String := String.ofList t.chars

def is (t : Token) (c : Char) : Bool := t.kind = .plain c

end Token

structure Source where
  tokens : List Token
  stop : Nat
  deriving Repr

abbrev Reading (α : Type) := Except Fault α

def fail {α : Type} (cause : FaultCause) (position : Nat) : Reading α :=
  .error ⟨cause, some position⟩

namespace Source

def position (s : Source) : Nat :=
  match s.tokens with
  | t :: _ => t.position
  | [] => s.stop

def moved (s : Source) (tokens : List Token) : Reading Source :=
  match tokens with
  | ⟨.dangling, position⟩ :: _ => fail .danglingEscape position
  | _ => .ok { s with tokens }

def ofText (pattern : String) : Reading Source :=
  Source.moved ⟨[], pattern.length⟩ (tokensFrom 0 pattern.toList)

def startsWith (s : Source) (c : Char) : Bool := s.tokens.head?.any (·.is c)

def take? (s : Source) (c : Char) : Reading (Option Source) :=
  if s.startsWith c then return some (← s.moved (s.tokens.drop 1)) else return none

def takeAny (s : Source) (ended : FaultCause) : Reading (Token × Source) :=
  match s.tokens with
  | [] => fail ended s.position
  | t :: rest => return (t, ← s.moved rest)

def takeWhile (accepts : Char → Bool) : Nat → Source → Reading (List Char × Source)
  | 0, s => .ok ([], s)
  | limit + 1, s =>
    match s.tokens with
    | ⟨.plain c, _⟩ :: rest =>
      if accepts c then do
        let s ← s.moved rest
        let (taken, s) ← takeWhile accepts limit s
        return (c :: taken, s)
      else .ok ([], s)
    | _ => .ok ([], s)

def skipPast (c : Char) : Nat → Source → Reading (Option Source)
  | 0, _ => .ok none
  | fuel + 1, s =>
    match s.tokens with
    | [] => .ok none
    | t :: rest => do
      let s ← s.moved rest
      if t.is c then return some s else skipPast c fuel s

def takeName (terminator : Char) (thing : String) : Nat → List Char → Source →
    Reading (List Char × Source)
  | 0, _, s => fail (.missingName thing) s.position
  | fuel + 1, name, s =>
    match s.tokens with
    | [] =>
      if name.isEmpty then fail (.missingName thing) s.position
      else fail (.unclosedName terminator) (s.position - name.length)
    | t :: rest => do
      let s ← s.moved rest
      if !t.is terminator then takeName terminator thing fuel (name ++ t.chars) s
      else if name.isEmpty then fail (.missingName thing) t.position
      else return (name, s)

def nameUpTo (s : Source) (terminator : Char) (thing : String) : Reading (List Char × Source) :=
  s.takeName terminator thing (s.tokens.length + 1) []

end Source

end SourceTally.Pattern
