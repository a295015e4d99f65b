/- Texts as sequences of characters and line ends. A line ends with a line feed, and a carriage
   return directly before the line feed belongs to the line end. -/
namespace SourceTally

inductive Symbol where
  | lineEnd
  | char (c : Char)
  deriving DecidableEq, Repr

namespace Symbol

def ofChars : List Char → List Symbol
  | [] => []
  | c :: rest =>
    if c = '\n' then lineEnd :: ofChars rest
    else if c = '\r' && rest.head? = some '\n' then ofChars rest
    else char c :: ofChars rest

def position? (length : Nat) (index : Int) : Option Nat :=
  let place := if index < 0 then index + length else index
  if 0 ≤ place && place < length then some place.toNat else none

def sliceBound (length : Nat) (index : Int) : Nat :=
  min (if index < 0 then index + length else index).toNat length

def slice (cs : List Char) (start stop : Int) : List Char :=
  let first := sliceBound cs.length start
  (cs.drop first).take (sliceBound cs.length stop - first)

/-- At the index stands a carriage return, and the slice after it is a line feed. There is no answer
    when the index is outside of the text. -/
def isReturnOfLineEnd? (cs : List Char) (index : Int) : Option Bool := do
  let place ← position? cs.length index
  let c ← cs[place]?
  return c = '\r' && slice cs (index + 1) (index + 2) = ['\n']

end Symbol

end SourceTally
