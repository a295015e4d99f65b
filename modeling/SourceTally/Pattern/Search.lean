import SourceTally.Assoc
import SourceTally.Pattern.Basic

/- Searching a text for a pattern. A pattern is tried at a position with a continuation that stands
   for all that follows it, so that ways to match are tried in order until the rest matches too. -/
namespace SourceTally.Pattern

structure Spot where
  position : Nat
  groups : List (Nat × (Nat × Nat)) := []
  deriving DecidableEq, Repr

abbrev Continuation := Spot → Option Spot

def isWordAt (ascii : Bool) (text : Array Char) (position : Nat) : Bool :=
  match text[position]? with
  | some c => Category.word.contains ascii c
  | none => false

def isWordBefore (ascii : Bool) (text : Array Char) (position : Nat) : Bool :=
  position ≠ 0 && isWordAt ascii text (position - 1)

/-- An empty text has neither edges of words nor places that are none. -/
def placeMatches (text : Array Char) (position : Nat) : Place → Bool
  | .textStart => position = 0
  | .textEnd => position = text.size
  | .lineStart everyLine => position = 0 || (everyLine && text[position - 1]? = some '\n')
  | .lineEnd everyLine =>
    position = text.size ||
      (text[position]? = some '\n' && (everyLine || position + 1 = text.size))
  | .wordEdge ascii negated =>
    text.size ≠ 0 &&
      ((isWordBefore ascii text position != isWordAt ascii text position) != negated)

def takeChar (text : Array Char) (accepts : Char → Bool) (spot : Spot) (k : Continuation) :
    Option Spot :=
  match text[spot.position]? with
  | some c => if accepts c then k { spot with position := spot.position + 1 } else none
  | none => none

def repeatsAt (rule : CaseRule) (text : Array Char) (start stop position : Nat) : Bool :=
  (List.range (stop - start)).all fun i =>
    match text[start + i]?, text[position + i]? with
    | some c, some d => rule.same c d
    | _, _ => false

section Repetition

/- What is repeated, as a match that goes on with a continuation. -/
variable (once : Spot → Continuation → Option Spot)

def exactly : Nat → Spot → Continuation → Option Spot
  | 0, spot, k => k spot
  | times + 1, spot, k => once spot fun next => exactly times next k

/-- At most so many more times. Once nothing was taken, nothing is tried again; `last` is where the
    time before began. -/
def greedily : Nat → Option Nat → Spot → Continuation → Option Spot
  | 0, _, spot, k => k spot
  | times + 1, last, spot, k =>
    if last = some spot.position then k spot
    else once spot (fun next => greedily times (some spot.position) next k) <|> k spot

def reluctantly : Nat → Option Nat → Spot → Continuation → Option Spot
  | 0, _, spot, k => k spot
  | times + 1, last, spot, k =>
    k spot <|>
      if last = some spot.position then none
      else once spot fun next => reluctantly times (some spot.position) next k

def possessively : Nat → Option Nat → Spot → Spot
  | 0, _, spot => spot
  | times + 1, last, spot =>
    if last = some spot.position then spot
    else
      match once spot some with
      | some next => possessively times (some spot.position) next
      | none => spot

def exactlyFirst : Nat → Spot → Option Spot
  | 0, spot => some spot
  | times + 1, spot => (once spot some).bind (exactlyFirst times)

def repeatedly (style : Style) (least more : Nat) (spot : Spot) (k : Continuation) : Option Spot :=
  match style with
  | .greedy => exactly once least spot fun next => greedily once more none next k
  | .reluctant => exactly once least spot fun next => reluctantly once more none next k
  | .possessive => (exactlyFirst once least spot).bind fun next => k (possessively once more none next)

end Repetition

def Direction.start? (direction : Direction) (position : Nat) : Option Nat :=
  match direction with
  | ahead => some position
  | behind shortest _ => if shortest ≤ position then some (position - shortest) else none

/-- Matches a pattern from a spot on and goes on with the continuation. Each time that is not the
    last takes something, so no more times are tried than there are characters, and one. -/
def run (text : Array Char) : Expr → Spot → Continuation → Option Spot
  | .nothing, spot, k => k spot
  | .anyChar newlines, spot, k => takeChar text (fun c => newlines || c ≠ '\n') spot k
  | .set rule ascii negated members, spot, k =>
    takeChar text (setMatches rule ascii negated members) spot k
  | .place p, spot, k => if placeMatches text spot.position p then k spot else none
  | .seq first second, spot, k => run text first spot fun next => run text second next k
  | .choice first second, spot, k => run text first spot k <|> run text second spot k
  | .repeated style least most e, spot, k =>
    let bound := text.size + 1
    let more := (most.map fun most => min (most - least) bound).getD bound
    repeatedly (run text e) style least more spot k
  | .group index e, spot, k =>
    run text e spot fun next =>
      k { next with groups := Assoc.insert next.groups index (spot.position, next.position) }
  | .reference rule index, spot, k =>
    match Assoc.get? spot.groups index with
    | some (start, stop) =>
      if repeatsAt rule text start stop spot.position then
        k { spot with position := spot.position + (stop - start) }
      else none
    | none => none
  | .look direction negated e, spot, k =>
    let seen := (direction.start? spot.position).bind fun position =>
      run text e { spot with position } some
    match seen, negated with
    | some found, false => k { found with position := spot.position }
    | none, true => k spot
    | _, _ => none
  | .atomic e, spot, k => (run text e spot some).bind k
  | .conditional index yes no, spot, k =>
    if Assoc.has spot.groups index then run text yes spot k else run text no spot k

def found (e : Expr) (text : List Char) : Bool :=
  let text := text.toArray
  (List.range (text.size + 1)).any fun position => (run text e { position } some).isSome

end SourceTally.Pattern
