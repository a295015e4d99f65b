/- Wildcards in one name: `*` for any characters, `?` for one, and sets in brackets. A bracket that
   is not closed is an ordinary character. -/
namespace SourceTally.Wildcard

structure Span where
  low : Char
  high : Char
  deriving DecidableEq, Repr

inductive Token where
  | any
  | one
  | set (negated : Bool) (spans : List Span)
  | char (c : Char)
  deriving DecidableEq, Repr

def Span.contains (s : Span) (c : Char) : Bool := s.low ≤ c && c ≤ s.high

/-- The members of a set, cut at each dash that makes a range: one that is neither first, nor last,
    nor directly after the end of another range. `room` is how many characters have to pass before
    the next such dash. -/
def chunks (room : Nat) (chunk : List Char) : List Char → List (List Char)
  | [] => [chunk]
  | [c] => [chunk ++ [c]]
  | c :: rest =>
    match room with
    | 0 => if c = '-' then chunk :: chunks 2 [] rest else chunks 0 (chunk ++ [c]) rest
    | room + 1 => chunks room (chunk ++ [c]) rest

def dropEmptyRanges : List (List Char) → List (List Char)
  | [] => []
  | chunk :: rest =>
    match dropEmptyRanges rest with
    | [] => [chunk]
    | next :: later =>
      match chunk.getLast?, next.head? with
      | some low, some high =>
        if low > high then (chunk.dropLast ++ next.drop 1) :: later else chunk :: next :: later
      | _, _ => chunk :: next :: later

inductive Mark where
  | char (c : Char)
  | dash
  deriving DecidableEq, Repr

def marks : List (List Char) → List Mark
  | [] => []
  | [chunk] => chunk.map .char
  | chunk :: rest => chunk.map .char ++ .dash :: marks rest

def spans : List Mark → List Span
  | [] => []
  | .char low :: .dash :: .char high :: rest => ⟨low, high⟩ :: spans rest
  | .char c :: rest => ⟨c, c⟩ :: spans rest
  | .dash :: rest => ⟨'-', '-'⟩ :: spans rest

/-- The set that is written between brackets. Its empty ranges go first, and what is left is negated
    when it starts with `!`. -/
def readSet (inner : List Char) : Token :=
  let room := if inner.head? = some '!' then 2 else 1
  match marks (dropEmptyRanges (chunks room [] inner)) with
  | .char '!' :: rest => .set true (spans rest)
  | all => .set false (spans all)

def closeSet? (cs : List Char) : Option (List Char × List Char) :=
  let skipped :=
    match cs with
    | '!' :: ']' :: _ => 2
    | '!' :: _ => 1
    | ']' :: _ => 1
    | _ => 0
  let inner := cs.take skipped ++ (cs.drop skipped).takeWhile (· ≠ ']')
  match cs.drop inner.length with
  | ']' :: rest => some (inner, rest)
  | _ => none

def readTokens : Nat → List Char → List Token
  | 0, _ => []
  | _ + 1, [] => []
  | fuel + 1, c :: rest =>
    if c = '*' then .any :: readTokens fuel rest
    else if c = '?' then .one :: readTokens fuel rest
    else if c = '[' then
      match closeSet? rest with
      | some (inner, rest) => readSet inner :: readTokens fuel rest
      | none => .char c :: readTokens fuel rest
    else .char c :: readTokens fuel rest

def tokens (wildcard : List Char) : List Token := readTokens wildcard.length wildcard

def Token.accepts (t : Token) (c : Char) : Bool :=
  match t with
  | any => false
  | one => true
  | set negated spans => spans.any (·.contains c) != negated
  | char d => c = d

def tokensMatch : List Token → List Char → Bool
  | [], cs => cs.isEmpty
  | .any :: ts, [] => tokensMatch ts []
  | .any :: ts, c :: cs => tokensMatch ts (c :: cs) || tokensMatch (.any :: ts) cs
  | _ :: _, [] => false
  | t :: ts, c :: cs => t.accepts c && tokensMatch ts cs
termination_by ts cs => ts.length + cs.length

def nameMatches (wildcard name : List Char) : Bool := tokensMatch (tokens wildcard) name

end SourceTally.Wildcard
