import SourceTally.Scan.Symbol
import SourceTally.Statistics

/- The scan of texts with `//` comments up to the end of the line and block comments. It is one pass
   that looks back one character: a marker is known when its second character arrives, and what was
   counted for the first is then put right. String literals and nested comments are not understood. -/
namespace SourceTally.Scan.Comment

inductive Mode where
  | code
  | inline
  | block
  deriving DecidableEq, Repr

inductive Marker where
  | inlineOpen
  | blockOpen
  | blockClose
  deriving DecidableEq, Repr

/-- The marker that a character completes. Inside of a `//` comment a block comment can start, and
    inside of a block comment only its end counts. -/
def marker? (mode : Mode) (previous : Option Char) (c : Char) : Option Marker :=
  if mode = .code && previous = some '/' && c = '/' then some .inlineOpen
  else if mode ≠ .block && previous = some '/' && c = '*' then some .blockOpen
  else if mode = .block && previous = some '*' && c = '/' then some .blockClose
  else none

structure State where
  lines : LineCounts := {}
  chars : CharCounts := {}
  mode : Mode := .code
  length : Nat := 0
  visible : Bool := false
  /-- The line has a letter or a digit outside of comments. -/
  sourced : Bool := false
  /-- The character before, unless it ended a marker or a line. -/
  previous : Option Char := none
  deriving DecidableEq, Repr

def countLine (s : State) : LineCounts :=
  match s.mode with
  | .inline =>
    if s.sourced then { s.lines with mixed := s.lines.mixed + 1 }
    else { s.lines with inlineComments := s.lines.inlineComments + 1 }
  | .block =>
    if s.sourced then { s.lines with mixed := s.lines.mixed + 1 }
    else { s.lines with blockComments := s.lines.blockComments + 1 }
  | .code =>
    if s.length = 0 then { s.lines with empty := s.lines.empty + 1 }
    else if s.visible then { s.lines with source := s.lines.source + 1 }
    else { s.lines with whitespace := s.lines.whitespace + 1 }

/-- A `//` comment ends with its line, and a block comment goes on. -/
def closeLine (s : State) : State :=
  let lines := countLine s
  { lines := { lines with total := lines.total + 1 }
    chars := s.chars
    mode := if s.mode = .block then .block else .code }

def readMarker (s : State) : Marker → State
  | .inlineOpen =>
    { s with
      chars := { s.chars with source := s.chars.source - 1, comment := s.chars.comment + 2 }
      mode := .inline
      previous := none }
  | .blockOpen =>
    { s with
      chars :=
        if s.mode = .inline then { s.chars with comment := s.chars.comment + 1 }
        else { s.chars with source := s.chars.source - 1, comment := s.chars.comment + 2 }
      mode := .block
      previous := none }
  | .blockClose =>
    { s with
      chars := { s.chars with comment := s.chars.comment + 1 }
      mode := .code
      previous := none }

def readText (s : State) (c : Char) (kind : CharClass) : State :=
  if s.mode ≠ .code then
    { s with chars := { s.chars with comment := s.chars.comment + 1 }, previous := some c }
  else if kind ≠ .whitespace then
    { s with
      chars := { s.chars with source := s.chars.source + 1 }
      sourced := s.sourced || kind.isAlphanumeric
      previous := some c }
  else { s with previous := some c }

def read (s : State) (c : Char) : State :=
  let kind := CharClass.ofChar c
  let seen :=
    { s with
      chars := s.chars.tally kind
      length := s.length + 1
      visible := s.visible || kind ≠ .whitespace }
  match marker? s.mode s.previous c with
  | some marker => readMarker seen marker
  | none => readText seen c kind

def step (s : State) : Symbol → State
  | .lineEnd => closeLine s
  | .char c => read s c

def finish (s : State) : Statistics where
  lines :=
    { s.lines with
      totalSource := s.lines.source + s.lines.mixed
      totalComments := s.lines.inlineComments + s.lines.blockComments + s.lines.mixed }
  characters :=
    { s.chars with
      total :=
        s.chars.whitespace + s.chars.numerical + s.chars.alphabetical + s.chars.special }

end Comment

def withComments (cs : List Char) : Statistics :=
  Comment.finish (Comment.closeLine ((Symbol.ofChars cs).foldl Comment.step {}))

end SourceTally.Scan
