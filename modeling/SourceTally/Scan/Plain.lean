import SourceTally.Scan.Symbol
import SourceTally.Statistics

/- The scan of plain text. A line is empty, white space only, or source; there are no comments. -/
namespace SourceTally.Scan.Plain

structure State where
  lines : LineCounts := {}
  chars : CharCounts := {}
  length : Nat := 0
  visible : Bool := false
  deriving DecidableEq, Repr

def closeLine (s : State) : State where
  lines :=
    if s.length = 0 then { s.lines with empty := s.lines.empty + 1 }
    else if s.visible then { s.lines with source := s.lines.source + 1 }
    else { s.lines with whitespace := s.lines.whitespace + 1 }
  chars := s.chars

def read (s : State) (c : Char) : State :=
  let kind := CharClass.ofChar c
  { s with
    chars := s.chars.tally kind
    length := s.length + 1
    visible := s.visible || kind ≠ .whitespace }

def step (s : State) : Symbol → State
  | .lineEnd => closeLine s
  | .char c => read s c

def finish (s : State) : Statistics :=
  let source := s.chars.numerical + s.chars.alphabetical + s.chars.special
  { lines :=
      { s.lines with
        totalSource := s.lines.source
        total := s.lines.source + s.lines.whitespace + s.lines.empty }
    characters := { s.chars with source := source, total := source + s.chars.whitespace } }

end Plain

def plain (cs : List Char) : Statistics :=
  Plain.finish (Plain.closeLine ((Symbol.ofChars cs).foldl Plain.step {}))

end SourceTally.Scan
