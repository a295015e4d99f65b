import SourceTally.Proofs.Counts
import SourceTally.Proofs.Scan.Lines
import SourceTally.Scan.Comment

/- A lexer for texts with comments. It looks ahead one character and takes a marker as a whole, so
   it never has to put anything right. Statistics are counts over what it took. -/
namespace SourceTally.Lexer
open Scan.Comment (Mode Marker)

/-- What the lexer takes at once: a marker of two characters, or one character. -/
inductive Lexeme where
  | marker (m : Marker)
  | single (mode : Mode) (c : Char)
  deriving DecidableEq, Repr

namespace Lexeme

@[simp] def chars : Lexeme → List Char
  | marker .inlineOpen => ['/', '/']
  | marker .blockOpen => ['/', '*']
  | marker .blockClose => ['*', '/']
  | single _ c => [c]

@[simp] def next : Lexeme → Mode
  | marker .inlineOpen => .inline
  | marker .blockOpen => .block
  | marker .blockClose => .code
  | single mode _ => mode

@[simp] def commentSize : Lexeme → Nat
  | marker _ => 2
  | single .code _ => 0
  | single _ _ => 1

@[simp] def isSource : Lexeme → Bool
  | single .code c => CharClass.ofChar c ≠ .whitespace
  | _ => false

@[simp] def isWord : Lexeme → Bool
  | single .code c => (CharClass.ofChar c).isAlphanumeric
  | _ => false

end Lexeme

def lex : Mode → List Char → List Lexeme
  | .code, '/' :: '/' :: rest => .marker .inlineOpen :: lex .inline rest
  | .code, '/' :: '*' :: rest => .marker .blockOpen :: lex .block rest
  | .inline, '/' :: '*' :: rest => .marker .blockOpen :: lex .block rest
  | .block, '*' :: '/' :: rest => .marker .blockClose :: lex .code rest
  | mode, c :: rest => .single mode c :: lex mode rest
  | _, [] => []

structure LexedLine where
  text : List Char
  lexemes : List Lexeme
  /-- The mode in which the line ends. -/
  ending : Mode
  deriving DecidableEq, Repr

def lexLine (mode : Mode) (text : List Char) : LexedLine where
  text := text
  lexemes := lex mode text
  ending := (lex mode text).foldl (fun _ lexeme => lexeme.next) mode

def carry : Mode → Mode
  | .block => .block
  | _ => .code

def lexLines (mode : Mode) : List (List Char) → List LexedLine
  | [] => []
  | text :: rest => lexLine mode text :: lexLines (carry (lexLine mode text).ending) rest

inductive LineKind where
  | source
  | inlineComment
  | blockComment
  | mixed
  | whitespace
  | empty
  deriving DecidableEq, Repr

def isVisible (c : Char) : Bool := CharClass.ofChar c ≠ .whitespace

def LexedLine.kind (line : LexedLine) : LineKind :=
  match line.ending with
  | .inline => if line.lexemes.any Lexeme.isWord then .mixed else .inlineComment
  | .block => if line.lexemes.any Lexeme.isWord then .mixed else .blockComment
  | .code =>
    if line.text = [] then .empty
    else if line.text.any isVisible then .source
    else .whitespace

def countKind (lines : List LexedLine) (kind : LineKind) : Nat := lines.countP (·.kind = kind)

def countClass (text : List Char) (kind : CharClass) : Nat :=
  text.countP (CharClass.ofChar · = kind)

def countLines (lines : List LexedLine) : LineCounts where
  total := lines.length
  totalSource := countKind lines .source + countKind lines .mixed
  source := countKind lines .source
  totalComments :=
    countKind lines .inlineComment + countKind lines .blockComment + countKind lines .mixed
  inlineComments := countKind lines .inlineComment
  blockComments := countKind lines .blockComment
  mixed := countKind lines .mixed
  whitespace := countKind lines .whitespace
  empty := countKind lines .empty

def oneMore (n : LineCounts) : LineKind → LineCounts
  | .source => { n with source := n.source + 1 }
  | .inlineComment => { n with inlineComments := n.inlineComments + 1 }
  | .blockComment => { n with blockComments := n.blockComments + 1 }
  | .mixed => { n with mixed := n.mixed + 1 }
  | .whitespace => { n with whitespace := n.whitespace + 1 }
  | .empty => { n with empty := n.empty + 1 }

def countChars (text : List Char) (lexemes : List Lexeme) : CharCounts where
  total := text.length
  source := lexemes.countP Lexeme.isSource
  comment := (lexemes.map Lexeme.commentSize).sum
  whitespace := countClass text .whitespace
  numerical := countClass text .numerical
  alphabetical := countClass text .alphabetical
  special := countClass text .special

def tally (lines : List LexedLine) : Statistics where
  lines := countLines lines
  characters := countChars (lines.flatMap (·.text)) (lines.flatMap (·.lexemes))

/-- The statistics of a text with comments. -/
def statistics (cs : List Char) : Statistics := tally (lexLines .code (Text.lines cs))

theorem lex_chars (mode : Mode) (cs : List Char) : (lex mode cs).flatMap Lexeme.chars = cs := by
  fun_induction lex mode cs <;> simp_all

theorem countLines_append (a b : List LexedLine) :
    countLines (a ++ b) = countLines a + countLines b := by
  ext <;> simp [countLines, countKind, LineCounts.add_def, LineCounts.combine] <;> omega

theorem countChars_append (text text' : List Char) (lexemes lexemes' : List Lexeme) :
    countChars (text ++ text') (lexemes ++ lexemes') =
      countChars text lexemes + countChars text' lexemes' := by
  ext <;> simp [countChars, countClass, CharCounts.add_def, CharCounts.combine]

theorem tally_nil : tally [] = 0 := by decide

theorem tally_cons (line : LexedLine) (rest : List LexedLine) :
    tally (line :: rest) = tally [line] + tally rest := by
  apply Statistics.eq_of_parts
  · exact countLines_append [line] rest
  · simpa [tally] using countChars_append line.text (rest.flatMap (·.text)) line.lexemes _

theorem length_eq_classes (text : List Char) :
    text.length = countClass text .whitespace + countClass text .numerical +
      countClass text .alphabetical + countClass text .special := by
  induction text with
  | nil => rfl
  | cons c text ih =>
    simp only [countClass, List.length_cons, List.countP_cons] at ih ⊢
    cases CharClass.ofChar c <;> simp <;> omega

theorem length_eq_kinds (lines : List LexedLine) :
    lines.length = countKind lines .source + countKind lines .inlineComment +
      countKind lines .blockComment + countKind lines .mixed + countKind lines .whitespace +
      countKind lines .empty := by
  induction lines with
  | nil => rfl
  | cons line lines ih =>
    simp only [countKind, List.length_cons, List.countP_cons] at ih ⊢
    cases line.kind <;> simp <;> omega

theorem tally_sound (lines : List LexedLine) : (tally lines).Sound := by
  constructor
  · simp only [tally, countLines, LineCounts.fields, List.mem_cons, List.not_mem_nil, or_false]
    rintro field (rfl | rfl | rfl | rfl | rfl | rfl | rfl | rfl | rfl) <;> dsimp only <;> omega
  · simp only [tally, countChars, CharCounts.fields, List.mem_cons, List.not_mem_nil, or_false]
    rintro field (rfl | rfl | rfl | rfl | rfl | rfl | rfl) <;> dsimp only <;> omega
  · have kinds := length_eq_kinds lines
    refine ⟨?_, rfl, rfl⟩
    simp only [tally, countLines, LineCounts.categorized]
    omega
  · have classes := length_eq_classes (lines.flatMap (·.text))
    simp only [tally, countChars]
    omega

end SourceTally.Lexer
