import SourceTally.Parser.Basic
import SourceTally.Proofs.Scan.LookBack

/- The scan of plain text counts what a lexer without markers would take. So whatever a scanner
   gives is a tally of lexed lines, and it is sound. -/
namespace SourceTally.Lexer

/-- A line of plain text: every character stands alone, in code. -/
def plainLine (text : List Char) : LexedLine where
  text := text
  lexemes := text.map (.single .code)
  ending := .code

@[simp] theorem plainLine_text (text : List Char) : (plainLine text).text = text := rfl

theorem plainLine_source (text : List Char) :
    (plainLine text).lexemes.countP Lexeme.isSource =
      countClass text .numerical + countClass text .alphabetical + countClass text .special := by
  induction text with
  | nil => rfl
  | cons c text ih =>
    simp only [plainLine, countClass, List.countP_map, List.countP_cons] at ih ⊢
    cases kind : CharClass.ofChar c <;> simp [kind] <;> omega

theorem plainLine_comment (text : List Char) :
    ((plainLine text).lexemes.map Lexeme.commentSize).sum = 0 := by
  induction text with
  | nil => rfl
  | cons c text ih => simpa [plainLine] using ih

theorem plainLines_comment (texts : List (List Char)) :
    (tally (texts.map plainLine)).characters.comment = 0 := by
  induction texts with
  | nil => rfl
  | cons text texts ih =>
    have first := plainLine_comment text
    simp only [tally, countChars, List.map_cons, List.flatMap_cons, List.map_append,
      List.sum_append] at ih ⊢
    omega

end SourceTally.Lexer

namespace SourceTally.Scan.Plain
open Lexer

def readLine (s : State) (text : List Char) : State where
  lines := s.lines
  chars :=
    { s.chars with
      whitespace := s.chars.whitespace + countClass text .whitespace
      numerical := s.chars.numerical + countClass text .numerical
      alphabetical := s.chars.alphabetical + countClass text .alphabetical
      special := s.chars.special + countClass text .special }
  length := s.length + text.length
  visible := s.visible || text.any isVisible

theorem foldl_read (text : List Char) (s : State) : text.foldl read s = readLine s text := by
  induction text generalizing s with
  | nil => simp [readLine, countClass]
  | cons c text ih =>
    rw [List.foldl_cons, ih]
    simp only [readLine, read, countClass, List.countP_cons, List.length_cons, List.any_cons,
      isVisible]
    cases kind : CharClass.ofChar c <;> simp [CharCounts.tally] <;> omega

structure Fresh (s : State) : Prop where
  length : s.length = 0
  visible : s.visible = false

theorem closeLine_lines {s : State} (fresh : Fresh s) (text : List Char) :
    (closeLine (readLine s text)).lines = oneMore s.lines (plainLine text).kind := by
  simp only [closeLine, readLine, plainLine, LexedLine.kind, fresh.length, fresh.visible,
    Nat.zero_add, Bool.false_or, List.length_eq_zero_iff]
  by_cases empty : text = []
  · simp only [empty, ↓reduceIte, oneMore]
  · by_cases visible : text.any isVisible <;> simp only [empty, visible, ↓reduceIte, oneMore]
    simp

theorem plainLine_kind (text : List Char) :
    (plainLine text).kind = .empty ∨ (plainLine text).kind = .source ∨
      (plainLine text).kind = .whitespace := by
  simp only [LexedLine.kind, plainLine]
  by_cases empty : text = []
  · simp [empty]
  · by_cases visible : text.any isVisible <;> simp [empty, visible]

theorem finish_lines {s : State} (fresh : Fresh s) (text : List Char) :
    (finish (closeLine (readLine s text))).lines =
      (finish s).lines + countLines [plainLine text] := by
  simp only [finish, closeLine_lines fresh]
  rcases plainLine_kind text with kind | kind | kind <;> ext <;>
    simp [oneMore, countLines, countKind, kind, LineCounts.add_def, LineCounts.combine] <;> omega

theorem finish_characters (s : State) (text : List Char) :
    (finish (closeLine (readLine s text))).characters =
      (finish s).characters + countChars (plainLine text).text (plainLine text).lexemes := by
  have classes := length_eq_classes text
  have source := plainLine_source text
  have comment := plainLine_comment text
  ext <;> simp only [finish, closeLine, readLine, countChars, CharCounts.add_def,
    CharCounts.combine, plainLine_text] <;> omega

theorem finish_closeLine {s : State} (fresh : Fresh s) (text : List Char) :
    finish (closeLine (readLine s text)) = finish s + tally [plainLine text] := by
  apply Statistics.eq_of_parts
  · exact finish_lines fresh text
  · simpa [tally] using finish_characters s text

theorem finish_foldl_lines {s : State} (fresh : Fresh s) (texts : List (List Char)) :
    finish (texts.foldl (fun s text => closeLine (text.foldl read s)) s) =
      finish s + tally (texts.map plainLine) := by
  induction texts generalizing s with
  | nil => simp [tally_nil]
  | cons text texts ih =>
    rw [List.foldl_cons, foldl_read, ih ⟨rfl, rfl⟩, finish_closeLine fresh, List.map_cons,
      tally_cons _ (texts.map plainLine), add_assoc]

theorem finish_scan {s : State} (fresh : Fresh s) (cs : List Char) :
    finish (closeLine ((Symbol.ofChars cs).foldl step s)) =
      finish s + tally ((Text.lines cs).map plainLine) := by
  have byLines := Symbol.foldl_ofChars step closeLine read (fun _ => rfl) (fun _ _ => rfl) cs s
  rw [byLines, finish_foldl_lines fresh]

end SourceTally.Scan.Plain

namespace SourceTally

theorem plain_eq_tally (cs : List Char) :
    Scan.plain cs = Lexer.tally ((Text.lines cs).map Lexer.plainLine) := by
  rw [Scan.plain, Scan.Plain.finish_scan ⟨rfl, rfl⟩]
  exact zero_add _

theorem scan?_sound {scanner : Scanner} {cs : List Char} {n : Statistics}
    (scanned : scanner.scan? cs = some n) : n.Sound := by
  cases scanner with
  | plain =>
    obtain rfl : Scan.plain cs = n := by simpa [Scanner.scan?] using scanned
    rw [plain_eq_tally]
    exact Lexer.tally_sound _
  | cFamily =>
    obtain rfl : Scan.withComments cs = n := by simpa [Scanner.scan?] using scanned
    rw [withComments_eq_lexer]
    exact Lexer.tally_sound _
  | failing => simp [Scanner.scan?] at scanned

end SourceTally
