import SourceTally.Proofs.Scan.Balance

/- Plain text counted line by line. The text is cut into its lines first, and every counter is then
   the number of lines or of characters with a property of their own, with no state between them. The
   scan in one pass, which knows of a line only its length and whether something visible was in it,
   gives the same counts. -/
namespace SourceTally.ByLine

def isDigit (c : Char) : Bool := '0' ≤ c && c ≤ '9'

def isLetter (c : Char) : Bool := 'A' ≤ c && c ≤ 'Z' || 'a' ≤ c && c ≤ 'z'

def isNumerical (c : Char) : Bool := !Text.isBlank c && isDigit c

def isAlphabetical (c : Char) : Bool := !Text.isBlank c && !isDigit c && isLetter c

def isSpecial (c : Char) : Bool := !Text.isBlank c && !isDigit c && !isLetter c

def hasSource (line : List Char) : Bool := line.any (!Text.isBlank ·)

def isGap (line : List Char) : Bool := !line.isEmpty && line.all Text.isBlank

def countLines (lines : List (List Char)) : LineCounts where
  total := lines.length
  totalSource := lines.countP hasSource
  source := lines.countP hasSource
  totalComments := 0
  inlineComments := 0
  blockComments := 0
  mixed := 0
  whitespace := lines.countP isGap
  empty := lines.countP List.isEmpty

def countChars (chars : List Char) : CharCounts :=
  let source := chars.countP isNumerical + chars.countP isAlphabetical + chars.countP isSpecial
  { total := source + chars.countP Text.isBlank
    source := source
    comment := 0
    whitespace := chars.countP Text.isBlank
    numerical := chars.countP isNumerical
    alphabetical := chars.countP isAlphabetical
    special := chars.countP isSpecial }

/-- The statistics of a plain text, from its lines. -/
def statistics (cs : List Char) : Statistics where
  lines := countLines (Text.lines cs)
  characters := countChars (Text.lines cs).flatten

theorem isDigit_eq (c : Char) : isDigit c = c.isDigit := by
  simp [isDigit, Char.isDigit, Char.le_def]

theorem isLetter_eq (c : Char) : isLetter c = c.isAlpha := by
  delta isLetter Char.isAlpha Char.isUpper Char.isLower
  simp [Char.le_def]

theorem ofChar_eq (c : Char) :
    CharClass.ofChar c =
      if Text.isBlank c then .whitespace
      else if isDigit c then .numerical
      else if isLetter c then .alphabetical
      else .special := by
  rw [isDigit_eq, isLetter_eq]
  rfl

def ofClass : CharClass → Char → Bool
  | .whitespace => Text.isBlank
  | .numerical => isNumerical
  | .alphabetical => isAlphabetical
  | .special => isSpecial

theorem countClass_eq (chars : List Char) (kind : CharClass) :
    Lexer.countClass chars kind = chars.countP (ofClass kind) := by
  apply List.countP_congr
  intro c _
  rw [ofChar_eq]
  cases kind <;> cases blank : Text.isBlank c <;> cases digit : isDigit c <;>
    cases letter : isLetter c <;>
    simp [ofClass, isNumerical, isAlphabetical, isSpecial, blank, digit, letter]

theorem isVisible_eq (c : Char) : Lexer.isVisible c = !Text.isBlank c := by
  rw [Lexer.isVisible, ofChar_eq]
  cases blank : Text.isBlank c
  · cases isDigit c <;> cases isLetter c <;> rfl
  · rfl

theorem plainLine_kind_eq (line : List Char) :
    (Lexer.plainLine line).kind =
      if line = [] then .empty else if hasSource line then .source else .whitespace := by
  have visible : Lexer.isVisible = (!Text.isBlank ·) := funext isVisible_eq
  cases line with
  | nil => rfl
  | cons c cs => simp [Lexer.LexedLine.kind, Lexer.plainLine, visible, hasSource]

def ofKind : Lexer.LineKind → List Char → Bool
  | .source => hasSource
  | .whitespace => isGap
  | .empty => List.isEmpty
  | _ => fun _ => false

theorem countKind_eq (lines : List (List Char)) (kind : Lexer.LineKind) :
    Lexer.countKind (lines.map Lexer.plainLine) kind = lines.countP (ofKind kind) := by
  rw [Lexer.countKind, List.countP_map]
  apply List.countP_congr
  intro line _
  have opposite : hasSource line = !line.all Text.isBlank := by
    simp [hasSource, List.any_eq_not_all_not]
  rw [Function.comp_apply, plainLine_kind_eq]
  cases line with
  | nil => cases kind <;> simp [ofKind, hasSource, isGap]
  | cons c cs =>
    cases all : (c :: cs).all Text.isBlank <;> cases kind <;> simp [ofKind, isGap, opposite, all]

theorem plainLines_lexemes (lines : List (List Char)) :
    (lines.map Lexer.plainLine).flatMap (·.lexemes) = (Lexer.plainLine lines.flatten).lexemes := by
  induction lines with
  | nil => rfl
  | cons line lines ih =>
    rw [List.map_cons, List.flatMap_cons, ih]
    simp [Lexer.plainLine]

theorem tally_plainLines (lines : List (List Char)) :
    Lexer.tally (lines.map Lexer.plainLine) =
      { lines := countLines lines, characters := countChars lines.flatten } := by
  have text : (lines.map Lexer.plainLine).flatMap (·.text) = lines.flatten := by
    rw [List.flatMap_def, Lexer.plainLines_texts]
  have classes := Lexer.length_eq_classes lines.flatten
  have source := Lexer.plainLine_source lines.flatten
  have comment := Lexer.plainLine_comment lines.flatten
  apply Statistics.eq_of_parts
  · simp only [Lexer.tally, Lexer.countLines, countKind_eq, List.length_map, ofKind, countLines]
    simp
  · simp only [Lexer.tally, Lexer.countChars, text, plainLines_lexemes, source, comment, classes,
      countClass_eq, ofClass, countChars]
    ext <;> simp
    omega

end SourceTally.ByLine

namespace SourceTally

/-- A parser for plain text gives every text that is not empty the statistics of its lines, of which
    there is one more than there are line feeds. -/
theorem plain_parse_eq_byLine (p : Parser) (plain : p.scanner = .plain) (text : String)
    (nonempty : text ≠ "") :
    (Text.lines text.toList).length = text.toList.count '\n' + 1 ∧
      p.parse (.str text) = .ok (ByLine.statistics text.toList) := by
  refine ⟨Text.length_lines text.toList, parse_scanned nonempty ?_⟩
  rw [plain, Scanner.scan?, plain_eq_tally, ByLine.tally_plainLines]
  rfl

/-- Carriage returns before a line feed, before another one, in a line of their own and at the end
    of the text, white space outside of ASCII, and a line feed at the start. -/
theorem plain_parse_lone_returns :
    let p : Parser := ⟨0, .plain, "plain", "Plain Text", []⟩
    let text := "\n\r\r\na1\r\n\u2003\r\n\r\n/*é\rZ\r"
    p.scanner = .plain ∧ text ≠ "" ∧
      Text.lines text.toList =
        ["".toList, "\r".toList, "a1".toList, "\u2003".toList, "".toList, "/*é\rZ\r".toList] ∧
      p.parse (.str text) = .ok
        { lines := { total := 6, totalSource := 2, source := 2, whitespace := 2, empty := 2 }
          characters :=
            { total := 10, source := 6, whitespace := 4, numerical := 1, alphabetical := 2,
              special := 3 } } := by
  intro p text
  have nonempty : text ≠ "" := by decide
  refine ⟨rfl, nonempty, by decide, ?_⟩
  exact (plain_parse_eq_byLine p rfl text nonempty).2.trans (congrArg Except.ok (by decide))

end SourceTally
