import SourceTally.Parser.Extensions
import SourceTally.Proofs.Scan.Lexer

/- The scan with comments looks back, and the lexer looks ahead. Reading the characters of a lexeme
   one by one, with what was counted for the first put right at the second, has the effect of taking
   the lexeme at once; so a whole scan gives the statistics of the lexer. -/
namespace SourceTally.Scan.Comment
open Lexer

def runningCounts (text : List Char) (lexemes : List Lexeme) : CharCounts :=
  { countChars text lexemes with total := 0 }

def take (s : State) (x : Lexeme) : State where
  lines := s.lines
  chars := s.chars + runningCounts x.chars [x]
  mode := x.next
  length := s.length + x.chars.length
  visible := s.visible || x.chars.any isVisible
  sourced := s.sourced || x.isWord

def forget (s : State) : State := { s with previous := none }

/-- The next character does not complete a marker with the one before. -/
def Ready (s : State) (cs : List Char) : Prop :=
  ∀ c rest, cs = c :: rest → marker? s.mode s.previous c = none

theorem ready_without_previous {s : State} (cs : List Char) (nothing : s.previous = none) :
    Ready s cs := by
  intro c rest _
  simp [marker?, nothing]

theorem runningCounts_append (text text' : List Char) (lexemes lexemes' : List Lexeme) :
    runningCounts (text ++ text') (lexemes ++ lexemes') =
      runningCounts text lexemes + runningCounts text' lexemes' := by
  simp only [runningCounts, countChars_append]
  rfl

theorem read_single {s : State} {c : Char} (plain : marker? s.mode s.previous c = none) :
    read s c = { take s (.single s.mode c) with previous := some c } := by
  obtain ⟨lines, chars, mode, length, visible, sourced, previous⟩ := s
  simp only at plain
  simp only [read, plain, readText, take]
  cases mode <;> cases kind : CharClass.ofChar c <;>
    simp [kind, isVisible, CharClass.isAlphanumeric, runningCounts, countChars, countClass,
      CharCounts.tally, CharCounts.add_def, CharCounts.combine]

theorem read_marker {s : State} {m : Marker} {c d : Char}
    (shape : (Lexeme.marker m).chars = [c, d]) (plain : marker? s.mode s.previous c = none)
    (completes : marker? s.mode (some c) d = some m) :
    read (read s c) d = take s (.marker m) := by
  rw [read_single plain]
  obtain ⟨lines, chars, mode, length, visible, sourced, previous⟩ := s
  have slash : CharClass.ofChar '/' = .special := by decide
  have star : CharClass.ofChar '*' = .special := by decide
  -- Which characters a marker has fixes `c` and `d`, and what they complete fixes the mode up to
  -- the opening of a block comment, which happens in code and in a `//` comment.
  cases m <;> simp only [Lexeme.chars, List.cons.injEq, and_true] at shape <;>
    obtain ⟨rfl, rfl⟩ := shape <;> cases mode <;> simp [marker?] at completes <;>
    simp [read, take, marker?, slash, star, readMarker, isVisible, CharClass.isAlphanumeric,
      runningCounts, countChars, countClass, CharCounts.tally, CharCounts.add_def,
      CharCounts.combine] <;> omega

theorem foldl_read_marker {s : State} {m : Marker} {c d : Char} {rest : List Char}
    (shape : (Lexeme.marker m).chars = [c, d]) (ready : Ready s (c :: d :: rest))
    (completes : marker? s.mode (some c) d = some m) :
    (c :: d :: rest).foldl read s = rest.foldl read (take s (.marker m)) := by
  rw [List.foldl_cons, List.foldl_cons, read_marker shape (ready _ _ rfl) completes]

theorem no_marker {mode : Mode} {c d : Char} (noInline : mode = .code → c = '/' → d ≠ '/')
    (noBlock : mode ≠ .block → c = '/' → d ≠ '*') (noClose : mode = .block → c = '*' → d ≠ '/') :
    marker? mode (some c) d = none := by
  simp only [marker?]
  grind

/-- Reading a line has the effect of taking its lexemes. The invariant is that the character before
    was taken alone, and that it makes no marker with the next one. -/
theorem foldl_read {mode : Mode} {cs : List Char} {s : State} (inMode : s.mode = mode)
    (ready : Ready s cs) : forget (cs.foldl read s) = (lex mode cs).foldl take (forget s) := by
  induction mode, cs using lex.induct generalizing s with
  | case1 rest ih =>
    rw [foldl_read_marker (m := .inlineOpen) rfl ready (by rw [inMode]; rfl)]
    exact ih rfl (ready_without_previous rest rfl)
  | case2 rest ih =>
    rw [foldl_read_marker (m := .blockOpen) rfl ready (by rw [inMode]; rfl)]
    exact ih rfl (ready_without_previous rest rfl)
  | case3 rest ih =>
    rw [foldl_read_marker (m := .blockOpen) rfl ready (by rw [inMode]; rfl)]
    exact ih rfl (ready_without_previous rest rfl)
  | case4 rest ih =>
    rw [foldl_read_marker (m := .blockClose) rfl ready (by rw [inMode]; rfl)]
    exact ih rfl (ready_without_previous rest rfl)
  | case5 mode c rest noInline noBlock noBlock' noClose ih =>
    subst mode
    -- Had `c` started a marker, one of the cases above would have taken it.
    have next : Ready { take s (.single s.mode c) with previous := some c } rest := by
      intro d more shape
      apply no_marker
      · exact fun code first second => noInline more code first (second ▸ shape)
      · intro notBlock first second
        cases mode : s.mode with
        | code => exact noBlock more mode first (second ▸ shape)
        | inline => exact noBlock' more mode first (second ▸ shape)
        | block => exact notBlock mode
      · exact fun block first second => noClose more block first (second ▸ shape)
    have later := ih (s := { take s (.single s.mode c) with previous := some c }) rfl next
    rw [List.foldl_cons, read_single (ready _ _ rfl), later, lex, List.foldl_cons]
    · rfl
    all_goals assumption
  | case6 mode => simp [lex]

def takeLine (s : State) (line : LexedLine) : State where
  lines := s.lines
  chars := s.chars + runningCounts line.text line.lexemes
  mode := line.ending
  length := s.length + line.text.length
  visible := s.visible || line.text.any isVisible
  sourced := s.sourced || line.lexemes.any Lexeme.isWord

theorem foldl_take (xs : List Lexeme) (s : State) (nothing : s.previous = none) :
    xs.foldl take s =
      takeLine s ⟨xs.flatMap Lexeme.chars, xs, xs.foldl (fun _ x => x.next) s.mode⟩ := by
  induction xs generalizing s with
  | nil =>
    obtain ⟨lines, chars, mode, length, visible, sourced, previous⟩ := s
    have zero : runningCounts [] [] = 0 := by decide
    simp_all [takeLine]
  | cons x xs ih =>
    have counts := runningCounts_append x.chars (xs.flatMap Lexeme.chars) [x] xs
    rw [List.foldl_cons, ih _ rfl]
    simp only [takeLine, take, List.flatMap_cons, List.foldl_cons, List.length_append,
      List.any_append, List.any_cons, Bool.or_assoc, add_assoc]
    rw [← counts]
    rfl

structure Fresh (s : State) : Prop where
  length : s.length = 0
  visible : s.visible = false
  sourced : s.sourced = false
  previous : s.previous = none

theorem fresh_closeLine (s : State) : Fresh (closeLine s) := ⟨rfl, rfl, rfl, rfl⟩

theorem closeLine_mode (s : State) : (closeLine s).mode = carry s.mode := by
  cases mode : s.mode <;> simp [closeLine, mode, carry]

theorem closeLine_foldl_read {s : State} (fresh : Fresh s) (text : List Char) :
    closeLine (text.foldl read s) = closeLine (takeLine s (lexLine s.mode text)) := by
  have taken := foldl_read rfl (ready_without_previous text fresh.previous)
  rw [foldl_take _ _ rfl, lex_chars] at taken
  calc closeLine (text.foldl read s)
      = closeLine (forget (text.foldl read s)) := rfl
    _ = closeLine (takeLine s (lexLine s.mode text)) := by rw [taken]; rfl

theorem countLine_takeLine {s : State} (fresh : Fresh s) (line : LexedLine) :
    countLine (takeLine s line) = oneMore s.lines line.kind := by
  obtain ⟨text, lexemes, ending⟩ := line
  cases ending with
  | inline =>
    simp only [countLine, takeLine, LexedLine.kind, fresh.sourced, Bool.false_or]
    split <;> rfl
  | block =>
    simp only [countLine, takeLine, LexedLine.kind, fresh.sourced, Bool.false_or]
    split <;> rfl
  | code =>
    simp only [countLine, takeLine, LexedLine.kind, fresh.length, fresh.visible, Bool.false_or,
      Nat.zero_add, List.length_eq_zero_iff]
    split
    · rfl
    · split <;> rfl

theorem finish_lines {s : State} (fresh : Fresh s) (line : LexedLine) :
    (finish (closeLine (takeLine s line))).lines = (finish s).lines + countLines [line] := by
  simp only [finish, closeLine, countLine_takeLine fresh]
  cases kind : line.kind <;> ext <;>
    simp [oneMore, countLines, countKind, kind, LineCounts.add_def, LineCounts.combine] <;> omega

theorem finish_characters (s : State) (line : LexedLine) :
    (finish (closeLine (takeLine s line))).characters =
      (finish s).characters + countChars line.text line.lexemes := by
  have classes := length_eq_classes line.text
  ext <;> simp [finish, closeLine, takeLine, runningCounts, countChars, CharCounts.add_def,
    CharCounts.combine]
  omega

theorem finish_closeLine {s : State} (fresh : Fresh s) (line : LexedLine) :
    finish (closeLine (takeLine s line)) = finish s + tally [line] := by
  apply Statistics.eq_of_parts
  · exact finish_lines fresh line
  · simpa [tally] using finish_characters s line

theorem finish_foldl_lines {s : State} (fresh : Fresh s) (texts : List (List Char)) :
    finish (texts.foldl (fun s text => closeLine (text.foldl read s)) s) =
      finish s + tally (lexLines s.mode texts) := by
  induction texts generalizing s with
  | nil => simp [lexLines, tally_nil]
  | cons text texts ih =>
    rw [List.foldl_cons, closeLine_foldl_read fresh, ih (fresh_closeLine _), finish_closeLine fresh,
      closeLine_mode, lexLines, tally_cons _ (lexLines _ _), add_assoc]
    rfl

/-- A scan that goes on with a text adds what the lexer counts in it. -/
theorem finish_scan {s : State} (fresh : Fresh s) (cs : List Char) :
    finish (closeLine ((Symbol.ofChars cs).foldl step s)) =
      finish s + tally (lexLines s.mode (Text.lines cs)) := by
  have byLines := Symbol.foldl_ofChars step closeLine read (fun _ => rfl) (fun _ _ => rfl) cs s
  rw [byLines, finish_foldl_lines fresh]

end SourceTally.Scan.Comment

namespace SourceTally

theorem withComments_eq_lexer (cs : List Char) : Scan.withComments cs = Lexer.statistics cs := by
  rw [Scan.withComments, Scan.Comment.finish_scan ⟨rfl, rfl, rfl, rfl⟩]
  exact zero_add _

theorem parse_scanned {p : Parser} {text : String} {n : Statistics} (nonempty : text ≠ "")
    (scanned : p.scanner.scan? text.toList = some n) : p.parse (.str text) = .ok n := by
  simp only [Parser.parse, Value.nonemptyText?, nonempty, ↓reduceIte, Parser.parseText, scanned]

/-- A parser for texts with comments gives every text that is not empty the statistics of the
    lexer. -/
theorem cFamily_parse_eq_lexer (p : Parser) (family : p.scanner = .cFamily) (text : String)
    (nonempty : text ≠ "") : p.parse (.str text) = .ok (Lexer.statistics text.toList) := by
  apply parse_scanned nonempty
  rw [family, Scanner.scan?, withComments_eq_lexer]

theorem cFamily_parse_overlapping_markers :
    let p : Parser := ⟨0, .cFamily, "cfamily", "C-Family", []⟩
    let text := "x /*/ *//1//*\r\n/ /y// /*/\r\r\n\n**/ *//\t/*"
    p.scanner = .cFamily ∧ text ≠ "" ∧ p.parse (.str text) = .ok
      { lines :=
          { total := 4, totalSource := 2, totalComments := 4, blockComments := 2, mixed := 2 }
        characters :=
          { total := 34, source := 7, comment := 24, whitespace := 7, numerical := 1,
            alphabetical := 2, special := 24 } } := by
  refine ⟨rfl, by decide, ?_⟩
  exact (cFamily_parse_eq_lexer _ rfl _ (by decide)).trans (congrArg Except.ok (by decide))

end SourceTally
