import Mathlib.Tactic.Abel
import SourceTally.Proofs.Scan.LineEnds

/- The text of a block comment is not seen outside of it. Two scans that meet different comments at
   the same place agree on the lines and on what is source. What they count of characters differs by
   what the texts of the comments hold, and nothing that is read later changes this difference. -/
namespace SourceTally.Scan.Comment
open Lexer

/-- Two scans that stand at the same place, of which the first has counted more characters, and may
    have read another part of a line that both have started. -/
structure Alike (more : CharCounts) (s t : State) : Prop where
  lines : s.lines = t.lines
  chars : s.chars = t.chars + more
  mode : s.mode = t.mode
  started : s.length = 0 ↔ t.length = 0
  visible : s.visible = t.visible
  sourced : s.sourced = t.sourced
  previous : s.previous = t.previous

variable {more : CharCounts} {s t : State}

theorem tally_add (n : CharCounts) (kind : CharClass) :
    (n + more).tally kind = n.tally kind + more := by
  cases kind <;> ext <;> simp [CharCounts.tally, CharCounts.add_def, CharCounts.combine] <;> omega

theorem alike_closeLine (alike : Alike more s t) : Alike more (closeLine s) (closeLine t) := by
  have counted : countLine s = countLine t := by
    simp only [countLine, alike.lines, alike.mode, alike.started, alike.visible, alike.sourced]
  exact ⟨by simp only [closeLine, counted], alike.chars, by simp only [closeLine, alike.mode],
    Iff.rfl, rfl, rfl, rfl⟩

theorem alike_readMarker (alike : Alike more s t) (m : Marker) :
    Alike more (readMarker s m) (readMarker t m) := by
  obtain ⟨lines, chars, mode, started, visible, sourced, -⟩ := alike
  have counted : (readMarker s m).chars = (readMarker t m).chars + more := by
    cases m <;> simp only [readMarker, chars, mode]
    · ext <;> simp [CharCounts.add_def, CharCounts.combine] <;> omega
    · split <;> ext <;> simp [CharCounts.add_def, CharCounts.combine] <;> omega
    · ext <;> simp [CharCounts.add_def, CharCounts.combine]
      omega
  cases m with
  | inlineOpen => exact ⟨lines, counted, rfl, started, visible, sourced, rfl⟩
  | blockOpen => exact ⟨lines, counted, rfl, started, visible, sourced, rfl⟩
  | blockClose => exact ⟨lines, counted, rfl, started, visible, sourced, rfl⟩

theorem alike_readText (alike : Alike more s t) (c : Char) (kind : CharClass) :
    Alike more (readText s c kind) (readText t c kind) := by
  obtain ⟨lines, chars, mode, started, visible, sourced, -⟩ := alike
  simp only [readText, mode, chars]
  split
  · refine ⟨lines, ?_, rfl, started, visible, sourced, rfl⟩
    ext <;> simp [CharCounts.add_def, CharCounts.combine]
    omega
  · split
    · refine ⟨lines, ?_, rfl, started, visible, by simp only [sourced], rfl⟩
      ext <;> simp [CharCounts.add_def, CharCounts.combine]
      omega
    · exact ⟨lines, rfl, rfl, started, visible, sourced, rfl⟩

theorem alike_seen (alike : Alike more s t) (kind : CharClass) :
    Alike more
      { s with
        chars := s.chars.tally kind
        length := s.length + 1
        visible := s.visible || kind ≠ .whitespace }
      { t with
        chars := t.chars.tally kind
        length := t.length + 1
        visible := t.visible || kind ≠ .whitespace } := by
  obtain ⟨lines, chars, mode, -, visible, sourced, previous⟩ := alike
  exact ⟨lines, by simp only [chars, tally_add], mode, by simp, by simp only [visible], sourced,
    previous⟩

theorem alike_read (alike : Alike more s t) (c : Char) : Alike more (read s c) (read t c) := by
  have seen := alike_seen alike (CharClass.ofChar c)
  have completes : marker? s.mode s.previous c = marker? t.mode t.previous c := by
    rw [alike.mode, alike.previous]
  simp only [read, completes]
  cases marker? t.mode t.previous c with
  | some m => exact alike_readMarker seen m
  | none => exact alike_readText seen c _

theorem alike_foldl (alike : Alike more s t) (symbols : List Symbol) :
    Alike more (symbols.foldl step s) (symbols.foldl step t) := by
  induction symbols generalizing s t with
  | nil => exact alike
  | cons symbol symbols ih =>
    apply ih
    cases symbol with
    | lineEnd => exact alike_closeLine alike
    | char c => exact alike_read alike c

def withTotal (n : CharCounts) : CharCounts :=
  { n with total := n.whitespace + n.numerical + n.alphabetical + n.special }

theorem withTotal_add (a b : CharCounts) : withTotal (a + b) = withTotal a + withTotal b := by
  ext <;> simp [withTotal, CharCounts.add_def, CharCounts.combine]
  omega

theorem alike_finish (alike : Alike more s t) :
    (finish s).lines = (finish t).lines ∧
      (finish s).characters = (finish t).characters + withTotal more := by
  constructor
  · simp only [finish, alike.lines]
  · calc (finish s).characters
        = withTotal (t.chars + more) := by rw [← alike.chars]; rfl
      _ = (finish t).characters + withTotal more := withTotal_add t.chars more

structure AlikeInside (more : CharCounts) (s t : State) : Prop where
  lines : s.lines = t.lines
  chars : s.chars = t.chars + more
  sourced : s.sourced = t.sourced
  inside : s.mode = .block
  inside' : t.mode = .block

theorem alikeInside_refl (inside : s.mode = .block) : AlikeInside 0 s s :=
  ⟨rfl, (add_zero _).symm, rfl, inside, inside⟩

theorem alikeInside_trans {more' : CharCounts} {u : State} (first : AlikeInside more s t)
    (second : AlikeInside more' t u) : AlikeInside (more + more') s u := by
  refine ⟨first.lines.trans second.lines, ?_, first.sourced.trans second.sourced, first.inside,
    second.inside'⟩
  rw [first.chars, second.chars]
  abel

theorem alikeInside_symm (alike : AlikeInside more s t) : AlikeInside (-more) t s := by
  refine ⟨alike.lines.symm, ?_, alike.sourced.symm, alike.inside', alike.inside⟩
  rw [alike.chars]
  abel

theorem alikeInside_closeLine (alike : AlikeInside more s t) :
    AlikeInside more (closeLine s) (closeLine t) := by
  have counted : countLine s = countLine t := by
    simp only [countLine, alike.inside, alike.inside', alike.lines, alike.sourced]
  refine ⟨by simp only [closeLine, counted], alike.chars, rfl, ?_, ?_⟩
  · rw [closeLine_mode, alike.inside]
    rfl
  · rw [closeLine_mode, alike.inside']
    rfl

theorem alikeInside_closeLines (alike : AlikeInside more s t) (count : Nat) :
    AlikeInside more (closeLine^[count] s) (closeLine^[count] t) := by
  induction count generalizing s t with
  | zero => exact alike
  | succ count ih => exact ih (alikeInside_closeLine alike)

def insideCounts (chars : List Char) : CharCounts :=
  runningCounts chars (chars.map (.single .block))

theorem insideCounts_cons (c : Char) (chars : List Char) :
    insideCounts (c :: chars) = insideCounts [c] + insideCounts chars :=
  runningCounts_append [c] chars [.single .block c] (chars.map (.single .block))

theorem read_inside {c : Char} (inside : s.mode = .block)
    (unclosed : ¬(s.previous = some '*' ∧ c = '/')) :
    AlikeInside (insideCounts [c]) (read s c) s ∧ (read s c).previous = some c := by
  have plain : marker? s.mode s.previous c = none := by simpa [marker?, inside] using unclosed
  rw [read_single plain, inside]
  refine ⟨⟨rfl, rfl, ?_, rfl, inside⟩, rfl⟩
  simp [take]

/-- Reading the text of a comment comes to counting its characters and closing as many lines as it
    ends. The invariant is that the character before makes no closing marker with the next one. -/
theorem foldl_inside {text : List Char} (inside : s.mode = .block)
    (unclosed : ¬['*', '/'] <:+: text)
    (apart : ¬(s.previous = some '*' ∧ text.head? = some '/')) :
    AlikeInside (insideCounts (Text.lines text).flatten)
      ((Symbol.ofChars text).foldl step s) (closeLine^[text.count '\n'] s) := by
  induction text using Text.induction_on_lines generalizing s with
  | nil =>
    rw [Text.lines_nil]
    exact alikeInside_refl inside
  | feed cs ih =>
    have goesOn : (closeLine s).mode = .block := by
      rw [closeLine_mode, inside]
      rfl
    rw [Symbol.ofChars_feed, List.count_cons_self, Function.iterate_succ_apply, Text.lines_feed]
    exact ih goesOn (fun later => unclosed (pair_infix_cons.mpr (.inr later)))
      (by simp [step, closeLine])
  | skip cs before ih =>
    rw [Symbol.ofChars_return before, List.count_cons_of_ne (by decide),
      Text.lines_return cs before]
    exact ih inside (fun later => unclosed (pair_infix_cons.mpr (.inr later))) (by simp [before])
  | char c cs feed kept ih =>
    obtain ⟨alike, previous⟩ := read_inside (c := c) inside (by simpa using apart)
    rw [pair_infix_cons, not_or] at unclosed
    have later := ih alike.inside unclosed.2 (by simpa [previous] using unclosed.1)
    have whole := alikeInside_trans later (alikeInside_closeLines alike (cs.count '\n'))
    obtain ⟨first, rest, shape⟩ := Text.lines_shape cs
    rw [Symbol.ofChars_char feed kept, List.count_cons_of_ne feed, Text.lines_char feed kept]
    rw [add_comm, ← insideCounts_cons] at whole
    simpa [shape, step] using whole

theorem alike_close (alike : AlikeInside more s t) :
    Alike more (read (read s '*') '/') (read (read t '*') '/') := by
  have closes : ∀ u : State, u.mode = .block →
      read (read u '*') '/' = take u (.marker .blockClose) := by
    intro u inside
    exact read_marker rfl (by simp [marker?, inside]) (by rw [inside]; rfl)
  have slash : isVisible '/' = true := by decide
  rw [closes s alike.inside, closes t alike.inside']
  refine ⟨alike.lines, ?_, rfl, by simp [take], by simp [take, slash], ?_, rfl⟩
  · simp only [take, alike.chars]
    abel
  · simpa [take] using alike.sourced

theorem read_previous (s : State) (c : Char) :
    (read s c).previous = none ∨ (read s c).previous = some c := by
  simp only [read]
  cases marker? s.mode s.previous c with
  | some m => cases m <;> exact .inl rfl
  | none =>
    right
    simp only [readText]
    split
    · rfl
    · split <;> rfl

theorem previous_of_scan {cs : List Char} {c : Char}
    (held : ((Symbol.ofChars cs).foldl step s).previous = some c) :
    cs.getLast?.or s.previous = some c := by
  induction cs using Text.induction_on_lines generalizing s with
  | nil => exact held
  | feed cs ih =>
    rw [Symbol.ofChars_feed] at held
    have last := ih held
    cases cs with
    | nil => cases last
    | cons d cs => simpa using last
  | skip cs before ih =>
    rw [Symbol.ofChars_return before] at held
    have last := ih held
    cases cs with
    | nil => cases before
    | cons d cs => simpa using last
  | char d cs feed kept ih =>
    rw [Symbol.ofChars_char feed kept] at held
    have last := ih held
    cases cs with
    | nil =>
      replace last : (read s d).previous = some c := last
      rcases read_previous s d with nothing | same
      · rw [nothing] at last
        cases last
      · rw [same] at last
        exact last
    | cons e cs => simpa using last

def opened (a : List Char) : State :=
  take ((Symbol.ofChars a).foldl step {}) (.marker .blockOpen)

theorem read_open {a : List Char} (outside : modeAfter a ≠ .block)
    (ending : a.getLast? ≠ some '/') :
    read (read ((Symbol.ofChars a).foldl step {}) '/') '*' = opened a := by
  have apart : ((Symbol.ofChars a).foldl step {}).previous ≠ some '/' := by
    intro held
    have last := previous_of_scan held
    rw [Option.or_none] at last
    exact ending last
  rw [modeAfter] at outside
  apply read_marker rfl
  · simp [marker?, apart, outside]
  · simp [marker?, outside]

theorem ofChars_comment (a text b : List Char) :
    Symbol.ofChars (a ++ '/' :: '*' :: (text ++ '*' :: '/' :: b)) =
      Symbol.ofChars a ++ .char '/' :: .char '*' ::
        (Symbol.ofChars text ++ .char '*' :: .char '/' :: Symbol.ofChars b) := by
  rw [Symbol.ofChars_append_of_cut (by simp), Symbol.ofChars_char (by decide) (by simp),
    Symbol.ofChars_char (by decide) (by simp), Symbol.ofChars_append_of_cut (by simp),
    Symbol.ofChars_char (by decide) (by simp), Symbol.ofChars_char (by decide) (by simp)]

theorem foldl_comment {a : List Char} (outside : modeAfter a ≠ .block)
    (ending : a.getLast? ≠ some '/') (text b : List Char) :
    (Symbol.ofChars (a ++ '/' :: '*' :: (text ++ '*' :: '/' :: b))).foldl step {} =
      (Symbol.ofChars b).foldl step
        (read (read ((Symbol.ofChars text).foldl step (opened a)) '*') '/') := by
  rw [ofChars_comment, List.foldl_append, ← read_open outside ending]
  simp only [List.foldl_cons, List.foldl_append, step]

/-- What the text of a comment adds to the counts of characters: each of its characters is one of
    the comment and one of its class, and none is source. -/
def commentCounts (text : List Char) : CharCounts :=
  let chars := (Text.lines text).flatten
  { total := chars.length
    comment := chars.length
    whitespace := countClass chars .whitespace
    numerical := countClass chars .numerical
    alphabetical := countClass chars .alphabetical
    special := countClass chars .special }

theorem withTotal_insideCounts (text : List Char) :
    withTotal (insideCounts (Text.lines text).flatten) = commentCounts text := by
  generalize shape : (Text.lines text).flatten = chars
  have classes := length_eq_classes chars
  have comment :
      ((chars.map (Lexeme.single .block)).map Lexeme.commentSize).sum = chars.length := by
    simp [List.map_map, Function.comp_def]
  ext <;> simp only [withTotal, insideCounts, runningCounts, countChars, commentCounts, shape]
  · omega
  · simp [List.countP_map, Function.comp_def]
  · rw [comment]

theorem withComments_of_comment {a x y : List Char} (outside : modeAfter a ≠ .block)
    (ending : a.getLast? ≠ some '/') (unclosed : ¬['*', '/'] <:+: x)
    (unclosed' : ¬['*', '/'] <:+: y) (feeds : x.count '\n' = y.count '\n') (b : List Char) :
    let first := withComments (a ++ '/' :: '*' :: (x ++ '*' :: '/' :: b))
    let second := withComments (a ++ '/' :: '*' :: (y ++ '*' :: '/' :: b))
    first.lines = second.lines ∧
      first.characters + commentCounts y = second.characters + commentCounts x := by
  have atStart : (opened a).mode = .block := rfl
  have first := foldl_inside atStart unclosed (by simp [opened, take])
  have second := foldl_inside atStart unclosed' (by simp [opened, take])
  rw [feeds] at first
  have both := alikeInside_trans first (alikeInside_symm second)
  have closed := alike_foldl (alike_close both) (Symbol.ofChars b)
  obtain ⟨lines, characters⟩ := alike_finish (alike_closeLine closed)
  simp only [withComments, foldl_comment outside ending]
  refine ⟨lines, ?_⟩
  rw [characters, ← withTotal_insideCounts, ← withTotal_insideCounts, add_assoc, ← withTotal_add,
    neg_add_cancel_right]

end SourceTally.Scan.Comment

namespace SourceTally
open Scan.Comment (modeAfter commentCounts)

/-- The text between the markers of a block comment may be exchanged for any other that does not
    close the comment either and has as many line feeds: the lines and the characters of source are
    counted the same, and the other counts change by what the two texts hold. -/
theorem comment_text_unseen_outside (p : Parser) (family : p.scanner = .cFamily) (a x y b : String)
    (outside : modeAfter a.toList ≠ .block) (ending : a.toList.getLast? ≠ some '/')
    (unclosed : ¬['*', '/'] <:+: x.toList) (unclosed' : ¬['*', '/'] <:+: y.toList)
    (feeds : x.toList.count '\n' = y.toList.count '\n') :
    ∃ m n, p.parse (.str (a ++ "/*" ++ x ++ "*/" ++ b)) = .ok m ∧
      p.parse (.str (a ++ "/*" ++ y ++ "*/" ++ b)) = .ok n ∧
      m.lines = n.lines ∧ m.characters.source = n.characters.source ∧
      m.characters + commentCounts y.toList = n.characters + commentCounts x.toList := by
  have shape : ∀ text : String, (a ++ "/*" ++ text ++ "*/" ++ b).toList =
      a.toList ++ '/' :: '*' :: (text.toList ++ '*' :: '/' :: b.toList) := by
    intro text
    simp [String.toList_append]
  have nonempty : ∀ text : String, a ++ "/*" ++ text ++ "*/" ++ b ≠ "" := by
    intro text empty
    have nothing := shape text
    rw [empty] at nothing
    simp at nothing
  obtain ⟨lines, characters⟩ :=
    Scan.Comment.withComments_of_comment outside ending unclosed unclosed' feeds b.toList
  rw [← shape, ← shape] at lines characters
  refine ⟨_, _, parse_scanned (nonempty x) (by rw [family]; rfl),
    parse_scanned (nonempty y) (by rw [family]; rfl), lines, ?_, characters⟩
  -- The text of a comment has no source.
  have source := congrArg CharCounts.source characters
  simpa [commentCounts, CharCounts.add_def, CharCounts.combine] using source

/-- Letters, markers and slashes that touch the markers, in comments with two line feeds, after a
    `//` comment and before a slash. -/
theorem comment_text_unseen_with_markers :
    let p : Parser := ⟨0, .cFamily, "cfamily", "C-Family", []⟩
    let a := "f1 // g\r"
    let x := "/ x\r\n/* 2 //\n *"
    let y := "\n\n*\r/"
    let b := "/ h\n//"
    p.scanner = .cFamily ∧ modeAfter a.toList = .inline ∧ a.toList.getLast? ≠ some '/' ∧
      ¬['*', '/'] <:+: x.toList ∧ ¬['*', '/'] <:+: y.toList ∧
      x.toList.count '\n' = y.toList.count '\n' ∧
      ∃ m n, p.parse (.str (a ++ "/*" ++ x ++ "*/" ++ b)) = .ok m ∧
        p.parse (.str (a ++ "/*" ++ y ++ "*/" ++ b)) = .ok n ∧
        m.lines = n.lines ∧ m.characters.source = n.characters.source ∧
        m.characters.comment + 3 = n.characters.comment + 12 := by
  intro p a x y b
  have outside : modeAfter a.toList = .inline := by decide
  have ending : a.toList.getLast? ≠ some '/' := by decide
  have unclosed : ¬['*', '/'] <:+: x.toList := by simp [x, Lexer.pair_infix_cons]
  have unclosed' : ¬['*', '/'] <:+: y.toList := by simp [y, Lexer.pair_infix_cons]
  have feeds : x.toList.count '\n' = y.toList.count '\n' := by decide
  obtain ⟨m, n, parsed, parsed', lines, source, characters⟩ :=
    comment_text_unseen_outside p rfl a x y b (by rw [outside]; decide) ending unclosed unclosed'
      feeds
  have first : (commentCounts x.toList).comment = 12 := by decide
  have second : (commentCounts y.toList).comment = 3 := by decide
  have comment := congrArg CharCounts.comment characters
  simp only [CharCounts.add_def, CharCounts.combine, first, second] at comment
  exact ⟨rfl, outside, ending, unclosed, unclosed', feeds, m, n, parsed, parsed', lines, source,
    comment⟩

end SourceTally
