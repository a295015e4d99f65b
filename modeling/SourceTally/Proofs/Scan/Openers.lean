import SourceTally.Proofs.Scan.Plain

/- When comments make a difference. The two scans agree on a text exactly when no comment can open
   in it. The first opener of a text is met in code, so it is taken as a marker and counted as
   comment, which a scan of plain text never does. -/
namespace SourceTally.Lexer
open Scan.Comment (Mode Marker)

/-- No comment can open: `//` and the start of a block comment do not occur. -/
def Unmarked (cs : List Char) : Prop := ¬['/', '/'] <:+: cs ∧ ¬['/', '*'] <:+: cs

theorem pair_infix_cons {x y c : Char} {cs : List Char} :
    [x, y] <:+: c :: cs ↔ (c = x ∧ cs.head? = some y) ∨ [x, y] <:+: cs := by
  rw [List.infix_cons_iff, List.cons_prefix_cons]
  cases cs with
  | nil => simp
  | cons d cs => simp [eq_comm]

theorem unmarked_nil : Unmarked [] := by simp [Unmarked]

theorem unmarked_cons {c : Char} {cs : List Char} :
    Unmarked (c :: cs) ↔
      (c = '/' → cs.head? ≠ some '/' ∧ cs.head? ≠ some '*') ∧ Unmarked cs := by
  simp only [Unmarked, pair_infix_cons]
  grind

theorem lex_unmarked {cs : List Char} (unmarked : Unmarked cs) :
    lex .code cs = cs.map (.single .code) := by
  induction cs with
  | nil => rfl
  | cons c cs ih =>
    obtain ⟨first, rest⟩ := unmarked_cons.mp unmarked
    rw [lex, ih rest, List.map_cons]
    · rintro more - rfl rfl
      simp at first
    · rintro more - rfl rfl
      simp at first
    · simp
    · simp

theorem unmarked_of_no_comment {mode : Mode} {cs : List Char} (inCode : mode = .code)
    (noComment : ((lex mode cs).map Lexeme.commentSize).sum = 0) : Unmarked cs := by
  induction mode, cs using lex.induct with
  | case1 rest ih => simp [lex] at noComment
  | case2 rest ih => simp [lex] at noComment
  | case3 rest ih => contradiction
  | case4 rest ih => contradiction
  | case5 mode c rest noInline noBlock noBlock' noClose ih =>
    subst inCode
    have alone : lex .code (c :: rest) = .single .code c :: lex .code rest := by
      rw [lex] <;> assumption
    have restUnmarked := ih rfl (by simpa [alone] using noComment)
    refine unmarked_cons.mpr ⟨?_, restUnmarked⟩
    intro slash
    cases rest with
    | nil => simp
    | cons d rest =>
      constructor
      · intro second
        exact noInline rest rfl slash (by simpa using second)
      · intro second
        exact noBlock rest rfl slash (by simpa using second)
  | case6 mode => exact unmarked_nil

theorem lexLine_unmarked {text : List Char} (unmarked : Unmarked text) :
    lexLine .code text = plainLine text := by
  have ends : (text.map (Lexeme.single .code)).foldl (fun _ x => x.next) Mode.code = .code := by
    induction text with
    | nil => rfl
    | cons c text ih => exact ih (unmarked_cons.mp unmarked).2
  simp only [lexLine, plainLine, lex_unmarked unmarked, ends]

theorem lexLines_unmarked {texts : List (List Char)} (unmarked : ∀ text ∈ texts, Unmarked text) :
    lexLines .code texts = texts.map plainLine := by
  induction texts with
  | nil => rfl
  | cons text texts ih =>
    have first := lexLine_unmarked (unmarked text (by simp))
    rw [lexLines, first, List.map_cons]
    exact congrArg _ (ih fun later member => unmarked later (by simp [member]))

theorem unmarked_of_no_comment_lines {texts : List (List Char)}
    (noComment : (tally (lexLines .code texts)).characters.comment = 0) :
    ∀ text ∈ texts, Unmarked text := by
  induction texts with
  | nil => simp
  | cons text texts ih =>
    simp only [lexLines, tally, countChars, List.flatMap_cons, List.map_append,
      List.sum_append] at noComment
    have first : Unmarked text := by
      apply unmarked_of_no_comment rfl
      simp only [lexLine] at noComment
      omega
    -- So the line ends in code, and the next one starts there.
    rw [lexLine_unmarked first] at noComment
    have later : ∀ other ∈ texts, Unmarked other := by
      apply ih
      simp only [plainLine, carry] at noComment
      simp only [tally, countChars]
      omega
    intro other member
    rcases List.mem_cons.mp member with same | member
    · rw [same]; exact first
    · exact later other member

end SourceTally.Lexer

namespace SourceTally.Text
open Lexer

theorem head_of_lines {cs first : List Char} {rest : List (List Char)} {y : Char}
    (shape : lines cs = first :: rest) (feed : y ≠ '\n') (isReturn : y ≠ '\r') :
    cs.head? = some y ↔ first.head? = some y := by
  induction cs using induction_on_lines generalizing first rest with
  | nil =>
    rw [lines_nil] at shape
    simp_all
  | feed cs ih =>
    rw [lines_feed] at shape
    obtain ⟨rfl, _⟩ := List.cons.inj shape
    simp [feed.symm]
  | skip cs before ih =>
    rw [lines_return cs before] at shape
    rw [← ih shape, before]
    simp [feed.symm, isReturn.symm]
  | char c cs noFeed kept ih =>
    obtain ⟨first', rest', shape'⟩ := lines_shape cs
    rw [lines_char noFeed kept, shape'] at shape
    obtain ⟨rfl, _⟩ := List.cons.inj shape
    simp

theorem pair_infix_lines {x y : Char} (feedx : x ≠ '\n') (returnx : x ≠ '\r') (feedy : y ≠ '\n')
    (returny : y ≠ '\r') (cs : List Char) :
    [x, y] <:+: cs ↔ ∃ line ∈ lines cs, [x, y] <:+: line := by
  induction cs using induction_on_lines with
  | nil => simp [lines_nil]
  | feed cs ih => simp [lines_feed, pair_infix_cons, feedx.symm, ih]
  | skip cs before ih => simp [lines_return cs before, pair_infix_cons, returnx.symm, ih]
  | char c cs noFeed kept ih =>
    obtain ⟨first, rest, shape⟩ := lines_shape cs
    have heads := head_of_lines shape feedy returny
    rw [pair_infix_cons, ih, lines_char noFeed kept, shape, heads]
    simp [pair_infix_cons, or_assoc]

theorem unmarked_lines (cs : List Char) : Unmarked cs ↔ ∀ line ∈ lines cs, Unmarked line := by
  have slashes : ['/', '/'] <:+: cs ↔ ∃ line ∈ lines cs, ['/', '/'] <:+: line :=
    pair_infix_lines (by decide) (by decide) (by decide) (by decide) cs
  have star : ['/', '*'] <:+: cs ↔ ∃ line ∈ lines cs, ['/', '*'] <:+: line :=
    pair_infix_lines (by decide) (by decide) (by decide) (by decide) cs
  simp only [Unmarked, slashes, star]
  grind

end SourceTally.Text

namespace SourceTally
open Lexer

theorem withComments_eq_plain_iff (cs : List Char) :
    Scan.withComments cs = Scan.plain cs ↔ Unmarked cs := by
  rw [withComments_eq_lexer, plain_eq_tally, Text.unmarked_lines, Lexer.statistics]
  constructor
  · intro same
    apply unmarked_of_no_comment_lines
    rw [same, plainLines_comment]
  · intro unmarked
    rw [lexLines_unmarked unmarked]

/-- The parser for texts with comments and the one for plain text both accept every text that is not
    empty, and they give it the same statistics exactly when no comment can open in it. -/
theorem cFamily_parse_eq_plain_iff (p q : Parser) (family : p.scanner = .cFamily)
    (plain : q.scanner = .plain) (text : String) (nonempty : text ≠ "") :
    ∃ a b, p.parse (.str text) = .ok a ∧ q.parse (.str text) = .ok b ∧
      (a = b ↔ ¬['/', '/'] <:+: text.toList ∧ ¬['/', '*'] <:+: text.toList) := by
  refine ⟨Scan.withComments text.toList, Scan.plain text.toList, ?_, ?_, ?_⟩
  · exact parse_scanned nonempty (by rw [family]; rfl)
  · exact parse_scanned nonempty (by rw [plain]; rfl)
  · exact withComments_eq_plain_iff text.toList

/-- A stray closer and slashes split by line ends make no difference, and an opener in the last line
    does. -/
theorem cFamily_parse_eq_plain_stray_closer :
    let p : Parser := ⟨0, .cFamily, "cfamily", "C-Family", []⟩
    let q : Parser := ⟨1, .plain, "plain", "Plain Text", []⟩
    let text := "a */ /\r\n/ \r/\n* /"
    p.scanner = .cFamily ∧ q.scanner = .plain ∧ text ≠ "" ∧ text ++ "/" ≠ "" ∧
      (∃ a b, p.parse (.str text) = .ok a ∧ q.parse (.str text) = .ok b ∧ a = b) ∧
      ∃ a b, p.parse (.str (text ++ "/")) = .ok a ∧
        q.parse (.str (text ++ "/")) = .ok b ∧ a ≠ b := by
  intro p q text
  have nonempty : text ≠ "" := by decide
  have nonempty' : text ++ "/" ≠ "" := by decide
  obtain ⟨a, b, pa, qb, same⟩ := cFamily_parse_eq_plain_iff p q rfl rfl text nonempty
  obtain ⟨a', b', pa', qb', same'⟩ := cFamily_parse_eq_plain_iff p q rfl rfl _ nonempty'
  refine ⟨rfl, rfl, nonempty, nonempty', ⟨a, b, pa, qb, ?_⟩, ⟨a', b', pa', qb', ?_⟩⟩
  · exact same.mpr (by simp [text, Lexer.pair_infix_cons])
  · intro equal
    simpa [text, Lexer.pair_infix_cons] using same'.mp equal

end SourceTally
