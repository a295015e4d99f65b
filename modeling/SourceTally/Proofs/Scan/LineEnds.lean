import SourceTally.Proofs.Scan.Openers

/- What a line end does to a scan. Of the lines before it a scan keeps their counts and whether a
   block comment is open, and nothing else; so the counts of texts that are joined by a line end add
   up. Whether a carriage return stands before the line feed makes no difference. -/
namespace SourceTally.Symbol

theorem getLast?_of_cons {c x : Char} {cs : List Char} (ending : cs.getLast? = some x) :
    (c :: cs).getLast? = some x := by
  cases cs with
  | nil => simp at ending
  | cons d cs => simpa using ending

/-- A text may be cut anywhere but inside of a line end. -/
theorem ofChars_append_of_cut {a rest : List Char}
    (cut : ¬(a.getLast? = some '\r' ∧ rest.head? = some '\n')) :
    ofChars (a ++ rest) = ofChars a ++ ofChars rest := by
  have later : ∀ c cs, ¬((c :: cs).getLast? = some '\r' ∧ rest.head? = some '\n') →
      ¬(cs.getLast? = some '\r' ∧ rest.head? = some '\n') :=
    fun c cs cut inside => cut ⟨getLast?_of_cons inside.1, inside.2⟩
  induction a using Text.induction_on_lines with
  | nil => rfl
  | feed cs ih =>
    rw [List.cons_append, ofChars_feed, ofChars_feed, ih (later _ cs cut), List.cons_append]
  | skip cs before ih =>
    have before' : (cs ++ rest).head? = some '\n' := by simp [before]
    rw [List.cons_append, ofChars_return before', ofChars_return before, ih (later _ cs cut)]
  | char c cs feed kept ih =>
    -- Only a carriage return at the end of `a` could become part of a line end.
    have kept' : ¬(c = '\r' ∧ (cs ++ rest).head? = some '\n') := by
      rintro ⟨rfl, before⟩
      cases cs with
      | nil => exact cut ⟨rfl, by simpa using before⟩
      | cons d cs => exact kept ⟨rfl, by simpa using before⟩
    rw [List.cons_append, ofChars_char feed kept', ofChars_char feed kept, ih (later c cs cut),
      List.cons_append]

theorem ofChars_append {a : List Char} (ending : a.getLast? ≠ some '\r') (rest : List Char) :
    ofChars (a ++ rest) = ofChars a ++ ofChars rest :=
  ofChars_append_of_cut fun inside => ending inside.1

end SourceTally.Symbol

namespace SourceTally.Scan
open Lexer

theorem plain_feed {a : List Char} (ending : a.getLast? ≠ some '\r') (b : List Char) :
    plain (a ++ '\n' :: b) = plain a + plain b := by
  rw [plain, Symbol.ofChars_append ending, Symbol.ofChars_feed, List.foldl_append,
    List.foldl_cons, plain_eq_tally b]
  exact Plain.finish_scan ⟨rfl, rfl⟩ b

namespace Comment

def modeAfter (cs : List Char) : Mode := ((Symbol.ofChars cs).foldl step {}).mode

theorem withComments_feed {a : List Char} (ending : a.getLast? ≠ some '\r') (b : List Char) :
    withComments (a ++ '\n' :: b) =
      withComments a + tally (lexLines (carry (modeAfter a)) (Text.lines b)) := by
  have later := finish_scan (fresh_closeLine ((Symbol.ofChars a).foldl step {})) b
  rw [closeLine_mode] at later
  rw [withComments, Symbol.ofChars_append ending, Symbol.ofChars_feed, List.foldl_append,
    List.foldl_cons]
  exact later

theorem withComments_feed_code {a : List Char} (ending : a.getLast? ≠ some '\r')
    (outside : modeAfter a ≠ .block) (b : List Char) :
    withComments (a ++ '\n' :: b) = withComments a + withComments b := by
  have closed : carry (modeAfter a) = .code := by
    cases mode : modeAfter a with
    | code => rfl
    | inline => rfl
    | block => exact absurd mode outside
  rw [withComments_feed ending, closed, withComments_eq_lexer b]
  rfl

theorem withComments_feed_block {a : List Char} (ending : a.getLast? ≠ some '\r')
    (inside : modeAfter a = .block) (b : List Char) :
    withComments (a ++ '\n' :: b) + withComments ['/', '*'] =
      withComments a + withComments ('/' :: '*' :: '\n' :: b) := by
  have opener : modeAfter ['/', '*'] = .block := by decide
  have alone : withComments ('/' :: '*' :: '\n' :: b) = _ :=
    withComments_feed (a := ['/', '*']) (by decide) b
  rw [withComments_feed ending, alone, opener, inside]
  abel

end Comment

end SourceTally.Scan

namespace SourceTally.Text
open Lexer (pair_infix_cons)

/-- Puts a carriage return before the line feeds at the chosen places. -/
def withReturns (chosen : Nat → Bool) (cs : List Char) : List Char :=
  (cs.mapIdx fun place c => if c = '\n' && chosen place then ['\r', '\n'] else [c]).flatten

theorem withReturns_cons (chosen : Nat → Bool) (c : Char) (cs : List Char) :
    withReturns chosen (c :: cs) =
      (if c = '\n' && chosen 0 then ['\r', '\n'] else [c]) ++
        withReturns (fun place => chosen (place + 1)) cs := by
  rw [withReturns, List.mapIdx_cons, List.flatten_cons]
  rfl

theorem head_of_withReturns {chosen : Nat → Bool} {cs : List Char}
    (feed : (withReturns chosen cs).head? = some '\n') : cs.head? = some '\n' := by
  cases cs with
  | nil => simp [withReturns] at feed
  | cons c cs =>
    rw [withReturns_cons] at feed
    split at feed
    · simp at feed
    · simpa using feed

theorem withReturns_eq_nil {chosen : Nat → Bool} {cs : List Char}
    (empty : withReturns chosen cs = []) : cs = [] := by
  cases cs with
  | nil => rfl
  | cons c cs =>
    rw [withReturns_cons] at empty
    split at empty <;> simp at empty

theorem ofChars_withReturns (chosen : Nat → Bool) {cs : List Char}
    (single : ¬['\r', '\n'] <:+: cs) :
    Symbol.ofChars (withReturns chosen cs) = Symbol.ofChars cs := by
  induction cs generalizing chosen with
  | nil => rfl
  | cons c cs ih =>
    rw [pair_infix_cons, not_or] at single
    obtain ⟨here, later⟩ := single
    rw [withReturns_cons]
    by_cases feed : c = '\n'
    · subst c
      rw [Symbol.ofChars_feed, ← ih (fun place => chosen (place + 1)) later]
      split
      · exact (Symbol.ofChars_return rfl).trans (Symbol.ofChars_feed _)
      · exact Symbol.ofChars_feed _
    · -- A carriage return of the text itself stays before a character that is no line feed.
      have kept : ¬(c = '\r' ∧
          (withReturns (fun place => chosen (place + 1)) cs).head? = some '\n') := by
        rintro ⟨isReturn, before⟩
        exact here ⟨isReturn, head_of_withReturns before⟩
      rw [if_neg (by simp [feed]), Symbol.ofChars_char feed here, ← ih _ later]
      exact Symbol.ofChars_char feed kept

end SourceTally.Text

namespace SourceTally
open Scan.Comment (modeAfter)

/-- The counts of two texts that are joined by a line feed are the counts of the first and of the
    second, added field by field. With comments the second is counted on its own when the first
    leaves no block comment open, and as after an opener when it does. -/
theorem scans_add_over_line_feed (a b : List Char) (ending : a.getLast? ≠ some '\r') :
    Scan.plain (a ++ '\n' :: b) = Scan.plain a + Scan.plain b ∧
    (modeAfter a ≠ .block →
      Scan.withComments (a ++ '\n' :: b) = Scan.withComments a + Scan.withComments b) ∧
    (modeAfter a = .block →
      Scan.withComments (a ++ '\n' :: b) + Scan.withComments "/*".toList =
        Scan.withComments a + Scan.withComments ("/*\n".toList ++ b)) := by
  refine ⟨Scan.plain_feed ending b, ?_, ?_⟩
  · intro outside
    exact Scan.Comment.withComments_feed_code ending outside b
  · intro inside
    exact Scan.Comment.withComments_feed_block ending inside b

theorem scans_add_over_open_comment :
    let inline := "x /* \r\n */ // y".toList
    let block := inline ++ " /*/".toList
    let b := "*/ z /".toList
    modeAfter inline = .inline ∧ modeAfter block = .block ∧
      Scan.withComments (inline ++ '\n' :: b) = Scan.withComments inline + Scan.withComments b ∧
      Scan.withComments (block ++ '\n' :: b) + Scan.withComments "/*".toList =
        Scan.withComments block + Scan.withComments ("/*\n".toList ++ b) ∧
      Scan.withComments (block ++ '\n' :: b) ≠ Scan.withComments block + Scan.withComments b := by
  intro inline block b
  have first : modeAfter inline = .inline := by decide
  have second : modeAfter block = .block := by decide
  have joined := scans_add_over_line_feed inline b (by decide)
  have joined' := scans_add_over_line_feed block b (by decide)
  exact ⟨first, second, joined.2.1 (by rw [first]; decide), joined'.2.2 second, by decide⟩

theorem scan?_congr {first second : List Char}
    (same : Symbol.ofChars first = Symbol.ofChars second) (scanner : Scanner) :
    scanner.scan? first = scanner.scan? second := by
  cases scanner with
  | plain => simp only [Scanner.scan?, Scan.plain, same]
  | cFamily => simp only [Scanner.scan?, Scan.withComments, same]
  | failing => rfl

/-- A text without carriage returns before its line feeds may get one before any of them, and a
    single line end may be written either way unless a carriage return stands before it: the counts
    stay the same, with comments and without. -/
theorem scans_ignore_line_end_style :
    (∀ (p : Parser) (text : String) (chosen : Nat → Bool),
      p.scanner = .plain ∨ p.scanner = .cFamily → ¬['\r', '\n'] <:+: text.toList →
      let rewritten := String.ofList (Text.withReturns chosen text.toList)
      ∃ n, p.scanner.scan? text.toList = some n ∧ p.scanner.scan? rewritten.toList = some n ∧
        (text ≠ "" → p.parse (.str text) = .ok n ∧ p.parse (.str rewritten) = .ok n)) ∧
    ∀ a b : List Char, a.getLast? ≠ some '\r' →
      Scan.plain (a ++ '\r' :: '\n' :: b) = Scan.plain (a ++ '\n' :: b) ∧
      Scan.withComments (a ++ '\r' :: '\n' :: b) = Scan.withComments (a ++ '\n' :: b) := by
  constructor
  · intro p text chosen counts single rewritten
    have symbols : Symbol.ofChars rewritten.toList = Symbol.ofChars text.toList := by
      rw [String.toList_ofList, Text.ofChars_withReturns chosen single]
    obtain ⟨n, scanned⟩ : ∃ n, p.scanner.scan? text.toList = some n := by
      rcases counts with plain | family
      · exact ⟨_, by rw [plain]; rfl⟩
      · exact ⟨_, by rw [family]; rfl⟩
    have scanned' : p.scanner.scan? rewritten.toList = some n := by
      rw [scan?_congr symbols, scanned]
    refine ⟨n, scanned, scanned', fun nonempty => ?_⟩
    have nonempty' : rewritten ≠ "" := by
      intro empty
      have nothing := Text.withReturns_eq_nil (String.ofList_eq_empty_iff.mp empty)
      exact nonempty (String.toList_eq_nil_iff.mp nothing)
    exact ⟨parse_scanned nonempty scanned, parse_scanned nonempty' scanned'⟩
  · intro a b ending
    have symbols : Symbol.ofChars (a ++ '\r' :: '\n' :: b) = Symbol.ofChars (a ++ '\n' :: b) := by
      rw [Symbol.ofChars_append ending, Symbol.ofChars_append ending, Symbol.ofChars_return rfl]
    exact ⟨by rw [Scan.plain, symbols, Scan.plain],
      by rw [Scan.withComments, symbols, Scan.withComments]⟩

/-- Carriage returns that stand alone or beside markers, and the first and the last of three line
    feeds rewritten. -/
theorem scans_ignore_mixed_line_ends :
    let p : Parser := ⟨0, .cFamily, "cfamily", "C-Family", []⟩
    let text := "/* \r/\n*//\n\r /\n/"
    let chosen : Nat → Bool := fun place => place ≠ 9
    p.scanner = .cFamily ∧ ¬['\r', '\n'] <:+: text.toList ∧
      String.ofList (Text.withReturns chosen text.toList) = "/* \r/\r\n*//\n\r /\r\n/" ∧
      (∃ n, p.parse (.str text) = .ok n ∧ p.parse (.str "/* \r/\r\n*//\n\r /\r\n/") = .ok n) ∧
      Scan.withComments ("/*".toList ++ '\r' :: '\n' :: "\r*/".toList) =
        Scan.withComments ("/*".toList ++ '\n' :: "\r*/".toList) := by
  intro p text chosen
  have single : ¬['\r', '\n'] <:+: text.toList := by simp [text, Lexer.pair_infix_cons]
  have shape : String.ofList (Text.withReturns chosen text.toList) =
      "/* \r/\r\n*//\n\r /\r\n/" := by decide
  obtain ⟨n, _, _, parsed⟩ := scans_ignore_line_end_style.1 p text chosen (.inr rfl) single
  rw [shape] at parsed
  have joined := scans_ignore_line_end_style.2 "/*".toList "\r*/".toList (by decide)
  exact ⟨rfl, single, shape, ⟨n, parsed (by decide)⟩, joined.2⟩

end SourceTally
