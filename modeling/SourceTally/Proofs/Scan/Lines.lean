import SourceTally.Scan.Symbol

/- The lines of a text. A scan that reads a text symbol by symbol and closes a line at each line end
   goes through the lines one after the other. -/
namespace SourceTally.Text

def dropReturn (piece : List Char) : List Char :=
  if piece.getLast? = some '\r' then piece.dropLast else piece

/-- A text is cut at every line feed. Its last line has none, so it keeps a carriage return. -/
def lines (cs : List Char) : List (List Char) :=
  let pieces := cs.splitOn '\n'
  pieces.dropLast.map dropReturn ++ pieces.getLast?.toList

theorem splitOn_shape (cs : List Char) : ∃ first rest, cs.splitOn '\n' = first :: rest := by
  exact List.exists_cons_of_ne_nil (List.splitOn_ne_nil _ _)

theorem lines_nil : lines [] = [[]] := by decide

theorem lines_feed (cs : List Char) : lines ('\n' :: cs) = [] :: lines cs := by
  obtain ⟨first, rest, shape⟩ := splitOn_shape cs
  simp [lines, List.splitOn_cons_eq_if_modifyHead, shape, dropReturn]

theorem lines_return (cs : List Char) (before : cs.head? = some '\n') :
    lines ('\r' :: cs) = lines cs := by
  cases cs with
  | nil => simp at before
  | cons c cs =>
    obtain rfl : c = '\n' := by simpa using before
    obtain ⟨first, rest, shape⟩ := splitOn_shape cs
    simp [lines, List.splitOn_cons_eq_if_modifyHead, shape, dropReturn]

theorem dropReturn_cons (c : Char) (piece : List Char) (kept : c ≠ '\r' ∨ piece ≠ []) :
    dropReturn (c :: piece) = c :: dropReturn piece := by
  cases piece with
  | nil => simp_all [dropReturn]
  | cons d piece =>
    simp only [dropReturn, List.getLast?_cons_cons, List.dropLast_cons_cons]
    split <;> rfl

theorem starts_with_feed {cs piece : List Char} {rest : List (List Char)}
    (shape : cs.splitOn '\n' = [] :: piece :: rest) : cs.head? = some '\n' := by
  cases cs with
  | nil => simp at shape
  | cons c cs =>
    by_cases feed : c = '\n'
    · simp [feed]
    · obtain ⟨first, more, shape'⟩ := splitOn_shape cs
      simp [List.splitOn_cons_eq_if_modifyHead, feed, shape'] at shape

theorem lines_char {c : Char} {cs : List Char} (feed : c ≠ '\n')
    (kept : ¬(c = '\r' ∧ cs.head? = some '\n')) :
    lines (c :: cs) = (lines cs).modifyHead (c :: ·) := by
  obtain ⟨first, rest, shape⟩ := splitOn_shape cs
  cases rest with
  | nil => simp [lines, List.splitOn_cons_eq_if_modifyHead, feed, shape]
  | cons piece rest =>
    have keeps : c ≠ '\r' ∨ first ≠ [] := by
      cases first with
      | nil =>
        left
        intro isReturn
        exact kept ⟨isReturn, starts_with_feed shape⟩
      | cons d first => exact Or.inr (by simp)
    simp [lines, List.splitOn_cons_eq_if_modifyHead, feed, shape, dropReturn_cons c first keeps]

theorem lines_shape (cs : List Char) : ∃ first rest, lines cs = first :: rest := by
  obtain ⟨first, rest, shape⟩ := splitOn_shape cs
  cases rest with
  | nil => exact ⟨first, [], by simp [lines, shape]⟩
  | cons piece rest => exact ⟨dropReturn first, _, by simp [lines, shape]; rfl⟩

/-- What is true of the empty text, and stays true when a line end or another character is put in
    front, is true of every text. -/
theorem induction_on_lines {motive : List Char → Prop} (nil : motive [])
    (feed : ∀ cs, motive cs → motive ('\n' :: cs))
    (skip : ∀ cs, cs.head? = some '\n' → motive cs → motive ('\r' :: cs))
    (char : ∀ c cs, c ≠ '\n' → ¬(c = '\r' ∧ cs.head? = some '\n') → motive cs → motive (c :: cs))
    (cs : List Char) : motive cs := by
  induction cs with
  | nil => exact nil
  | cons c cs ih =>
    by_cases isFeed : c = '\n'
    · subst c; exact feed cs ih
    · by_cases skipped : c = '\r' ∧ cs.head? = some '\n'
      · obtain ⟨rfl, before⟩ := skipped
        exact skip cs before ih
      · exact char c cs isFeed skipped ih

end SourceTally.Text

namespace SourceTally.Symbol
open Text

theorem ofChars_feed (cs : List Char) : ofChars ('\n' :: cs) = lineEnd :: ofChars cs := by
  simp [ofChars]

theorem ofChars_return {cs : List Char} (before : cs.head? = some '\n') :
    ofChars ('\r' :: cs) = ofChars cs := by
  simp [ofChars, before]

theorem ofChars_char {c : Char} {cs : List Char} (feed : c ≠ '\n')
    (kept : ¬(c = '\r' ∧ cs.head? = some '\n')) : ofChars (c :: cs) = char c :: ofChars cs := by
  simp only [ofChars, feed, ↓reduceIte, Bool.and_eq_true, decide_eq_true_eq, kept]

theorem foldl_ofChars {σ : Type} (step : σ → Symbol → σ) (close : σ → σ) (read : σ → Char → σ)
    (closes : ∀ s, step s lineEnd = close s) (reads : ∀ s c, step s (char c) = read s c)
    (cs : List Char) (s : σ) :
    close ((ofChars cs).foldl step s) =
      (lines cs).foldl (fun s line => close (line.foldl read s)) s := by
  induction cs using induction_on_lines generalizing s with
  | nil => rw [lines_nil]; rfl
  | feed cs ih =>
    rw [ofChars_feed, lines_feed, List.foldl_cons, List.foldl_cons, closes, ih]
    rfl
  | skip cs before ih => rw [ofChars_return before, lines_return cs before, ih]
  | char c cs feed kept ih =>
    obtain ⟨first, rest, shape⟩ := lines_shape cs
    rw [ofChars_char feed kept, lines_char feed kept, List.foldl_cons, reads, ih, shape]
    rfl

end SourceTally.Symbol
