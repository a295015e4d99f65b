import Mathlib.Data.List.DropRight
import SourceTally.Text.Blank

/- Text without white space at its ends. Trimming takes characters away from the ends only, and leaves
   alone what has no white space there. -/
namespace SourceTally.Text

/-- Neither the first character is white space nor the last one. -/
structure IsTrimmed (cs : List Char) : Prop where
  first : ∀ c, cs.head? = some c → isBlank c = false
  last : ∀ c, cs.getLast? = some c → isBlank c = false

theorem isBlank_of_range {c : Char} (low : 0x20 < c.toNat) (high : c.toNat < 0x85) :
    isBlank c = false := by
  simp only [isBlank, blanks, CodeRange.contains, List.any_cons, List.any_nil, Bool.or_false,
    Bool.or_eq_false_iff, Bool.and_eq_false_iff, decide_eq_false_iff_not]
  omega

theorem trimRight_eq (cs : List Char) : trimRight cs = cs.rdropWhile isBlank := rfl

theorem trimLeft_head {cs : List Char} {c : Char} (first : (trimLeft cs).head? = some c) :
    isBlank c = false := by
  have kept : trimLeft cs ≠ [] := by
    intro empty
    rw [empty] at first
    cases first
  rw [List.head?_eq_some_head kept] at first
  cases first
  exact List.head_dropWhile_not isBlank kept

theorem trimRight_last {cs : List Char} {c : Char} (last : (trimRight cs).getLast? = some c) :
    isBlank c = false := by
  have kept : trimRight cs ≠ [] := by
    intro empty
    rw [empty] at last
    cases last
  rw [List.getLast?_eq_some_getLast kept] at last
  cases last
  rw [← Bool.not_eq_true]
  exact List.rdropWhile_last_not isBlank cs kept

theorem trim_isTrimmed (cs : List Char) : IsTrimmed (trim cs) where
  first c first := by
    -- what is taken away at the end leaves the first character in its place
    obtain ⟨ending, whole⟩ : trim cs <+: trimLeft cs := List.rdropWhile_prefix isBlank _
    have start : (trimLeft cs).head? = some c := by
      rw [← whole, List.head?_append, first, Option.some_or]
    exact trimLeft_head start
  last _ last := trimRight_last last

theorem trimRight_of_last {cs : List Char}
    (last : ∀ c, cs.getLast? = some c → isBlank c = false) : trimRight cs = cs := by
  rw [trimRight_eq, List.rdropWhile_eq_self_iff]
  intro kept
  simp [last _ (List.getLast?_eq_some_getLast kept)]

theorem trim_of_isTrimmed {cs : List Char} (trimmed : IsTrimmed cs) : trim cs = cs := by
  have left : trimLeft cs = cs := by
    cases cs with
    | nil => rfl
    | cons c rest => simp [trimLeft, trimmed.first c rfl]
  rw [trim, left, trimRight_of_last trimmed.last]

theorem mem_of_mem_trim {cs : List Char} {c : Char} (member : c ∈ trim cs) : c ∈ cs := by
  have inner : c ∈ trimLeft cs := (List.rdropWhile_prefix isBlank _).subset member
  exact (List.dropWhile_suffix isBlank).subset inner

end SourceTally.Text
