import Mathlib.Algebra.BigOperators.Group.List.Basic
import Mathlib.Tactic.Abel
import SourceTally.Statistics

/- Counts as commutative groups. Adding and subtracting field by field obeys the usual laws, so a
   contribution that is taken away again leaves nothing behind. What holds of the counts of one text
   and survives addition holds of every sum. -/
namespace SourceTally

attribute [ext] LineCounts CharCounts Statistics

namespace LineCounts

instance : Neg LineCounts := ⟨combine (fun _ n => -n) 0⟩

instance : AddCommGroup LineCounts where
  nsmul := nsmulRec
  zsmul := zsmulRec
  add_assoc a b c := by ext <;> exact Int.add_assoc _ _ _
  zero_add a := by ext <;> exact Int.zero_add _
  add_zero a := by ext <;> exact Int.add_zero _
  add_comm a b := by ext <;> exact Int.add_comm _ _
  neg_add_cancel a := by ext <;> exact Int.add_left_neg _
  sub_eq_add_neg a b := by ext <;> exact Int.sub_eq_add_neg

theorem add_def (a b : LineCounts) : a + b = combine (· + ·) a b := rfl

end LineCounts

namespace CharCounts

instance : Neg CharCounts := ⟨combine (fun _ n => -n) 0⟩

instance : AddCommGroup CharCounts where
  nsmul := nsmulRec
  zsmul := zsmulRec
  add_assoc a b c := by ext <;> exact Int.add_assoc _ _ _
  zero_add a := by ext <;> exact Int.zero_add _
  add_zero a := by ext <;> exact Int.add_zero _
  add_comm a b := by ext <;> exact Int.add_comm _ _
  neg_add_cancel a := by ext <;> exact Int.add_left_neg _
  sub_eq_add_neg a b := by ext <;> exact Int.sub_eq_add_neg

theorem add_def (a b : CharCounts) : a + b = combine (· + ·) a b := rfl

end CharCounts

namespace Statistics

instance : Neg Statistics := ⟨fun n => ⟨-n.lines, -n.characters⟩⟩

@[simp] theorem add_lines (a b : Statistics) : (a + b).lines = a.lines + b.lines := rfl

@[simp] theorem add_characters (a b : Statistics) :
    (a + b).characters = a.characters + b.characters := rfl

theorem eq_of_parts {a b : Statistics} (lines : a.lines = b.lines)
    (characters : a.characters = b.characters) : a = b := by
  cases a; cases b
  simp_all

instance : AddCommGroup Statistics where
  nsmul := nsmulRec
  zsmul := zsmulRec
  add_assoc a b c := eq_of_parts (add_assoc _ _ _) (add_assoc _ _ _)
  zero_add a := eq_of_parts (zero_add _) (zero_add _)
  add_zero a := eq_of_parts (add_zero _) (add_zero _)
  add_comm a b := eq_of_parts (add_comm _ _) (add_comm _ _)
  neg_add_cancel a := eq_of_parts (neg_add_cancel _) (neg_add_cancel _)
  sub_eq_add_neg a b := eq_of_parts (sub_eq_add_neg _ _) (sub_eq_add_neg _ _)

/-- What holds of the statistics of every text: no counter is negative, each line is in one
    category, and each character is in one class. -/
structure Sound (n : Statistics) : Prop where
  lines_nonneg : ∀ field ∈ n.lines.fields, 0 ≤ field.2
  characters_nonneg : ∀ field ∈ n.characters.fields, 0 ≤ field.2
  consistent : n.lines.Consistent
  classed : n.characters.total =
    n.characters.whitespace + n.characters.numerical + n.characters.alphabetical +
      n.characters.special

theorem sound_zero : Sound 0 := by
  constructor <;> decide

theorem sound_add {a b : Statistics} (left : Sound a) (right : Sound b) : Sound (a + b) := by
  obtain ⟨la, ca, consa, classa⟩ := left
  obtain ⟨lb, cb, consb, classb⟩ := right
  constructor
  · simp [LineCounts.fields, LineCounts.add_def, LineCounts.combine] at la lb ⊢
    omega
  · simp [CharCounts.fields, CharCounts.add_def, CharCounts.combine] at ca cb ⊢
    omega
  · simp only [LineCounts.Consistent, LineCounts.categorized, add_lines, LineCounts.add_def,
      LineCounts.combine] at consa consb ⊢
    omega
  · simp only [add_characters, CharCounts.add_def, CharCounts.combine]
    omega

theorem sound_sum {all : List Statistics} (each : ∀ n ∈ all, Sound n) : Sound all.sum := by
  induction all with
  | nil => exact sound_zero
  | cons n rest ih =>
    rw [List.sum_cons]
    exact sound_add (each n (by simp)) (ih fun m member => each m (by simp [member]))

end Statistics

end SourceTally
