import Mathlib.Data.List.Basic
import SourceTally.Text.LowerCase

/- Lower-casing ends with characters that it leaves alone. The forms that the runs of the table give
   lie outside of all runs, which is checked run by run, and a sigma once lowered is not looked at
   again; so lower-casing a text twice is lower-casing it once. -/
namespace SourceTally.Text

namespace CaseRun

def firstForm (r : CaseRun) : Nat := (r.first + r.offset).toNat

def lastForm (r : CaseRun) : Nat := (r.last + r.offset).toNat

def isProper (r : CaseRun) : Bool :=
  0 ≤ r.first + r.offset && r.first ≤ r.last &&
    (r.lastForm < 0xd800 || 0xdfff < r.firstForm && r.lastForm < 0x110000)

def avoids (r : CaseRun) (code : Nat) : Bool := code.blt r.firstForm || r.lastForm.blt code

/-- No form of the run lies in the other one: they are apart, or the other one has the places between
    the forms. -/
def misses (r other : CaseRun) : Bool :=
  r.lastForm.blt other.first || other.last.blt r.firstForm ||
    (r.first == r.last || r.step == 2) && other.step == 2 &&
      (r.firstForm + other.first) % 2 == 1

variable {r : CaseRun} {c : Char}

theorem toNat_apply (proper : r.isProper = true) (covered : r.contains c = true) :
    ((r.apply c).toNat : Int) = c.toNat + r.offset := by
  simp only [isProper, Bool.and_eq_true, Bool.or_eq_true, decide_eq_true_eq] at proper
  simp only [contains, Bool.and_eq_true, decide_eq_true_eq] at covered
  unfold firstForm lastForm at proper
  have valid : Nat.isValidChar (c.toNat + r.offset).toNat := by
    unfold Nat.isValidChar
    omega
  have read : (r.apply c).toNat = (c.toNat + r.offset).toNat := by
    rw [apply, Char.ofNat, dif_pos valid]
    rfl
  omega

theorem apply_ne (proper : r.isProper = true) (covered : r.contains c = true) {d : Char}
    (avoided : r.avoids d.toNat = true) : r.apply c ≠ d := by
  intro same
  have form := toNat_apply proper covered
  rw [same] at form
  simp only [contains, Bool.and_eq_true, decide_eq_true_eq] at covered
  simp only [avoids, firstForm, lastForm, Bool.or_eq_true, Nat.blt_eq] at avoided
  omega

theorem apply_outside (proper : r.isProper = true) (covered : r.contains c = true)
    {other : CaseRun} (missed : r.misses other = true) : other.contains (r.apply c) = false := by
  have form := toNat_apply proper covered
  rw [← Bool.not_eq_true]
  intro inside
  simp only [isProper, Bool.and_eq_true, decide_eq_true_eq] at proper
  simp only [contains, Bool.and_eq_true, decide_eq_true_eq, beq_iff_eq] at covered inside
  simp only [misses, firstForm, lastForm, Bool.or_eq_true, Bool.and_eq_true, Nat.blt_eq,
    beq_iff_eq] at missed
  rcases missed with (before | behind) | ⟨⟨single | double, alternate⟩, odd⟩
  · omega
  · omega
  · rw [alternate] at inside
    omega
  · rw [double] at covered
    rw [alternate] at inside
    omega

end CaseRun

theorem caseRuns_checked :
    (caseRuns.all fun r => r.isProper && r.avoids dottedCapitalI.toNat &&
      caseRuns.all fun other => r.misses other) = true := by
  decide +kernel

/-- A character that lower-casing leaves alone, wherever it stands. -/
def IsSmall (c : Char) : Prop :=
  (∀ r ∈ caseRuns, r.contains c = false) ∧ c ≠ dottedCapitalI

instance (c : Char) : Decidable (IsSmall c) := inferInstanceAs (Decidable (_ ∧ _))

theorem lowerOne_cases (c : Char) :
    (∃ r ∈ caseRuns, r.contains c = true ∧ lowerOne c = r.apply c) ∨
      (∀ r ∈ caseRuns, r.contains c = false) ∧ lowerOne c = c := by
  unfold lowerOne
  split
  · rename_i r found
    exact .inl ⟨r, List.mem_of_find?_eq_some found, by simpa using List.find?_some found, rfl⟩
  · rename_i missing
    exact .inr ⟨by simpa using missing, rfl⟩

theorem lowerOne_isSmall {c : Char} (plain : c ≠ dottedCapitalI) : IsSmall (lowerOne c) := by
  rcases lowerOne_cases c with ⟨r, member, covered, form⟩ | ⟨outside, form⟩
  · have checked := List.all_eq_true.mp caseRuns_checked r member
    simp only [Bool.and_eq_true, List.all_eq_true] at checked
    obtain ⟨⟨proper, avoided⟩, missed⟩ := checked
    rw [form]
    exact ⟨fun other listed => CaseRun.apply_outside proper covered (missed other listed),
      CaseRun.apply_ne proper covered avoided⟩
  · rw [form]
    exact ⟨outside, plain⟩

theorem lowerForm_isSmall {c d : Char} (member : d ∈ lowerForm c) : IsSmall d := by
  unfold lowerForm at member
  split at member
  · rcases List.mem_pair.mp member with rfl | rfl
    · decide +kernel
    · decide +kernel
  · rename_i plain
    rw [List.mem_singleton.mp member]
    exact lowerOne_isSmall plain

def formIn (before : List Char) (c : Char) (rest : List Char) : List Char :=
  if c = capitalSigma then [if closesWord before rest then finalSigma else smallSigma]
  else lowerForm c

theorem lowerAfter_cons (before : List Char) (c : Char) (rest : List Char) :
    lowerAfter before (c :: rest) = formIn before c rest ++ lowerAfter (c :: before) rest := rfl

theorem formIn_isSmall {before rest : List Char} {c d : Char}
    (member : d ∈ formIn before c rest) : IsSmall d := by
  unfold formIn at member
  split at member
  · rw [List.mem_singleton.mp member]
    split
    · decide +kernel
    · decide +kernel
  · exact lowerForm_isSmall member

theorem formIn_of_isSmall {c : Char} (small : IsSmall c) (before rest : List Char) :
    formIn before c rest = [c] := by
  have sigma : c ≠ capitalSigma := by
    rintro rfl
    revert small
    decide +kernel
  have kept : lowerOne c = c := by
    rcases lowerOne_cases c with ⟨r, member, covered, _⟩ | ⟨_, same⟩
    · rw [small.1 r member] at covered
      cases covered
    · exact same
  rw [formIn, if_neg sigma, lowerForm, if_neg small.2, kept]

theorem isSmall_of_mem_lower {cs : List Char} {c : Char} (member : c ∈ lower cs) : IsSmall c := by
  unfold lower at member
  generalize [] = before at member
  induction cs generalizing before with
  | nil => cases member
  | cons first rest ih =>
    rw [lowerAfter_cons, List.mem_append] at member
    rcases member with here | later
    · exact formIn_isSmall here
    · exact ih _ later

theorem lower_of_isSmall {cs : List Char} (small : ∀ c ∈ cs, IsSmall c) : lower cs = cs := by
  unfold lower
  generalize [] = before
  induction cs generalizing before with
  | nil => rfl
  | cons first rest ih =>
    rw [List.forall_mem_cons] at small
    rw [lowerAfter_cons, formIn_of_isSmall small.1, ih small.2]
    rfl

theorem eq_of_mem_formIn {before rest : List Char} {c d : Char}
    (avoided : (caseRuns.all fun r => r.avoids d.toNat) = true)
    (special : d ∉ ['i', dotAbove, smallSigma, finalSigma]) (member : d ∈ formIn before c rest) :
    d = c := by
  simp only [List.mem_cons, List.not_mem_nil, or_false, not_or] at special
  obtain ⟨notI, notDot, notSmall, notFinal⟩ := special
  unfold formIn at member
  split at member
  · have same := List.mem_singleton.mp member
    split at same
    · exact absurd same notFinal
    · exact absurd same notSmall
  · unfold lowerForm at member
    split at member
    · rcases List.mem_pair.mp member with same | same
      · exact absurd same notI
      · exact absurd same notDot
    · have same := List.mem_singleton.mp member
      rcases lowerOne_cases c with ⟨r, listed, covered, form⟩ | ⟨_, form⟩
      · have checked := List.all_eq_true.mp caseRuns_checked r listed
        simp only [Bool.and_eq_true] at checked
        have differs := CaseRun.apply_ne checked.1.1 covered
          (List.all_eq_true.mp avoided r listed)
        exact absurd (form.symm.trans same.symm) differs
      · exact same.trans form

theorem mem_of_mem_lower {cs : List Char} {d : Char}
    (avoided : (caseRuns.all fun r => r.avoids d.toNat) = true)
    (special : d ∉ ['i', dotAbove, smallSigma, finalSigma]) (member : d ∈ lower cs) : d ∈ cs := by
  unfold lower at member
  generalize [] = before at member
  induction cs generalizing before with
  | nil => cases member
  | cons first rest ih =>
    rw [lowerAfter_cons, List.mem_append] at member
    rcases member with here | later
    · rw [eq_of_mem_formIn avoided special here]
      exact List.mem_cons_self
    · exact List.mem_cons_of_mem _ (ih _ later)

end SourceTally.Text
