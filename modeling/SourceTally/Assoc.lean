/- Maps as lists of pairs in the order in which their keys came in. Writing to a key that is there
   keeps its place and its first spelling. -/
namespace SourceTally.Assoc

variable {κ υ : Type} [BEq κ]

def get? (entries : List (κ × υ)) (key : κ) : Option υ :=
  (entries.find? (·.1 == key)).map (·.2)

def has (entries : List (κ × υ)) (key : κ) : Bool := entries.any (·.1 == key)

def insert (entries : List (κ × υ)) (key : κ) (value : υ) : List (κ × υ) :=
  match entries with
  | [] => [(key, value)]
  | entry :: rest =>
    if entry.1 == key then (entry.1, value) :: rest else entry :: insert rest key value

def insertAll (entries added : List (κ × υ)) : List (κ × υ) :=
  added.foldl (fun map entry => insert map entry.1 entry.2) entries

def ofList (added : List (κ × υ)) : List (κ × υ) := insertAll [] added

def erase (entries : List (κ × υ)) (key : κ) : List (κ × υ) := entries.eraseP (·.1 == key)

def Distinct (entries : List (κ × υ)) : Prop :=
  entries.Pairwise fun a b => ¬(a.1 == b.1) = true

instance (entries : List (κ × υ)) : Decidable (Distinct entries) :=
  inferInstanceAs (Decidable (entries.Pairwise fun a b => ¬(a.1 == b.1) = true))

theorem insert_cons_found {entry : κ × υ} {rest : List (κ × υ)} {key : κ} {value : υ}
    (found : (entry.1 == key) = true) :
    insert (entry :: rest) key value = (entry.1, value) :: rest := by
  simp [insert, found]

theorem insert_cons_other {entry : κ × υ} {rest : List (κ × υ)} {key : κ} {value : υ}
    (other : ¬(entry.1 == key) = true) :
    insert (entry :: rest) key value = entry :: insert rest key value := by
  simp [insert, other]

theorem forall_insert {P : κ → Prop} {Q : υ → Prop} {entries : List (κ × υ)} {key : κ} {value : υ}
    (each : ∀ entry ∈ entries, P entry.1 ∧ Q entry.2) (new : P key ∧ Q value) :
    ∀ entry ∈ insert entries key value, P entry.1 ∧ Q entry.2 := by
  induction entries with
  | nil => simpa [insert] using new
  | cons first rest ih =>
    obtain ⟨here, later⟩ := List.forall_mem_cons.mp each
    by_cases found : first.1 == key
    · rw [insert_cons_found found]
      exact List.forall_mem_cons.mpr ⟨⟨here.1, new.2⟩, later⟩
    · rw [insert_cons_other found]
      exact List.forall_mem_cons.mpr ⟨here, ih later⟩

theorem has_iff {entries : List (κ × υ)} {key : κ} :
    has entries key = true ↔ ∃ entry ∈ entries, (entry.1 == key) = true := by
  simp [has]

theorem has_insert {entries : List (κ × υ)} {key other : κ} {value : υ}
    (found : has (insert entries key value) other = true) :
    (key == other) = true ∨ has entries other = true := by
  induction entries with
  | nil => exact Or.inl (by simpa [insert, has] using found)
  | cons entry rest ih =>
    by_cases there : entry.1 == key
    · rw [insert_cons_found there] at found
      exact Or.inr (by simpa [has] using found)
    · rw [insert_cons_other there] at found
      simp only [has, List.any_cons, Bool.or_eq_true] at found ih ⊢
      rcases found with first | later
      · exact Or.inr (Or.inl first)
      · rcases ih later with same | there
        · exact Or.inl same
        · exact Or.inr (Or.inr there)

section Equivalence

variable [EquivBEq κ]

theorem distinct_cons {entry : κ × υ} {rest : List (κ × υ)} :
    Distinct (entry :: rest) ↔ ¬has rest entry.1 = true ∧ Distinct rest := by
  have flipped : ∀ other : κ × υ, (entry.1 == other.1) = (other.1 == entry.1) :=
    fun other => BEq.comm
  simp [Distinct, has_iff, flipped]

theorem distinct_insert {entries : List (κ × υ)} (distinct : Distinct entries) (key : κ)
    (value : υ) : Distinct (insert entries key value) := by
  induction entries with
  | nil => simp [insert, Distinct]
  | cons entry rest ih =>
    obtain ⟨fresh, later⟩ := distinct_cons.mp distinct
    by_cases found : entry.1 == key
    · rw [insert_cons_found found]
      exact distinct_cons.mpr ⟨fresh, later⟩
    · rw [insert_cons_other found]
      refine distinct_cons.mpr ⟨fun there => ?_, ih later⟩
      rcases has_insert there with same | earlier
      · exact found (BEq.symm same)
      · exact fresh earlier

end Equivalence

end SourceTally.Assoc
