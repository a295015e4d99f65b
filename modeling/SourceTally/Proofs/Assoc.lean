import Mathlib.Algebra.BigOperators.Group.List.Basic
import Mathlib.Tactic.Abel
import Mathlib.Tactic.Tauto
import SourceTally.Assoc

/- Writing to a map of pairs, seen through its values, its keys and what is found under a key. A map
   that is written pair by pair holds each key once, at the place of its first pair and with the
   value of its last. -/
namespace SourceTally.Assoc

variable {κ υ : Type}

def values (entries : List (κ × υ)) : List υ := entries.map (·.2)

@[simp] theorem values_nil : values ([] : List (κ × υ)) = [] := rfl

@[simp] theorem values_cons (entry : κ × υ) (rest : List (κ × υ)) :
    values (entry :: rest) = entry.2 :: values rest := rfl

def keys (entries : List (κ × υ)) : List κ := entries.map (·.1)

@[simp] theorem keys_cons (entry : κ × υ) (rest : List (κ × υ)) :
    keys (entry :: rest) = entry.1 :: keys rest := rfl

variable [BEq κ]

theorem get?_cons_found {entry : κ × υ} {rest : List (κ × υ)} {key : κ}
    (found : (entry.1 == key) = true) : get? (entry :: rest) key = some entry.2 := by
  simp [get?, found]

theorem get?_cons_other {entry : κ × υ} {rest : List (κ × υ)} {key : κ}
    (other : ¬(entry.1 == key) = true) : get? (entry :: rest) key = get? rest key := by
  simp [get?, other]

theorem mem_values_insert {entries : List (κ × υ)} {key : κ} {value v : υ}
    (member : v ∈ values (insert entries key value)) : v = value ∨ v ∈ values entries := by
  induction entries with
  | nil => simpa [insert] using member
  | cons entry rest ih =>
    by_cases found : entry.1 == key
    · rw [insert_cons_found found] at member
      simp only [values_cons, List.mem_cons] at member ⊢
      tauto
    · rw [insert_cons_other found] at member
      simp only [values_cons, List.mem_cons] at member ⊢
      tauto

theorem forall_insertAll {P : κ → Prop} {Q : υ → Prop} {entries added : List (κ × υ)}
    (each : ∀ entry ∈ entries, P entry.1 ∧ Q entry.2)
    (new : ∀ entry ∈ added, P entry.1 ∧ Q entry.2) :
    ∀ entry ∈ insertAll entries added, P entry.1 ∧ Q entry.2 := by
  induction added generalizing entries with
  | nil => exact each
  | cons first added ih =>
    obtain ⟨here, later⟩ := List.forall_mem_cons.mp new
    exact ih (forall_insert each here) later

theorem insert_ne_nil (entries : List (κ × υ)) (key : κ) (value : υ) :
    insert entries key value ≠ [] := by
  cases entries with
  | nil => simp [insert]
  | cons entry rest =>
    by_cases found : entry.1 == key
    · simp [insert_cons_found found]
    · simp [insert_cons_other found]

theorem insertAll_ne_nil {entries : List (κ × υ)} (kept : entries ≠ []) (added : List (κ × υ)) :
    insertAll entries added ≠ [] := by
  induction added generalizing entries with
  | nil => exact kept
  | cons entry added ih => exact ih (insert_ne_nil entries entry.1 entry.2)

theorem eq_nil_of_ofList {added : List (κ × υ)} (empty : ofList added = []) : added = [] := by
  cases added with
  | nil => rfl
  | cons entry added => exact absurd empty (insertAll_ne_nil (insert_ne_nil [] _ _) added)

theorem sum_insert [AddCommGroup υ] (entries : List (κ × υ)) (key : κ) (value : υ) :
    (values (insert entries key value)).sum =
      (values entries).sum - (get? entries key).getD 0 + value := by
  induction entries with
  | nil => simp [insert, get?]
  | cons entry rest ih =>
    by_cases found : entry.1 == key
    · rw [insert_cons_found found, get?_cons_found found]
      simp only [values_cons, List.sum_cons, Option.getD_some]
      abel
    · rw [insert_cons_other found, get?_cons_other found]
      simp only [values_cons, List.sum_cons, ih]
      abel

/-- The pairs after which no pair with the same key comes. -/
def lasts : List (κ × υ) → List (κ × υ)
  | [] => []
  | entry :: rest => if has rest entry.1 then lasts rest else entry :: lasts rest

theorem lasts_subset {entries : List (κ × υ)} {entry : κ × υ} (member : entry ∈ lasts entries) :
    entry ∈ entries := by
  induction entries with
  | nil => exact member
  | cons first rest ih =>
    simp only [lasts] at member
    split at member
    · exact List.mem_cons_of_mem first (ih member)
    · rcases List.mem_cons.mp member with same | later
      · exact same ▸ List.mem_cons_self
      · exact List.mem_cons_of_mem first (ih later)

theorem get?_cons (entry : κ × υ) (rest : List (κ × υ)) (key : κ) :
    get? (entry :: rest) key = if entry.1 == key then some entry.2 else get? rest key := by
  by_cases found : entry.1 == key
  · rw [get?_cons_found found, if_pos found]
  · rw [get?_cons_other found, if_neg found]

theorem get?_eq_none_iff {entries : List (κ × υ)} {key : κ} :
    get? entries key = none ↔ ¬has entries key = true := by
  simp [get?, has]

theorem get?_append (first second : List (κ × υ)) (key : κ) :
    get? (first ++ second) key = (get? first key).or (get? second key) := by
  simp only [get?, List.find?_append]
  cases first.find? (·.1 == key) <;> rfl

theorem get?_map {υ' : Type} (entries : List (κ × υ)) (f : υ → υ') (key : κ) :
    get? (entries.map fun entry => (entry.1, f entry.2)) key = (get? entries key).map f := by
  induction entries with
  | nil => rfl
  | cons entry rest ih =>
    rw [List.map_cons, get?_cons, get?_cons, ih]
    split <;> rfl

theorem insert_of_missing {entries : List (κ × υ)} {key : κ} {value : υ}
    (missing : ¬has entries key = true) : insert entries key value = entries ++ [(key, value)] := by
  induction entries with
  | nil => rfl
  | cons entry rest ih =>
    simp only [has, List.any_cons, Bool.or_eq_true, not_or] at missing
    rw [insert_cons_other missing.1, ih missing.2, List.cons_append]

theorem ofList_of_distinct {added : List (κ × υ)} (distinct : Distinct added) :
    ofList added = added := by
  have appended : ∀ entries : List (κ × υ), Distinct (entries ++ added) →
      insertAll entries added = entries ++ added := by
    clear distinct
    induction added with
    | nil => simp [insertAll]
    | cons entry added ih =>
      intro entries distinct
      have missing : ¬has entries entry.1 = true := by
        intro there
        obtain ⟨other, member, same⟩ := has_iff.mp there
        exact (List.pairwise_append.mp distinct).2.2 other member entry (by simp) same
      have next := ih (entries ++ [entry]) (by simpa using distinct)
      rw [insertAll, List.foldl_cons, insert_of_missing missing]
      simpa [insertAll] using next
  exact appended [] distinct

theorem insert_of_present {entries : List (κ × υ)} {key : κ} {value : υ}
    (present : has entries key = true)
    (agree : ∀ entry ∈ entries, (entry.1 == key) = true → entry = (key, value)) :
    insert entries key value = entries := by
  induction entries with
  | nil => cases present
  | cons entry rest ih =>
    obtain ⟨first, later⟩ := List.forall_mem_cons.mp agree
    by_cases found : entry.1 == key
    · rw [insert_cons_found found, first found]
    · rw [insert_cons_other found, ih ?_ later]
      simpa [has, found] using present

theorem mem_insertAll {entries added : List (κ × υ)}
    (agree : ∀ a ∈ entries ++ added, ∀ b ∈ entries ++ added, (a.1 == b.1) = true → a = b)
    (entry : κ × υ) : entry ∈ insertAll entries added ↔ entry ∈ entries ++ added := by
  induction added generalizing entries with
  | nil => simp [insertAll]
  | cons new added ih =>
    show entry ∈ insertAll (insert entries new.1 new.2) added ↔ _
    by_cases present : has entries new.1 = true
    · obtain ⟨old, member, same⟩ := has_iff.mp present
      have known : new ∈ entries := by
        rw [← agree old (by simp [member]) new (by simp) same]
        exact member
      rw [insert_of_present present fun old member => agree old (by simp [member]) new (by simp)]
      rw [ih fun a first b second => agree a (by grind) b (by grind)]
      grind
    · rw [insert_of_missing present, ih (by simpa using agree)]
      simp

section Equivalence

theorem erase_of_missing {entries : List (κ × υ)} {key : κ} (missing : ¬has entries key = true) :
    erase entries key = entries := by
  apply List.eraseP_of_forall_not
  intro entry member found
  exact missing (has_iff.mpr ⟨entry, member, found⟩)

theorem distinct_erase {entries : List (κ × υ)} (distinct : Distinct entries) (key : κ) :
    Distinct (erase entries key) :=
  List.Pairwise.sublist List.eraseP_sublist distinct

variable [EquivBEq κ]

theorem get?_insert (entries : List (κ × υ)) (key other : κ) (value : υ) :
    get? (insert entries key value) other =
      if key == other then some value else get? entries other := by
  induction entries with
  | nil => by_cases same : key == other <;> simp [insert, get?, same]
  | cons entry rest ih =>
    by_cases found : entry.1 == key
    · have alike : (entry.1 == other) = (key == other) := BEq.congr_left found
      rw [insert_cons_found found, get?_cons, get?_cons, alike]
      split <;> rfl
    · rw [insert_cons_other found, get?_cons, get?_cons, ih]
      by_cases first : entry.1 == other
      · have differs : ¬(key == other) = true := by
          intro same
          exact found (BEq.trans first (BEq.symm same))
        rw [if_pos first, if_pos first, if_neg differs]
      · rw [if_neg first, if_neg first]

theorem insert_again (entries : List (κ × υ)) (key : κ) (value : υ) :
    insert (insert entries key value) key value = insert entries key value := by
  induction entries with
  | nil => simp [insert]
  | cons entry rest ih =>
    by_cases found : entry.1 == key
    · simp [insert, found]
    · simp [insert, found, ih]

theorem get?_insertAll (entries added : List (κ × υ)) (key : κ) :
    get? (insertAll entries added) key = (get? added.reverse key).or (get? entries key) := by
  induction added generalizing entries with
  | nil => rfl
  | cons entry added ih =>
    have later := ih (insert entries entry.1 entry.2)
    simp only [insertAll, List.foldl_cons] at later ⊢
    rw [later, get?_insert, List.reverse_cons, get?_append, get?_cons, Option.or_assoc]
    split <;> rfl

theorem get?_ofList (added : List (κ × υ)) (key : κ) :
    get? (ofList added) key = get? added.reverse key := by
  rw [ofList, get?_insertAll]
  exact Option.or_none

theorem keys_insert (entries : List (κ × υ)) (key : κ) (value : υ) :
    keys (insert entries key value) =
      if (keys entries).contains key then keys entries else keys entries ++ [key] := by
  induction entries with
  | nil => rfl
  | cons entry rest ih =>
    have flipped : (key == entry.1) = (entry.1 == key) := BEq.comm
    by_cases found : entry.1 == key
    · simp [insert_cons_found found, flipped, found]
    · simp only [insert_cons_other found, keys_cons, ih, List.contains_cons, flipped, found]
      split <;> simp_all

theorem keys_insertAll (entries added : List (κ × υ)) :
    keys (insertAll entries added) =
      keys entries ++ ((keys added).filter fun key => !(keys entries).contains key).eraseDups := by
  induction added generalizing entries with
  | nil => simp [insertAll, keys]
  | cons entry added ih =>
    have later := ih (insert entries entry.1 entry.2)
    simp only [insertAll, List.foldl_cons] at later ⊢
    rw [later, keys_insert]
    by_cases there : (keys entries).contains entry.1
    · rw [if_pos there, keys_cons, List.filter_cons_of_neg (by simpa using there)]
    · have both : ∀ key, (!(keys entries ++ [entry.1]).contains key) =
          ((!key == entry.1) && !(keys entries).contains key) := by
        intro key
        simp [List.contains_append, Bool.and_comm]
      rw [if_neg there, keys_cons, List.filter_cons_of_pos (by simpa using there),
        List.eraseDups_cons, List.filter_filter, List.append_assoc, List.singleton_append]
      simp only [both]

theorem keys_ofList (added : List (κ × υ)) : keys (ofList added) = (keys added).eraseDups := by
  rw [ofList, keys_insertAll]
  simp [keys]

theorem distinct_insertAll {entries : List (κ × υ)} (distinct : Distinct entries)
    (added : List (κ × υ)) : Distinct (insertAll entries added) := by
  induction added generalizing entries with
  | nil => exact distinct
  | cons entry added ih => exact ih (distinct_insert distinct entry.1 entry.2)

theorem distinct_ofList (added : List (κ × υ)) : Distinct (ofList added) :=
  distinct_insertAll List.Pairwise.nil added

theorem ofList_perm {first second : List (κ × υ)} (perm : first.Perm second)
    (agree : ∀ a ∈ first, ∀ b ∈ first, (a.1 == b.1) = true → a = b) :
    (ofList first).Perm (ofList second) := by
  have nodup : ∀ added : List (κ × υ), (ofList added).Nodup := by
    intro added
    refine List.Pairwise.imp ?_ (distinct_ofList added)
    rintro a b differs rfl
    exact differs BEq.rfl
  have agree' : ∀ a ∈ second, ∀ b ∈ second, (a.1 == b.1) = true → a = b :=
    fun a one b two => agree a (perm.mem_iff.mpr one) b (perm.mem_iff.mpr two)
  rw [List.perm_ext_iff_of_nodup (nodup first) (nodup second)]
  intro entry
  rw [ofList, ofList, mem_insertAll (by simpa using agree), mem_insertAll (by simpa using agree')]
  simp [perm.mem_iff]

theorem get?_eq_some_iff {entries : List (κ × υ)} (distinct : Distinct entries) {key : κ}
    {value : υ} :
    get? entries key = some value ↔
      ∃ entry ∈ entries, (entry.1 == key) = true ∧ entry.2 = value := by
  induction entries with
  | nil => simp [get?]
  | cons entry rest ih =>
    obtain ⟨fresh, later⟩ := distinct_cons.mp distinct
    rw [get?_cons]
    simp only [List.mem_cons, exists_eq_or_imp]
    by_cases found : entry.1 == key
    · have elsewhere : ¬∃ other ∈ rest, (other.1 == key) = true ∧ other.2 = value := by
        rintro ⟨other, member, same, _⟩
        exact fresh (has_iff.mpr ⟨other, member, BEq.trans same (BEq.symm found)⟩)
      simp [found, elsewhere]
    · simp [found, ih later]

theorem has_congr (entries : List (κ × υ)) {key other : κ} (same : (key == other) = true) :
    has entries key = has entries other := by
  have alike : ∀ entry : κ × υ, (entry.1 == key) = (entry.1 == other) :=
    fun entry => BEq.congr_right same
  simp only [has, alike]

theorem get?_erase {entries : List (κ × υ)} (distinct : Distinct entries) (key other : κ) :
    get? (erase entries key) other = if key == other then none else get? entries other := by
  induction entries with
  | nil => simp [erase, get?]
  | cons entry rest ih =>
    obtain ⟨fresh, later⟩ := distinct_cons.mp distinct
    by_cases found : entry.1 == key
    · have dropped : erase (entry :: rest) key = rest := List.eraseP_cons_of_pos found
      rw [dropped, get?_cons, BEq.congr_left found]
      split
      · rename_i same
        exact get?_eq_none_iff.mpr (has_congr rest (BEq.trans found same) ▸ fresh)
      · rfl
    · have kept : erase (entry :: rest) key = entry :: erase rest key :=
        List.eraseP_cons_of_neg found
      rw [kept, get?_cons, get?_cons, ih later]
      by_cases here : entry.1 == other
      · have apart : ¬(key == other) = true :=
          fun same => found (BEq.trans here (BEq.symm same))
        simp [here, apart]
      · simp [here]

theorem get?_perm {first second : List (κ × υ)} (distinct : Distinct first)
    (perm : first.Perm second) (key : κ) : get? first key = get? second key := by
  have distinct' : Distinct second :=
    perm.pairwise distinct fun differs same => differs (BEq.symm same)
  ext value
  simp only [get?_eq_some_iff distinct, get?_eq_some_iff distinct', perm.mem_iff]

theorem values_perm {first second : List (κ × υ)} (distinct : Distinct first)
    (distinct' : Distinct second) (same : ∀ key, get? first key = get? second key) :
    (values first).Perm (values second) := by
  induction first generalizing second with
  | nil =>
    cases second with
    | nil => exact List.Perm.nil
    | cons entry rest =>
      have missing := same entry.1
      simp [get?] at missing
  | cons entry rest ih =>
    obtain ⟨fresh, later⟩ := distinct_cons.mp distinct
    have found : get? second entry.1 = some entry.2 := by
      rw [← same, get?_cons, if_pos BEq.rfl]
    obtain ⟨twin, member, alike, equal⟩ := (get?_eq_some_iff distinct').mp found
    obtain ⟨before, after, rfl⟩ := List.append_of_mem member
    -- The twin of the first pair is brought to the front, and then both are dropped.
    have moved : (before ++ twin :: after).Perm (twin :: (before ++ after)) := List.perm_middle
    have front : Distinct (twin :: (before ++ after)) :=
      moved.pairwise distinct' fun differs same => differs (BEq.symm same)
    obtain ⟨fresh', later'⟩ := distinct_cons.mp front
    have others : ∀ key, get? rest key = get? (before ++ after) key := by
      intro key
      by_cases first : entry.1 == key
      · have left := has_congr rest first ▸ fresh
        have right := has_congr (before ++ after) (BEq.trans alike first) ▸ fresh'
        rw [get?_eq_none_iff.mpr left, get?_eq_none_iff.mpr right]
      · have whole := same key
        have first' : ¬(twin.1 == key) = true := BEq.congr_left alike ▸ first
        rwa [get?_perm distinct' moved, get?_cons, get?_cons, if_neg first, if_neg first'] at whole
    have rests := ih later later' others
    calc values (entry :: rest)
      _ = twin.2 :: values rest := by rw [values_cons, equal]
      List.Perm _ (values (twin :: (before ++ after))) := rests.cons twin.2
      List.Perm _ (values (before ++ twin :: after)) := (moved.map _).symm

theorem has_lasts (entries : List (κ × υ)) (key : κ) :
    has (lasts entries) key = has entries key := by
  induction entries with
  | nil => rfl
  | cons entry rest ih =>
    simp only [lasts]
    split
    · rename_i later
      rw [ih]
      by_cases same : entry.1 == key
      · rw [has_congr rest same] at later
        simp only [has, List.any_cons, same, Bool.true_or] at later ⊢
        exact later
      · simp [has, same]
    · simp only [has, List.any_cons] at ih ⊢
      rw [ih]

theorem distinct_lasts (entries : List (κ × υ)) : Distinct (lasts entries) := by
  induction entries with
  | nil => exact List.Pairwise.nil
  | cons entry rest ih =>
    simp only [lasts]
    split
    · exact ih
    · rename_i fresh
      exact distinct_cons.mpr ⟨by rwa [has_lasts], ih⟩

theorem get?_lasts (entries : List (κ × υ)) (key : κ) :
    get? (lasts entries) key = get? entries.reverse key := by
  induction entries with
  | nil => rfl
  | cons entry rest ih =>
    have turned : has rest.reverse key = has rest key := by simp [has]
    rw [List.reverse_cons, get?_append, get?_cons, lasts]
    by_cases same : entry.1 == key
    · by_cases later : has rest key
      · have found : ∃ value, get? rest.reverse key = some value := by
          rw [← Option.ne_none_iff_exists', Ne, get?_eq_none_iff, turned, not_not]
          exact later
        obtain ⟨value, found⟩ := found
        rw [has_congr rest same, if_pos later, ih, found, Option.some_or]
      · have missing : get? rest.reverse key = none := by
          rw [get?_eq_none_iff, turned]
          exact later
        rw [has_congr rest same, if_neg later, get?_cons, missing, Option.none_or, if_pos same,
          if_pos same]
    · have rest_only : get? ([] : List (κ × υ)) key = none := rfl
      rw [if_neg same, rest_only, Option.or_none, ← ih]
      split
      · rfl
      · rw [get?_cons, if_neg same]

end Equivalence

end SourceTally.Assoc
