import Mathlib.Data.List.Forall2
import SourceTally.Error

/- Work that may fail, taken apart: what a step gave when the whole succeeded, and what a list of
   steps gives when each of them succeeds or one of them fails. -/
namespace SourceTally

variable {α β : Type}

theorem bind_ok {first : Except Error α} {next : α → Except Error β} {result : β}
    (success : first >>= next = .ok result) : ∃ a, first = .ok a ∧ next a = .ok result := by
  cases first with
  | error e => simp [bind, Except.bind] at success
  | ok a => exact ⟨a, rfl, success⟩

theorem map_ok {first : Except Error α} {f : α → β} {result : β}
    (success : first.map f = .ok result) : ∃ a, first = .ok a ∧ f a = result := by
  cases first with
  | error e => simp [Except.map] at success
  | ok a => exact ⟨a, rfl, by simpa [Except.map] using success⟩

theorem exists_of_isOk {result : Except Error α} (success : result.isOk = true) :
    ∃ a, result = .ok a := by
  cases result with
  | error e => cases success
  | ok a => exact ⟨a, rfl⟩

theorem mapM_ok {f : α → Except Error β} {items : List α} {results : List β}
    (each : List.Forall₂ (fun item result => f item = .ok result) items results) :
    items.mapM f = .ok results := by
  induction each with
  | nil => rfl
  | cons first _ ih => simp [List.mapM_cons, first, ih, bind, Except.bind, pure, Except.pure]

theorem mapM_ok_iff {f : α → Except Error β} {items : List α} {results : List β} :
    items.mapM f = .ok results ↔
      List.Forall₂ (fun item result => f item = .ok result) items results := by
  refine ⟨fun success => ?_, mapM_ok⟩
  induction items generalizing results with
  | nil =>
    cases success
    exact .nil
  | cons item items ih =>
    rw [List.mapM_cons] at success
    obtain ⟨first, done, rest⟩ := bind_ok success
    obtain ⟨others, later, same⟩ := bind_ok rest
    cases same
    exact .cons done (ih later)

theorem mem_of_mapM_ok {f : α → Except Error β} {items : List α} {results : List β}
    (success : items.mapM f = .ok results) :
    ∀ result ∈ results, ∃ item ∈ items, f item = .ok result := by
  have each := mapM_ok_iff.mp success
  clear success
  induction each with
  | nil => simp
  | @cons item first items others done _ ih =>
    intro result member
    rcases List.mem_cons.mp member with rfl | member
    · exact ⟨item, by simp, done⟩
    · obtain ⟨other, listed, gave⟩ := ih result member
      exact ⟨other, by simp [listed], gave⟩

theorem mapM_error {f : α → Except Error β} {items : List α}
    (fails : ∃ item ∈ items, ∀ result, f item ≠ .ok result) : ∃ e, items.mapM f = .error e := by
  induction items with
  | nil => simp at fails
  | cons item items ih =>
    cases first : f item with
    | error e => exact ⟨e, by simp [List.mapM_cons, first, bind, Except.bind]⟩
    | ok result =>
      have later : ∃ item ∈ items, ∀ result, f item ≠ .ok result := by
        obtain ⟨bad, member, refuses⟩ := fails
        rcases List.mem_cons.mp member with same | member
        · exact absurd (same ▸ first) (refuses result)
        · exact ⟨bad, member, refuses⟩
      obtain ⟨e, rest⟩ := ih later
      exact ⟨e, by simp [List.mapM_cons, first, rest, bind, Except.bind]⟩

theorem forall₂_through {γ : Type} {r : α → β → Prop} {s : β → γ → Prop} {items : List α}
    {results : List γ} :
    List.Forall₂ (fun a c => ∃ b, r a b ∧ s b c) items results ↔
      ∃ between, List.Forall₂ r items between ∧ List.Forall₂ s between results := by
  constructor
  · intro related
    induction related with
    | nil => exact ⟨[], .nil, .nil⟩
    | cons first _ ih =>
      obtain ⟨b, left, right⟩ := first
      obtain ⟨between, lefts, rights⟩ := ih
      exact ⟨b :: between, .cons left lefts, .cons right rights⟩
  · rintro ⟨between, lefts, rights⟩
    induction lefts generalizing results with
    | nil =>
      cases rights
      exact .nil
    | cons left _ ih =>
      cases rights with
      | cons right rights => exact .cons ⟨_, left, right⟩ (ih rights)

variable {σ : Type} {f : σ → α → Except Error σ}

theorem foldlM_preserves (holds : List α → σ → Prop)
    (step : ∀ met s item next, holds met s → f s item = .ok next → holds (met ++ [item]) next)
    {met items : List α} {s last : σ} (start : holds met s)
    (success : items.foldlM f s = .ok last) : holds (met ++ items) last := by
  induction items generalizing met s with
  | nil =>
    cases success
    simpa using start
  | cons item items ih =>
    rw [List.foldlM_cons] at success
    obtain ⟨next, first, rest⟩ := bind_ok success
    simpa using ih (step met s item next start first) rest

theorem foldlM_ok_iff {good : α → Prop}
    (each : ∀ s item, (∃ next, f s item = .ok next) ↔ good item) (items : List α) (s : σ) :
    (∃ last, items.foldlM f s = .ok last) ↔ ∀ item ∈ items, good item := by
  induction items generalizing s with
  | nil => simp [pure, Except.pure]
  | cons item items ih =>
    rw [List.forall_mem_cons, List.foldlM_cons]
    constructor
    · rintro ⟨last, success⟩
      obtain ⟨next, first, rest⟩ := bind_ok success
      exact ⟨(each s item).mp ⟨next, first⟩, (ih next).mp ⟨last, rest⟩⟩
    · rintro ⟨first, rest⟩
      obtain ⟨next, done⟩ := (each s item).mpr first
      obtain ⟨last, success⟩ := (ih next).mpr rest
      exact ⟨last, by rw [done]; exact success⟩

theorem foldlM_error {items : List α} {s : σ} {e : Error} (failed : items.foldlM f s = .error e) :
    ∃ item ∈ items, ∃ before, f before item = .error e := by
  induction items generalizing s with
  | nil => cases failed
  | cons item items ih =>
    rw [List.foldlM_cons] at failed
    cases first : f s item with
    | error cause =>
      rw [first] at failed
      cases failed
      exact ⟨item, by simp, s, first⟩
    | ok next =>
      rw [first] at failed
      obtain ⟨other, member, before, refused⟩ := ih failed
      exact ⟨other, by simp [member], before, refused⟩

end SourceTally
