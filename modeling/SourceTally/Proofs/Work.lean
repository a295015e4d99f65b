import SourceTally.Proofs.Failure

/- Work on a state, step by step. A step that fails ends the work, and what the steps before it
   wrote stays written; so whether failed work leaves the state as it was depends on the order of its
   steps. A batch that checks its whole argument first, and then makes one call for each item, is all
   or nothing when no call can fail any more. -/
namespace SourceTally

abbrev Work (σ : Type) := ExceptT Error (StateM σ)

namespace Work

variable {σ α β γ δ : Type}

def outcome (w : Work σ α) (s : σ) : Except Error α × σ := w.run.run s

def ask (question : σ → Except Error α) : Work σ α := fun s => (question s, s)

def call (f : σ → Except Error (α × σ)) : Work σ α := fun s =>
  match f s with
  | .ok (answer, next) => (.ok answer, next)
  | .error e => (.error e, s)

@[simp] theorem outcome_pure (a : α) (s : σ) : outcome (pure a) s = (.ok a, s) := rfl

@[simp] theorem outcome_ask (question : σ → Except Error α) (s : σ) :
    outcome (ask question) s = (question s, s) := rfl

theorem outcome_bind (w : Work σ α) (next : α → Work σ β) (s : σ) :
    outcome (w >>= next) s =
      match outcome w s with
      | (.ok a, t) => outcome (next a) t
      | (.error e, t) => (.error e, t) := by
  rcases ended : outcome w s with ⟨result, t⟩
  have run : (w.run.run s : Except Error α × σ) = (result, t) := ended
  rw [outcome, ExceptT.run_bind, StateT.run_bind]
  simp only [run]
  cases result with
  | ok a => rfl
  | error e => rfl

theorem outcome_call (f : σ → Except Error (α × σ)) (s : σ) :
    outcome (call f) s =
      match f s with
      | .ok (answer, next) => (.ok answer, next)
      | .error e => (.error e, s) := rfl

/-- The calls for all items, one after the other, sum up to the given answer and leave the given
    state. -/
def OneByOne (single : α → Work σ β) (answer : List α → List β → γ) (items : List α) (s : σ)
    (result : γ × σ) : Prop :=
  ∃ answers, outcome (items.mapM single) s = (.ok answers, result.2) ∧
    result.1 = answer items answers

theorem outcome_mapM_cons {single : α → Work σ β} {item : α} {rest : List α} {s next last : σ}
    {answer : β} {answers : List β} (first : outcome (single item) s = (.ok answer, next))
    (later : outcome (rest.mapM single) next = (.ok answers, last)) :
    outcome ((item :: rest).mapM single) s = (.ok (answer :: answers), last) := by
  simp only [List.mapM_cons, outcome_bind, first, later, outcome_pure]

/-- What a batch does: it refuses an argument that stands for no items, and changes nothing, or it
    has the effect of one call for each of the items, from left to right, and sums up their
    answers. -/
inductive AllOrNothing (batch : Work σ γ) (accepted : List α → Prop) (single : α → Work σ β)
    (answer : List α → List β → γ) (s : σ) : Prop where
  | refused (e : Error) (unfit : ¬∃ items, accepted items)
      (unchanged : batch.outcome s = (.error e, s))
  | done (items : List α) (fit : accepted items) (result : γ × σ)
      (oneByOne : OneByOne single answer items s result)
      (summed : batch.outcome s = (.ok result.1, result.2))

theorem allOrNothing_call {check : Except Error δ} {write : σ → δ → γ × σ}
    {accepted : List α → Prop} {single : α → Work σ β} {answer : List α → List β → γ} {s : σ}
    (unfit : ∀ e, check = .error e → ¬∃ items, accepted items)
    (fit : ∀ found, check = .ok found →
      ∃ items, accepted items ∧ OneByOne single answer items s (write s found)) :
    AllOrNothing (call fun s => do return write s (← check)) accepted single answer s := by
  cases ended : check with
  | error e => exact .refused e (unfit e ended) rfl
  | ok found =>
    obtain ⟨items, listed, oneByOne⟩ := fit found ended
    exact .done items listed (write s found) oneByOne rfl

theorem allOrNothing_of_iff {check : Except Error (List α)} {write : σ → List α → γ × σ}
    {accepted : List α → Prop} {single : α → Work σ β} {answer : List α → List β → γ} {s : σ}
    (fits : ∀ items, check = .ok items ↔ accepted items)
    (oneByOne : ∀ items, OneByOne single answer items s (write s items)) :
    AllOrNothing (call fun s => do return write s (← check)) accepted single answer s := by
  apply allOrNothing_call
  · rintro e failed ⟨items, listed⟩
    rw [(fits items).mpr listed] at failed
    cases failed
  · intro items success
    exact ⟨items, (fits items).mp success, oneByOne items⟩

/-- Checks a whole argument, then makes one call for each of its items and sums up the answers. What
    the calls before a failed one wrote would stay. -/
def checked (check : Except Error (List α)) (single : α → Work σ β)
    (answer : List α → List β → γ) : Work σ γ := do
  let items ← ask fun _ => check
  let answers ← items.mapM single
  return answer items answers

theorem checked_eq_call {check : Except Error (List α)} {write : σ → List α → γ × σ}
    {single : α → Work σ β} {answer : List α → List β → γ} {s : σ}
    (fit : ∀ items, check = .ok items → OneByOne single answer items s (write s items)) :
    outcome (checked check single answer) s =
      outcome (call fun s => do return write s (← check)) s := by
  simp only [checked, outcome_bind, outcome_ask]
  cases ended : check with
  | error e => rfl
  | ok items =>
    obtain ⟨answers, calls, summed⟩ := fit items ended
    simp only [calls, outcome_pure, ← summed]
    rfl

def anyYes (_ : List α) (told : List Bool) : Bool := told.any id

theorem oneByOne_anyYes (one : σ → α → Bool × σ) (all : σ → List α → Bool × σ)
    {single : α → Work σ Bool}
    (agrees : ∀ item s, outcome (single item) s = (.ok (one s item).1, (one s item).2))
    (none : ∀ s, all s [] = (false, s))
    (more : ∀ s item rest, all s (item :: rest) =
      ((one s item).1 || (all (one s item).2 rest).1, (all (one s item).2 rest).2))
    (items : List α) (s : σ) : OneByOne single anyYes items s (all s items) := by
  induction items generalizing s with
  | nil =>
    rw [none]
    exact ⟨[], rfl, rfl⟩
  | cons item rest ih =>
    obtain ⟨told, calls, summed⟩ := ih (one s item).2
    rw [more]
    refine ⟨(one s item).1 :: told, outcome_mapM_cons (agrees item s) calls, ?_⟩
    rw [anyYes, List.any_cons, summed, id, anyYes]

end Work

end SourceTally
