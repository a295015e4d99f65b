import SourceTally.Proofs.Catalogue

/- What can be done to a counter, as data, so that a history of a counter is a list. An operation
   that fails still leaves a counter behind: most leave the one they found, a registration may have
   gone part of the way, and a batch keeps what it counted before it was stopped. -/
namespace SourceTally

inductive Operation where
  | process (file contents : Value)
  | processMany (items : Value)
  /-- Counts files that parsers of other kinds have classified, in whatever way. -/
  | settle (results : List (Value × Except Error Statistics))
  | reset
  | applyOptions (options : Options.Request) (overrides : List (String × Value))
  /-- New parsers get serial numbers from `serial` on. -/
  | register (serial : Nat) (requested defaultId allowUnknowns : Value)
  | addParser (value : Value)
  | removeParser (reference : Value)
  | clearParsers
  | addAlias (old new : Value)
  | addAliases (pairs : Value)
  | removeAlias (extension : Value)
  | clearAliases
  /-- Adds extensions to a registered parser. -/
  | addExtension (reference extension : Value)
  | removeExtension (reference extension : Value)

def Operation.brought : Operation → List Statistics
  | settle results => results.filterMap fun result => result.2.toOption
  | _ => []

namespace Counter

def kept (c : Counter) : Except Error Counter → Counter
  | .ok next => next
  | .error _ => c

def perform (c : Counter) : Operation → Counter
  | .process file contents => c.kept ((c.process file contents).map (·.2))
  | .processMany items => (c.processMany items).2
  | .settle results => (c.settle results).2
  | .reset => c.reset
  | .applyOptions options overrides => c.kept (c.applyOptions options overrides)
  | .register serial requested defaultId allowUnknowns =>
    (Catalogue.register c serial requested defaultId allowUnknowns).counter
  | .addParser value => c.kept ((c.addParser value).map (·.2))
  | .removeParser reference => (c.removeParser reference).2
  | .clearParsers => c.clearParsers
  | .addAlias old new => c.kept ((c.addAlias old new).map (·.2))
  | .addAliases pairs => c.kept ((c.addAliases pairs).map (·.2))
  | .removeAlias extension => (c.removeAlias extension).2
  | .clearAliases => c.clearAliases
  | .addExtension reference extension =>
    match c.getParser? reference with
    | none => c
    | some p => c.kept ((p.addExtension extension).map fun changed => c.updateParser changed.2)
  | .removeExtension reference extension =>
    match c.getParser? reference with
    | none => c
    | some p => c.updateParser (p.removeExtension extension).2

def run (c : Counter) (history : List Operation) : Counter := history.foldl perform c

def ledger (c : Counter) : List (FileName × Statistics) × Statistics := (c.files, c.totals)

theorem record_ok {c next : Counter} {file : Value} {n : Statistics}
    (recorded : c.record file n = .ok next) :
    next = { c with
      files := Assoc.insert c.files ⟨file⟩ n
      totals := c.totals - (Assoc.get? c.files ⟨file⟩).getD 0 + n } := by
  simp only [record] at recorded
  split at recorded <;> cases recorded
  rfl

theorem kept_ledger {c : Counter} {result : Except Error Counter}
    (keeps : ∀ next, result = .ok next → next.ledger = c.ledger) :
    (c.kept result).ledger = c.ledger := by
  cases result with
  | error e => rfl
  | ok next => exact keeps next rfl

theorem kept_map_ledger {α : Type} {c : Counter} {result : Except Error α} {f : α → Counter}
    (keeps : ∀ a, result = .ok a → (f a).ledger = c.ledger) :
    (c.kept (result.map f)).ledger = c.ledger := by
  refine kept_ledger fun next success => ?_
  obtain ⟨a, done, rfl⟩ := map_ok success
  exact keeps a done

theorem addOne_ledger (c : Counter) (p : Parser) : (c.addOne p).2.ledger = c.ledger := by
  simp only [addOne]
  split <;> rfl

theorem addEach_ledger (c : Counter) (ps : List Parser) : (c.addEach ps).2.ledger = c.ledger := by
  induction ps generalizing c with
  | nil => rfl
  | cons p ps ih =>
    simp only [addEach]
    rw [ih, addOne_ledger]

theorem addIds_ledger (c : Counter) (serial : Nat) (ids : List Value) :
    (Catalogue.addIds c serial ids).counter.ledger = c.ledger := by
  refine Catalogue.addIds_preserves (fun _ d => d.ledger = c.ledger) (fun _ _ now => now) ?_ rfl ids
  intro serial d id p _ now
  rw [addOne_ledger, now]

theorem register_ledger (c : Counter) (serial : Nat) (requested defaultId allowUnknowns : Value) :
    (Catalogue.register c serial requested defaultId allowUnknowns).counter.ledger = c.ledger := by
  rcases Catalogue.register_cases c serial requested defaultId allowUnknowns with
    ⟨e, _, same⟩ | ⟨wanted, _, same | ⟨fallback, _, same⟩⟩
  · rw [same]
  · rw [same, addIds_ledger]
  · rw [same]
    exact addIds_ledger c serial wanted

theorem applyOptions_ledger {c next : Counter} {options : Options.Request}
    {overrides : List (String × Value)} (applied : c.applyOptions options overrides = .ok next) : next.ledger = c.ledger := by
  obtain ⟨made, _, same⟩ := bind_ok applied
  cases same
  rfl

theorem addParser_ledger {c : Counter} {value : Value} {result : Bool × Counter}
    (added : c.addParser value = .ok result) : result.2.ledger = c.ledger := by
  obtain ⟨ps, _, same⟩ := bind_ok added
  cases same
  exact addEach_ledger c ps

theorem addAlias_ledger {c : Counter} {old new : Value} {result : Option String × Counter}
    (added : c.addAlias old new = .ok result) : result.2.ledger = c.ledger := by
  obtain ⟨made, _, same⟩ := bind_ok added
  cases same
  rfl

theorem addAliases_ledger {c : Counter} {pairs : Value} {result : List (String × String) × Counter}
    (added : c.addAliases pairs = .ok result) : result.2.ledger = c.ledger := by
  obtain ⟨made, _, same⟩ := bind_ok added
  cases same
  rfl

theorem removeParser_ledger (c : Counter) (reference : Value) :
    (c.removeParser reference).2.ledger = c.ledger := by
  simp only [removeParser]
  split <;> rfl

theorem make_ledger {options : Options.Request} {parsers : Value} {c : Counter}
    (made : make options parsers = .ok c) : c.ledger = ([], 0) := by
  obtain ⟨bare, applied, registered⟩ := bind_ok made
  have empty : bare.ledger = ([], 0) := applyOptions_ledger applied
  cases parsers with
  | nothing =>
    cases registered
    exact empty
  | _ =>
    obtain ⟨result, added, same⟩ := bind_ok registered
    cases same
    exact (addParser_ledger added).trans empty

theorem perform_process (c : Counter) (file contents : Value) :
    c.perform (.process file contents) = (c.settle [(file, c.classify file contents)]).2 := by
  simp only [perform, process]
  cases c.classify file contents with
  | error e =>
    simp only [settle]
    split <;> rfl
  | ok n =>
    simp only [settle]
    cases recorded : c.record file n with
    | error e => simp [recorded, bind, Except.bind, Except.map, kept]
    | ok next => simp [recorded, bind, Except.bind, pure, Except.pure, Except.map, kept]

theorem perform_processMany (c : Counter) (items : Value) :
    ∃ pairs : List (Value × Value), c.perform (.processMany items) =
      (c.settle (pairs.map fun pair => (pair.1, c.classify pair.1 pair.2))).2 := by
  simp only [perform, processMany]
  split
  · exact ⟨[], rfl⟩
  · rename_i pairs _
    exact ⟨pairs, rfl⟩

/-- What an operation can do to the ledger: nothing, clear it, or settle some results, each of which
    a parser of the counter gave or the operation brought. -/
theorem perform_ledger (c : Counter) (op : Operation) :
    (c.perform op).ledger = c.ledger ∨ (c.perform op).ledger = ([], 0) ∨
      ∃ results, c.perform op = (c.settle results).2 ∧
        ∀ file n, (file, Except.ok n) ∈ results →
          (∃ name contents, c.classify name contents = .ok n) ∨ n ∈ op.brought := by
  cases op with
  | process file contents =>
    refine Or.inr (Or.inr ⟨_, perform_process c file contents, ?_⟩)
    intro name n member
    simp only [List.mem_singleton, Prod.mk.injEq] at member
    exact Or.inl ⟨file, contents, member.2.symm⟩
  | processMany items =>
    obtain ⟨pairs, settled⟩ := perform_processMany c items
    refine Or.inr (Or.inr ⟨_, settled, ?_⟩)
    intro name n member
    obtain ⟨pair, _, same⟩ := List.mem_map.mp member
    exact Or.inl ⟨pair.1, pair.2, (Prod.mk.inj same).2⟩
  | settle results =>
    refine Or.inr (Or.inr ⟨results, rfl, ?_⟩)
    intro name n member
    right
    exact List.mem_filterMap.mpr ⟨_, member, rfl⟩
  | reset => exact Or.inr (Or.inl rfl)
  | applyOptions options overrides =>
    exact Or.inl (kept_ledger fun next applied => applyOptions_ledger applied)
  | register serial requested defaultId allowUnknowns =>
    exact Or.inl (register_ledger c serial requested defaultId allowUnknowns)
  | addParser value =>
    exact Or.inl (kept_map_ledger fun result added => addParser_ledger added)
  | removeParser reference => exact Or.inl (removeParser_ledger c reference)
  | clearParsers => exact Or.inl rfl
  | addAlias old new =>
    exact Or.inl (kept_map_ledger fun result added => addAlias_ledger added)
  | addAliases pairs =>
    exact Or.inl (kept_map_ledger fun result added => addAliases_ledger added)
  | removeAlias extension => exact Or.inl rfl
  | clearAliases => exact Or.inl rfl
  | addExtension reference extension =>
    left
    simp only [perform]
    split
    · rfl
    · exact kept_map_ledger fun changed _ => rfl
  | removeExtension reference extension =>
    left
    simp only [perform]
    split <;> rfl

end Counter

end SourceTally
