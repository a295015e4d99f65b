import Mathlib.Data.List.Nodup
import SourceTally.Proofs.Batches
import SourceTally.Proofs.Counter.Setup

/- The registered parsers of a counter as long as no id is there twice: what a reference leads to, and
   what registering and removing a parser does. Operations keep the ids apart, and hold no parser
   that was neither held before nor handed over. -/
namespace SourceTally

def Value.parser? : Value → Option Parser
  | .parser p => some p
  | _ => none

def Value.handed : Value → List Parser
  | .parser p => [p]
  | .list items => items.filterMap Value.parser?
  | .tuple items => items.filterMap Value.parser?
  | .mapping entries => entries.filterMap fun entry => entry.2.parser?
  | _ => []

def Options.Request.handed : Options.Request → List Parser
  | .made requireExtension defaultParser => (Value.list [requireExtension, defaultParser]).handed
  | .value v => v.handed

namespace Operation

def handed : Operation → List Parser
  | addParser value => value.handed
  | applyOptions options overrides => options.handed ++ (Value.mapping overrides).handed
  | _ => []

def isLocal : Operation → Bool
  | register _ _ _ _ | addExtension _ _ | removeExtension _ _ => false
  | _ => true

end Operation

namespace Counter

def DistinctIds (c : Counter) : Prop := (c.parsers.map (·.id)).Nodup

inductive RefersTo : Value → Parser → Prop where
  | byId (p : Parser) : RefersTo (.str p.id) p
  | byParser {p q : Parser} (same : q.id = p.id) : RefersTo (.parser q) p

def held (c : Counter) : List Parser := c.parsers ++ c.options.defaultParser.toList

variable {c : Counter} {reference : Value} {p : Parser}

theorem refersTo_iff : RefersTo reference p ↔ referredId? reference = some p.id := by
  constructor
  · rintro (_ | same)
    · rfl
    · exact congrArg some same
  · intro referred
    cases reference with
    | str id =>
      cases referred
      exact .byId p
    | parser q => exact .byParser (Option.some.inj referred)
    | _ => cases referred

theorem eq_of_id (distinct : c.DistinctIds) {q : Parser} (first : p ∈ c.parsers)
    (second : q ∈ c.parsers) (same : p.id = q.id) : p = q :=
  List.inj_on_of_nodup_map distinct first second same

theorem getParser?_iff (distinct : c.DistinctIds) :
    c.getParser? reference = some p ↔ p ∈ c.parsers ∧ RefersTo reference p := by
  rw [refersTo_iff, getParser?, Option.bind_eq_some_iff]
  constructor
  · rintro ⟨id, referred, found⟩
    have named : p.id = id := by simpa using List.find?_some found
    exact ⟨List.mem_of_find?_eq_some found, named ▸ referred⟩
  · rintro ⟨registered, referred⟩
    refine ⟨p.id, referred, ?_⟩
    cases found : c.parserWithId? p.id with
    | none =>
      have other := List.find?_eq_none.mp found p registered
      simp at other
    | some q =>
      have named : q.id = p.id := by simpa using List.find?_some found
      rw [eq_of_id distinct (List.mem_of_find?_eq_some found) registered named]

theorem hasParser_iff (distinct : c.DistinctIds) :
    c.hasParser reference = true ↔ ∃ p ∈ c.parsers, RefersTo reference p := by
  rw [hasParser, Option.isSome_iff_exists]
  simp only [getParser?_iff distinct]

theorem addOne_cases (c : Counter) (p : Parser) :
    (c.addOne p = (true, { c with parsers := c.parsers ++ [p] }) ∧ ∀ q ∈ c.parsers, q.id ≠ p.id) ∨
      c.addOne p = (false, c) ∧ ∃ q ∈ c.parsers, q.id = p.id := by
  simp only [addOne]
  split
  · rename_i taken
    obtain ⟨q, found⟩ := Option.isSome_iff_exists.mp taken
    exact .inr ⟨rfl, q, List.mem_of_find?_eq_some found, by simpa using List.find?_some found⟩
  · rename_i free
    refine .inl ⟨rfl, fun q registered same => free ?_⟩
    rw [parserWithId?, List.find?_isSome]
    exact ⟨q, registered, by simp [same]⟩

theorem removeParser_cases (distinct : c.DistinctIds) (reference : Value) :
    (∃ before p after, c.getParser? reference = some p ∧ c.parsers = before ++ p :: after ∧
        c.removeParser reference = (true, { c with parsers := before ++ after })) ∨
      c.getParser? reference = none ∧ c.removeParser reference = (false, c) := by
  cases found : c.getParser? reference with
  | none => exact .inr ⟨rfl, by simp only [removeParser, found]⟩
  | some p =>
    left
    obtain ⟨registered, _⟩ := (getParser?_iff distinct).mp found
    obtain ⟨q, before, after, _, same, split, erased⟩ :
        ∃ q before after, (∀ other ∈ before, ¬(other.id == p.id) = true) ∧ (q.id == p.id) = true ∧
          c.parsers = before ++ q :: after ∧
          c.parsers.eraseP (·.id == p.id) = before ++ after :=
      List.exists_of_eraseP registered (by simp)
    have first : q ∈ c.parsers := by simp [split]
    obtain rfl := eq_of_id distinct first registered (by simpa using same)
    exact ⟨before, q, after, rfl, split, by simp only [removeParser, found, erased]⟩

theorem removeParser_shape (c : Counter) (reference : Value) :
    ∃ parsers, parsers.Sublist c.parsers ∧ (c.removeParser reference).2 = { c with parsers } := by
  simp only [removeParser]
  split
  · exact ⟨_, List.eraseP_sublist, rfl⟩
  · exact ⟨c.parsers, List.Sublist.refl _, rfl⟩

theorem removeParser_distinct (distinct : c.DistinctIds) (reference : Value) :
    (c.removeParser reference).2.DistinctIds := by
  obtain ⟨parsers, kept, shape⟩ := removeParser_shape c reference
  rw [shape]
  exact distinct.sublist (kept.map _)

theorem not_hasParser_after_removeParser (distinct : c.DistinctIds) (reference : Value) :
    (c.removeParser reference).2.hasParser reference = false := by
  have later := removeParser_distinct distinct reference
  rcases removeParser_cases distinct reference with
    ⟨before, p, after, found, split, removed⟩ | ⟨missing, removed⟩
  · rw [Bool.eq_false_iff, ne_eq, hasParser_iff later, removed]
    rintro ⟨q, kept, refers⟩
    obtain ⟨registered, led⟩ := (getParser?_iff distinct).mp found
    have member : q ∈ c.parsers := by
      rw [split]
      simpa using (List.mem_append.mp kept).imp id .inr
    have same : q.id = p.id := by
      rw [refersTo_iff] at refers led
      exact Option.some.inj (refers.symm.trans led)
    have once : (before ++ p :: after).Nodup := split ▸ distinct.of_map
    rw [eq_of_id distinct member registered same] at kept
    exact (List.nodup_cons.mp (List.nodup_middle.mp once)).1 kept
  · rw [removed, hasParser, missing]
    rfl

theorem removeParser_spec (distinct : c.DistinctIds) (reference : Value) :
    (c.removeParser reference).1 = c.hasParser reference ∧
      (c.getParser? reference = none → (c.removeParser reference).2 = c) ∧
      ∀ p, c.getParser? reference = some p → ∃ before after, c.parsers = before ++ p :: after ∧
        (c.removeParser reference).2 = { c with parsers := before ++ after } := by
  rcases removeParser_cases distinct reference with
    ⟨before, p, after, found, split, removed⟩ | ⟨missing, removed⟩
  · simp only [hasParser, removed, found, Option.isSome_some, reduceCtorEq, false_implies,
      Option.some.injEq, true_and]
    rintro q rfl
    exact ⟨before, after, split, rfl⟩
  · simp [hasParser, removed, missing]

theorem addParser_spec (c : Counter) (p : Parser) :
    ∃ added next, c.addParser (.parser p) = .ok (added, next) ∧
      (added = true ↔ next = { c with parsers := c.parsers ++ [p] }) ∧
      (added = true ↔ ∀ q ∈ c.parsers, q.id ≠ p.id) ∧ (added = false ↔ next = c) := by
  have single : c.addParser (.parser p) = .ok (c.addOne p) := by
    simp [addParser, parsersOf, addEach, bind, Except.bind, pure, Except.pure]
  have longer : { c with parsers := c.parsers ++ [p] } ≠ c := by
    intro same
    have lengths := congrArg (fun counter => counter.parsers.length) same
    simp at lengths
  refine ⟨(c.addOne p).1, (c.addOne p).2, single, ?_⟩
  rcases addOne_cases c p with ⟨added, free⟩ | ⟨refused, q, registered, same⟩
  · rw [added]
    exact ⟨by simp, by simpa using free, by simp [longer]⟩
  · rw [refused]
    refine ⟨by simp [longer.symm], ?_, by simp⟩
    exact iff_of_false Bool.false_ne_true fun free => free q registered same

/-- A step after which ids are as distinct as before, and all parsers held were held before or were
    handed over. -/
structure RegistryStep (c next : Counter) (handed : List Parser) : Prop where
  distinct : c.DistinctIds → next.DistinctIds
  held : ∀ p ∈ next.held, p ∈ c.held ++ handed

theorem registryStep_same {next : Counter} {handed : List Parser}
    (parsers : next.parsers = c.parsers) (options : next.options = c.options) :
    RegistryStep c next handed := by
  constructor
  · intro distinct
    rwa [DistinctIds, parsers]
  · intro p member
    rw [held, parsers, options] at member
    exact List.mem_append_left handed member

theorem addOne_registryStep (c : Counter) {handed : List Parser} (given : p ∈ handed) :
    RegistryStep c (c.addOne p).2 handed := by
  rcases addOne_cases c p with ⟨added, free⟩ | ⟨refused, _⟩
  · rw [added]
    constructor
    · intro distinct
      have apart : ∀ id ∈ c.parsers.map (·.id), id ≠ p.id := by simpa using free
      rw [DistinctIds, List.map_append]
      exact List.nodup_append.mpr ⟨distinct, by simp, by simpa using apart⟩
    · intro q member
      simp only [held, List.mem_append, List.mem_singleton] at member ⊢
      rcases member with (old | rfl) | default
      · exact .inl (.inl old)
      · exact .inr given
      · exact .inl (.inr default)
  · rw [refused]
    exact registryStep_same rfl rfl

theorem addEach_registryStep (c : Counter) {ps handed : List Parser}
    (given : ∀ p ∈ ps, p ∈ handed) : RegistryStep c (c.addEach ps).2 handed := by
  induction ps generalizing c with
  | nil => exact registryStep_same rfl rfl
  | cons p ps ih =>
    obtain ⟨now, later⟩ := List.forall_mem_cons.mp given
    have first := addOne_registryStep c now
    have rest := ih (c.addOne p).2 later
    simp only [addEach]
    constructor
    · intro distinct
      exact rest.distinct (first.distinct distinct)
    · intro q member
      rcases List.mem_append.mp (rest.held q member) with before | new
      · exact first.held q before
      · exact List.mem_append_right c.held new

theorem mem_handed_of_elements {value : Value} {parsers : List Parser}
    (listed : value.elements = parsers.map .parser) : ∀ p ∈ parsers, p ∈ value.handed := by
  intro p member
  have there : Value.parser p ∈ value.elements := by
    rw [listed]
    exact List.mem_map_of_mem member
  cases value with
  | list items => exact List.mem_filterMap.mpr ⟨_, there, rfl⟩
  | tuple items => exact List.mem_filterMap.mpr ⟨_, there, rfl⟩
  | parser q =>
    cases List.mem_singleton.mp there
    exact List.mem_singleton.mpr rfl
  | _ => cases List.mem_singleton.mp there

theorem mem_handed_of_madeFrom {options : Options.Request} {overrides : List (String × Value)}
    {made : Options} (asked : Options.MadeFrom options overrides made)
    (chosen : made.defaultParser = some p) :
    p ∈ options.handed ++ (Value.mapping overrides).handed := by
  obtain ⟨entries, mapped, made⟩ := asked
  have given : Options.given entries overrides "default_parser" = some (.parser p) := by
    have read := made.defaultParser
    rw [chosen] at read
    cases found : Options.given entries overrides "default_parser" with
    | none =>
      rw [found] at read
      cases read
    | some value =>
      rw [found] at read
      exact congrArg some read
  have listed : ∀ {pairs : List (String × Value)},
      Assoc.get? pairs "default_parser" = some (.parser p) → p ∈ (Value.mapping pairs).handed := by
    intro pairs found
    obtain ⟨entry, there, same⟩ := Option.map_eq_some_iff.mp found
    exact List.mem_filterMap.mpr ⟨entry, List.mem_of_find?_eq_some there, by rw [same]; rfl⟩
  rcases Option.or_eq_some_iff.mp given with overriding | ⟨_, under⟩
  · have member := listed overriding
    exact List.mem_append_right _ (by simpa [Value.handed] using member)
  · apply List.mem_append_left
    cases options with
    | made requireExtension defaultParser =>
      cases mapped
      cases under
      exact List.mem_filterMap.mpr ⟨.parser p, by simp, rfl⟩
    | value v =>
      cases v with
      | nothing =>
        cases mapped
        cases under
      | mapping pairs =>
        cases mapped
        exact listed under
      | _ => cases mapped

theorem kept_registryStep {α : Type} {result : Except Error α} {f : α → Counter}
    {handed : List Parser} (each : ∀ a, result = .ok a → RegistryStep c (f a) handed) :
    RegistryStep c (c.kept (result.map f)) handed := by
  cases result with
  | error e => exact registryStep_same rfl rfl
  | ok a => exact each a rfl

theorem settle_registryStep (c : Counter) (results : List (Value × Except Error Statistics))
    (handed : List Parser) : RegistryStep c (c.settle results).2 handed := by
  obtain ⟨options, parsers, _⟩ := settle_setup c results
  exact registryStep_same parsers options

theorem applyOptions_registryStep {next : Counter} {options : Options.Request}
    {overrides : List (String × Value)} (applied : c.applyOptions options overrides = .ok next) :
    RegistryStep c next (options.handed ++ (Value.mapping overrides).handed) := by
  obtain ⟨made, success, same⟩ := bind_ok applied
  cases same
  refine ⟨id, fun p member => ?_⟩
  rcases List.mem_append.mp member with registered | default
  · exact List.mem_append_left _ (List.mem_append_left _ registered)
  · apply List.mem_append_right
    exact mem_handed_of_madeFrom (Options.ofRequest_ok_iff.mp success) (Option.mem_toList.mp default)

theorem addParser_registryStep {value : Value} {result : Bool × Counter}
    (added : c.addParser value = .ok result) : RegistryStep c result.2 value.handed := by
  obtain ⟨ps, read, same⟩ := bind_ok added
  cases same
  exact addEach_registryStep c (mem_handed_of_elements (parsersOf_ok_iff.mp read))

theorem perform_registryStep (c : Counter) {op : Operation} (alone : op.isLocal = true) :
    RegistryStep c (c.perform op) op.handed := by
  cases op with
  | process file contents =>
    rw [perform_process]
    exact settle_registryStep c _ _
  | processMany items =>
    obtain ⟨pairs, settled⟩ := perform_processMany c items
    rw [settled]
    exact settle_registryStep c _ _
  | settle results => exact settle_registryStep c results _
  | reset => exact registryStep_same rfl rfl
  | applyOptions options overrides =>
    cases applied : c.applyOptions options overrides with
    | error e =>
      simp only [perform, applied, kept]
      exact registryStep_same rfl rfl
    | ok next =>
      simp only [perform, applied, kept]
      exact applyOptions_registryStep applied
  | register serial requested defaultId allowUnknowns => cases alone
  | addParser value => exact kept_registryStep fun result added => addParser_registryStep added
  | removeParser reference =>
    obtain ⟨parsers, kept, shape⟩ := removeParser_shape c reference
    refine ⟨fun distinct => removeParser_distinct distinct reference, fun p member => ?_⟩
    simp only [perform, shape] at member
    exact List.mem_append_left _ ((kept.append_right _).subset member)
  | clearParsers =>
    refine ⟨fun _ => List.nodup_nil, fun p member => ?_⟩
    exact List.mem_append_left _ (List.mem_append_right c.parsers member)
  | addAlias old new =>
    refine kept_registryStep fun result added => ?_
    obtain ⟨_, _, shown⟩ := bind_ok added
    cases shown
    exact registryStep_same rfl rfl
  | addAliases pairs =>
    refine kept_registryStep fun result added => ?_
    obtain ⟨_, _, shown⟩ := bind_ok added
    cases shown
    exact registryStep_same rfl rfl
  | removeAlias extension => exact registryStep_same rfl rfl
  | clearAliases => exact registryStep_same rfl rfl
  | addExtension reference extension => cases alone
  | removeExtension reference extension => cases alone

theorem make_eq_perform {options : Options.Request} {parsers : Value}
    (made : make options parsers = .ok c) :
    c = (({} : Counter).perform (.applyOptions options [])).perform (.addParser parsers) := by
  obtain ⟨bare, applied, registered⟩ := bind_ok made
  have started : ({} : Counter).perform (.applyOptions options []) = bare := by
    simp only [perform, applied, kept]
  rw [started]
  cases parsers with
  | nothing =>
    -- as an argument it is refused, and the counter stays as it is
    cases registered
    rfl
  | _ =>
    obtain ⟨result, added, same⟩ := bind_ok registered
    cases same
    simp only [perform, added, kept, Except.map]

theorem make_registry {options : Options.Request} {parsers : Value}
    (made : make options parsers = .ok c) :
    c.DistinctIds ∧ ∀ p ∈ c.held, p ∈ options.handed ++ parsers.handed := by
  have configured := perform_registryStep ({} : Counter)
    (rfl : (Operation.applyOptions options []).isLocal = true)
  have registered := perform_registryStep (({} : Counter).perform (.applyOptions options []))
    (rfl : (Operation.addParser parsers).isLocal = true)
  rw [← make_eq_perform made] at registered
  refine ⟨registered.distinct (configured.distinct List.nodup_nil), fun p member => ?_⟩
  rcases List.mem_append.mp (registered.held p member) with before | given
  · have handed := configured.held p before
    exact List.mem_append_left _ (by simpa [held, Operation.handed, Value.handed] using handed)
  · exact List.mem_append_right _ given

end Counter

end SourceTally
