import Mathlib.Data.List.Find
import SourceTally.Proofs.Catalogue
import SourceTally.Proofs.Counter.Registry
import SourceTally.Workbench

/- Everything that can be done with one counter and its parsers, from an empty workbench on. A parser
   keeps the serial number and the id that it was made with, so the numbers tell parsers apart by id
   too, and a parser that changes takes no id from another. -/
namespace SourceTally

namespace Parser

theorem removeExtension_shape (p : Parser) (extension : Value) :
    ∃ extensions, (p.removeExtension extension).2 = { p with extensions } := by
  simp only [removeExtension]
  split
  · exact ⟨_, rfl⟩
  · exact ⟨p.extensions, rfl⟩

def updated (changed p : Parser) : Parser := if p.serial = changed.serial then changed else p

end Parser

/-- The parsers were made before the number is given out, and one serial number stands for one id. -/
structure Numbered (next : Nat) (parsers : List Parser) : Prop where
  below : ∀ p ∈ parsers, p.serial < next
  ids : ∀ p ∈ parsers, ∀ q ∈ parsers, p.serial = q.serial → p.id = q.id

section Numbered

variable {next : Nat} {parsers : List Parser}

theorem numbered_subset (numbered : Numbered next parsers) {others : List Parser}
    (subset : ∀ p ∈ others, p ∈ parsers) : Numbered next others := by
  constructor
  · intro p member
    exact numbered.below p (subset p member)
  · intro p first q second
    exact numbered.ids p (subset p first) q (subset q second)

theorem numbered_later (numbered : Numbered next parsers) {later : Nat} (bound : next ≤ later) :
    Numbered later parsers := by
  refine ⟨fun p member => ?_, numbered.ids⟩
  have earlier := numbered.below p member
  omega

theorem numbered_new (numbered : Numbered next parsers) {new : Parser} (number : new.serial = next) :
    Numbered (next + 1) (new :: parsers) := by
  have apart : ∀ p ∈ parsers, p.serial ≠ new.serial := by
    intro p member
    have earlier := numbered.below p member
    omega
  constructor
  · intro p member
    rcases List.mem_cons.mp member with rfl | old
    · omega
    · have earlier := numbered.below p old
      omega
  · intro p first q second same
    rcases List.mem_cons.mp first with rfl | old
    · rcases List.mem_cons.mp second with rfl | older
      · rfl
      · exact absurd same.symm (apart q older)
    · rcases List.mem_cons.mp second with rfl | older
      · exact absurd same (apart p old)
      · exact numbered.ids p old q older same

theorem updated_same {p changed : Parser} {extensions : List String}
    (shape : changed = { p with extensions }) {q : Parser} (agree : p.serial = q.serial → p.id = q.id) :
    (changed.updated q).serial = q.serial ∧ (changed.updated q).id = q.id := by
  subst shape
  unfold Parser.updated
  split
  · rename_i same
    exact ⟨same.symm, agree same.symm⟩
  · exact ⟨rfl, rfl⟩

theorem numbered_updated (numbered : Numbered next parsers) {p changed : Parser}
    {extensions : List String} (member : p ∈ parsers) (shape : changed = { p with extensions }) :
    Numbered next (parsers.map changed.updated) := by
  have kept : ∀ q ∈ parsers,
      (changed.updated q).serial = q.serial ∧ (changed.updated q).id = q.id :=
    fun q other => updated_same shape (numbered.ids p member q other)
  constructor
  · intro q listed
    obtain ⟨old, there, rfl⟩ := List.mem_map.mp listed
    rw [(kept old there).1]
    exact numbered.below old there
  · intro q first r second same
    obtain ⟨left, there, rfl⟩ := List.mem_map.mp first
    obtain ⟨right, here, rfl⟩ := List.mem_map.mp second
    rw [(kept left there).1, (kept right here).1] at same
    rw [(kept left there).2, (kept right here).2]
    exact numbered.ids left there right here same

end Numbered

namespace Catalogue

theorem create_serial {serial : Nat} {id : Value} {p : Parser} (created : create serial id = .ok p) :
    p.serial = serial := by
  simp only [create] at created
  split at created
  · cases created
  · split at created
    · cases created
    · exact (Parser.make_shape created).1

variable {c : Counter} {serial : Nat} {others : List Parser}

theorem addIds_numbered (ids : List Value) (numbered : Numbered serial (others ++ c.held))
    (distinct : c.DistinctIds) :
    Numbered (serial + ids.length) (others ++ (addIds c serial ids).counter.held) ∧
      (addIds c serial ids).counter.DistinctIds := by
  refine addIds_preserves (fun next d => Numbered next (others ++ d.held) ∧ d.DistinctIds) ?_ ?_
    ⟨numbered, distinct⟩ ids
  · rintro next d ⟨now, apart⟩
    exact ⟨numbered_later now (Nat.le_succ next), apart⟩
  · rintro next d id p created ⟨now, apart⟩
    have step := Counter.addOne_registryStep d (List.mem_singleton.mpr rfl : p ∈ [p])
    refine ⟨numbered_subset (numbered_new now (create_serial created)) ?_, step.distinct apart⟩
    intro q member
    rcases List.mem_append.mp member with elsewhere | held
    · simp [elsewhere]
    · rcases List.mem_append.mp (step.held q held) with before | new
      · simp [before]
      · simp [List.mem_singleton.mp new]

theorem chooseDefault_cases {defaultId : Value} {p : Parser}
    (chosen : chooseDefault c serial defaultId = .ok p) : p ∈ c.parsers ∨ p.serial = serial := by
  simp only [chooseDefault] at chosen
  split at chosen
  · split at chosen
    · cases chosen
      exact .inl (List.mem_of_find?_eq_some ‹_›)
    · exact .inr (create_serial chosen)
  · cases chosen

theorem withDefault_numbered {options : Options} (numbered : Numbered serial (others ++ c.held))
    (known : ∀ p, options.defaultParser = some p → p ∈ c.parsers ∨ p.serial = serial) :
    Numbered (serial + 1) (others ++ Counter.held { c with options }) := by
  cases chosen : options.defaultParser with
  | none =>
    apply numbered_later (numbered_subset numbered _) (Nat.le_succ serial)
    intro q member
    simp only [Counter.held, chosen, List.mem_append, Option.toList_none, List.not_mem_nil,
      or_false] at member ⊢
    exact member.imp id .inl
  | some p =>
    have listed : ∀ q ∈ others ++ Counter.held { c with options },
        q = p ∨ q ∈ others ∨ q ∈ c.parsers := by
      intro q member
      simp only [Counter.held, chosen, List.mem_append, Option.mem_toList,
        Option.some.injEq] at member
      rcases member with elsewhere | old | rfl
      · exact .inr (.inl elsewhere)
      · exact .inr (.inr old)
      · exact .inl rfl
    rcases known p chosen with registered | new
    · apply numbered_later (numbered_subset numbered _) (Nat.le_succ serial)
      intro q member
      rcases listed q member with rfl | elsewhere | old
      · simp [Counter.held, registered]
      · simp [elsewhere]
      · simp [Counter.held, old]
    · apply numbered_subset (numbered_new numbered new)
      intro q member
      rcases listed q member with rfl | elsewhere | old
      · simp
      · simp [elsewhere]
      · simp [Counter.held, old]

theorem register_numbered (requested defaultId allowUnknowns : Value)
    (numbered : Numbered serial (others ++ c.held)) (distinct : c.DistinctIds) :
    Numbered (serial + serialsUsed requested)
        (others ++ (register c serial requested defaultId allowUnknowns).counter.held) ∧
      (register c serial requested defaultId allowUnknowns).counter.DistinctIds := by
  rcases register_cases c serial requested defaultId allowUnknowns with
    ⟨e, refused, same⟩ | ⟨wanted, listed, same | ⟨fallback, chosen, same⟩⟩
  · rw [same]
    exact ⟨numbered_later numbered (Nat.le_add_right _ _), distinct⟩
  · obtain ⟨added, apart⟩ := addIds_numbered wanted numbered distinct
    simp only [serialsUsed, listed]
    rw [same]
    exact ⟨numbered_later added (by omega), apart⟩
  · obtain ⟨added, apart⟩ := addIds_numbered wanted numbered distinct
    simp only [serialsUsed, listed]
    rw [same]
    refine ⟨withDefault_numbered added fun p shown => ?_, apart⟩
    cases shown
    exact chooseDefault_cases (defaultParser?_ok chosen)

end Catalogue

namespace Workbench

variable {w : Workbench} {c : Counter} {p : Parser}

def held (w : Workbench) : List Parser :=
  Assoc.values w.named ++ w.counter.toList.flatMap Counter.held

/-- The workbenches that some work leads to. Parsers that are handed over are held at that time; one
    that is held may be given a name, under which it is kept. -/
inductive Reachable : Workbench → Prop where
  | start : Reachable {}
  | makeParser {w next : Workbench} {p : Parser} {handle : String} {scanner : Scanner}
      {id name extensions : Value} (before : Reachable w)
      (made : w.makeParser handle scanner id name extensions = .ok (p, next)) : Reachable next
  | name {w : Workbench} {p : Parser} (before : Reachable w) (handle : String) (member : p ∈ w.held) :
      Reachable { w with named := Assoc.insert w.named handle p }
  | newCounter {w next : Workbench} {options : Options.Request} {parsers : Value}
      (before : Reachable w) (handed : ∀ p ∈ options.handed ++ parsers.handed, p ∈ w.held)
      (made : w.newCounter options parsers = .ok next) : Reachable next
  | perform {w : Workbench} {c : Counter} (before : Reachable w) (current : w.counter = some c)
      (op : Operation) (alone : op.isLocal = true) (handed : ∀ p ∈ op.handed, p ∈ w.held) :
      Reachable { w with counter := some (c.perform op) }
  | register {w : Workbench} (before : Reachable w) (requested defaultId allowUnknowns : Value) :
      Reachable (w.register requested defaultId allowUnknowns).2
  | addExtension {w : Workbench} (before : Reachable w) (handle : String) (extension : Value) :
      Reachable (w.addExtension handle extension).2
  | removeExtension {w : Workbench} (before : Reachable w) (handle : String) (extension : Value) :
      Reachable (w.removeExtension handle extension).2

/-- The parsers are numbered apart, and no id is registered twice. -/
structure Orderly (w : Workbench) : Prop where
  numbered : Numbered w.nextSerial w.held
  distinct : ∀ c, w.counter = some c → c.DistinctIds

theorem held_of_counter (current : w.counter = some c) :
    w.held = Assoc.values w.named ++ c.held := by
  simp [held, current]

theorem held_withCounter (w : Workbench) (c : Counter) :
    held { w with counter := some c } = Assoc.values w.named ++ c.held := by
  simp [held]

theorem held_named {handle : String} :
    ∀ q ∈ held { w with named := Assoc.insert w.named handle p }, q ∈ p :: w.held := by
  intro q member
  rcases List.mem_append.mp member with named | counted
  · rcases Assoc.mem_values_insert named with rfl | old
    · exact List.mem_cons_self
    · exact List.mem_cons_of_mem p (List.mem_append_left _ old)
  · exact List.mem_cons_of_mem p (List.mem_append_right _ counted)

theorem held_updateParser (w : Workbench) (changed : Parser) :
    (w.updateParser changed).held = w.held.map changed.updated := by
  have named : Assoc.values (w.updateParser changed).named =
      (Assoc.values w.named).map changed.updated := by
    simp only [updateParser, Assoc.values, List.map_map]
    apply List.map_congr_left
    intro entry _
    simp only [Function.comp_apply, Parser.updated]
    split
    · rfl
    · rfl
  have counted : (w.updateParser changed).counter.toList.flatMap Counter.held =
      (w.counter.toList.flatMap Counter.held).map changed.updated := by
    cases current : w.counter with
    | none => simp [updateParser, current]
    | some c =>
      cases chosen : c.options.defaultParser <;>
        simp [updateParser, current, Counter.held, Counter.updateParser, Parser.updated, chosen]
  rw [held, named, counted, ← List.map_append, held]

theorem orderly_updateParser (orderly : w.Orderly) {changed : Parser} {extensions : List String}
    (member : p ∈ w.held) (shape : changed = { p with extensions }) :
    (w.updateParser changed).Orderly := by
  constructor
  · rw [held_updateParser]
    exact numbered_updated orderly.numbered member shape
  · intro next current
    obtain ⟨c, counted, rfl⟩ := Option.map_eq_some_iff.mp current
    -- whichever registered parsers have the serial number, they have the id of the changed one
    have ids : (c.updateParser changed).parsers.map (·.id) = c.parsers.map (·.id) := by
      simp only [Counter.updateParser, List.map_map]
      apply List.map_congr_left
      intro q registered
      have there : q ∈ w.held := by
        rw [held_of_counter counted]
        exact List.mem_append_right _ (List.mem_append_left _ registered)
      exact (updated_same shape (orderly.numbered.ids p member q there)).2
    rw [Counter.DistinctIds, ids]
    exact orderly.distinct c counted

theorem orderly_makeParser (orderly : w.Orderly) {next : Workbench} {handle : String}
    {scanner : Scanner} {id name extensions : Value}
    (made : w.makeParser handle scanner id name extensions = .ok (p, next)) : next.Orderly := by
  obtain ⟨q, built, same⟩ := bind_ok made
  cases same
  refine ⟨?_, orderly.distinct⟩
  exact numbered_subset (numbered_new orderly.numbered (Parser.make_shape built).1) held_named

theorem orderly_name (orderly : w.Orderly) (handle : String) (member : p ∈ w.held) :
    Orderly { w with named := Assoc.insert w.named handle p } := by
  refine ⟨numbered_subset orderly.numbered fun q listed => ?_, orderly.distinct⟩
  rcases List.mem_cons.mp (held_named q listed) with rfl | old
  · exact member
  · exact old

theorem orderly_withCounter (orderly : w.Orderly) {next : Counter} (distinct : next.DistinctIds)
    (known : ∀ p ∈ next.held, p ∈ w.held) : Orderly { w with counter := some next } := by
  constructor
  · apply numbered_subset orderly.numbered
    intro q member
    rw [held_withCounter] at member
    rcases List.mem_append.mp member with named | counted
    · exact List.mem_append_left _ named
    · exact known q counted
  · intro c current
    cases current
    exact distinct

theorem orderly_newCounter (orderly : w.Orderly) {next : Workbench} {options : Options.Request}
    {parsers : Value} (handed : ∀ p ∈ options.handed ++ parsers.handed, p ∈ w.held)
    (made : w.newCounter options parsers = .ok next) : next.Orderly := by
  obtain ⟨c, built, same⟩ := bind_ok made
  cases same
  obtain ⟨distinct, given⟩ := Counter.make_registry built
  exact orderly_withCounter orderly distinct fun p member => handed p (given p member)

theorem orderly_perform (orderly : w.Orderly) (current : w.counter = some c) {op : Operation}
    (alone : op.isLocal = true) (handed : ∀ p ∈ op.handed, p ∈ w.held) :
    Orderly { w with counter := some (c.perform op) } := by
  have step := Counter.perform_registryStep c alone
  apply orderly_withCounter orderly (step.distinct (orderly.distinct c current))
  intro p member
  rcases List.mem_append.mp (step.held p member) with before | given
  · rw [held_of_counter current]
    exact List.mem_append_right _ before
  · exact handed p given

theorem orderly_register (orderly : w.Orderly) (requested defaultId allowUnknowns : Value) :
    (w.register requested defaultId allowUnknowns).2.Orderly := by
  cases current : w.counter with
  | none =>
    have unchanged : (w.register requested defaultId allowUnknowns).2 =
        { w with nextSerial := w.nextSerial + Catalogue.serialsUsed requested } := by
      simp only [register, onCounter, current]
    rw [unchanged]
    exact ⟨numbered_later orderly.numbered (Nat.le_add_right _ _), orderly.distinct⟩
  | some c =>
    have numbered := orderly.numbered
    rw [held_of_counter current] at numbered
    obtain ⟨later, distinct⟩ := Catalogue.register_numbered requested defaultId allowUnknowns numbered
      (orderly.distinct c current)
    constructor
    · simpa [register, onCounter, current, held] using later
    · intro next counted
      simp only [register, onCounter, current, Option.some.injEq] at counted
      exact counted ▸ distinct

theorem orderly_onParser {α : Type} (orderly : w.Orderly) (handle : String)
    {work : Parser → Except Error (α × Parser)}
    (keeps : ∀ p result, work p = .ok result → ∃ extensions, result.2 = { p with extensions }) :
    (w.onParser handle work).2.Orderly := by
  simp only [onParser]
  split
  · rename_i p _ named
    split
    · rename_i result changed worked
      obtain ⟨extensions, shape⟩ := keeps p (result, changed) worked
      obtain ⟨entry, listed, same⟩ := Option.map_eq_some_iff.mp named
      have member : p ∈ w.held :=
        List.mem_append_left _ (List.mem_map.mpr ⟨entry, List.mem_of_find?_eq_some listed, same⟩)
      exact orderly_updateParser orderly member shape
    · exact orderly
  · exact orderly

theorem orderly_of_reachable (reached : w.Reachable) : w.Orderly := by
  induction reached with
  | start => exact ⟨⟨by simp [held, Assoc.values], by simp [held, Assoc.values]⟩, by simp⟩
  | makeParser _ made ih => exact orderly_makeParser ih made
  | name _ handle member ih => exact orderly_name ih handle member
  | newCounter _ handed made ih => exact orderly_newCounter ih handed made
  | perform _ current op alone handed ih => exact orderly_perform ih current alone handed
  | register _ requested defaultId allowUnknowns ih =>
    exact orderly_register ih requested defaultId allowUnknowns
  | addExtension _ handle extension ih =>
    exact orderly_onParser ih handle fun p result added => Parser.addExtension_shape added
  | removeExtension _ handle extension ih =>
    refine orderly_onParser ih handle fun p result removed => ?_
    cases removed
    exact Parser.removeExtension_shape p extension

/-- Whatever was done, no id is registered twice. So a registered parser is found by its id and by
    every parser with this id, and looking for the same parser besides finds no other; removing takes
    out the one found and leaves the others in their order; and a parser is added at the end if its
    id is free. -/
theorem registry_holds_each_id_once (reached : w.Reachable) (current : w.counter = some c) :
    (c.parsers.map (·.id)).Nodup ∧
      (∀ p ∈ c.parsers, c.getParser? (.str p.id) = some p ∧
        ∀ q : Parser, q.id = p.id → c.getParser? (.parser q) = some p) ∧
      (∀ q ∈ w.held, c.parsers.find? (fun p => p.serial = q.serial || p.id = q.id) =
        c.getParser? (.parser q)) ∧
      (∀ x, (c.hasParser x = true ↔ ∃ p, c.getParser? x = some p) ∧
        ∀ p, c.getParser? x = some p ↔ p ∈ c.parsers ∧ Counter.RefersTo x p) ∧
      (∀ x, (c.removeParser x).1 = c.hasParser x ∧ (c.removeParser x).2.hasParser x = false ∧
        (c.getParser? x = none → (c.removeParser x).2 = c) ∧
        ∀ p, c.getParser? x = some p → ∃ before after, c.parsers = before ++ p :: after ∧
          (c.removeParser x).2 = { c with parsers := before ++ after }) ∧
      ∀ p, ∃ added next, c.addParser (.parser p) = .ok (added, next) ∧
        (added = true ↔ next = { c with parsers := c.parsers ++ [p] }) ∧
        (added = true ↔ ∀ q ∈ c.parsers, q.id ≠ p.id) ∧ (added = false ↔ next = c) := by
  have orderly := orderly_of_reachable reached
  have distinct := orderly.distinct c current
  refine ⟨distinct, ?_, ?_, ?_, ?_, ?_⟩
  · intro p registered
    refine ⟨(Counter.getParser?_iff distinct).mpr ⟨registered, .byId p⟩, fun q same => ?_⟩
    exact (Counter.getParser?_iff distinct).mpr ⟨registered, .byParser same⟩
  · intro q member
    apply List.find?_congr
    intro p registered
    have there : p ∈ w.held := by
      rw [held_of_counter current]
      exact List.mem_append_right _ (List.mem_append_left _ registered)
    rw [Bool.eq_iff_iff]
    by_cases same : p.serial = q.serial
    · simp [same, orderly.numbered.ids p there q member same]
    · simp [same]
  · intro x
    refine ⟨?_, fun p => Counter.getParser?_iff distinct⟩
    rw [Counter.hasParser, Option.isSome_iff_exists]
  · intro x
    obtain ⟨told, missing, found⟩ := Counter.removeParser_spec distinct x
    exact ⟨told, Counter.not_hasParser_after_removeParser distinct x, missing, found⟩
  · exact Counter.addParser_spec c

theorem registry_refuses_second_of_one_id :
    let first : Parser := ⟨0, .plain, "x", "Plain Text", []⟩
    let second : Parser := ⟨1, .failing, "x", "Boom", ["boom"]⟩
    let third : Parser := ⟨2, .plain, "plain", "Plain Text", ["txt", "text"]⟩
    let c : Counter := { parsers := [first, third] }
    let w : Workbench :=
      { nextSerial := 4, named := [("a", first), ("b", second)], counter := some c }
    w.Reachable ∧ c.getParser? (.parser second) = some first ∧
      (c.removeParser (.parser second)).2.hasParser (.parser second) = false := by
  intro first second third c w
  let named : Workbench := { nextSerial := 2, named := [("a", first), ("b", second)] }
  have one : Reachable { nextSerial := 1, named := [("a", first)] } :=
    .makeParser .start (rfl : makeParser {} "a" .plain (.str "x") .nothing .nothing = .ok (first, _))
  have two : Reachable named :=
    .makeParser one (rfl : makeParser _ "b" .failing (.str "x") .nothing .nothing = .ok (second, _))
  have counting : Reachable { named with counter := some { parsers := [first] } } :=
    .newCounter two (by decide)
      (rfl : named.newCounter (.value .nothing) (.list [.parser first, .parser second]) = .ok _)
  have reached : w.Reachable := .register counting (.list [.str "plain"]) .nothing .nothing
  obtain ⟨_, found, _, _, removed, _⟩ := registry_holds_each_id_once reached rfl
  have led : c.getParser? (.parser second) = some first := (found first (by decide)).2 second rfl
  exact ⟨reached, led, (removed (.parser second)).2.1⟩

end Workbench

end SourceTally
