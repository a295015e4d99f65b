import SourceTally.CommandLine.Arguments
import SourceTally.Proofs.Counter.Setup

/- Aliases on the command line. A value with one equals sign is taken just when an alias table takes
   its two sides. What was taken is in clean form, so neither merging the values nor writing them to
   the table of a counter refuses or changes any of them, and of the values for an extension the last
   one counts. -/
namespace SourceTally

namespace CommandLine

structure Sides (value old new : String) : Prop where
  joined : value = old ++ "=" ++ new
  left : '=' ∉ old.toList
  right : '=' ∉ new.toList

theorem split_of_sides {value old new : String} (sides : Sides value old new) :
    (Text.split '=' value.toList).map String.ofList = [old, new] := by
  have free : ∀ part ∈ [old.toList, new.toList], '=' ∉ part := by
    simpa using ⟨sides.left, sides.right⟩
  have text : value.toList = ['='].intercalate [old.toList, new.toList] := by
    simp [sides.joined]
  rw [text, Text.split_intercalate free]
  simp

theorem sides_of_split {value old new : String}
    (parts : (Text.split '=' value.toList).map String.ofList = [old, new]) :
    Sides value old new := by
  have split : Text.split '=' value.toList = [old.toList, new.toList] := by
    have texts := congrArg (List.map String.toList) parts
    simpa [Function.comp_def] using texts
  have free := @Text.not_mem_of_mem_split '=' value.toList
  have joined := @Text.intercalate_split '=' value.toList
  rw [split] at free joined
  refine ⟨?_, free _ (by simp), free _ (by simp)⟩
  rw [← String.toList_inj, ← joined]
  simp

theorem readAlias_of_sides {value old new : String} (sides : Sides value old new)
    {pair : String × String} :
    readAlias value = .ok pair ↔
      Extension.clean old ≠ "" ∧ Extension.clean new ≠ "" ∧
        pair = (Extension.clean old, Extension.clean new) := by
  simp only [readAlias, split_of_sides sides]
  by_cases first : Extension.clean old = ""
  · by_cases second : Extension.clean new = "" <;> simp [first, second]
  · by_cases second : Extension.clean new = ""
    · simp [first, second]
    · simp [first, second, eq_comm]

theorem readAlias_eq_cleanPair {old new : String} (left : '=' ∉ old.toList)
    (right : '=' ∉ new.toList) {pair : String × String} :
    readAlias (old ++ "=" ++ new) = .ok pair ↔
      AliasTable.cleanPair (.str old) (.str new) = .ok pair := by
  rw [readAlias_of_sides ⟨rfl, left, right⟩, AliasTable.cleanPair_ok_iff]
  rfl

theorem sides_of_readAlias {value : String} {pair : String × String}
    (taken : readAlias value = .ok pair) : ∃ old new, Sides value old new := by
  simp only [readAlias] at taken
  split at taken
  · rename_i old new parts
    exact ⟨old, new, sides_of_split parts⟩
  · cases taken

/-- The value aliases one extension to another, both in clean form. -/
def Spells (value source target : String) : Prop :=
  ∃ old new, Sides value old new ∧ Extension.clean old = source ∧ Extension.clean new = target

theorem spells_iff_of_readAlias {value : String} {pair : String × String}
    (taken : readAlias value = .ok pair) {source target : String} :
    Spells value source target ↔ pair = (source, target) := by
  constructor
  · rintro ⟨old, new, sides, rfl, rfl⟩
    exact ((readAlias_of_sides sides).mp taken).2.2
  · rintro rfl
    obtain ⟨old, new, sides⟩ := sides_of_readAlias taken
    obtain ⟨_, _, same⟩ := (readAlias_of_sides sides).mp taken
    obtain ⟨rfl, rfl⟩ := Prod.mk.inj same
    exact ⟨old, new, sides, rfl, rfl⟩

theorem readAlias_isProper {value : String} {pair : String × String}
    (taken : readAlias value = .ok pair) :
    Extension.IsProper pair.1 ∧ Extension.IsProper pair.2 := by
  obtain ⟨old, new, sides⟩ := sides_of_readAlias taken
  obtain ⟨first, second, rfl⟩ := (readAlias_of_sides sides).mp taken
  exact ⟨Extension.clean_isProper first, Extension.clean_isProper second⟩

abbrev ReadAs (values : List String) (pairs : List (String × String)) : Prop :=
  List.Forall₂ (fun value pair => readAlias value = .ok pair) values pairs

/-- The last of the values that alias an extension aliases it to this target. -/
def LastTarget (values : List String) (extension target : String) : Prop :=
  ∃ before value after, values = before ++ value :: after ∧ Spells value extension target ∧
    ∀ later ∈ after, ∀ other, ¬Spells later extension other

variable {values : List String} {pairs : List (String × String)} {extension target : String}

theorem get?_of_unspelled (accepted : ReadAs values pairs)
    (unspelled : ∀ value ∈ values, ∀ target, ¬Spells value extension target) :
    Assoc.get? pairs.reverse extension = none := by
  induction accepted with
  | nil => rfl
  | @cons value pair values pairs taken _ ih =>
    obtain ⟨here, later⟩ := List.forall_mem_cons.mp unspelled
    have differs : ¬(pair.1 == extension) = true := by
      intro same
      apply here pair.2
      rw [spells_iff_of_readAlias taken, ← eq_of_beq same]
    rw [List.reverse_cons, Assoc.get?_append, ih later, Assoc.get?_cons, if_neg differs]
    rfl

theorem get?_of_lastTarget (accepted : ReadAs values pairs)
    (last : LastTarget values extension target) :
    Assoc.get? pairs.reverse extension = some target := by
  obtain ⟨before, value, after, shape, spelled, unspelled⟩ := last
  induction accepted generalizing before with
  | nil => simp at shape
  | @cons first pair values pairs taken rest ih =>
    rw [List.reverse_cons, Assoc.get?_append]
    cases before with
    | nil =>
      obtain ⟨rfl, rfl⟩ := List.cons.inj shape
      obtain rfl := (spells_iff_of_readAlias taken).mp spelled
      rw [get?_of_unspelled rest unspelled, Assoc.get?_cons, if_pos BEq.rfl]
      rfl
    | cons other before =>
      rw [ih before (List.cons.inj shape).2]
      rfl

theorem mergeAliases_stored (accepted : ReadAs values pairs) :
    AliasTable.Stored (mergeAliases pairs) := by
  have proper : AliasTable.Stored pairs := by
    induction accepted with
    | nil => exact AliasTable.stored_nil
    | cons taken _ ih => exact List.forall_mem_cons.mpr ⟨readAlias_isProper taken, ih⟩
  exact Assoc.forall_insertAll AliasTable.stored_nil proper

end CommandLine

namespace Configuration

variable {config : Configuration}

theorem registration_aliases (config : Configuration) :
    config.registration.counter.aliases = [] := by
  obtain ⟨parsers, options, shape⟩ := Counter.register_shape {} 0 _ _ _
  exact congrArg Counter.aliases shape

theorem counter_of_stored (stored : AliasTable.Stored config.aliases) :
    config.counter = config.registration.added.map fun _ =>
      { config.registration.counter with aliases := Assoc.ofList config.aliases } := by
  have taken := AliasTable.cleanPairs_of_stored stored
  have written := AliasTable.putAll_table [] config.aliases
  cases registered : config.registration.added with
  | error e => simp only [counter, registered, bind, Except.bind, Except.map]
  | ok parsers =>
    simp only [counter, registered, Counter.addAliases, AliasTable.addMany, registration_aliases,
      taken, bind, Except.bind, pure, Except.pure, Except.map, written]
    rfl

end Configuration

namespace CommandLine

theorem resolve_of_readAs {values : List String} {a : Arguments} {c : Counter}
    (accepted : ReadAs values a.aliases) (built : a.configuration.counter = .ok c) (x : Value) :
    c.aliases.resolve x =
      (Assoc.get? a.aliases.reverse x.cleanExtension).getD x.cleanExtension := by
  rw [Configuration.counter_of_stored (mergeAliases_stored accepted)] at built
  obtain ⟨parsers, _, rfl⟩ := map_ok built
  -- The merged pairs have distinct sources, so writing them once more changes nothing.
  have merged : Assoc.ofList (mergeAliases a.aliases) = mergeAliases a.aliases :=
    Assoc.ofList_of_distinct (Assoc.distinct_ofList a.aliases)
  show (Assoc.get? (Assoc.ofList (mergeAliases a.aliases)) x.cleanExtension).getD _ = _
  rw [merged, mergeAliases, Assoc.get?_ofList]

/-- A value is taken on the command line just when a table takes its sides. With any values that were
    taken the counter of a run is set up, unless its parsers cannot be registered; and it replaces an
    extension by the target in the last value for it, and leaves it as it is when there is none. -/
theorem readAlias_agrees_with_table :
    (∀ (old new : String) (table : AliasTable), '=' ∉ old.toList → '=' ∉ new.toList →
      ((∃ pair, readAlias (old ++ "=" ++ new) = .ok pair) ↔
        ∃ result, table.add (.str old) (.str new) = .ok result)) ∧
    ∀ (values : List String) (a : Arguments), ReadAs values a.aliases →
      (∀ e, a.configuration.counter = .error e ↔ a.configuration.registration.added = .error e) ∧
      ∀ c, a.configuration.counter = .ok c → ∀ x : Value,
        (∀ target, LastTarget values x.cleanExtension target → c.aliases.resolve x = target) ∧
        ((∀ value ∈ values, ∀ target, ¬Spells value x.cleanExtension target) →
          c.aliases.resolve x = x.cleanExtension) := by
  constructor
  · intro old new table left right
    rw [AliasTable.add_ok_iff]
    exact exists_congr fun pair => readAlias_eq_cleanPair left right
  · intro values a accepted
    constructor
    · intro e
      rw [Configuration.counter_of_stored (mergeAliases_stored accepted)]
      cases a.configuration.registration.added <;> simp [Except.map]
    · intro c built x
      rw [resolve_of_readAs accepted built]
      constructor
      · intro target last
        rw [get?_of_lastTarget accepted last]
        rfl
      · intro unspelled
        rw [get?_of_unspelled accepted unspelled]
        rfl

theorem readAlias_agrees_on_repeated_extension :
    let values := [".Vue=JS ", "tsx=x.ts", "VUE= c"]
    let a : Arguments :=
      { aliases := [("vue", "js"), ("tsx", "ts"), ("vue", "c")], parserIds := some ["plain"] }
    let table : AliasTable := [("vue", "js")]
    ReadAs values a.aliases ∧ (∃ result, table.add (.str ".Vue") (.str "JS ") = .ok result) ∧
      ∃ c, a.configuration.counter = .ok c ∧ c.aliases.resolve (.str "d.vUe") = "c" ∧
        c.aliases.resolve (.str "Js") = "js" ∧ c.aliases.resolve (.int 1) = "" := by
  intro values a table
  have first : readAlias ".Vue=JS " = .ok ("vue", "js") := by decide +kernel
  have second : readAlias "tsx=x.ts" = .ok ("tsx", "ts") := by decide +kernel
  have third : readAlias "VUE= c" = .ok ("vue", "c") := by decide +kernel
  have accepted : ReadAs values a.aliases := .cons first (.cons second (.cons third .nil))
  have unspelled : ∀ extension, extension ≠ "vue" → extension ≠ "tsx" →
      ∀ value ∈ values, ∀ target, ¬Spells value extension target := by
    intro extension other other'
    simp [values, spells_iff_of_readAlias first, spells_iff_of_readAlias second,
      spells_iff_of_readAlias third, other.symm, other'.symm]
  have ready : a.configuration.counter.isOk = true := by decide +kernel
  obtain ⟨c, built⟩ := exists_of_isOk ready
  have taken := (readAlias_agrees_with_table.1 ".Vue" "JS " table (by decide) (by decide)).mp
    ⟨_, first⟩
  have resolves := (readAlias_agrees_with_table.2 values a accepted).2 c built
  have mixed : (Value.str "d.vUe").cleanExtension = "vue" := by decide +kernel
  have plain : (Value.str "Js").cleanExtension = "js" := by decide +kernel
  refine ⟨accepted, taken, c, built, ?_, ?_, ?_⟩
  · apply (resolves (.str "d.vUe")).1
    rw [mixed]
    exact ⟨[".Vue=JS ", "tsx=x.ts"], "VUE= c", [], rfl,
      (spells_iff_of_readAlias third).mpr rfl, by simp⟩
  · rw [← plain]
    exact (resolves (.str "Js")).2 (unspelled _ (by rw [plain]; decide) (by rw [plain]; decide))
  · exact (resolves (.int 1)).2 (unspelled "" (by decide) (by decide))

end CommandLine

end SourceTally
