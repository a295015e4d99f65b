import SourceTally.Counter.Registry
import SourceTally.Proofs.AliasTable
import SourceTally.Proofs.Parser.Extensions
import SourceTally.Proofs.Work

/- Arguments that stand for many items: extensions for a parser, parsers for a counter, pairs for an
   alias table. Each is all or nothing, and has the effect of one call for each item. Options are
   made from their arguments alone. -/
namespace SourceTally

open Work

def Value.elements : Value → List Value
  | .list items => items
  | .tuple items => items
  | value => [value]

section

variable {α : Type} {read : Value → Except Error α} {wrap : α → Value}

theorem mapM_ok_iff_map (inverse : ∀ value a, read value = .ok a ↔ value = wrap a)
    {items : List Value} {results : List α} :
    items.mapM read = .ok results ↔ items = results.map wrap := by
  rw [mapM_ok_iff]
  simp only [inverse]
  rw [← List.forall₂_map_right_iff (f := wrap), List.forall₂_eq_eq_eq]

theorem singleton_eq_map_iff {value : Value} {results : List α} :
    [value] = results.map wrap ↔ ∃ a, results = [a] ∧ wrap a = value := by
  rw [eq_comm, List.map_eq_singleton_iff]

end

namespace Parser

def extend (value : Value) : Work Parser Bool := call (·.addExtension value)

def extendInSteps (value : Value) : Work Parser Bool :=
  checked (extensionTexts value) (fun text => extend (.str text)) anyYes

theorem textItem_ok_iff (value : Value) (text : String) :
    textItem value = .ok text ↔ value = .str text := by
  cases value <;> simp [textItem, Value.text?]

theorem extensionTexts_ok_iff {value : Value} {texts : List String} :
    extensionTexts value = .ok texts ↔ value.elements = texts.map .str := by
  cases value with
  | list items => exact mapM_ok_iff_map textItem_ok_iff
  | tuple items => exact mapM_ok_iff_map textItem_ok_iff
  | str text =>
    simp only [Value.elements, singleton_eq_map_iff]
    simp [extensionTexts, eq_comm]
  | _ =>
    simp only [Value.elements, singleton_eq_map_iff]
    simp [extensionTexts]

theorem outcome_extend_one (text : String) (p : Parser) :
    (extend (.str text)).outcome p = (.ok (p.addText text).1, (p.addText text).2) := by
  rw [extend, outcome_call, addExtension_text]

theorem addTexts_oneByOne (texts : List String) (p : Parser) :
    OneByOne (fun text => extend (.str text)) anyYes texts p (p.addTexts texts) := by
  apply oneByOne_anyYes addText addTexts outcome_extend_one
  · intro p
    rfl
  · intro p text rest
    simp only [addTexts]

theorem extend_allOrNothing (value : Value) (p : Parser) :
    AllOrNothing (extend value) (fun texts => value.elements = texts.map .str)
      (fun text => extend (.str text)) anyYes p :=
  allOrNothing_of_iff (fun _ => extensionTexts_ok_iff) (addTexts_oneByOne · p)

theorem extendInSteps_eq (value : Value) (p : Parser) :
    (extendInSteps value).outcome p = (extend value).outcome p :=
  checked_eq_call fun texts _ => addTexts_oneByOne texts p

end Parser

namespace Counter

def enrol (value : Value) : Work Counter Bool := call (·.addParser value)

def enrolInSteps (value : Value) : Work Counter Bool :=
  checked (parsersOf value) (fun p => enrol (.parser p)) anyYes

theorem parserItem_ok_iff (value : Value) (p : Parser) :
    parserItem value = .ok p ↔ value = .parser p := by
  cases value <;> simp [parserItem]

theorem parsersOf_ok_iff {value : Value} {parsers : List Parser} :
    parsersOf value = .ok parsers ↔ value.elements = parsers.map .parser := by
  cases value with
  | list items => exact mapM_ok_iff_map parserItem_ok_iff
  | tuple items => exact mapM_ok_iff_map parserItem_ok_iff
  | parser p =>
    simp only [Value.elements, singleton_eq_map_iff]
    simp [parsersOf, eq_comm]
  | _ =>
    simp only [Value.elements, singleton_eq_map_iff]
    simp [parsersOf]

theorem outcome_enrol_one (p : Parser) (c : Counter) :
    (enrol (.parser p)).outcome c = (.ok (c.addOne p).1, (c.addOne p).2) := by
  simp only [enrol, outcome_call, addParser, parsersOf, addEach, bind, Except.bind, pure,
    Except.pure, Bool.or_false]

theorem addEach_oneByOne (parsers : List Parser) (c : Counter) :
    OneByOne (fun p => enrol (.parser p)) anyYes parsers c (c.addEach parsers) := by
  apply oneByOne_anyYes addOne addEach outcome_enrol_one
  · intro c
    rfl
  · intro c p rest
    simp only [addEach]

theorem enrol_allOrNothing (value : Value) (c : Counter) :
    AllOrNothing (enrol value) (fun parsers => value.elements = parsers.map .parser)
      (fun p => enrol (.parser p)) anyYes c :=
  allOrNothing_of_iff (fun _ => parsersOf_ok_iff) (addEach_oneByOne · c)

theorem enrolInSteps_eq (value : Value) (c : Counter) :
    (enrolInSteps value).outcome c = (enrol value).outcome c :=
  checked_eq_call fun parsers _ => addEach_oneByOne parsers c

end Counter

namespace AliasTable

def IsPair (item : Value) (entry : Value × Value) : Prop :=
  item = .list [entry.1, entry.2] ∨ item = .tuple [entry.1, entry.2]

/-- The entries that an argument lists: those of a mapping, or items that are pairs. -/
inductive Lists : Value → List (Value × Value) → Prop where
  | named (entries : List (String × Value)) :
      Lists (.mapping entries) (entries.map fun entry => (.str entry.1, entry.2))
  | paired {value : Value} {items : List Value} {entries : List (Value × Value)}
      (unnamed : ∀ entries, value ≠ .mapping entries) (iterable : value.items? = some items)
      (pairs : List.Forall₂ IsPair items entries) : Lists value entries

def Valid (entry : Value × Value) : Prop :=
  entry.1.cleanExtension ≠ "" ∧ entry.2.cleanExtension ≠ ""

def overwritten {α : Type} (source : α → String) (items : List α)
    (previous : List (Option String)) : List (String × String) :=
  (items.zip previous).filterMap fun told => told.2.map (source told.1, ·)

def write (entry : Value × Value) : Work AliasTable (Option String) :=
  call (·.add entry.1 entry.2)

def writeAll (value : Value) : Work AliasTable (List (String × String)) := call (·.addMany value)

def writeAllInSteps (value : Value) : Work AliasTable (List (String × String)) :=
  checked (cleanPairs value) (fun pair => write (.str pair.1, .str pair.2)) (overwritten (·.1))

def Cleans (entry : Value × Value) (pair : String × String) : Prop :=
  cleanPair entry.1 entry.2 = .ok pair

theorem cleanEntry_ok_iff {item : Value} {pair : String × String} :
    cleanEntry item = .ok pair ↔ ∃ entry, IsPair item entry ∧ Cleans entry pair := by
  constructor
  · intro cleaned
    simp only [cleanEntry] at cleaned
    split at cleaned
    · rename_i old new
      exact ⟨(old, new), .inl rfl, cleaned⟩
    · rename_i old new
      exact ⟨(old, new), .inr rfl, cleaned⟩
    · cases cleaned
  · rintro ⟨entry, rfl | rfl, cleaned⟩
    · exact cleaned
    · exact cleaned

theorem mapM_cleanEntry_ok_iff {items : List Value} {pairs : List (String × String)} :
    items.mapM cleanEntry = .ok pairs ↔
      ∃ entries, List.Forall₂ IsPair items entries ∧ List.Forall₂ Cleans entries pairs := by
  rw [mapM_ok_iff, ← forall₂_through]
  simp only [cleanEntry_ok_iff]

theorem cleanPairs_ok_iff {value : Value} {pairs : List (String × String)} :
    cleanPairs value = .ok pairs ↔
      ∃ entries, Lists value entries ∧ List.Forall₂ Cleans entries pairs := by
  constructor
  · intro cleaned
    simp only [cleanPairs] at cleaned
    split at cleaned
    · rename_i entries
      exact ⟨_, .named entries, List.forall₂_map_left_iff.mpr (mapM_ok_iff.mp cleaned)⟩
    · rename_i unnamed
      split at cleaned
      · rename_i items iterable
        obtain ⟨entries, paired, each⟩ := mapM_cleanEntry_ok_iff.mp cleaned
        exact ⟨entries, .paired unnamed iterable paired, each⟩
      · cases cleaned
  · rintro ⟨entries, listed, each⟩
    cases listed with
    | named entries => exact mapM_ok_iff.mpr (List.forall₂_map_left_iff.mp each)
    | paired unnamed iterable paired =>
      have cleaned := mapM_cleanEntry_ok_iff.mpr ⟨entries, paired, each⟩
      simpa only [cleanPairs, iterable] using cleaned

theorem cleans_iff {entry : Value × Value} {pair : String × String} :
    Cleans entry pair ↔
      Valid entry ∧ pair = (entry.1.cleanExtension, entry.2.cleanExtension) := by
  rw [Cleans, cleanPair_ok_iff, Valid, and_assoc]

theorem exists_cleans_iff {entries : List (Value × Value)} :
    (∃ pairs, List.Forall₂ Cleans entries pairs) ↔ ∀ entry ∈ entries, Valid entry := by
  constructor
  · rintro ⟨pairs, each⟩
    have split := each.imp fun entry pair (cleans : Cleans entry pair) => cleans_iff.mp cleans
    exact ((List.forall₂_and_left entries pairs).mp split).1
  · intro valid
    refine ⟨entries.map fun entry => (entry.1.cleanExtension, entry.2.cleanExtension), ?_⟩
    rw [List.forall₂_map_right_iff, List.forall₂_same]
    intro entry member
    exact cleans_iff.mpr ⟨valid entry member, rfl⟩

theorem putAll_cons (table : AliasTable) (pair : String × String) (rest : List (String × String)) :
    table.putAll (pair :: rest) =
      (((table.put pair).1.map (pair.1, ·)).toList ++ ((table.put pair).2.putAll rest).1,
        ((table.put pair).2.putAll rest).2) := by
  simp only [putAll]
  cases (table.put pair).1 with
  | none => rfl
  | some target => rfl

theorem overwritten_cons {α : Type} (source : α → String) (item : α) (items : List α)
    (first : Option String) (previous : List (Option String)) :
    overwritten source (item :: items) (first :: previous) =
      (first.map (source item, ·)).toList ++ overwritten source items previous := by
  simp only [overwritten, List.zip_cons_cons, List.filterMap_cons]
  cases first with
  | none => rfl
  | some target => rfl

theorem outcome_write {entry : Value × Value} {pair : String × String} (cleans : Cleans entry pair)
    (table : AliasTable) :
    (write entry).outcome table = (.ok (table.put pair).1, (table.put pair).2) := by
  have cleaned : cleanPair entry.1 entry.2 = .ok pair := cleans
  simp only [write, outcome_call, add, cleaned, bind, Except.bind, pure, Except.pure]

theorem putAll_oneByOne {α : Type} {sides : α → Value × Value} {source : α → String}
    {items : List α} {pairs : List (String × String)}
    (each : List.Forall₂ (fun item pair => Cleans (sides item) pair ∧ source item = pair.1)
      items pairs) (table : AliasTable) :
    OneByOne (fun item => write (sides item)) (overwritten source) items table
      (table.putAll pairs) := by
  induction each generalizing table with
  | nil => exact ⟨[], rfl, rfl⟩
  | @cons item pair items pairs first _ ih =>
    obtain ⟨cleans, named⟩ := first
    obtain ⟨previous, calls, summed⟩ := ih (table.put pair).2
    rw [putAll_cons]
    have done := outcome_write cleans table
    refine ⟨(table.put pair).1 :: previous, outcome_mapM_cons done calls, ?_⟩
    rw [overwritten_cons, named, ← summed]

theorem writeAll_allOrNothing (value : Value) (table : AliasTable) :
    AllOrNothing (writeAll value)
      (fun entries => Lists value entries ∧ ∀ entry ∈ entries, Valid entry)
      write (overwritten (·.1.cleanExtension)) table := by
  apply allOrNothing_call
  · rintro e failed ⟨entries, listed, valid⟩
    obtain ⟨pairs, each⟩ := exists_cleans_iff.mpr valid
    rw [cleanPairs_ok_iff.mpr ⟨entries, listed, each⟩] at failed
    cases failed
  · intro pairs success
    obtain ⟨entries, listed, each⟩ := cleanPairs_ok_iff.mp success
    refine ⟨entries, ⟨listed, exists_cleans_iff.mp ⟨pairs, each⟩⟩, ?_⟩
    apply putAll_oneByOne (each.imp _)
    intro entry pair cleans
    obtain ⟨_, rfl⟩ := cleans_iff.mp cleans
    exact ⟨cleans, rfl⟩

theorem writeAllInSteps_eq (value : Value) (table : AliasTable) :
    (writeAllInSteps value).outcome table = (writeAll value).outcome table := by
  apply checked_eq_call
  intro pairs success
  apply putAll_oneByOne
  rw [List.forall₂_same]
  intro pair member
  -- each call cleans its pair again, which changes nothing
  obtain ⟨source, target⟩ := cleanPairs_stored success pair member
  exact ⟨cleanPair_of_isProper source target, rfl⟩

end AliasTable

namespace Options

def given (entries overrides : List (String × Value)) (name : String) : Option Value :=
  (Assoc.get? overrides.reverse name).or (Assoc.get? entries name)

def Request.entries? : Request → Option (List (String × Value))
  | .made requireExtension defaultParser =>
    some [("require_extension", requireExtension), ("default_parser", defaultParser)]
  | .value .nothing => some []
  | .value (.mapping entries) => some entries
  | .value _ => none

structure Made (given : String → Option Value) (made : Options) : Prop where
  known : ∀ name, given name ≠ none → name ∈ known
  requireExtension : made.requireExtension = (given "require_extension").getD (.bool true)
  defaultParser :
    (given "default_parser").getD .nothing = made.defaultParser.elim .nothing .parser

/-- The options that two arguments ask for. Nothing else has a part in them. -/
def MadeFrom (request : Request) (overrides : List (String × Value)) (made : Options) : Prop :=
  ∃ entries, request.entries? = some entries ∧ Made (given entries overrides) made

theorem defaultParserOf_ok_iff {value : Option Value} {chosen : Option Parser} :
    defaultParserOf value = .ok chosen ↔ value.getD .nothing = chosen.elim .nothing .parser := by
  cases value with
  | none => cases chosen <;> simp [defaultParserOf]
  | some value => cases value <;> cases chosen <;> simp [defaultParserOf]

theorem get?_ne_none_iff {entries : List (String × Value)} {name : String} :
    Assoc.get? entries name ≠ none ↔ name ∈ entries.map (·.1) := by
  rw [ne_eq, Assoc.get?_eq_none_iff, not_not, Assoc.has_iff, List.mem_map]
  simp only [beq_iff_eq]

theorem unknown_eq_nil_iff {entries : List (String × Value)} :
    ((entries.map (·.1)).filter fun name => !known.contains name) = [] ↔
      ∀ name, Assoc.get? entries name ≠ none → name ∈ known := by
  simp only [get?_ne_none_iff, List.filter_eq_nil_iff, Bool.not_eq_true, Bool.not_eq_false',
    List.contains_iff_mem]

theorem ofEntries_ok_iff {entries : List (String × Value)} {made : Options} :
    ofEntries entries = .ok made ↔ Made (Assoc.get? entries) made := by
  constructor
  · intro success
    simp only [ofEntries] at success
    split at success
    · cases success
    · rename_i allKnown
      obtain ⟨chosen, parser, same⟩ := bind_ok success
      cases same
      exact ⟨unknown_eq_nil_iff.mp (not_not.mp allKnown), rfl, defaultParserOf_ok_iff.mp parser⟩
  · intro asked
    have allKnown := unknown_eq_nil_iff.mpr asked.known
    have parser := defaultParserOf_ok_iff.mpr asked.defaultParser
    simp only [ofEntries, allKnown, parser]
    simp [bind, Except.bind, pure, Except.pure, ← asked.requireExtension]

theorem ofRequest_ok_iff {request : Request} {overrides : List (String × Value)}
    {made : Options} : ofRequest request overrides = .ok made ↔ MadeFrom request overrides made := by
  have merged : ∀ entries,
      Assoc.get? (Assoc.insertAll entries overrides) = given entries overrides := by
    intro entries
    funext name
    exact Assoc.get?_insertAll entries overrides name
  cases request with
  | made requireExtension defaultParser =>
    simp [ofRequest, MadeFrom, Request.entries?, ofEntries_ok_iff, merged]
  | value v =>
    cases v with
    | nothing =>
      simp [ofRequest, MadeFrom, Request.entries?, ofEntries_ok_iff, Assoc.ofList, merged]
    | mapping entries => simp [ofRequest, MadeFrom, Request.entries?, ofEntries_ok_iff, merged]
    | _ => simp [ofRequest, MadeFrom, Request.entries?]

end Options

namespace Counter

def configure (options : Options.Request) (overrides : List (String × Value)) :
    Work Counter Options :=
  call fun c => (c.applyOptions options overrides).map fun next => (next.options, next)

theorem outcome_configure (options : Options.Request) (overrides : List (String × Value)) :
    (∃ e, (¬∃ made, Options.MadeFrom options overrides made) ∧
        ∀ c, (configure options overrides).outcome c = (.error e, c)) ∨
      ∃ made, Options.MadeFrom options overrides made ∧
        ∀ c, (configure options overrides).outcome c = (.ok made, { c with options := made }) := by
  cases ended : Options.ofRequest options overrides with
  | error e =>
    left
    refine ⟨e, ?_, ?_⟩
    · rintro ⟨made, asked⟩
      rw [Options.ofRequest_ok_iff.mpr asked] at ended
      cases ended
    · intro c
      simp only [configure, outcome_call, applyOptions, ended, bind, Except.bind, Except.map]
  | ok made =>
    right
    refine ⟨made, Options.ofRequest_ok_iff.mp ended, ?_⟩
    intro c
    simp only [configure, outcome_call, applyOptions, ended, bind, Except.bind, pure, Except.pure,
      Except.map]

end Counter

/-- Extensions, parsers and aliases that are given all at once are refused with the state as it was,
    when the argument stands for no fitting items, or have the effect of single calls from left to
    right; and so do the same calls made in steps after one check of the whole argument. Options are
    refused with those in force as they were, or are made from the arguments alone. -/
theorem batches_are_all_or_nothing (value : Value) (options : Options.Request)
    (overrides : List (String × Value)) :
    (∀ p, AllOrNothing (Parser.extend value) (fun texts => value.elements = texts.map .str)
        (fun text => Parser.extend (.str text)) anyYes p ∧
      (Parser.extendInSteps value).outcome p = (Parser.extend value).outcome p) ∧
    (∀ c, AllOrNothing (Counter.enrol value) (fun parsers => value.elements = parsers.map .parser)
        (fun p => Counter.enrol (.parser p)) anyYes c ∧
      (Counter.enrolInSteps value).outcome c = (Counter.enrol value).outcome c) ∧
    (∀ table, AllOrNothing (AliasTable.writeAll value)
        (fun entries => AliasTable.Lists value entries ∧ ∀ entry ∈ entries, AliasTable.Valid entry)
        AliasTable.write (AliasTable.overwritten (·.1.cleanExtension)) table ∧
      (AliasTable.writeAllInSteps value).outcome table =
        (AliasTable.writeAll value).outcome table) ∧
    ((∃ e, (¬∃ made, Options.MadeFrom options overrides made) ∧
        ∀ c, (Counter.configure options overrides).outcome c = (.error e, c)) ∨
      ∃ made, Options.MadeFrom options overrides made ∧
        ∀ c, (Counter.configure options overrides).outcome c =
          (.ok made, { c with options := made })) := by
  refine ⟨fun p => ⟨?_, ?_⟩, fun c => ⟨?_, ?_⟩, fun table => ⟨?_, ?_⟩, ?_⟩
  · exact Parser.extend_allOrNothing value p
  · exact Parser.extendInSteps_eq value p
  · exact Counter.enrol_allOrNothing value c
  · exact Counter.enrolInSteps_eq value c
  · exact AliasTable.writeAll_allOrNothing value table
  · exact AliasTable.writeAllInSteps_eq value table
  · exact Counter.outcome_configure options overrides

end SourceTally
