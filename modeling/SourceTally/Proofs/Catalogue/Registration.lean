import SourceTally.Proofs.Extension.Clean
import SourceTally.Proofs.Workbench

/- Registration by id, as a whole. The ids are gone through from left to right, and each one that is
   not registered by then gets a new parser; so a registration that succeeds adds the missing ids,
   each at its first place, and one that fails has added those before the id at which it ended. -/
namespace SourceTally

theorem Parser.addTexts_of_proper {p : Parser} {texts : List String}
    (proper : ∀ text ∈ texts, Extension.IsProper text) (once : (p.extensions ++ texts).Nodup) :
    (p.addTexts texts).2 = { p with extensions := p.extensions ++ texts } := by
  induction texts generalizing p with
  | nil => simp [addTexts]
  | cons text texts ih =>
    obtain ⟨now, later⟩ := List.forall_mem_cons.mp proper
    have fresh : text ∉ p.extensions := by
      intro member
      exact (List.nodup_append.mp once).2.2 text member text List.mem_cons_self rfl
    have added : p.addText text = (true, { p with extensions := p.extensions ++ [text] }) := by
      simp [addText, now.fixed, now.nonempty, fresh]
    have rest := ih (p := { p with extensions := p.extensions ++ [text] }) later (by simpa using once)
    simp only [addTexts, added, rest]
    simp

namespace Catalogue

def entry (serial : Nat) (scanner : Scanner) : Parser where
  serial := serial
  scanner := scanner
  id := scanner.defaultId
  name := scanner.defaultName
  extensions := scanner.defaultExtensions ++ seedExtensions scanner

def missing (c : Counter) (asked : List String) : List String :=
  (asked.filter fun id => !(c.parsers.map (·.id)).contains id).eraseDups

/-- The texts that an argument asks for: its items, or all ids when it has none. -/
inductive Asks : Value → List String → Prop where
  | all {requested : Value} (absent : requested.isTrue = false) : Asks requested ids
  | these {requested : Value} {texts : List String} (present : requested.isTrue = true)
      (items : requested.items? = some (texts.map .str)) : Asks requested texts

inductive AsksDefault : Value → String → Prop where
  | plain {value : Value} (absent : value.isTrue = false) :
      AsksDefault value Scanner.plain.defaultId
  | this {text : String} (present : text ≠ "") : AsksDefault (.str text) text

structure IsNew (others : List Parser) (p : Parser) : Prop where
  made : ∃ scanner ∈ scanners, p = entry p.serial scanner
  apart : ∀ q ∈ others, q.serial ≠ p.serial

variable {c : Counter} {serial : Nat}

theorem entry_proper {scanner : Scanner} (known : scanner ∈ scanners) :
    (∀ text ∈ scanner.defaultExtensions ++ seedExtensions scanner, Extension.IsProper text) ∧
      (scanner.defaultExtensions ++ seedExtensions scanner).Nodup := by
  have checked : (scanners.all fun scanner =>
      ((scanner.defaultExtensions ++ seedExtensions scanner).all fun text =>
        decide (text ≠ "") && text.toList.all Extension.isSimple) &&
      decide (scanner.defaultExtensions ++ seedExtensions scanner).Nodup) = true := by
    decide +kernel
  obtain ⟨simple, once⟩ := Bool.and_eq_true_iff.mp (List.all_eq_true.mp checked scanner known)
  refine ⟨fun text member => ?_, of_decide_eq_true once⟩
  obtain ⟨nonempty, letters⟩ := Bool.and_eq_true_iff.mp (List.all_eq_true.mp simple text member)
  exact Extension.isProper_of_isSimple (of_decide_eq_true nonempty) (List.all_eq_true.mp letters)

theorem make_entry {scanner : Scanner} (known : scanner ∈ scanners) :
    Parser.make serial scanner .nothing .nothing
      (.list ((seedExtensions scanner).map .str)) = .ok (entry serial scanner) := by
  obtain ⟨proper, once⟩ := entry_proper known
  let bare : Parser := ⟨serial, scanner, scanner.defaultId, scanner.defaultName, []⟩
  have defaults : (bare.addTexts scanner.defaultExtensions).2 =
      { bare with extensions := scanner.defaultExtensions } := by
    refine Parser.addTexts_of_proper (fun text member => proper text (by simp [member])) ?_
    exact once.sublist (List.sublist_append_left _ _)
  have seeds : (Parser.addTexts { bare with extensions := scanner.defaultExtensions }
      (seedExtensions scanner)).2 = entry serial scanner :=
    Parser.addTexts_of_proper (fun text member => proper text (by simp [member])) once
  have texts : Parser.extensionTexts (.list ((seedExtensions scanner).map .str)) =
      .ok (seedExtensions scanner) := Parser.extensionTexts_ok_iff.mpr rfl
  have made : Parser.make serial scanner .nothing .nothing
      (.list ((seedExtensions scanner).map .str)) =
      .ok (((bare.addTexts scanner.defaultExtensions).2.addTexts (seedExtensions scanner)).2) := by
    simp only [Parser.make, Parser.addExtension, texts, bind, Except.bind, pure, Except.pure]
    rfl
  rw [made, defaults, seeds]

theorem scanner?_eq_some_iff {id : Value} {scanner : Scanner} :
    scanner? id = some scanner ↔
      ∃ text, id = .str text ∧ scanner ∈ scanners ∧ scanner.defaultId = normalize text := by
  constructor
  · intro found
    cases id with
    | str text =>
      simp only [scanner?] at found
      refine ⟨text, rfl, List.mem_of_find?_eq_some found, ?_⟩
      simpa using List.find?_some found
    | _ => cases found
  · rintro ⟨text, rfl, known, same⟩
    simp only [scanner?, ← same]
    cases scanner with
    | plain => simp [scanners]
    | cFamily => simp [scanners, Scanner.defaultId]
    | failing => simp [scanners] at known

theorem create_ok_iff {id : Value} {p : Parser} :
    create serial id = .ok p ↔ ∃ text scanner, id = .str text ∧ scanner ∈ scanners ∧
      scanner.defaultId = normalize text ∧ p = entry serial scanner := by
  constructor
  · intro created
    simp only [create] at created
    split at created
    · cases created
    · split at created
      · cases created
      · rename_i scanner found
        obtain ⟨text, rfl, known, same⟩ := scanner?_eq_some_iff.mp found
        rw [make_entry known] at created
        cases created
        exact ⟨text, scanner, rfl, known, same, rfl⟩
  · rintro ⟨text, scanner, rfl, known, same, rfl⟩
    have found := scanner?_eq_some_iff.mpr ⟨text, rfl, known, same⟩
    simp only [create, Value.unkeyable?, found]
    exact make_entry known

theorem missing_cons_known {id : String} {asked : List String} (known : id ∈ c.parsers.map (·.id)) :
    missing c (id :: asked) = missing c asked := by
  rw [missing, List.filter_cons_of_neg (by simpa using known), missing]

theorem missing_cons_new {p : Parser} {asked : List String} (new : p.id ∉ c.parsers.map (·.id)) :
    missing c (p.id :: asked) =
      p.id :: missing { c with parsers := c.parsers ++ [p] } asked := by
  have both : ∀ id, (!((c.parsers ++ [p]).map (·.id)).contains id) =
      ((!id == p.id) && !(c.parsers.map (·.id)).contains id) := by
    intro id
    simp only [List.map_append, List.map_cons, List.map_nil, List.contains_append,
      List.contains_cons, List.contains_nil, Bool.or_false, Bool.not_or, Bool.and_comm]
  rw [missing, List.filter_cons_of_pos (by simpa using new), List.eraseDups_cons,
    List.filter_filter, missing]
  simp only [both]

theorem missing_eq_nil_iff {asked : List String} :
    missing c asked = [] ↔ ∀ id ∈ asked, id ∈ c.parsers.map (·.id) := by
  rw [missing, List.eq_nil_iff_forall_not_mem]
  simp only [List.mem_eraseDups, List.mem_filter, not_and, Bool.not_eq_true', Bool.not_eq_false,
    List.contains_iff_mem]

/-- What the ids asked for add to a registry. The serial numbers are those from the given one on, one
    for each id, and grow along the list. -/
structure Additions (c : Counter) (serial : Nat) (asked : List String) (added : List Parser) :
    Prop where
  known : ∀ id ∈ asked, id ∈ Catalogue.ids
  ids : added.map (·.id) = missing c asked
  made : ∀ p ∈ added, ∃ scanner ∈ scanners, p = entry p.serial scanner
  numbers : ∀ p ∈ added, serial ≤ p.serial ∧ p.serial < serial + asked.length
  growing : (added.map (·.serial)).Pairwise (· < ·)

theorem additions_nil (c : Counter) (serial : Nat) : Additions c serial [] [] :=
  ⟨by simp, rfl, by simp, by simp, by simp⟩

theorem mem_ids {scanner : Scanner} (listed : scanner ∈ scanners) : scanner.defaultId ∈ ids :=
  List.mem_map.mpr ⟨scanner, listed, rfl⟩

theorem additions_registered {scanner : Scanner} {asked : List String} {added : List Parser}
    (listed : scanner ∈ scanners) (old : scanner.defaultId ∈ c.parsers.map (·.id))
    (rest : Additions c (serial + 1) asked added) :
    Additions c serial (scanner.defaultId :: asked) added := by
  refine ⟨List.forall_mem_cons.mpr ⟨mem_ids listed, rest.known⟩, ?_, rest.made, fun p member => ?_,
    rest.growing⟩
  · rw [missing_cons_known old]
    exact rest.ids
  · have number := rest.numbers p member
    rw [List.length_cons]
    omega

theorem additions_new {scanner : Scanner} {asked : List String} {added : List Parser}
    (listed : scanner ∈ scanners) (new : scanner.defaultId ∉ c.parsers.map (·.id))
    (rest : Additions { c with parsers := c.parsers ++ [entry serial scanner] } (serial + 1) asked
      added) :
    Additions c serial (scanner.defaultId :: asked) (entry serial scanner :: added) := by
  constructor
  · exact List.forall_mem_cons.mpr ⟨mem_ids listed, rest.known⟩
  · rw [List.map_cons, rest.ids]
    exact (missing_cons_new (p := entry serial scanner) new).symm
  · intro p member
    rcases List.mem_cons.mp member with rfl | later
    · exact ⟨scanner, listed, rfl⟩
    · exact rest.made p later
  · intro p member
    rw [List.length_cons]
    rcases List.mem_cons.mp member with rfl | later
    · exact ⟨Nat.le_refl _, by simp [entry]⟩
    · have number := rest.numbers p later
      omega
  · refine List.pairwise_cons.mpr ⟨fun number member => ?_, rest.growing⟩
    obtain ⟨p, later, rfl⟩ := List.mem_map.mp member
    exact (rest.numbers p later).1

/-- What going through a list of ids does: it takes the texts before the first item that is refused,
    or all when none is, and adds what is missing of them. -/
theorem addIds_cases (c : Counter) (serial : Nat) (wanted : List Value) :
    ∃ (texts : List String) (rest : List Value) (added : List Parser),
      wanted = texts.map .str ++ rest ∧
      Additions c serial (texts.map normalize) added ∧
      (addIds c serial wanted).counter = { c with parsers := c.parsers ++ added } ∧
      (rest = [] ∧ (addIds c serial wanted).added = .ok added ∨
        ∃ e id later, rest = id :: later ∧ create (serial + texts.length) id = .error e ∧
          (addIds c serial wanted).added = .error e) := by
  induction wanted generalizing c serial with
  | nil => exact ⟨[], [], [], rfl, additions_nil c serial, by simp [addIds], .inl ⟨rfl, rfl⟩⟩
  | cons id wanted ih =>
    cases created : create serial id with
    | error e =>
      refine ⟨[], id :: wanted, [], rfl, additions_nil c serial, ?_, .inr ?_⟩
      · simp [addIds, created]
      · exact ⟨e, id, wanted, rfl, created, by simp [addIds, created]⟩
    | ok p =>
      obtain ⟨text, scanner, rfl, listed, same, rfl⟩ := create_ok_iff.mp created
      rcases c.addOne_cases (entry serial scanner) with ⟨enrolled, free⟩ | ⟨refused, q, taken, known⟩
      · obtain ⟨texts, rest, added, split, additions, shape, ending⟩ :=
          ih { c with parsers := c.parsers ++ [entry serial scanner] } (serial + 1)
        have new : scanner.defaultId ∉ c.parsers.map (·.id) := by
          intro member
          obtain ⟨q, registered, taken⟩ := List.mem_map.mp member
          exact free q registered taken
        refine ⟨text :: texts, rest, entry serial scanner :: added, by simp [split], ?_, ?_, ?_⟩
        · rw [List.map_cons, ← same]
          exact additions_new listed new additions
        · simp [addIds, created, enrolled, shape]
        · rcases ending with ⟨done, told⟩ | ⟨e, other, later, stopped, cause, told⟩
          · exact .inl ⟨done, by simp [addIds, created, enrolled, told, Except.map]⟩
          · refine .inr ⟨e, other, later, stopped, ?_, ?_⟩
            · rwa [List.length_cons, Nat.add_comm texts.length, ← Nat.add_assoc]
            · simp [addIds, created, enrolled, told, Except.map]
      · obtain ⟨texts, rest, added, split, additions, shape, ending⟩ := ih c (serial + 1)
        have there : scanner.defaultId ∈ c.parsers.map (·.id) := List.mem_map.mpr ⟨q, taken, known⟩
        refine ⟨text :: texts, rest, added, by simp [split], ?_, ?_, ?_⟩
        · rw [List.map_cons, ← same]
          exact additions_registered listed there additions
        · simp [addIds, created, refused, shape]
        · rcases ending with ⟨done, told⟩ | ⟨e, other, later, stopped, cause, told⟩
          · exact .inl ⟨done, by simp [addIds, created, refused, told]⟩
          · refine .inr ⟨e, other, later, stopped, ?_, ?_⟩
            · rwa [List.length_cons, Nat.add_comm texts.length, ← Nat.add_assoc]
            · simp [addIds, created, refused, told]

theorem addIds_ok {wanted : List Value} {added : List Parser}
    (done : (addIds c serial wanted).added = .ok added) :
    ∃ texts : List String, wanted = texts.map .str ∧
      Additions c serial (texts.map normalize) added ∧
      (addIds c serial wanted).counter = { c with parsers := c.parsers ++ added } := by
  obtain ⟨texts, rest, others, split, additions, shape, ⟨rfl, told⟩ | ⟨e, _, _, _, _, told⟩⟩ :=
    addIds_cases c serial wanted
  · rw [done] at told
    cases told
    exact ⟨texts, by simpa using split, additions, shape⟩
  · rw [done] at told
    cases told

theorem str_map_injective {first second : List String}
    (same : first.map Value.str = second.map Value.str) : first = second := by
  refine List.map_injective_iff.mpr ?_ same
  intro a b equal
  exact Value.str.inj equal

theorem addIds_of_known (c : Counter) (serial : Nat) {texts : List String}
    (known : ∀ text ∈ texts, normalize text ∈ ids) :
    ∃ added, (addIds c serial (texts.map .str)).added = .ok added ∧
      Additions c serial (texts.map normalize) added ∧
      (addIds c serial (texts.map .str)).counter = { c with parsers := c.parsers ++ added } := by
  obtain ⟨before, rest, added, split, additions, shape, ⟨rfl, told⟩ | ⟨e, id, later, rfl, cause, _⟩⟩ :=
    addIds_cases c serial (texts.map .str)
  · rw [List.append_nil] at split
    obtain rfl := str_map_injective split
    exact ⟨added, told, additions, shape⟩
  · have member : id ∈ texts.map Value.str := by simp [split]
    obtain ⟨text, asked, rfl⟩ := List.mem_map.mp member
    obtain ⟨scanner, listed, same⟩ := List.mem_map.mp (known text asked)
    rw [create_ok_iff.mpr ⟨text, scanner, rfl, listed, same, rfl⟩] at cause
    cases cause

theorem additions_cover {asked : List String} {added : List Parser}
    (additions : Additions c serial asked added) :
    ∀ id ∈ asked, id ∈ (c.parsers ++ added).map (·.id) := by
  intro id member
  rw [List.map_append, additions.ids]
  by_cases old : id ∈ c.parsers.map (·.id)
  · exact List.mem_append_left _ old
  · refine List.mem_append_right _ (List.mem_eraseDups.mpr (List.mem_filter.mpr ⟨member, ?_⟩))
    simpa using old

theorem addIds_again {texts : List String} {added : List Parser}
    (additions : Additions c serial (texts.map normalize) added) {next : Counter}
    (parsers : next.parsers = c.parsers ++ added) (later : Nat) :
    (addIds next later (texts.map .str)).added = .ok [] ∧
      (addIds next later (texts.map .str)).counter = next := by
  have known : ∀ text ∈ texts, normalize text ∈ ids := by
    intro text member
    exact additions.known _ (List.mem_map_of_mem member)
  obtain ⟨more, told, again, shape⟩ := addIds_of_known next later known
  have covered : missing next (texts.map normalize) = [] := by
    rw [missing_eq_nil_iff, parsers]
    exact additions_cover additions
  obtain rfl : more = [] := List.map_eq_nil_iff.mp (again.ids.trans covered)
  exact ⟨told, by simpa using shape⟩

theorem asks_of_requestedIds {requested : Value} {texts : List String}
    (listed : requestedIds requested = .ok (texts.map .str)) : Asks requested texts := by
  simp only [requestedIds] at listed
  split at listed
  · rename_i present
    split at listed
    · rename_i items found
      cases listed
      exact .these present found
    · cases listed
  · rename_i absent
    rw [← str_map_injective (Except.ok.inj listed)]
    exact .all (by simpa using absent)

theorem getParser?_str (c : Counter) (id : String) :
    c.getParser? (.str id) = c.parserWithId? id := rfl

theorem chooseDefault_of_asks (c : Counter) (serial : Nat) {id : Value} {text : String}
    (asked : AsksDefault id text) :
    chooseDefault c serial id =
      (c.getParser? (.str (normalize text))).elim (create serial (.str text)) .ok := by
  cases asked with
  | plain absent =>
    simp only [chooseDefault, absent, Bool.false_eq_true, if_false, getParser?_str]
    cases c.parserWithId? (normalize Scanner.plain.defaultId) with
    | none => rw [Option.elim_none]
    | some p => rw [Option.elim_some]
  | this present =>
    simp only [chooseDefault, Value.isTrue, present, ne_eq, not_false_eq_true, decide_true, if_true,
      getParser?_str]
    cases c.parserWithId? (normalize text) with
    | none => rw [Option.elim_none]
    | some p => rw [Option.elim_some]

theorem asks_of_chooseDefault {id : Value} {p : Parser} (chosen : chooseDefault c serial id = .ok p) :
    ∃ text, AsksDefault id text := by
  cases truth : id.isTrue with
  | false => exact ⟨_, .plain truth⟩
  | true =>
    cases id with
    | str text => exact ⟨text, .this (by simpa [Value.isTrue] using truth)⟩
    | _ => simp [chooseDefault, truth] at chosen

theorem chooseDefault_ok {id : Value} {p : Parser} (chosen : chooseDefault c serial id = .ok p) :
    ∃ text, AsksDefault id text ∧ p.id = normalize text ∧
      (c.getParser? (.str (normalize text)) = some p ∨
        c.getParser? (.str (normalize text)) = none ∧
          ∃ scanner ∈ scanners, p = entry serial scanner) := by
  obtain ⟨text, asked⟩ := asks_of_chooseDefault chosen
  rw [chooseDefault_of_asks c serial asked] at chosen
  refine ⟨text, asked, ?_⟩
  cases found : c.getParser? (.str (normalize text)) with
  | some q =>
    rw [found] at chosen
    cases chosen
    exact ⟨by simpa using List.find?_some found, .inl rfl⟩
  | none =>
    rw [found, Option.elim_none] at chosen
    obtain ⟨_, scanner, same, listed, named, rfl⟩ := create_ok_iff.mp chosen
    cases same
    exact ⟨named, .inr ⟨rfl, scanner, listed, rfl⟩⟩

theorem chooseDefault_again {id : Value} {p : Parser} (chosen : chooseDefault c serial id = .ok p)
    {next : Counter} (parsers : next.parsers = c.parsers) (later : Nat) :
    ∃ q, chooseDefault next later id = .ok q := by
  obtain ⟨text, asked⟩ := asks_of_chooseDefault chosen
  have same : next.getParser? (.str (normalize text)) = c.getParser? (.str (normalize text)) := by
    rw [getParser?_str, getParser?_str, Counter.parserWithId?, parsers, Counter.parserWithId?]
  rw [chooseDefault_of_asks c serial asked] at chosen
  rw [chooseDefault_of_asks next later asked, same]
  cases found : c.getParser? (.str (normalize text)) with
  | some q => exact ⟨q, rfl⟩
  | none =>
    rw [found, Option.elim_none] at chosen
    simp only [Option.elim_none]
    obtain ⟨text, scanner, spelled, listed, named, _⟩ := create_ok_iff.mp chosen
    exact ⟨entry later scanner, create_ok_iff.mpr ⟨text, scanner, spelled, listed, named, rfl⟩⟩

variable {defaultId allowUnknowns : Value} {fallback : Option Parser}

theorem defaultParser?_again
    (chosen : defaultParser? c serial defaultId allowUnknowns = .ok fallback) (next : Counter)
    (parsers : next.parsers = c.parsers) (later : Nat) :
    ∃ other, defaultParser? next later defaultId allowUnknowns = .ok other := by
  simp only [defaultParser?] at chosen ⊢
  split at chosen
  · obtain ⟨p, picked, _⟩ := map_ok chosen
    obtain ⟨q, again⟩ := chooseDefault_again picked parsers later
    exact ⟨some q, by simp [*, Except.map]⟩
  · exact ⟨none, by simp [*]⟩

theorem defaultParser?_none_iff
    (chosen : defaultParser? c serial defaultId allowUnknowns = .ok fallback) :
    fallback = none ↔ defaultId = .nothing ∧ allowUnknowns.isTrue = false := by
  have given : isGiven defaultId = false ↔ defaultId = .nothing := by
    cases defaultId <;> simp [isGiven]
  simp only [defaultParser?] at chosen
  split at chosen
  · rename_i wanted
    obtain ⟨p, _, rfl⟩ := map_ok chosen
    rw [← given]
    simp only [reduceCtorEq, false_iff]
    rintro ⟨absent, refused⟩
    simp [absent, refused] at wanted
  · rename_i unwanted
    cases chosen
    simpa [given] using unwanted

theorem defaultParser?_some {p : Parser}
    (chosen : defaultParser? c serial defaultId allowUnknowns = .ok (some p)) {others : List Parser}
    (free : ∀ q ∈ others, q.serial < serial) :
    ∃ text, AsksDefault defaultId text ∧ p.id = normalize text ∧
      (c.getParser? (.str (normalize text)) = some p ∨
        c.getParser? (.str (normalize text)) = none ∧ IsNew others p) := by
  obtain ⟨text, asked, named, found | ⟨absent, scanner, listed, rfl⟩⟩ :=
    chooseDefault_ok (defaultParser?_ok chosen)
  · exact ⟨text, asked, named, .inl found⟩
  · refine ⟨text, asked, named, .inr ⟨absent, ⟨scanner, listed, rfl⟩, fun q held => ?_⟩⟩
    exact Nat.ne_of_lt (free q held)

theorem register_again {requested : Value} {texts : List String} {added : List Parser}
    (listed : requestedIds requested = .ok (texts.map .str))
    (additions : Additions c serial (texts.map normalize) added) {next : Counter}
    (parsers : next.parsers = c.parsers ++ added) {later : Nat} {other : Option Parser}
    (chosen : defaultParser? next (later + texts.length) defaultId allowUnknowns = .ok other) :
    (register next later requested defaultId allowUnknowns).added = .ok [] ∧
      (register next later requested defaultId allowUnknowns).counter.parsers = next.parsers := by
  obtain ⟨told, same⟩ := addIds_again additions parsers later
  simp only [register, listed, told, same, List.length_map, chosen]
  exact ⟨trivial, trivial⟩

/-- After a registration that succeeded, the parsers that were missing stand at the end of the
    registry, new ones and each id once, in the order of their first places; these are the ones
    handed back. Files without a parser are refused unless unknown ones are allowed. There is a
    default parser if one was asked for or unknown files are allowed: the registered one with the id,
    if there is one, and else a new one. To register the same again adds nothing. -/
theorem register_adds_missing_once {requested : Value} {added : List Parser}
    (free : ∀ p ∈ c.held, p.serial < serial)
    (registered : (register c serial requested defaultId allowUnknowns).added = .ok added) :
    let next := (register c serial requested defaultId allowUnknowns).counter
    (∃ texts, Asks requested texts ∧ added.map (·.id) = missing c (texts.map normalize)) ∧
      (∀ p ∈ added, IsNew c.held p) ∧ (added.map (·.serial)).Nodup ∧
      next = { c with parsers := c.parsers ++ added, options := next.options } ∧
      next.options.requireExtension = .bool (!allowUnknowns.isTrue) ∧
      (next.options.defaultParser = none ↔ defaultId = .nothing ∧ allowUnknowns.isTrue = false) ∧
      (∀ p, next.options.defaultParser = some p →
        ∃ text, AsksDefault defaultId text ∧ p.id = normalize text ∧
          (next.getParser? (.str (normalize text)) = some p ∨
            next.getParser? (.str (normalize text)) = none ∧ IsNew (c.held ++ added) p)) ∧
      ∀ later, (register next later requested defaultId allowUnknowns).added = .ok [] ∧
        (register next later requested defaultId allowUnknowns).counter.parsers = next.parsers := by
  intro next
  obtain ⟨wanted, fallback, listed, done, chosen, final⟩ := register_ok registered
  obtain ⟨texts, rfl, additions, shape⟩ := addIds_ok done
  rw [shape, List.length_map] at chosen
  have whole : next = { c with
      parsers := c.parsers ++ added
      options := ⟨.bool (!allowUnknowns.isTrue), fallback⟩ } := by
    rw [show next = _ from final, shape]
  have fresh : ∀ p ∈ c.held ++ added, p.serial < serial + texts.length := by
    intro p member
    rcases List.mem_append.mp member with old | new
    · have before := free p old
      omega
    · simpa using (additions.numbers p new).2
  refine ⟨⟨texts, asks_of_requestedIds listed, additions.ids⟩, fun p member => ?_, ?_, ?_, ?_, ?_,
    fun p default => ?_, fun later => ?_⟩
  · refine ⟨additions.made p member, fun q held => ?_⟩
    have old := free q held
    have new := (additions.numbers p member).1
    omega
  · exact additions.growing.imp fun less => Nat.ne_of_lt less
  · rw [whole]
  · rw [whole]
  · rw [whole]
    exact defaultParser?_none_iff chosen
  · rw [whole] at default ⊢
    cases default
    exact defaultParser?_some chosen fresh
  · have parsers : next.parsers = c.parsers ++ added := by rw [whole]
    obtain ⟨other, again⟩ := defaultParser?_again chosen next parsers (later + texts.length)
    exact register_again listed additions parsers again

/-- One id is asked for in two spellings, and the default is found among the registered parsers. -/
theorem register_adds_missing_beside_custom :
    let custom : Parser := ⟨0, .failing, "x", "Boom", ["boom"]⟩
    let c : Counter := { parsers := [custom] }
    let asked : Value := .list [.str " Plain", .str "PLAIN"]
    (∀ p ∈ c.held, p.serial < 1) ∧
      (register c 1 asked (.str "X ") .nothing).added = .ok [entry 1 .plain] ∧
      (register c 1 asked (.str "X ") .nothing).counter.parsers = [custom, entry 1 .plain] ∧
      (register c 1 asked (.str "X ") .nothing).counter.options.defaultParser ≠ none := by
  intro custom c asked
  have free : ∀ p ∈ c.held, p.serial < 1 := by decide
  have added : (register c 1 asked (.str "X ") .nothing).added = .ok [entry 1 .plain] := rfl
  obtain ⟨_, _, _, whole, _, absent, _, _⟩ := register_adds_missing_once free added
  refine ⟨free, added, ?_, fun none => ?_⟩
  · rw [whole]
    rfl
  · cases (absent.mp none).1

/-- Where a registration ends that fails: at an argument without items, at an item that is no known
    id, or at the default parser. The texts are the ids that it got through. -/
inductive StopsAfter (next : Counter) (serial : Nat) (requested defaultId allowUnknowns : Value)
    (e : Error) : List String → Prop where
  | atOnce (refused : requestedIds requested = .error e) :
      StopsAfter next serial requested defaultId allowUnknowns e []
  | atItem {texts : List String} {id : Value} {rest : List Value}
      (asked : requestedIds requested = .ok (texts.map .str ++ id :: rest))
      (refused : create (serial + texts.length) id = .error e) :
      StopsAfter next serial requested defaultId allowUnknowns e texts
  | atDefault {texts : List String} (asked : requestedIds requested = .ok (texts.map .str))
      (refused : defaultParser? next (serial + texts.length) defaultId allowUnknowns = .error e) :
      StopsAfter next serial requested defaultId allowUnknowns e texts

theorem register_error {requested : Value} {e : Error}
    (failed : (register c serial requested defaultId allowUnknowns).added = .error e) :
    ∃ texts added, Additions c serial (texts.map normalize) added ∧
      (register c serial requested defaultId allowUnknowns).counter =
        { c with parsers := c.parsers ++ added } ∧
      StopsAfter (register c serial requested defaultId allowUnknowns).counter serial requested
        defaultId allowUnknowns e texts := by
  cases listed : requestedIds requested with
  | error cause =>
    simp only [register, listed] at failed ⊢
    cases failed
    exact ⟨[], [], additions_nil c serial, by simp, .atOnce listed⟩
  | ok wanted =>
    obtain ⟨texts, rest, added, rfl, additions, shape, ⟨rfl, told⟩ | ⟨cause, id, later, rfl, stop, told⟩⟩ :=
      addIds_cases c serial wanted
    · refine ⟨texts, added, additions, ?_⟩
      rw [List.append_nil] at listed told shape
      cases chosen : defaultParser? { c with parsers := c.parsers ++ added } (serial + texts.length)
          defaultId allowUnknowns with
      | ok fallback =>
        simp only [register, listed, told, shape, List.length_map, chosen] at failed
        cases failed
      | error cause =>
        simp only [register, listed, told, shape, List.length_map, chosen] at failed ⊢
        cases failed
        exact ⟨trivial, .atDefault listed chosen⟩
    · refine ⟨texts, added, additions, ?_⟩
      simp only [register, listed, told] at failed ⊢
      cases failed
      exact ⟨shape, .atItem listed stop⟩

/-- A registration that fails leaves the options as they were, but not the registry: what was missing
    of the ids before the failure has been added to it. So the counter is as before exactly when all
    these ids were registered already. -/
theorem register_failure_keeps_options {requested : Value} {e : Error}
    (failed : (register c serial requested defaultId allowUnknowns).added = .error e) :
    let next := (register c serial requested defaultId allowUnknowns).counter
    ∃ texts added, StopsAfter next serial requested defaultId allowUnknowns e texts ∧
      next = { c with parsers := c.parsers ++ added } ∧
      added.map (·.id) = missing c (texts.map normalize) ∧
      (∀ p ∈ added, ∃ scanner ∈ scanners, p = entry p.serial scanner) ∧
      (next = c ↔ ∀ text ∈ texts, normalize text ∈ c.parsers.map (·.id)) := by
  intro next
  obtain ⟨texts, added, additions, shape, stops⟩ := register_error failed
  refine ⟨texts, added, stops, shape, additions.ids, additions.made, ?_⟩
  have unchanged : next = c ↔ added = [] := by
    rw [show next = _ from shape]
    constructor
    · intro same
      simpa using congrArg Counter.parsers same
    · rintro rfl
      simp
  have nothing : added = [] ↔ missing c (texts.map normalize) = [] := by
    rw [← additions.ids, List.map_eq_nil_iff]
  rw [unchanged, nothing, missing_eq_nil_iff, List.forall_mem_map]

/-- The id before the unknown one is registered already, and the counter stays as it is. -/
theorem register_failure_after_registered :
    let c : Counter := { parsers := [entry 0 .plain] }
    let asked : Value := .list [.str "Plain", .str "cobol"]
    let e := Error.unknownParserId (.str "cobol") ids
    let r := register c 1 asked .nothing (.bool true)
    r.added = .error e ∧ r.counter = c ∧
      ∃ texts, StopsAfter r.counter 1 asked .nothing (.bool true) e texts ∧
        ∀ text ∈ texts, normalize text ∈ ["plain"] := by
  intro c asked e r
  have failed : r.added = .error e := rfl
  have same : r.counter = c := rfl
  obtain ⟨texts, _, stops, _, _, _, unchanged⟩ := register_failure_keeps_options failed
  exact ⟨failed, same, texts, stops, unchanged.mp same⟩

/-- An unknown id after a new one: the registration fails, and the new parser stays. -/
theorem register_failure_leaves_first_registered :
    let c : Counter := {}
    let r := register c 0 (.list [.str "plain", .str "cobol"]) .nothing .nothing
    r.added = .error (.unknownParserId (.str "cobol") ids) ∧ r.counter.parsers ≠ c.parsers := by
  intro c r
  have stays : r.counter.parsers = [entry 0 .plain] := rfl
  exact ⟨rfl, by simp [stays, c]⟩

end Catalogue

end SourceTally
