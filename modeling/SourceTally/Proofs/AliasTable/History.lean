import SourceTally.Proofs.Batches

/- An alias table as a map from proper extensions to proper extensions. The calls made on a table
   leave a log of what was written, removed and cleared, and from this log can be read what the table
   holds and in which order. -/
namespace SourceTally.AliasTable

inductive Deed where
  | wrote (source target : String)
  | removed (source : String)
  | cleared
  deriving DecidableEq, Repr

namespace Deed

def Drops (source : String) : Deed → Prop
  | wrote _ _ => False
  | removed other => other = source
  | cleared => True

def Touches (source : String) (deed : Deed) : Prop :=
  deed.Drops source ∨ ∃ target, deed = .wrote source target

def act (table : AliasTable) : Deed → AliasTable
  | wrote source target => Assoc.insert table source target
  | removed source => Assoc.erase table source
  | cleared => []

end Deed

/-- The last deed that touches the extension gave it the target. -/
def Standing (log : List Deed) (source target : String) : Prop :=
  ∃ before after, log = before ++ .wrote source target :: after ∧
    ∀ deed ∈ after, ¬deed.Touches source

/-- The extension got a target at this place of the log, where it had none, and was not dropped
    since. -/
def EnteredAt (log : List Deed) (source : String) (place : Nat) : Prop :=
  ∃ before target after, log = before ++ .wrote source target :: after ∧ before.length = place ∧
    (∀ deed ∈ after, ¬deed.Drops source) ∧ ∀ old, ¬Standing before source old

section Log

variable {log : List Deed} {deed : Deed} {source target : String} {place : Nat}

theorem standing_concat :
    Standing (log ++ [deed]) source target ↔
      deed = .wrote source target ∨ ¬deed.Touches source ∧ Standing log source target := by
  constructor
  · rintro ⟨before, after, split, untouched⟩
    -- the write is the last deed of the log, or the last deed stands after it and touches nothing
    rcases List.eq_nil_or_concat after with rfl | ⟨rest, last, rfl⟩
    · obtain ⟨_, same⟩ := List.append_inj' split rfl
      exact .inl (List.cons.inj same).1
    · rw [List.concat_eq_append] at split untouched
      rw [← List.cons_append, ← List.append_assoc] at split
      obtain ⟨earlier, same⟩ := List.append_inj' split rfl
      obtain rfl := (List.cons.inj same).1
      have later := List.forall_mem_append.mp untouched
      exact .inr ⟨later.2 deed (by simp), before, rest, earlier, later.1⟩
  · rintro (rfl | ⟨untouched, before, after, rfl, later⟩)
    · exact ⟨log, [], rfl, by simp⟩
    · refine ⟨before, after ++ [deed], by simp, ?_⟩
      exact List.forall_mem_append.mpr ⟨later, by simpa using untouched⟩

theorem enteredAt_now (missing : ∀ old, ¬Standing log source old) :
    EnteredAt (log ++ [.wrote source target]) source log.length :=
  ⟨log, target, [], rfl, rfl, by simp, missing⟩

theorem enteredAt_before (entered : EnteredAt log source place) (kept : ¬deed.Drops source) :
    EnteredAt (log ++ [deed]) source place := by
  obtain ⟨before, target, after, rfl, measured, undropped, missing⟩ := entered
  refine ⟨before, target, after ++ [deed], by simp, measured, ?_, missing⟩
  exact List.forall_mem_append.mpr ⟨undropped, by simpa using kept⟩

theorem lt_length_of_enteredAt (entered : EnteredAt log source place) : place < log.length := by
  obtain ⟨before, target, after, rfl, rfl, _⟩ := entered
  rw [List.length_append, List.length_cons]
  omega

theorem mem_of_standing (standing : Standing log source target) : .wrote source target ∈ log := by
  obtain ⟨before, after, rfl, _⟩ := standing
  simp

end Log

/-- The table holds what stands in the log, ordered by when it was entered. -/
structure Mirrors (log : List Deed) (table : AliasTable) : Prop where
  distinct : Assoc.Distinct table
  get?_iff : ∀ source target,
    Assoc.get? table source = some target ↔ Standing log source target
  ordered : ∃ place : String → Nat,
    (∀ source ∈ Assoc.keys table, EnteredAt log source (place source)) ∧
      (Assoc.keys table).Pairwise fun first second => place first < place second

section Steps

variable {log : List Deed} {table : AliasTable}

theorem mem_keys_iff {source : String} :
    source ∈ Assoc.keys table ↔ ∃ target, Assoc.get? table source = some target := by
  rw [← Option.isSome_iff_exists, Option.isSome_iff_ne_none, ne_eq, Assoc.get?_eq_none_iff, not_not,
    Assoc.has_iff, Assoc.keys, List.mem_map]
  simp only [beq_iff_eq]

theorem mirrors_nil : Mirrors [] [] := by
  refine ⟨List.Pairwise.nil, ?_, fun _ => 0, by simp [Assoc.keys], List.Pairwise.nil⟩
  intro source target
  simp [Assoc.get?, Standing]

theorem mirrors_wrote (mirrors : Mirrors log table) (source target : String) :
    Mirrors (log ++ [.wrote source target]) (Assoc.insert table source target) := by
  obtain ⟨place, entered, ordered⟩ := mirrors.ordered
  have still : ∀ other ∈ Assoc.keys table,
      EnteredAt (log ++ [.wrote source target]) other (place other) :=
    fun other member => enteredAt_before (entered other member) (by simp [Deed.Drops])
  refine ⟨Assoc.distinct_insert mirrors.distinct source target, ?_, ?_⟩
  · intro other value
    rw [Assoc.get?_insert, standing_concat, ← mirrors.get?_iff]
    by_cases same : source = other
    · simp [same, Deed.Touches]
    · simp [same, Deed.Touches, Deed.Drops]
  · rw [Assoc.keys_insert]
    split
    · exact ⟨place, still, ordered⟩
    · rename_i fresh
      have new : source ∉ Assoc.keys table := by simpa using fresh
      have missing : ∀ old, ¬Standing log source old := by
        intro old standing
        exact new (mem_keys_iff.mpr ⟨old, (mirrors.get?_iff source old).mpr standing⟩)
      have others : ∀ other ∈ Assoc.keys table,
          Function.update place source log.length other = place other := by
        intro other member
        apply Function.update_of_ne
        intro same
        exact new (same ▸ member)
      -- a source that is new goes to the end, and is entered later than all that are there
      refine ⟨Function.update place source log.length, ?_, ?_⟩
      · intro other member
        rcases List.mem_append.mp member with earlier | added
        · rw [others other earlier]
          exact still other earlier
        · rw [List.mem_singleton.mp added, Function.update_self]
          exact enteredAt_now missing
      · apply List.pairwise_append.mpr
        refine ⟨?_, List.pairwise_singleton _ _, ?_⟩
        · refine ordered.imp_of_mem fun first second less => ?_
          rwa [others _ first, others _ second]
        · intro other member last single
          rw [List.mem_singleton.mp single, others other member, Function.update_self]
          exact lt_length_of_enteredAt (entered other member)

theorem mirrors_removed (mirrors : Mirrors log table) (source : String) :
    Mirrors (log ++ [.removed source]) (Assoc.erase table source) := by
  obtain ⟨place, entered, ordered⟩ := mirrors.ordered
  have found := Assoc.get?_erase mirrors.distinct source
  have kept : (Assoc.keys (Assoc.erase table source)).Sublist (Assoc.keys table) :=
    List.Sublist.map _ List.eraseP_sublist
  refine ⟨Assoc.distinct_erase mirrors.distinct source, ?_, place, ?_, ordered.sublist kept⟩
  · intro other value
    rw [found, standing_concat, ← mirrors.get?_iff]
    by_cases same : source = other
    · simp [same, Deed.Touches, Deed.Drops]
    · simp [same, Deed.Touches, Deed.Drops]
  · intro other member
    apply enteredAt_before (entered other (kept.subset member))
    intro dropped
    have same : source = other := dropped
    obtain ⟨target, there⟩ := mem_keys_iff.mp member
    rw [found, if_pos (by simp [same])] at there
    cases there

theorem mirrors_cleared (log : List Deed) : Mirrors (log ++ [.cleared]) [] := by
  refine ⟨List.Pairwise.nil, ?_, fun _ => 0, by simp [Assoc.keys], List.Pairwise.nil⟩
  intro source target
  rw [standing_concat]
  simp [Assoc.get?, Deed.Touches, Deed.Drops]

theorem mirrors_act (mirrors : Mirrors log table) (deed : Deed) :
    Mirrors (log ++ [deed]) (deed.act table) := by
  cases deed with
  | wrote source target => exact mirrors_wrote mirrors source target
  | removed source => exact mirrors_removed mirrors source
  | cleared => exact mirrors_cleared log

/-- Whatever is done to a table, it mirrors the whole log. -/
theorem mirrors_foldl (mirrors : Mirrors log table) (deeds : List Deed) :
    Mirrors (log ++ deeds) (deeds.foldl Deed.act table) := by
  induction deeds generalizing log table with
  | nil => simpa using mirrors
  | cons deed deeds ih => simpa using ih (mirrors_act mirrors deed)

end Steps

inductive Change where
  | add (old new : Value)
  | addMany (pairs : Value)
  | remove (extension : Value)
  | clear

def pairOf? : Value → Option (Value × Value)
  | .list [old, new] => some (old, new)
  | .tuple [old, new] => some (old, new)
  | _ => none

def entriesOf : Value → List (Value × Value)
  | .mapping entries => entries.map fun entry => (.str entry.1, entry.2)
  | value => (value.items?.getD []).filterMap pairOf?

def writes (entries : List (Value × Value)) : List Deed :=
  entries.map fun entry => .wrote entry.1.cleanExtension entry.2.cleanExtension

def change (table : AliasTable) : Change → AliasTable
  | .add old new =>
    match table.add old new with
    | .ok (_, next) => next
    | .error _ => table
  | .addMany pairs =>
    match table.addMany pairs with
    | .ok (_, next) => next
    | .error _ => table
  | .remove extension => (table.remove extension).2
  | .clear => []

def deeds (table : AliasTable) : Change → List Deed
  | .add old new => if (table.add old new).isOk then writes [(old, new)] else []
  | .addMany pairs => if (table.addMany pairs).isOk then writes (entriesOf pairs) else []
  | .remove extension => [.removed extension.cleanExtension]
  | .clear => [.cleared]

def after (table : AliasTable) (changes : List Change) : AliasTable := changes.foldl change table

def log (table : AliasTable) : List Change → List Deed
  | [] => []
  | first :: rest => table.deeds first ++ log (table.change first) rest

section Calls

variable {table : AliasTable}

theorem entriesOf_of_lists {value : Value} {entries : List (Value × Value)}
    (listed : Lists value entries) : entriesOf value = entries := by
  have read : ∀ {item : Value} {entry : Value × Value}, IsPair item entry →
      pairOf? item = some entry := by
    rintro item entry (rfl | rfl)
    · rfl
    · rfl
  cases listed with
  | named entries => rfl
  | @paired _ items _ unnamed iterable pairs =>
    have shape : entriesOf value = items.filterMap pairOf? := by
      cases value with
      | mapping entries => exact absurd rfl (unnamed entries)
      | _ => simp [entriesOf, iterable]
    rw [shape]
    clear shape iterable
    induction pairs with
    | nil => rfl
    | cons first _ ih => rw [List.filterMap_cons_some (read first), ih]

theorem cleanPairs_ok {value : Value} {pairs : List (String × String)}
    (cleaned : cleanPairs value = .ok pairs) :
    (∀ entry ∈ entriesOf value, Valid entry) ∧
      pairs = (entriesOf value).map fun entry =>
        (entry.1.cleanExtension, entry.2.cleanExtension) := by
  obtain ⟨entries, listed, each⟩ := cleanPairs_ok_iff.mp cleaned
  rw [entriesOf_of_lists listed]
  refine ⟨exists_cleans_iff.mp ⟨pairs, each⟩, ?_⟩
  clear cleaned listed
  induction each with
  | nil => rfl
  | cons first _ ih => rw [List.map_cons, ← ih, (cleans_iff.mp first).2]

theorem add_ok {old new : Value} {result : Option String × AliasTable}
    (added : table.add old new = .ok result) :
    Valid (old, new) ∧ result.2 = (writes [(old, new)]).foldl Deed.act table := by
  obtain ⟨pair, cleaned, same⟩ := bind_ok added
  obtain ⟨source, target, rfl⟩ := cleanPair_ok_iff.mp cleaned
  cases same
  exact ⟨⟨source, target⟩, rfl⟩

theorem addMany_ok {pairs : Value} {result : List (String × String) × AliasTable}
    (added : table.addMany pairs = .ok result) :
    (∀ entry ∈ entriesOf pairs, Valid entry) ∧
      result.2 = (writes (entriesOf pairs)).foldl Deed.act table := by
  obtain ⟨cleaned, checked, same⟩ := bind_ok added
  cases same
  obtain ⟨valid, shape⟩ := cleanPairs_ok checked
  refine ⟨valid, ?_⟩
  show (table.putAll cleaned).2 = _
  rw [putAll_table, shape, Assoc.insertAll, writes, List.foldl_map, List.foldl_map]
  rfl

theorem make_ok {pairs : Value} (made : make pairs = .ok table) :
    (∀ entry ∈ entriesOf pairs, Valid entry) ∧
      table = (writes (entriesOf pairs)).foldl Deed.act [] := by
  unfold make at made
  split at made
  · obtain ⟨result, added, same⟩ := bind_ok made
    cases same
    exact addMany_ok added
  · -- what counts as false lists nothing
    cases made
    cases pairs <;> simp_all [Value.isTrue, entriesOf, Value.items?, writes]

theorem change_eq_foldl (table : AliasTable) (call : Change) :
    table.change call = (table.deeds call).foldl Deed.act table := by
  cases call with
  | add old new =>
    simp only [change, deeds]
    cases added : table.add old new with
    | error e => rfl
    | ok result => exact (add_ok added).2
  | addMany pairs =>
    simp only [change, deeds]
    cases added : table.addMany pairs with
    | error e => rfl
    | ok result => exact (addMany_ok added).2
  | remove extension =>
    simp only [change, deeds, remove]
    by_cases there : table.contains extension
    · rw [if_pos there]
      rfl
    · -- a removal that finds nothing is a deed too, and changes nothing
      rw [if_neg there]
      exact (Assoc.erase_of_missing there).symm
  | clear => rfl

theorem after_eq_foldl (table : AliasTable) (changes : List Change) :
    table.after changes = (table.log changes).foldl Deed.act table := by
  induction changes generalizing table with
  | nil => rfl
  | cons first rest ih =>
    rw [log, List.foldl_append, ← change_eq_foldl, ← ih]
    rfl

end Calls

def WroteProper (log : List Deed) : Prop :=
  ∀ source target, .wrote source target ∈ log →
    Extension.IsProper source ∧ Extension.IsProper target

theorem wroteProper_append {first second : List Deed} (earlier : WroteProper first)
    (later : WroteProper second) : WroteProper (first ++ second) := by
  intro source target member
  rcases List.mem_append.mp member with old | new
  · exact earlier source target old
  · exact later source target new

theorem wroteProper_writes {entries : List (Value × Value)}
    (valid : ∀ entry ∈ entries, Valid entry) : WroteProper (writes entries) := by
  intro source target member
  obtain ⟨entry, listed, same⟩ := List.mem_map.mp member
  cases same
  obtain ⟨first, second⟩ := valid entry listed
  exact ⟨cleanExtension_isProper first, cleanExtension_isProper second⟩

theorem wroteProper_deeds (table : AliasTable) (call : Change) :
    WroteProper (table.deeds call) := by
  cases call with
  | add old new =>
    cases added : table.add old new with
    | error e => simp [deeds, added, Except.isOk, Except.toBool, WroteProper]
    | ok result =>
      simp only [deeds, added]
      exact wroteProper_writes (by simpa using (add_ok added).1)
  | addMany pairs =>
    cases added : table.addMany pairs with
    | error e => simp [deeds, added, Except.isOk, Except.toBool, WroteProper]
    | ok result =>
      simp only [deeds, added]
      exact wroteProper_writes (addMany_ok added).1
  | remove extension => simp [deeds, WroteProper]
  | clear => simp [deeds, WroteProper]

theorem wroteProper_log (table : AliasTable) (changes : List Change) :
    WroteProper (table.log changes) := by
  induction changes generalizing table with
  | nil => simp [log, WroteProper]
  | cons first rest ih => exact wroteProper_append (wroteProper_deeds table first) (ih _)

section Read

variable {whole : List Deed} {table : AliasTable}

theorem stored_of_mirrors (mirrors : Mirrors whole table) (proper : WroteProper whole) :
    table.Stored := by
  intro entry member
  have found : Assoc.get? table entry.1 = some entry.2 :=
    (Assoc.get?_eq_some_iff mirrors.distinct).mpr ⟨entry, member, by simp, rfl⟩
  exact proper entry.1 entry.2 (mem_of_standing ((mirrors.get?_iff _ _).mp found))

theorem contains_eq (table : AliasTable) (extension : Value) :
    table.contains extension = (table.get? extension).isSome := by
  rw [Bool.eq_iff_iff, Option.isSome_iff_ne_none, get?, ne_eq, Assoc.get?_eq_none_iff, not_not]
  rfl

theorem get?_of_empty (stored : table.Stored) {extension : Value}
    (empty : extension.cleanExtension = "") : table.get? extension = none := by
  rw [get?, empty, Assoc.get?_eq_none_iff, Assoc.has_iff]
  rintro ⟨entry, member, same⟩
  exact (stored entry member).1.nonempty (by simpa using same)

end Read

/-- After any calls, failed ones too, an alias table holds proper extensions, no source twice. An
    extension has the target that was last written for it and was neither removed nor cleared; the
    other questions agree with this. What cleans to nothing is never there, and the sources come in
    the order in which they were entered. -/
theorem table_follows_latest_changes {pairs : Value} {table : AliasTable}
    (made : make pairs = .ok table) (changes : List Change) :
    let final := table.after changes
    let whole := writes (entriesOf pairs) ++ table.log changes
    (Assoc.keys final).Nodup ∧ final.Stored ∧
      (∀ x target, final.get? x = some target ↔ Standing whole x.cleanExtension target) ∧
      (∀ x, final.contains x = (final.get? x).isSome ∧
        (final.remove x).1 = (final.get? x).isSome ∧
        (∀ target, Standing whole x.cleanExtension target → final.resolve x = target) ∧
        ((∀ target, ¬Standing whole x.cleanExtension target) →
          final.resolve x = x.cleanExtension)) ∧
      (∀ x, x.cleanExtension = "" →
        final.contains x = false ∧ final.remove x = (false, final) ∧ final.resolve x = "") ∧
      ∃ place : String → Nat,
        (∀ source ∈ Assoc.keys final, EnteredAt whole source (place source)) ∧
          (Assoc.keys final).Pairwise fun first second => place first < place second := by
  intro final whole
  obtain ⟨valid, start⟩ := make_ok made
  have replayed : final = whole.foldl Deed.act [] := by
    rw [List.foldl_append, ← start]
    exact after_eq_foldl table changes
  have mirrors : Mirrors whole final := replayed ▸ mirrors_foldl mirrors_nil whole
  have stored : final.Stored :=
    stored_of_mirrors mirrors
      (wroteProper_append (wroteProper_writes valid) (wroteProper_log table changes))
  have found : ∀ x target, final.get? x = some target ↔ Standing whole x.cleanExtension target :=
    fun x target => mirrors.get?_iff x.cleanExtension target
  have removed : ∀ x, (final.remove x).1 = final.contains x := by
    intro x
    cases there : final.contains x <;> simp [remove, there]
  refine ⟨?_, stored, found, ?_, ?_, mirrors.ordered⟩
  · rw [Assoc.keys, List.Nodup, List.pairwise_map]
    exact mirrors.distinct.imp fun differs => by simpa using differs
  · intro x
    refine ⟨contains_eq final x, (removed x).trans (contains_eq final x), ?_, ?_⟩
    · intro target standing
      rw [resolve, (found x target).mpr standing]
      rfl
    · intro missing
      have none : final.get? x = none := by
        rw [Option.eq_none_iff_forall_ne_some]
        intro target there
        exact missing target ((found x target).mp there)
      rw [resolve, none]
      rfl
  · intro x empty
    have none := get?_of_empty stored empty
    have missing : final.contains x = false := by rw [contains_eq, none]; rfl
    refine ⟨missing, by simp [remove, missing], ?_⟩
    rw [resolve, none, empty]
    rfl

/-- Two extensions that are aliases of each other, one of them removed and added again between calls
    that fail. -/
theorem table_follows_changes_in_cycle :
    let pairs : Value := .list [.tuple [.str "a", .str ".B"], .list [.str "b", .str "a"]]
    let changes : List Change := [.remove (.str ".A"), .add (.str "") (.str "x"),
      .add (.str "a") (.str "b"), .addMany (.list [.tuple [.str "c", .str "a"], .str "d"])]
    let whole := [.wrote "a" "b", .wrote "b" "a", .removed "a", .wrote "a" "b"]
    ∃ table, make pairs = .ok table ∧ table.after changes = [("b", "a"), ("a", "b")] ∧
      writes (entriesOf pairs) ++ table.log changes = whole ∧
      Standing whole "b" "a" ∧ (table.after changes).resolve (.str "B") = "a" ∧
      (table.after changes).resolve (.str "a") = "b" ∧
      (table.after changes).remove (.str ". ") = (false, table.after changes) := by
  intro pairs changes whole
  have made : make pairs = .ok [("a", "b"), ("b", "a")] := rfl
  have ended : after [("a", "b"), ("b", "a")] changes = [("b", "a"), ("a", "b")] := rfl
  have told : writes (entriesOf pairs) ++ log [("a", "b"), ("b", "a")] changes = whole := rfl
  obtain ⟨_, _, found, agree, empty, _⟩ := table_follows_latest_changes made changes
  rw [ended] at found empty
  rw [told] at found agree
  have forward : Standing whole "b" "a" := (found (.str "B") "a").mp rfl
  have back : Standing whole "a" "b" := (found (.str "a") "b").mp rfl
  refine ⟨[("a", "b"), ("b", "a")], made, ended, told, forward, ?_, ?_, ?_⟩
  · exact (agree (.str "B")).2.2.1 "a" forward
  · exact (agree (.str "a")).2.2.1 "b" back
  · rw [ended]
    exact (empty (.str ". ") rfl).2.1

end SourceTally.AliasTable
