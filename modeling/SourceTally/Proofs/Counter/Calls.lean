import SourceTally.Proofs.Counter.Batch
import SourceTally.Proofs.Counter.Conservation

/- Calls that count one file each, of which some may fail. What a counter holds after them is decided
   by the successful ones alone: each name has the place of its first success and the statistics of
   its last, and the totals are those of the last successes, counted once each in any order. -/
namespace SourceTally

theorem FileName.beq_iff {a b : FileName} : (a == b) = true ↔ a.value.key = b.value.key := by
  show (a.value.key == b.value.key) = true ↔ _
  exact beq_iff_eq

instance : EquivBEq FileName where
  rfl := FileName.beq_iff.mpr rfl
  symm same := FileName.beq_iff.mpr (FileName.beq_iff.mp same).symm
  trans first second :=
    FileName.beq_iff.mpr ((FileName.beq_iff.mp first).trans (FileName.beq_iff.mp second))

namespace Counter

structure Success where
  contents : Value
  statistics : Statistics

/-- Makes calls one after the other. A call that fails changes nothing. The answer lists the
    successful calls under the names of their files, and the counter at the end. -/
def makeCalls (c : Counter) : List (Value × Value) → List (FileName × Success) × Counter
  | [] => ([], c)
  | (file, contents) :: rest =>
    match c.process file contents with
    | .ok (statistics, next) =>
      let (later, last) := makeCalls next rest
      ((⟨file⟩, ⟨contents, statistics⟩) :: later, last)
    | .error _ => makeCalls c rest

def callOf (success : FileName × Success) : Value × Value := (success.1.value, success.2.contents)

def entryOf (success : FileName × Success) : FileName × Statistics :=
  (success.1, success.2.statistics)

/-- A call succeeds with the given statistics, whatever was counted before. -/
def Succeeds (c : Counter) (success : FileName × Success) : Prop :=
  c.classify success.1.value success.2.contents = .ok success.2.statistics ∧
    success.1.value.unkeyable? = none

theorem process_ok {c next : Counter} {file contents : Value} {n : Statistics}
    (done : c.process file contents = .ok (n, next)) :
    c.classify file contents = .ok n ∧ c.record file n = .ok next := by
  obtain ⟨m, classified, rest⟩ := bind_ok done
  obtain ⟨after, recorded, same⟩ := bind_ok rest
  cases same
  exact ⟨classified, recorded⟩

theorem record_keyable {c next : Counter} {file : Value} {n : Statistics}
    (recorded : c.record file n = .ok next) : file.unkeyable? = none := by
  simp only [record] at recorded
  split at recorded
  · cases recorded
  · assumption

theorem record_of_keyable {file : Value} (keyable : file.unkeyable? = none) (c : Counter)
    (n : Statistics) : ∃ next, c.record file n = .ok next := by
  simp only [record, keyable]
  exact ⟨_, rfl⟩

theorem makeCalls_files (c : Counter) (calls : List (Value × Value)) :
    (c.makeCalls calls).2.files = Assoc.insertAll c.files ((c.makeCalls calls).1.map entryOf) := by
  induction calls generalizing c with
  | nil => rfl
  | cons call calls ih =>
    obtain ⟨file, contents⟩ := call
    simp only [makeCalls]
    split
    · rename_i n next done
      have recorded := record_ok (process_ok done).2
      have later := ih next
      simp only [List.map_cons, Assoc.insertAll, List.foldl_cons] at later ⊢
      rw [later, recorded]
      rfl
    · exact ih c

theorem makeCalls_conserved {c : Counter} {allowed : Statistics → Prop}
    (sound : ∀ n, n.Sound → allowed n) (calls : List (Value × Value))
    (conserved : Conserved allowed c.ledger) :
    Conserved allowed (c.makeCalls calls).2.ledger := by
  induction calls generalizing c with
  | nil => exact conserved
  | cons call calls ih =>
    obtain ⟨file, contents⟩ := call
    simp only [makeCalls]
    split
    · rename_i n next done
      obtain ⟨classified, recorded⟩ := process_ok done
      have fits := sound n (classify_sound classified)
      exact ih (record_conserved recorded fits conserved)
    · exact ih conserved

theorem makeCalls_succeed (c : Counter) (calls : List (Value × Value)) :
    ∀ success ∈ (c.makeCalls calls).1, c.Succeeds success := by
  induction calls generalizing c with
  | nil => simp [makeCalls]
  | cons call calls ih =>
    obtain ⟨file, contents⟩ := call
    intro success member
    simp only [makeCalls] at member
    split at member
    · rename_i n next done
      obtain ⟨classified, recorded⟩ := process_ok done
      rcases List.mem_cons.mp member with same | later
      · rw [same]
        exact ⟨classified, record_keyable recorded⟩
      · have held := ih next success later
        rwa [Succeeds, classify_record recorded] at held
    · exact ih c success member

theorem makeCalls_of_succeed {c : Counter} {successes : List (FileName × Success)}
    (each : ∀ success ∈ successes, c.Succeeds success) :
    (c.makeCalls (successes.map callOf)).1 = successes := by
  induction successes generalizing c with
  | nil => rfl
  | cons success successes ih =>
    obtain ⟨classified, keyable⟩ := each success (by simp)
    obtain ⟨next, recorded⟩ := record_of_keyable keyable c success.2.statistics
    have done : c.process success.1.value success.2.contents =
        .ok (success.2.statistics, next) := by
      simp only [process, classified, bind, Except.bind, recorded, pure, Except.pure]
    have later : ∀ success ∈ successes, next.Succeeds success := by
      intro other member
      rw [Succeeds, classify_record recorded]
      exact each other (by simp [member])
    have rest := ih later
    simp only [List.map_cons, makeCalls, callOf, done] at rest ⊢
    rw [rest]

theorem get?_makeCalls {c : Counter} (empty : c.files = []) (calls : List (Value × Value))
    (name : FileName) :
    Assoc.get? (c.makeCalls calls).2.files name =
      (Assoc.get? (c.makeCalls calls).1.reverse name).map (·.statistics) := by
  have turned : ((c.makeCalls calls).1.map entryOf).reverse =
      (c.makeCalls calls).1.reverse.map entryOf := List.map_reverse.symm
  rw [makeCalls_files, empty, ← Assoc.ofList, Assoc.get?_ofList, turned]
  exact Assoc.get?_map _ _ name

theorem makeCalls_totals {c : Counter} (blank : c.ledger = ([], 0))
    (calls : List (Value × Value)) :
    (c.makeCalls calls).2.totals = (Assoc.values (c.makeCalls calls).2.files).sum := by
  have start : Conserved (fun _ => True) c.ledger := blank ▸ conserved_empty
  exact (makeCalls_conserved (fun _ _ => trivial) calls start).balanced

theorem reset_of_blank {c : Counter} (blank : c.ledger = ([], 0)) : c.reset = c := by
  have files : c.files = [] := congrArg Prod.fst blank
  have totals : c.totals = 0 := congrArg Prod.snd blank
  cases c
  subst files totals
  rfl

theorem makeCalls_lasts_totals {c : Counter} (blank : c.ledger = ([], 0))
    (calls : List (Value × Value)) {order : List (FileName × Success)}
    (reordered : order.Perm (Assoc.lasts (c.makeCalls calls).1)) :
    (c.makeCalls (order.map callOf)).2.totals = (c.makeCalls calls).2.totals := by
  have empty : c.files = [] := congrArg Prod.fst blank
  have distinct := Assoc.distinct_lasts (c.makeCalls calls).1
  have turned : (Assoc.lasts (c.makeCalls calls).1).Perm order.reverse :=
    reordered.symm.trans (List.reverse_perm order).symm
  have each : ∀ success ∈ order, c.Succeeds success := by
    intro success member
    have last := reordered.mem_iff.mp member
    exact makeCalls_succeed c calls success (Assoc.lasts_subset last)
  have alike : ∀ name, Assoc.get? (c.makeCalls (order.map callOf)).2.files name =
      Assoc.get? (c.makeCalls calls).2.files name := by
    intro name
    rw [get?_makeCalls empty, get?_makeCalls empty, makeCalls_of_succeed each,
      ← Assoc.get?_perm distinct turned, Assoc.get?_lasts]
  rw [makeCalls_totals blank, makeCalls_totals blank]
  refine (Assoc.values_perm ?_ ?_ alike).sum_eq
  · rw [makeCalls_files, empty]
    exact Assoc.distinct_ofList _
  · rw [makeCalls_files, empty]
    exact Assoc.distinct_ofList _

theorem process_again {c next : Counter} {file contents : Value} {n : Statistics}
    (done : c.process file contents = .ok (n, next)) :
    next.process file contents = .ok (n, next) := by
  obtain ⟨classified, recorded⟩ := process_ok done
  have again : next.classify file contents = .ok n := by
    rw [classify_record recorded]
    exact classified
  have keyable := record_keyable recorded
  have shape := record_ok recorded
  have found : Assoc.get? next.files ⟨file⟩ = some n := by
    rw [shape, Assoc.get?_insert, if_pos BEq.rfl]
  have unmoved : Assoc.insert next.files ⟨file⟩ n = next.files := by
    rw [shape]
    exact Assoc.insert_again c.files ⟨file⟩ n
  have same : next.record file n = .ok next := by
    obtain ⟨after, rerecorded⟩ := record_of_keyable keyable next n
    rw [rerecorded, record_ok rerecorded, found, unmoved, Option.getD_some, sub_add_cancel]
  simp only [process, again, bind, Except.bind, same, pure, Except.pure]

/-- Calls on a counter without files, of which any may fail: the counter then holds the names with a
    success, in the order of their first ones and with the statistics of their last ones. A fresh
    counter that makes only the last successful call of each name, in any order, has the same totals.
    A successful call that is made once more changes nothing. -/
theorem calls_keep_first_places_and_last_values {options : Options.Request} {parsers : Value}
    {made : Counter} (constructed : make options parsers = .ok made) (history : List Operation)
    (empty : (made.run history).files = []) (calls : List (Value × Value)) :
    let start := made.run history
    let successes := (start.makeCalls calls).1
    let final := (start.makeCalls calls).2
    final.files.map (·.1) = (successes.map (·.1)).eraseDups ∧
      (∀ name, Assoc.get? final.files name =
        (Assoc.get? successes.reverse name).map (·.statistics)) ∧
      (∀ order : List (FileName × Success), order.Perm (Assoc.lasts successes) →
        (start.reset.makeCalls (order.map callOf)).2.totals = final.totals) ∧
      ∀ file contents n next, final.process file contents = .ok (n, next) →
        next.process file contents = .ok (n, next) := by
  intro start successes final
  have conserved : Conserved (fun _ => True) start.ledger :=
    run_conserved (fun _ _ => trivial) (fun _ _ _ _ => trivial)
      (make_ledger constructed ▸ conserved_empty)
  have untotalled : start.totals = 0 := by
    have balanced := conserved.balanced
    simp only [ledger, start, empty] at balanced
    exact balanced
  have blank : start.ledger = ([], 0) := Prod.ext empty untotalled
  have fresh : start.reset = start := reset_of_blank blank
  refine ⟨?_, get?_makeCalls empty calls, ?_, ?_⟩
  · have names : (successes.map entryOf).map (·.1) = successes.map (·.1) := by
      rw [List.map_map]
      rfl
    have written := Assoc.keys_ofList (successes.map entryOf)
    rw [Assoc.keys, Assoc.keys, names] at written
    rw [← written, Assoc.ofList, ← empty]
    exact congrArg (List.map (·.1)) (makeCalls_files start calls)
  · intro order reordered
    rw [fresh]
    exact makeCalls_lasts_totals blank calls reordered
  · intro file contents n next done
    exact process_again done

/-- Two names are one key, one of them and another name come back with other contents, a call without
    contents fails, and the counter was used and reset before. -/
theorem calls_on_a_counter_that_was_reset :
    let plain : Parser := ⟨1, .plain, "plain", "Plain Text", []⟩
    let family : Parser := ⟨0, .cFamily, "cfamily", "C-Family", ["c"]⟩
    let options : Value :=
      .mapping [("require_extension", .bool false), ("default_parser", .parser plain)]
    let made : Counter :=
      { options := ⟨.bool false, some plain⟩, parsers := [family] }
    let history : List Operation := [.process (.str "old.c") (.str "gone"), .reset]
    let calls : List (Value × Value) :=
      [(.str "a.c", .str "x//y"), (.str "b.c", .str ""), (.int 1, .str "q"),
        (.str "a.c", .str "/* z"), (.list [], .str "q"), (.bool true, .str "r\ns")]
    let start := made.run history
    let successes := (start.makeCalls calls).1
    let final := (start.makeCalls calls).2
    make options (.list [.parser family]) = .ok made ∧
      start.files = [] ∧
      final.files.map (·.1.value.key) = [[.str "a.c"], [.number 1 0]] ∧
      (start.reset.makeCalls ((Assoc.lasts successes).reverse.map callOf)).2.totals =
        final.totals ∧
      final.totals.lines.total = 3 ∧ final.totals.characters.comment = 4 := by
  intro plain family options made history calls start successes final
  have constructed : make options (.list [.parser family]) = .ok made := rfl
  have empty : start.files = [] := rfl
  refine ⟨constructed, empty, ?_, ?_, ?_, ?_⟩
  · decide +kernel
  · -- Holds of any such counter and calls, so their values need not be looked at.
    clear_value made history calls
    obtain ⟨_, _, reordered, _⟩ :=
      calls_keep_first_places_and_last_values constructed history empty calls
    exact reordered _ (List.reverse_perm _)
  · decide +kernel
  · decide +kernel

end Counter

end SourceTally
