import SourceTally.Proofs.Counter.Operation

/- A batch of files is classified as a whole before any of it is counted. Since counting a file
   changes nothing that classifying reads, this comes to the same as counting one file after the
   other, with the errors that concern one file set down and the first other one raised. -/
namespace SourceTally.Counter

def processEach (c : Counter) : List (Value × Value) → Except Error (List Outcome) × Counter
  | [] => (.ok [], c)
  | (file, contents) :: rest =>
    match c.process file contents with
    | .ok (statistics, next) =>
      let (outcomes, last) := processEach next rest
      (outcomes.map (⟨file, .ok statistics⟩ :: ·), last)
    | .error e =>
      if e.isReported then
        let (outcomes, last) := processEach c rest
        (outcomes.map (⟨file, .error e⟩ :: ·), last)
      else (.error e, c)

theorem classify_record {c next : Counter} {file : Value} {n : Statistics}
    (recorded : c.record file n = .ok next) : next.classify = c.classify := by
  rw [record_ok recorded]
  funext name contents
  simp only [classify, resolve, fallback?, parserForExtension?]

theorem unkeyable_not_reported {c : Counter} {file : Value} {n : Statistics} {e : Error}
    (refused : c.record file n = .error e) : e.isReported = false := by
  simp only [record] at refused
  split at refused
  · cases refused
    rfl
  · cases refused

/-- Settling results that were classified beforehand is counting one file after the other. The
    counter that classified may be an earlier one, as long as it classifies alike. -/
theorem settle_classified (pairs : List (Value × Value)) (c before : Counter)
    (alike : c.classify = before.classify) :
    c.settle (pairs.map fun pair => (pair.1, before.classify pair.1 pair.2)) =
      c.processEach pairs := by
  induction pairs generalizing c with
  | nil => rfl
  | cons pair rest ih =>
    obtain ⟨file, contents⟩ := pair
    simp only [List.map_cons, processEach, process, alike]
    cases before.classify file contents with
    | error e =>
      simp only [settle, bind, Except.bind]
      split
      · rw [ih c alike]
      · rfl
    | ok n =>
      simp only [settle, bind, Except.bind]
      cases recorded : c.record file n with
      | error e => simp [unkeyable_not_reported recorded]
      | ok next =>
        have later := ih next ((classify_record recorded).trans alike)
        simp only [pure, Except.pure, later]

theorem processEach_files {pairs : List (Value × Value)} {c : Counter} {outcomes : List Outcome}
    (success : (c.processEach pairs).1 = .ok outcomes) :
    outcomes.map (·.file) = pairs.map (·.1) := by
  induction pairs generalizing c outcomes with
  | nil =>
    cases success
    rfl
  | cons pair rest ih =>
    obtain ⟨file, contents⟩ := pair
    simp only [processEach] at success
    split at success
    · obtain ⟨later, done, rfl⟩ := map_ok success
      simp [ih done]
    · split at success
      · obtain ⟨later, done, rfl⟩ := map_ok success
        simp [ih done]
      · cases success

/-- A batch has the effect, the errors and the outcomes of counting its files one after the other.
    When an item is no pair of a file and its contents, it fails and changes nothing. -/
theorem processMany_eq_processEach (c : Counter) (items : Value) (entries : List Value)
    (listed : items.items? = some entries) :
    (∀ pairs, List.Forall₂ (fun entry pair => unpackPair entry = .ok pair) entries pairs →
      c.processMany items = c.processEach pairs ∧
        ∀ outcomes, (c.processMany items).1 = .ok outcomes →
          outcomes.map (·.file) = pairs.map (·.1)) ∧
      ((∃ entry ∈ entries, ∀ pair, unpackPair entry ≠ .ok pair) →
        ∃ e, c.processMany items = (.error e, c)) := by
  constructor
  · intro pairs each
    have same : c.processMany items = c.processEach pairs := by
      simp only [processMany, unpackPairs, listed, mapM_ok each]
      exact settle_classified pairs c c rfl
    refine ⟨same, fun outcomes success => ?_⟩
    rw [same] at success
    exact processEach_files success
  · intro fails
    obtain ⟨e, refused⟩ := mapM_error fails
    exact ⟨e, by simp only [processMany, unpackPairs, listed, refused]⟩

/-- A name occurs twice, one file has no contents, and a name that is no key stops the batch. -/
theorem processMany_unkeyable_name :
    let c : Counter :=
      { options :=
          { requireExtension := .int 0
            defaultParser := some ⟨1, .plain, "plain", "Plain Text", []⟩ }
        parsers := [⟨0, .cFamily, "cfamily", "C-Family", ["c"]⟩] }
    let pairs : List (Value × Value) :=
      [(.str "a.c", .str "x//y"), (.str "b.c", .str ""), (.str "a.c", .str "/* z"),
        (.list [], .str "q"), (.str "d.c", .str "r")]
    let entries : List Value := pairs.map fun pair => .tuple [pair.1, pair.2]
    (Value.list entries).items? = some entries ∧
      List.Forall₂ (fun entry pair => unpackPair entry = .ok pair) entries pairs ∧
      c.processMany (.list entries) = c.processEach pairs ∧
      (c.processMany (.list entries)).1.isOk = false ∧
      (c.processMany (.list entries)).2.totals.characters.comment = 4 ∧
      (∃ entry ∈ entries ++ [.int 3], ∀ pair, unpackPair entry ≠ .ok pair) ∧
      ∃ e, c.processMany (.list (entries ++ [.int 3])) = (.error e, c) := by
  intro c pairs entries
  have each : List.Forall₂ (fun entry pair => unpackPair entry = .ok pair) entries pairs := by
    simp [entries, pairs, unpackPair, Value.items?]
  have fails : ∃ entry ∈ entries ++ [.int 3], ∀ pair, unpackPair entry ≠ .ok pair :=
    ⟨.int 3, by simp, by simp [unpackPair, Value.items?]⟩
  have whole := processMany_eq_processEach c (.list entries) entries rfl
  have broken := processMany_eq_processEach c (.list (entries ++ [.int 3])) _ rfl
  refine ⟨rfl, each, (whole.1 pairs each).1, ?_, ?_, fails, broken.2 fails⟩
  · decide +kernel
  · decide +kernel

end SourceTally.Counter
