import SourceTally.Proofs.Assoc
import SourceTally.Proofs.Counter.Operation
import SourceTally.Proofs.Scan.Plain

/- The totals of a counter are kept up by taking away what a file contributed before and adding
   what it contributes now. Whatever is done to a counter, in whatever order and with whatever
   errors, they stay the sum over the files it holds. -/
namespace SourceTally.Counter

/-- The totals of a ledger are the sum over its files, each of which has statistics that are
    allowed. -/
structure Conserved (allowed : Statistics → Prop)
    (ledger : List (FileName × Statistics) × Statistics) : Prop where
  balanced : ledger.2 = (Assoc.values ledger.1).sum
  allowed : ∀ n ∈ Assoc.values ledger.1, allowed n

variable {allowed : Statistics → Prop}

theorem conserved_empty : Conserved allowed ([], 0) := ⟨rfl, by simp⟩

theorem record_conserved {c next : Counter} {file : Value} {n : Statistics}
    (recorded : c.record file n = .ok next) (fits : allowed n)
    (conserved : Conserved allowed c.ledger) : Conserved allowed next.ledger := by
  obtain ⟨balanced, each⟩ := conserved
  have shape := record_ok recorded
  subst next
  constructor
  · simp only [ledger] at balanced ⊢
    rw [Assoc.sum_insert, balanced]
  · intro m member
    rcases Assoc.mem_values_insert member with same | earlier
    · rw [same]; exact fits
    · exact each m earlier

theorem settle_preserves {holds : Counter → Prop} {results : List (Value × Except Error Statistics)}
    (step : ∀ c next file n, (file, Except.ok n) ∈ results → c.record file n = .ok next →
      holds c → holds next)
    (c : Counter) (start : holds c) : holds (c.settle results).2 := by
  induction results generalizing c with
  | nil => exact start
  | cons result results ih =>
    obtain ⟨file, result⟩ := result
    have later := ih fun c next file n member => step c next file n (List.mem_cons_of_mem _ member)
    cases result with
    | error e =>
      simp only [settle]
      split
      · exact later c start
      · exact start
    | ok n =>
      simp only [settle]
      cases recorded : c.record file n with
      | error e => exact start
      | ok next => exact later next (step c next file n (by simp) recorded start)

theorem settle_conserved {results : List (Value × Except Error Statistics)}
    (fit : ∀ file n, (file, Except.ok n) ∈ results → allowed n) (c : Counter)
    (conserved : Conserved allowed c.ledger) : Conserved allowed (c.settle results).2.ledger :=
  settle_preserves (fun _ _ file n member recorded before =>
    record_conserved recorded (fit file n member) before) c conserved

theorem classify_sound {c : Counter} {file contents : Value} {n : Statistics}
    (classified : c.classify file contents = .ok n) : n.Sound := by
  simp only [classify] at classified
  split at classified
  · cases classified
  · obtain ⟨p, _, parsed⟩ := bind_ok classified
    simp only [Parser.parseText] at parsed
    split at parsed
    · rename_i m scanned
      cases parsed
      exact scan?_sound scanned
    · cases parsed

theorem perform_conserved {c : Counter} {op : Operation} (sound : ∀ n, n.Sound → allowed n)
    (brought : ∀ n ∈ op.brought, allowed n) (conserved : Conserved allowed c.ledger) :
    Conserved allowed (c.perform op).ledger := by
  rcases perform_ledger c op with same | cleared | ⟨results, settled, origin⟩
  · rw [same]; exact conserved
  · rw [cleared]; exact conserved_empty
  · rw [settled]
    refine settle_conserved (fun file n member => ?_) c conserved
    rcases origin file n member with ⟨name, contents, classified⟩ | other
    · exact sound n (classify_sound classified)
    · exact brought n other

theorem run_conserved {c : Counter} {history : List Operation} (sound : ∀ n, n.Sound → allowed n)
    (brought : ∀ op ∈ history, ∀ n ∈ op.brought, allowed n)
    (conserved : Conserved allowed c.ledger) : Conserved allowed (c.run history).ledger := by
  induction history generalizing c with
  | nil => exact conserved
  | cons op history ih =>
    have next := perform_conserved sound (brought op (by simp)) conserved
    exact ih (fun later member => brought later (by simp [member])) next

/-- After any history of a counter its totals are the sum over its files. When parsers of other
    kinds only raised errors, no total is negative, every line is in one category, and every
    character is in one class. -/
theorem totals_eq_sum_of_files {options : Options.Request} {parsers : Value} {start : Counter}
    (made : make options parsers = .ok start) (history : List Operation) :
    (start.run history).totals = ((start.run history).files.map (·.2)).sum ∧
      ((∀ op ∈ history, op.brought = []) →
        (∀ field ∈ (start.run history).totals.lines.fields, 0 ≤ field.2) ∧
        (∀ field ∈ (start.run history).totals.characters.fields, 0 ≤ field.2) ∧
        (start.run history).totals.lines.isConsistent = true ∧
        (start.run history).totals.characters.total =
          (start.run history).totals.characters.whitespace +
            (start.run history).totals.characters.numerical +
            (start.run history).totals.characters.alphabetical +
            (start.run history).totals.characters.special) := by
  have empty := make_ledger made
  constructor
  · have conserved : Conserved (fun _ => True) (start.run history).ledger :=
      run_conserved (fun _ _ => trivial) (fun _ _ _ _ => trivial) (empty ▸ conserved_empty)
    exact conserved.balanced
  · intro raised
    have conserved : Conserved Statistics.Sound (start.run history).ledger := by
      refine run_conserved (fun _ sound => sound) ?_ (empty ▸ conserved_empty)
      intro op member n brought
      simp [raised op member] at brought
    have sound : (start.run history).totals.Sound := by
      have total := Statistics.sound_sum conserved.allowed
      rwa [← conserved.balanced] at total
    exact ⟨sound.lines_nonneg, sound.characters_nonneg, decide_eq_true sound.consistent,
      sound.classed⟩

theorem totals_after_stopped_batch :
    let start : Counter :=
      { parsers :=
          [⟨0, .cFamily, "cfamily", "C-Family", ["c"]⟩, ⟨1, .failing, "boom", "Boom", ["boom"]⟩] }
    let history : List Operation :=
      [.process (.str "a.c") (.str "x//y\n"), .process (.str "a.c") (.str "int z;"),
        .processMany (.list [.tuple [.str "b.c", .str "/* */"], .tuple [.str "c.boom", .str "q"],
          .tuple [.str "d.c", .str "never"]]),
        .register 2 (.list [.str "plain", .str "nope"]) .nothing .nothing]
    make (.value .nothing) (.list (start.parsers.map .parser)) = .ok start ∧
      (∀ op ∈ history, op.brought = []) ∧
      (start.run history).totals.lines.total = 2 ∧
      (start.run history).totals = ((start.run history).files.map (·.2)).sum ∧
      (start.run history).totals.lines.isConsistent = true := by
  intro start history
  have made : make (.value .nothing) (.list (start.parsers.map .parser)) = .ok start := rfl
  have raised : ∀ op ∈ history, op.brought = [] := by simp [history, Operation.brought]
  obtain ⟨balanced, sound⟩ := totals_eq_sum_of_files made history
  exact ⟨made, raised, by decide +kernel, balanced, (sound raised).2.2.1⟩

end SourceTally.Counter
