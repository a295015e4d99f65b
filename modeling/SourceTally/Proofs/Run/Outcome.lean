import SourceTally.Proofs.Discovery
import SourceTally.Proofs.Run.Tally

/- Runs as a whole. A run that could set up its counter returns when its inputs can be expanded, and
   what it returns is a tally over the files that were discovered. -/
namespace SourceTally

variable {t : FileTree}

namespace Counter

/-- The path leads to a file with a text that is not empty, for which there is a parser. -/
def canCount (c : Counter) (t : FileTree) (path : Path) : Bool :=
  t.isFile path.text &&
    match t.readText path .utf8 .ignore with
    | .ok text => text ≠ "" && (c.resolve (.str path.text)).isOk
    | .error _ => false

theorem isFile_of_readText {path : Path} {text : String}
    (read : t.readText path .utf8 .ignore = .ok text) : t.isFile path.text = true := by
  simp only [FileTree.readText, FileTree.bytes?] at read
  split at read
  · cases read
  · rename_i bytes there
    split at there
    · rename_i place contents found
      simp only [FileTree.isFile, found]
    · cases there

theorem judge_ok_iff {c : Counter} {path : Path} {n : Statistics} :
    c.judge t path = .ok n ↔ ∃ text parser, t.readText path .utf8 .ignore = .ok text ∧
      c.resolve (.str path.text) = .ok parser ∧ parser.parse (.str text) = .ok n := by
  constructor
  · intro judged
    obtain ⟨text, read, classified⟩ := bind_ok judged
    simp only [classify, Value.nonemptyText?] at classified
    split at classified
    · cases classified
    · rename_i kept proper
      obtain ⟨parser, resolved, parsed⟩ := bind_ok classified
      refine ⟨text, parser, read, resolved, ?_⟩
      simp only [Parser.parse, Value.nonemptyText?, proper, parsed]
  · rintro ⟨text, parser, read, resolved, parsed⟩
    simp only [Parser.parse] at parsed
    split at parsed
    · rename_i kept proper
      simp only [judge, classify, read, bind, Except.bind, proper, resolved, parsed]
    · cases parsed

theorem canCount_iff {c : Counter} (willing : c.Willing) (t : FileTree) (path : Path) :
    c.canCount t path = true ↔ ∃ n, c.judge t path = .ok n := by
  constructor
  · intro countable
    obtain ⟨_, rest⟩ := Bool.and_eq_true_iff.mp countable
    split at rest
    · rename_i text read
      obtain ⟨proper, resolves⟩ := Bool.and_eq_true_iff.mp rest
      obtain ⟨parser, resolved⟩ := exists_of_isOk resolves
      obtain ⟨n, parsed⟩ := Parser.parseText_of_willing (resolve_willing willing resolved) text
      refine ⟨n, judge_ok_iff.mpr ⟨text, parser, read, resolved, ?_⟩⟩
      have kept : (Value.str text).nonemptyText? = some text := if_neg (by simpa using proper)
      simp only [Parser.parse, kept, parsed]
    · cases rest
  · rintro ⟨n, judged⟩
    obtain ⟨text, parser, read, resolved, parsed⟩ := judge_ok_iff.mp judged
    have proper : text ≠ "" := by
      rintro rfl
      cases parsed
    simp only [canCount, isFile_of_readText read, read, resolved, Bool.true_and]
    simp [proper, Except.isOk, Except.toBool]

theorem judge_cases {c : Counter} (willing : c.Willing) (t : FileTree) (path : Path) :
    (∃ n, c.judge t path = .ok n ∧ c.canCount t path = true) ∨
      ∃ e, c.judge t path = .error e ∧ c.canCount t path = false := by
  have decided := canCount_iff willing t path
  cases judged : c.judge t path with
  | ok n => exact .inl ⟨n, rfl, decided.mpr ⟨n, judged⟩⟩
  | error e =>
    refine .inr ⟨e, rfl, ?_⟩
    rw [← Bool.not_eq_true, decided, judged]
    simp

theorem entryFor_keys {c : Counter} (willing : c.Willing) (t : FileTree) (paths : List Path) :
    (paths.filterMap (c.entryFor t)).map (·.1) =
      (paths.filter (c.canCount t)).map fun path => ⟨.str path.text⟩ := by
  induction paths with
  | nil => rfl
  | cons path paths ih =>
    rcases judge_cases willing t path with ⟨n, judged, countable⟩ | ⟨e, judged, uncountable⟩
    · simp [entryFor, judged, countable, ih]
    · simp [entryFor, judged, uncountable, ih]

theorem refusalFor_texts {c : Counter} (willing : c.Willing) (t : FileTree) (paths : List Path) :
    (paths.filterMap (c.refusalFor t)).map (·.1) =
      (paths.filter fun path => !c.canCount t path).map Path.text := by
  induction paths with
  | nil => rfl
  | cons path paths ih =>
    rcases judge_cases willing t path with ⟨n, judged, countable⟩ | ⟨e, judged, uncountable⟩
    · simp [refusalFor, judged, countable, ih]
    · simp [refusalFor, judged, uncountable, ih]

end Counter

namespace Configuration

variable {config : Configuration} {c : Counter}

theorem counter_blank (built : config.counter = .ok c) : c.ledger = ([], 0) := by
  obtain ⟨parsers, _, rest⟩ := bind_ok built
  obtain ⟨result, aliased, same⟩ := bind_ok rest
  cases same
  exact (Counter.addAliases_ledger aliased).trans (Counter.register_ledger {} 0 _ _ _)

theorem counter_willing (built : config.counter = .ok c) : c.Willing := by
  obtain ⟨parsers, _, rest⟩ := bind_ok built
  obtain ⟨result, aliased, same⟩ := bind_ok rest
  cases same
  obtain ⟨table, _, extended⟩ := bind_ok aliased
  cases extended
  have bare : ({} : Counter).Willing := ⟨by simp, by simp⟩
  have registered : config.registration.counter.Willing :=
    Catalogue.register_willing bare 0 _ _ _
  exact ⟨registered.parsers, registered.fallback⟩

/-- What a run is to return when its counter was set up and its files were found: without a count
    when it is dry, and else with a tally over the files. -/
structure Returns (config : Configuration) (t : FileTree) (c : Counter) (found : Discovery)
    (r : RunResult) : Prop where
  files : r.files = found.files
  dry : config.dryRun = true → r.counter = c ∧ r.skipped = []
  wet : config.dryRun = false → ∃ last : Counter.Tally, last.After c t r.files ∧
    r.counter = last.counter ∧ r.skipped = last.skipped

theorem run_of_expand {found : Discovery} (built : config.counter = .ok c)
    (expanded : Discovery.expand t config.exclusions [] config.inputs = .ok found) :
    ∃ r, (config.run t).1 = .ok r ∧ config.Returns t c found r := by
  cases dryness : config.dryRun with
  | true =>
    refine ⟨{ files := found.files, counter := c }, ?_, rfl, fun _ => ⟨rfl, rfl⟩, ?_⟩
    · simp only [run, built, expanded, count, dryness, if_true]
    · simp [dryness]
  | false =>
    have willing : (Counter.Tally.mk c [] found.notes).counter.Willing := counter_willing built
    obtain ⟨last, counted⟩ := Counter.Tally.countFiles_of_willing willing t found.files
    have after : last.After c t found.files :=
      Counter.Tally.countFiles_after (Counter.Tally.after_nil (counter_blank built) rfl) counted
    refine ⟨{ files := found.files, counter := last.counter, skipped := last.skipped }, ?_, rfl,
      by simp [dryness], fun _ => ⟨last, after, rfl, rfl⟩⟩
    simp only [run, built, expanded, count, dryness, counted, Bool.false_eq_true, if_false]

theorem run_ok {r : RunResult} (ran : (config.run t).1 = .ok r) :
    ∃ c found, config.counter = .ok c ∧
      Discovery.expand t config.exclusions [] config.inputs = .ok found ∧
      config.Returns t c found r := by
  cases built : config.counter with
  | error e =>
    simp only [run, built] at ran
    cases ran
  | ok c =>
    cases expanded : Discovery.expand t config.exclusions [] config.inputs with
    | error e =>
      simp only [run, built, expanded] at ran
      cases ran
    | ok found =>
      obtain ⟨same, returned, returns⟩ := run_of_expand built expanded
      rw [ran] at returned
      cases returned
      exact ⟨c, found, rfl, rfl, returns⟩

theorem run_ok_iff (built : config.counter = .ok c) (t : FileTree) :
    (∃ r, (config.run t).1 = .ok r) ↔
      ∃ found, Discovery.expand t config.exclusions [] config.inputs = .ok found := by
  constructor
  · rintro ⟨r, ran⟩
    obtain ⟨_, found, _, expanded, _⟩ := run_ok ran
    exact ⟨found, expanded⟩
  · rintro ⟨found, expanded⟩
    obtain ⟨r, ran, _⟩ := run_of_expand built expanded
    exact ⟨r, ran⟩

theorem run_error {e : Error} (built : config.counter = .ok c)
    (failed : (config.run t).1 = .error e) :
    Discovery.expand t config.exclusions [] config.inputs = .error e := by
  cases expanded : Discovery.expand t config.exclusions [] config.inputs with
  | error cause =>
    simp only [run, built, expanded] at failed
    cases failed
    rfl
  | ok found =>
    obtain ⟨r, ran, _⟩ := run_of_expand built expanded
    rw [failed] at ran
    cases ran

end Configuration

end SourceTally
