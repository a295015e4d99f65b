import SourceTally.Program
import SourceTally.Proofs.Report.Document
import SourceTally.Proofs.Run.Outcome

/- The exit status of the program when it counts. Status 1 tells that the run could not be set up, or
   that files were met and none was counted. When the files are read, the latter means that each of
   them was left out with an error; but a dry run counts nothing either, so it has status 1 as soon
   as it meets a file. -/
namespace SourceTally

variable {t : FileTree}

namespace RunResult

/-- A file that was discovered was left out with an error, and no file was counted. -/
def NothingCounted (r : RunResult) : Prop :=
  (∃ path ∈ r.files, path.text ∈ r.skipped.map Prod.fst) ∧ r.counter.files = []

theorem render_of_blank {r : RunResult} (blank : r.counter.ledger = ([], 0)) :
    ∃ text, r.report.render true = .ok text := by
  obtain ⟨files, totals⟩ := Prod.mk.inj blank
  refine ⟨_, Report.render_short ?_ ?_⟩
  · simp [report, Report.ofCounter, files]
  · simp only [report, Report.ofCounter, Report.integers, files, totals]
    decide +kernel

theorem failed_iff (r : RunResult) : r.failed = true ↔ r.files ≠ [] ∧ r.counter.files = [] := by
  simp [failed]

end RunResult

namespace Configuration

variable {config : Configuration} {c : Counter}

/-- The counter of a run cannot be set up, for a reason that is reported. -/
def Rejected (config : Configuration) : Prop :=
  ∃ e, config.counter = .error e ∧ e.isReported = true

theorem counter_of_defaults (inputs : List String) (exclusions : List Exclusion) (dryRun : Bool) :
    ({ inputs, exclusions, dryRun } : Configuration).counter.isOk = true := by
  have bare : ({} : Configuration).counter.isOk = true := by decide +kernel
  exact bare

theorem run_reported_iff (config : Configuration) (t : FileTree) :
    (∃ e, (config.run t).1 = .error e ∧ e.isReported = true) ↔ config.Rejected := by
  constructor
  · rintro ⟨e, failed, reported⟩
    cases built : config.counter with
    | error cause =>
      simp only [run, built] at failed
      cases failed
      exact ⟨e, built, reported⟩
    | ok c =>
      -- Once there is a counter only a loop of links stops the run, and that is not reported.
      obtain ⟨path, _, refused⟩ := Discovery.expand_error (run_error built failed)
      obtain ⟨text, rfl⟩ := FileTree.resolve_error refused
      cases reported
  · rintro ⟨e, built, reported⟩
    exact ⟨e, by simp only [run, built], reported⟩

theorem Returns.failed_iff_of_dry {found : Discovery} {r : RunResult}
    (returns : config.Returns t c found r) (built : config.counter = .ok c) (dry : config.dryRun = true) :
    r.failed = true ↔ r.files ≠ [] := by
  have uncounted : r.counter.files = [] := by
    rw [(returns.dry dry).1]
    exact congrArg Prod.fst (counter_blank built)
  rw [RunResult.failed_iff, uncounted]
  simp

theorem Returns.failed_iff_of_wet {found : Discovery} {r : RunResult}
    (returns : config.Returns t c found r) (wet : config.dryRun = false) :
    r.failed = true ↔ r.NothingCounted := by
  obtain ⟨last, after, counter, skipped⟩ := returns.wet wet
  rw [RunResult.failed_iff, RunResult.NothingCounted]
  refine and_congr_left fun uncounted => ?_
  constructor
  · intro met
    obtain ⟨path, member⟩ := List.exists_mem_of_ne_nil _ met
    -- A map that was written to is not empty, so no file had a count to write.
    have unlisted : r.files.filterMap (c.entryFor t) = [] := by
      rw [counter, after.files] at uncounted
      exact Assoc.eq_nil_of_ofList uncounted
    have uncountable := List.filterMap_eq_nil_iff.mp unlisted path member
    refine ⟨path, member, ?_⟩
    rw [skipped, after.skipped]
    cases judged : c.judge t path with
    | ok n =>
      simp only [Counter.entryFor, judged] at uncountable
      cases uncountable
    | error e =>
      have refused : c.refusalFor t path = some (path.text, e.message) := by
        simp only [Counter.refusalFor, judged]
      exact List.mem_map.mpr ⟨_, List.mem_filterMap.mpr ⟨path, member, refused⟩, rfl⟩
  · rintro ⟨path, member, _⟩
    exact List.ne_nil_of_mem member

end Configuration

namespace Program

variable {words : List String} {a : CommandLine.Arguments} {outcome : Outcome}

theorem run_counts (read : CommandLine.read words = .ok a) (counting : a.listIds = false)
    (given : a.inputs ≠ []) : run words t = count a t := by
  have some : a.inputs.isEmpty = false := by simpa using given
  simp only [run, read, counting, some, Bool.false_eq_true, if_false]

theorem count_status (returned : count a t = .ok outcome) :
    (∃ e, (a.configuration.run t).1 = .error e ∧ e.isReported = true) ∧ outcome.status = 1 ∨
      ∃ r, (a.configuration.run t).1 = .ok r ∧ outcome.status = if r.failed then 1 else 0 := by
  simp only [count] at returned
  split at returned
  · rename_i e failed
    split at returned
    · cases returned
      exact .inl ⟨⟨e, failed, ‹_›⟩, rfl⟩
    · cases returned
  · rename_i r ran
    obtain ⟨text, _, rest⟩ := bind_ok returned
    obtain ⟨delivered, _, same⟩ := bind_ok rest
    cases same
    exact .inr ⟨r, ran, rfl⟩

theorem count_of_document {r : RunResult} {text : String} (ran : (a.configuration.run t).1 = .ok r)
    (document : a.json = true) (printed : a.output = none)
    (written : r.report.render true = .ok text) : ∃ outcome, count a t = .ok outcome := by
  simp only [count, ran, document, printed, written]
  exact ⟨_, rfl⟩

/-- The program that counts and returns has status 1 if and only if its configuration was rejected or
    files were left out and none was counted, and status 0 otherwise; unless the run is dry and meets
    a file. A dry run that was not rejected has status 1 just when it meets a file. -/
theorem status_eq_one_iff (read : CommandLine.read words = .ok a) (counting : a.listIds = false)
    (given : a.inputs ≠ []) (returned : run words t = .ok outcome) :
    (outcome.status = 0 ∨ outcome.status = 1) ∧
    ((a.dryRun = true → ∀ r, (a.configuration.run t).1 = .ok r → r.files = []) →
      (outcome.status = 1 ↔ a.configuration.Rejected ∨
        ∃ r, (a.configuration.run t).1 = .ok r ∧ r.NothingCounted)) ∧
    (a.dryRun = true →
      (outcome.status = 1 ↔ a.configuration.Rejected ∨
        ∃ r, (a.configuration.run t).1 = .ok r ∧ r.files ≠ [])) := by
  rw [run_counts read counting given] at returned
  rw [← Configuration.run_reported_iff a.configuration t]
  rcases count_status returned with ⟨⟨e, failed, reported⟩, status⟩ | ⟨r, ran, status⟩
  · have rejected : ∃ e, (a.configuration.run t).1 = .error e ∧ e.isReported = true :=
      ⟨e, failed, reported⟩
    exact ⟨.inr status, fun _ => iff_of_true status (.inl rejected),
      fun _ => iff_of_true status (.inl rejected)⟩
  · obtain ⟨c, found, built, _, returns⟩ := Configuration.run_ok ran
    have accepted : ¬∃ e, (a.configuration.run t).1 = .error e ∧ e.isReported = true := by
      rintro ⟨e, failed, _⟩
      rw [ran] at failed
      cases failed
    have alone : ∀ holds : RunResult → Prop,
        (∃ other, (a.configuration.run t).1 = .ok other ∧ holds other) ↔ holds r := by
      intro holds
      rw [ran]
      simp
    have shown : outcome.status = 1 ↔ r.failed = true := by
      rw [status]
      split
      · simp [*]
      · simp [*]
    have bounded : outcome.status = 0 ∨ outcome.status = 1 := by
      rw [status]
      split
      · exact .inr rfl
      · exact .inl rfl
    rw [alone, alone, or_iff_right accepted, or_iff_right accepted]
    refine ⟨bounded, fun unmet => shown.trans ?_, fun dry => shown.trans ?_⟩
    · cases dryness : a.dryRun with
      | false => exact returns.failed_iff_of_wet dryness
      | true =>
        rw [returns.failed_iff_of_dry built dryness]
        simp [RunResult.NothingCounted, unmet dryness r ran]
    · exact returns.failed_iff_of_dry built dry

theorem status_of_empty_file :
    let words := ["a.c", "--json"]
    let a : CommandLine.Arguments := { inputs := ["a.c"], json := true }
    let t : FileTree := { root := .folder [("a.c", .file [])], here := [] }
    CommandLine.read words = .ok a ∧ ∃ outcome r, run words t = .ok outcome ∧
      (a.configuration.run t).1 = .ok r ∧ r.NothingCounted ∧ outcome.status = 1 := by
  intro words a t
  have read : CommandLine.read words = .ok a := by decide +kernel
  have ready : a.configuration.counter.isOk = true := Configuration.counter_of_defaults _ _ _
  obtain ⟨c, built⟩ := exists_of_isOk ready
  have other : t.isFolder (Path.ofText "a.c").text = false := by cbv
  have file : t.isFile (Path.ofText "a.c").text = true := by cbv
  have resolved : t.resolve (Path.ofText "a.c") = .ok ⟨.root, ["a.c"]⟩ := by cbv
  have empty : t.readText ⟨.root, ["a.c"]⟩ .utf8 .ignore = .ok "" := by cbv
  obtain ⟨r, ran, returns⟩ :=
    Configuration.run_of_expand built (Discovery.expand_file other file resolved)
  obtain ⟨last, after, counter, _⟩ := returns.wet rfl
  have uncounted : r.counter.files = [] := by
    rw [counter, after.files, returns.files]
    simp [Counter.entryFor, Counter.judge, empty, Counter.classify, Value.nonemptyText?, bind,
      Except.bind, Assoc.ofList, Assoc.insertAll]
  have met : r.files ≠ [] := by simp [returns.files]
  have nothing : r.NothingCounted :=
    (returns.failed_iff_of_wet rfl).mp (r.failed_iff.mpr ⟨met, uncounted⟩)
  have blank : r.counter.ledger = ([], 0) := by
    have balanced := after.conserved.balanced
    rw [← counter, Counter.ledger, uncounted] at balanced
    exact Prod.ext uncounted balanced
  obtain ⟨text, written⟩ := r.render_of_blank blank
  obtain ⟨outcome, counted⟩ := count_of_document ran rfl rfl written
  have returned : run words t = .ok outcome := by
    rw [run_counts read rfl (by simp [a])]
    exact counted
  have status := (status_eq_one_iff read rfl (by simp [a]) returned).2.1 (by simp [a])
  exact ⟨read, outcome, r, returned, ran, nothing, status.mpr (.inr ⟨r, ran, nothing⟩)⟩

/-- A dry run that meets a file has status 1, although it was set up and leaves no file out. -/
theorem status_of_dry_run :
    let words := ["a.c", "--dry", "--json"]
    let a : CommandLine.Arguments := { inputs := ["a.c"], dryRun := true, json := true }
    let t : FileTree :=
      { root := .folder [("tmp", .folder [("w", .folder
          [("a.c", .file [105, 110, 116, 32, 120, 59, 10])])])]
        here := ["tmp", "w"] }
    CommandLine.read words = .ok a ∧ a.configuration.counter.isOk = true ∧
      ∃ outcome r, run words t = .ok outcome ∧ (a.configuration.run t).1 = .ok r ∧
        r.skipped = [] ∧ outcome.status = 1 := by
  intro words a t
  have read : CommandLine.read words = .ok a := by decide +kernel
  have ready : a.configuration.counter.isOk = true := Configuration.counter_of_defaults _ _ _
  obtain ⟨c, built⟩ := exists_of_isOk ready
  have other : t.isFolder (Path.ofText "a.c").text = false := by cbv
  have file : t.isFile (Path.ofText "a.c").text = true := by cbv
  have resolved : t.resolve (Path.ofText "a.c") = .ok ⟨.root, ["tmp", "w", "a.c"]⟩ := by cbv
  obtain ⟨r, ran, returns⟩ :=
    Configuration.run_of_expand built (Discovery.expand_file other file resolved)
  have failed : r.failed = true :=
    (returns.failed_iff_of_dry built rfl).mpr (by simp [returns.files])
  have blank : r.counter.ledger = ([], 0) := by
    rw [(returns.dry rfl).1]
    exact Configuration.counter_blank built
  obtain ⟨text, written⟩ := r.render_of_blank blank
  obtain ⟨outcome, counted⟩ := count_of_document ran rfl rfl written
  refine ⟨read, ready, outcome, r, ?_, ran, (returns.dry rfl).2, ?_⟩
  · rw [run_counts read rfl (by simp [a])]
    exact counted
  · rcases count_status counted with ⟨_, status⟩ | ⟨same, again, status⟩
    · exact status
    · rw [ran] at again
      cases again
      rw [status, failed]
      rfl

end Program

end SourceTally
