import SourceTally.Proofs.Catalogue
import SourceTally.Proofs.Counter.Calls
import SourceTally.Run

/- The counting of files, one after the other. What becomes of a file is decided by its text and by
   the parsers alone, not by the files before it. So a tally holds the statistics of those that could
   be counted and the reasons for the others, both in the order of the files. -/
namespace SourceTally.Counter

def judge (c : Counter) (t : FileTree) (path : Path) : Except Error Statistics := do
  c.classify (.str path.text) (.str (← t.readText path .utf8 .ignore))

def entryFor (c : Counter) (t : FileTree) (path : Path) : Option (FileName × Statistics) :=
  match c.judge t path with
  | .ok n => some (⟨.str path.text⟩, n)
  | .error _ => none

def refusalFor (c : Counter) (t : FileTree) (path : Path) : Option (String × String) :=
  match c.judge t path with
  | .ok _ => none
  | .error e => some (path.text, e.message)

variable {t : FileTree} {c : Counter} {path : Path}

theorem fileName_beq_iff {a b : String} :
    (FileName.mk (.str a) == FileName.mk (.str b)) = true ↔ a = b := by
  rw [FileName.beq_iff]
  simp [Value.key]

theorem entryFor_some {entry : FileName × Statistics}
    (counted : c.entryFor t path = some entry) :
    entry.1 = ⟨.str path.text⟩ ∧ c.judge t path = .ok entry.2 := by
  simp only [entryFor] at counted
  split at counted
  · rename_i n judged
    cases counted
    exact ⟨rfl, judged⟩
  · cases counted

theorem judge_congr {other : Counter} (alike : other.classify = c.classify) (t : FileTree) :
    other.judge t = c.judge t := by
  funext path
  simp only [judge, alike]

theorem judge_text {other : Path} (same : path.text = other.text) :
    c.judge t path = c.judge t other := by
  simp only [judge, FileTree.readText, same]

theorem willing_of_record {next : Counter} {file : Value} {n : Statistics} (willing : c.Willing)
    (recorded : c.record file n = .ok next) : next.Willing := by
  rw [record_ok recorded]
  exact ⟨willing.parsers, willing.fallback⟩

theorem classify_of_process_error {name : String} {contents : Value} {e : Error}
    (failed : c.process (.str name) contents = .error e) :
    c.classify (.str name) contents = .error e := by
  cases classified : c.classify (.str name) contents with
  | error cause =>
    simp only [process, classified, bind, Except.bind] at failed
    cases failed
    rfl
  | ok n =>
    have keyable : (Value.str name).unkeyable? = none := rfl
    obtain ⟨next, recorded⟩ := record_of_keyable keyable c n
    simp only [process, classified, recorded, bind, Except.bind] at failed
    cases failed

namespace Tally

theorem countFile_none {tally next : Tally} (done : tally.countFile t path = (none, next)) :
    (∃ n, tally.counter.judge t path = .ok n ∧
        tally.counter.record (.str path.text) n = .ok next.counter ∧
        next.skipped = tally.skipped) ∨
      ∃ e, tally.counter.judge t path = .error e ∧ next.counter = tally.counter ∧
        next.skipped = tally.skipped ++ [(path.text, e.message)] := by
  simp only [countFile] at done
  split at done
  · rename_i e unread
    cases done
    exact .inr ⟨e, by simp only [judge, unread, bind, Except.bind], rfl, rfl⟩
  · rename_i contents read
    have judged : tally.counter.judge t path =
        tally.counter.classify (.str path.text) (.str contents) := by
      simp only [judge, read, bind, Except.bind]
    split at done
    · rename_i n counter processed
      obtain ⟨classified, recorded⟩ := process_ok processed
      cases done
      exact .inl ⟨n, judged.trans classified, recorded, rfl⟩
    · rename_i e failed
      split at done
      · cases done
        exact .inr ⟨e, judged.trans (classify_of_process_error failed), rfl, rfl⟩
      · cases done

theorem countFile_some {tally next : Tally} {e : Error}
    (stopped : tally.countFile t path = (some e, next)) :
    ∃ contents, tally.counter.classify (.str path.text) (.str contents) = .error e ∧
      e.isReported = false := by
  simp only [countFile] at stopped
  split at stopped
  · cases stopped
  · rename_i contents _
    split at stopped
    · cases stopped
    · rename_i cause failed
      split at stopped
      · cases stopped
      · rename_i unreported
        cases stopped
        exact ⟨contents, classify_of_process_error failed, by simpa using unreported⟩

theorem countFile_of_willing {tally : Tally} (willing : tally.counter.Willing) (t : FileTree)
    (path : Path) :
    ∃ next, tally.countFile t path = (none, next) ∧ next.counter.Willing := by
  cases counted : tally.countFile t path with
  | mk stop next =>
    cases stop with
    | some e =>
      obtain ⟨contents, failed, unreported⟩ := countFile_some counted
      rw [classify_error_reported willing failed] at unreported
      cases unreported
    | none =>
      refine ⟨next, rfl, ?_⟩
      rcases countFile_none counted with ⟨n, _, recorded, _⟩ | ⟨e, _, same, _⟩
      · exact willing_of_record willing recorded
      · exact same ▸ willing

theorem countFiles_of_willing {tally : Tally} (willing : tally.counter.Willing) (t : FileTree)
    (paths : List Path) : ∃ last, tally.countFiles t paths = (none, last) := by
  induction paths generalizing tally with
  | nil => exact ⟨tally, rfl⟩
  | cons path paths ih =>
    obtain ⟨next, counted, still⟩ := countFile_of_willing willing t path
    obtain ⟨last, rest⟩ := ih still
    exact ⟨last, by simp only [countFiles, counted, rest]⟩

/-- How a tally stands after some files, when it began with a counter that had none. -/
structure After (c : Counter) (t : FileTree) (done : List Path) (tally : Tally) : Prop where
  alike : tally.counter.classify = c.classify
  files : tally.counter.files = Assoc.ofList (done.filterMap (c.entryFor t))
  skipped : tally.skipped = done.filterMap (c.refusalFor t)
  conserved : Conserved (fun _ => True) tally.counter.ledger

theorem after_nil {tally : Tally} (blank : tally.counter.ledger = ([], 0))
    (none : tally.skipped = []) : After tally.counter t [] tally where
  alike := rfl
  files := congrArg Prod.fst blank
  skipped := none
  conserved := blank ▸ conserved_empty

theorem countFile_after {done : List Path} {tally next : Tally} (after : After c t done tally)
    (counted : tally.countFile t path = (none, next)) : After c t (done ++ [path]) next := by
  have judged := congrFun (judge_congr after.alike t) path
  rcases countFile_none counted with ⟨n, good, recorded, skipped⟩ | ⟨e, bad, counter, skipped⟩
  · rw [judged] at good
    refine ⟨(classify_record recorded).trans after.alike, ?_, ?_,
      record_conserved recorded trivial after.conserved⟩
    · have entry : [path].filterMap (c.entryFor t) = [(⟨.str path.text⟩, n)] := by
        simp [entryFor, good]
      rw [record_ok recorded, List.filterMap_append, entry, Assoc.ofList, Assoc.insertAll,
        List.foldl_append, after.files]
      rfl
    · rw [skipped, after.skipped, List.filterMap_append]
      simp [refusalFor, good]
  · rw [judged] at bad
    refine ⟨counter ▸ after.alike, ?_, ?_, counter ▸ after.conserved⟩
    · rw [counter, after.files, List.filterMap_append]
      simp [entryFor, bad]
    · rw [skipped, after.skipped, List.filterMap_append]
      simp [refusalFor, bad]

theorem countFiles_after {done paths : List Path} {tally last : Tally}
    (after : After c t done tally) (counted : tally.countFiles t paths = (none, last)) :
    After c t (done ++ paths) last := by
  induction paths generalizing done tally with
  | nil =>
    cases counted
    simpa using after
  | cons path paths ih =>
    simp only [countFiles] at counted
    split at counted
    · rename_i next first
      simpa using ih (countFile_after after first) counted
    · cases counted

end Tally

end SourceTally.Counter
