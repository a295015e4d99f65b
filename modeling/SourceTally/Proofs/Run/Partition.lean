import SourceTally.Proofs.Run.Outcome

/- Every file that a run discovers is accounted for once: it is counted when it can be, with what its
   parser makes of its text, and left out otherwise, and the totals are the sum over those that are
   counted. -/
namespace SourceTally

variable {t : FileTree} {c : Counter}

namespace Counter

theorem entries_distinct {paths : List Path} (once : (paths.map Path.text).Nodup) :
    Assoc.Distinct (paths.filterMap (c.entryFor t)) := by
  rw [Assoc.Distinct, List.pairwise_filterMap]
  refine (List.pairwise_map.mp once).imp fun differs a first b second same => ?_
  rw [(entryFor_some first).1, (entryFor_some second).1, fileName_beq_iff] at same
  exact differs same

end Counter

/-- The files of a run with what became of them. `c` is the counter that it began with. -/
structure Accounted (t : FileTree) (c : Counter) (r : RunResult) : Prop where
  once : (r.files.map Path.text).Nodup
  all : (r.counter.files.map Prod.fst ++ r.skipped.map fun left => FileName.mk (.str left.1)).Perm
    (r.files.map fun path => FileName.mk (.str path.text))
  counted : r.counter.files.map Prod.fst =
    (r.files.filter (c.canCount t)).map fun path => FileName.mk (.str path.text)
  skipped : r.skipped.map Prod.fst = (r.files.filter fun path => !c.canCount t path).map Path.text
  parsed : ∀ entry ∈ r.counter.files, ∃ path ∈ r.files, ∃ text parser,
    entry.1 = ⟨.str path.text⟩ ∧ t.readText path .utf8 .ignore = .ok text ∧
      c.resolve (.str path.text) = .ok parser ∧ parser.parse (.str text) = .ok entry.2
  totals : r.report.totals = (r.counter.files.map Prod.snd).sum

theorem accounted_of_after {last : Counter.Tally} {r : RunResult} (willing : c.Willing)
    (once : (r.files.map Path.text).Nodup) (after : last.After c t r.files)
    (counter : r.counter = last.counter) (skipped : r.skipped = last.skipped) :
    Accounted t c r := by
  have entries : r.counter.files = r.files.filterMap (c.entryFor t) := by
    rw [counter, after.files, Assoc.ofList_of_distinct (Counter.entries_distinct once)]
  have counted := Counter.entryFor_keys willing t r.files
  rw [← entries] at counted
  have left := Counter.refusalFor_texts willing t r.files
  rw [← after.skipped, ← skipped] at left
  refine ⟨once, ?_, counted, left, ?_, ?_⟩
  · have names : (r.skipped.map fun left => FileName.mk (.str left.1)) =
        (r.files.filter fun path => !c.canCount t path).map fun path => ⟨.str path.text⟩ := by
      simpa [Function.comp_def] using congrArg (List.map fun text => FileName.mk (.str text)) left
    rw [counted, names, ← List.map_append]
    exact (List.filter_append_perm (c.canCount t) r.files).map _
  · intro entry member
    rw [entries] at member
    obtain ⟨path, listed, chosen⟩ := List.mem_filterMap.mp member
    obtain ⟨name, judged⟩ := Counter.entryFor_some chosen
    obtain ⟨text, parser, read, resolved, parsed⟩ := Counter.judge_ok_iff.mp judged
    exact ⟨path, listed, text, parser, name, read, resolved, parsed⟩
  · have balanced := after.conserved.balanced
    rw [← counter] at balanced
    exact balanced

/-- A run that counts accounts for each of the files that it discovers. These are the real paths of
    what its inputs stand for, so a file that several inputs or links lead to is one of them once. -/
theorem run_accounts_for_each_file {config : Configuration} {r : RunResult}
    (wet : config.dryRun = false) (ran : (config.run t).1 = .ok r) :
    ∃ c found, config.counter = .ok c ∧
      Discovery.expand t config.exclusions [] config.inputs = .ok found ∧ r.files = found.files ∧
      Discovery.Gathered t config.exclusions (Discovery.candidatesOf t [] config.inputs) r.files ∧
      Accounted t c r := by
  obtain ⟨c, found, built, expanded, returns⟩ := Configuration.run_ok ran
  obtain ⟨last, after, counter, skipped⟩ := returns.wet wet
  have once : (r.files.map Path.text).Nodup := by
    rw [returns.files]
    exact Discovery.expand_texts_nodup expanded
  have gathered := Discovery.expand_gathered expanded
  rw [← returns.files] at gathered
  exact ⟨c, found, built, expanded, returns.files, gathered,
    accounted_of_after (Configuration.counter_willing built) once after counter skipped⟩

theorem run_accounts_for_linked_file :
    let t : FileTree :=
      { root := .folder [("a", .file [120, 10]), ("b", .file []), ("l", .link "a")], here := [] }
    let config : Configuration :=
      { inputs := [".", "l"], parserIds := some ["plain"], allowUnknowns := true }
    config.dryRun = false ∧ ∃ r, (config.run t).1 = .ok r ∧
      ⟨.root, ["a"]⟩ ∈ r.files ∧
      ∃ c found, config.counter = .ok c ∧
        Discovery.expand t config.exclusions [] config.inputs = .ok found ∧
        r.files = found.files ∧
        Discovery.Gathered t config.exclusions (Discovery.candidatesOf t [] config.inputs)
          r.files ∧
        Accounted t c r := by
  intro t config
  have built : config.counter.isOk = true := by decide +kernel
  obtain ⟨c, built⟩ := exists_of_isOk built
  have here : t.isFolder (Path.ofText ".").text = true := by cbv
  have folder : t.walk [] (Path.ofText ".") =
      [⟨.relative, ["a"]⟩, ⟨.relative, ["b"]⟩, ⟨.relative, ["l"]⟩] := by cbv
  have file : t.isFolder (Path.ofText "l").text = false := by cbv
  have first : t.resolve ⟨.relative, ["a"]⟩ = .ok ⟨.root, ["a"]⟩ := by cbv
  have second : t.resolve ⟨.relative, ["b"]⟩ = .ok ⟨.root, ["b"]⟩ := by cbv
  have third : t.resolve ⟨.relative, ["l"]⟩ = .ok ⟨.root, ["a"]⟩ := by cbv
  have expands : ∃ found, Discovery.expand t config.exclusions [] config.inputs = .ok found := by
    refine (Discovery.expand_ok_iff_walks _).mpr fun input member isFolder => ?_
    rcases List.mem_pair.mp member with rfl | rfl
    · simp [folder, first, second, third]
    · rw [file] at isFolder
      cases isFolder
  obtain ⟨r, ran⟩ := (Configuration.run_ok_iff built t).mpr expands
  have accounts := run_accounts_for_each_file rfl ran
  refine ⟨rfl, r, ran, ?_, accounts⟩
  obtain ⟨_, _, _, _, _, gathered, _⟩ := accounts
  refine (gathered.mem_iff _).mpr ⟨⟨⟨.relative, ["a"]⟩, ?_, first⟩, rfl⟩
  refine List.mem_flatMap.mpr ⟨".", by simp [config], ?_⟩
  rw [Discovery.candidates_of_folder here, folder]
  exact List.mem_cons_self

end SourceTally
