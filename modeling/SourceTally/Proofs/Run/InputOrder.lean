import SourceTally.Proofs.Run.Outcome

/- Inputs are a set. In which order they are given, and how often each, decides at most in which
   order a run meets its files: the files, what is counted for them, the reasons for those left out
   and the totals are the same. -/
namespace SourceTally

variable {t : FileTree} {c : Counter}

namespace Counter

theorem entries_agree (paths : List Path) :
    ∀ a ∈ paths.filterMap (c.entryFor t), ∀ b ∈ paths.filterMap (c.entryFor t),
      (a.1 == b.1) = true → a = b := by
  intro a first b second same
  obtain ⟨p, _, chosen⟩ := List.mem_filterMap.mp first
  obtain ⟨q, _, picked⟩ := List.mem_filterMap.mp second
  obtain ⟨left, judged⟩ := entryFor_some chosen
  obtain ⟨right, sentenced⟩ := entryFor_some picked
  rw [left, right, fileName_beq_iff] at same
  rw [judge_text same, sentenced] at judged
  refine Prod.ext ?_ (Except.ok.inj judged).symm
  rw [left, right, same]

theorem Tally.after_perm {paths others : List Path} {last final : Tally}
    (perm : paths.Perm others) (first : last.After c t paths) (second : final.After c t others) :
    last.counter.files.Perm final.counter.files ∧ last.skipped.Perm final.skipped ∧
      last.counter.totals = final.counter.totals := by
  have files : last.counter.files.Perm final.counter.files := by
    rw [first.files, second.files]
    exact Assoc.ofList_perm (perm.filterMap _) (entries_agree paths)
  refine ⟨files, ?_, ?_⟩
  · rw [first.skipped, second.skipped]
    exact perm.filterMap _
  · calc last.counter.totals = (Assoc.values last.counter.files).sum := first.conserved.balanced
      _ = (Assoc.values final.counter.files).sum := (files.map _).sum_eq
      _ = final.counter.totals := second.conserved.balanced.symm

end Counter

/-- Results that differ at most in the order of their lists. -/
structure RunResult.Alike (r other : RunResult) : Prop where
  files : r.files.Perm other.files
  counted : r.counter.files.Perm other.counter.files
  skipped : r.skipped.Perm other.skipped
  totals : r.report.totals = other.report.totals

theorem candidatesOf_congr {inputs others extra : List String}
    (same : ∀ input, input ∈ inputs ↔ input ∈ others) (candidate : Path) :
    candidate ∈ Discovery.candidatesOf t extra inputs ↔
      candidate ∈ Discovery.candidatesOf t extra others := by
  simp only [Discovery.candidatesOf, List.mem_flatMap, same]

theorem returns_alike {config other : Configuration} {found again : Discovery}
    {r final : RunResult} (dryness : other.dryRun = config.dryRun)
    (files : found.files.Perm again.files) (first : config.Returns t c found r)
    (second : other.Returns t c again final) : r.Alike final := by
  have met : r.files.Perm final.files := by
    rw [first.files, second.files]
    exact files
  cases dry : config.dryRun with
  | true =>
    obtain ⟨counter, skipped⟩ := first.dry dry
    obtain ⟨counter', skipped'⟩ := second.dry (dryness.trans dry)
    have same : r.counter = final.counter := counter.trans counter'.symm
    exact ⟨met, by rw [same], by rw [skipped, skipped'], congrArg Counter.totals same⟩
  | false =>
    obtain ⟨last, after, counter, skipped⟩ := first.wet dry
    obtain ⟨last', after', counter', skipped'⟩ := second.wet (dryness.trans dry)
    obtain ⟨counted, left, totals⟩ := Counter.Tally.after_perm met after after'
    rw [← counter, ← counter'] at counted totals
    rw [← skipped, ← skipped'] at left
    exact ⟨met, counted, left, totals⟩

/-- When a run returns, so does every run that differs only in the order and the multiplicity of its
    inputs, with a result that differs at most in the order of its lists. -/
theorem run_alike_for_same_inputs {config : Configuration} {inputs : List String} {r : RunResult}
    (same : ∀ input, input ∈ config.inputs ↔ input ∈ inputs) (ran : (config.run t).1 = .ok r) :
    ∃ other, (({ config with inputs } : Configuration).run t).1 = .ok other ∧ r.Alike other := by
  obtain ⟨c, found, built, expanded, returns⟩ := Configuration.run_ok ran
  have resolved := (Discovery.expand_ok_iff config.inputs).mp ⟨found, expanded⟩
  have expands : ∃ again, Discovery.expand t config.exclusions [] inputs = .ok again := by
    refine (Discovery.expand_ok_iff inputs).mpr fun candidate member => ?_
    exact resolved candidate ((candidatesOf_congr same candidate).mpr member)
  obtain ⟨again, reexpanded⟩ := expands
  have rebuilt : ({ config with inputs } : Configuration).counter = .ok c := built
  obtain ⟨other, reran, returned⟩ := Configuration.run_of_expand rebuilt reexpanded
  have files := Discovery.gathered_perm (candidatesOf_congr same)
    (Discovery.expand_gathered expanded) (Discovery.expand_gathered reexpanded)
  have dryness : ({ config with inputs } : Configuration).dryRun = config.dryRun := rfl
  exact ⟨other, reran, returns_alike dryness files returns returned⟩

theorem run_alike_for_repeated_link :
    let t : FileTree := { root := .folder [("a", .file [120, 10]), ("l", .link "a")], here := [] }
    let config : Configuration :=
      { inputs := ["a", "l"], parserIds := some ["plain"], allowUnknowns := true }
    (∀ input, input ∈ config.inputs ↔ input ∈ ["l", "a", "l"]) ∧
      ∃ r, (config.run t).1 = .ok r ∧ ∃ other,
        (({ config with inputs := ["l", "a", "l"] } : Configuration).run t).1 = .ok other ∧
          r.Alike other := by
  intro t config
  have same : ∀ input, input ∈ config.inputs ↔ input ∈ ["l", "a", "l"] := by
    intro input
    simp only [config, List.mem_cons, List.not_mem_nil, or_false]
    tauto
  have built : config.counter.isOk = true := by decide +kernel
  obtain ⟨c, built⟩ := exists_of_isOk built
  have file : t.isFolder (Path.ofText "a").text = false := by cbv
  have link : t.isFolder (Path.ofText "l").text = false := by cbv
  have expands : ∃ found, Discovery.expand t config.exclusions [] config.inputs = .ok found := by
    refine (Discovery.expand_ok_iff_walks _).mpr fun input member folder => ?_
    rcases List.mem_pair.mp member with rfl | rfl
    · rw [file] at folder
      cases folder
    · rw [link] at folder
      cases folder
  obtain ⟨r, ran⟩ := (Configuration.run_ok_iff built t).mpr expands
  exact ⟨same, r, ran, run_alike_for_same_inputs same ran⟩

end SourceTally
