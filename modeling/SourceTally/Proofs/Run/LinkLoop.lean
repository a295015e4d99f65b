import SourceTally.Proofs.Run.Outcome

/- What can stop a run that was set up. A folder is walked without a look at what its links lead to, so
   a link below it that leads back to itself has no real path and ends the run. Nothing else does:
   files given by name or by wildcards are looked at first, and a file that cannot be read or parsed
   is left out with the reason. -/
namespace SourceTally

variable {t : FileTree} {config : Configuration} {c : Counter}

theorem run_skips {r : RunResult} (built : config.counter = .ok c) (wet : config.dryRun = false)
    (ran : (config.run t).1 = .ok r) {path : Path} (member : path ∈ r.files)
    (uncountable : c.canCount t path = false) : path.text ∈ r.skipped.map Prod.fst := by
  obtain ⟨same, found, rebuilt, _, returns⟩ := Configuration.run_ok ran
  rw [built] at rebuilt
  cases rebuilt
  obtain ⟨last, after, _, skipped⟩ := returns.wet wet
  have left := Counter.refusalFor_texts (Configuration.counter_willing built) t r.files
  rw [← after.skipped, ← skipped] at left
  rw [left]
  exact List.mem_map_of_mem (List.mem_filter.mpr ⟨member, by simp [uncountable]⟩)

/-- A run whose counter was set up returns if and only if all entries that are met on the walks below
    its folders have real paths. When it does not, one of them leads in a loop. When it does, a file
    that cannot be counted is listed with those left out. -/
theorem run_returns_iff_walks_resolve (built : config.counter = .ok c) :
    ((∃ r, (config.run t).1 = .ok r) ↔
      ∀ input ∈ config.inputs, t.isFolder (Path.ofText input).text = true →
        ∀ path ∈ t.walk [] (Path.ofText input), ∃ real, t.resolve path = .ok real) ∧
      (∀ e, (config.run t).1 = .error e → (∃ text, e = .linkLoop text) ∧
        ∃ path ∈ Discovery.candidatesOf t [] config.inputs, t.resolve path = .error e) ∧
      ∀ r, (config.run t).1 = .ok r → config.dryRun = false →
        ∀ path ∈ r.files, c.canCount t path = false → path.text ∈ r.skipped.map Prod.fst := by
  refine ⟨?_, ?_, ?_⟩
  · rw [Configuration.run_ok_iff built, Discovery.expand_ok_iff_walks]
  · intro e failed
    obtain ⟨path, member, refused⟩ := Discovery.expand_error (Configuration.run_error built failed)
    exact ⟨FileTree.resolve_error refused, path, member, refused⟩
  · intro r ran wet path member uncountable
    exact run_skips built wet ran member uncountable

theorem run_returns_with_dangling_link :
    let t : FileTree := { root := .folder [("a", .file [120, 10]), ("m", .link "x")], here := [] }
    let config : Configuration :=
      { inputs := ["."], parserIds := some ["plain"], allowUnknowns := true }
    ∃ c, config.counter = .ok c ∧
      ∃ r, (config.run t).1 = .ok r ∧ "/x" ∈ r.skipped.map Prod.fst := by
  intro t config
  have ready : config.counter.isOk = true := by decide +kernel
  obtain ⟨c, built⟩ := exists_of_isOk ready
  obtain ⟨returns, _, skips⟩ := run_returns_iff_walks_resolve built
  have folder : t.isFolder (Path.ofText ".").text = true := by cbv
  have walked : t.walk [] (Path.ofText ".") = [⟨.relative, ["a"]⟩, ⟨.relative, ["m"]⟩] := by cbv
  have file : t.resolve ⟨.relative, ["a"]⟩ = .ok ⟨.root, ["a"]⟩ := by cbv
  have dangling : t.resolve ⟨.relative, ["m"]⟩ = .ok ⟨.root, ["x"]⟩ := by cbv
  have nowhere : t.isFile (Path.mk .root ["x"]).text = false := by cbv
  have met : Discovery.candidatesOf t [] config.inputs =
      [⟨.relative, ["a"]⟩, ⟨.relative, ["m"]⟩] :=
    (Discovery.candidatesOf_folder folder).trans walked
  obtain ⟨r, ran⟩ := returns.mpr fun input member _ => by
    rw [List.mem_singleton.mp member, walked]
    simp [file, dangling]
  obtain ⟨_, found, _, expanded, returned⟩ := Configuration.run_ok ran
  have listed : ⟨.root, ["x"]⟩ ∈ r.files := by
    rw [returned.files, (Discovery.expand_gathered expanded).mem_iff, met]
    exact ⟨⟨_, by simp, dangling⟩, rfl⟩
  have uncountable : c.canCount t ⟨.root, ["x"]⟩ = false := by
    rw [Counter.canCount, nowhere, Bool.false_and]
  exact ⟨c, built, r, ran, skips r ran rfl _ listed uncountable⟩

/-- One link that leads to itself stops a run, although the file beside it could be counted. -/
theorem run_stopped_by_link_loop :
    let t : FileTree :=
      { root := .folder [("tmp", .folder [("w", .folder [("d", .folder
          [("a.c", .file [105, 110, 116, 32, 120, 59, 10]), ("l", .link "l")])])])]
        here := ["tmp", "w"] }
    let config : Configuration := { inputs := ["d"] }
    config.counter.isOk = true ∧ (config.run t).1 = .error (.linkLoop "/tmp/w/d/l") := by
  intro t config
  have ready : config.counter.isOk = true := by decide +kernel
  have folder : t.isFolder (Path.ofText "d").text = true := by cbv
  have walked : t.walk [] (Path.ofText "d") =
      [⟨.relative, ["d", "a.c"]⟩, ⟨.relative, ["d", "l"]⟩] := by cbv
  have file : t.resolve ⟨.relative, ["d", "a.c"]⟩ = .ok ⟨.root, ["tmp", "w", "d", "a.c"]⟩ := by cbv
  have loop : t.resolve ⟨.relative, ["d", "l"]⟩ = .error (.linkLoop "/tmp/w/d/l") := by cbv
  have met : Discovery.candidatesOf t [] config.inputs =
      [⟨.relative, ["d", "a.c"]⟩, ⟨.relative, ["d", "l"]⟩] :=
    (Discovery.candidatesOf_folder folder).trans walked
  refine ⟨ready, ?_⟩
  obtain ⟨c, built⟩ := exists_of_isOk ready
  cases outcome : (config.run t).1 with
  | ok r =>
    obtain ⟨found, expanded⟩ := (Configuration.run_ok_iff built t).mp ⟨r, outcome⟩
    have resolved := (Discovery.expand_ok_iff config.inputs).mp ⟨found, expanded⟩
    obtain ⟨real, reached⟩ := resolved ⟨.relative, ["d", "l"]⟩ (by simp [met])
    rw [loop] at reached
    cases reached
  | error e =>
    have failed := Configuration.run_error built outcome
    obtain ⟨path, member, refused⟩ := Discovery.expand_error failed
    rw [met] at member
    rcases List.mem_pair.mp member with rfl | rfl
    · rw [file] at refused
      cases refused
    · rw [loop] at refused
      cases refused
      rfl

end SourceTally
