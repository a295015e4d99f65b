import SourceTally.Proofs.Discovery
import SourceTally.Proofs.FileTree.Loops

/- Discovery as an operation on lists of inputs. The files found are the real paths of the candidates
   in the order in which they are met, without those excluded and each kept at its first place; so
   lists of inputs can be joined, and exclusions be applied afterwards. What is found and fed back is
   found again where it is its own real path. -/
namespace SourceTally

section FirstPlaces

variable {α : Type} [BEq α] [LawfulBEq α]

theorem eraseDups_concat (xs : List α) (x : α) :
    (xs ++ [x]).eraseDups = if x ∈ xs then xs.eraseDups else xs.eraseDups ++ [x] := by
  rw [List.eraseDups_append, List.removeAll]
  split
  · rename_i known
    simp [known]
  · rename_i fresh
    simp [fresh, List.eraseDups_cons]

theorem eraseDups_filter (keep : α → Bool) (xs : List α) :
    (xs.filter keep).eraseDups = xs.eraseDups.filter keep := by
  induction xs using List.reverseRecOn with
  | nil => rfl
  | append_singleton xs x ih =>
    by_cases known : x ∈ xs <;> cases kept : keep x <;>
      simp [eraseDups_concat, List.filter_append, known, kept, ih]

theorem eraseDups_sublist (xs : List α) : xs.eraseDups.Sublist xs := by
  induction xs using List.reverseRecOn with
  | nil => exact .slnil
  | append_singleton xs x ih =>
    rw [eraseDups_concat]
    split
    · exact ih.trans (List.sublist_append_left xs [x])
    · exact ih.append (List.Sublist.refl [x])

theorem eraseDups_of_nodup {xs : List α} (distinct : xs.Nodup) : xs.eraseDups = xs := by
  induction xs using List.reverseRecOn with
  | nil => rfl
  | append_singleton xs x ih =>
    obtain ⟨earlier, _, apart⟩ := List.nodup_append.mp distinct
    have fresh : x ∉ xs := fun member => apart x member x (by simp) rfl
    rw [eraseDups_concat, if_neg fresh, ih earlier]

end FirstPlaces

theorem eq_some_of_filterMap_eq {α : Type} {f : α → Option α} {xs : List α}
    (same : xs.filterMap f = xs) : ∀ x ∈ xs, f x = some x := by
  induction xs with
  | nil => simp
  | cons first rest ih =>
    cases step : f first with
    | none =>
      rw [List.filterMap_cons_none step] at same
      have shorter := List.length_filterMap_le f rest
      rw [same, List.length_cons] at shorter
      omega
    | some y =>
      rw [List.filterMap_cons_some step] at same
      obtain ⟨head, tail⟩ := List.cons.inj same
      exact List.forall_mem_cons.mpr ⟨by rw [step, head], ih tail⟩

namespace Discovery

variable {t : FileTree} {exclusions : List Exclusion} {extra : List String}

/-- The real paths of candidates that no exclusion covers, repeated where candidates share one. -/
def survivors (t : FileTree) (exclusions : List Exclusion) (met : List Path) : List Path :=
  (met.filterMap fun candidate => (t.resolve candidate).toOption).filter
    fun real => !isExcluded exclusions real

theorem survivors_append (first second : List Path) :
    survivors t exclusions (first ++ second) =
      survivors t exclusions first ++ survivors t exclusions second := by
  simp [survivors]

theorem survivors_of_resolve {candidate real : Path} (resolved : t.resolve candidate = .ok real) :
    survivors t exclusions [candidate] = if isExcluded exclusions real then [] else [real] := by
  cases excluded : isExcluded exclusions real <;>
    simp [survivors, resolved, Except.toOption, excluded]

theorem survivors_eq_filter (met : List Path) :
    survivors t exclusions met =
      (survivors t [] met).filter fun real => !isExcluded exclusions real := by
  simp [survivors, isExcluded]

theorem consider_survivors {met : List Path} {d next : Discovery} {candidate : Path}
    (files : d.files = (survivors t exclusions met).eraseDups)
    (considered : consider t exclusions d candidate = .ok next) :
    next.files = (survivors t exclusions (met ++ [candidate])).eraseDups := by
  obtain ⟨real, resolved, step⟩ := consider_ok considered
  have known : real ∈ d.files ↔ real ∈ survivors t exclusions met := by
    rw [files, List.mem_eraseDups]
  rw [survivors_append, survivors_of_resolve resolved]
  rcases step with ⟨same, old⟩ | ⟨grown, fresh, allowed⟩
  · rw [same, files]
    cases covered : isExcluded exclusions real with
    | true => simp
    | false =>
      have listed := known.mp (old.resolve_right (by simp [covered]))
      simp [eraseDups_concat, listed]
  · rw [grown, allowed, files]
    simp [eraseDups_concat, mt known.mpr fresh]

theorem expand_files {inputs : List String} {found : Discovery}
    (expanded : expand t exclusions extra inputs = .ok found) :
    found.files = (survivors t exclusions (candidatesOf t extra inputs)).eraseDups :=
  expand_preserves (fun met files => files = (survivors t exclusions met).eraseDups)
    (fun _ _ _ _ => consider_survivors) rfl expanded

section Joined

variable {xs ys : List String} {first second : Discovery}

theorem expand_append (expanded : expand t exclusions extra xs = .ok first)
    (other : expand t exclusions extra ys = .ok second) :
    ∃ both, expand t exclusions extra (xs ++ ys) = .ok both ∧
      both.files = first.files ++ second.files.filter fun path => path ∉ first.files := by
  have joined : candidatesOf t extra (xs ++ ys) =
      candidatesOf t extra xs ++ candidatesOf t extra ys := List.flatMap_append
  obtain ⟨both, together⟩ : ∃ both, expand t exclusions extra (xs ++ ys) = .ok both := by
    rw [expand_ok_iff, joined, List.forall_mem_append]
    exact ⟨(expand_ok_iff xs).mp ⟨first, expanded⟩, (expand_ok_iff ys).mp ⟨second, other⟩⟩
  refine ⟨both, together, ?_⟩
  rw [expand_files together, joined, survivors_append, List.eraseDups_append, List.removeAll,
    eraseDups_filter, expand_files expanded, expand_files other]
  simp

theorem expand_without_exclusions (expanded : expand t exclusions extra xs = .ok first) :
    ∃ all, expand t [] extra xs = .ok all ∧
      first.files = all.files.filter fun path => !isExcluded exclusions path := by
  obtain ⟨all, unfiltered⟩ : ∃ all, expand t [] extra xs = .ok all := by
    rw [expand_ok_iff]
    exact (expand_ok_iff xs).mp ⟨first, expanded⟩
  refine ⟨all, unfiltered, ?_⟩
  rw [expand_files expanded, survivors_eq_filter, eraseDups_filter, ← expand_files unfiltered]

end Joined

section Again

variable {files : List Path} {again : Discovery}

theorem candidatesOf_files (real : ∀ path ∈ files, path.anchor = .root ∧ path.Normal)
    (exist : ∀ path ∈ files, t.isFile path.text = true) :
    candidatesOf t extra (files.map Path.text) = files := by
  induction files with
  | nil => rfl
  | cons path files ih =>
    obtain ⟨⟨anchored, normal⟩, laterReal⟩ := List.forall_mem_cons.mp real
    obtain ⟨file, laterExist⟩ := List.forall_mem_cons.mp exist
    have rest := ih laterReal laterExist
    have only : (candidates t extra path.text).1 = [path] := by
      simp only [candidates, Path.ofText_text normal anchored,
        FileTree.not_isFolder_of_isFile file, file, Bool.false_eq_true, if_false, if_true]
    simp only [candidatesOf] at rest ⊢
    rw [List.map_cons, List.flatMap_cons, only, rest, List.singleton_append]

theorem survivors_again_iff (distinct : files.Nodup)
    (allowed : ∀ path ∈ files, isExcluded exclusions path = false) :
    (survivors t exclusions files).eraseDups = files ↔
      ∀ path ∈ files, t.resolve path = .ok path := by
  have reads : ∀ path, (t.resolve path).toOption = some path ↔ t.resolve path = .ok path := by
    intro path
    cases t.resolve path <;> simp [Except.toOption]
  constructor
  · intro same path member
    -- the list is a part of its real paths, which are not more, so it is all of them
    have kept : files.Sublist (files.filterMap fun path => (t.resolve path).toOption) := by
      have shorter := (eraseDups_sublist (survivors t exclusions files)).trans List.filter_sublist
      rwa [same] at shorter
    have whole := kept.eq_of_length_le (List.length_filterMap_le _ _)
    exact (reads path).mp (eq_some_of_filterMap_eq whole.symm path member)
  · intro fixed
    have resolved : files.filterMap (fun path => (t.resolve path).toOption) = files := by
      rw [List.filterMap_congr fun path member => (reads path).mpr (fixed path member),
        List.filterMap_some]
    have free : files.filter (fun real => !isExcluded exclusions real) = files := by
      rw [List.filter_eq_self]
      intro path member
      simp [allowed path member]
    rw [survivors, resolved, free, eraseDups_of_nodup distinct]

theorem expand_texts_ok
    (real : ∀ path ∈ files, path.anchor = .root ∧ path.Normal)
    (exist : ∀ path ∈ files, t.isFile path.text = true) :
    ∃ again, expand t exclusions extra (files.map Path.text) = .ok again := by
  rw [expand_ok_iff, candidatesOf_files real exist]
  intro path member
  exact resolve_of_isFile (real path member).2 (exist path member)

theorem expand_real {entries : List (String × Node)} {inputs : List String} {found : Discovery}
    (working : t.root.at? t.here = some (.folder entries))
    (free : ∀ input ∈ inputs, t.isFolder (Path.ofText input).text = true →
      ∀ path ∈ t.walk extra (Path.ofText input), t.isLoopFree path = true)
    (expanded : expand t exclusions extra inputs = .ok found) :
    ∀ path ∈ found.files, t.resolve path = .ok path := by
  intro path member
  obtain ⟨⟨candidate, met, resolved⟩, _⟩ := ((expand_gathered expanded).mem_iff path).mp member
  obtain ⟨input, given, listed⟩ := List.mem_flatMap.mp met
  have normal := candidates_normal candidate listed
  have unlooped : t.isLoopFree candidate = true := by
    cases folder : t.isFolder (Path.ofText input).text with
    | true =>
      rw [candidates_of_folder folder] at listed
      exact free input given folder candidate listed
    | false =>
      have file := candidates_isFile folder candidate listed
      obtain ⟨place, bytes, there⟩ := FileTree.find_of_isFile file
      exact FileTree.isLoopFree_of_find normal there
  exact FileTree.resolve_again working normal unlooped resolved

end Again

/-- The files for two lists of inputs are those of the first list and then the new ones of the
    second; exclusions only take files away; and no two files have one text. Those that exist, fed
    back as inputs, come back as they are exactly when each is its own real path, and so they do
    unless a walk met a loop of links. -/
theorem expand_joins_filters_and_repeats {entries : List (String × Node)}
    (working : t.root.at? t.here = some (.folder entries)) {xs ys : List String}
    {first second : Discovery} (expanded : expand t exclusions extra xs = .ok first)
    (other : expand t exclusions extra ys = .ok second) :
    (∃ both, expand t exclusions extra (xs ++ ys) = .ok both ∧
        both.files = first.files ++ second.files.filter fun path => path ∉ first.files) ∧
      (∃ all, expand t [] extra xs = .ok all ∧
        first.files = all.files.filter fun path => !isExcluded exclusions path) ∧
      (first.files.map Path.text).Nodup ∧
      let existing := first.files.filter fun path => t.isFile path.text
      ∃ again, expand t exclusions extra (existing.map Path.text) = .ok again ∧
        (again.files = existing ↔ ∀ path ∈ existing, t.resolve path = .ok path) ∧
        ((∀ input ∈ xs, t.isFolder (Path.ofText input).text = true →
            ∀ path ∈ t.walk extra (Path.ofText input), t.isLoopFree path = true) →
          again.files = existing) := by
  refine ⟨expand_append expanded other, expand_without_exclusions expanded,
    expand_texts_nodup expanded, ?_⟩
  intro existing
  have gathered := expand_gathered expanded
  have found : ∀ path ∈ existing, path ∈ first.files :=
    fun path member => (List.mem_filter.mp member).1
  have exist : ∀ path ∈ existing, t.isFile path.text = true :=
    fun path member => (List.mem_filter.mp member).2
  have real : ∀ path ∈ existing, path.anchor = .root ∧ path.Normal :=
    fun path member => expand_absolute expanded path (found path member)
  have allowed : ∀ path ∈ existing, isExcluded exclusions path = false :=
    fun path member => ((gathered.mem_iff path).mp (found path member)).2
  obtain ⟨again, repeated⟩ :
      ∃ again, expand t exclusions extra (existing.map Path.text) = .ok again :=
    expand_texts_ok real exist
  have comes : again.files = existing ↔ ∀ path ∈ existing, t.resolve path = .ok path := by
    rw [expand_files repeated, candidatesOf_files real exist]
    exact survivors_again_iff (gathered.nodup.filter _) allowed
  refine ⟨again, repeated, comes, fun free => comes.mpr fun path member => ?_⟩
  exact expand_real working free expanded path (found path member)

/-- Of a file, a link to it, a link that leads nowhere and an excluded file, the file and the end of
    the dangling link are found; the file is what comes back. -/
theorem expand_repeats_beside_dangling_link :
    let t : FileTree :=
      { root := .folder [("a", .file []), ("b", .file []), ("m", .link "a"), ("n", .link "x")]
        here := [] }
    let exclusion : Exclusion := { pattern := "b", expr := .ofChar 'b' }
    t.root.at? t.here =
        some (.folder [("a", .file []), ("b", .file []), ("m", .link "a"), ("n", .link "x")]) ∧
      ∃ first, expand t [exclusion] [] ["."] = .ok first ∧
        first.files = [⟨.root, ["a"]⟩, ⟨.root, ["x"]⟩] ∧
        ∃ again, expand t [exclusion] [] ["/a"] = .ok again ∧ again.files = [⟨.root, ["a"]⟩] := by
  intro t exclusion
  have folder : t.isFolder (Path.ofText ".").text = true := by cbv
  have walked : t.walk [] (Path.ofText ".") = [⟨.relative, ["a"]⟩, ⟨.relative, ["b"]⟩,
      ⟨.relative, ["m"]⟩, ⟨.relative, ["n"]⟩] := by cbv
  have resolved : t.resolve ⟨.relative, ["a"]⟩ = .ok ⟨.root, ["a"]⟩ ∧
      t.resolve ⟨.relative, ["b"]⟩ = .ok ⟨.root, ["b"]⟩ ∧
      t.resolve ⟨.relative, ["m"]⟩ = .ok ⟨.root, ["a"]⟩ ∧
      t.resolve ⟨.relative, ["n"]⟩ = .ok ⟨.root, ["x"]⟩ := by
    refine ⟨?_, ?_, ?_, ?_⟩ <;> cbv
  have free : ∀ path ∈ t.walk [] (Path.ofText "."), t.isLoopFree path = true := by
    rw [walked]
    simp only [List.forall_mem_cons, List.not_mem_nil, false_implies, implies_true, and_true]
    refine ⟨?_, ?_, ?_, ?_⟩ <;> cbv
  have covers : isExcluded [exclusion] ⟨.root, ["a"]⟩ = false ∧
      isExcluded [exclusion] ⟨.root, ["b"]⟩ = true ∧
      isExcluded [exclusion] ⟨.root, ["x"]⟩ = false := by decide +kernel
  have met : candidatesOf t [] ["."] = [⟨.relative, ["a"]⟩, ⟨.relative, ["b"]⟩,
      ⟨.relative, ["m"]⟩, ⟨.relative, ["n"]⟩] := (candidatesOf_folder folder).trans walked
  obtain ⟨first, expanded⟩ : ∃ first, expand t [exclusion] [] ["."] = .ok first := by
    rw [expand_ok_iff, met]
    simp [resolved]
  have files : first.files = [⟨.root, ["a"]⟩, ⟨.root, ["x"]⟩] := by
    rw [expand_files expanded, met]
    simp [survivors, resolved, Except.toOption, covers, List.eraseDups_cons]
  have exist : t.isFile "/a" = true ∧ t.isFile "/x" = false := by constructor <;> cbv
  have text : Path.text ⟨.root, ["a"]⟩ = "/a" ∧ Path.text ⟨.root, ["x"]⟩ = "/x" := by decide
  obtain ⟨_, _, _, again, repeated, _, comes⟩ :=
    expand_joins_filters_and_repeats rfl expanded expanded
  have returned := comes fun input member _ => List.mem_singleton.mp member ▸ free
  simp only [files, List.filter_cons, exist, List.filter_nil, List.map_cons, List.map_nil, text,
    if_true, Bool.false_eq_true, if_false] at repeated returned
  exact ⟨rfl, first, expanded, files, again, repeated, returned⟩

/-- A link whose target runs into a loop and out of it by dots is found as another link; fed back,
    this one is followed. -/
theorem expand_follows_link_fed_back :
    let t : FileTree :=
      { root := .folder [("tmp", .folder [("w", .folder [
          ("d", .folder [("m", .link "../e/l/../a.c")]),
          ("e", .folder [("b.c", .file []), ("a.c", .link "b.c"), ("l", .link "l")])])])]
        here := ["tmp", "w"] }
    t.isFile "/tmp/w/e/a.c" = true ∧
      (∃ first, expand t [] [] ["d"] = .ok first ∧ first.files.map Path.text = ["/tmp/w/e/a.c"]) ∧
      ∃ again, expand t [] [] ["/tmp/w/e/a.c"] = .ok again ∧
        again.files.map Path.text = ["/tmp/w/e/b.c"] := by
  intro t
  have parts : pathParts "../e/l/../a.c" = ["..", "e", "l", "..", "a.c"] ∧
      pathParts "l" = ["l"] := by decide
  have folder : t.find (Path.text ⟨.relative, ["d"]⟩) =
      .ok (["tmp", "w", "d"], .folder [("m", .link "../e/l/../a.c")]) := by cbv
  have path : Path.ofText "/tmp/w/e/a.c" = ⟨.root, ["tmp", "w", "e", "a.c"]⟩ ∧
      Path.ofText "d" = ⟨.relative, ["d"]⟩ := by decide
  have text : Path.text ⟨.root, ["tmp", "w", "e", "a.c"]⟩ = "/tmp/w/e/a.c" ∧
      Path.text ⟨.root, ["tmp", "w", "e", "b.c"]⟩ = "/tmp/w/e/b.c" := by decide
  have chased : FileTree.chase t 13 [] ⟨false, []⟩ ["d", "m"] =
      (false, ⟨false, ["e", "l", "..", "a.c"]⟩) := by
    simp [FileTree.chase, FileTree.Spot.location, FileTree.literalStep, FileTree.Spot.up, t,
      Node.at?, Assoc.get?, startsAtRoot, parts]
  have fuel : t.chaseFuel = 13 := by decide +kernel
  have nowhere : t.isFolder (Path.text ⟨.relative, ["d", "m"]⟩) = false := by
    apply FileTree.not_isFolder_of_loop
    · simp [Path.Normal, Path.isName, Unslashed]
    · simp [FileTree.isLoopFree, fuel, chased]
  have walked : t.walk [] (Path.ofText "d") = [⟨.relative, ["d", "m"]⟩] := by
    simp [FileTree.walk, path, folder, FileTree.filesBelow, FileTree.fileNames, FileTree.isFileEntry,
      Path.child, nowhere, Text.sorted, FileTree.filesInSubfolders, Text.sortedByFirst]
  have file : t.isFile "/tmp/w/e/a.c" = true := by cbv
  have through : t.resolve ⟨.relative, ["d", "m"]⟩ = .ok ⟨.root, ["tmp", "w", "e", "a.c"]⟩ := by
    obtain ⟨place, bytes, found⟩ := FileTree.find_of_isFile file
    simp [FileTree.resolve, FileTree.realLocation, fuel, chased, FileTree.Spot.location,
      FileTree.literalStep, t, Path.absolute, text, found]
  have onward : t.resolve ⟨.root, ["tmp", "w", "e", "a.c"]⟩ =
      .ok ⟨.root, ["tmp", "w", "e", "b.c"]⟩ := by cbv
  have given : t.isFolder (Path.ofText "d").text = true := by
    simp [FileTree.isFolder, path, folder]
  have met : candidatesOf t [] ["d"] = [⟨.relative, ["d", "m"]⟩] :=
    (candidatesOf_folder given).trans walked
  obtain ⟨first, expanded⟩ : ∃ first, expand t [] [] ["d"] = .ok first := by
    rw [expand_ok_iff, met]
    simp [through]
  have files : first.files = [⟨.root, ["tmp", "w", "e", "a.c"]⟩] := by
    rw [expand_files expanded, met]
    simp [survivors, through, Except.toOption, isExcluded, List.eraseDups_cons]
  have returned : expand t [] [] ["/tmp/w/e/a.c"] = .ok
      { files := [⟨.root, ["tmp", "w", "e", "b.c"]⟩], notes := [.searching "/tmp/w/e/a.c"] } := by
    apply expand_file
    · rw [path.1, text.1]
      exact FileTree.not_isFolder_of_isFile file
    · rw [path.1, text.1]
      exact file
    · rw [path.1]
      exact onward
  refine ⟨file, ⟨first, expanded, ?_⟩, _, returned, ?_⟩
  · simp [files, text]
  · simp [text]

end Discovery

end SourceTally
