import Mathlib.Data.List.Nodup
import Mathlib.Data.List.Permutation
import SourceTally.Discovery
import SourceTally.Proofs.Failure
import SourceTally.Proofs.FileTree.Names

/- What inputs stand for. The files that are discovered are the real paths of all candidates that no
   exclusion covers, each once. Only a candidate without a real path stops a discovery, and of the
   candidates only those met on a walk may have none. -/
namespace SourceTally

variable {t : FileTree}

namespace FileTree

theorem resolve_error {p : Path} {e : Error} (failed : t.resolve p = .error e) :
    ∃ text, e = .linkLoop text := by
  simp only [resolve] at failed
  split at failed
  · exact ⟨_, (Except.error.inj failed).symm⟩
  · cases failed

theorem find_of_isFile {text : String} (file : t.isFile text = true) :
    ∃ place bytes, t.find text = .ok (place, .file bytes) := by
  simp only [isFile] at file
  split at file
  · exact ⟨_, _, ‹_›⟩
  · cases file

theorem not_isFolder_of_isFile {text : String} (file : t.isFile text = true) :
    t.isFolder text = false := by
  obtain ⟨place, bytes, found⟩ := find_of_isFile file
  simp [isFolder, found]

end FileTree

namespace Discovery

def isExcluded (exclusions : List Exclusion) (path : Path) : Bool :=
  exclusions.any (·.covers path.text)

def candidatesOf (t : FileTree) (extra inputs : List String) : List Path :=
  inputs.flatMap fun input => (candidates t extra input).1

structure Gathered (t : FileTree) (exclusions : List Exclusion) (met files : List Path) :
    Prop where
  nodup : files.Nodup
  mem_iff : ∀ path, path ∈ files ↔
    (∃ candidate ∈ met, t.resolve candidate = .ok path) ∧ isExcluded exclusions path = false

variable {exclusions : List Exclusion} {extra : List String}

theorem consider_ok {d next : Discovery} {candidate : Path}
    (considered : consider t exclusions d candidate = .ok next) :
    ∃ real, t.resolve candidate = .ok real ∧
      (next.files = d.files ∧ (real ∈ d.files ∨ isExcluded exclusions real = true) ∨
        next.files = d.files ++ [real] ∧ real ∉ d.files ∧ isExcluded exclusions real = false) := by
  obtain ⟨real, resolved, rest⟩ := bind_ok considered
  refine ⟨real, resolved, ?_⟩
  split at rest
  · rename_i known
    cases rest
    exact .inl ⟨rfl, .inl (by simpa using known)⟩
  · rename_i fresh
    split at rest
    · rename_i e covering
      cases rest
      have covers : e.covers real.text = true := by simpa using List.find?_some covering
      exact .inl ⟨rfl, .inr (List.any_eq_true.mpr ⟨e, List.mem_of_find?_eq_some covering, covers⟩)⟩
    · rename_i free
      cases rest
      refine .inr ⟨rfl, by simpa using fresh, ?_⟩
      rw [isExcluded, List.any_eq_false]
      exact List.find?_eq_none.mp free

theorem consider_of_resolve {candidate real : Path} (resolved : t.resolve candidate = .ok real)
    (exclusions : List Exclusion) (d : Discovery) :
    ∃ next, consider t exclusions d candidate = .ok next := by
  simp only [consider, resolved, bind, Except.bind]
  split
  · exact ⟨_, rfl⟩
  · split <;> exact ⟨_, rfl⟩

theorem consider_ok_iff (d : Discovery) (candidate : Path) :
    (∃ next, consider t exclusions d candidate = .ok next) ↔
      ∃ real, t.resolve candidate = .ok real := by
  constructor
  · rintro ⟨next, considered⟩
    obtain ⟨real, resolved, _⟩ := consider_ok considered
    exact ⟨real, resolved⟩
  · rintro ⟨real, resolved⟩
    exact consider_of_resolve resolved exclusions d

theorem consider_error {d : Discovery} {candidate : Path} {e : Error}
    (failed : consider t exclusions d candidate = .error e) : t.resolve candidate = .error e := by
  cases resolved : t.resolve candidate with
  | error cause =>
    simp only [consider, resolved, bind, Except.bind] at failed
    cases failed
    rfl
  | ok real =>
    obtain ⟨next, done⟩ := consider_of_resolve resolved exclusions d
    rw [failed] at done
    cases done

theorem consider_gathered {met : List Path} {d next : Discovery} {candidate : Path}
    (gathered : Gathered t exclusions met d.files)
    (considered : consider t exclusions d candidate = .ok next) :
    Gathered t exclusions (met ++ [candidate]) next.files := by
  obtain ⟨real, resolved, step⟩ := consider_ok considered
  have reached : ∀ path, (∃ other ∈ met ++ [candidate], t.resolve other = .ok path) ↔
      (∃ other ∈ met, t.resolve other = .ok path) ∨ path = real := by
    intro path
    simp only [List.mem_append, List.mem_singleton, or_and_right, exists_or, exists_eq_left,
      resolved, Except.ok.injEq, eq_comm (a := path)]
  rcases step with ⟨same, known⟩ | ⟨grown, fresh, allowed⟩
  · refine ⟨same ▸ gathered.nodup, fun path => ?_⟩
    rw [same, reached, gathered.mem_iff]
    refine ⟨fun ⟨old, free⟩ => ⟨.inl old, free⟩, ?_⟩
    rintro ⟨old | now, free⟩
    · exact ⟨old, free⟩
    · -- the candidate adds nothing: its real path was met before, as it is not excluded
      rcases known with listed | covered
      · exact (gathered.mem_iff path).mp (now ▸ listed)
      · rw [now, covered] at free
        cases free
  · rw [grown]
    refine ⟨List.nodup_append.mpr ⟨gathered.nodup, by simp, ?_⟩, fun path => ?_⟩
    · intro listed member added single same
      rw [List.mem_singleton.mp single] at same
      exact fresh (same ▸ member)
    rw [List.mem_append, List.mem_singleton, reached, gathered.mem_iff]
    constructor
    · rintro (⟨old, free⟩ | now)
      · exact ⟨.inl old, free⟩
      · exact ⟨.inr now, now ▸ allowed⟩
    · rintro ⟨old | now, free⟩
      · exact .inl ⟨old, free⟩
      · exact .inr now

theorem gathered_nil : Gathered t exclusions [] [] := ⟨List.nodup_nil, by simp⟩

/-- What holds of the candidates met and the files found, and is kept when one more candidate is
    considered, holds of a whole discovery. -/
theorem expand_preserves (holds : List Path → List Path → Prop)
    (step : ∀ met d candidate next, holds met d.files →
      consider t exclusions d candidate = .ok next → holds (met ++ [candidate]) next.files)
    (start : holds [] []) {inputs : List String} {found : Discovery}
    (expanded : expand t exclusions extra inputs = .ok found) :
    holds (candidatesOf t extra inputs) found.files := by
  have begun : holds (candidatesOf t extra []) ({} : Discovery).files := start
  refine foldlM_preserves (fun done d => holds (candidatesOf t extra done) d.files)
    (fun done d input next kept expandedInput => ?_) begun expanded
  have more : candidatesOf t extra (done ++ [input]) =
      candidatesOf t extra done ++ (candidates t extra input).1 := by
    simp [candidatesOf]
  rw [more]
  exact foldlM_preserves (fun met d => holds met d.files) step kept expandedInput

theorem expand_gathered {inputs : List String} {found : Discovery}
    (expanded : expand t exclusions extra inputs = .ok found) :
    Gathered t exclusions (candidatesOf t extra inputs) found.files :=
  expand_preserves (Gathered t exclusions) (fun _ _ _ _ => consider_gathered) gathered_nil expanded

theorem expand_ok_iff (inputs : List String) :
    (∃ found, expand t exclusions extra inputs = .ok found) ↔
      ∀ candidate ∈ candidatesOf t extra inputs, ∃ real, t.resolve candidate = .ok real := by
  have each : ∀ (d : Discovery) (input : String),
      (∃ next, expandInput t exclusions extra d input = .ok next) ↔
        ∀ candidate ∈ (candidates t extra input).1, ∃ real, t.resolve candidate = .ok real :=
    fun _ _ => foldlM_ok_iff consider_ok_iff _ _
  rw [expand, foldlM_ok_iff each]
  simp only [candidatesOf, List.forall_mem_flatMap]

theorem expand_error {inputs : List String} {e : Error}
    (failed : expand t exclusions extra inputs = .error e) :
    ∃ candidate ∈ candidatesOf t extra inputs, t.resolve candidate = .error e := by
  obtain ⟨input, listed, d, stopped⟩ := foldlM_error failed
  obtain ⟨candidate, met, before, refused⟩ := foldlM_error stopped
  exact ⟨candidate, List.mem_flatMap.mpr ⟨input, listed, met⟩, consider_error refused⟩

theorem candidates_normal {input : String} :
    ∀ candidate ∈ (candidates t extra input).1, candidate.Normal := by
  intro candidate member
  simp only [candidates] at member
  split at member
  · exact FileTree.walk_normal (Path.ofText_normal input) candidate member
  · split at member
    · rw [List.mem_singleton.mp member]
      exact Path.ofText_normal input
    · obtain ⟨listed, _⟩ := List.mem_filter.mp member
      obtain ⟨text, _, same⟩ := List.mem_map.mp listed
      exact same ▸ Path.ofText_normal text

theorem candidates_of_folder {input : String}
    (folder : t.isFolder (Path.ofText input).text = true) :
    (candidates t extra input).1 = t.walk extra (Path.ofText input) := by
  simp only [candidates, folder, if_true]

theorem candidatesOf_folder {input : String}
    (folder : t.isFolder (Path.ofText input).text = true) :
    candidatesOf t extra [input] = t.walk extra (Path.ofText input) := by
  rw [candidatesOf, List.flatMap_singleton, candidates_of_folder folder]

theorem expand_file {input : String} {real : Path}
    (other : t.isFolder (Path.ofText input).text = false)
    (file : t.isFile (Path.ofText input).text = true)
    (resolved : t.resolve (Path.ofText input) = .ok real) :
    expand t [] extra [input] = .ok { files := [real], notes := [.searching input] } := by
  have met : candidates t extra input = ([Path.ofText input], []) := by
    simp only [candidates, other, file, Bool.false_eq_true, if_false, if_true]
  simp [expand, expandInput, met, consider, resolved, bind, Except.bind, pure, Except.pure]

theorem candidates_isFile {input : String}
    (other : t.isFolder (Path.ofText input).text = false) :
    ∀ candidate ∈ (candidates t extra input).1, t.isFile candidate.text = true := by
  intro candidate member
  simp only [candidates, other, Bool.false_eq_true, if_false] at member
  split at member
  · rw [List.mem_singleton.mp member]
    assumption
  · exact (List.mem_filter.mp member).2

theorem resolve_of_isFile {candidate : Path} (normal : candidate.Normal)
    (file : t.isFile candidate.text = true) : ∃ real, t.resolve candidate = .ok real := by
  obtain ⟨place, bytes, found⟩ := FileTree.find_of_isFile file
  exact ⟨_, (FileTree.resolve_of_find normal found (by simp)).1⟩

/-- Files have real paths. So a discovery can fail only where the entries of a folder are taken up
    without a look at what they are. -/
theorem expand_ok_iff_walks (inputs : List String) :
    (∃ found, expand t exclusions extra inputs = .ok found) ↔
      ∀ input ∈ inputs, t.isFolder (Path.ofText input).text = true →
        ∀ path ∈ t.walk extra (Path.ofText input), ∃ real, t.resolve path = .ok real := by
  rw [expand_ok_iff]
  simp only [candidatesOf, List.forall_mem_flatMap]
  refine forall₂_congr fun input _ => ?_
  cases folder : t.isFolder (Path.ofText input).text with
  | true => simp only [candidates_of_folder folder, forall_const]
  | false =>
    refine iff_of_true (fun candidate member => ?_) (by simp)
    exact resolve_of_isFile (candidates_normal candidate member)
      (candidates_isFile folder candidate member)

theorem expand_absolute {inputs : List String} {found : Discovery}
    (expanded : expand t exclusions extra inputs = .ok found) :
    ∀ path ∈ found.files, path.anchor = .root ∧ path.Normal := by
  intro path member
  obtain ⟨⟨candidate, met, resolved⟩, _⟩ := ((expand_gathered expanded).mem_iff path).mp member
  obtain ⟨input, _, listed⟩ := List.mem_flatMap.mp met
  have clean := candidates_normal candidate listed
  obtain ⟨anchored, names⟩ :=
    FileTree.resolve_names (fun name part => (clean name part).2) resolved
  have normal := FileTree.absolute_normal names
  rw [Path.absolute, ← anchored] at normal
  exact ⟨anchored, normal⟩

theorem expand_texts_nodup {inputs : List String} {found : Discovery}
    (expanded : expand t exclusions extra inputs = .ok found) :
    (found.files.map Path.text).Nodup := by
  have real := expand_absolute expanded
  refine List.Nodup.map_on (fun p first q second same => ?_) (expand_gathered expanded).nodup
  obtain ⟨left, normal⟩ := real p first
  obtain ⟨right, other⟩ := real q second
  exact Path.text_injective normal other (left.trans right.symm) same

theorem gathered_perm {met others files elsewhere : List Path}
    (same : ∀ candidate, candidate ∈ met ↔ candidate ∈ others)
    (first : Gathered t exclusions met files) (second : Gathered t exclusions others elsewhere) :
    files.Perm elsewhere := by
  rw [List.perm_ext_iff_of_nodup first.nodup second.nodup]
  intro path
  simp only [first.mem_iff, second.mem_iff, same]

end Discovery

end SourceTally
