import SourceTally.FileTree.Walk
import SourceTally.Proofs.FileTree.RealPath

/- The names of entries are parts of paths, so the paths that a walk finds are in normal form. -/
namespace SourceTally

namespace FileTree

theorem child_normal {p : Path} {name : String} (normal : p.Normal) (entry : IsEntryName name) :
    (p.child name).Normal := by
  intro other member
  rcases List.mem_append.mp member with earlier | added
  · exact normal other earlier
  · rw [List.mem_singleton.mp added]
    exact ⟨by simp [Path.isName, entry.1.1, entry.1.2.1], entry.2⟩

variable {t : FileTree} {extra : List String}

theorem fileNames_subset {folder : Path} {entries : List (String × Node)} {name : String}
    (member : name ∈ t.fileNames folder entries) : ∃ n, (name, n) ∈ entries := by
  rw [fileNames, Text.sorted, List.mem_mergeSort, List.mem_map] at member
  obtain ⟨entry, kept, same⟩ := member
  exact ⟨entry.2, same ▸ (List.mem_filter.mp kept).1⟩

mutual

theorem filesBelow_normal : ∀ (n : Node) (path : Path), path.Normal → n.isOrderly = true →
    ∀ p ∈ filesBelow t extra path n, p.Normal
  | .file _, _, _, _ => by simp [filesBelow]
  | .link _, _, _, _ => by simp [filesBelow]
  | .folder entries, path, normal, orderly => by
    have named := Node.allOrderly_iff.mpr (Node.isOrderly_folder_iff.mp orderly).2
    intro p member
    rw [filesBelow, List.mem_append] at member
    rcases member with file | deeper
    · obtain ⟨name, listed, same⟩ := List.mem_map.mp file
      obtain ⟨n, entry⟩ := fileNames_subset listed
      have allowed := (Node.allOrderly_iff.mp named (name, n) entry).1
      exact same ▸ child_normal normal allowed
    · obtain ⟨group, listed, below⟩ := List.mem_flatMap.mp deeper
      rw [Text.sortedByFirst, List.mem_mergeSort] at listed
      exact filesInSubfolders_normal entries path normal named group listed p below

theorem filesInSubfolders_normal : ∀ (entries : List (String × Node)) (path : Path), path.Normal →
    Node.allOrderly entries = true →
    ∀ group ∈ filesInSubfolders t extra path entries, ∀ p ∈ group.2, p.Normal
  | [], _, _, _ => by simp [filesInSubfolders]
  | (name, .file _) :: rest, path, normal, named => by
    have later := (List.forall_mem_cons.mp (Node.allOrderly_iff.mp named)).2
    show ∀ group ∈ filesInSubfolders t extra path rest, _
    exact filesInSubfolders_normal rest path normal (Node.allOrderly_iff.mpr later)
  | (name, .link _) :: rest, path, normal, named => by
    have later := (List.forall_mem_cons.mp (Node.allOrderly_iff.mp named)).2
    show ∀ group ∈ filesInSubfolders t extra path rest, _
    exact filesInSubfolders_normal rest path normal (Node.allOrderly_iff.mpr later)
  | (name, .folder entries) :: rest, path, normal, named => by
    obtain ⟨first, later⟩ := List.forall_mem_cons.mp (Node.allOrderly_iff.mp named)
    have rests := filesInSubfolders_normal rest path normal (Node.allOrderly_iff.mpr later)
    rw [filesInSubfolders]
    split
    · exact rests
    · intro group member
      rcases List.mem_cons.mp member with same | other
      · rw [same]
        exact filesBelow_normal (.folder entries) (path.child name)
          (child_normal normal first.1) first.2
      · exact rests group other

end

theorem walk_normal {folder : Path} (normal : folder.Normal) :
    ∀ p ∈ t.walk extra folder, p.Normal := by
  intro p member
  simp only [walk] at member
  split at member
  · rename_i place n found
    simp only [find, findWith] at found
    split at found
    · cases found
    · have there := (way_of_go found).1
      exact filesBelow_normal n folder normal (Node.isOrderly_at? t.orderly there) p member
  · cases member

end FileTree

end SourceTally
