import SourceTally.Proofs.Assoc
import SourceTally.Proofs.FileTree.Names

/- What a walk lists, and in which order. The entries that are met are those to which real subfolders
   lead that may be entered; links are never entered, so a cycle of links cannot keep a walk going. In
   each folder the files come before what its subfolders hold, and both go by name, so the place of a
   file in the list is decided by comparing names from the top down. -/
namespace SourceTally

namespace Text

theorem notAfter_iff {a b : String} : notAfter a b = true ↔ a ≤ b := by
  rw [notAfter, Bool.not_eq_true', decide_eq_false_iff_not, String.not_lt]

theorem mergeSort_ordered {α : Type} {key : α → String} {items : List α}
    (distinct : items.Pairwise fun a b => key a ≠ key b) :
    (items.mergeSort fun a b => notAfter (key a) (key b)).Pairwise fun a b => key a < key b := by
  let le := fun a b => notAfter (key a) (key b)
  have sorted : (items.mergeSort le).Pairwise fun a b => le a b = true := by
    refine List.pairwise_mergeSort (fun a b c => ?_) (fun a b => ?_) items
    · simp only [le, notAfter_iff]
      exact String.le_trans
    · simp only [le, Bool.or_eq_true, notAfter_iff]
      exact String.le_total (key a) (key b)
  have apart : (items.mergeSort le).Pairwise fun a b => key a ≠ key b :=
    (List.mergeSort_perm items le).symm.pairwise distinct fun differs => differs.symm
  refine (sorted.and apart).imp fun both => ?_
  by_contra unordered
  exact both.2 (String.le_antisymm (notAfter_iff.mp both.1) (String.not_lt.mp unordered))

end Text

namespace Node

theorem get?_of_mem {entries : List (String × Node)} {name : String} {n : Node}
    (distinct : Assoc.Distinct entries) (listed : (name, n) ∈ entries) :
    Assoc.get? entries name = some n :=
  (Assoc.get?_eq_some_iff distinct).mpr ⟨_, listed, beq_self_eq_true name, rfl⟩

theorem folder_induction {holds : List (String × Node) → Prop}
    (step : ∀ entries, (∀ name inner, (name, folder inner) ∈ entries → holds inner) →
      holds entries) (entries : List (String × Node)) : holds entries :=
  step entries fun name inner listed =>
    have smaller : sizeOf inner < sizeOf entries := by
      have member := List.sizeOf_lt_of_mem listed
      simp only [Prod.mk.sizeOf_spec, folder.sizeOf_spec] at member
      omega
    folder_induction step inner
termination_by sizeOf entries

end Node

namespace FileTree

variable {t : FileTree} {extra : List String} {place : Location}

/-- Subfolders lead from one folder to another: real ones, and none with an excluded name. -/
inductive Entered (extra : List String) :
    List (String × Node) → List String → List (String × Node) → Prop where
  | here (entries : List (String × Node)) : Entered extra entries [] entries
  | into {entries inner last : List (String × Node)} {name : String} {names : List String}
      (listed : (name, .folder inner) ∈ entries) (standard : name ∉ excludedFolders)
      (wanted : name ∉ extra) (later : Entered extra inner names last) :
      Entered extra entries (name :: names) last

/-- The order in which a walk meets files, by the names that lead to them. -/
inductive Before : List String → List String → Prop where
  | files {a b : String} (less : a < b) : Before [a] [b]
  | filesFirst (a folder name : String) (rest : List String) : Before [a] (folder :: name :: rest)
  | folders {a b : String} (less : a < b) (name other : String) (rest others : List String) :
      Before (a :: name :: rest) (b :: other :: others)
  | inside (folder : String) {p q : List String} (earlier : Before p q) :
      Before (folder :: p) (folder :: q)

theorem ne_of_before {p q : List String} (before : Before p q) : p ≠ q := by
  induction before with
  | files less => simpa using String.ne_of_lt less
  | filesFirst => simp
  | folders less =>
    intro same
    exact String.lt_irrefl _ ((List.cons.inj same).1 ▸ less)
  | inside folder earlier ih => simpa using ih

theorem before_append (folders : List String) {p q : List String} (before : Before p q) :
    Before (folders ++ p) (folders ++ q) := by
  induction folders with
  | nil => exact before
  | cons folder folders ih => exact .inside folder ih

section Listing

variable {path : Path} {entries : List (String × Node)}

theorem mem_fileNames {name : String} :
    name ∈ t.fileNames path entries ↔
      ∃ n, (name, n) ∈ entries ∧ t.isFileEntry path (name, n) = true := by
  simp [fileNames, Text.sorted]

theorem fileNames_ordered (distinct : Assoc.Distinct entries) :
    (t.fileNames path entries).Pairwise (· < ·) := by
  apply Text.mergeSort_ordered
  rw [List.pairwise_map]
  refine (distinct.filter _).imp fun differs => ?_
  simpa using differs

theorem isExcludedFolder_iff {name : String} :
    isExcludedFolder extra name = true ↔ name ∈ excludedFolders ∨ name ∈ extra := by
  simp [isExcludedFolder]

theorem mem_filesInSubfolders {name : String} {files : List Path} :
    (name, files) ∈ filesInSubfolders t extra path entries ↔
      ∃ inner, (name, Node.folder inner) ∈ entries ∧ name ∉ excludedFolders ∧ name ∉ extra ∧
        files = filesBelow t extra (path.child name) (.folder inner) := by
  induction entries with
  | nil => simp [filesInSubfolders]
  | cons entry rest ih =>
    obtain ⟨first, n⟩ := entry
    cases n with
    | file bytes => simp [filesInSubfolders, ih]
    | link target => simp [filesInSubfolders, ih]
    | folder inside =>
      rw [filesInSubfolders]
      split
      · rename_i excluded
        rw [isExcludedFolder_iff] at excluded
        rw [ih]
        refine exists_congr fun inner => ?_
        simp only [List.mem_cons, Prod.mk.injEq, Node.folder.injEq]
        grind
      · rename_i allowed
        rw [isExcludedFolder_iff, not_or] at allowed
        simp only [List.mem_cons, ih, Prod.mk.injEq, Node.folder.injEq]
        grind

theorem filesInSubfolders_distinct (distinct : Assoc.Distinct entries) :
    (filesInSubfolders t extra path entries).Pairwise fun a b => a.1 ≠ b.1 := by
  induction entries with
  | nil => simp [filesInSubfolders]
  | cons entry rest ih =>
    obtain ⟨name, n⟩ := entry
    obtain ⟨fresh, later⟩ := Assoc.distinct_cons.mp distinct
    cases n with
    | file bytes => exact ih later
    | link target => exact ih later
    | folder inner =>
      rw [filesInSubfolders]
      split
      · exact ih later
      · refine List.pairwise_cons.mpr ⟨fun group member same => fresh ?_, ih later⟩
        obtain ⟨inner, listed, _⟩ := mem_filesInSubfolders.mp (show (group.1, group.2) ∈ _ from member)
        exact Assoc.has_iff.mpr ⟨_, listed, by simpa using same.symm⟩

theorem mem_filesBelow {p : Path} :
    p ∈ filesBelow t extra path (.folder entries) ↔
      ∃ above last name n, Entered extra entries above last ∧ (name, n) ∈ last ∧
        t.isFileEntry (path.below above) (name, n) = true ∧ p = path.below (above ++ [name]) := by
  induction entries using Node.folder_induction generalizing path with
  | step entries ih =>
    rw [filesBelow, List.mem_append, List.mem_map, List.mem_flatMap]
    constructor
    · rintro (⟨name, listed, rfl⟩ | ⟨⟨name, files⟩, listed, member⟩)
      · obtain ⟨n, entry, isFile⟩ := mem_fileNames.mp listed
        exact ⟨[], entries, name, n, .here entries, entry, by rwa [Path.below_nil], rfl⟩
      · rw [Text.sortedByFirst, List.mem_mergeSort, mem_filesInSubfolders] at listed
        obtain ⟨inner, entry, standard, wanted, rfl⟩ := listed
        obtain ⟨above, last, file, n, entered, held, isFile, rfl⟩ := (ih name inner entry).mp member
        rw [Path.child_below] at isFile
        exact ⟨name :: above, last, file, n, .into entry standard wanted entered, held, isFile,
          Path.child_below path name _⟩
    · rintro ⟨above, last, file, n, entered, held, isFile, rfl⟩
      cases entered with
      | here =>
        rw [Path.below_nil] at isFile
        exact .inl ⟨file, mem_fileNames.mpr ⟨n, held, isFile⟩, rfl⟩
      | @into _ inner _ name above listed standard wanted later =>
        rw [← Path.child_below] at isFile
        refine .inr ⟨(name, filesBelow t extra (path.child name) (.folder inner)), ?_, ?_⟩
        · rw [Text.sortedByFirst, List.mem_mergeSort, mem_filesInSubfolders]
          exact ⟨inner, listed, standard, wanted, rfl⟩
        · exact (ih name inner listed).mpr
            ⟨above, last, file, n, later, held, isFile, (Path.child_below path name _).symm⟩

theorem names_of_mem_subfolder {group : String × List Path}
    (listed : group ∈ filesInSubfolders t extra path entries) {p : Path} (member : p ∈ group.2) :
    ∃ name rest, p.names = path.names ++ group.1 :: name :: rest := by
  obtain ⟨inner, _, _, _, files⟩ := mem_filesInSubfolders.mp listed
  rw [files] at member
  obtain ⟨above, _, name, _, _, _, _, rfl⟩ := mem_filesBelow.mp member
  rw [Path.child_below]
  cases above with
  | nil => exact ⟨name, [], rfl⟩
  | cons first above => exact ⟨first, above ++ [name], rfl⟩

theorem filesBelow_ordered (orderly : (Node.folder entries).isOrderly = true) :
    (filesBelow t extra path (.folder entries)).Pairwise fun p q => Before p.names q.names := by
  induction entries using Node.folder_induction generalizing path with
  | step entries ih =>
    obtain ⟨names, each⟩ := Node.isOrderly_folder_iff.mp orderly
    have sorted : (Text.sortedByFirst (filesInSubfolders t extra path entries)).Pairwise
        fun a b => a.1 < b.1 := Text.mergeSort_ordered (filesInSubfolders_distinct names)
    rw [filesBelow, List.pairwise_append, List.pairwise_map, List.pairwise_flatMap]
    refine ⟨?_, ⟨?_, ?_⟩, ?_⟩
    · refine (fileNames_ordered names).imp fun less => ?_
      exact before_append path.names (.files less)
    · intro group listed
      rw [Text.sortedByFirst, List.mem_mergeSort] at listed
      obtain ⟨inner, entry, _, _, files⟩ := mem_filesInSubfolders.mp listed
      rw [files]
      exact ih group.1 inner entry (each _ entry).2
    · refine sorted.imp_of_mem fun {a b} first second less p member q other => ?_
      rw [Text.sortedByFirst, List.mem_mergeSort] at first second
      obtain ⟨name, rest, left⟩ := names_of_mem_subfolder first member
      obtain ⟨name', rest', right⟩ := names_of_mem_subfolder second other
      rw [left, right]
      exact before_append path.names (.folders less name name' rest rest')
    · intro p file q deeper
      obtain ⟨a, _, rfl⟩ := List.mem_map.mp file
      obtain ⟨group, listed, member⟩ := List.mem_flatMap.mp deeper
      rw [Text.sortedByFirst, List.mem_mergeSort] at listed
      obtain ⟨name, rest, right⟩ := names_of_mem_subfolder listed member
      rw [right]
      exact before_append path.names (.filesFirst a group.1 name rest)

end Listing

/-- An entry that is no folder, nor a link to one, in a folder that can be entered from the given
    one. -/
inductive FileBelow (t : FileTree) (extra : List String) (folder : Path) : Path → Prop where
  | intro {place : Location} {entries last : List (String × Node)} {above : List String}
      {name : String} {n : Node} (start : t.find folder.text = .ok (place, .folder entries))
      (entered : Entered extra entries above last) (listed : (name, n) ∈ last)
      (other : t.isFolder (folder.below (above ++ [name])).text = false) :
      FileBelow t extra folder (folder.below (above ++ [name]))

theorem at?_of_entered {root : Node} {entries last : List (String × Node)} {above : List String}
    (entered : Entered extra entries above last) (orderly : root.isOrderly = true)
    (there : root.at? place = some (.folder entries)) :
    root.at? (place ++ above) = some (.folder last) := by
  induction entered generalizing place with
  | here => simpa using there
  | @into entries inner last name names listed standard wanted later ih =>
    have names := (Node.isOrderly_folder_iff.mp (Node.isOrderly_at? orderly there)).1
    have inside : root.at? (place ++ [name]) = some (.folder inner) := by
      rw [Node.at?_child there, Node.get?_of_mem names listed]
    simpa using ih inside

theorem names_of_entered {entries last : List (String × Node)} {above : List String}
    (entered : Entered extra entries above last)
    (orderly : (Node.folder entries).isOrderly = true) :
    ∀ name ∈ above, IsEntryName name := by
  induction entered with
  | here => simp
  | into listed standard wanted later ih =>
    obtain ⟨first, inside⟩ := (Node.isOrderly_folder_iff.mp orderly).2 _ listed
    exact List.forall_mem_cons.mpr ⟨first, ih inside⟩

theorem isFileEntry_iff {p : Path} {entries : List (String × Node)} {name : String} {n : Node}
    (normal : p.Normal) (found : t.find p.text = .ok (place, .folder entries))
    (listed : (name, n) ∈ entries) :
    t.isFileEntry p (name, n) = true ↔ t.isFolder (p.child name).text = false := by
  have folder := at?_of_find normal found
  obtain ⟨names, each⟩ := Node.isOrderly_folder_iff.mp (Node.isOrderly_at? t.orderly folder)
  have there : t.root.at? (place ++ [name]) = some n := by
    rw [Node.at?_child folder, Node.get?_of_mem names listed]
  have entry := List.forall_mem_singleton.mpr (each _ listed).1
  have leads := find_below normal found entry there
  have child : p.below [name] = p.child name := rfl
  cases n with
  | link target => simp [isFileEntry]
  | file bytes => simp [isFileEntry, isFolder, ← child, leads (by simp)]
  | folder inner => simp [isFileEntry, isFolder, ← child, leads (by simp)]

theorem isFileEntry_entered_iff {p : Path} {entries last : List (String × Node)}
    {above : List String} {name : String} {n : Node} (normal : p.Normal)
    (found : t.find p.text = .ok (place, .folder entries))
    (entered : Entered extra entries above last) (listed : (name, n) ∈ last) :
    t.isFileEntry (p.below above) (name, n) = true ↔
      t.isFolder (p.below (above ++ [name])).text = false := by
  have folder := at?_of_find normal found
  have names := names_of_entered entered (Node.isOrderly_at? t.orderly folder)
  have leads := find_below normal found names (at?_of_entered entered t.orderly folder) (by simp)
  rw [isFileEntry_iff (below_normal normal names) leads listed, Path.below_child]

theorem mem_walk_iff {folder : Path} (normal : folder.Normal) (p : Path) :
    p ∈ t.walk extra folder ↔ FileBelow t extra folder p := by
  constructor
  · intro member
    simp only [walk] at member
    split at member
    · rename_i place n found
      cases n with
      | file bytes => simp [filesBelow] at member
      | link target => simp [filesBelow] at member
      | folder entries =>
        obtain ⟨above, last, name, n, entered, listed, isFile, rfl⟩ := mem_filesBelow.mp member
        rw [isFileEntry_entered_iff normal found entered listed] at isFile
        exact .intro found entered listed isFile
    · cases member
  · rintro ⟨found, entered, listed, other⟩
    rw [← isFileEntry_entered_iff normal found entered listed] at other
    simp only [walk, found]
    exact mem_filesBelow.mpr ⟨_, _, _, _, entered, listed, other, rfl⟩

theorem walk_ordered {folder : Path} (normal : folder.Normal) :
    (t.walk extra folder).Pairwise fun p q => Before p.names q.names := by
  simp only [walk]
  split
  · rename_i place n found
    cases n with
    | file bytes => simp [filesBelow]
    | link target => simp [filesBelow]
    | folder entries =>
      exact filesBelow_ordered (Node.isOrderly_at? t.orderly (at?_of_find normal found))
  · exact .nil

/-- A walk from a folder with any name lists the entries below it that are no folders, as far as real
    subfolders lead that are not excluded, and nothing else. Each is listed once, and the list goes by
    names: the files of a folder before those of its subfolders, and one subfolder after the other. -/
theorem walk_lists_each_file_in_order (t : FileTree) (extra : List String) (root : String) :
    let listed := t.walk extra (Path.ofText root)
    (∀ p, p ∈ listed ↔ FileBelow t extra (Path.ofText root) p) ∧ listed.Nodup ∧
      listed.Pairwise fun p q => Before p.names q.names := by
  intro listed
  have normal := Path.ofText_normal root
  have ordered : listed.Pairwise fun p q => Before p.names q.names := walk_ordered normal
  refine ⟨mem_walk_iff normal, ordered.imp fun before same => ?_, ordered⟩
  exact ne_of_before before (congrArg Path.names same)

/-- The folder has an excluded name itself. It holds a link back to the folder above it, a link that
    leads nowhere, and subfolders of which two are not entered. -/
theorem walk_lists_files_beside_cycle :
    let entries : List (String × Node) :=
      [("up", .link "/"), ("z", .file []), ("a", .link "x"), ("venv", .folder [("f", .file [])]),
        ("out", .folder [("g", .file [])]), ("lib", .folder [("b", .file [])])]
    let t : FileTree := { root := .folder [(".git", .folder entries)], here := [] }
    let listed := t.walk ["out"] (Path.ofText ".git")
    listed = [⟨.relative, [".git", "a"]⟩, ⟨.relative, [".git", "z"]⟩,
        ⟨.relative, [".git", "lib", "b"]⟩] ∧
      (∀ p, p ∈ listed ↔ FileBelow t ["out"] (Path.ofText ".git") p) ∧ listed.Nodup ∧
      listed.Pairwise fun p q => Before p.names q.names := by
  intro entries t listed
  have parts : pathParts ".git" = [".git"] ∧ pathParts ".git/up" = [".git", "up"] ∧
      pathParts ".git/a" = [".git", "a"] ∧ pathParts "/" = ["", ""] ∧ pathParts "x" = ["x"] := by
    decide
  have root : Path.ofText ".git" = ⟨.relative, [".git"]⟩ := by decide
  have texts : Path.text ⟨.relative, [".git"]⟩ = ".git" ∧
      Path.text ⟨.relative, [".git", "up"]⟩ = ".git/up" ∧
      Path.text ⟨.relative, [".git", "a"]⟩ = ".git/a" := by decide
  have found : t.find ".git" = .ok ([".git"], .folder entries) := by
    simp [find, findWith, go, parts, start, startsAtRoot, t, Node.at?, Assoc.get?]
  have up : t.isFolder ".git/up" = true := by
    simp [isFolder, find, findWith, go, parts, start, startsAtRoot, t, entries, Node.at?,
      Assoc.get?, linkLimit]
  have nowhere : t.isFolder ".git/a" = false := by
    simp [isFolder, find, findWith, go, parts, start, startsAtRoot, t, entries, Node.at?,
      Assoc.get?, linkLimit]
  have files : t.fileNames ⟨.relative, [".git"]⟩ entries = ["a", "z"] := by
    have kept : (entries.filter (t.isFileEntry ⟨.relative, [".git"]⟩)).map (·.1) = ["z", "a"] := by
      simp [entries, List.filter_cons, isFileEntry, Path.child, texts, up, nowhere]
    have order : Text.notAfter "z" "a" = false := by decide
    rw [fileNames, kept]
    simp [Text.sorted, List.mergeSort, List.MergeSort.Internal.splitInTwo, order]
  have inside : t.fileNames ⟨.relative, [".git", "lib"]⟩ [("b", .file [])] = ["b"] := by
    simp [fileNames, List.filter_cons, isFileEntry, Text.sorted]
  have walked : listed = [⟨.relative, [".git", "a"]⟩, ⟨.relative, [".git", "z"]⟩,
      ⟨.relative, [".git", "lib", "b"]⟩] := by
    simp only [listed, walk, root, texts, found, filesBelow, files]
    simp [entries, filesInSubfolders, isExcludedFolder, excludedFolders, filesBelow, Path.child,
      Text.sortedByFirst, inside]
  exact ⟨walked, walk_lists_each_file_in_order t ["out"] ".git"⟩

end FileTree

end SourceTally
