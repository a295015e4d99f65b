import SourceTally.FileTree.Basic

/- Making files, folders and links in a file tree. -/
namespace SourceTally.FileTree

def empty (here : Location) (named : ∀ name ∈ here, IsEntryName name := by decide +kernel) :
    FileTree where
  root := (Node.folder []).put here (.folder [])
  here := here
  sound := isSound_iff.mpr ⟨Node.isOrderly_put rfl named rfl, named⟩

/-- The place that is written to when a file is opened at a path, made or not. Links are followed,
    also one that leads to no file yet. -/
def writingPlace (root : Node) (links : Nat) (place : Location) (parts : List String) :
    Except Fault Location :=
  match parts, root.at? place with
  | _, none => .error .missing
  | [], some (.folder _) => .error .isFolder
  | [], some _ => .ok place
  | part :: rest, some (.folder entries) =>
    if part = "" || part = "." then writingPlace root links place rest
    else if part = ".." then writingPlace root links place.dropLast rest
    else
      match Assoc.get? entries part, links with
      | some (.link target), links =>
        match links with
        | 0 => .error .tooManyLinks
        | links + 1 =>
          writingPlace root links (if startsAtRoot target then [] else place)
            (pathParts target ++ rest)
      | some (.folder _), links => writingPlace root links (place ++ [part]) rest
      | found, _ =>
        if rest.isEmpty then .ok (place ++ [part])
        else if rest.all (· = "") then .error .isFolder
        else .error (if found.isSome then .notFolder else .missing)
  | _ :: _, some _ => .error .notFolder
termination_by (links, parts.length)

theorem writingPlace_names {root : Node} {links : Nat} {place last : Location}
    {parts : List String} (names : ∀ name ∈ place, IsEntryName name)
    (clean : ∀ part ∈ parts, Unslashed part)
    (reached : writingPlace root links place parts = .ok last) :
    ∀ name ∈ last, IsEntryName name := by
  fun_induction writingPlace root links place parts with
  | case1 => cases reached
  | case2 => cases reached
  | case3 =>
    cases reached
    exact names
  | case4 links place part rest entries folder blank ih =>
    exact ih names (List.forall_mem_cons.mp clean).2 reached
  | case5 links place rest entries folder named ih =>
    exact ih (names_up names) (List.forall_mem_cons.mp clean).2 reached
  | case6 => cases reached
  | case7 place part rest entries folder named lower target found links ih =>
    have onward := List.forall_mem_append.mpr
      ⟨pathParts_unslashed target, (List.forall_mem_cons.mp clean).2⟩
    exact ih (names_origin names target) onward reached
  | case8 place part rest entries folder named lower inner links found ih =>
    obtain ⟨first, later⟩ := List.forall_mem_cons.mp clean
    exact ih (names_concat names (isStep_iff.mpr ⟨named, lower⟩) first) later reached
  | case9 links place part rest entries folder named lower ends =>
    cases reached
    exact names_concat names (isStep_iff.mpr ⟨named, lower⟩) (List.forall_mem_cons.mp clean).1
  | case10 => cases reached
  | case11 => cases reached
  | case12 => cases reached

def write (t : FileTree) (path : String) (bytes : List UInt8) : Except Fault FileTree :=
  if path = "" then .error .missing
  else
    match opened : writingPlace t.root linkLimit (t.start path) (pathParts path) with
    | .error fault => .error fault
    | .ok place =>
      have names := writingPlace_names (t.start_names path) (pathParts_unslashed path) opened
      .ok { t with
        root := t.root.put place (.file bytes)
        sound := isSound_iff.mpr ⟨Node.isOrderly_put t.orderly names rfl, t.here_names⟩ }

def makeFolders (root : Node) (place : Location) : List String → Location × Node
  | [] => (place, root)
  | name :: rest =>
    match go root true linkLimit place [name] with
    | .ok (found, _) => makeFolders root found rest
    | .error _ =>
      if IsEntryName name then
        makeFolders (root.put (place ++ [name]) (.folder [])) (place ++ [name]) rest
      else (place, root)

theorem makeFolders_orderly {root : Node} {place : Location} {names : List String}
    (orderly : root.isOrderly = true) (start : ∀ name ∈ place, IsEntryName name)
    (clean : ∀ name ∈ names, Unslashed name) :
    (∀ name ∈ (makeFolders root place names).1, IsEntryName name) ∧
      (makeFolders root place names).2.isOrderly = true := by
  induction names generalizing root place with
  | nil => exact ⟨start, orderly⟩
  | cons name rest ih =>
    obtain ⟨first, later⟩ := List.forall_mem_cons.mp clean
    rw [makeFolders]
    split
    · rename_i found n reached
      exact ih orderly (go_names start (List.forall_mem_singleton.mpr first) reached) later
    · split
      · rename_i entry
        have names := names_concat start entry.1 entry.2
        exact ih (Node.isOrderly_put orderly names rfl) names later
      · exact ⟨start, orderly⟩

/-- The root of a tree after a node was put at a path, in folders that are made as needed. A file is
    written through links, and a folder that is there stays. -/
def rootWith (t : FileTree) (path : String) (node : Node) : Node :=
  let names := (Path.ofText path).names
  let (parent, root) := makeFolders t.root (t.start path) names.dropLast
  let last := names.drop (names.length - 1)
  match node with
  | .folder _ => (makeFolders root parent last).2
  | .link target =>
    if ∀ name ∈ last, IsEntryName name then root.put (parent ++ last) (.link target) else root
  | .file bytes =>
    match writingPlace root linkLimit parent last with
    | .ok place => root.put place (.file bytes)
    | .error _ => root

theorem rootWith_orderly (t : FileTree) (path : String) (node : Node) :
    (t.rootWith path node).isOrderly = true := by
  have clean : ∀ name ∈ (Path.ofText path).names, Unslashed name := fun name member =>
    pathParts_unslashed path name (List.mem_filter.mp member).1
  obtain ⟨start, orderly⟩ := makeFolders_orderly t.orderly (t.start_names path)
    fun name member => clean name ((List.dropLast_sublist _).subset member)
  have last : ∀ name ∈ (Path.ofText path).names.drop ((Path.ofText path).names.length - 1),
      Unslashed name := fun name member => clean name (List.mem_of_mem_drop member)
  cases node with
  | folder entries => exact (makeFolders_orderly orderly start last).2
  | link target =>
    simp only [rootWith]
    split
    · rename_i entered
      exact Node.isOrderly_put orderly (List.forall_mem_append.mpr ⟨start, entered⟩) rfl
    · exact orderly
  | file bytes =>
    simp only [rootWith]
    split
    · rename_i place opened
      exact Node.isOrderly_put orderly (writingPlace_names start last opened) rfl
    · exact orderly

def add (t : FileTree) (path : String) (node : Node) : FileTree :=
  { t with
    root := t.rootWith path node
    sound := isSound_iff.mpr ⟨t.rootWith_orderly path node, t.here_names⟩ }

def build (here : Location) (entries : List (String × Node))
    (named : ∀ name ∈ here, IsEntryName name := by decide +kernel) : FileTree :=
  entries.foldl (fun t entry => t.add entry.1 entry.2) (empty here named)

end SourceTally.FileTree
