import SourceTally.FileTree.Fault
import SourceTally.FileTree.Node

/- File trees: folders, files and symbolic links below one root, with a working folder. -/
namespace SourceTally

/-- A file system can hold the nodes, and the names lead from its root to a place. -/
def FileTree.isSound (root : Node) (here : Location) : Bool :=
  root.isOrderly && here.all fun name => FileTree.IsEntryName name

structure FileTree where
  root : Node
  /-- The working folder, at which relative paths start. -/
  here : Location
  sound : FileTree.isSound root here = true := by decide +kernel

namespace FileTree

theorem isSound_iff {root : Node} {here : Location} :
    isSound root here = true ↔ root.isOrderly = true ∧ ∀ name ∈ here, IsEntryName name := by
  simp [isSound]

theorem orderly (t : FileTree) : t.root.isOrderly = true := (isSound_iff.mp t.sound).1

theorem here_names (t : FileTree) : ∀ name ∈ t.here, IsEntryName name :=
  (isSound_iff.mp t.sound).2

def linkLimit : Nat := 40

/-- Goes from a place along the parts of a path, as far as the last of them. A link at the end is
    followed only when asked for. -/
def go (root : Node) (followLast : Bool) (links : Nat) (place : Location) (parts : List String) :
    Except Fault (Location × Node) :=
  match parts, root.at? place with
  | _, none => .error .missing
  | [], some n => .ok (place, n)
  | part :: rest, some (.folder entries) =>
    if part = "" || part = "." then go root followLast links place rest
    else if part = ".." then go root followLast links place.dropLast rest
    else
      match Assoc.get? entries part, links with
      | none, _ => .error .missing
      | some (.link target), links =>
        if rest.isEmpty && !followLast then .ok (place ++ [part], .link target)
        else
          match links with
          | 0 => .error .tooManyLinks
          | links + 1 =>
            go root followLast links (if startsAtRoot target then [] else place)
              (pathParts target ++ rest)
      | some _, links => go root followLast links (place ++ [part]) rest
  | _ :: _, some _ => .error .notFolder
termination_by (links, parts.length)

theorem names_concat {place : Location} {part : String} (names : ∀ name ∈ place, IsEntryName name)
    (step : IsStep part) (clean : Unslashed part) : ∀ name ∈ place ++ [part], IsEntryName name :=
  List.forall_mem_append.mpr ⟨names, List.forall_mem_singleton.mpr ⟨step, clean⟩⟩

theorem names_up {place : Location} (names : ∀ name ∈ place, IsEntryName name) :
    ∀ name ∈ place.dropLast, IsEntryName name :=
  fun name member => names name ((List.dropLast_sublist place).subset member)

theorem names_origin {place : Location} (names : ∀ name ∈ place, IsEntryName name)
    (path : String) : ∀ name ∈ if startsAtRoot path then [] else place, IsEntryName name := by
  split
  · exact List.forall_mem_nil _
  · exact names

theorem go_names {root : Node} {followLast : Bool} {links : Nat} {place last : Location}
    {parts : List String} {n : Node} (names : ∀ name ∈ place, IsEntryName name)
    (clean : ∀ part ∈ parts, Unslashed part)
    (reached : go root followLast links place parts = .ok (last, n)) :
    ∀ name ∈ last, IsEntryName name := by
  fun_induction go root followLast links place parts with
  | case1 => cases reached
  | case2 =>
    cases reached
    exact names
  | case3 links place part rest entries folder blank ih =>
    exact ih names (List.forall_mem_cons.mp clean).2 reached
  | case4 links place rest entries folder named ih =>
    exact ih (names_up names) (List.forall_mem_cons.mp clean).2 reached
  | case5 => cases reached
  | case6 place part rest entries folder named lower target links found stops =>
    cases reached
    exact names_concat names (isStep_iff.mpr ⟨named, lower⟩) (List.forall_mem_cons.mp clean).1
  | case7 => cases reached
  | case8 place part rest entries folder named lower target found goes links ih =>
    have onward := List.forall_mem_append.mpr
      ⟨pathParts_unslashed target, (List.forall_mem_cons.mp clean).2⟩
    exact ih (names_origin names target) onward reached
  | case9 place part rest entries folder named lower n links solid found ih =>
    obtain ⟨first, later⟩ := List.forall_mem_cons.mp clean
    exact ih (names_concat names (isStep_iff.mpr ⟨named, lower⟩) first) later reached
  | case10 => cases reached

def start (t : FileTree) (path : String) : Location := if startsAtRoot path then [] else t.here

theorem start_names (t : FileTree) (path : String) : ∀ name ∈ t.start path, IsEntryName name :=
  names_origin t.here_names path

def findWith (t : FileTree) (followLast : Bool) (path : String) :
    Except Fault (Location × Node) :=
  if path = "" then .error .missing
  else go t.root followLast linkLimit (t.start path) (pathParts path)

def find (t : FileTree) (path : String) : Except Fault (Location × Node) := t.findWith true path

def hasEntry (t : FileTree) (path : String) : Bool := (t.findWith false path).isOk

def isFolder (t : FileTree) (path : String) : Bool :=
  match t.find path with
  | .ok (_, .folder _) => true
  | _ => false

def isFile (t : FileTree) (path : String) : Bool :=
  match t.find path with
  | .ok (_, .file _) => true
  | _ => false

def entries (t : FileTree) (path : String) : List (String × Node) :=
  match t.find path with
  | .ok (_, .folder entries) => entries
  | _ => []

def bytes? (t : FileTree) (path : String) : Option (List UInt8) :=
  match t.find path with
  | .ok (_, .file bytes) => some bytes
  | _ => none

end FileTree

end SourceTally
