import SourceTally.Assoc
import SourceTally.Path

/- The nodes of file trees: files, symbolic links and folders. In an orderly node no folder has two
   entries of one name, and each name can be a part of a path. -/
namespace SourceTally

inductive Node where
  | file (bytes : List UInt8)
  | link (target : String)
  | folder (entries : List (String × Node))

abbrev Location := List String

namespace FileTree

/-- Neither nothing, nor a dot, nor two dots: a part that names an entry. -/
def IsStep (part : String) : Prop := part ≠ "" ∧ part ≠ "." ∧ part ≠ ".."

instance (part : String) : Decidable (IsStep part) :=
  inferInstanceAs (Decidable (part ≠ "" ∧ part ≠ "." ∧ part ≠ ".."))

theorem isStep_iff {part : String} :
    IsStep part ↔ ¬(decide (part = "") || decide (part = ".")) = true ∧ ¬part = ".." := by
  simp [IsStep, and_assoc]

def IsEntryName (name : String) : Prop := IsStep name ∧ Unslashed name

instance (name : String) : Decidable (IsEntryName name) :=
  inferInstanceAs (Decidable (IsStep name ∧ Unslashed name))

end FileTree

namespace Node

instance : Inhabited Node := ⟨folder []⟩

def at? (n : Node) : Location → Option Node
  | [] => some n
  | name :: rest =>
    match n with
    | folder entries => (Assoc.get? entries name).bind (·.at? rest)
    | _ => none

/-- Puts a node at a place. Folders on the way are made as needed, and nothing is put below what is
    not a folder. -/
def put (n : Node) : Location → Node → Node
  | [], new => new
  | name :: rest, new =>
    match n with
    | folder entries =>
      folder (Assoc.insert entries name (((Assoc.get? entries name).getD (folder [])).put rest new))
    | other => other

def isFolder : Node → Bool
  | folder _ => true
  | _ => false

mutual

def depth : Node → Nat
  | folder entries => depthOfEntries entries + 1
  | _ => 0

def depthOfEntries : List (String × Node) → Nat
  | [] => 0
  | (_, n) :: rest => max n.depth (depthOfEntries rest)

end

mutual

def linkCount : Node → Nat
  | folder entries => linkCountOfEntries entries
  | link _ => 1
  | file _ => 0

def linkCountOfEntries : List (String × Node) → Nat
  | [] => 0
  | (_, n) :: rest => n.linkCount + linkCountOfEntries rest

end

mutual

/-- In each folder the names are distinct, and such that entries can have. -/
def isOrderly : Node → Bool
  | folder entries => decide (Assoc.Distinct entries) && allOrderly entries
  | _ => true

def allOrderly : List (String × Node) → Bool
  | [] => true
  | (name, n) :: rest => decide (FileTree.IsEntryName name) && n.isOrderly && allOrderly rest

end

theorem allOrderly_iff {entries : List (String × Node)} :
    allOrderly entries = true ↔
      ∀ entry ∈ entries, FileTree.IsEntryName entry.1 ∧ entry.2.isOrderly = true := by
  induction entries with
  | nil => simp [allOrderly]
  | cons entry rest ih =>
    obtain ⟨name, n⟩ := entry
    rw [allOrderly, Bool.and_eq_true, Bool.and_eq_true, decide_eq_true_iff, ih,
      List.forall_mem_cons]

theorem isOrderly_folder_iff {entries : List (String × Node)} :
    (folder entries).isOrderly = true ↔ Assoc.Distinct entries ∧
      ∀ entry ∈ entries, FileTree.IsEntryName entry.1 ∧ entry.2.isOrderly = true := by
  rw [isOrderly, Bool.and_eq_true, decide_eq_true_iff, allOrderly_iff]

theorem isOrderly_of_get? {entries : List (String × Node)} {name : String} {n : Node}
    (orderly : (folder entries).isOrderly = true) (found : Assoc.get? entries name = some n) :
    n.isOrderly = true := by
  obtain ⟨entry, listed, same⟩ := Option.map_eq_some_iff.mp found
  rw [← same]
  exact ((isOrderly_folder_iff.mp orderly).2 entry (List.mem_of_find?_eq_some listed)).2

theorem isOrderly_at? {n m : Node} {place : Location} (orderly : n.isOrderly = true)
    (there : n.at? place = some m) : m.isOrderly = true := by
  induction place generalizing n with
  | nil => exact Option.some.inj there ▸ orderly
  | cons name rest ih =>
    cases n with
    | file bytes => cases there
    | link target => cases there
    | folder entries =>
      obtain ⟨child, found, below⟩ := Option.bind_eq_some_iff.mp there
      exact ih (isOrderly_of_get? orderly found) below

theorem isOrderly_put {n new : Node} {place : Location} (orderly : n.isOrderly = true)
    (names : ∀ name ∈ place, FileTree.IsEntryName name) (added : new.isOrderly = true) :
    (n.put place new).isOrderly = true := by
  induction place generalizing n with
  | nil => exact added
  | cons name rest ih =>
    obtain ⟨first, later⟩ := List.forall_mem_cons.mp names
    cases n with
    | file bytes => exact orderly
    | link target => exact orderly
    | folder entries =>
      obtain ⟨distinct, each⟩ := isOrderly_folder_iff.mp orderly
      have child : ((Assoc.get? entries name).getD (folder [])).isOrderly = true := by
        cases found : Assoc.get? entries name with
        | none => rfl
        | some m => exact isOrderly_of_get? orderly found
      refine isOrderly_folder_iff.mpr ⟨Assoc.distinct_insert distinct _ _, ?_⟩
      exact Assoc.forall_insert (Q := fun m : Node => m.isOrderly = true) each ⟨first, ih child later⟩

end Node

end SourceTally
