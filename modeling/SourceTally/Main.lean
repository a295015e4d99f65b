import SourceTally.Program

/- The command line program. It copies the files that a run may need into a file tree, runs the program
   on the tree, and prints what came out. A file is copied when it is given as an input, or, when an
   input is a folder or a wildcard, when it is listed on standard input, one path a line. -/
namespace SourceTally.Main

def file? (path : String) : IO (Option (String × Node)) := do
  try
    return some (path, .file (← IO.FS.readBinFile path).toList)
  catch _ =>
    return none

partial def listedPaths (stream : IO.FS.Stream) (paths : List String) : IO (List String) := do
  let line ← stream.getLine
  if line.isEmpty then return paths.reverse
  else listedPaths stream (String.ofList (line.toList.filter (· ≠ '\n')) :: paths)

def parent (path : String) : String :=
  let path := Path.ofText path
  { path with names := path.names.dropLast }.text

def copy (a : CommandLine.Arguments) (here : Location)
    (named : ∀ name ∈ here, FileTree.IsEntryName name) : IO FileTree := do
  let given ← a.inputs.mapM file?
  let listed ←
    if given.all (·.isSome) then pure []
    else (← listedPaths (← IO.getStdin) []).mapM file?
  let outputFolder := a.output.toList.map fun path => (parent path, Node.folder [])
  return .build here (given.filterMap id ++ listed.filterMap id ++ outputFolder) named

def save (a : CommandLine.Arguments) (t : FileTree) : IO Unit := do
  match a.output.bind fun path => (t.bytes? path).map (path, ·) with
  | some (path, bytes) => IO.FS.writeBinFile path ⟨bytes.toArray⟩
  | none => pure ()

def run (words : List String) : IO UInt32 := do
  let path := Path.ofText s!"{← IO.currentDir}"
  let here := path.names.filter fun name => FileTree.IsEntryName name
  have named : ∀ name ∈ here, FileTree.IsEntryName name := fun _ member =>
    of_decide_eq_true (List.mem_filter.mp member).2
  let asked := (CommandLine.read words).toOption
  let t ← (asked.map (copy · here named)).getD (pure (.empty here named))
  match Program.run words t with
  | .error e =>
    IO.eprintln s!"{CommandLine.programName}: {e.message}"
    return 1
  | .ok outcome =>
    IO.print outcome.stdout
    IO.eprint outcome.stderr
    match asked with
    | some a => save a outcome.tree
    | none => pure ()
    return UInt32.ofNat outcome.status

end SourceTally.Main

def main (words : List String) : IO UInt32 := SourceTally.Main.run words
