import SourceTally.Exclusion
import SourceTally.FileTree.Resolve
import SourceTally.FileTree.Walk
import SourceTally.Note
import SourceTally.Wildcard.Expand

/- The files that inputs stand for. An input is a folder, a file or a path with wildcards; the files
   are real paths, each once, in the order in which they are met. -/
namespace SourceTally

structure Discovery where
  files : List Path := []
  notes : List Note := []

namespace Discovery

def consider (t : FileTree) (exclusions : List Exclusion) (d : Discovery) (path : Path) :
    Except Error Discovery := do
  let real ← t.resolve path
  if d.files.contains real then return d
  match exclusions.find? (·.covers real.text) with
  | some e => return { d with notes := d.notes ++ [.excluded real.text e.pattern] }
  | none => return { d with files := d.files ++ [real] }

def candidates (t : FileTree) (extra : List String) (input : String) : List Path × List Note :=
  let path := Path.ofText input
  if t.isFolder path.text then (t.walk extra path, [])
  else if t.isFile path.text then ([path], [])
  else
    let found := Text.sorted (Wildcard.expand t input)
    ((found.map Path.ofText).filter fun path => t.isFile path.text,
      if found.isEmpty then [.noMatch input] else [])

def expandInput (t : FileTree) (exclusions : List Exclusion) (extra : List String) (d : Discovery)
    (input : String) : Except Error Discovery :=
  let (paths, notes) := candidates t extra input
  paths.foldlM (consider t exclusions) { d with notes := d.notes ++ .searching input :: notes }

/-- The files for all inputs. Folders with the extra names are not entered. -/
def expand (t : FileTree) (exclusions : List Exclusion) (extra inputs : List String) :
    Except Error Discovery :=
  inputs.foldlM (expandInput t exclusions extra) {}

end Discovery

end SourceTally
