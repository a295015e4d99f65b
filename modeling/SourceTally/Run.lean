import SourceTally.Catalogue
import SourceTally.Counter.Process
import SourceTally.Discovery
import SourceTally.FileTree.Read
import SourceTally.Report.Table

/- Runs: set up a counter, find the files, count them, and report. A file that cannot be counted is
   left out with the reason, and the run goes on. -/
namespace SourceTally

namespace Counter

def resolveNotes (c : Counter) (file : String) : List Note :=
  match c.fallback? with
  | none => []
  | some p =>
    let extension := Extension.extract file
    if extension = "" then [.fallbackForName file p.id]
    else
      let aliased := c.aliases.resolve (.str extension)
      if (c.parserForExtension? (.str aliased)).isSome then []
      else [.fallbackForExtension aliased p.id]

def processNotes (c : Counter) (file contents : String) : List Note :=
  if contents = "" then []
  else
    c.resolveNotes file ++
      (if Assoc.has c.files ⟨.str file⟩ then [.replaced file] else [])

structure Tally where
  counter : Counter
  /-- The files left out, with the reasons. -/
  skipped : List (String × String) := []
  notes : List Note := []

namespace Tally

def skip (tally : Tally) (path : Path) (e : Error) (note : String → String → Note) : Tally :=
  { tally with
    skipped := tally.skipped ++ [(path.text, e.message)]
    notes := tally.notes ++ [note path.text e.message] }

/-- Reads and counts one file. An error that concerns more than this file is given back. -/
def countFile (t : FileTree) (tally : Tally) (path : Path) : Option Error × Tally :=
  match t.readText path .utf8 .ignore with
  | .error e => (none, tally.skip path e .unread)
  | .ok contents =>
    let binary := if t.isBinary path FileTree.sampleSize then [Note.binary path.text] else []
    let tally :=
      { tally with
        notes :=
          tally.notes ++ binary ++ Note.parsing path.text ::
            tally.counter.processNotes path.text contents }
    match tally.counter.process (.str path.text) (.str contents) with
    | .ok (_, counter) => (none, { tally with counter })
    | .error e => if e.isReported then (none, tally.skip path e .skipped) else (some e, tally)

def countFiles (t : FileTree) (tally : Tally) : List Path → Option Error × Tally
  | [] => (none, tally)
  | path :: rest =>
    match tally.countFile t path with
    | (none, tally) => countFiles t tally rest
    | (some e, tally) => (some e, tally)

end Tally

def countPaths (c : Counter) (t : FileTree) (paths : List Path) :
    Except Error (List (String × String)) × Counter :=
  match Tally.countFiles t { counter := c } paths with
  | (none, tally) => (.ok tally.skipped, tally.counter)
  | (some e, tally) => (.error e, tally.counter)

end Counter

structure Configuration where
  inputs : List String := []
  exclusions : List Exclusion := []
  aliases : List (String × String) := []
  parserIds : Option (List String) := none
  defaultParser : Option String := none
  allowUnknowns : Bool := false
  dryRun : Bool := false

structure RunResult where
  files : List Path
  counter : Counter
  skipped : List (String × String) := []

namespace RunResult

def failed (r : RunResult) : Bool := !r.files.isEmpty && r.counter.files.isEmpty

def report (r : RunResult) : Report := .ofCounter r.counter r.skipped

end RunResult

namespace Configuration

def registration (config : Configuration) : Catalogue.Registration :=
  let given : Option String → Value
    | some id => .str id
    | none => .nothing
  let requested : Value :=
    match config.parserIds with
    | some ids => .list (ids.map .str)
    | none => .nothing
  Catalogue.register {} 0 requested (given config.defaultParser) (.bool config.allowUnknowns)

def counter (config : Configuration) : Except Error Counter := do
  let _ ← config.registration.added
  let aliases := config.aliases.map fun pair => (pair.1, Value.str pair.2)
  let (_, c) ← config.registration.counter.addAliases (.mapping aliases)
  return c

def count (config : Configuration) (t : FileTree) (c : Counter) (found : Discovery) :
    Except Error (RunResult × List Note) :=
  if config.dryRun then
    .ok ({ files := found.files, counter := c },
      found.notes ++ found.files.map fun path => .wouldCount path.text)
  else
    match Counter.Tally.countFiles t { counter := c, notes := found.notes } found.files with
    | (none, tally) =>
      .ok ({ files := found.files, counter := tally.counter, skipped := tally.skipped },
        tally.notes)
    | (some e, _) => .error e

def run (config : Configuration) (t : FileTree) : Except Error RunResult × List Note :=
  let before := config.registration.notes
  match config.counter with
  | .error e => (.error e, before)
  | .ok c =>
    match Discovery.expand t config.exclusions [] config.inputs with
    | .error e => (.error e, before)
    | .ok found =>
      match config.count t c found with
      | .error e => (.error e, before)
      | .ok (result, notes) => (.ok result, before ++ notes)

end Configuration

end SourceTally
