import SourceTally.CommandLine.Arguments
import SourceTally.FileTree.Build

/- The whole program: from a command line and a file tree to what is printed, the exit status and the
   file tree afterwards. -/
namespace SourceTally

structure Outcome where
  status : Nat := 0
  stdout : String := ""
  stderr : String := ""
  tree : FileTree

namespace Program

def idLines : String :=
  String.join (Catalogue.scanners.map fun s => s!"{s.defaultId}\t{s.defaultName}\n")

def noteLines (debug : Bool) (notes : List Note) : String :=
  String.join ((notes.filter fun note => debug || note.isPlain).map (·.render ++ "\n"))

def stopped (t : FileTree) : CommandLine.Stop → Outcome
  | .help => { stdout := CommandLine.helpText, tree := t }
  | .version => { stdout := CommandLine.versionText, tree := t }
  | stop => { status := 2, stderr := CommandLine.errorText stop.message, tree := t }

def deliver (t : FileTree) (output : Option String) (text : String) :
    Except Error (String × FileTree) :=
  match output.getD "" with
  | "" => .ok (text ++ "\n", t)
  | path =>
    match t.write path (Text.Utf8.encode text) with
    | .ok t => .ok ("", t)
    | .error fault => .error (.notOpened fault path)

def count (a : CommandLine.Arguments) (t : FileTree) : Except Error Outcome := do
  let (result, notes) := a.configuration.run t
  let shown := noteLines a.debug notes
  match result with
  | .error e =>
    if e.isReported then
      return { status := 1, stderr := shown ++ s!"{CommandLine.programName}: {e.message}\n", tree := t }
    else throw e
  | .ok r =>
    let text ← r.report.render a.json
    let (stdout, tree) ← deliver t a.output text
    return { status := if r.failed then 1 else 0, stdout, stderr := shown, tree }

/-- Runs the program on a command line. Errors that it does not report are given back. -/
def run (words : List String) (t : FileTree) : Except Error Outcome :=
  match CommandLine.read words with
  | .error stop => .ok (stopped t stop)
  | .ok a =>
    if a.listIds then .ok { stdout := idLines, tree := t }
    else if a.inputs.isEmpty then .ok (stopped t .noInputs)
    else count a t

end Program

end SourceTally
