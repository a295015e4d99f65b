/- Why a path leads nowhere. -/
namespace SourceTally.FileTree

inductive Fault where
  | missing
  | notFolder
  | isFolder
  | tooManyLinks
  deriving DecidableEq, Repr

namespace Fault

def code : Fault → Nat
  | missing => 2
  | notFolder => 20
  | isFolder => 21
  | tooManyLinks => 40

def message : Fault → String
  | missing => "No such file or directory"
  | notFolder => "Not a directory"
  | isFolder => "Is a directory"
  | tooManyLinks => "Too many levels of symbolic links"

end Fault

end SourceTally.FileTree
