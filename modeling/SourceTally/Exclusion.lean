import SourceTally.Pattern.Reader
import SourceTally.Pattern.Search

/- Exclusions: paths in which a pattern is found are left out. -/
namespace SourceTally

structure Exclusion where
  pattern : String
  expr : Pattern.Expr
  deriving DecidableEq, Repr

namespace Exclusion

def bare (cs : List Char) : List Char :=
  if 2 ≤ cs.length && cs.head? = some '/' && cs.getLast? = some '/' then (cs.drop 1).dropLast
  else cs

def bareText (value : String) : String := String.ofList (bare value.toList)

def read (value : String) : Except Pattern.Fault Exclusion := do
  let pattern := bareText value
  return { pattern, expr := ← Pattern.read pattern }

def covers (e : Exclusion) (path : String) : Bool := Pattern.found e.expr path.toList

end Exclusion

end SourceTally
