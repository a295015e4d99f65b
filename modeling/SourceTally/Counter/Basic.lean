import SourceTally.AliasTable
import SourceTally.Counter.Options
import SourceTally.Parser.Extensions

/- Counters: the parsers and aliases in force, the statistics of each file counted so far, and the
   totals over all of them. -/
namespace SourceTally

/-- The name of a file, which may be any value that can be a key. -/
structure FileName where
  value : Value

instance : BEq FileName := ⟨fun a b => a.value.key == b.value.key⟩

structure Counter where
  options : Options := {}
  parsers : List Parser := []
  aliases : AliasTable := []
  files : List (FileName × Statistics) := []
  totals : Statistics := {}

namespace Counter

def applyOptions (c : Counter) (options : Options.Request) (overrides : List (String × Value)) :
    Except Error Counter := do
  return { c with options := ← Options.ofRequest options overrides }

def reset (c : Counter) : Counter := { c with files := [], totals := {} }

def clearParsers (c : Counter) : Counter := { c with parsers := [] }

def clearAliases (c : Counter) : Counter := { c with aliases := [] }

def addAlias (c : Counter) (old new : Value) : Except Error (Option String × Counter) := do
  let (previous, aliases) ← c.aliases.add old new
  return (previous, { c with aliases })

def addAliases (c : Counter) (pairs : Value) :
    Except Error (List (String × String) × Counter) := do
  let (overwritten, aliases) ← c.aliases.addMany pairs
  return (overwritten, { c with aliases })

def removeAlias (c : Counter) (extension : Value) : Bool × Counter :=
  let (removed, aliases) := c.aliases.remove extension
  (removed, { c with aliases })

end Counter

end SourceTally
