import SourceTally.Error

/- Aliases from one extension to another. One alias is followed and no second, so chains and cycles
   are harmless. -/
namespace SourceTally

abbrev AliasTable := List (String × String)

namespace AliasTable

def cleanPair (old new : Value) : Except Error (String × String) :=
  let first := old.cleanExtension
  let second := new.cleanExtension
  if first = "" && second = "" then .error (.invalidAlias old new)
  else if first = "" then .error (.invalidAliasSource old)
  else if second = "" then .error (.invalidAliasTarget new)
  else .ok (first, second)

def cleanEntry (entry : Value) : Except Error (String × String) :=
  match entry with
  | .list [old, new] => cleanPair old new
  | .tuple [old, new] => cleanPair old new
  | _ => .error (.notAliasPair entry)

def cleanPairs (pairs : Value) : Except Error (List (String × String)) :=
  match pairs with
  | .mapping entries => entries.mapM fun entry => cleanPair (.str entry.1) entry.2
  | value =>
    match value.items? with
    | some items => items.mapM cleanEntry
    | none => .error (.notIterable value.typeName)

def put (table : AliasTable) (pair : String × String) : Option String × AliasTable :=
  (Assoc.get? table pair.1, Assoc.insert table pair.1 pair.2)

def putAll (table : AliasTable) : List (String × String) → List (String × String) × AliasTable
  | [] => ([], table)
  | pair :: rest =>
    let (previous, table) := table.put pair
    let (overwritten, table) := putAll table rest
    match previous with
    | some target => ((pair.1, target) :: overwritten, table)
    | none => (overwritten, table)

def add (table : AliasTable) (old new : Value) : Except Error (Option String × AliasTable) := do
  return table.put (← cleanPair old new)

/-- Every pair is checked before any is written. -/
def addMany (table : AliasTable) (pairs : Value) :
    Except Error (List (String × String) × AliasTable) := do
  return table.putAll (← cleanPairs pairs)

def make (pairs : Value) : Except Error AliasTable :=
  if pairs.isTrue then do return (← addMany [] pairs).2 else .ok []

def contains (table : AliasTable) (extension : Value) : Bool :=
  Assoc.has table extension.cleanExtension

def get? (table : AliasTable) (extension : Value) : Option String :=
  Assoc.get? table extension.cleanExtension

def remove (table : AliasTable) (extension : Value) : Bool × AliasTable :=
  if table.contains extension then (true, Assoc.erase table extension.cleanExtension)
  else (false, table)

def resolve (table : AliasTable) (extension : Value) : String :=
  (table.get? extension).getD extension.cleanExtension

end AliasTable

end SourceTally
