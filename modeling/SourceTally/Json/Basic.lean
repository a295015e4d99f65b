import SourceTally.Value

/- JSON documents. The members of an object are in order. -/
namespace SourceTally

inductive Json where
  | null
  | bool (b : Bool)
  | number (n : Int)
  | decimal (digits : Int) (places : Nat)
  | string (s : String)
  | array (items : List Json)
  | object (members : List (String × Json))

namespace Json

def ofCounts (fields : List (String × Int)) : Json :=
  object (fields.map fun field => (field.1, number field.2))

mutual

def ofValue : Value → Json
  | .nothing => null
  | .bool b => bool b
  | .int n => number n
  | .decimal digits places => decimal digits places
  | .str s => string s
  | .list items => array (ofValues items)
  | .tuple items => array (ofValues items)
  | .mapping entries => object (ofEntries entries)
  | .parser p => string p.describe

def ofValues : List Value → List Json
  | [] => []
  | item :: rest => ofValue item :: ofValues rest

def ofEntries : List (String × Value) → List (String × Json)
  | [] => []
  | (name, value) :: rest => (name, ofValue value) :: ofEntries rest

end

end Json

end SourceTally
