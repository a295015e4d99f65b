import SourceTally.Assoc
import SourceTally.Extension
import SourceTally.Parser.Basic

/- Arguments whose type is not known beforehand. They are shown in messages, used as keys, asked for
   their items and taken as conditions. -/
namespace SourceTally

inductive Value where
  | nothing
  | bool (b : Bool)
  | int (n : Int)
  /-- A decimal fraction: its digits and how many of them stand after the point. -/
  | decimal (digits : Int) (places : Nat)
  | str (s : String)
  | list (items : List Value)
  | tuple (items : List Value)
  | mapping (entries : List (String × Value))
  | parser (p : Parser)

/-- The parts of a key, in order. Numbers of all types that are equal are one key. -/
inductive KeyPart where
  | nothing
  | number (digits : Int) (places : Nat)
  | str (s : String)
  | list (size : Nat)
  | tuple (size : Nat)
  | mapping (size : Nat)
  | parser (serial : Nat)
  deriving DecidableEq, Repr

namespace Value

instance : Inhabited Value := ⟨nothing⟩

def typeName : Value → String
  | nothing => "NoneType"
  | bool _ => "bool"
  | int _ => "int"
  | decimal _ _ => "float"
  | str _ => "str"
  | list _ => "list"
  | tuple _ => "tuple"
  | mapping _ => "dict"
  | parser p => p.scanner.label

def isTrue : Value → Bool
  | nothing => false
  | bool b => b
  | int n => n ≠ 0
  | decimal digits _ => digits ≠ 0
  | str s => s ≠ ""
  | list items => !items.isEmpty
  | tuple items => !items.isEmpty
  | mapping entries => !entries.isEmpty
  | parser _ => true

def decimalText (digits : Int) (places : Nat) : String :=
  let shown := Nat.toDigits 10 digits.natAbs
  let padded := List.replicate (places + 1 - shown.length) '0' ++ shown
  let cut := padded.length - places
  (if digits < 0 then "-" else "") ++
    String.ofList (padded.take cut) ++ "." ++ String.ofList (padded.drop cut)

mutual

def describe : Value → String
  | nothing => "None"
  | bool true => "True"
  | bool false => "False"
  | int n => toString n
  | decimal digits places => decimalText digits places
  | str s => Text.quoted s
  | list items => "[" ++ ", ".intercalate (describeAll items) ++ "]"
  | tuple [item] => "(" ++ describe item ++ ",)"
  | tuple items => "(" ++ ", ".intercalate (describeAll items) ++ ")"
  | mapping entries => "\x7b" ++ ", ".intercalate (describeEntries entries) ++ "\x7d"
  | parser p => p.describe

def describeAll : List Value → List String
  | [] => []
  | item :: rest => describe item :: describeAll rest

def describeEntries : List (String × Value) → List String
  | [] => []
  | (key, value) :: rest => (Text.quoted key ++ ": " ++ describe value) :: describeEntries rest

end

def reduceDecimal (digits : Int) : Nat → Int × Nat
  | 0 => (digits, 0)
  | places + 1 =>
    if digits % 10 = 0 then reduceDecimal (digits / 10) places else (digits, places + 1)

mutual

def key : Value → List KeyPart
  | nothing => [.nothing]
  | bool b => [.number (if b then 1 else 0) 0]
  | int n => [.number n 0]
  | decimal digits places =>
    [.number (reduceDecimal digits places).1 (reduceDecimal digits places).2]
  | str s => [.str s]
  | list items => .list items.length :: keyOfAll items
  | tuple items => .tuple items.length :: keyOfAll items
  | mapping entries => .mapping entries.length :: keyOfEntries entries
  | parser p => [.parser p.serial]

def keyOfAll : List Value → List KeyPart
  | [] => []
  | item :: rest => key item ++ keyOfAll rest

def keyOfEntries : List (String × Value) → List KeyPart
  | [] => []
  | (name, value) :: rest => .str name :: key value ++ keyOfEntries rest

end

mutual

def unkeyable? : Value → Option String
  | list _ => some "list"
  | mapping _ => some "dict"
  | tuple items => unkeyableIn? items
  | _ => none

def unkeyableIn? : List Value → Option String
  | [] => none
  | item :: rest =>
    match unkeyable? item with
    | some name => some name
    | none => unkeyableIn? rest

end

def items? : Value → Option (List Value)
  | str s => some (s.toList.map fun c => str (String.singleton c))
  | list items => some items
  | tuple items => some items
  | mapping entries => some (entries.map fun entry => str entry.1)
  | _ => none

def text? : Value → Option String
  | str s => some s
  | _ => none

def nonemptyText? : Value → Option String
  | str s => if s = "" then none else some s
  | _ => none

/-- A repeated name keeps its first place and takes its last value. -/
def ofEntries (entries : List (String × Value)) : Value := mapping (Assoc.ofList entries)

def hasExtension : Value → Bool
  | str s => Extension.has s
  | _ => false

def cleanExtension : Value → String
  | str s => Extension.clean s
  | _ => ""

def extractExtension : Value → String
  | str s => Extension.extract s
  | _ => ""

end Value

end SourceTally
