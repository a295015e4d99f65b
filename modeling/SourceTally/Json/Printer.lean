import SourceTally.Error
import SourceTally.Json.Basic

/- JSON as text: two blanks for each level, one item or member to a line, and ASCII only. Characters
   outside of ASCII are written as one or two escapes of a UTF-16 unit each. A document with an
   integer that has too many digits is not written at all. -/
namespace SourceTally.Json

def unitEscape (unit : Nat) : List Char := '\\' :: 'u' :: Text.hexDigits 4 unit

def codeEscape (c : Char) : List Char :=
  if c.toNat < 0x10000 then unitEscape c.toNat
  else
    let offset := c.toNat - 0x10000
    unitEscape (0xd800 + offset / 0x400) ++ unitEscape (0xdc00 + offset % 0x400)

def escapedChar (c : Char) : List Char :=
  if c = '"' then ['\\', '"']
  else if c = '\\' then ['\\', '\\']
  else if c = '\n' then ['\\', 'n']
  else if c = '\r' then ['\\', 'r']
  else if c = '\t' then ['\\', 't']
  else if c = '\x08' then ['\\', 'b']
  else if c = '\x0c' then ['\\', 'f']
  else if 0x20 ≤ c.toNat && c.toNat ≤ 0x7e then [c]
  else codeEscape c

def stringChars (s : String) : List Char := '"' :: s.toList.flatMap escapedChar ++ ['"']

def newLine (level : Nat) : List Char := '\n' :: List.replicate (2 * level) ' '

def separated (level : Nat) : List (List Char) → List Char
  | [] => []
  | [part] => part
  | part :: rest => part ++ ',' :: newLine level ++ separated level rest

def bracketed (opening closing : Char) (level : Nat) (parts : List (List Char)) : List Char :=
  if parts.isEmpty then [opening, closing]
  else
    opening :: newLine (level + 1) ++ separated (level + 1) parts ++ newLine level ++ [closing]

mutual

def chars (level : Nat) : Json → List Char
  | null => "null".toList
  | bool b => (if b then "true" else "false").toList
  | number n => (toString n).toList
  | decimal digits places => (Value.decimalText digits places).toList
  | string s => stringChars s
  | array items => bracketed '[' ']' level (itemChars (level + 1) items)
  | object members => bracketed '\x7b' '\x7d' level (memberChars (level + 1) members)

def itemChars (level : Nat) : List Json → List (List Char)
  | [] => []
  | item :: rest => chars level item :: itemChars level rest

def memberChars (level : Nat) : List (String × Json) → List (List Char)
  | [] => []
  | (name, value) :: rest =>
    (stringChars name ++ ':' :: ' ' :: chars level value) :: memberChars level rest

end

def text (document : Json) : String := String.ofList (chars 0 document)

mutual

def numbers : Json → List Int
  | number n => [n]
  | array items => itemNumbers items
  | object members => memberNumbers members
  | _ => []

def itemNumbers : List Json → List Int
  | [] => []
  | item :: rest => numbers item ++ itemNumbers rest

def memberNumbers : List (String × Json) → List Int
  | [] => []
  | (_, value) :: rest => numbers value ++ memberNumbers rest

end

def render (document : Json) : Except Error String :=
  if document.numbers.all Text.isWritable then .ok document.text else .error .tooManyDigits

end SourceTally.Json
