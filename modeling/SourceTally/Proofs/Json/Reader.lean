import SourceTally.Json.Basic
import SourceTally.Text.Digits

/- Reading of JSON texts, by the rules of the standard and whoever wrote them. A text is first cut into
   tokens: the six marks, texts in quotes, and words, which are the numbers and the three names; white
   space may stand between any two of them. The tokens are then put together from left to right, with
   the arrays and objects that are still open on a stack. -/
namespace SourceTally.Json

inductive Token where
  | openArray
  | closeArray
  | openObject
  | closeObject
  | comma
  | colon
  | text (s : String)
  | word (value : Json)

def isSpace (c : Char) : Bool := c = ' ' || c = '\t' || c = '\n' || c = '\r'

def mark? (c : Char) : Option Token :=
  if c = '[' then some .openArray
  else if c = ']' then some .closeArray
  else if c = '\x7b' then some .openObject
  else if c = '\x7d' then some .closeObject
  else if c = ',' then some .comma
  else if c = ':' then some .colon
  else none

def isWordChar (c : Char) : Bool := !isSpace c && (mark? c).isNone && c ≠ '"'

section Words

def natural? (cs : List Char) : Option Nat :=
  if cs ≠ [] && cs.all Char.isDigit then some (Nat.ofDigitChars 10 cs 0) else none

def exponent? : List Char → Option Int
  | [] => some 0
  | mark :: rest =>
    if mark = 'e' || mark = 'E' then
      match rest with
      | '-' :: digits => (natural? digits).map fun n => -(n : Int)
      | '+' :: digits => (natural? digits).map fun n => (n : Int)
      | digits => (natural? digits).map fun n => (n : Int)
    else none

/-- A decimal fraction with its point moved to the right by the exponent, at least one place before
    its end. -/
def scaled (digits : Int) (places : Nat) (exponent : Int) : Json :=
  if exponent < places then decimal digits (places - exponent).toNat
  else decimal (digits * Int.pow 10 (exponent - places + 1).toNat) 1

def unsigned? (sign : Int) (cs : List Char) : Option Json :=
  let whole := cs.takeWhile Char.isDigit
  let rest := cs.dropWhile Char.isDigit
  if whole = [] || whole.head? = some '0' && whole ≠ ['0'] then none
  else
    match rest with
    | [] => some (number (sign * Nat.ofDigitChars 10 whole 0))
    | '.' :: rest =>
      let fraction := rest.takeWhile Char.isDigit
      if fraction = [] then none
      else
        (exponent? (rest.dropWhile Char.isDigit)).map
          (scaled (sign * Nat.ofDigitChars 10 (whole ++ fraction) 0) fraction.length)
    | rest => (exponent? rest).map (scaled (sign * Nat.ofDigitChars 10 whole 0) 0)

def word? (cs : List Char) : Option Json :=
  if cs = ['n', 'u', 'l', 'l'] then some null
  else if cs = ['t', 'r', 'u', 'e'] then some (bool true)
  else if cs = ['f', 'a', 'l', 's', 'e'] then some (bool false)
  else
    match cs with
    | '-' :: rest => unsigned? (-1) rest
    | _ => unsigned? 1 cs

end Words

section Units

def units (c : Char) : List Nat :=
  if c.toNat < 0x10000 then [c.toNat]
  else [0xd800 + (c.toNat - 0x10000) / 0x400, 0xdc00 + (c.toNat - 0x10000) % 0x400]

def isHigh (unit : Nat) : Bool := 0xd800 ≤ unit && unit < 0xdc00

def isLow (unit : Nat) : Bool := 0xdc00 ≤ unit && unit < 0xe000

def ofUnits : List Nat → Option (List Char)
  | [] => some []
  | unit :: rest =>
    if isLow unit then none
    else if isHigh unit then
      match rest with
      | [] => none
      | other :: rest =>
        if isLow other then
          (ofUnits rest).map
            (Char.ofNat (0x10000 + (unit - 0xd800) * 0x400 + (other - 0xdc00)) :: ·)
        else none
    else (ofUnits rest).map (Char.ofNat unit :: ·)

end Units

def escaped? (c : Char) : Option Char :=
  if c = '"' || c = '\\' || c = '/' then some c
  else if c = 'b' then some '\x08'
  else if c = 'f' then some '\x0c'
  else if c = 'n' then some '\n'
  else if c = 'r' then some '\r'
  else if c = 't' then some '\t'
  else none

/-- Where the reader is: between tokens, in a word, or in a text of which it has the units so far,
    perhaps after a backslash or within the four digits of a unit. -/
inductive Place where
  | between
  | word (read : List Char)
  | text (read : List Nat)
  | escape (read : List Nat)
  | code (read : List Nat) (value : Nat) (missing : Nat)

namespace Place

def start (c : Char) : List Token × Place :=
  if isSpace c then ([], between)
  else
    match mark? c with
    | some token => ([token], between)
    | none => if c = '"' then ([], text []) else ([], word [c])

def step : Place → Char → Option (List Token × Place)
  | between, c => some (start c)
  | word read, c =>
    if isWordChar c then some ([], word (read ++ [c]))
    else (word? read).map fun value => (.word value :: (start c).1, (start c).2)
  | text read, c =>
    if c = '"' then (ofUnits read).map fun cs => ([.text (String.ofList cs)], between)
    else if c = '\\' then some ([], escape read)
    else if c.toNat < 0x20 then none
    else some ([], text (read ++ units c))
  | escape read, c =>
    if c = 'u' then some ([], code read 0 4)
    else (escaped? c).map fun d => ([], text (read ++ [d.toNat]))
  | code read value missing, c =>
    (Text.hexValue? c).map fun digit =>
      if missing = 1 then ([], text (read ++ [16 * value + digit]))
      else ([], code read (16 * value + digit) (missing - 1))

def finish : Place → Option (List Token)
  | between => some []
  | word read => (word? read).map fun value => [.word value]
  | _ => none

def tokens (place : Place) : List Char → Option (List Token)
  | [] => place.finish
  | c :: rest => (place.step c).bind fun next => (tokens next.2 rest).map (next.1 ++ ·)

end Place

inductive Frame where
  | array (items : List Json)
  | object (members : List (String × Json)) (name : String)

/-- What may come next. The first item or member of an array or object may be missing. -/
inductive State where
  | value (outer : List Frame)
  | firstItem (outer : List Frame)
  | firstName (outer : List Frame)
  | name (members : List (String × Json)) (outer : List Frame)
  | colon (members : List (String × Json)) (name : String) (outer : List Frame)
  | complete (document : Json) (outer : List Frame)

namespace State

def begin (outer : List Frame) : Token → Option State
  | .word document => some (complete document outer)
  | .text s => some (complete (.string s) outer)
  | .openArray => some (firstItem outer)
  | .openObject => some (firstName outer)
  | _ => none

def step : State → Token → Option State
  | value outer, token => begin outer token
  | firstItem outer, .closeArray => some (complete (.array []) outer)
  | firstItem outer, token => begin (.array [] :: outer) token
  | firstName outer, .closeObject => some (complete (.object []) outer)
  | firstName outer, .text s => some (colon [] s outer)
  | name members outer, .text s => some (colon members s outer)
  | colon members s outer, .colon => some (value (.object members s :: outer))
  | complete document (.array items :: outer), .comma =>
    some (value (.array (items ++ [document]) :: outer))
  | complete document (.array items :: outer), .closeArray =>
    some (complete (.array (items ++ [document])) outer)
  | complete document (.object members s :: outer), .comma =>
    some (name (members ++ [(s, document)]) outer)
  | complete document (.object members s :: outer), .closeObject =>
    some (complete (.object (members ++ [(s, document)])) outer)
  | _, _ => none

def run (state : State) (tokens : List Token) : Option State := tokens.foldlM step state

end State

def ofTokens (tokens : List Token) : Option Json :=
  match (State.value []).run tokens with
  | some (.complete document []) => some document
  | _ => none

def read (text : String) : Option Json := (Place.between.tokens text.toList).bind ofTokens

end SourceTally.Json
