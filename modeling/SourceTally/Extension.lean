import SourceTally.Text.Blank
import SourceTally.Text.LowerCase

/- File extensions. Only the text after the last dot counts, in lower case and without white space
   at its ends; an extension with a character that cannot stand in one is none. -/
namespace SourceTally.Extension

def disallowed : List Char := ['\x00', '\\', '/', ':', '*', '\'', '"', '<', '>', '|', '.']

def afterLastDot (cs : List Char) : List Char := (cs.reverse.takeWhile (· ≠ '.')).reverse

def lastDot? (cs : List Char) : Option Nat :=
  if cs.contains '.' then some (cs.length - (afterLastDot cs).length - 1) else none

/-- A dot stands after the first character and before the last one. Names that start with their only
    dot have no extension, nor have names that end with one. -/
def hasChars (cs : List Char) : Bool :=
  match lastDot? cs with
  | none => false
  | some place => 1 ≤ place && place + 1 < cs.length

def cleanChars (cs : List Char) : List Char :=
  let candidate := afterLastDot cs
  if candidate.any disallowed.contains then [] else Text.trim (Text.lower candidate)

def extractChars (cs : List Char) : List Char :=
  if hasChars cs then cleanChars (afterLastDot cs) else []

def has (name : String) : Bool := hasChars name.toList

def clean (text : String) : String := String.ofList (cleanChars text.toList)

def extract (name : String) : String := String.ofList (extractChars name.toList)

end SourceTally.Extension
