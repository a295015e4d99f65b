import SourceTally.Text.Blank

/- The four classes of characters. White space wins over digits, digits over letters, and what is
   left is special. Digits and letters are those of ASCII. -/
namespace SourceTally

inductive CharClass where
  | whitespace
  | numerical
  | alphabetical
  | special
  deriving DecidableEq, Repr

namespace CharClass

def ofChar (c : Char) : CharClass :=
  if Text.isBlank c then whitespace
  else if c.isDigit then numerical
  else if c.isAlpha then alphabetical
  else special

/-- A text is classed by its first character, and the empty text is special. -/
def ofText (text : String) : CharClass :=
  match text.toList with
  | [] => special
  | c :: _ => ofChar c

def label : CharClass → String
  | whitespace => "whitespace"
  | numerical => "numerical"
  | alphabetical => "alphabetical"
  | special => "special"

def isAlphanumeric : CharClass → Bool
  | numerical => true
  | alphabetical => true
  | _ => false

end CharClass

end SourceTally
