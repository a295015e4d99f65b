import SourceTally.Text.Split

/- Paths as texts and as lists of names. -/
namespace SourceTally

def pathParts (text : String) : List String := (Text.split '/' text.toList).map String.ofList

def Unslashed (part : String) : Prop := '/' ∉ part.toList

instance (part : String) : Decidable (Unslashed part) :=
  inferInstanceAs (Decidable ('/' ∉ part.toList))

theorem pathParts_unslashed (text : String) : ∀ part ∈ pathParts text, Unslashed part := by
  intro part member
  obtain ⟨cs, cut, same⟩ := List.mem_map.mp member
  rw [← same, Unslashed, String.toList_ofList]
  exact Text.not_mem_of_mem_split text.toList cs cut

def startsAtRoot (text : String) : Bool := text.toList.head? = some '/'

/-- Where a path starts. Exactly two slashes at its start are kept apart from one. -/
inductive Anchor where
  | relative
  | root
  | doubleRoot
  deriving DecidableEq, Repr

/-- A path in normal form: it has no empty names and no name that is a single dot. -/
structure Path where
  anchor : Anchor
  names : List String
  deriving DecidableEq, Repr

namespace Anchor

def ofChars : List Char → Anchor
  | '/' :: '/' :: '/' :: _ => root
  | '/' :: '/' :: _ => doubleRoot
  | '/' :: _ => root
  | _ => relative

def text : Anchor → String
  | relative => ""
  | root => "/"
  | doubleRoot => "//"

end Anchor

namespace Path

def isName (part : String) : Bool := part ≠ "" && part ≠ "."

def ofText (text : String) : Path where
  anchor := .ofChars text.toList
  names := (pathParts text).filter isName

def text (p : Path) : String :=
  if p.anchor = .relative && p.names.isEmpty then "."
  else p.anchor.text ++ "/".intercalate p.names

def child (p : Path) (name : String) : Path := { p with names := p.names ++ [name] }

def absolute (names : List String) : Path := ⟨.root, names⟩

end Path

end SourceTally
