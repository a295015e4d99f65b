/- Texts in the order of their code points. -/
namespace SourceTally.Text

def notAfter (a b : String) : Bool := !decide (b < a)

def sorted (texts : List String) : List String := texts.mergeSort notAfter

def sortedByFirst {α : Type} (pairs : List (String × α)) : List (String × α) :=
  pairs.mergeSort fun a b => notAfter a.1 b.1

end SourceTally.Text
