/- Inclusive ranges of code points, the form in which character classes are tabulated. -/
namespace SourceTally.Text

abbrev CodeRange := Nat × Nat

def CodeRange.contains (r : CodeRange) (c : Char) : Bool := r.1 ≤ c.toNat && c.toNat ≤ r.2

end SourceTally.Text
