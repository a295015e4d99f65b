/- Numbers in digits: hexadecimal ones with a least width, and decimal ones up to a limit. -/
namespace SourceTally.Text

def hexDigits (width n : Nat) : List Char :=
  let digits := Nat.toDigits 16 n
  List.replicate (width - digits.length) '0' ++ digits

def hexValue? (c : Char) : Option Nat :=
  if c.isDigit then some (c.toNat - '0'.toNat)
  else if 'a' ≤ c && c ≤ 'f' then some (c.toNat - 'a'.toNat + 10)
  else if 'A' ≤ c && c ≤ 'F' then some (c.toNat - 'A'.toNat + 10)
  else none

/-- Integers with more decimal digits than this are not written out. -/
def digitLimit : Nat := 4300

def digitCount (n : Int) : Nat := (Nat.toDigits 10 n.natAbs).length

def isWritable (n : Int) : Bool := digitCount n ≤ digitLimit

theorem digitCount_le_iff {n : Int} {count : Nat} (some : 0 < count) :
    digitCount n ≤ count ↔ n.natAbs < Nat.pow 10 count :=
  Nat.length_toDigits_le_iff (by decide) some

theorem lt_digitCount_pow {count : Nat} (some : 0 < count) :
    count < digitCount (Int.ofNat (Nat.pow 10 count)) := by
  rw [← Nat.not_le, digitCount_le_iff some, Int.natAbs_ofNat']
  exact Nat.lt_irrefl _

def overlong : Int := Int.ofNat (Nat.pow 10 digitLimit)

theorem digitLimit_lt_overlong : digitLimit < digitCount overlong :=
  lt_digitCount_pow (by decide)

theorem all_isWritable {numbers : List Int}
    (short : ∀ n ∈ numbers, digitCount n ≤ digitLimit) : numbers.all isWritable = true :=
  List.all_eq_true.mpr fun n member => decide_eq_true (short n member)

theorem not_all_isWritable {numbers : List Int} {n : Int} (member : n ∈ numbers)
    (long : digitLimit < digitCount n) : numbers.all isWritable = false :=
  List.all_eq_false.mpr ⟨n, member, by simpa [isWritable] using long⟩

end SourceTally.Text
