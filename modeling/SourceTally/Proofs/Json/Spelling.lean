import Mathlib.Data.List.Basic
import Mathlib.Data.List.TakeWhile
import SourceTally.Json.Printer
import SourceTally.Proofs.Json.Reader

/- How single characters and numbers are written, and that the reader takes them back: a character in
   quotes adds its own UTF-16 units to those read, whichever escape it is written with, and the digits
   of an integer are a word that stands for it. -/
namespace SourceTally.Json

section Units

theorem toNat_ranges (c : Char) :
    c.toNat < 0xd800 ∨ 0xe000 ≤ c.toNat ∧ c.toNat < 0x110000 := by
  rcases c.valid with low | ⟨behind, bound⟩
  · exact .inl low
  · exact .inr ⟨behind, bound⟩

theorem ofUnits_append (c : Char) (rest : List Nat) :
    ofUnits (units c ++ rest) = (ofUnits rest).map (c :: ·) := by
  have range := toNat_ranges c
  by_cases small : c.toNat < 0x10000
  · have single : isLow c.toNat = false ∧ isHigh c.toNat = false := by
      simp only [isLow, isHigh, Bool.and_eq_false_iff, decide_eq_false_iff_not]
      omega
    rw [units, if_pos small, List.singleton_append]
    cases rest with
    | nil => simp [ofUnits, single]
    | cons unit rest => simp [ofUnits, single]
  · have high : isLow (0xd800 + (c.toNat - 0x10000) / 0x400) = false ∧
        isHigh (0xd800 + (c.toNat - 0x10000) / 0x400) = true := by
      simp only [isLow, isHigh, Bool.and_eq_false_iff, Bool.and_eq_true, decide_eq_false_iff_not,
        decide_eq_true_eq]
      omega
    have low : isLow (0xdc00 + (c.toNat - 0x10000) % 0x400) = true := by
      simp only [isLow, Bool.and_eq_true, decide_eq_true_eq]
      omega
    have whole : 0x10000 + (0xd800 + (c.toNat - 0x10000) / 0x400 - 0xd800) * 0x400 +
        (0xdc00 + (c.toNat - 0x10000) % 0x400 - 0xdc00) = c.toNat := by
      omega
    simp only [units, small, if_false, List.cons_append, List.nil_append, ofUnits, high, low,
      Bool.false_eq_true, if_true, whole, Char.ofNat_toNat]

theorem ofUnits_flatMap (cs : List Char) : ofUnits (cs.flatMap units) = some cs := by
  induction cs with
  | nil => rfl
  | cons c cs ih => rw [List.flatMap_cons, ofUnits_append, ih, Option.map_some]

theorem unit_bound {c : Char} {unit : Nat} (member : unit ∈ units c) : unit < 0x10000 := by
  have range := toNat_ranges c
  unfold units at member
  split at member
  · rw [List.mem_singleton.mp member]
    assumption
  · simp only [List.mem_cons, List.not_mem_nil, or_false] at member
    omega

end Units

section Hexadecimal

theorem hexValue?_digitChar {d : Nat} (bound : d < 16) : Text.hexValue? d.digitChar = some d := by
  have all : ∀ d < 16, Text.hexValue? (Nat.digitChar d) = some d := by decide
  exact all d bound

theorem hexDigits_succ (width n : Nat) :
    Text.hexDigits (width + 2) n =
      Text.hexDigits (width + 1) (n / 16) ++ [(n % 16).digitChar] := by
  unfold Text.hexDigits
  by_cases single : n < 16
  · have none : n / 16 = 0 ∧ n % 16 = n := by omega
    simp [none, Nat.toDigits_of_lt_base single, List.replicate_succ']
  · rw [Nat.toDigits_of_base_le (by decide) (Nat.le_of_not_lt single)]
    simp

theorem hexDigits_one {n : Nat} (bound : n < 16) : Text.hexDigits 1 n = [n.digitChar] := by
  simp [Text.hexDigits, Nat.toDigits_of_lt_base bound]

theorem hexDigits_four {n : Nat} (bound : n < 0x10000) :
    Text.hexDigits 4 n = [(n / 4096).digitChar, (n / 256 % 16).digitChar, (n / 16 % 16).digitChar,
      (n % 16).digitChar] := by
  have first : n / 16 / 16 / 16 < 16 := by omega
  rw [hexDigits_succ, hexDigits_succ, hexDigits_succ, hexDigits_one first]
  simp [Nat.div_div_eq_div_mul]

end Hexadecimal

namespace Place

theorem tokens_silent {place next : Place} {c : Char} (silent : place.step c = some ([], next))
    (rest : List Char) : place.tokens (c :: rest) = next.tokens rest := by
  simp [tokens, silent]

theorem tokens_unitEscape {unit : Nat} (bound : unit < 0x10000) (read : List Nat)
    (rest : List Char) :
    (text read).tokens (unitEscape unit ++ rest) = (text (read ++ [unit])).tokens rest := by
  have digit : ∀ (value missing d : Nat) (rest : List Char), d < 16 →
      (code read value (missing + 2)).tokens (d.digitChar :: rest) =
        (code read (16 * value + d) (missing + 1)).tokens rest := by
    intro value missing d rest small
    exact tokens_silent (by simp [step, hexValue?_digitChar small]) rest
  have last : ∀ (value d : Nat), d < 16 →
      (code read value 1).tokens (d.digitChar :: rest) =
        (text (read ++ [16 * value + d])).tokens rest := by
    intro value d small
    exact tokens_silent (by simp [step, hexValue?_digitChar small]) rest
  have sum : 16 * (16 * (16 * (16 * 0 + unit / 4096) + unit / 256 % 16) + unit / 16 % 16) +
      unit % 16 = unit := by
    omega
  rw [unitEscape, hexDigits_four bound]
  simp only [List.cons_append, List.nil_append]
  calc (text read).tokens _
      = (escape read).tokens _ := tokens_silent (by simp [step]) _
    _ = (code read 0 4).tokens _ := tokens_silent (by simp [step]) _
    _ = (code read (16 * 0 + unit / 4096) 3).tokens _ := digit _ _ _ _ (by omega)
    _ = (code read (16 * (16 * 0 + unit / 4096) + unit / 256 % 16) 2).tokens _ :=
      digit _ _ _ _ (by omega)
    _ = (code read (16 * (16 * (16 * 0 + unit / 4096) + unit / 256 % 16) + unit / 16 % 16) 1).tokens
        _ := digit _ _ _ _ (by omega)
    _ = (text (read ++ [unit])).tokens rest := by rw [last _ _ (by omega), sum]

theorem tokens_codeEscape (c : Char) (read : List Nat) (rest : List Char) :
    (text read).tokens (codeEscape c ++ rest) = (text (read ++ units c)).tokens rest := by
  have bound : ∀ unit ∈ units c, unit < 0x10000 := fun unit => unit_bound
  unfold codeEscape
  unfold units at bound ⊢
  split
  · rename_i small
    exact tokens_unitEscape small read rest
  · rename_i large
    rw [if_neg large] at bound
    rw [List.append_assoc, tokens_unitEscape (bound _ (by simp)),
      tokens_unitEscape (bound _ (by simp)), List.append_assoc, List.singleton_append]

theorem tokens_escapedChar (c : Char) (read : List Nat) (rest : List Char) :
    (text read).tokens (escapedChar c ++ rest) = (text (read ++ units c)).tokens rest := by
  have short : ∀ {mark d : Char}, c = d → mark ≠ 'u' → escaped? mark = some d → d.toNat < 0x10000 →
      (text read).tokens ('\\' :: mark :: rest) = (text (read ++ units c)).tokens rest := by
    rintro mark d rfl other stands small
    have slash : (text read).step '\\' = some ([], escape read) := by simp [step]
    have named : (escape read).step mark = some ([], text (read ++ [c.toNat])) := by
      simp [step, other, stands]
    rw [tokens_silent slash, tokens_silent named, units, if_pos small]
  unfold escapedChar
  split
  next quote => exact short quote (by decide) rfl (by decide)
  next quote =>
  split
  next slash => exact short slash (by decide) rfl (by decide)
  next slash =>
  split
  next feed => exact short feed (by decide) rfl (by decide)
  split
  next back => exact short back (by decide) rfl (by decide)
  split
  next tab => exact short tab (by decide) rfl (by decide)
  split
  next backspace => exact short backspace (by decide) rfl (by decide)
  split
  next page => exact short page (by decide) rfl (by decide)
  split
  next printable =>
    simp only [Bool.and_eq_true, decide_eq_true_eq] at printable
    exact tokens_silent (by simp [step, quote, slash, Nat.not_lt.mpr printable.1]) rest
  · exact tokens_codeEscape c read rest

theorem tokens_escapedChars (cs : List Char) (read : List Nat) (rest : List Char) :
    (text read).tokens (cs.flatMap escapedChar ++ rest) =
      (text (read ++ cs.flatMap units)).tokens rest := by
  induction cs generalizing read with
  | nil => simp
  | cons c cs ih =>
    rw [List.flatMap_cons, List.append_assoc, tokens_escapedChar, ih, List.flatMap_cons,
      List.append_assoc]

theorem tokens_stringChars (s : String) (rest : List Char) :
    between.tokens (stringChars s ++ rest) = (between.tokens rest).map (.text s :: ·) := by
  have opened : between.step '"' = some ([], text []) := by simp [step, start, isSpace, mark?]
  have closed : (text (s.toList.flatMap units)).step '"' = some ([.text s], between) := by
    simp [step, ofUnits_flatMap]
  simp only [stringChars, List.cons_append, List.append_assoc, List.nil_append]
  rw [tokens_silent opened, tokens_escapedChars, List.nil_append, tokens, closed]
  rfl

end Place

section Numbers

theorem toString_toList (n : Int) :
    (toString n).toList =
      if 0 ≤ n then Nat.toDigits 10 n.natAbs else '-' :: Nat.toDigits 10 n.natAbs := by
  rw [Int.toString_eq_repr, Int.repr_eq_if]
  split
  · rw [Nat.toList_repr, show n.toNat = n.natAbs by omega]
  · rw [String.toList_append, Nat.toList_repr, show (-n).toNat = n.natAbs by omega]
    rfl

theorem toDigits_head {n : Nat} (zero : (Nat.toDigits 10 n).head? = some '0') : n = 0 := by
  induction n using Nat.strongRecOn with
  | ind n ih =>
    by_cases small : n < 10
    · rw [Nat.toDigits_of_lt_base small] at zero
      simpa using zero
    · rw [Nat.toDigits_of_base_le (by decide) (Nat.le_of_not_lt small),
        List.head?_append_of_ne_nil _ Nat.toDigits_ne_nil] at zero
      have none := ih (n / 10) (by omega) zero
      omega

theorem toDigits_digits (n : Nat) : ∀ c ∈ Nat.toDigits 10 n, c.isDigit = true :=
  fun _ member => Nat.isDigit_of_mem_toDigits (by decide) (by decide) member

theorem unsigned?_toDigits (sign : Int) (n : Nat) :
    unsigned? sign (Nat.toDigits 10 n) = some (number (sign * n)) := by
  have whole : (Nat.toDigits 10 n).takeWhile Char.isDigit = Nat.toDigits 10 n :=
    List.takeWhile_eq_self_iff.mpr (toDigits_digits n)
  have rest : (Nat.toDigits 10 n).dropWhile Char.isDigit = [] :=
    List.dropWhile_eq_nil_iff.mpr (toDigits_digits n)
  have proper : ((Nat.toDigits 10 n).head? = some '0' && Nat.toDigits 10 n ≠ ['0']) = false := by
    rw [Bool.and_eq_false_iff, decide_eq_false_iff_not, decide_eq_false_iff_not]
    by_cases zero : n = 0
    · simp [zero]
    · exact .inl (mt toDigits_head zero)
  simp only [unsigned?, whole, rest, proper, Nat.toDigits_ne_nil, decide_false, Bool.or_false,
    Bool.false_eq_true, if_false, Nat.ofDigitChars_ten_toDigits]

theorem word?_digit {d : Char} (digit : d.isDigit = true) (rest : List Char) :
    word? (d :: rest) = unsigned? 1 (d :: rest) := by
  have other : d ≠ 'n' ∧ d ≠ 't' ∧ d ≠ 'f' ∧ d ≠ '-' := by
    refine ⟨?_, ?_, ?_, ?_⟩ <;> rintro rfl <;> revert digit <;> decide
  simp [word?, other]

theorem word?_minus (rest : List Char) : word? ('-' :: rest) = unsigned? (-1) rest := by
  simp [word?]

theorem word?_toString (n : Int) : word? (toString n).toList = some (number n) := by
  rw [toString_toList]
  split
  · obtain ⟨d, rest, same⟩ := List.exists_cons_of_ne_nil (@Nat.toDigits_ne_nil n.natAbs 10)
    have digit : d.isDigit = true := toDigits_digits n.natAbs d (by simp [same])
    rw [same, word?_digit digit, ← same, unsigned?_toDigits, show 1 * (n.natAbs : Int) = n by omega]
  · rw [word?_minus, unsigned?_toDigits, show -1 * (n.natAbs : Int) = n by omega]

theorem isWordChar_of_isDigit {c : Char} (digit : c.isDigit = true) : isWordChar c = true := by
  have apart : ∀ d : Char, d.isDigit = false → c ≠ d := by
    rintro d none rfl
    rw [digit] at none
    cases none
  simp [isWordChar, isSpace, mark?, apart ' ' rfl, apart '\t' rfl, apart '\n' rfl, apart '\r' rfl,
    apart '[' rfl, apart ']' rfl, apart '\x7b' rfl, apart '\x7d' rfl, apart ',' rfl, apart ':' rfl,
    apart '"' rfl]

theorem toString_chars (n : Int) : ∀ c ∈ (toString n).toList, c = '-' ∨ c.isDigit = true := by
  intro c member
  rw [toString_toList] at member
  split at member
  · exact .inr (toDigits_digits _ c member)
  · rcases List.mem_cons.mp member with minus | digit
    · exact .inl minus
    · exact .inr (toDigits_digits _ c digit)

theorem toString_isWordChar (n : Int) : ∀ c ∈ (toString n).toList, isWordChar c = true := by
  intro c member
  rcases toString_chars n c member with rfl | digit
  · decide
  · exact isWordChar_of_isDigit digit

end Numbers

end SourceTally.Json
