/- Bytes as text in UTF-8. Bytes are cut into pieces: each is one character, or bytes that begin no
   character, as many as could still have begun one. Surrogates, overlong forms and code points past
   the last one are no characters. -/
namespace SourceTally.Text

inductive ByteFault where
  | invalidStart
  | invalidContinuation
  | unexpectedEnd
  | notAscii
  deriving DecidableEq, Repr

structure Piece where
  bytes : List UInt8
  content : Except ByteFault Char

namespace Utf8

/-- What the first byte of a longer character tells: how many bytes follow, its own part of the code
    point, and the range of the byte after it. -/
structure Lead where
  more : Nat
  value : Nat
  low : UInt8
  high : UInt8

def lead? (b : UInt8) : Option Lead :=
  if b < 0xc2 then none
  else if b < 0xe0 then some ⟨1, b.toNat - 0xc0, 0x80, 0xbf⟩
  else if b = 0xe0 then some ⟨2, 0, 0xa0, 0xbf⟩
  else if b = 0xed then some ⟨2, 0xd, 0x80, 0x9f⟩
  else if b < 0xf0 then some ⟨2, b.toNat - 0xe0, 0x80, 0xbf⟩
  else if b = 0xf0 then some ⟨3, 0, 0x90, 0xbf⟩
  else if b < 0xf4 then some ⟨3, b.toNat - 0xf0, 0x80, 0xbf⟩
  else if b = 0xf4 then some ⟨3, 4, 0x80, 0x8f⟩
  else none

def gather : Nat → UInt8 → UInt8 → Nat → List UInt8 → List UInt8 → Piece × List UInt8
  | 0, _, _, value, seen, rest => (⟨seen, .ok (Char.ofNat value)⟩, rest)
  | _ + 1, _, _, _, seen, [] => (⟨seen, .error .unexpectedEnd⟩, [])
  | more + 1, low, high, value, seen, b :: rest =>
    if low ≤ b && b ≤ high then
      gather more 0x80 0xbf (value * 64 + (b.toNat - 0x80)) (seen ++ [b]) rest
    else (⟨seen, .error .invalidContinuation⟩, b :: rest)

def firstPiece (b : UInt8) (rest : List UInt8) : Piece × List UInt8 :=
  if b < 0x80 then (⟨[b], .ok (Char.ofNat b.toNat)⟩, rest)
  else
    match lead? b with
    | none => (⟨[b], .error .invalidStart⟩, rest)
    | some lead => gather lead.more lead.low lead.high lead.value [b] rest

theorem gather_rest_length (more : Nat) (low high : UInt8) (value : Nat) (seen rest : List UInt8) :
    (gather more low high value seen rest).2.length ≤ rest.length := by
  induction more generalizing low high value seen rest with
  | zero => simp [gather]
  | succ more ih =>
    cases rest with
    | nil => simp [gather]
    | cons b rest =>
      simp only [gather]
      split
      · exact Nat.le_succ_of_le (ih _ _ _ _ _)
      · exact Nat.le_refl _

theorem firstPiece_rest_length (b : UInt8) (rest : List UInt8) :
    (firstPiece b rest).2.length ≤ rest.length := by
  unfold firstPiece
  split
  · exact Nat.le_refl _
  · split
    · exact Nat.le_refl _
    · exact gather_rest_length _ _ _ _ _ _

def pieces : List UInt8 → List Piece
  | [] => []
  | b :: rest => (firstPiece b rest).1 :: pieces (firstPiece b rest).2
termination_by bytes => bytes.length
decreasing_by exact Nat.lt_succ_of_le (firstPiece_rest_length b rest)

def encode (text : String) : List UInt8 := text.toUTF8.toList

end Utf8

end SourceTally.Text
