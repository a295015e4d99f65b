import SourceTally.Text.Quoted
import SourceTally.Text.Utf8

/- The encodings that a file can be read in, and what is done with bytes that are not text. -/
namespace SourceTally.Text

inductive Encoding where
  | utf8
  | latin1
  | ascii
  deriving DecidableEq, Repr

/-- Bytes that are no text are dropped, become one replacement character for each piece, or make the
    text unreadable. -/
inductive Policy where
  | ignore
  | replace
  | strict
  deriving DecidableEq, Repr

structure Undecodable where
  encoding : Encoding
  start : Nat
  bytes : List UInt8
  fault : ByteFault
  deriving DecidableEq, Repr

namespace Encoding

def label : Encoding → String
  | utf8 => "utf-8"
  | latin1 => "latin-1"
  | ascii => "ascii"

def pieces : Encoding → List UInt8 → List Piece
  | utf8, bytes => Utf8.pieces bytes
  | latin1, bytes => bytes.map fun b => ⟨[b], .ok (Char.ofNat b.toNat)⟩
  | ascii, bytes => bytes.map fun b =>
    ⟨[b], if b < 0x80 then .ok (Char.ofNat b.toNat) else .error .notAscii⟩

def replacement : Char := '\ufffd'

def readPieces (encoding : Encoding) (policy : Policy) :
    Nat → List Piece → Except Undecodable (List Char)
  | _, [] => .ok []
  | start, piece :: rest => do
    let text ←
      match piece.content, policy with
      | .ok c, _ => .ok [c]
      | .error _, .ignore => .ok []
      | .error _, .replace => .ok [replacement]
      | .error fault, .strict => .error ⟨encoding, start, piece.bytes, fault⟩
    return text ++ (← readPieces encoding policy (start + piece.bytes.length) rest)

def decode (encoding : Encoding) (policy : Policy) (bytes : List UInt8) :
    Except Undecodable (List Char) :=
  readPieces encoding policy 0 (encoding.pieces bytes)

end Encoding

def ByteFault.message : ByteFault → String
  | invalidStart => "invalid start byte"
  | invalidContinuation => "invalid continuation byte"
  | unexpectedEnd => "unexpected end of data"
  | notAscii => "ordinal not in range(128)"

def Undecodable.place (u : Undecodable) : String :=
  match u.bytes with
  | [b] => s!"byte 0x{String.ofList (hexDigits 2 b.toNat)} in position {u.start}"
  | _ => s!"bytes in position {u.start}-{u.start + u.bytes.length - 1}"

def Undecodable.message (u : Undecodable) : String :=
  s!"'{u.encoding.label}' codec can't decode {u.place}: {u.fault.message}"

end SourceTally.Text
