import SourceTally.Error
import SourceTally.FileTree.Basic

/- Reading files. A file with a zero byte near its start is binary and is read as the empty text. -/
namespace SourceTally.FileTree

def sampleSize : Int := 1024

/-- The first bytes, or all of them when the size is negative. -/
def sample (bytes : List UInt8) (size : Int) : List UInt8 :=
  if size < 0 then bytes else bytes.take size.toNat

def isBinary (t : FileTree) (path : Path) (size : Int) : Bool :=
  match t.bytes? path.text with
  | some bytes => (sample bytes size).contains 0
  | none => false

def readText (t : FileTree) (path : Path) (encoding : Text.Encoding) (policy : Text.Policy) :
    Except Error String :=
  match t.bytes? path.text with
  | none => .error (.notAFile path.text)
  | some bytes =>
    if (sample bytes sampleSize).contains 0 then .ok ""
    else
      match encoding.decode policy bytes with
      | .ok text => .ok (String.ofList text)
      | .error cause => .error (.undecodable cause)

end SourceTally.FileTree
