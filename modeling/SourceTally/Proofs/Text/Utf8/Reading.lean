import SourceTally.Proofs.Text.Utf8

/- Whole texts in UTF-8. Reading arbitrary bytes keeps the characters in them and drops what is between
   them. A byte that starts a character is never dropped with what stands before it, so a text is
   read whatever surrounds it, and bytes are read without loss exactly when they are well-formed. -/
namespace SourceTally.Text.Utf8

end SourceTally.Text.Utf8
