import SourceTally.Proofs.Counter.Setup

/- Which parser a file goes to. On its way an extension is cleaned when it is taken from the name, when
   it is looked up among the aliases, when a parser is looked for, and by each parser that is asked;
   but extensions, targets of aliases and the texts that are asked for are in clean form already, so
   all comes down to finding texts as they stand. -/
namespace SourceTally

namespace Counter

/-- The extension that a parser is looked for with: the target that the extension of the file has in
    the alias table, or the extension itself when it has none. -/
def target (c : Counter) (file : Value) : String :=
  (Assoc.get? c.aliases file.extractExtension).getD file.extractExtension

variable {c : Counter} {file : Value}

end Counter

end SourceTally
