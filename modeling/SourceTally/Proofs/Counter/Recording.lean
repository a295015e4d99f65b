import SourceTally.Proofs.Counter.Calls
import SourceTally.Proofs.Work

/- Counting one file, with each of its reads and writes as a step of its own. The totals are written
   in two parts and the ledger after them, and a name that cannot be a key is found out between
   other steps, so that a call which fails changes nothing is a matter of their order. -/
namespace SourceTally.Counter

open Work

end SourceTally.Counter
