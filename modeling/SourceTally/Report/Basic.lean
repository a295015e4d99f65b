import SourceTally.Counter.Basic
import SourceTally.Json.Basic

/- Reports: the statistics of each file, the totals, and the files left out with the reason. -/
namespace SourceTally

structure Report where
  files : List (FileName × Statistics)
  totals : Statistics
  /-- Paths with the reasons why they were left out. -/
  skipped : List (String × String) := []

namespace Report

def ofCounter (c : Counter) (skipped : List (String × String)) : Report where
  files := c.files
  totals := c.totals
  skipped := skipped

def countsJson (statistics : Statistics) : List (String × Json) :=
  [("lines", .ofCounts statistics.lines.fields),
    ("characters", .ofCounts statistics.characters.fields)]

def fileJson (file : FileName × Statistics) : Json :=
  .object (("path", .ofValue file.1.value) :: countsJson file.2)

def skippedJson (entry : String × String) : Json :=
  .object [("path", .string entry.1), ("reason", .string entry.2)]

def toJson (r : Report) : Json :=
  .object
    [("summary", .object (("files", .number r.files.length) :: countsJson r.totals)),
      ("files", .array (r.files.map fileJson)),
      ("skipped", .array (r.skipped.map skippedJson))]

end Report

end SourceTally
