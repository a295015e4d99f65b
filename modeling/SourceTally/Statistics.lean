import SourceTally.CharClass

/- Line and character counts of one text or of many. They add and subtract field by field, so a
   contribution can be undone; the counters are integers because a difference may be negative. -/
namespace SourceTally

structure LineCounts where
  total : Int := 0
  totalSource : Int := 0
  source : Int := 0
  totalComments : Int := 0
  inlineComments : Int := 0
  blockComments : Int := 0
  mixed : Int := 0
  whitespace : Int := 0
  empty : Int := 0
  deriving DecidableEq, Repr

structure CharCounts where
  total : Int := 0
  source : Int := 0
  comment : Int := 0
  whitespace : Int := 0
  numerical : Int := 0
  alphabetical : Int := 0
  special : Int := 0
  deriving DecidableEq, Repr

structure Statistics where
  lines : LineCounts := {}
  characters : CharCounts := {}
  deriving DecidableEq, Repr

namespace LineCounts

def combine (f : Int → Int → Int) (a b : LineCounts) : LineCounts where
  total := f a.total b.total
  totalSource := f a.totalSource b.totalSource
  source := f a.source b.source
  totalComments := f a.totalComments b.totalComments
  inlineComments := f a.inlineComments b.inlineComments
  blockComments := f a.blockComments b.blockComments
  mixed := f a.mixed b.mixed
  whitespace := f a.whitespace b.whitespace
  empty := f a.empty b.empty

instance : Zero LineCounts := ⟨{}⟩
instance : Add LineCounts := ⟨combine (· + ·)⟩
instance : Sub LineCounts := ⟨combine (· - ·)⟩

def categorized (n : LineCounts) : Int :=
  n.source + n.inlineComments + n.blockComments + n.mixed + n.whitespace + n.empty

abbrev Consistent (n : LineCounts) : Prop :=
  n.total = n.categorized ∧ n.totalSource = n.source + n.mixed ∧
    n.totalComments = n.inlineComments + n.blockComments + n.mixed

def isConsistent (n : LineCounts) : Bool := decide n.Consistent

def fields (n : LineCounts) : List (String × Int) :=
  [("total", n.total), ("total_source", n.totalSource), ("source", n.source),
    ("total_comments", n.totalComments), ("inline_comments", n.inlineComments),
    ("block_comments", n.blockComments), ("mixed", n.mixed), ("whitespace", n.whitespace),
    ("empty", n.empty)]

def ofFields (value : String → Int) : LineCounts where
  total := value "total"
  totalSource := value "total_source"
  source := value "source"
  totalComments := value "total_comments"
  inlineComments := value "inline_comments"
  blockComments := value "block_comments"
  mixed := value "mixed"
  whitespace := value "whitespace"
  empty := value "empty"

end LineCounts

namespace CharCounts

def combine (f : Int → Int → Int) (a b : CharCounts) : CharCounts where
  total := f a.total b.total
  source := f a.source b.source
  comment := f a.comment b.comment
  whitespace := f a.whitespace b.whitespace
  numerical := f a.numerical b.numerical
  alphabetical := f a.alphabetical b.alphabetical
  special := f a.special b.special

instance : Zero CharCounts := ⟨{}⟩
instance : Add CharCounts := ⟨combine (· + ·)⟩
instance : Sub CharCounts := ⟨combine (· - ·)⟩

def tally (n : CharCounts) : CharClass → CharCounts
  | .whitespace => { n with whitespace := n.whitespace + 1 }
  | .numerical => { n with numerical := n.numerical + 1 }
  | .alphabetical => { n with alphabetical := n.alphabetical + 1 }
  | .special => { n with special := n.special + 1 }

def fields (n : CharCounts) : List (String × Int) :=
  [("total", n.total), ("source", n.source), ("comment", n.comment), ("whitespace", n.whitespace),
    ("numerical", n.numerical), ("alphabetical", n.alphabetical), ("special", n.special)]

def ofFields (value : String → Int) : CharCounts where
  total := value "total"
  source := value "source"
  comment := value "comment"
  whitespace := value "whitespace"
  numerical := value "numerical"
  alphabetical := value "alphabetical"
  special := value "special"

end CharCounts

namespace Statistics

instance : Zero Statistics := ⟨{}⟩
instance : Add Statistics := ⟨fun a b => ⟨a.lines + b.lines, a.characters + b.characters⟩⟩
instance : Sub Statistics := ⟨fun a b => ⟨a.lines - b.lines, a.characters - b.characters⟩⟩

end Statistics

end SourceTally
