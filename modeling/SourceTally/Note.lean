/- Notes that are kept of the work, each with its level, the part of the program that makes it, and
   its wording. -/
namespace SourceTally

inductive Level where
  | debug
  | info
  | warning
  deriving DecidableEq, Repr

inductive Note where
  | registered (id name : String)
  | alreadyRegistered (id : String)
  | registry (ids : List String) (fallback : Option String)
  | searching (input : String)
  | noMatch (input : String)
  | excluded (path pattern : String)
  | binary (path : String)
  | wouldCount (path : String)
  | parsing (path : String)
  | unread (path reason : String)
  | skipped (path reason : String)
  | fallbackForName (file id : String)
  | fallbackForExtension (extension id : String)
  | replaced (file : String)
  deriving DecidableEq, Repr

def Level.label : Level → String
  | debug => "DEBUG"
  | info => "INFO"
  | warning => "WARNING"

namespace Note

def level : Note → Level
  | searching _ | wouldCount _ => .info
  | noMatch _ | unread _ _ => .warning
  | _ => .debug

def origin : Note → String
  | registered _ _ | fallbackForName _ _ | fallbackForExtension _ _ | replaced _ => "scnt.counter"
  | alreadyRegistered _ | registry _ _ => "scnt.parsers.catalog"
  | searching _ | noMatch _ | excluded _ _ | binary _ => "scnt.filesystem"
  | wouldCount _ | parsing _ | unread _ _ | skipped _ _ => "scnt.runner"

def message : Note → String
  | registered id name => s!"Registered parser {id} ({name})"
  | alreadyRegistered id => s!"Parser {id} already registered"
  | registry ids fallback =>
    let shown := fallback.getD "none"
    "Registered parsers: " ++ ", ".intercalate ids ++ s!" (default: {shown})"
  | searching input => s!"Searching paths for {input}"
  | noMatch input => s!"No files matched {input}"
  | excluded path pattern => s!"File {path} matched exclusion {pattern}, skipping"
  | binary path => s!"Treating {path} as binary"
  | wouldCount path => s!"Would count {path}"
  | parsing path => s!"Parsing file {path}"
  | unread path reason | skipped path reason => s!"Skipping {path}: {reason}"
  | fallbackForName file id => s!"No extension on {file}, using default parser {id}"
  | fallbackForExtension extension id =>
    s!"No parser for {extension}, using default parser {id}"
  | replaced file => s!"Re-processing {file}, replacing earlier statistics"

def render (n : Note) : String := s!"{n.level.label} {n.origin}: {n.message}"

/-- Notes shown without being asked for. -/
def isPlain (n : Note) : Bool := n.level ≠ .debug

end Note

end SourceTally
