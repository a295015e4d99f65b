import SourceTally.Scan.Comment
import SourceTally.Scan.Plain
import SourceTally.Text.Quoted

/- Parsers: a way to scan texts, under an identifier and a name, for the extensions it claims. -/
namespace SourceTally

inductive Scanner where
  | plain
  | cFamily
  /-- Refuses every text. -/
  | failing
  deriving DecidableEq, Repr

/-- Parsers are told apart by their serial numbers: two with one number are one parser, and a change
    of its extensions shows wherever it is held. -/
structure Parser where
  serial : Nat
  scanner : Scanner
  id : String
  name : String
  extensions : List String
  deriving DecidableEq, Repr

namespace Scanner

def label : Scanner → String
  | plain => "Parser"
  | cFamily => "CFamilyParser"
  | failing => "BoomParser"

def defaultId : Scanner → String
  | plain => "plain"
  | cFamily => "cfamily"
  | failing => "boom"

def defaultName : Scanner → String
  | plain => "Plain Text"
  | cFamily => "C-Family"
  | failing => "Boom"

def defaultExtensions : Scanner → List String
  | plain => []
  | cFamily =>
    ["c", "cpp", "cc", "cxx", "cs", "h", "hpp", "hx", "hxx", "js", "mjs", "jsx", "ts", "tsx", "java",
      "kt", "kts", "ktm", "php", "php5", "m", "mm", "swift", "scala", "sc", "sass", "scss", "less",
      "go", "rs"]
  | failing => ["boom"]

def scan? : Scanner → List Char → Option Statistics
  | plain, cs => some (Scan.plain cs)
  | cFamily, cs => some (Scan.withComments cs)
  | failing, _ => none

end Scanner

def Parser.describe (p : Parser) : String :=
  s!"{p.scanner.label}(id={Text.quoted p.id}, name={Text.quoted p.name})"

end SourceTally
