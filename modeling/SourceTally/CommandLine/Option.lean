import SourceTally.AliasTable
import SourceTally.Exclusion
import SourceTally.Text.Split

/- The options of the command line, and the arguments that have a form of their own. -/
namespace SourceTally.CommandLine

inductive OptionId where
  | help
  | version
  | debug
  | exclude
  | extensionAlias
  | parsers
  | allowUnknowns
  | defaultParser
  | dry
  | listIds
  | json
  | output
  deriving DecidableEq, Repr

inductive Arity where
  | none
  | one
  | some
  deriving DecidableEq, Repr

namespace OptionId

def all : List OptionId :=
  [help, version, debug, exclude, extensionAlias, parsers, allowUnknowns, defaultParser, dry,
    listIds, json, output]

def names : OptionId → List String
  | help => ["-h", "--help"]
  | version => ["-v", "--version"]
  | debug => ["-d", "--debug"]
  | exclude => ["-e", "--exclude"]
  | extensionAlias => ["-a", "--alias"]
  | parsers => ["-p", "--parsers"]
  | allowUnknowns => ["-u", "--allow-unknowns"]
  | defaultParser => ["-D", "--default"]
  | dry => ["--dry"]
  | listIds => ["--list-ids"]
  | json => ["--json"]
  | output => ["--output"]

def arity : OptionId → Arity
  | exclude | extensionAlias | defaultParser | output => .one
  | parsers => .some
  | _ => .none

def named : List (String × OptionId) := all.flatMap fun id => id.names.map fun name => (name, id)

def ofName? (name : String) : Option OptionId := Assoc.get? named name

end OptionId

inductive ArgumentFault where
  | pattern (value : String) (fault : Pattern.Fault)
  | aliasForm (value : String)
  | aliasSource (part : String)
  | aliasTarget (part : String)
  | aliasParts (value : String)
  deriving DecidableEq, Repr

def ArgumentFault.message : ArgumentFault → String
  | pattern value fault =>
    let cause := fault.message (Exclusion.bareText value)
    match fault.cause.kind with
    | .form => s!"\"{value}\" is not a valid regular expression: {cause}"
    | .value | .overflow => cause
  | aliasForm value =>
    s!"Alias requires the format \"<ext>=<ext>\", but \"{value}\" was received instead."
  | aliasSource part => s!"First part \"{part}\" is not a valid extension."
  | aliasTarget part => s!"Second part \"{part}\" is not a valid extension."
  | aliasParts value => s!"Neither parts of \"{value}\" are valid extensions."

def ArgumentFault.complaint (fault : ArgumentFault) : String :=
  match fault with
  | pattern value ⟨cause, _⟩ =>
    if cause.kind = .value then "invalid regex_argument value: " ++ Text.quoted value
    else fault.message
  | _ => fault.message

def readExclusion (value : String) : Except ArgumentFault Exclusion :=
  match Exclusion.read value with
  | .ok e => .ok e
  | .error fault => .error (.pattern value fault)

def readAlias (value : String) : Except ArgumentFault (String × String) :=
  match (Text.split '=' value.toList).map String.ofList with
  | [old, new] =>
    let first := Extension.clean old
    let second := Extension.clean new
    if first ≠ "" && second ≠ "" then .ok (first, second)
    else if second ≠ "" then .error (.aliasSource old)
    else if first ≠ "" then .error (.aliasTarget new)
    else .error (.aliasParts value)
  | _ => .error (.aliasForm value)

def mergeAliases (aliases : List (String × String)) : List (String × String) :=
  Assoc.ofList aliases

end SourceTally.CommandLine
