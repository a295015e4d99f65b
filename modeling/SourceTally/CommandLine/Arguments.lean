import SourceTally.CommandLine.Help
import SourceTally.CommandLine.Word
import SourceTally.Run

/- Reading command lines. Options are acted upon from left to right; of the other words one run is
   taken for the inputs, and what is left over is an error. -/
namespace SourceTally.CommandLine

structure Arguments where
  inputs : List String := []
  exclusions : List Exclusion := []
  aliases : List (String × String) := []
  parserIds : Option (List String) := none
  defaultParser : Option String := none
  allowUnknowns : Bool := false
  dryRun : Bool := false
  debug : Bool := false
  listIds : Bool := false
  json : Bool := false
  output : Option String := none
  deriving DecidableEq, Repr

structure Action where
  id : OptionId
  arguments : List String
  deriving DecidableEq, Repr

def Stop.message : Stop → String
  | help | version => ""
  | ambiguous word names =>
    s!"ambiguous option: {word} could match " ++ ", ".intercalate names
  | expectedOne id => about id "expected one argument"
  | expectedSome id => about id "expected at least one argument"
  | ignoredArgument id text => about id s!"ignored explicit argument {Text.quoted text}"
  | badArgument id fault => about id fault.complaint
  | unrecognized words => "unrecognized arguments: " ++ " ".intercalate words
  | noInputs => "at least one file, directory or glob is required"
where
  about (id : OptionId) (message : String) : String :=
    "argument " ++ "/".intercalate id.names ++ s!": {message}"

def badArgument {α : Type} (id : OptionId) : Except ArgumentFault α → Except Stop α
  | .ok a => .ok a
  | .error fault => .error (.badArgument id fault)

def Action.apply (action : Action) (a : Arguments) : Except Stop Arguments := do
  let argument := action.arguments.headD ""
  match action.id with
  | .help => throw .help
  | .version => throw .version
  | .debug => return { a with debug := true }
  | .exclude =>
    let e ← badArgument .exclude (readExclusion argument)
    return { a with exclusions := a.exclusions ++ [e] }
  | .extensionAlias =>
    let pair ← badArgument .extensionAlias (readAlias argument)
    return { a with aliases := a.aliases ++ [pair] }
  | .parsers => return { a with parserIds := some action.arguments }
  | .allowUnknowns => return { a with allowUnknowns := true }
  | .defaultParser => return { a with defaultParser := some argument }
  | .dry => return { a with dryRun := true }
  | .listIds => return { a with listIds := true }
  | .json => return { a with json := true }
  | .output => return { a with output := some argument }

structure Taken where
  actions : List Action
  rest : List Word

def takeFollowing (id : OptionId) (rest : List Word) : Except Stop Taken :=
  match id.arity with
  | .none => .ok ⟨[⟨id, []⟩], rest⟩
  | .one =>
    match rest with
    | ⟨text, .argument⟩ :: rest => .ok ⟨[⟨id, [text]⟩], rest⟩
    | _ => .error (.expectedOne id)
  | .some =>
    let taken := rest.takeWhile (·.kind = .argument)
    if taken.isEmpty then .error (.expectedSome id)
    else .ok ⟨[⟨id, taken.map (·.text)⟩], rest.drop taken.length⟩

/-- Takes what is attached to an option: its argument, or more short options after a short one that
    takes no argument. -/
def takeAttached (id : OptionId) (isShort : Bool) (attached : List Char) (rest : List Word) :
    Except Stop Taken :=
  match id.arity, attached with
  | .none, [] => .error (.ignoredArgument id "")
  | .none, c :: more =>
    match if isShort then OptionId.ofName? (String.ofList ['-', c]) else none with
    | none => .error (.ignoredArgument id (String.ofList attached))
    | some next => do
      let taken ←
        if more.isEmpty then takeFollowing next rest else takeAttached next true more rest
      return { taken with actions := ⟨id, []⟩ :: taken.actions }
  | _, _ => .ok ⟨[⟨id, [String.ofList attached]⟩], rest⟩

def takeOption (m : OptionMatch) (rest : List Word) : Except Stop Taken :=
  match m.attached with
  | none => takeFollowing m.id rest
  | some attached => takeAttached m.id (m.name.length = 2) attached rest

structure Progress where
  arguments : Arguments := {}
  inputsTaken : Bool := false
  leftOver : List String := []

def inputsOf (run : List Word) : List String := (run.map (·.text)).erase "--"

def isInput (w : Word) : Bool := w.kind = .argument || w.kind = .mark

def takeRun (p : Progress) (run : List Word) : Progress :=
  if p.inputsTaken then { p with leftOver := p.leftOver ++ run.map (·.text) }
  else { p with inputsTaken := true, arguments := { p.arguments with inputs := inputsOf run } }

def readWords : Nat → Progress → List Word → Except Stop Progress
  | 0, p, _ => .ok p
  | _ + 1, p, [] => .ok p
  | fuel + 1, p, word :: rest =>
    match word.kind with
    | .unknownOption => readWords fuel { p with leftOver := p.leftOver ++ [word.text] } rest
    | .option m => do
      let taken ← takeOption m rest
      let arguments ← taken.actions.foldlM (fun a action => action.apply a) p.arguments
      readWords fuel { p with arguments } taken.rest
    | _ =>
      let run := (word :: rest).takeWhile isInput
      readWords fuel (takeRun p run) ((word :: rest).drop run.length)

def read (words : List String) : Except Stop Arguments := do
  let classified ← classifyAll words
  let p ← readWords classified.length {} classified
  if p.leftOver.isEmpty then return p.arguments else throw (.unrecognized p.leftOver)

namespace Arguments

def configuration (a : Arguments) : Configuration where
  inputs := a.inputs
  exclusions := a.exclusions
  aliases := mergeAliases a.aliases
  parserIds := a.parserIds
  defaultParser := a.defaultParser
  allowUnknowns := a.allowUnknowns
  dryRun := a.dryRun

end Arguments

end SourceTally.CommandLine
