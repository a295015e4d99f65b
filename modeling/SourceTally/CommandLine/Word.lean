import SourceTally.CommandLine.Option
import SourceTally.Text.Word

/- The words of a command line. Each is an argument, the mark after which all words are arguments, or
   an option, perhaps with an argument of its own in the same word. -/
namespace SourceTally.CommandLine

structure OptionMatch where
  id : OptionId
  name : String
  attached : Option (List Char)
  deriving DecidableEq, Repr

inductive WordKind where
  | argument
  | mark
  | option (m : OptionMatch)
  | unknownOption
  deriving DecidableEq, Repr

structure Word where
  text : String
  kind : WordKind
  deriving DecidableEq, Repr

inductive Stop where
  | help
  | version
  | ambiguous (word : String) (names : List String)
  | expectedOne (id : OptionId)
  | expectedSome (id : OptionId)
  | ignoredArgument (id : OptionId) (text : String)
  | badArgument (id : OptionId) (fault : ArgumentFault)
  | unrecognized (words : List String)
  | noInputs
  deriving DecidableEq, Repr

def cutEquals (cs : List Char) : List Char × Option (List Char) :=
  match cs.dropWhile (· ≠ '=') with
  | [] => (cs, none)
  | _ :: after => (cs.takeWhile (· ≠ '='), some after)

def longMatches (cs : List Char) : List OptionMatch :=
  let (start, after) := cutEquals cs
  (OptionId.named.filter fun entry => start.isPrefixOf entry.1.toList).map fun entry =>
    ⟨entry.2, entry.1, after⟩

def shortMatches (cs : List Char) : List OptionMatch :=
  (OptionId.named.filter fun entry => entry.1.toList = cs.take 2).map fun entry =>
    ⟨entry.2, entry.1, some (cs.drop 2)⟩

def isNegativeNumber (cs : List Char) : Bool :=
  match cs with
  | '-' :: rest =>
    let body := if rest.getLast? = some '\n' then rest.dropLast else rest
    let whole := body.takeWhile Text.isDecimalDigit
    match body.drop whole.length with
    | [] => !whole.isEmpty
    | '.' :: places => !places.isEmpty && places.all Text.isDecimalDigit
    | _ => false
  | _ => false

def possibleMatches (cs : List Char) : List OptionMatch :=
  match cs with
  | '-' :: '-' :: _ => longMatches cs
  | _ => shortMatches cs

def exactMatch? (word : String) : Option OptionMatch :=
  match OptionId.ofName? word, cutEquals word.toList with
  | some id, _ => some ⟨id, word, none⟩
  | none, (name, some after) =>
    (OptionId.ofName? (String.ofList name)).map fun id => ⟨id, String.ofList name, some after⟩
  | none, _ => none

def classify (word : String) : Except Stop WordKind :=
  match word.toList, exactMatch? word with
  | '-' :: _ :: _, some m => .ok (.option m)
  | '-' :: c :: rest, none =>
    match possibleMatches ('-' :: c :: rest) with
    | [m] => .ok (.option m)
    | [] =>
      if isNegativeNumber word.toList || word.toList.contains ' ' then .ok .argument
      else .ok .unknownOption
    | several => .error (.ambiguous word (several.map (·.name)))
  | _, _ => .ok .argument

/-- Classifies all words before any of them is acted upon. -/
def classifyAll : List String → Except Stop (List Word)
  | [] => .ok []
  | word :: rest =>
    if word = "--" then .ok (⟨word, .mark⟩ :: rest.map (⟨·, .argument⟩))
    else do
      let kind ← classify word
      return ⟨word, kind⟩ :: (← classifyAll rest)

end SourceTally.CommandLine
