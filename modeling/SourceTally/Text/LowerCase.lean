import SourceTally.Text.LowerCase.Runs
import SourceTally.Text.LowerCase.Context

/- Lower-casing of whole texts. Each character has its own lower-case form but two: the dotted
   capital I has a form of two characters, and the form of a capital sigma depends on its
   neighbours. -/
namespace SourceTally.Text

def capitalSigma : Char := '\u03a3'
def smallSigma : Char := '\u03c3'
def finalSigma : Char := '\u03c2'
def dottedCapitalI : Char := '\u0130'
def dotAbove : Char := '\u0307'

def lowerOne (c : Char) : Char :=
  match caseRuns.find? (·.contains c) with
  | some run => run.apply c
  | none => c

def lowerForm (c : Char) : List Char :=
  if c = dottedCapitalI then ['i', dotAbove] else [lowerOne c]

def meetsCased (cs : List Char) : Bool :=
  match cs.dropWhile isCaseIgnorable with
  | [] => false
  | c :: _ => isCased c

/-- A sigma closes a word when a cased letter stands before it and none after it. `before` holds the
    text before the sigma, nearest character first. -/
def closesWord (before after : List Char) : Bool := meetsCased before && !meetsCased after

def lowerAfter (before : List Char) : List Char → List Char
  | [] => []
  | c :: rest =>
    let form :=
      if c = capitalSigma then [if closesWord before rest then finalSigma else smallSigma]
      else lowerForm c
    form ++ lowerAfter (c :: before) rest

def lower (cs : List Char) : List Char := lowerAfter [] cs

end SourceTally.Text
