import SourceTally.Pattern.Token
import SourceTally.Text.Identifier

/- The flags of a search pattern, and reading them where a group opens: for the whole pattern, or
   turned on and off for the group only. -/
namespace SourceTally.Pattern

inductive Flag where
  | ignoreCase
  | everyLine
  | dotMatchesAll
  | verbose
  | ascii
  | unicode
  | locale
  | template
  deriving DecidableEq, Repr

abbrev Flags := List Flag

namespace Flag

def ofLetter? (c : Char) : Option Flag :=
  match c with
  | 'i' => some ignoreCase
  | 'm' => some everyLine
  | 's' => some dotMatchesAll
  | 'x' => some verbose
  | 'a' => some ascii
  | 'u' => some unicode
  | 'L' => some locale
  | 't' => some template
  | _ => none

def isAlphabet : Flag → Bool
  | ascii | unicode | locale => true
  | _ => false

end Flag

namespace Flags

def isAscii (flags : Flags) : Bool := flags.contains .ascii

def caseRule (flags : Flags) : CaseRule :=
  if !flags.contains .ignoreCase then .exact
  else if flags.isAscii then .ascii
  else .full

/-- The flags inside of a group. An alphabet takes the place of the one outside. -/
def inGroup (flags added removed : Flags) : Flags :=
  let kept := if added.any Flag.isAlphabet then flags.filter (!·.isAlphabet) else flags
  (kept ++ added).filter fun flag => !removed.contains flag

def expr (flags : Flags) (negated : Bool) (members : List Member) : Expr :=
  .set flags.caseRule flags.isAscii negated members

end Flags

def flagOf (other : FaultCause) (t : Token) : Reading Flag :=
  match t.kind with
  | .plain c =>
    match Flag.ofLetter? c with
    | some flag => .ok flag
    | none => fail (if Text.isLetter c then .unknownFlag else other) t.position
  | _ => fail other t.position

def readAdded : Nat → Flag → Flags → Source → Reading (Flags × Token × Source)
  | 0, _, _, s => fail .unclosedFlags s.position
  | fuel + 1, flag, added, s => do
    if flag = .locale then fail .localeFlag s.position
    if flag.isAlphabet && added.any (fun other => other.isAlphabet && other ≠ flag) then
      fail .mixedFlags s.position
    let added := added ++ [flag]
    let (t, s) ← s.takeAny .unclosedFlags
    if t.is ')' || t.is '-' || t.is ':' then return (added, t, s)
    else readAdded fuel (← flagOf .unclosedFlags t) added s

def readRemoved : Nat → Flag → Flags → Source → Reading (Flags × Token × Source)
  | 0, _, _, s => fail .unclosedRemoval s.position
  | fuel + 1, flag, removed, s => do
    if flag.isAlphabet then fail .keptFlags s.position
    let removed := removed ++ [flag]
    let (t, s) ← s.takeAny .unclosedRemoval
    if t.is ':' then return (removed, t, s)
    else readRemoved fuel (← flagOf .unclosedRemoval t) removed s

inductive GivenFlags where
  | whole (added : Flags)
  | group (added removed : Flags)

def readFlags (first : Token) (s : Source) : Reading (GivenFlags × Source) := do
  let fuel := s.tokens.length + 1
  let (added, t, s) ←
    if first.is '-' then pure ([], first, s)
    else readAdded fuel (← flagOf .unclosedFlags first) [] s
  if t.is ')' then return (.whole added, s)
  if added.contains .template then fail .globalFlagOn t.position
  let (removed, t, s) ←
    if t.is '-' then
      let (t, s) ← s.takeAny .missingFlag
      readRemoved fuel (← flagOf .missingFlag t) [] s
    else pure ([], t, s)
  if removed.contains .template then fail .globalFlagOff t.position
  if added.any removed.contains then fail .flagOnAndOff t.position
  return (.group added removed, s)

end SourceTally.Pattern
