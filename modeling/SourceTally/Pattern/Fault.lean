import SourceTally.Pattern.Basic
import SourceTally.Text.Digits
import SourceTally.Text.Quoted

/- What is wrong with the text of a search pattern, and where. -/
namespace SourceTally.Pattern

inductive FaultCause where
  | unclosedGroup
  | unclosedSet
  | unclosedComment
  | nothingToRepeat
  | repeatedTwice
  | repeatBounds
  | unbalanced
  | unexpectedEnd
  | unknownExtension (written : String)
  | danglingEscape
  | badEscape (written : String)
  | incompleteEscape (written : String)
  | octalEscape (written : String)
  | missingBrace
  | unknownCharacter (name : String)
  | badRange (low high : String)
  | missingName (thing : String)
  | unclosedName (terminator : Char)
  | badGroupName (name : String)
  | unknownGroup (name : String)
  | redefinedGroup (name : String) (index before : Nat)
  | badGroupNumber
  | invalidReference (group : Nat)
  | openReference
  | lookbehindReference
  | manyBranches
  | lateFlags
  | unknownFlag
  | missingFlag
  | unclosedFlags
  | unclosedRemoval
  | localeFlag
  | mixedFlags
  | keptFlags
  | globalFlagOn
  | globalFlagOff
  | flagOnAndOff
  | templateRepeat (style : Style)
  | looksTooFar
  | variableLookbehind
  /-- The pattern asks for two alphabets at once. -/
  | incompatibleFlags
  | longNumber (digits : Nat)
  | greatNumber
  deriving DecidableEq, Repr

inductive FaultKind where
  | form
  | value
  | overflow
  deriving DecidableEq, Repr

namespace FaultCause

def kind : FaultCause → FaultKind
  | incompatibleFlags | longNumber _ => .value
  | greatNumber => .overflow
  | _ => .form

def message : FaultCause → String
  | unclosedGroup => "missing ), unterminated subpattern"
  | unclosedSet => "unterminated character set"
  | unclosedComment => "missing ), unterminated comment"
  | nothingToRepeat => "nothing to repeat"
  | repeatedTwice => "multiple repeat"
  | repeatBounds => "min repeat greater than max repeat"
  | unbalanced => "unbalanced parenthesis"
  | unexpectedEnd => "unexpected end of pattern"
  | unknownExtension written => s!"unknown extension ?{written}"
  | danglingEscape => "bad escape (end of pattern)"
  | badEscape written => s!"bad escape {written}"
  | incompleteEscape written => s!"incomplete escape {written}"
  | octalEscape written => s!"octal escape value {written} outside of range 0-0o377"
  | missingBrace => "missing \x7b"
  | unknownCharacter name => "undefined character name " ++ Text.quoted name
  | badRange low high => s!"bad character range {low}-{high}"
  | missingName thing => s!"missing {thing}"
  | unclosedName terminator => s!"missing {terminator}, unterminated name"
  | badGroupName name => "bad character in group name " ++ Text.quoted name
  | unknownGroup name => "unknown group name " ++ Text.quoted name
  | redefinedGroup name index before =>
    "redefinition of group name " ++ Text.quoted name ++ s!" as group {index}; was group {before}"
  | badGroupNumber => "bad group number"
  | invalidReference group => s!"invalid group reference {group}"
  | openReference => "cannot refer to an open group"
  | lookbehindReference => "cannot refer to group defined in the same lookbehind subpattern"
  | manyBranches => "conditional backref with more than two branches"
  | lateFlags => "global flags not at the start of the expression"
  | unknownFlag => "unknown flag"
  | missingFlag => "missing flag"
  | unclosedFlags => "missing -, : or )"
  | unclosedRemoval => "missing :"
  | localeFlag => inlineFlags ++ "cannot use 'L' flag with a str pattern"
  | mixedFlags => inlineFlags ++ "flags 'a', 'u' and 'L' are incompatible"
  | keptFlags => inlineFlags ++ "cannot turn off flags 'a', 'u' and 'L'"
  | globalFlagOn => inlineFlags ++ "cannot turn on global flag"
  | globalFlagOff => inlineFlags ++ "cannot turn off global flag"
  | flagOnAndOff => inlineFlags ++ "flag turned on and off"
  | templateRepeat style => s!"internal: unsupported template operator {operator style}"
  | looksTooFar => "looks too much behind"
  | variableLookbehind => "look-behind requires fixed-width pattern"
  | incompatibleFlags => "ASCII and UNICODE flags are incompatible"
  | longNumber digits =>
    s!"Exceeds the limit ({Text.digitLimit} digits) for integer string conversion: value has " ++
      s!"{digits} digits; use sys.set_int_max_str_digits() to increase the limit"
  | greatNumber => "the repetition number is too large"
where
  inlineFlags : String := "bad inline flags: "
  operator : Style → String
    | .greedy => "MAX_REPEAT"
    | .reluctant => "MIN_REPEAT"
    | .possessive => "POSSESSIVE_REPEAT"

end FaultCause

/-- A fault of the pattern as a whole has no position. -/
structure Fault where
  cause : FaultCause
  position : Option Nat := none
  deriving DecidableEq, Repr

def lineAndColumn (pattern : List Char) (position : Nat) : Nat × Nat :=
  let before := pattern.take position
  (before.count '\n' + 1, (before.reverse.takeWhile (· ≠ '\n')).length + 1)

def Fault.message (f : Fault) (pattern : String) : String :=
  match f.position with
  | none => f.cause.message
  | some position =>
    let atPosition := s!"{f.cause.message} at position {position}"
    if pattern.toList.contains '\n' then
      let (line, column) := lineAndColumn pattern.toList position
      s!"{atPosition} (line {line}, column {column})"
    else atPosition

/-- What is wrong with a pattern that was read to its end, from left to right. Templates repeat
    nothing, and what is looked for behind must have one width, that a code can hold. -/
def Expr.fault? (template : Bool) : Expr → Option FaultCause
  | nothing | anyChar _ | set _ _ _ _ | place _ | reference _ _ => none
  | seq first second | choice first second | conditional _ first second =>
    first.fault? template <|> second.fault? template
  | repeated style _ _ e => if template then some (.templateRepeat style) else e.fault? template
  | group _ e | atomic e | look .ahead _ e => e.fault? template
  | look (.behind shortest longest) _ e =>
    if 0xffffffff < shortest then some .looksTooFar
    else if shortest ≠ longest then some .variableLookbehind
    else e.fault? template

end SourceTally.Pattern
