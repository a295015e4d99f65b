import SourceTally.Text.Blank
import SourceTally.Text.LowerCase
import SourceTally.Text.Word

/- Search patterns: characters and sets of them, places in the text, sequences, choices and
   repetitions, groups that are remembered and references to them, and conditions on the text
   around. Flags are resolved, so that each part holds what it has to know of them. -/
namespace SourceTally.Pattern

inductive Category where
  | digit
  | space
  | word
  deriving DecidableEq, Repr

/-- Characters are given by their codes, of which some belong to no character. -/
inductive Member where
  | code (n : Nat)
  | range (low high : Nat)
  | category (kind : Category) (negated : Bool)
  deriving DecidableEq, Repr

/-- Which characters count as one: only equal ones, or those that differ in case only, be it just
    for the letters of ASCII. -/
inductive CaseRule where
  | exact
  | ascii
  | full
  deriving DecidableEq, Repr

inductive Place where
  | lineStart (everyLine : Bool)
  | lineEnd (everyLine : Bool)
  | textStart
  | textEnd
  | wordEdge (ascii negated : Bool)
  deriving DecidableEq, Repr

/-- A repetition takes as much as it can or as little, and gives back or takes on when what follows
    asks for it; a possessive one gives nothing back. -/
inductive Style where
  | greedy
  | reluctant
  | possessive
  deriving DecidableEq, Repr

/-- Where a condition looks. What it looks for behind has a shortest and a longest form. -/
inductive Direction where
  | ahead
  | behind (shortest longest : Nat)
  deriving DecidableEq, Repr

inductive Expr where
  | nothing
  | anyChar (newlines : Bool)
  | set (rule : CaseRule) (ascii negated : Bool) (members : List Member)
  | place (p : Place)
  | seq (first second : Expr)
  | choice (first second : Expr)
  | repeated (style : Style) (least : Nat) (most : Option Nat) (e : Expr)
  | group (index : Nat) (e : Expr)
  | reference (rule : CaseRule) (index : Nat)
  | look (direction : Direction) (negated : Bool) (e : Expr)
  /-- Only the first way to match is taken. -/
  | atomic (e : Expr)
  /-- One part or the other, as the group has matched before or not. -/
  | conditional (index : Nat) (yes no : Expr)
  deriving DecidableEq, Repr

def Expr.ofChar (c : Char) : Expr := .set .exact false false [.code c.toNat]

def asciiBlanks : List Char := [' ', '\t', '\n', '\r', '\x0b', '\x0c']

def Category.contains (kind : Category) (ascii : Bool) (c : Char) : Bool :=
  match kind with
  | digit => if ascii then c.isDigit else Text.isDecimalDigit c
  | space => if ascii then asciiBlanks.contains c else Text.isBlank c
  | word => if ascii then c.isAlphanum || c = '_' else Text.isWord c

def sharedCapitals : List (List Nat) :=
  [[0x69, 0x131], [0x73, 0x17f], [0xb5, 0x3bc], [0x345, 0x3b9, 0x1fbe], [0x390, 0x1fd3],
    [0x3b0, 0x1fe3], [0x3b2, 0x3d0], [0x3b5, 0x3f5], [0x3b8, 0x3d1], [0x3ba, 0x3f0],
    [0x3c0, 0x3d6], [0x3c1, 0x3f1], [0x3c2, 0x3c3], [0x3c6, 0x3d5], [0x432, 0x1c80],
    [0x434, 0x1c81], [0x43e, 0x1c82], [0x441, 0x1c83], [0x442, 0x1c84, 0x1c85], [0x44a, 0x1c86],
    [0x463, 0x1c87], [0x1c88, 0xa64b], [0x1e61, 0x1e9b], [0xfb05, 0xfb06]]

def lowerLetter (c : Char) : Char := (Text.lowerForm c).headD c

def capitalsOf (c : Char) : List Char :=
  (if c = 'i' then [Text.dottedCapitalI] else []) ++
    Text.caseRuns.filterMap fun run =>
      let capital := Char.ofNat ((c.toNat : Int) - run.offset).toNat
      if run.contains capital && run.apply capital = c then some capital else none

def caseVariants (c : Char) : List Char :=
  let small := lowerLetter c
  let group :=
    match sharedCapitals.find? (·.contains small.toNat) with
    | some codes => codes.map Char.ofNat
    | none => [small]
  group ++ group.flatMap capitalsOf

namespace CaseRule

def variants (rule : CaseRule) (c : Char) : List Char :=
  match rule with
  | exact => [c]
  | ascii => [c, c.toLower, c.toUpper]
  | full => c :: caseVariants c

def same (rule : CaseRule) (c d : Char) : Bool :=
  match rule with
  | exact => c = d
  | ascii => c.toLower = d.toLower
  | full => lowerLetter c = lowerLetter d

end CaseRule

def Member.meets (m : Member) (ascii : Bool) (c : Char) (variants : List Char) : Bool :=
  match m with
  | code n => variants.any (·.toNat = n)
  | range low high => variants.any fun v => low ≤ v.toNat && v.toNat ≤ high
  | category kind negated => kind.contains ascii c != negated

def setMatches (rule : CaseRule) (ascii negated : Bool) (members : List Member) (c : Char) : Bool :=
  let variants := rule.variants c
  (members.any fun m => m.meets ascii c variants) != negated

abbrev Width := Nat × Nat

def maxWidth : Nat := 18446744073709551616

namespace Width

def capped (shortest longest : Nat) : Width := (min shortest maxWidth, min longest maxWidth)

def repeated (w : Width) (least : Nat) (most : Option Nat) : Width :=
  match most with
  | some most => capped (w.1 * least) (w.2 * most)
  | none => capped (w.1 * least) (if w.2 = 0 then 0 else maxWidth)

end Width

namespace Expr

/-- The width of a pattern. `groups` holds the widths of the groups, as far as they are read. -/
def width (groups : List (Option Width)) : Expr → Width
  | nothing | place _ | look _ _ _ => (0, 0)
  | anyChar _ | set _ _ _ _ => (1, 1)
  | seq first second =>
    let (least, most) := first.width groups
    let (least', most') := second.width groups
    Width.capped (least + least') (most + most')
  | choice first second | conditional _ first second =>
    let (least, most) := first.width groups
    let (least', most') := second.width groups
    (min least least', max most most')
  | repeated _ least most e => (e.width groups).repeated least most
  | group _ e | atomic e => e.width groups
  | reference _ index => (groups[index - 1]?.bind id).getD (0, 0)

end Expr

end SourceTally.Pattern
