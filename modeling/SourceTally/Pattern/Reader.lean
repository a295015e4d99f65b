import SourceTally.Pattern.Escape

/- Reading search patterns. Braces and closing brackets that make no sense as operators are ordinary
   characters. Faults are reported in the order in which they are met from left to right, and those
   of the pattern as a whole last. -/
namespace SourceTally.Pattern

def maxRepeat : Nat := 4294967295

def timesOf? (digits : List Char) : Reading (Option Nat) :=
  let times := numberOf 10 digits
  if digits.isEmpty then .ok none
  else if Text.digitLimit < digits.length then .error ⟨.longNumber digits.length, none⟩
  else if maxRepeat ≤ times then .error ⟨.greatNumber, none⟩
  else .ok (some times)

def readBounds? (s : Source) : Reading (Option ((Nat × Option Nat) × Source)) := do
  if s.startsWith '\x7d' then return none
  let after := s.position
  let (low, s) ← s.takeWhile Char.isDigit s.tokens.length
  let (high, s) ←
    match ← s.take? ',' with
    | some s => s.takeWhile Char.isDigit s.tokens.length
    | none => pure (low, s)
  match ← s.take? '\x7d' with
  | none => return none
  | some s =>
    let least := (← timesOf? low).getD 0
    let most ← timesOf? high
    if most.any (· < least) then fail .repeatBounds after
    return some ((least, most), s)

/-- What was read last matters to a repetition: places cannot be repeated, nor repetitions. -/
inductive ItemKind where
  | place
  | repetition
  | other
  deriving DecidableEq, Repr

structure Item where
  expr : Expr
  kind : ItemKind
  deriving Repr

def Item.ofExpr (e : Expr) : Item where
  expr := e
  kind :=
    match e with
    | .place _ => .place
    | _ => .other

inductive GroupKind where
  | plain
  | capture (index : Nat)
  | atomic
  | ahead (negated : Bool)
  | behind (negated outermost : Bool)
  | condition (index : Nat) (yes : Option Expr)
  deriving Repr

/-- A group that is being read: where it was opened, the flags in it, the choices before the one
    being read, and the items of that one, last first. -/
structure Frame where
  opened : Nat
  kind : GroupKind := .plain
  flags : Flags := []
  choices : List Expr := []
  items : List Item := []
  deriving Repr

namespace Frame

def sequence (f : Frame) : Expr := f.items.foldl (fun later item => .seq item.expr later) .nothing

def expr (f : Frame) : Expr :=
  match f.choices with
  | [] => f.sequence
  | first :: rest => .choice (rest.foldl .choice first) f.sequence

def add (f : Frame) (e : Expr) : Frame := { f with items := .ofExpr e :: f.items }

def nextChoice (f : Frame) (position : Nat) : Reading Frame :=
  match f.kind with
  | .condition index none =>
    .ok { f with kind := .condition index (some f.sequence), items := [] }
  | .condition _ (some _) => fail .manyBranches position
  | _ => .ok { f with choices := f.choices ++ [f.sequence], items := [] }

def close (f : Frame) (g : Groups) : Expr × Groups :=
  let e := f.expr
  match f.kind with
  | .plain => (e, g)
  | .capture index => (.group index e, g.closed index (e.width g.widths))
  | .atomic => (.atomic e, g)
  | .ahead negated => (.look .ahead negated e, g)
  | .behind negated outermost =>
    let (shortest, longest) := e.width g.widths
    (.look (.behind shortest longest) negated e,
      if outermost then { g with lookbehind := none } else g)
  | .condition index (some yes) => (.conditional index yes e, g)
  | .condition index none => (.conditional index e .nothing, g)

end Frame

/-- Repeats the last item. The operator stands at the given position, and may be followed by a mark
    that makes it reluctant or possessive. -/
def readRepeat (f : Frame) (position least : Nat) (most : Option Nat) (s : Source) :
    Reading (Frame × Source) :=
  match f.items with
  | [] => fail .nothingToRepeat position
  | item :: items =>
    match item.kind with
    | .place => fail .nothingToRepeat position
    | .repetition => fail .repeatedTwice position
    | .other => do
      let (style, s) ←
        match ← s.take? '?', ← s.take? '+' with
        | some s, _ => pure (Style.reluctant, s)
        | none, some s => pure (Style.possessive, s)
        | none, none => pure (Style.greedy, s)
      let repeated := ⟨.repeated style least most item.expr, .repetition⟩
      return ({ f with items := repeated :: items }, s)

inductive Opening where
  | group (kind : GroupKind) (flags : Flags) (g : Groups)
  | flags (added : Flags)
  | reference (index : Nat)
  | comment

def readNamedOpening (opened : Nat) (flags : Flags) (g : Groups) (s : Source) :
    Reading (Opening × Source) := do
  match ← s.take? '<', ← s.take? '=' with
  | some s, _ =>
    let (name, s) ← s.nameUpTo '>' "group name"
    checkName name s
    let g ← g.openedAs name s
    return (.group (.capture g.count) flags g, s)
  | none, some s =>
    let (name, s) ← s.nameUpTo ')' "group name"
    checkName name s
    let index ← g.named name s
    if !g.isClosed index then fail .openReference (s.position - (name.length + 1))
    g.checkBehind index s
    return (.reference index, s)
  | none, none =>
    let (t, _) ← s.takeAny .unexpectedEnd
    fail (.unknownExtension ("P" ++ t.text)) (opened + 1)

def readBehindOpening (opened : Nat) (flags : Flags) (g : Groups) (s : Source) :
    Reading (Opening × Source) := do
  let (t, s) ← s.takeAny .unexpectedEnd
  if t.is '=' || t.is '!' then
    let kind := GroupKind.behind (t.is '!') g.lookbehind.isNone
    return (.group kind flags { g with lookbehind := g.lookbehind <|> some (g.count + 1) }, s)
  else fail (.unknownExtension ("<" ++ t.text)) (opened + 1)

def readOpening (opened : Nat) (flags : Flags) (g : Groups) (s : Source) :
    Reading (Opening × Source) := do
  match ← s.take? '?' with
  | none =>
    let g := g.opened
    return (.group (.capture g.count) flags g, s)
  | some s =>
    let (t, s) ← s.takeAny .unexpectedEnd
    match t.kind with
    | .plain ':' => return (.group .plain flags g, s)
    | .plain '>' => return (.group .atomic flags g, s)
    | .plain '=' => return (.group (.ahead false) flags g, s)
    | .plain '!' => return (.group (.ahead true) flags g, s)
    | .plain '<' => readBehindOpening opened flags g s
    | .plain 'P' => readNamedOpening opened flags g s
    | .plain '#' =>
      match ← s.skipPast ')' (s.tokens.length + 1) with
      | some s => return (.comment, s)
      | none => fail .unclosedComment opened
    | .plain '(' =>
      let (name, s) ← s.nameUpTo ')' "group name"
      let (index, g) ← readCondition g name s
      return (.group (.condition index none) flags g, s)
    | .plain c =>
      if c = '-' || (Flag.ofLetter? c).isSome then
        match ← readFlags t s with
        | (.whole added, s) => return (.flags added, s)
        | (.group added removed, s) => return (.group .plain (flags.inGroup added removed) g, s)
      else fail (.unknownExtension t.text) (opened + 1)
    | _ => fail (.unknownExtension t.text) (opened + 1)

def checkWhole (f : Frame) (g : Groups) (s : Source) : Reading Expr := do
  if f.flags.contains .ascii && f.flags.contains .unicode then throw ⟨.incompatibleFlags, none⟩
  if !s.tokens.isEmpty then fail .unbalanced s.position
  match g.asked.find? (fun asked => g.count < asked.1) with
  | some (index, position) => fail (.invalidReference index) position
  | none =>
    match f.expr.fault? (f.flags.contains .template) with
    | some cause => throw ⟨cause, none⟩
    | none => return f.expr

/-- Reads a pattern from a position on. `outer` holds the groups around the one being read, the
    nearest first, and `fuel` bounds the number of tokens. -/
def readFrom : Nat → Groups → Frame → List Frame → Source → Reading Expr
  | 0, g, frame, _, s => checkWhole frame g s
  | fuel + 1, g, frame, outer, s =>
    match s.tokens, outer with
    | [], [] => checkWhole frame g s
    | [], _ :: _ => fail .unclosedGroup frame.opened
    | t :: rest, outer => do
      if t.is ')' then
        match outer with
        | [] => checkWhole frame g s
        | parent :: outer =>
          let (e, g) := frame.close g
          -- a group counts as one item, whatever is in it
          let parent := { parent with items := ⟨e, .other⟩ :: parent.items }
          readFrom fuel g parent outer (← s.moved rest)
      else if t.is '|' then
        let frame ← frame.nextChoice t.position
        readFrom fuel g frame outer (← s.moved rest)
      else
        let s ← s.moved rest
        let flags := frame.flags
        match t.kind with
        | .escaped c =>
          let (e, s) ← readEscape g flags c t.position s
          readFrom fuel g (frame.add e) outer s
        | .dangling => fail .danglingEscape t.position
        | .plain c =>
          if flags.contains .verbose && asciiBlanks.contains c then readFrom fuel g frame outer s
          else if flags.contains .verbose && c = '#' then
            let rest ← s.skipPast '\n' (s.tokens.length + 1)
            readFrom fuel g frame outer (rest.getD { s with tokens := [] })
          else
            match c with
            | '.' =>
              readFrom fuel g (frame.add (.anyChar (flags.contains .dotMatchesAll))) outer s
            | '^' =>
              readFrom fuel g (frame.add (.place (.lineStart (flags.contains .everyLine)))) outer s
            | '$' =>
              readFrom fuel g (frame.add (.place (.lineEnd (flags.contains .everyLine)))) outer s
            | '[' =>
              let (e, s) ← readSet flags t.position s
              readFrom fuel g (frame.add e) outer s
            | '*' =>
              let (frame, s) ← readRepeat frame t.position 0 none s
              readFrom fuel g frame outer s
            | '+' =>
              let (frame, s) ← readRepeat frame t.position 1 none s
              readFrom fuel g frame outer s
            | '?' =>
              let (frame, s) ← readRepeat frame t.position 0 (some 1) s
              readFrom fuel g frame outer s
            | '\x7b' =>
              match ← readBounds? s with
              | none => readFrom fuel g (frame.add (flags.expr false [.code c.toNat])) outer s
              | some ((least, most), s) =>
                let (frame, s) ← readRepeat frame t.position least most s
                readFrom fuel g frame outer s
            | '(' =>
              match ← readOpening t.position flags g s with
              | (.group kind flags g, s) =>
                readFrom fuel g { opened := t.position, kind, flags } (frame :: outer) s
              | (.reference index, s) =>
                readFrom fuel g (frame.add (.reference flags.caseRule index)) outer s
              | (.comment, s) => readFrom fuel g frame outer s
              | (.flags added, s) =>
                if outer.isEmpty && frame.choices.isEmpty && frame.items.isEmpty then
                  readFrom fuel g { frame with flags := flags ++ added } outer s
                else fail .lateFlags t.position
            | _ => readFrom fuel g (frame.add (flags.expr false [.code c.toNat])) outer s

def read (pattern : String) : Reading Expr := do
  let s ← Source.ofText pattern
  readFrom (s.tokens.length + 1) {} { opened := 0 } [] s

end SourceTally.Pattern
