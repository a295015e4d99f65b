import SourceTally.Counter.Registry

/- Counting files. A file goes to the parser that claims its extension, and a file counted again
   gives up its earlier contribution. -/
namespace SourceTally.Counter

def fallback? (c : Counter) : Option Parser :=
  if c.options.requireExtension.isTrue then none else c.options.defaultParser

def resolve (c : Counter) (file : Value) : Except Error Parser :=
  let extension := file.extractExtension
  if extension = "" then
    match c.fallback? with
    | some p => .ok p
    | none => .error (.noExtension file)
  else
    let aliased := c.aliases.resolve (.str extension)
    match c.parserForExtension? (.str aliased) with
    | some p => .ok p
    | none =>
      match c.fallback? with
      | some p => .ok p
      | none => .error (.unclaimedExtension aliased file)

def classify (c : Counter) (file contents : Value) : Except Error Statistics :=
  match contents.nonemptyText? with
  | none => .error (.emptyContents file)
  | some text => do (← c.resolve file).parseText text

def record (c : Counter) (file : Value) (statistics : Statistics) : Except Error Counter :=
  match file.unkeyable? with
  | some typeName => .error (.unkeyable typeName)
  | none =>
    let earlier := (Assoc.get? c.files ⟨file⟩).getD {}
    .ok { c with
      files := Assoc.insert c.files ⟨file⟩ statistics
      totals := c.totals - earlier + statistics }

def process (c : Counter) (file contents : Value) : Except Error (Statistics × Counter) := do
  let statistics ← c.classify file contents
  return (statistics, ← c.record file statistics)

structure Outcome where
  file : Value
  result : Except Error Statistics

def unpackPair (item : Value) : Except Error (Value × Value) :=
  match item.items? with
  | none => .error (.notUnpackable item.typeName)
  | some [file, contents] => .ok (file, contents)
  | some (_ :: _ :: _ :: _) => .error .tooManyItems
  | some items => .error (.tooFewItems items.length)

def unpackPairs (items : Value) : Except Error (List (Value × Value)) :=
  match items.items? with
  | none => .error (.notIterable items.typeName)
  | some items => items.mapM unpackPair

/-- Counts files that are classified already, in order. An error that concerns one file is its
    outcome, and any other error ends the work; what was counted until then stays. -/
def settle (c : Counter) :
    List (Value × Except Error Statistics) → Except Error (List Outcome) × Counter
  | [] => (.ok [], c)
  | (file, .error e) :: rest =>
    if e.isReported then
      let (outcomes, c) := settle c rest
      (outcomes.map (⟨file, .error e⟩ :: ·), c)
    else (.error e, c)
  | (file, .ok statistics) :: rest =>
    match c.record file statistics with
    | .error e => (.error e, c)
    | .ok c =>
      let (outcomes, c) := settle c rest
      (outcomes.map (⟨file, .ok statistics⟩ :: ·), c)

/-- Counts many files. All are classified by the counter as it is at the start. -/
def processMany (c : Counter) (items : Value) : Except Error (List Outcome) × Counter :=
  match unpackPairs items with
  | .error e => (.error e, c)
  | .ok pairs => c.settle (pairs.map fun pair => (pair.1, c.classify pair.1 pair.2))

end SourceTally.Counter
