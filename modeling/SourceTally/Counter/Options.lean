import SourceTally.Error
import SourceTally.Text.Order

/- The options of a counter. Options that are applied start from the defaults, never from those in
   force. -/
namespace SourceTally

structure Options where
  /-- Any value; when it counts as true, files that no parser claims are refused. -/
  requireExtension : Value := .bool true
  defaultParser : Option Parser := none

namespace Options

/-- What is handed over to ask for options: options that somebody made before, with any values in
    them, or some other value. -/
inductive Request where
  | made (requireExtension defaultParser : Value)
  | value (v : Value)

instance : Coe Value Request := ⟨.value⟩

def known : List String := ["require_extension", "default_parser"]

def defaultParserOf : Option Value → Except Error (Option Parser)
  | none => .ok none
  | some .nothing => .ok none
  | some (.parser p) => .ok (some p)
  | some value => .error (.notDefaultParser value.typeName)

def ofEntries (entries : List (String × Value)) : Except Error Options := do
  let unknown := (entries.map (·.1)).filter fun name => !known.contains name
  if unknown ≠ [] then throw (.unknownOptions (Text.sorted unknown))
  let defaultParser ← defaultParserOf (Assoc.get? entries "default_parser")
  return { requireExtension := (Assoc.get? entries "require_extension").getD (.bool true)
           defaultParser }

def ofRequest (request : Request) (overrides : List (String × Value)) : Except Error Options :=
  match request with
  | .made requireExtension defaultParser =>
    ofEntries (Assoc.insertAll
      [("require_extension", requireExtension), ("default_parser", defaultParser)] overrides)
  | .value .nothing => ofEntries (Assoc.ofList overrides)
  | .value (.mapping entries) => ofEntries (Assoc.insertAll entries overrides)
  | .value v => .error (.notOptions v.typeName)

end Options

end SourceTally
