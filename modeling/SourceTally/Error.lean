import SourceTally.FileTree.Fault
import SourceTally.Text.Encoding
import SourceTally.Value

/- Everything that can go wrong, one constructor for each cause, and the wording of each. Some
   causes concern one file or one argument only, and the rest of the work goes on; the others stop
   it. -/
namespace SourceTally

inductive Error where
  /-- The contents given for a file are no text or are empty. -/
  | emptyContents (file : Value)
  /-- The contents given to a parser are no text or are empty. -/
  | emptyText (parser : String)
  | noExtension (file : Value)
  | unclaimedExtension (extension : String) (file : Value)
  | invalidAlias (old new : Value)
  | invalidAliasSource (old : Value)
  | invalidAliasTarget (new : Value)
  | notAliasPair (entry : Value)
  | unknownOptions (names : List String)
  | unknownParserId (id : Value) (known : List String)
  | notOptions (typeName : String)
  | notDefaultParser (typeName : String)
  | notExtensionItem (typeName : String)
  | notExtension (typeName : String)
  | notParserItem (typeName : String)
  | notParser (typeName : String)
  | notAFile (path : String)
  | notIterable (typeName : String)
  | unkeyable (typeName : String)
  | notUnpackable (typeName : String)
  | tooFewItems (found : Nat)
  | tooManyItems
  | tooManyDigits
  | noLowerCase (typeName : String)
  | noLength (typeName : String)
  | noPadding (typeName : String)
  | indexOutOfRange
  | refused (length : Nat)
  | linkLoop (path : String)
  | undecodable (cause : Text.Undecodable)
  | notOpened (fault : FileTree.Fault) (path : String)
  | noCounter

inductive ErrorKind where
  | invalidInput
  | unresolvableParser
  | invalidArgument
  | argumentType
  | fileRead
  | wrongType
  | wrongCount
  | unsupported
  | outOfRange
  | failure
  | decoding
  | opening (fault : FileTree.Fault)
  | noCounter
  deriving DecidableEq, Repr

namespace ErrorKind

/-- Mistakes that concern one file or one argument. The others stop all work. -/
def isReported : ErrorKind → Bool
  | invalidInput | unresolvableParser | invalidArgument | argumentType | fileRead => true
  | _ => false

end ErrorKind

namespace Error

def kind : Error → ErrorKind
  | emptyContents _ | emptyText _ => .invalidInput
  | noExtension _ | unclaimedExtension _ _ => .unresolvableParser
  | invalidAlias _ _ | invalidAliasSource _ | invalidAliasTarget _ | notAliasPair _ =>
    .invalidArgument
  | unknownOptions _ | unknownParserId _ _ => .invalidArgument
  | notOptions _ | notDefaultParser _ | notExtensionItem _ | notExtension _ => .argumentType
  | notParserItem _ | notParser _ => .argumentType
  | notAFile _ => .fileRead
  | notIterable _ | unkeyable _ | notUnpackable _ | noLength _ => .wrongType
  | tooFewItems _ | tooManyItems | tooManyDigits => .wrongCount
  | noLowerCase _ | noPadding _ => .unsupported
  | indexOutOfRange => .outOfRange
  | refused _ | linkLoop _ => .failure
  | undecodable _ => .decoding
  | notOpened fault _ => .opening fault
  | noCounter => .noCounter

def isReported (e : Error) : Bool := e.kind.isReported

def message : Error → String
  | emptyContents file => s!"Received empty contents for {file.describe}"
  | emptyText parser => s!"{parser} parser received empty contents"
  | noExtension file =>
    s!"File {file.describe} has no extension and no default parser is allowed"
  | unclaimedExtension extension file =>
    s!"No parser registered for extension {Text.quoted extension} of {file.describe}"
  | invalidAlias old new => s!"Neither {old.describe} nor {new.describe} is a valid extension"
  | invalidAliasSource old => s!"Alias source {old.describe} is not a valid extension"
  | invalidAliasTarget new => s!"Alias target {new.describe} is not a valid extension"
  | notAliasPair entry =>
    s!"Alias entries must be (extension, extension) pairs, got {entry.describe}"
  | unknownOptions names => "Unknown counter options: " ++ ", ".intercalate names
  | unknownParserId id known =>
    s!"Unknown parser id {id.describe}, expected one of: " ++ ", ".intercalate known
  | notOptions typeName => s!"Options must be CounterOptions or a mapping, got '{typeName}'"
  | notDefaultParser typeName => s!"default_parser must be a Parser, got '{typeName}'"
  | notExtensionItem typeName =>
    "add_extension expected a string or a list of strings, " ++
      s!"found an item of type '{typeName}'"
  | notExtension typeName =>
    s!"add_extension expected a string or a list of strings, found '{typeName}'"
  | notParserItem typeName => s!"add_parser expected Parser instances, found '{typeName}'"
  | notParser typeName =>
    s!"add_parser expected a Parser or a list of them, found '{typeName}'"
  | notAFile path => s!"Path is not a file: {path}"
  | notIterable typeName => s!"'{typeName}' object is not iterable"
  | unkeyable typeName => s!"unhashable type: '{typeName}'"
  | notUnpackable typeName => s!"cannot unpack non-iterable {typeName} object"
  | tooFewItems found => s!"not enough values to unpack (expected 2, got {found})"
  | tooManyItems => "too many values to unpack (expected 2)"
  | tooManyDigits =>
    s!"Exceeds the limit ({Text.digitLimit} digits) for integer string conversion; " ++
      "use sys.set_int_max_str_digits() to increase the limit"
  | noLowerCase typeName => s!"'{typeName}' object has no attribute 'lower'"
  | noLength typeName => s!"object of type '{typeName}' has no len()"
  | noPadding typeName => s!"'{typeName}' object has no attribute 'ljust'"
  | indexOutOfRange => "string index out of range"
  | refused length => s!"boom {length}"
  | linkLoop path => s!"Symlink loop from {Text.quoted path}"
  | undecodable cause => cause.message
  | notOpened fault path => s!"[Errno {fault.code}] {fault.message}: {Text.quoted path}"
  | noCounter => "no counter"

end Error

end SourceTally
