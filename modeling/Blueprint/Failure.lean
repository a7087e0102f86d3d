/-
# Failures and their wording

A failure is a cause; what is said about it is decided here and nowhere else.  Two families
matter to a compilation.  A *mistake* is one of the author of a definition: it is kept with
the entry it belongs to, and a pass over many definitions goes on after it.  A *mismatch* is
a definition that does not fit the structure of its class: it ends the pass.  The others come
from reading text, files and modules.
-/
import Blueprint.Catalog.Defect
import Blueprint.Json.Reader
import Blueprint.Text.Base64
import Blueprint.Text.Utf8
import Blueprint.Value.Written

namespace Blueprint

/-- Why a definition and the class it is for do not fit, or a plan cannot be rendered. -/
inductive Mismatch where
  /-- The path names a class that no one else can name. -/
  | anonymousClass
  /-- The owner has no such field. -/
  | fieldMissing (owner : Value) (field : Text)
  /-- The field is not public. -/
  | fieldNotPublic (owner field : Text)
  /-- The field cannot be written. -/
  | fieldReadOnly (owner field : Text)
  /-- The class has no such method. -/
  | methodMissing (className method : Text)
  /-- The mark for a declared default where no default can be declared. -/
  | misplacedDefault
  /-- A nested definition where nothing is known about classes. -/
  | noClasses (className : Text)
  /-- A value that is no operand. -/
  | unsupportedValue (value : Value)
  /-- A function name that is no identifier. -/
  | factoryName (name : Text)
  /-- A class without module that is not built in. -/
  | unqualifiedClass (className : Text)
  /-- Something other than an instruction. -/
  | unsupportedInstruction (value : Value)
  /-- An operand that has no literal. -/
  | unsupportedConstant (value : Value)

/-- What does not fit, in words. -/
def Mismatch.message : Mismatch → Text
  | anonymousClass => "Cannot compile anonymous classes"
  | fieldMissing owner field => "Field " ++ owner.text ++ "." ++ field ++ " does not exist"
  | fieldNotPublic owner field =>
    "Unable to compile access to non-public field " ++ owner ++ "." ++ field
  | fieldReadOnly owner field =>
    "Unable to compile write access to read-only field " ++ owner ++ "." ++ field
  | methodMissing className method =>
    "Method " ++ className ++ "." ++ method ++ "() does not exist"
  | misplacedDefault => "USE_DEFAULT is only valid as a parameter binding."
  | noClasses className =>
    "Cannot compile nested definition for " ++ className ++ " without an object compiler."
  | unsupportedValue value =>
    "Unsupported value of type " ++ value.typeName ++ ": " ++ value.display
  | factoryName name => "Invalid factory name: " ++ Text.quote name
  | unqualifiedClass className =>
    "Cannot emit a reference to unqualified class " ++ Text.quote className
  | unsupportedInstruction value => "Unsupported instruction: " ++ value.display
  | unsupportedConstant value => "Unsupported constant value: " ++ value.display

/-- What the author of a definition did wrong. -/
inductive Mistake where
  /-- The class of the entry does not exist. -/
  | missingClass (name : Value)
  /-- The class of the entry cannot be instantiated. -/
  | notInstantiable (name : Value)
  /-- A parameter without value and without default. -/
  | unboundParameter (parameter callable : Text)
  /-- A parameter without value whose default cannot be read. -/
  | unreadableDefault (parameter callable : Text)
  /-- A parameter without value whose default does not compile. -/
  | uncompilableDefault (parameter callable : Text) (cause : Mismatch)
  /-- A class that does not exist. -/
  | unknownClass (path : Value)
  /-- A constructor whose parameters cannot be read. -/
  | unreadableConstructor (className detail : Text)
  /-- A method whose parameters cannot be read. -/
  | unreadableSignature (method className detail : Text)
  /-- An entry that is no object. -/
  | entryShape (name : Value)
  /-- Keys of an entry that mean nothing. -/
  | unknownKeys (name : Value) (keys : List Text)
  /-- An entry without a class. -/
  | classShape (name : Value)
  /-- A lazy flag that is no truth value. -/
  | lazyShape (name : Value)
  /-- Fields that are no object. -/
  | fieldsShape
  /-- Methods that are no list. -/
  | methodsShape
  /-- A method without a name. -/
  | methodShape
  /-- An argument whose key is no position. -/
  | argumentKey (label key : Text)
  /-- Arguments that are neither list nor object. -/
  | argumentsShape (label : Text)
  /-- Bytes that are not given as text. -/
  | bytesType (typeName : Text)
  /-- Bytes that are not in base 64. -/
  | bytesText (fault : Text.Base64.Fault)
  /-- A nested entry that is no object. -/
  | nestedShape
  /-- A file that holds no object. -/
  | fileShape (path : Text)
  /-- A mistake that someone else found. -/
  | stated (text : Text)

/-- The way a callable is named in messages. -/
def callableText (name : Text) : Text := name ++ "()"

/-- An entry at the start of a message. -/
def entryText (name : Value) : Text := "Entry \"" ++ name.text ++ "\""

/-- What is wrong, in words. -/
def Mistake.message : Mistake → Text
  | missingClass name => entryText name ++ " cannot be compiled: the class doesn't exist"
  | notInstantiable name =>
    entryText name ++ " cannot be compiled: the class is not instantiable"
  | unboundParameter parameter callable =>
    "Parameter $" ++ parameter ++ " of " ++ callableText callable ++
      " has no value defined or guessable"
  | unreadableDefault parameter callable =>
    "The parameter \"" ++ parameter ++ "\" of " ++ callableText callable ++
      " has no value defined or guessable. It has a default value, but the default value can't" ++
      " be read through introspection because it belongs to a builtin routine or is" ++
      " produced by a default factory."
  | uncompilableDefault parameter callable cause =>
    "The default value of parameter \"" ++ parameter ++ "\" of " ++ callableText callable ++
      " cannot be compiled: " ++ cause.message
  | unknownClass path => "Class " ++ path.text ++ " does not exist"
  | unreadableConstructor className detail =>
    "The constructor of " ++ className ++ " cannot be read through introspection: " ++ detail
  | unreadableSignature method className detail =>
    "The signature of " ++ callableText method ++ " on " ++ className ++
      " cannot be read through introspection: " ++ detail
  | entryShape name => entryText name ++ " must be an object."
  | unknownKeys name keys =>
    entryText name ++ " has unknown key(s): " ++ Text.intercalate ", " keys ++ "."
  | classShape name => entryText name ++ " must declare a \"class\" string."
  | lazyShape name => entryText name ++ ": \"lazy\" must be a boolean."
  | fieldsShape => "\"fields\" must be an object."
  | methodsShape => "\"methods\" must be a list."
  | methodShape => "Each method binding needs a \"name\" string."
  | argumentKey label key =>
    "Arguments of " ++ label ++ " must be keyed by position, got '" ++ key ++ "'."
  | argumentsShape label => "Arguments of " ++ label ++ " must be a list or an object."
  | bytesType typeName =>
    "\"$bytes\" must hold base64 text: argument should be a bytes-like object or ASCII string, " ++
      "not '" ++ typeName ++ "'"
  | bytesText fault => "\"$bytes\" must hold base64 text: " ++ fault.message
  | nestedShape => "\"$create\" must wrap an entry object."
  | fileShape path => "Definition file " ++ path ++ " must contain a JSON object."
  | stated text => text

/-- A mistake with the entry it belongs to, if it belongs to one. -/
structure EntryMistake where
  /-- What is wrong. -/
  cause : Mistake
  /-- The name of the entry. -/
  entry : Option Value

/-- The message of a mistake.  It names its entry: where the message itself does not, between
double quotes, the name follows on a line of its own. -/
def EntryMistake.message (m : EntryMistake) : Text :=
  match m.entry with
  | none => m.cause.message
  | some name =>
    if Text.occursIn ("\"" ++ name.text ++ "\"") m.cause.message then m.cause.message
    else m.cause.message ++ "\nEntry: " ++ name.text

/-- What is wrong with a file. -/
inductive FileFault where
  /-- There is no such file. -/
  | missing
  /-- There is a file where a directory is to be made. -/
  | occupied
  /-- There is a file where a directory is needed. -/
  | notDirectory
  /-- There is a directory where a file is needed. -/
  | isDirectory
  /-- A name is too long, or the whole path. -/
  | longName
deriving DecidableEq, Repr

/-- What is wrong with a file, in words. -/
def FileFault.message : FileFault → Text
  | missing => "[Errno 2] No such file or directory"
  | occupied => "[Errno 17] File exists"
  | notDirectory => "[Errno 20] Not a directory"
  | isDirectory => "[Errno 21] Is a directory"
  | longName => "[Errno 36] File name too long"

/-- Why something could not be done. -/
inductive Failure where
  /-- A mistake in a definition. -/
  | mistake (m : EntryMistake)
  /-- The mistakes of a pass over many definitions. -/
  | mistakes (ms : List EntryMistake)
  /-- A definition that does not fit its class, or a plan that cannot be rendered. -/
  | mismatch (cause : Mismatch)
  /-- Two entries of one name. -/
  | duplicateEntry (name : Value)
  /-- Two types of one name. -/
  | duplicateType (name : Text)
  /-- A position that is no natural number. -/
  | positionInvalid (value : Value)
  /-- An argument of a binding was to be changed. -/
  | fixedArguments
  /-- The name of an argument that names no position. -/
  | positionName (key : Text)
  /-- Digits that are no decimal numeral. -/
  | notDecimal (text : Text)
  /-- A whole number with too many digits: how many, where they were to be read, and nothing where
  the number was to be written. -/
  | longNumber (digits : Option Nat)
  /-- Base 64 beyond the basic characters. -/
  | foreignBase64
  /-- A text that is not JSON. -/
  | json (text : List Char) (fault : Json.Reader.Fault)
  /-- Bytes that are not UTF-8. -/
  | utf8 (fault : Text.Utf8.Fault)
  /-- A text that cannot be written. -/
  | unencodable (fault : Text.Utf8.Unencodable)
  /-- A file that cannot be used. -/
  | file (fault : FileFault) (path : Text)
  /-- A path with the character that no path may hold. -/
  | nullInPath
  /-- A module that cannot be imported: the module that is missing, if it is known. -/
  | moduleMissing (name : Option Text) (text : Text)
  /-- A module that cannot be made, or an attribute of a class that cannot be taken. -/
  | defect (d : Catalog.Defect)
  /-- A module path that starts with a dot. -/
  | relativeImport (path : Text)
  /-- A key that cannot be one. -/
  | unhashable (typeName : Text)
  /-- A name that is no text and has no characters. -/
  | noItems (typeName : Text)
  /-- A class path in which nothing can be searched. -/
  | notSearchable (typeName : Text)
  /-- Bytes, in which no text can be searched. -/
  | needsBytes
  /-- A value that lacks an operation of texts or objects. -/
  | noOperation (typeName operation : Text)
  /-- Two values that have no order. -/
  | incomparable (left right : Text)
  /-- An item that is no text where texts are put together: its place and its type. -/
  | notText (place : Nat) (typeName : Text)
  /-- An argument that is given in order and by name. -/
  | repeatedArgument (callable name : Text)
  /-- A value that JSON text cannot hold. -/
  | notSerializable (typeName : Text)
  /-- A key that JSON text cannot hold. -/
  | keyType (typeName : Text)
  /-- Declared defaults that need each other. -/
  | circularDefaults
  /-- No room is left on the stack. -/
  | stackExhausted
  /-- No tool server is at hand. -/
  | serverMissing
  /-- A tool server that tools cannot be registered with. -/
  | serverUnsupported

/-- The items of a value that has some: points of a text, bytes as numbers, items of a collection,
or keys of a dictionary. -/
def Value.items : Value → Except Failure (List Value)
  | .str s | .derived _ (.str s) => .ok (s.points.map fun p => .str ⟨[p]⟩)
  | .bytes b | .derived _ (.bytes b) => .ok (b.map fun byte => .int byte.toNat)
  | .list items | .tuple items | .set items => .ok items
  | .dict entries => .ok (entries.map Prod.fst)
  | v => .error (.noItems v.typeName)

/-- Whether a compilation failed, as opposed to what it reads and writes. -/
def Failure.isCompilation : Failure → Bool
  | mistake _ | mistakes _ | mismatch _ => true
  | _ => false

/-- What is said of a number with too many digits to be written. -/
def unwrittenText : Text :=
  "Exceeds the limit (" ++ toString Json.Reader.digitLimit ++ " digits) for integer string " ++
    "conversion; use sys.set_int_max_str_digits() to increase the limit"

/-- The most that is quoted of digits that are no decimal numeral. -/
def quotedDigits : Nat := 200

/-- What went wrong, in words. -/
def Failure.message : Failure → Text
  | mistake m => m.message
  | mistakes ms =>
    Text.intercalate "\n" ((toString ms.length ++ " definition(s) cannot be compiled:") ::
      ms.map fun m => "- " ++ m.message)
  | mismatch cause => cause.message
  | duplicateEntry name =>
    if name.isTextWritten then "Entry '" ++ name.text ++ "' is defined more than once."
    else unwrittenText
  | duplicateType name => "Type schema '" ++ name ++ "' already declared."
  | positionInvalid value =>
    if value.isWritten then
      "Parameter index must be a non-negative int, got " ++ value.display ++ "."
    else unwrittenText
  | fixedArguments => "'mappingproxy' object does not support item assignment"
  | positionName key => "Indexed bindings must be named p<N>, got '" ++ key ++ "'."
  | notDecimal text =>
    "invalid literal for int() with base 10: " ++
      ⟨(Text.quote text).points.take quotedDigits⟩
  | longNumber (some digits) => (Json.Reader.Fault.longNumber digits).message []
  | longNumber none => unwrittenText
  | foreignBase64 => "string argument should contain only ASCII characters"
  | json text fault => fault.message text
  | utf8 fault => fault.message
  | unencodable fault => fault.message
  | file fault path => fault.message ++ ": " ++ Text.quote path
  | nullInPath => "embedded null byte"
  | moduleMissing _ text => text
  | defect d => d.message
  | relativeImport path =>
    "the 'package' argument is required to perform a relative import for " ++ Text.quote path
  | unhashable typeName => "unhashable type: '" ++ typeName ++ "'"
  | noItems typeName => "'" ++ typeName ++ "' object is not iterable"
  | notSearchable typeName => "argument of type '" ++ typeName ++ "' is not iterable"
  | needsBytes => "a bytes-like object is required, not 'str'"
  | noOperation typeName operation =>
    "'" ++ typeName ++ "' object has no attribute '" ++ operation ++ "'"
  | incomparable left right =>
    "'<' not supported between instances of '" ++ left ++ "' and '" ++ right ++ "'"
  | notText place typeName =>
    "sequence item " ++ toString place ++ ": expected str instance, " ++ typeName ++ " found"
  | repeatedArgument callable name =>
    callableText callable ++ " got multiple values for argument '" ++ name ++ "'"
  | notSerializable typeName => "Object of type " ++ typeName ++ " is not JSON serializable"
  | keyType typeName =>
    "keys must be str, int, float, bool or None, not " ++ typeName
  | circularDefaults | stackExhausted => "maximum recursion depth exceeded"
  | serverMissing =>
    "fastmcp is not installed. Install objcompiler[mcp] or pass mcp_cls explicitly."
  | serverUnsupported =>
    "Provided MCP class does not expose a supported registration API " ++
      "(expected .tool(...) or .add_tool(...))."

end Blueprint
