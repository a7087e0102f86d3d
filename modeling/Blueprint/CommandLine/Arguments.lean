/-
# Arguments of the command line

The program takes the path of a file and options.  A long option may be cut short as long as it
stays unique, and its value may follow an equals sign; short options may share one dash; after
two dashes nothing is an option.  What belongs to no option is the path, once, and what is then
left over is refused at the end.
-/
import Blueprint.Text.Digit
import Blueprint.Text.Quoted

namespace Blueprint.CommandLine

/-- The options without a value. -/
inductive Flag where
  /-- Show how the program is used. -/
  | help
  /-- Log details. -/
  | verbose
deriving DecidableEq, Repr

/-- The options with a value. -/
inductive Setting where
  /-- The directory for the results. -/
  | output
  /-- The form of the result that is printed. -/
  | format
  /-- A further directory for modules. -/
  | path
deriving DecidableEq, Repr

/-- An option. -/
inductive Switch where
  /-- One without a value. -/
  | flag (flag : Flag)
  /-- One with a value. -/
  | setting (setting : Setting)
deriving DecidableEq, Repr

/-- The options by their names, in order. -/
def switches : List (String × Switch) :=
  [("-h", .flag .help), ("--help", .flag .help), ("--output", .setting .output),
    ("--format", .setting .format), ("--path", .setting .path), ("-v", .flag .verbose),
    ("--verbose", .flag .verbose)]

/-- The names of an option, as messages give them. -/
def Switch.label (s : Switch) : String :=
  "/".intercalate ((switches.filter fun entry => entry.2 == s).map Prod.fst)

/-- The form of the result that is printed. -/
inductive Format where
  /-- The payload. -/
  | json
  /-- The module of factories. -/
  | python
deriving DecidableEq, Repr

/-- The forms by their names. -/
def formats : List (String × Format) :=
  [("json", .json), ("python", .python)]

/-- What the arguments ask for. -/
structure Settings where
  /-- The path of the definitions. -/
  definitions : String
  /-- The directory for the results. -/
  output : Option String
  /-- The form of the result that is printed. -/
  format : Format
  /-- Further directories for modules. -/
  paths : List String
  /-- Whether details are logged. -/
  verbose : Bool
deriving DecidableEq, Repr

/-- Why the program ends before it starts. -/
inductive Refusal where
  /-- It was asked how it is used. -/
  | help
  /-- The name of an option that is cut too short. -/
  | ambiguous (argument : String) (names : List String)
  /-- An option without its value. -/
  | valueMissing (setting : Setting)
  /-- A value for an option that has none. -/
  | valueIgnored (flag : Flag) (value : String)
  /-- A form that there is not. -/
  | unknownFormat (value : String)
  /-- No path. -/
  | definitionsMissing
  /-- Arguments that belong to nothing. -/
  | unrecognized (arguments : List String)
deriving DecidableEq, Repr

/-- What is said about an option. -/
def optionText (option : Switch) (text : Text) : Text :=
  "argument " ++ option.label ++ ": " ++ text

/-- Why the program ends, in words; nothing if it was only asked how it is used. -/
def Refusal.message? : Refusal → Option Text
  | help => none
  | ambiguous argument names =>
    some ↑("ambiguous option: " ++ argument ++ " could match " ++ ", ".intercalate names)
  | valueMissing setting => some (optionText (.setting setting) "expected one argument")
  | valueIgnored flag value =>
    some (optionText (.flag flag) ("ignored explicit argument " ++ Text.quote value))
  | unknownFormat value =>
    some (optionText (.setting .format)
      ("invalid choice: " ++ Text.quote value ++ " (choose from " ++
        Text.intercalate ", " (formats.map fun f => Text.quote f.1) ++ ")"))
  | definitionsMissing => some ↑"the following arguments are required: definitions"
  | unrecognized arguments =>
    some ↑("unrecognized arguments: " ++ " ".intercalate arguments)

/-! ## Sorting arguments -/

/-- A value that is attached to the name of an option. -/
structure Attached where
  /-- Whether an equals sign stands between the two. -/
  isExplicit : Bool
  /-- The value. -/
  value : String
deriving DecidableEq, Repr

/-- What an argument is on its own. -/
inductive Token where
  /-- An option without a value, and whether its long name is used. -/
  | flag (flag : Flag) (isLong : Bool) (attached : Option Attached)
  /-- An option with a value. -/
  | setting (setting : Setting) (attached : Option Attached)
  /-- Something that looks like an option but is none. -/
  | unknown (text : String)
  /-- Anything else. -/
  | plain (text : String)
  /-- The mark after which nothing is an option. -/
  | mark
deriving DecidableEq, Repr

/-- The two sides of the first equals sign. -/
def splitAtEquals? (text : String) : Option (String × String) :=
  match text.toList.dropWhile (· != '=') with
  | [] => none
  | _ :: value => some (String.ofList (text.toList.takeWhile (· != '=')), String.ofList value)

/-- Whether a name has two dashes. -/
def isLongName (name : String) : Bool :=
  match name.toList with
  | '-' :: '-' :: _ => true
  | _ => false

/-- An option under a name. -/
def Token.ofSwitch (name : String) (attached : Option Attached) : Switch → Token
  | .flag f => .flag f (isLongName name) attached
  | .setting s => .setting s attached

/-- The option of a name. -/
def switchOf? (name : String) : Option Switch :=
  (switches.find? fun entry => entry.1 == name).map Prod.snd

/-- Whether one text starts with another. -/
def startsWith (text start : String) : Bool :=
  start.toList.isPrefixOf text.toList

/-- The options that a long name may be short for. -/
def longMatches (text : String) : List (String × Token) :=
  let (name, attached) : String × Option Attached :=
    match splitAtEquals? text with
    | some (name, value) => (name, some ⟨true, value⟩)
    | none => (text, none)
  (switches.filter fun entry => startsWith entry.1 name).map fun entry =>
    (entry.1, .ofSwitch entry.1 attached entry.2)

/-- The options that a name with one dash may start with. -/
def shortMatches (text : String) : List (String × Token) :=
  let first := String.ofList (text.toList.take 2)
  let value := String.ofList (text.toList.drop 2)
  switches.filterMap fun entry =>
    if entry.1 == first then some (entry.1, .ofSwitch entry.1 (some ⟨false, value⟩) entry.2)
    else if startsWith entry.1 text then some (entry.1, .ofSwitch entry.1 none entry.2)
    else none

/-- Whether all characters are decimal digits. -/
def allDecimal (text : List Char) : Bool :=
  text.all fun c => (Text.decimalDigit? c).isSome

/-- The characters of an argument without the line feed that may end it. -/
def withoutLineEnd (text : List Char) : List Char :=
  if text.getLast? == some '\n' then text.dropLast else text

/-- Whether a text is a negative number, which no option looks like.  A line feed may end it. -/
def isNegativeNumber (text : String) : Bool :=
  match withoutLineEnd text.toList with
  | '-' :: body =>
    let whole := body.takeWhile fun c => (Text.decimalDigit? c).isSome
    match body.dropWhile fun c => (Text.decimalDigit? c).isSome with
    | [] => !whole.isEmpty
    | '.' :: fraction => !fraction.isEmpty && allDecimal fraction
    | _ => false
  | _ => false

/-- What an argument is that starts with a dash and is no option by its full name. -/
def guess (text : String) : Except Refusal Token :=
  let found := if isLongName text then longMatches text else shortMatches text
  match found with
  | [(_, token)] => .ok token
  | _ :: _ :: _ => .error (.ambiguous text (found.map Prod.fst))
  | [] =>
    if isNegativeNumber text || text.toList.contains ' ' then .ok (.plain text)
    else .ok (.unknown text)

/-- What an argument is. -/
def classify (text : String) : Except Refusal Token :=
  match text.toList with
  | '-' :: _ :: _ =>
    match switchOf? text with
    | some s => .ok (.ofSwitch text none s)
    | none =>
      match splitAtEquals? text with
      | none => guess text
      | some (name, value) =>
        match switchOf? name with
        | some s => .ok (.ofSwitch name (some ⟨true, value⟩) s)
        | none => guess text
  | _ => .ok (.plain text)

/-- What each argument is. -/
def tokens : List String → Except Refusal (List Token)
  | [] => .ok []
  | text :: rest =>
    if text == "--" then .ok (.mark :: rest.map .plain)
    else
      match classify text with
      | .error refusal => .error refusal
      | .ok token => (tokens rest).map (token :: ·)

/-! ## Reading arguments -/

/-- What was read so far. -/
structure Reading where
  /-- The path of the definitions. -/
  definitions : Option String
  /-- The directory for the results. -/
  output : Option String
  /-- The form of the result that is printed. -/
  format : Format
  /-- Further directories for modules. -/
  paths : List String
  /-- Whether details are logged. -/
  verbose : Bool
  /-- What belongs to nothing. -/
  extras : List String

namespace Reading

/-- Nothing was read. -/
def start : Reading :=
  { definitions := none, output := none, format := .json, paths := [], verbose := false,
    extras := [] }

/-- Leaves an argument over. -/
def leave (r : Reading) (text : String) : Reading :=
  { r with extras := r.extras ++ [text] }

/-- Sets the path, which is given once; what comes later is left over. -/
def setDefinitions (r : Reading) (text : String) : Reading :=
  match r.definitions with
  | none => { r with definitions := some text }
  | some _ => r.leave text

/-- Sets an option that has no value. -/
def setFlag (r : Reading) : Flag → Except Refusal Reading
  | .help => .error .help
  | .verbose => .ok { r with verbose := true }

/-- Sets options that have no value one after the other. -/
def setFlags (r : Reading) : List Flag → Except Refusal Reading
  | [] => .ok r
  | f :: rest =>
    match r.setFlag f with
    | .error refusal => .error refusal
    | .ok r => r.setFlags rest

/-- Sets an option to a value. -/
def setValue (r : Reading) (value : String) : Setting → Except Refusal Reading
  | .output => .ok { r with output := some value }
  | .format =>
    match formats.find? fun f => f.1 == value with
    | some (_, format) => .ok { r with format }
    | none => .error (.unknownFormat value)
  | .path => .ok { r with paths := r.paths ++ [value] }

/-- The options that share one dash with `flag`, in order, then what is left over of them. -/
def shared (flag : Flag) (isExplicit : Bool) :
    List Char → Except Refusal (List Flag × Option String)
  | [] => .error (.valueIgnored flag "")
  | c :: rest =>
    if isExplicit || c == '-' then .error (.valueIgnored flag (String.ofList (c :: rest)))
    else
      match switchOf? (String.ofList ['-', c]) with
      | some (.flag next) =>
        match rest with
        | [] => .ok ([flag, next], none)
        | '=' :: value => .error (.valueIgnored next (String.ofList value))
        | _ => (shared next false rest).map fun (more, extra) => (flag :: more, extra)
      | _ => .ok ([flag], some (String.ofList ('-' :: c :: rest)))

/-- Sets an option without value to which something is attached. -/
def setAttached (r : Reading) (flag : Flag) (isLong : Bool) (attached : Attached) :
    Except Refusal Reading :=
  if isLong then .error (.valueIgnored flag attached.value)
  else
    match shared flag attached.isExplicit attached.value.toList with
    | .error refusal => .error refusal
    | .ok (flags, extra) =>
      (r.setFlags flags).map fun r =>
        match extra with
        | some text => r.leave text
        | none => r

/-- Reads arguments in order.  An option that has a value takes the next argument, unless that is
an option too.  The mark is left over where it does not stand beside the path. -/
def read (r : Reading) : List Token → Except Refusal Reading
  | [] => .ok r
  | .unknown text :: rest => (r.leave text).read rest
  | .flag f isLong attached :: rest =>
    let next :=
      match attached with
      | none => r.setFlag f
      | some a => r.setAttached f isLong a
    match next with
    | .error refusal => .error refusal
    | .ok r => r.read rest
  | .setting s (some a) :: rest =>
    match r.setValue a.value s with
    | .error refusal => .error refusal
    | .ok r => r.read rest
  | .setting s none :: .plain value :: rest =>
    match r.setValue value s with
    | .error refusal => .error refusal
    | .ok r => r.read rest
  | .setting s none :: _ => .error (.valueMissing s)
  | .plain text :: .mark :: rest =>
    match r.definitions with
    | none => (r.setDefinitions text).read rest
    | some _ => ((r.leave text).leave "--").read rest
  | .plain text :: rest => (r.setDefinitions text).read rest
  | .mark :: .plain text :: rest =>
    match r.definitions with
    | none => (r.setDefinitions text).read rest
    | some _ => ((r.leave "--").leave text).read rest
  | .mark :: rest => (r.leave "--").read rest

/-- What the arguments ask for, once all are read. -/
def settings (r : Reading) : Except Refusal Settings :=
  match r.definitions with
  | none => .error .definitionsMissing
  | some definitions =>
    if r.extras.isEmpty then
      .ok { definitions, output := r.output, format := r.format, paths := r.paths,
            verbose := r.verbose }
    else .error (.unrecognized r.extras)

end Reading

/-- What arguments ask for. -/
def parse (arguments : List String) : Except Refusal Settings :=
  match tokens arguments with
  | .error refusal => .error refusal
  | .ok ts =>
    match Reading.start.read ts with
    | .error refusal => .error refusal
    | .ok r => r.settings

end Blueprint.CommandLine
