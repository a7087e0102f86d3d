/-
# Reading JSON text

A reader over the characters of a text.  Every step takes the rest of the text and hands on a
shorter rest, so the place of a fault is known from the rest at which it is found.  A fault is
what was expected there; line, column and index are computed only for the message.

Beyond the standard, `NaN`, `Infinity` and `-Infinity` are numbers, and a name that occurs
twice in an object keeps its first place and takes its last value.
-/
import Blueprint.Json.Basic

namespace Blueprint.Json.Reader

/-- What is wrong at a place of a text. -/
inductive Flaw where
  /-- The text starts with a byte order mark. -/
  | byteOrderMark
  /-- No value starts here. -/
  | value
  /-- No property name starts here. -/
  | propertyName
  /-- No colon after a property name. -/
  | colon
  /-- No comma, nor the end of the sequence or object. -/
  | comma
  /-- The text goes on after its value. -/
  | extraData
  /-- The string that starts here does not end. -/
  | unterminated
  /-- A control character within a string. -/
  | controlCharacter
  /-- An escape that there is not. -/
  | escape
  /-- An escape by code point that is not four hexadecimal digits. -/
  | codeEscape
deriving DecidableEq, Repr

/-- A flaw in words. -/
def Flaw.message : Flaw → String
  | byteOrderMark => "Unexpected UTF-8 BOM (decode using utf-8-sig)"
  | value => "Expecting value"
  | propertyName => "Expecting property name enclosed in double quotes"
  | colon => "Expecting ':' delimiter"
  | comma => "Expecting ',' delimiter"
  | extraData => "Extra data"
  | unterminated => "Unterminated string starting at"
  | controlCharacter => "Invalid control character at"
  | escape => "Invalid \\escape"
  | codeEscape => "Invalid \\uXXXX escape"

/-- Why a text cannot be read. -/
inductive Fault where
  /-- The rest of the text is not as it should be. -/
  | malformed (flaw : Flaw) (rest : List Char)
  /-- A whole number with too many digits. -/
  | longNumber (digits : Nat)
deriving DecidableEq, Repr

/-- A step of the reader: what it read and the rest of the text. -/
abbrev Step (α : Type) := Except Fault (α × List Char)

/-- The most digits a whole number may have. -/
def digitLimit : Nat := 4300

/-! ## Blanks and literals -/

/-- The characters that may stand between the parts of a text. -/
def isBlank (c : Char) : Bool :=
  c == ' ' || c == '\t' || c == '\n' || c == '\r'

/-- The rest of the text after its leading blanks. -/
def skipBlanks (text : List Char) : List Char :=
  text.dropWhile isBlank

/-- The rest of the text after a word, if it starts with the word. -/
def afterWord? (word : List Char) (text : List Char) : Option (List Char) :=
  if word.isPrefixOf text then some (text.drop word.length) else none

/-! ## Strings -/

/-- The character that an escape letter stands for. -/
def escapedChar? : Char → Option Char
  | '"' => some '"'
  | '\\' => some '\\'
  | '/' => some '/'
  | 'b' => some '\x08'
  | 'f' => some '\x0c'
  | 'n' => some '\n'
  | 'r' => some '\r'
  | 't' => some '\t'
  | _ => none

/-- The value of a hexadecimal digit. -/
def hexDigit? (c : Char) : Option Nat :=
  if '0' ≤ c ∧ c ≤ '9' then some (c.toNat - '0'.toNat)
  else if 'a' ≤ c ∧ c ≤ 'f' then some (c.toNat - 'a'.toNat + 10)
  else if 'A' ≤ c ∧ c ≤ 'F' then some (c.toNat - 'A'.toNat + 10)
  else none

/-- The value of four hexadecimal digits. -/
def hexUnit? (a b c d : Char) : Option Nat := do
  let a ← hexDigit? a
  let b ← hexDigit? b
  let c ← hexDigit? c
  let d ← hexDigit? d
  return ((a * 16 + b) * 16 + c) * 16 + d

/-- Whether a unit is the first half of a surrogate pair. -/
def isHighSurrogate (n : Nat) : Bool := decide (0xd800 ≤ n) && decide (n < 0xdc00)

/-- Whether a unit is the second half of a surrogate pair. -/
def isLowSurrogate (n : Nat) : Bool := decide (0xdc00 ≤ n) && decide (n < 0xe000)

/-- The character of a surrogate pair. -/
def pairChar (high low : Nat) : Char :=
  Char.ofNat (0x10000 + (high - 0xd800) * 0x400 + (low - 0xdc00))

/-- Puts a point before what the following step reads. -/
def consPoint (p : Point) (step : Step (List Point)) : Step (List Point) :=
  step.map fun (ps, rest) => (p :: ps, rest)

/-- Four hexadecimal digits that are not the end of the text. -/
def codeUnit (text : List Char) : Except Fault Nat :=
  match text with
  | a :: b :: c :: d :: _ :: _ =>
    match hexUnit? a b c d with
    | some unit => .ok unit
    | none => .error (.malformed .codeEscape ('u' :: text))
  | _ => .error (.malformed .codeEscape ('u' :: text))

/-- Reads an escape by code point from after its letter on: the point and how many characters the
escape takes.  A first half of a pair looks for its second half in the escape after it, and stands
alone where it is not there. -/
def codeEscape (text : List Char) : Except Fault (Point × Nat) := do
  let unit ← codeUnit text
  if isHighSurrogate unit then
    match text.drop 4 with
    | '\\' :: 'u' :: rest =>
      if rest.length < 5 then return (.ofUnit unit, 4)
      let low ← codeUnit rest
      if isLowSurrogate low then return (.char (pairChar unit low), 10)
      return (.ofUnit unit, 4)
    | _ => return (.ofUnit unit, 4)
  else return (.ofUnit unit, 4)

/-- Reads the inside of a string up to and including its closing mark, but for the first `skip`
characters, which belong to an escape that was read.  `opening` is the text from the opening mark
on, where a string that does not end is reported. -/
def stringBody (opening : List Char) : Nat → List Char → Step (List Point)
  | _, [] => .error (.malformed .unterminated opening)
  | skip + 1, _ :: rest => stringBody opening skip rest
  | 0, '"' :: rest => .ok ([], rest)
  | 0, ['\\'] => .error (.malformed .unterminated opening)
  | 0, '\\' :: 'u' :: rest =>
    match codeEscape rest with
    | .ok (p, length) => consPoint p (stringBody opening length rest)
    | .error fault => .error fault
  | 0, '\\' :: letter :: rest =>
    match escapedChar? letter with
    | some c => consPoint (.char c) (stringBody opening 0 rest)
    | none => .error (.malformed .escape ('\\' :: letter :: rest))
  | 0, c :: rest =>
    if c.toNat < 0x20 then .error (.malformed .controlCharacter (c :: rest))
    else consPoint (.char c) (stringBody opening 0 rest)
termination_by structural _ text => text

/-! ## Numbers -/

/-- The digits of the whole part: a zero stands alone. -/
def wholePart : List Char → List Char × List Char
  | '0' :: rest => (['0'], rest)
  | text => (text.takeWhile Char.isDigit, text.dropWhile Char.isDigit)

/-- The digits after a point, if at least one follows it. -/
def fractionPart : List Char → List Char × List Char
  | '.' :: rest =>
    let digits := rest.takeWhile Char.isDigit
    if digits.isEmpty then ([], '.' :: rest) else (digits, rest.dropWhile Char.isDigit)
  | text => ([], text)

/-- The exponent, if there is a mark, perhaps a sign, and at least one digit. -/
def exponentPart : List Char → Option Int × List Char
  | [] => (none, [])
  | mark :: rest =>
    if mark == 'e' || mark == 'E' then
      let (negative, body) :=
        match rest with
        | '-' :: body => (true, body)
        | '+' :: body => (false, body)
        | body => (false, body)
      let digits := body.takeWhile Char.isDigit
      if digits.isEmpty then (none, mark :: rest)
      else
        let value : Int := Double.digitsValue digits
        (some (if negative then -value else value), body.dropWhile Char.isDigit)
    else (none, mark :: rest)

/-- Reads a number.  One with a fraction or an exponent is a double, any other is whole. -/
def number (text : List Char) : Step Json :=
  let (negative, unsigned) :=
    match text with
    | '-' :: rest => (true, rest)
    | rest => (false, rest)
  let (whole, rest) := wholePart unsigned
  if whole.isEmpty then .error (.malformed .value text)
  else
    let (fraction, rest) := fractionPart rest
    let (exponent, rest) := exponentPart rest
    if fraction.isEmpty && exponent.isNone then
      if digitLimit < whole.length then .error (.longNumber whole.length)
      else
        let value : Int := Double.digitsValue whole
        .ok (.int (if negative then -value else value), rest)
    else .ok (.float (Double.ofParts negative whole fraction (exponent.getD 0)), rest)

/-- The words that are values. -/
def words : List (List Char × Json) :=
  [("null".toList, .null), ("true".toList, .bool true), ("false".toList, .bool false),
    ("NaN".toList, .float .nan), ("Infinity".toList, .float (.infinity false)),
    ("-Infinity".toList, .float (.infinity true))]

/-- Reads a word or a number. -/
def scalar (text : List Char) : Step Json :=
  match words.findSome? fun (word, json) => (afterWord? word text).map fun rest => (json, rest) with
  | some found => .ok found
  | none => number text

/-! ## Values -/

mutual

/-- Reads a value that starts at the first character. -/
def value : Nat → List Char → Except Fault (Json × List Char)
  | 0, text => .error (.malformed .value text)
  | fuel + 1, text =>
    match text with
    | '"' :: rest => (stringBody text 0 rest).map fun (ps, rest) => (.str ⟨ps⟩, rest)
    | '{' :: rest =>
      match skipBlanks rest with
      | '}' :: rest => .ok (.object [], rest)
      | rest => (members fuel rest).map fun (ms, rest) => (.object (Entries.ofList ms), rest)
    | '[' :: rest =>
      match skipBlanks rest with
      | ']' :: rest => .ok (.array [], rest)
      | rest => (elements fuel rest).map fun (js, rest) => (.array js, rest)
    | _ => scalar text

/-- Reads the elements of a sequence and its closing bracket. -/
def elements : Nat → List Char → Except Fault (List Json × List Char)
  | 0, text => .error (.malformed .value text)
  | fuel + 1, text => do
    let (json, rest) ← value fuel text
    match skipBlanks rest with
    | ']' :: rest => return ([json], rest)
    | ',' :: rest =>
      let (more, rest) ← elements fuel (skipBlanks rest)
      return (json :: more, rest)
    | rest => .error (.malformed .comma rest)

/-- Reads the members of an object and its closing brace. -/
def members : Nat → List Char → Except Fault (List (Text × Json) × List Char)
  | 0, text => .error (.malformed .value text)
  | fuel + 1, text =>
    match text with
    | '"' :: rest => do
      let (name, rest) ← stringBody text 0 rest
      match skipBlanks rest with
      | ':' :: rest =>
        let (json, rest) ← value fuel (skipBlanks rest)
        match skipBlanks rest with
        | '}' :: rest => return ([(⟨name⟩, json)], rest)
        | ',' :: rest =>
          let (more, rest) ← members fuel (skipBlanks rest)
          return ((⟨name⟩, json) :: more, rest)
        | rest => .error (.malformed .comma rest)
      | rest => .error (.malformed .colon rest)
    | _ => .error (.malformed .propertyName text)

end

/-- Reads a whole text.  Between two nested calls at least every second one takes a character,
which bounds their depth. -/
def read (text : List Char) : Except Fault Json := do
  if text.head? == some '\ufeff' then throw (.malformed .byteOrderMark text)
  let (json, rest) ← value (2 * text.length + 2) (skipBlanks text)
  match skipBlanks rest with
  | [] => return json
  | rest => throw (.malformed .extraData rest)

/-- The line and the column, counted from one, of the place after some characters. -/
def lineAndColumn (before : List Char) : Nat × Nat :=
  (before.count '\n' + 1, (before.reverse.takeWhile (· != '\n')).length + 1)

/-- A fault of a text, in words. -/
def Fault.message (text : List Char) : Fault → String
  | malformed flaw rest =>
    let index := text.length - rest.length
    let (line, column) := lineAndColumn (text.take index)
    flaw.message ++ ": line " ++ toString line ++ " column " ++ toString column ++
      " (char " ++ toString index ++ ")"
  | longNumber digits =>
    "Exceeds the limit (" ++ toString digitLimit ++ " digits) for integer string conversion: " ++
      "value has " ++ toString digits ++
      " digits; use sys.set_int_max_str_digits() to increase the limit"

end Blueprint.Json.Reader
