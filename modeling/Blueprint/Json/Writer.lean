/-
# Writing JSON text

The written form has one item a line and two spaces for every level.  It holds basic Latin
characters only: every other point is escaped by its code, in two halves when it needs more than
sixteen bits.
-/
import Blueprint.Json.Basic
import Blueprint.Text.Quoted

namespace Blueprint.Json

/-- An escape by a sixteen bit unit. -/
def unitEscape (n : Nat) : List Char :=
  '\\' :: 'u' :: Text.hexDigits 4 n

/-- One character as it stands within a string. -/
def escapeChar (c : Char) : List Char :=
  if c == '"' || c == '\\' then ['\\', c]
  else if c == '\n' then ['\\', 'n']
  else if c == '\r' then ['\\', 'r']
  else if c == '\t' then ['\\', 't']
  else if c == '\x0c' then ['\\', 'f']
  else if c == '\x08' then ['\\', 'b']
  else if 0x20 ≤ c.toNat ∧ c.toNat < 0x7f then [c]
  else if c.toNat < 0x10000 then unitEscape c.toNat
  else
    unitEscape (0xd800 + (c.toNat - 0x10000) / 0x400) ++
      unitEscape (0xdc00 + (c.toNat - 0x10000) % 0x400)

/-- One point as it stands within a string. -/
def escapePoint : Point → List Char
  | .char c => escapeChar c
  | .half unit => unitEscape (Point.half unit).code

/-- A text between double quotes. -/
def quote (t : Text) : String :=
  String.ofList ('"' :: (t.points.flatMap escapePoint ++ ['"']))

/-- The text of a double; the three that are no finite numbers have names. -/
def doubleText : Double → String
  | .nan => "NaN"
  | .infinity negative => if negative then "-Infinity" else "Infinity"
  | x => x.toText

/-- The break before an item of a level. -/
def lineBreak (level : Nat) : String :=
  "\n" ++ String.ofList (List.replicate (2 * level) ' ')

/-- Items between brackets, each on a line of its own. -/
def bracketed (opening closing : String) (level : Nat) (items : List String) : String :=
  if items.isEmpty then opening ++ closing
  else
    opening ++ lineBreak (level + 1) ++ ("," ++ lineBreak (level + 1)).intercalate items ++
      lineBreak level ++ closing

mutual

/-- The text of a value at a level. -/
def write (level : Nat) : Json → String
  | .null => "null"
  | .bool b => if b then "true" else "false"
  | .int i => toString i
  | .float x => doubleText x
  | .str s => quote s
  | .array items => bracketed "[" "]" level (writeItems (level + 1) items)
  | .object members =>
    bracketed "\x7b" "\x7d" level (writeMembers (level + 1) members)

/-- The texts of the items of a sequence. -/
def writeItems (level : Nat) : List Json → List String
  | [] => []
  | item :: rest => write level item :: writeItems level rest

/-- The names of members with the texts of their values. -/
def writeMembers (level : Nat) : List (Text × Json) → List String
  | [] => []
  | (name, value) :: rest => (quote name ++ ": " ++ write level value) :: writeMembers level rest

end

/-- The text of a value. -/
def toText (json : Json) : String :=
  write 0 json

end Blueprint.Json
