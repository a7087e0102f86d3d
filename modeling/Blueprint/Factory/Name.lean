/-
# Names of factories

The factory of an entry is named after the entry: every character that is neither letter nor
number nor underscore becomes an underscore.  A name that is already taken gets the first free
number from two on, so different entries always have different factories.
-/
import Blueprint.Entries
import Blueprint.Failure
import Blueprint.Text.Alphanumeric
import Blueprint.Text.Basic

namespace Blueprint.Factory

/-- What the name of every factory starts with. -/
def namePrefix : Text := "build_"

/-- A point of an entry as it stands in the name of the factory. -/
def sanitizePoint (p : Point) : Point :=
  if p.isIn Text.isAlphanumeric then p else .char '_'

/-- The name of an entry as part of a name. -/
def sanitize (entry : Text) : Text :=
  if entry.isEmpty then "entry" else ⟨entry.points.map sanitizePoint⟩

/-- A name with a number. -/
def numbered (base : Text) (number : Nat) : Text :=
  base ++ "_" ++ toString number

/-- The first numbered name from a number on that is not taken, of so many tried; the one after
them if all are. -/
def firstFree (used : List Text) (base : Text) : Nat → Nat → Text
  | 0, number => numbered base number
  | tries + 1, number =>
    if used.contains (numbered base number) then firstFree used base tries (number + 1)
    else numbered base number

/-- A name that is not taken.  Among as many numbered names as names are taken, and one more,
there is always a free one. -/
def freshName (used : List Text) (base : Text) : Text :=
  if used.contains base then firstFree used base used.length 2 else base

/-- Names for labels in order, no two the same, given those that are taken. -/
def uniqueNames (used : List Text) : List Text → List Text
  | [] => []
  | label :: rest =>
    let name := freshName used (namePrefix ++ label)
    name :: uniqueNames (name :: used) rest

/-- The names of the factories of entries, by entry. -/
def names (entries : List Text) : List (Text × Text) :=
  Entries.ofList (entries.zip (uniqueNames [] (entries.map sanitize)))

/-! ## Entries that are no texts -/

/-- Whether bytes are letters and digits, and some. -/
def isAlphanumericBytes (bytes : List UInt8) : Bool :=
  !bytes.isEmpty && bytes.all fun b => (Char.ofNat b.toNat).isAlphanum

/-- An item of an entry as it stands in the name of the factory: it stays if it is alphanumeric.
Only texts and bytes can be asked for that. -/
def sanitizeItem : Value → Except Failure Value
  | .str s =>
    let stays := s == "_" || (!s.isEmpty && s.points.all (Point.isIn Text.isAlphanumeric))
    .ok (if stays then .str s else .str "_")
  | .bytes b => .ok (if isAlphanumericBytes b then .bytes b else .str "_")
  | v => .error (.noOperation v.typeName "isalnum")

/-- Items put together, if all of them are texts.  `place` is the place of the first. -/
def joinItems (place : Nat) : List Value → Except Failure Text
  | [] => .ok ""
  | .str s :: rest => (joinItems (place + 1) rest).map (s ++ ·)
  | v :: _ => .error (.notText place v.typeName)

/-- What an entry puts into the name of its factory: a text character by character, anything else
item by item. -/
def label : Value → Except Failure Text
  | .str s => .ok (sanitize s)
  | entry => do
    let joined ← joinItems 0 (← (← entry.items).mapM sanitizeItem)
    return if joined.isEmpty then "entry" else joined

end Blueprint.Factory
