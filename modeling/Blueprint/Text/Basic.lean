/-
# Texts

A text is a sequence of points.  Most points are characters.  The others are halves of surrogate
pairs, which are no characters, but an escape can put one of them into a text without the other.
Such a half is compared, ordered, quoted and escaped by its code, belongs to no class of
characters, and has no encoding.
-/

namespace Blueprint

/-- A point of a text. -/
inductive Point where
  /-- A character. -/
  | char (c : Char)
  /-- Half of a surrogate pair on its own. -/
  | half (unit : Fin 0x800)
deriving DecidableEq, Repr

namespace Point

/-- The code of a point. -/
def code : Point → Nat
  | char c => c.toNat
  | half unit => 0xd800 + unit

/-- The character that a point is, if it is one. -/
def char? : Point → Option Char
  | char c => some c
  | half _ => none

/-- Whether a point is a character of a class. -/
def isIn (characters : Char → Bool) : Point → Bool
  | char c => characters c
  | half _ => false

/-- The point of a sixteen bit unit. -/
def ofUnit (n : Nat) : Point :=
  if h : 0xd800 ≤ n ∧ n < 0xe000 then half ⟨n - 0xd800, by omega⟩ else char (Char.ofNat n)

/-- Order by code, point by point; of two sequences of which one starts with the other, the
shorter comes first. -/
def orderedBefore : List Point → List Point → Bool
  | [], _ => true
  | _ :: _, [] => false
  | a :: as, b :: bs => decide (a.code < b.code) || (a.code == b.code && orderedBefore as bs)

end Point

/-- A sequence of points. -/
structure Text where
  /-- The points. -/
  points : List Point
deriving DecidableEq, Repr

namespace Text

/-- The text of characters. -/
def ofChars (cs : List Char) : Text := ⟨cs.map .char⟩

/-- The text of a string. -/
def ofString (s : String) : Text := ofChars s.toList

instance : Coe String Text := ⟨ofString⟩

instance : Inhabited Text := ⟨⟨[]⟩⟩

instance : Append Text := ⟨fun a b => ⟨a.points ++ b.points⟩⟩

/-- Whether a text has no points. -/
def isEmpty (t : Text) : Bool := t.points.isEmpty

/-- The characters of a text, if all of its points are characters. -/
def chars? (t : Text) : Option (List Char) := t.points.mapM Point.char?

/-- The order of texts by their points. -/
def le (a b : Text) : Bool := Point.orderedBefore a.points b.points

/-- Whether a text starts with another. -/
def startsWith (start t : Text) : Bool := start.points.isPrefixOf t.points

/-- Texts in a row with a text between any two of them. -/
def intercalate (separator : Text) : List Text → Text
  | [] => ⟨[]⟩
  | [t] => t
  | t :: rest => t ++ separator ++ intercalate separator rest

/-- The parts of a sequence between the occurrences of a mark. -/
def partsAt {α : Type} [BEq α] (mark : α) : List α → List (List α)
  | [] => [[]]
  | a :: rest =>
    if a == mark then [] :: partsAt mark rest
    else
      match partsAt mark rest with
      | [] => [[a]]
      | first :: more => (a :: first) :: more

/-- The parts of a text between the occurrences of a mark. -/
def splitAt (mark : Char) (t : Text) : List Text :=
  (partsAt (.char mark) t.points).map Text.mk

/-- Whether points occur one after the other among others. -/
def occursAmong (part : List Point) : List Point → Bool
  | [] => part.isEmpty
  | p :: rest => part.isPrefixOf (p :: rest) || occursAmong part rest

/-- Whether a text occurs in another. -/
def occursIn (part t : Text) : Bool := occursAmong part.points t.points

@[simp] theorem points_append (a b : Text) : (a ++ b).points = a.points ++ b.points := rfl

theorem append_assoc (a b c : Text) : a ++ b ++ c = a ++ (b ++ c) := by
  cases a
  cases b
  cases c
  exact congrArg Text.mk (List.append_assoc ..)

/-- The characters of a string are those of its text. -/
theorem chars?_ofString (s : String) : (ofString s).chars? = some s.toList := by
  show (s.toList.map Point.char).mapM Point.char? = _
  induction s.toList with
  | nil => rfl
  | cons c cs ih => simp [List.mapM_cons, ih, Point.char?]

end Text

end Blueprint
