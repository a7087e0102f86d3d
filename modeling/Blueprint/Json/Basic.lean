/-
# JSON values

Whole numbers and doubles are kept apart, and the members of an object have an order: that
of the first occurrence of their names.
-/
import Blueprint.Double.Notation
import Blueprint.Entries
import Blueprint.Text.Basic

namespace Blueprint

/-- A JSON value. -/
inductive Json where
  /-- The null value. -/
  | null
  /-- A truth value. -/
  | bool (b : Bool)
  /-- A whole number of any size. -/
  | int (i : Int)
  /-- A number with a fraction or an exponent, or one of the named numbers. -/
  | float (x : Double)
  /-- A text. -/
  | str (s : Text)
  /-- A sequence. -/
  | array (items : List Json)
  /-- Named members, each name once. -/
  | object (members : List (Text × Json))
deriving Inhabited

namespace Json

/-- The member of a name, where the value is an object that has one. -/
def get? (name : Text) : Json → Option Json
  | object members => Entries.get? name members
  | _ => none

end Json

end Blueprint
