/-
# What tells classes apart

Two classes may have one name, and one class may have many.  A class is known by where it was
made: the module and a number there.
-/
import Blueprint.Text.Basic

namespace Blueprint.Catalog

/-- What makes a class the class it is: the module it was made in and its number among what was made
there. -/
structure ClassId where
  /-- The module. -/
  moduleName : Text
  /-- The number. -/
  serial : Nat
deriving DecidableEq, Repr

end Blueprint.Catalog
