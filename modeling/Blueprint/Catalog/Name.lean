/-
# Names in bodies

Names in a body are taken in their normal form.  Those that start with two underscores are
private to the class around them: the name of the class is put in front, so that a descendant
that uses the same name does not interfere.  A name that ends with two underscores as well, or
that stands in a class named with nothing but underscores, is left as it is.
-/
import Blueprint.Text.Normal

namespace Blueprint.Catalog

/-- The parts of a path. -/
def pathParts (path : Text) : List Text :=
  path.splitAt '.'

/-- Whether a text ends with another. -/
def endsWith (last t : Text) : Bool := last.points.isSuffixOf t.points

/-- The name of a class without the underscores in front. -/
def strippedName (className : Text) : Text :=
  ⟨className.points.dropWhile (· == .char '_')⟩

/-- Whether a name is one that a class keeps to itself. -/
def isPrivateName (name : Text) : Bool :=
  Text.startsWith "__" name && !endsWith "__" name && !name.points.contains (.char '.')

/-- A name as it is used within a class. -/
def privateName (className name : Text) : Text :=
  let stripped := strippedName className
  if isPrivateName name && !stripped.isEmpty then "_" ++ stripped ++ name else name

/-- A name as a body binds it, which may be that of a class. -/
def bodyName (className : Option Text) (name : Text) : Text :=
  match className with
  | none => name.normal
  | some c => privateName c name.normal

end Blueprint.Catalog
