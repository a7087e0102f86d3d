/-
# Arguments in order and by name

A call passes its last arguments by name, as many as there are names.  Where there are more
names than arguments, the surplus is counted from the end of the arguments: as many of them are
passed by name as names are missing, and the others in order.
-/
import Blueprint.Entries
import Blueprint.Text.Basic

namespace Blueprint

variable {α : Type}

/-- How many arguments are passed in order. -/
def positionalCount (arguments keywords : Nat) : Nat :=
  if keywords ≤ arguments then arguments - keywords
  else arguments - (keywords - arguments)

/-- The arguments that are passed in order, and those that are passed by name.  Of arguments for
one name the last counts. -/
def splitArguments (arguments : List α) (keywords : List Text) :
    List α × List (Text × α) :=
  if keywords.isEmpty then (arguments, [])
  else
    let count := positionalCount arguments.length keywords.length
    (arguments.take count, Entries.ofList (keywords.zip (arguments.drop count)))

end Blueprint
