/-
# Runs on a stack

Reading, compiling and rendering go down level by level: into the brackets of a text, the items of
a value, the parts of a path, the declared defaults of a class.  On a machine every level that is
open takes room on a stack, and where no room is left the run fails, whatever it was about to do.
How much room a level takes is up to the machine, so the room is counted in levels here.

The runs of this library have all the room that they need.  `Stack.ComesTo` tells what they come to
on a stack of some size: no run has more levels open than its input has, so that only an input that
has more of them than there is room for can exhaust the stack.
-/
import Blueprint.Failure

namespace Blueprint

namespace Stack

variable {α : Type}

/-- On a stack with room for so many levels, a run whose input has `levels` of them comes to the
result, where with all the room that it needs it comes to the outcome. -/
inductive ComesTo (room levels : Nat) (outcome : Except Failure α) : Except Failure α → Prop where
  /-- There was room for all that the run did. -/
  | finished : ComesTo room levels outcome outcome
  /-- The input has a level that there is no room for. -/
  | exhausted (h : room < levels) : ComesTo room levels outcome (.error .stackExhausted)

/-- An input with no more levels than there is room for comes to what it always comes to. -/
theorem comesTo_of_le {room levels : Nat} (h : levels ≤ room) {outcome result : Except Failure α} :
    ComesTo room levels outcome result ↔ result = outcome := by
  constructor
  · rintro (_ | hroom)
    · rfl
    · exact absurd h (Nat.not_le_of_lt hroom)
  · rintro rfl
    exact .finished

end Stack

mutual

/-- The levels of a JSON value: those of its deepest part, and its own. -/
def Json.levels : Json → Nat
  | .array items => levelsOfItems items + 1
  | .object members => levelsOfMembers members + 1
  | .null | .bool _ | .int _ | .float _ | .str _ => 1

/-- The levels of the deepest item. -/
def levelsOfItems : List Json → Nat
  | [] => 0
  | item :: rest => max item.levels (levelsOfItems rest)

/-- The levels of the deepest member. -/
def levelsOfMembers : List (Text × Json) → Nat
  | [] => 0
  | (_, json) :: rest => max json.levels (levelsOfMembers rest)

end

end Blueprint
