/-
# Linearization of ancestors

The ancestors of a class are searched in one order that agrees with the order of every base and
with the order in which the bases are named.  The merge below takes, again and again, the first
head of a list that is in no other list's tail; where there is none the bases contradict each
other, and there is no order: the heads that are left say where.
-/

namespace Blueprint.Catalog

variable {α : Type} [BEq α]

/-- Whether an element is in the tail of a list. -/
def inTail (a : α) : List α → Bool
  | [] => false
  | _ :: tail => tail.contains a

/-- The first head that is in no tail. -/
def nextHead? (lists : List (List α)) : Option α :=
  lists.findSome? fun list =>
    match list with
    | [] => none
    | head :: _ => if lists.any (inTail head) then none else some head

/-- Takes an element off the lists that start with it. -/
def takeHead (a : α) (lists : List (List α)) : List (List α) :=
  lists.map fun list =>
    match list with
    | [] => []
    | head :: tail => if head == a then tail else head :: tail

/-- Merges lists, with as many steps as there can be elements; or else the heads that block each
other, each once. -/
def mergeUpTo : Nat → List (List α) → Except (List α) (List α)
  | 0, lists => if lists.all List.isEmpty then .ok [] else .error []
  | steps + 1, lists =>
    if lists.all List.isEmpty then .ok []
    else
      match nextHead? lists with
      | none => .error (lists.filterMap List.head?).eraseDups
      | some a => (mergeUpTo steps (takeHead a lists)).map (a :: ·)

/-- The ancestors of a class with the given bases, each with its own ancestors, itself first; or
else the bases that contradict each other. -/
def linearize (bases : List (List α)) : Except (List α) (List α) :=
  let lists := bases ++ [bases.filterMap List.head?]
  mergeUpTo lists.flatten.length lists

end Blueprint.Catalog
