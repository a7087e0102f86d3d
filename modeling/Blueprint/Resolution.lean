/-
# Matching parameters with arguments

A call gets one argument for every parameter, in the order of the parameters: the value bound
to the position of the parameter, or else the declared default.  The first parameter that has
neither is a mistake.  Bound positions beyond the last parameter are worth a warning, once
every parameter has its argument.
-/
import Blueprint.Callable
import Blueprint.Definition.Binding

namespace Blueprint

/-- Where an argument comes from: it is bound, or it is the declared default. -/
inductive Source (α : Type) where
  /-- The argument is bound. -/
  | bound (a : α)
  /-- The argument is the declared default. -/
  | declared (value : Value)

namespace Resolution

variable {α : Type}

/-- The argument of a parameter, given what is bound to its position. -/
def argument (callable : Text) (p : Parameter) : Option α → Except Mistake (Source α)
  | some a => .ok (.bound a)
  | none =>
    match p.default with
    | .declared value => .ok (.declared value)
    | .unreadable => .error (.unreadableDefault p.name callable)
    | .required => .error (.unboundParameter p.name callable)

/-- The arguments of the parameters from a position on. -/
def argumentsFrom (callable : Text) (bound : Nat → Option α) (position : Nat) :
    List Parameter → Except Mistake (List (Parameter × Source α))
  | [] => .ok []
  | p :: rest =>
    match argument callable p (bound position) with
    | .error mistake => .error mistake
    | .ok source =>
      (argumentsFrom callable bound (position + 1) rest).map ((p, source) :: ·)

/-- The positions that a callable does not have, in increasing order. -/
def unused (positions : List Nat) (c : Callable) : List Nat :=
  (positions.filter fun n => decide (c.parameters.length ≤ n)).mergeSort

/-- What a list of bound positions has for a position. -/
def lookup (bound : List (Nat × Option α)) (position : Nat) : Option α :=
  (Entries.get? position bound).join

/-- Warns of the bound positions that a callable does not have. -/
def warnUnused (positions : List Nat) (c : Callable) : Run Unit :=
  let extra := unused positions c
  if extra.isEmpty then pure ()
  else Run.warn (.unusedPositions c.name c.parameters.length extra)

/-- The arguments of a call.  `bound` has an entry for every bound position, which is empty where
the declared default is asked for. -/
def resolve (bound : List (Nat × Option α)) (c : Callable) :
    Run (List (Parameter × Source α)) :=
  match argumentsFrom c.name (lookup bound) 0 c.parameters with
  | .error mistake => Run.mistaken mistake
  | .ok sources => do
    warnUnused (bound.map Prod.fst) c
    return sources

/-- The value of an argument. -/
def Source.value : Source Value → Value
  | .bound v => v
  | .declared v => v

/-- What a binding has for each of its positions. -/
def boundValues (b : Option Binding) : List (Nat × Option Value) :=
  match b with
  | none => []
  | some b => b.arguments.map fun (position, v) => (position, v.explicit?)

/-- The values of the arguments of a call; a callable that is missing takes none. -/
def values (b : Option Binding) : Option Callable → Run (List Value)
  | none => pure []
  | some c => do
    let sources ← resolve (boundValues b) c
    return sources.map fun source => Source.value source.2

end Resolution

end Blueprint
