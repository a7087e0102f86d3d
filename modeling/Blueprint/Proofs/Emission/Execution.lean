/-
# What a plan does

A plan is carried out by a *host*, which builds objects, assigns their fields, calls their methods,
looks entries up and makes placeholders.  Nothing is assumed of the monad in which it does so but
the laws of monads: two programs that do the same for every host ask the same of it, with the same
operands and in the same order, and whatever is done inside a placeholder is done as often as the
host has it done.

This file carries out plans directly, by recursion on their instructions, with nested plans in the
place of the operands that they build.  It also collects what a plan mentions, in the order in which
it is carried out: the names that are to be written as they are, and the shapes that calls and
blocks need to have.
-/
import Blueprint.Catalog.Lookup
import Blueprint.Plan.Arguments
import Blueprint.Text.Identifier
import Blueprint.Value.Display

namespace Blueprint

/-- The surroundings in which objects are built. -/
structure Host (m : Type → Type) [Monad m] (O : Type) where
  /-- The object that a literal stands for. -/
  constant : Value → O
  /-- A list of objects. -/
  list : List O → O
  /-- A tuple of objects. -/
  tuple : List O → O
  /-- A dictionary of objects. -/
  dict : List (O × O) → O
  /-- Calls the class of a path, with arguments in order and by name. -/
  construct : List Text → List O → List (Text × O) → m O
  /-- Assigns a field. -/
  assign : O → Text → O → m Unit
  /-- Calls a method, with arguments in order and by name. -/
  invoke : O → Text → List O → List (Text × O) → m O
  /-- Takes the object of an entry from the container. -/
  lookup : Value → m O
  /-- Makes a placeholder for an object of a class, with what builds the object. -/
  createProxy : Text → m O → m O
  /-- What becomes of a program that has no meaning. -/
  stuck : m O
  /-- The class `float` makes an infinity, and the number that is no number, from its name. -/
  construct_float (x : Double) (h : x.isFinite = false) :
    construct ["float"] [constant (.str x.toText)] [] = pure (constant (.float x))

variable {m : Type → Type} [Monad m] {O : Type}

/-- Does one thing after the other. -/
def inOrder {α : Type} : List (m α) → m (List α)
  | [] => return []
  | x :: rest => do
    let a ← x
    let more ← inOrder rest
    return a :: more

/-- The object that is built so far, where there is one. -/
def Host.current (host : Host m O) : Option O → m O
  | some o => pure o
  | none => host.stuck

/-- The parts of the path of a class; a colon parts as a dot does. -/
def classPath (className : Text) : List Text :=
  match Catalog.splitAtColon? className with
  | some (moduleName, qualifiedName) =>
    Catalog.pathParts moduleName ++ Catalog.pathParts qualifiedName
  | none => Catalog.pathParts className

mutual

/-- Makes the object of an operand. -/
def executeValue (host : Host m O) : Value → m O
  | .null => return host.constant .null
  | .bool b => return host.constant (.bool b)
  | .int i => return host.constant (.int i)
  | .float x => return host.constant (.float x)
  | .str s => return host.constant (.str s)
  | .bytes b => return host.constant (.bytes b)
  | .derived form literal => return host.constant (.derived form literal)
  | .reference entry => host.lookup entry
  | .nested _ plan => executeSteps host plan none
  | .list items => do return host.list (← inOrder (executeItems host items))
  | .tuple items => do return host.tuple (← inOrder (executeItems host items))
  | .dict entries => do return host.dict (← executeEntries host entries)
  | .useDefault | .definition _ | .set _ | .foreign _ | .enumMember .. => host.stuck

/-- What makes the objects of operands. -/
def executeItems (host : Host m O) : List Value → List (m O)
  | [] => []
  | item :: rest => executeValue host item :: executeItems host rest

/-- Makes the objects of keys, each with that of its value. -/
def executeEntries (host : Host m O) : List (Value × Value) → m (List (O × O))
  | [] => return []
  | (key, item) :: rest => do
    let k ← executeValue host key
    let v ← executeValue host item
    let more ← executeEntries host rest
    return (k, v) :: more

/-- Carries out instructions on the object that is built so far, and returns the one that is built
in the end. -/
def executeSteps (host : Host m O) : List Instruction → Option O → m O
  | [], o => host.current o
  | .construct className arguments keywords :: rest, _ => do
    let operands := executeItems host arguments
    let positional ← inOrder (operands.take (arguments.length - keywords.length))
    let named ← inOrder (operands.drop (arguments.length - keywords.length))
    let o ← host.construct (classPath className) positional (keywords.zip named)
    executeSteps host rest (some o)
  | .assign field value :: rest, o => do
    let v ← executeValue host value
    let target ← host.current o
    host.assign target field v
    executeSteps host rest (some target)
  | .invoke method arguments keywords :: rest, o => do
    let target ← host.current o
    let operands := executeItems host arguments
    let positional ← inOrder (operands.take (arguments.length - keywords.length))
    let named ← inOrder (operands.drop (arguments.length - keywords.length))
    let _ ← host.invoke target method positional (keywords.zip named)
    executeSteps host rest (some target)
  | .placeholder className initializer :: rest, _ => do
    let o ← host.createProxy className (executeSteps host initializer none)
    executeSteps host rest (some o)
  | .stray _ :: _, _ => host.stuck

end

/-- Carries out a plan. -/
def Host.execute (host : Host m O) (plan : Plan) : m O :=
  executeSteps host plan none

/-! ## What a plan mentions -/

/-- Something that a plan mentions. -/
inductive Mention where
  /-- A plan of its own, and whether its first instruction makes an object. -/
  | block (starts : Bool)
  /-- The path of a class. -/
  | path (parts : List Text)
  /-- A method. -/
  | method (name : Text)
  /-- A field. -/
  | field (name : Text)
  /-- The names that the last of so many arguments are passed by. -/
  | keywords (names : List Text) (arguments : Nat)
  /-- The name of an entry. -/
  | entry (name : Value)
  /-- A literal that is an object of a class of its own, as the class displays it. -/
  | object (display : Text)

/-- Whether the first instruction makes an object. -/
def startsWithObject : Plan → Bool
  | .construct .. :: _ | .placeholder .. :: _ => true
  | _ => false

mutual

/-- What an operand mentions. -/
def Value.mentions : Value → List Mention
  | .reference entry => [.entry entry]
  | .nested _ plan => .block (startsWithObject plan) :: stepMentions plan
  | .list items => itemMentions items
  | .tuple items => itemMentions items
  | .dict entries => entryMentions entries
  | .derived form literal => [.object (Value.derived form literal).display]
  | _ => []

/-- What operands mention. -/
def itemMentions : List Value → List Mention
  | [] => []
  | item :: rest => item.mentions ++ itemMentions rest

/-- What keys and their values mention. -/
def entryMentions : List (Value × Value) → List Mention
  | [] => []
  | (key, item) :: rest => key.mentions ++ item.mentions ++ entryMentions rest

/-- What instructions mention. -/
def stepMentions : List Instruction → List Mention
  | [] => []
  | .construct className arguments keywords :: rest =>
    itemMentions arguments ++
      .path (classPath className) :: .keywords keywords arguments.length :: stepMentions rest
  | .assign field value :: rest => value.mentions ++ .field field :: stepMentions rest
  | .invoke method arguments keywords :: rest =>
    itemMentions arguments ++
      .method method :: .keywords keywords arguments.length :: stepMentions rest
  | .placeholder _ initializer :: rest =>
    .block (startsWithObject initializer) :: (stepMentions initializer ++ stepMentions rest)
  | .stray _ :: _ => []

end

/-- What a plan mentions, at any depth. -/
def Plan.mentions (plan : Plan) : List Mention :=
  .block (startsWithObject plan) :: stepMentions plan

namespace Mention

/-- The names that are written as they are.  A class that needs no module is one of a few, whose
names are no concern; a field that is no identifier is quoted. -/
def bareNames : Mention → List Text
  | .path parts => if parts.length = 1 then [] else parts
  | .method name => [name]
  | .field name => if Text.isIdentifier name then [name] else []
  | .keywords names _ => names
  | .block _ | .entry _ | .object _ => []

end Mention

/-- A literal of a type itself, and not of a class that descends from it. -/
def Value.isBuiltin : Value → Bool
  | .derived .. => false
  | v => v.isLiteral

/-- A literal that is written as such: no infinity, and not the number that is no number. -/
def Value.isPlain : Value → Bool
  | .float x => x.isFinite
  | v => v.isBuiltin

/-- A plan makes an object first, no name is given to two arguments or to more than there are, and
names of entries are plain literals.  What a class displays its objects as is no program. -/
def Mention.IsShaped : Mention → Prop
  | .block starts => starts = true
  | .keywords names arguments => names.Nodup ∧ names.length ≤ arguments
  | .entry name => name.isPlain = true
  | .object _ => False
  | .path _ | .method _ | .field _ => True

instance : DecidablePred Mention.IsShaped
  | .block starts => inferInstanceAs (Decidable (starts = true))
  | .keywords names arguments =>
    inferInstanceAs (Decidable (names.Nodup ∧ names.length ≤ arguments))
  | .entry name => inferInstanceAs (Decidable (name.isPlain = true))
  | .object _ => isFalse not_false
  | .path _ | .method _ | .field _ => isTrue trivial

/-- What is mentioned has the shape it needs, and its names are such as `P` allows to be written. -/
def Mention.IsFit (P : Text → Prop) (u : Mention) : Prop :=
  u.IsShaped ∧ ∀ t ∈ u.bareNames, P t

instance (P : Text → Prop) [DecidablePred P] : DecidablePred (Mention.IsFit P) :=
  fun u => inferInstanceAs (Decidable (u.IsShaped ∧ ∀ t ∈ u.bareNames, P t))

end Blueprint
