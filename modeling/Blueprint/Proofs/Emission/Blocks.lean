/-
# What a factory does

The meaning of a factory as a tree, where a local name is not yet a text.  It is halfway between the
plan that the factory was drafted from and the script that it is written as: blocks and functions
are as in the script, operands and calls as in the plan.

The names of classes, methods, fields and arguments stand in the text of a factory as they are, and
a name that is written as it is counts by its normal form.  So a host that is addressed by a script
is addressed under other names: those of `Host.respelled`.
-/
import Blueprint.Proofs.Emission.Translation

namespace Blueprint

/-! ## Local names -/

namespace Factory

section

variable {m : Type → Type} {O : Type}

/-- What a local name stands for. -/
inductive Item (m : Type → Type) (O : Type) where
  /-- An object. -/
  | object (o : O)
  /-- A function that builds one. -/
  | routine (run : m O)

/-- What the local names stand for. -/
abbrev Locals (m : Type → Type) (O : Type) := Local → Option (Item m O)

/-- The local names, with one bound. -/
def Locals.bind (locals : Locals m O) (l : Local) (item : Item m O) : Locals m O :=
  fun l' => if l' = l then some item else locals l'

/-- The local names, with some no longer bound. -/
def Locals.without (locals : Locals m O) (unbound : List Local) : Locals m O :=
  fun l => if l ∈ unbound then none else locals l

end

/-- The local names that a block binds. -/
def boundLocals : List Statement → List Local
  | [] => []
  | .define l _ :: rest => l :: boundLocals rest
  | .bind l _ :: rest => l :: boundLocals rest
  | .proxy l _ _ :: rest => l :: boundLocals rest
  | _ :: rest => boundLocals rest

end Factory

variable {m : Type → Type} [Monad m] {O : Type}

/-! ## Respelling -/

/-- A field as a script names it: in its normal form, unless it is quoted. -/
def spelledField (field : Text) : Text :=
  if Text.isIdentifier field then field.normal else field

/-- Arguments under names in their normal form. -/
def spelledKeywords (named : List (Text × O)) : List (Text × O) :=
  named.map fun k => (k.1.normal, k.2)

omit [Monad m] in
lemma spelledKeywords_zip (keywords : List Text) (os : List O) :
    spelledKeywords (keywords.zip os) = (keywords.map Text.normal).zip os := by
  rw [spelledKeywords, ← List.map_id os, List.zip_map, List.map_id]
  rfl

/-- The host as it is addressed by names that are written as they are. -/
def Host.respelled (host : Host m O) : Host m O :=
  { host with
    construct := fun path os named =>
      host.construct (path.map Text.normal) os (spelledKeywords named)
    assign := fun o field v => host.assign o (spelledField field) v
    invoke := fun o method os named => host.invoke o method.normal os (spelledKeywords named)
    construct_float := host.construct_float }

namespace Factory

/-! ## Running a block -/

/-- The object that a local name stands for. -/
def object (host : Host m O) (locals : Locals m O) (l : Local) : m O :=
  match locals l with
  | some (.object o) => pure o
  | _ => host.stuck

/-- The function that a local name stands for. -/
def routine (host : Host m O) (locals : Locals m O) (l : Local) : m O :=
  match locals l with
  | some (.routine run) => run
  | _ => host.stuck

mutual

/-- Makes the object of an expression. -/
def Expr.value (host : Host m O) (locals : Locals m O) : Expr → m O
  | .constant v => return host.constant v
  | .lookup entry => host.lookup entry
  | .build builder => routine host locals builder
  | .list items => do return host.list (← values host locals items)
  | .tuple items => do return host.tuple (← values host locals items)
  | .dict entries => do return host.dict (← entryValues host locals entries)

/-- Makes the objects of expressions. -/
def values (host : Host m O) (locals : Locals m O) : List Expr → m (List O)
  | [] => return []
  | e :: rest => do
    let o ← e.value host locals
    let more ← values host locals rest
    return o :: more

/-- Makes the objects of keys, each with that of its value. -/
def entryValues (host : Host m O) (locals : Locals m O) :
    List (Expr × Expr) → m (List (O × O))
  | [] => return []
  | (k, v) :: rest => do
    let a ← k.value host locals
    let b ← v.value host locals
    let more ← entryValues host locals rest
    return (a, b) :: more

end

/-- Calls. -/
def Call.perform (host : Host m O) (locals : Locals m O) (c : Call) : m O :=
  let named := c.keywords.map Prod.fst
  match c.callee with
  | .member moduleName qualifiedName => do
    let os ← values host locals c.positional
    let ks ← values host locals (c.keywords.map Prod.snd)
    host.construct (Catalog.pathParts moduleName ++ Catalog.pathParts qualifiedName) os
      (named.zip ks)
  | .builtin name => do
    let os ← values host locals c.positional
    let ks ← values host locals (c.keywords.map Prod.snd)
    host.construct [name] os (named.zip ks)
  | .method target name =>
    match locals target with
    | some (.object o) => do
      let os ← values host locals c.positional
      let ks ← values host locals (c.keywords.map Prod.snd)
      host.invoke o name os (named.zip ks)
    | _ => host.stuck

/-- Assigns a field.  A field that is named is assigned once the value is made, one that is quoted
is assigned by a call. -/
def performAssign (host : Host m O) (locals : Locals m O) (target : Local) (field : Text)
    (value : Expr) : m Unit :=
  if Text.isIdentifier field then do
    let v ← value.value host locals
    let o ← object host locals target
    host.assign o field v
  else do
    let o ← object host locals target
    let v ← value.value host locals
    host.assign o field v

/-- Makes a placeholder. -/
def performProxy (host : Host m O) (locals : Locals m O) (className : Text)
    (initializer : Local) : m O :=
  match locals initializer with
  | some (.routine run) => host.createProxy className run
  | _ => host.stuck

/-- Runs a block, up to the object that it returns. -/
def runBlock (host : Host m O) : List Statement → Locals m O → m O
  | [], _ => return host.constant .null
  | .define l body :: rest, locals =>
    let seen := (locals.without (l :: boundLocals rest)).without (boundLocals body)
    runBlock host rest (locals.bind l (.routine (runBlock host body seen)))
  | .bind target call :: rest, locals => do
    let o ← call.perform host locals
    runBlock host rest (locals.bind target (.object o))
  | .assign target field value :: rest, locals => do
    performAssign host locals target field value
    runBlock host rest locals
  | .perform call :: rest, locals => do
    let _ ← call.perform host locals
    runBlock host rest locals
  | .proxy target className initializer :: rest, locals => do
    let o ← performProxy host locals className initializer
    runBlock host rest (locals.bind target (.object o))
  | .result target :: _, locals => object host locals target

end Factory

end Blueprint
