/-
# Runs

A compilation is a function of what it is given and of a little state: which modules were
imported and which annotations were asked for so far, the files, and what was warned about and
logged.  It also knows the entry that
is being worked on, so that a mistake is attributed to the innermost entry that was open when
it was found.  State survives a failure: what was imported, written, warned about and logged
before it stays.
-/
import Blueprint.Catalog.Identity
import Blueprint.Files.Tree

namespace Blueprint

/-- Something worth a warning. -/
inductive Warning where
  /-- Values bound to positions that a callable does not have. -/
  | unusedPositions (callable : Text) (parameters : Nat) (positions : List Nat)
  /-- A class that became a member of the enumeration that it was made in. -/
  | innerClass
deriving DecidableEq, Repr

/-- A warning in words. -/
def Warning.message : Warning → Text
  | unusedPositions callable parameters positions =>
    callableText callable ++ " takes " ++ toString parameters ++
      " parameter(s); bindings at position(s) " ++
      Text.intercalate ", " (positions.map fun n => toString n) ++ " are ignored."
  | innerClass =>
    "In 3.13 classes created inside an enum will not become a member.  Use the `member` " ++
      "decorator to keep the current behavior."

/-- Something worth a line in the log. -/
inductive Event where
  /-- An entry is compiled. -/
  | compiling (name : Value) (className : Text)
  /-- A lazy entry is compiled. -/
  | compilingLazy (name : Value) (className : Text)
  /-- An entry has a mistake. -/
  | rejected (name : Value) (cause : Mistake)
  /-- A pass over some entries succeeded. -/
  | compiled (entries : Nat)
  /-- Both files were written. -/
  | wrote (instructions factories : Text)
  /-- An export succeeded. -/
  | exported (entries : Nat) (directory : Text)
  /-- The program gives up. -/
  | failed (text : Text)

/-- The way an entry is named in the log. -/
def entryLabel (name : Value) (className : Text) : Text :=
  match name with
  | .str s => if s == className then s else s ++ " (" ++ className ++ ")"
  | other => other.text ++ " (" ++ className ++ ")"

/-- Whether the event is shown only on demand. -/
def Event.isDetail : Event → Bool
  | exported .. | failed _ => false
  | _ => true

/-- The line of an event. -/
def Event.line : Event → Text
  | compiling name className =>
    "DEBUG objcompiler.compiler.core: Compiling entry " ++ entryLabel name className
  | compilingLazy name className =>
    "DEBUG objcompiler.compiler.core: Compiling lazy entry " ++ entryLabel name className
  | rejected name cause =>
    "DEBUG objcompiler.exporter: Entry " ++ name.text ++ " cannot be compiled: " ++ cause.message
  | compiled entries =>
    "DEBUG objcompiler.exporter: Compiled " ++ toString entries ++ " entries"
  | wrote instructions factories =>
    "DEBUG objcompiler.exporter: Wrote " ++ instructions ++ " and " ++ factories
  | exported entries directory =>
    "INFO objcompiler: Compiled " ++ toString entries ++ " entries into " ++ directory
  | failed text => "ERROR objcompiler: " ++ text

/-- What a run leaves behind besides its result. -/
structure World where
  /-- The modules imported so far. -/
  imported : List Text := []
  /-- The classes that were asked for their annotations, and have had some ever since. -/
  annotated : List Catalog.ClassId := []
  /-- The files. -/
  files : FileTree := FileTree.empty
  /-- The warnings so far, in order. -/
  warnings : List Warning := []
  /-- The events so far, in order. -/
  log : List Event := []

/-! ## Actions -/

/-- A computation that may fail, and changes the entry that is being worked on and the world. -/
def Action (α : Type) : Type :=
  Option Value → World → Except Failure α × Option Value × World

namespace Action

variable {α β : Type}

/-- Goes on with the result of an action, in the state that it left, unless it failed. -/
protected def bind (x : Action α) (f : α → Action β) : Action β :=
  fun entry world =>
    match x entry world with
    | (.ok a, entry, world) => f a entry world
    | (.error failure, entry, world) => (.error failure, entry, world)

/-- Goes on after a failure, in the state that it left. -/
def recover (x : Action α) (handler : Failure → Action α) : Action α :=
  fun entry world =>
    match x entry world with
    | (.ok a, entry, world) => (.ok a, entry, world)
    | (.error failure, entry, world) => handler failure entry world

/-- The entry that is being worked on. -/
def current : Action (Option Value) :=
  fun entry world => (.ok entry, entry, world)

/-- From now on another entry is worked on; gives the one before. -/
def exchange (entry : Option Value) : Action (Option Value) :=
  fun previous world => (.ok previous, entry, world)

/-- From now on the entry is worked on that was given at an exchange. -/
def reset (previous : Option Value) : Action Unit :=
  fun _ world => (.ok (), previous, world)

/-- Does something last, whether the action failed or not. -/
def eventually (x : Action α) (last : Action Unit) : Action α :=
  fun entry world =>
    match x entry world with
    | (outcome, entry, world) =>
      match last entry world with
      | (.ok (), entry, world) => (outcome, entry, world)
      | (.error failure, entry, world) => (.error failure, entry, world)

/-- Works on an entry, and then again on the one before. -/
def within (entry : Option Value) (x : Action α) : Action α :=
  (exchange entry).bind fun previous => x.eventually (reset previous)

/-- Whatever an action does to the entry within which it is done, and whether it fails or not, the
entry before is the current one again afterwards. -/
theorem within_restores (name : Option Value) (x : Action α) (entry : Option Value)
    (world : World) : (x.within name entry world).2.1 = entry := rfl

/-- Without the reset at the end it would not be. -/
example : (exchange (some (.str "inner")) (some (.str "outer")) {}).2.1 = some (.str "inner") := rfl

end Action

/-! ## Runs -/

/-- A computation that knows the entry it works on, may fail, and changes the world.  It may work on
other entries for a while, but when it is done its own is the current one again. -/
structure Run (α : Type) where
  /-- What is done. -/
  action : Action α
  /-- The entry at the end is that at the beginning. -/
  restores : ∀ entry world, (action entry world).2.1 = entry

namespace Run

variable {α β : Type}

/-- What a run comes to, and the world that it leaves. -/
def apply (x : Run α) (entry : Option Value) (world : World) : Except Failure α × World :=
  ((x.action entry world).1, (x.action entry world).2.2)

instance : CoeFun (Run α) fun _ => Option Value → World → Except Failure α × World :=
  ⟨apply⟩

theorem action_eq (x : Run α) (entry : Option Value) (world : World) :
    x.action entry world = ((x entry world).1, entry, (x entry world).2) :=
  Prod.ext rfl (Prod.ext (x.restores entry world) rfl)

/-- Runs are told apart by what they come to and the worlds that they leave. -/
protected theorem ext {x y : Run α} (h : ∀ entry world, x entry world = y entry world) :
    x = y := by
  obtain ⟨action, hx⟩ := x
  obtain ⟨action', hy⟩ := y
  have haction : action = action' := by
    funext entry world
    have houtcome : (action entry world).1 = (action' entry world).1 :=
      (congrArg Prod.fst (h entry world) :)
    have hentry : (action entry world).2.1 = (action' entry world).2.1 :=
      (hx entry world).trans (hy entry world).symm
    have hworld : (action entry world).2.2 = (action' entry world).2.2 :=
      (congrArg Prod.snd (h entry world) :)
    exact Prod.ext houtcome (Prod.ext hentry hworld)
  subst haction
  rfl

/-- A computation that leaves the entry alone. -/
def keeping (f : Option Value → World → Except Failure α × World) : Run α where
  action entry world := ((f entry world).1, entry, (f entry world).2)
  restores _ _ := rfl

@[simp] theorem keeping_apply (f : Option Value → World → Except Failure α × World)
    (entry : Option Value) (world : World) : keeping f entry world = f entry world := rfl

/-- Succeeds and changes nothing. -/
protected def pure (a : α) : Run α :=
  keeping fun _ world => (.ok a, world)

/-- Goes on with the result of a run, unless it failed. -/
protected def bind (x : Run α) (f : α → Run β) : Run β where
  action := x.action.bind fun a => (f a).action
  restores entry world := by
    rw [Action.bind, x.action_eq]
    rcases x entry world with ⟨failure | a, world'⟩
    · rfl
    · exact (f a).restores entry world'

instance : Monad Run where
  pure := Run.pure
  bind := Run.bind

/-- Fails and changes nothing. -/
def fail (failure : Failure) : Run α :=
  keeping fun _ world => (.error failure, world)

/-- A mistake of a given entry or, for want of one, of that which is being worked on. -/
def attributed (cause : Mistake) (entry : Option Value) : Run EntryMistake :=
  keeping fun current world => (.ok ⟨cause, entry.or current⟩, world)

/-- Fails with a mistake, which belongs to the entry that is being worked on. -/
def mistaken (cause : Mistake) : Run α :=
  keeping fun entry world => (.error (.mistake ⟨cause, entry⟩), world)

/-- Fails because a definition does not fit. -/
def mismatched (cause : Mismatch) : Run α :=
  fail (.mismatch cause)

/-- Goes on if what is to be written can be written: no number in it has too many digits. -/
def ifWritten (written : Bool) (x : Run α) : Run α :=
  if written then x else fail (.longNumber none)

/-- Goes on after a failure, in the state it left. -/
def recover (x : Run α) (handler : Failure → Run α) : Run α where
  action := x.action.recover fun failure => (handler failure).action
  restores entry world := by
    rw [Action.recover, x.action_eq]
    rcases x entry world with ⟨failure | a, world'⟩
    · exact (handler failure).restores entry world'
    · rfl

/-- The result or the failure of a run, as a result. -/
def attempt (x : Run α) : Run (Except Failure α) where
  action entry world := (.ok (x.action entry world).1, (x.action entry world).2)
  restores := x.restores

/-- Works on an entry. -/
def within (entry : Option Value) (x : Run α) : Run α where
  action := x.action.within entry
  restores := Action.within_restores entry x.action

/-- The entry that is being worked on. -/
def currentEntry : Run (Option Value) where
  action := .current
  restores _ _ := rfl

/-- Warns. -/
def warn (warning : Warning) : Run Unit :=
  keeping fun _ world => (.ok (), { world with warnings := world.warnings ++ [warning] })

/-- Writes to the log. -/
def note (event : Event) : Run Unit :=
  keeping fun _ world => (.ok (), { world with log := world.log ++ [event] })

/-- The events so far. -/
def events : Run (List Event) :=
  keeping fun _ world => (.ok world.log, world)

/-- The modules imported so far. -/
def imported : Run (List Text) :=
  keeping fun _ world => (.ok world.imported, world)

/-- Records that a module was imported. -/
def markImported (name : Text) : Run Unit :=
  keeping fun _ world =>
    (.ok (), if world.imported.contains name then world
      else { world with imported := world.imported ++ [name] })

/-- The classes that were asked for their annotations. -/
def annotated : Run (List Catalog.ClassId) :=
  keeping fun _ world => (.ok world.annotated, world)

/-- Records that a class was asked for its annotations. -/
def markAnnotated (id : Catalog.ClassId) : Run Unit :=
  keeping fun _ world => (.ok (), { world with annotated := id :: world.annotated })

/-- The files. -/
def files : Run FileTree :=
  keeping fun _ world => (.ok world.files, world)

/-- Puts other files in the place of the files. -/
def setFiles (tree : FileTree) : Run Unit :=
  keeping fun _ world => (.ok (), { world with files := tree })

/-- A result that was found without a run. -/
def ofExcept : Except Failure α → Run α
  | .ok a => pure a
  | .error failure => fail failure

@[simp] theorem pure_apply (a : α) (entry : Option Value) (world : World) :
    (pure a : Run α) entry world = (.ok a, world) := rfl

@[simp] theorem fail_apply (failure : Failure) (entry : Option Value) (world : World) :
    (fail failure : Run α) entry world = (.error failure, world) := rfl

@[simp] theorem ifWritten_true (x : Run α) : ifWritten true x = x := rfl

@[simp] theorem ifWritten_false (x : Run α) : ifWritten false x = fail (.longNumber none) := rfl

@[simp] theorem files_apply (entry : Option Value) (world : World) :
    files entry world = (.ok world.files, world) := rfl

@[simp] theorem setFiles_apply (tree : FileTree) (entry : Option Value) (world : World) :
    setFiles tree entry world = (.ok (), { world with files := tree }) := rfl

theorem bind_apply (x : Run α) (f : α → Run β) (entry : Option Value) (world : World) :
    (x >>= f) entry world =
      match x entry world with
      | (.ok a, world) => f a entry world
      | (.error failure, world) => (.error failure, world) := by
  change (Run.bind x f) entry world = _
  dsimp only [apply, Run.bind, Action.bind]
  rw [x.action_eq]
  rcases x entry world with ⟨failure | a, world'⟩ <;> rfl

theorem recover_apply (x : Run α) (handler : Failure → Run α) (entry : Option Value)
    (world : World) :
    x.recover handler entry world =
      match x entry world with
      | (.ok a, world) => (.ok a, world)
      | (.error failure, world) => handler failure entry world := by
  dsimp only [apply, recover, Action.recover]
  rw [x.action_eq]
  rcases x entry world with ⟨failure | a, world'⟩ <;> rfl

@[simp] theorem attempt_apply (x : Run α) (entry : Option Value) (world : World) :
    x.attempt entry world = (.ok (x entry world).1, (x entry world).2) := rfl

@[simp] theorem within_apply (name entry : Option Value) (x : Run α) (world : World) :
    within name x entry world = x name world := rfl

instance : LawfulMonad Run := by
  refine LawfulMonad.mk' Run ?_ ?_ ?_
  · intro α x
    refine Run.ext fun entry world => ?_
    change (x >>= fun a => pure (id a)) entry world = _
    rw [bind_apply]
    rcases x entry world with ⟨failure | a, world'⟩ <;> rfl
  · intro α β a f
    exact Run.ext fun entry world => bind_apply (pure a) f entry world
  · intro α β γ x f g
    refine Run.ext fun entry world => ?_
    simp only [bind_apply]
    rcases x entry world with ⟨failure | a, world'⟩ <;> rfl

end Run

end Blueprint
