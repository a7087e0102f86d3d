/-
# The steps of a compilation

`compileValue` and its companions recurse through ten functions at once.  This file restates them
one at a time, in the form in which later proofs meet them: what a value of each kind compiles to,
and a definition as the check of its class, followed by its *eager plan*, with a placeholder around
it where the definition is lazy.  Whatever is compiled one after the other is a `Run.Traverses`.
-/
import Blueprint.Proofs.Knowledge

namespace Blueprint

variable {types : Option Introspector} {knowledge : Introspector} {onDefault : Value → Run Value}

/-! ## Values -/

lemma compileValue_literal {v : Value} (h : v.isLiteral = true) :
    compileValue types onDefault v = pure v := by
  cases v with
  | null => rw [compileValue]
  | bool b => rw [compileValue]
  | int i => rw [compileValue]
  | float x => rw [compileValue]
  | str s => rw [compileValue]
  | bytes b => rw [compileValue]
  | derived form literal => rw [compileValue]
  | _ => exact absurd h (by simp [Value.isLiteral])

lemma compileValue_unsupported {v : Value} (h : v.isUnsupported = true) :
    compileValue types onDefault v = Run.fail v.refusal := by
  cases v with
  | nested className plan => rw [compileValue]
  | set items => rw [compileValue]
  | foreign tag => rw [compileValue]
  | enumMember enumeration member value => rw [compileValue]
  | _ => exact absurd h (by simp [Value.isUnsupported])

lemma compileItems_cons (item : Value) (rest : List Value) :
    compileItems types onDefault (item :: rest) =
      compileValue types onDefault item >>= fun v =>
        compileItems types onDefault rest >>= fun vs => pure (v :: vs) := by
  rw [compileItems]

lemma compileEntries_cons (e : Value × Value) (rest : List (Value × Value)) :
    compileEntries types onDefault (e :: rest) =
      compileValue types onDefault e.2 >>= fun v =>
        compileEntries types onDefault rest >>= fun vs => pure ((e.1, v) :: vs) := by
  rw [compileEntries]

lemma compileItems_traverses :
    Run.Traverses (compileItems types onDefault) (compileValue types onDefault) where
  nil := by rw [compileItems]
  cons := compileItems_cons

lemma compileEntries_traverses : Run.Traverses (compileEntries types onDefault) fun e =>
    compileValue types onDefault e.2 >>= fun v => pure (e.1, v) where
  nil := by rw [compileEntries]
  cons e rest := by simp only [compileEntries_cons, bind_assoc, pure_bind]

/-! ## Definitions -/

/-- The check of a class that can be named: it has to be there, and one that can be instantiated. -/
def checkNamed (types : Introspector) (name : Value) (className : Text) : Run Unit := do
  if ← types.isInstantiable className then return
  if ← types.exists? className then Run.mistaken (.notInstantiable name)
  else Run.mistaken (.missingClass name)

/-- The check of a class ends with the path of one that cannot be named. -/
lemma checkClass_eq (types : Introspector) (name : Value) (className : Text) :
    checkClass types name className =
      if isAnonymous className then Run.mismatched .anonymousClass
      else checkNamed types name className := by
  unfold checkClass
  cases isAnonymous className with
  | true => rfl
  | false => rfl

/-- The plan of a definition as if it were not lazy, once its class was checked. -/
def eagerPlan (knowledge : Introspector) (onDefault : Value → Run Value) (d : Definition) :
    Run Plan := do
  Run.note (.compiling d.name d.className)
  let callable ← knowledge.constructor d.className
  let arguments ←
    compileArguments onDefault (boundRuns (some knowledge) onDefault d.constructor) callable
  let assignments ← compileFields (some knowledge) knowledge onDefault d.className d.fields
  let calls ← compileMethods (some knowledge) knowledge onDefault d.className d.methods
  return .construct d.className arguments (keywordsOf callable) :: (assignments ++ calls)

lemma compileDefinition_eq (d : Definition) :
    compileDefinition (some knowledge) onDefault d =
      Run.within d.name.entry? (checkClass knowledge d.name d.className >>= fun _ =>
        if d.isLazy then
          Run.note (.compilingLazy d.name d.className) >>= fun _ =>
            checkClass knowledge d.name d.className >>= fun _ =>
              eagerPlan knowledge onDefault d >>= fun plan =>
                pure [.placeholder d.className plan]
        else eagerPlan knowledge onDefault d) := by
  obtain ⟨name, className, isLazy, constructor, fields, methods⟩ := d
  rw [compileDefinition]
  simp only [boundOfConstructor_eq_boundRuns]
  rfl

lemma compileFields_cons {className : Text} (b : FieldBinding) (rest : List FieldBinding) :
    compileFields types knowledge onDefault className (b :: rest) =
      checkField knowledge (fieldOwner b.owner className) b.field >>= fun _ =>
        compileValue types onDefault b.value >>= fun v =>
          compileFields types knowledge onDefault className rest >>= fun steps =>
            pure (.assign b.field v :: steps) := by
  obtain ⟨field, value, owner⟩ := b
  rw [compileFields]

lemma compileFields_traverses (className : Text) :
    Run.Traverses (compileFields types knowledge onDefault className) fun b =>
      checkField knowledge (fieldOwner b.owner className) b.field >>= fun _ =>
        compileValue types onDefault b.value >>= fun v => pure (.assign b.field v) where
  nil := by rw [compileFields]
  cons b rest := by simp only [compileFields_cons, bind_assoc, pure_bind]

/-- Compiles a call of a method that was found or not. -/
def compileCall (types : Option Introspector) (onDefault : Value → Run Value) (className : Text)
    (b : Binding) : Option Callable → Run Instruction
  | none => Run.mismatched (.methodMissing className b.method)
  | some c =>
    compileArguments onDefault (boundRuns types onDefault (some b)) (some c) >>= fun vs =>
      pure (.invoke b.method vs c.keywords)

lemma compileMethods_cons {className : Text} (b : Binding) (rest : List Binding) :
    compileMethods types knowledge onDefault className (b :: rest) =
      knowledge.method className b.method >>= fun callable =>
        compileCall types onDefault className b callable >>= fun step =>
          compileMethods types knowledge onDefault className rest >>= fun steps =>
            pure (step :: steps) := by
  obtain ⟨method, arguments⟩ := b
  rw [compileMethods]
  simp only [boundArguments_eq_boundRuns method]
  refine congrArg _ (funext fun callable => ?_)
  rcases callable with _ | c
  · rfl
  · simp only [compileCall, bind_assoc, pure_bind]

lemma compileMethods_traverses (className : Text) :
    Run.Traverses (compileMethods types knowledge onDefault className) fun b =>
      knowledge.method className b.method >>= compileCall types onDefault className b where
  nil := by rw [compileMethods]
  cons b rest := by simp only [compileMethods_cons, bind_assoc]

lemma compileFields_append {className : Text} (fields more : List FieldBinding) :
    compileFields types knowledge onDefault className (fields ++ more) =
      compileFields types knowledge onDefault className fields >>= fun steps =>
        compileFields types knowledge onDefault className more >>= fun later =>
          pure (steps ++ later) := by
  induction fields with
  | nil => simp only [List.nil_append, compileFields, pure_bind, bind_pure]
  | cons b rest ih =>
    simp only [List.cons_append, compileFields_cons, ih, bind_assoc, pure_bind]

lemma compileMethods_append {className : Text} (methods more : List Binding) :
    compileMethods types knowledge onDefault className (methods ++ more) =
      compileMethods types knowledge onDefault className methods >>= fun steps =>
        compileMethods types knowledge onDefault className more >>= fun later =>
          pure (steps ++ later) := by
  induction methods with
  | nil => simp only [List.nil_append, compileMethods, pure_bind, bind_pure]
  | cons b rest ih =>
    simp only [List.cons_append, compileMethods_cons, ih, bind_assoc, pure_bind]

/-! ## Definitions whose class is declared -/

variable {registry : Registry} {d : Definition} {schema : TypeSchema}

/-- The plan of a definition whose class has the given declaration. -/
def declaredPlan (registry : Registry) (onDefault : Value → Run Value) (d : Definition)
    (schema : TypeSchema) : Run Plan :=
  Run.note (.compiling d.name d.className) >>= fun _ =>
    compileArguments onDefault (boundRuns (some registry.introspector) onDefault d.constructor)
      schema.constructor >>= fun arguments =>
    compileFields (some registry.introspector) registry.introspector onDefault d.className
      d.fields >>= fun assignments =>
    compileMethods (some registry.introspector) registry.introspector onDefault d.className
      d.methods >>= fun calls =>
    pure (.construct d.className arguments (keywordsOf schema.constructor) ::
      (assignments ++ calls))

lemma eagerPlan_eq_declaredPlan (h : registry.find? d.className = some schema) :
    eagerPlan registry.introspector onDefault d = declaredPlan registry onDefault d schema := by
  simp only [eagerPlan, declaredPlan, Registry.introspector_constructor h, pure_bind]

end Blueprint
