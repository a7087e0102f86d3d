/-
# From plans to factories

The statements of a factory are drafted in one walk through the plan.  On the way local names
are numbered and the modules of constructed classes are collected, each at its first use.  How
a class path splits into a module and a name within it is a question for those who know the
modules, so it is a parameter.
-/
import Blueprint.Factory.Statement
import Blueprint.Plan.Arguments
import Blueprint.Run

namespace Blueprint.Factory

/-- What has been drafted so far: how many local names, and which modules. -/
structure Draft where
  /-- The number of the last local name. -/
  count : Nat
  /-- The modules so far, in the order of their first use. -/
  modules : List Text

/-- A step of the walk. -/
abbrev Drafting := StateT Draft Run

/-- How class paths split into a module and a name within it. -/
abbrev Splitter := Text → Run (Text × Text)

/-- The classes that need no module. -/
def builtinNames : List Text :=
  ["object", "dict", "list", "set", "tuple", "str", "int", "float", "bytes"]

/-- The next local name. -/
def fresh (role : Role) : Drafting Local := do
  let draft ← get
  set { draft with count := draft.count + 1 }
  return ⟨role, draft.count + 1⟩

/-- Records the use of a module. -/
def useModule (name : Text) : Drafting Unit :=
  modify fun draft =>
    if draft.modules.contains name then draft
    else { draft with modules := draft.modules ++ [name] }

/-- Gives up on a plan. -/
def refuse {α : Type} (cause : Mismatch) : Drafting α :=
  StateT.lift (Run.mismatched cause)

/-- Goes on if a value can be written. -/
def ifWritten {α : Type} (v : Value) (x : Drafting α) : Drafting α :=
  fun draft => Run.ifWritten v.isWritten (x draft)

/-- The class of a path, as it is called. -/
def draftClass (split : Splitter) (className : Text) : Drafting Callee := do
  let (moduleName, qualifiedName) ← StateT.lift (split className)
  if moduleName.isEmpty then
    if builtinNames.contains className then return .builtin className
    else refuse (.unqualifiedClass className)
  else
    useModule moduleName
    return .member moduleName qualifiedName

/-- An expression with the definitions it needs before it. -/
abbrev Drafted := List Statement × Expr

/-- The expression of a literal. -/
def draftLiteral (v : Value) : Drafting Drafted :=
  ifWritten v (return ([], .constant v))

/-- Gives up on an operand that has no literal, and quotes it. -/
def refuseConstant (v : Value) : Drafting Drafted :=
  ifWritten v (refuse (.unsupportedConstant v))

/-- Drafts expressions one after the other. -/
def draftAll : List (Drafting Drafted) → Drafting (List Statement × List Expr)
  | [] => return ([], [])
  | x :: rest => do
    let (before, e) ← x
    let (more, es) ← draftAll rest
    return (before ++ more, e :: es)

/-- Drafts named expressions one after the other. -/
def draftNamed : List (Text × Drafting Drafted) →
    Drafting (List Statement × List (Text × Expr))
  | [] => return ([], [])
  | (name, x) :: rest => do
    let (before, e) ← x
    let (more, es) ← draftNamed rest
    return (before ++ more, (name, e) :: es)

/-- Named expressions are drafted like those without names. -/
theorem draftNamed_eq (xs : List (Text × Drafting Drafted)) :
    draftNamed xs = draftAll (xs.map Prod.snd) >>= fun drafted =>
      pure (drafted.1, (xs.map Prod.fst).zip drafted.2) := by
  induction xs with
  | nil => rfl
  | cons x rest ih =>
    obtain ⟨name, x⟩ := x
    simp only [draftNamed, ih, List.map_cons, draftAll, bind_assoc, pure_bind, List.zip_cons_cons]

/-- Drafts a call from its arguments, first those in order, then those by name. -/
def draftCall (callee : Callee) (arguments : List (Drafting Drafted)) (keywords : List Text) :
    Drafting (List Statement × Call) := do
  let (positional, named) := splitArguments arguments keywords
  let (before, es) ← draftAll positional
  let (more, ks) ← draftNamed named
  return (before ++ more, ⟨callee, es, ks⟩)

/-- A block: its statements, and then it returns the object that they build. -/
def inBlock (steps : Local → Drafting (List Statement)) : Drafting (List Statement) := do
  let target ← fresh .object
  let statements ← steps target
  return statements ++ [.result target]

mutual

/-- Drafts the expression of a value. -/
def draftValue (split : Splitter) : Value → Drafting Drafted
  | .null => draftLiteral .null
  | .bool b => draftLiteral (.bool b)
  | .int i => draftLiteral (.int i)
  | .float x => draftLiteral (.float x)
  | .str s => draftLiteral (.str s)
  | .bytes b => draftLiteral (.bytes b)
  | .derived form literal => draftLiteral (.derived form literal)
  | .reference entry => ifWritten entry (return ([], .lookup entry))
  | .nested _ plan => do
    let builder ← fresh .nested
    let body ← inBlock fun target => draftSteps split target plan
    return ([.define builder body], .build builder)
  | .list items => do
    let (before, es) ← draftAll (draftItems split items)
    return (before, .list es)
  | .tuple items => do
    let (before, es) ← draftAll (draftItems split items)
    return (before, .tuple es)
  | .dict entries => do
    let (before, es) ← draftEntries split entries
    return (before, .dict es)
  | .useDefault => refuseConstant .useDefault
  | .definition d => refuseConstant (.definition d)
  | .set items => refuseConstant (.set items)
  | .foreign tag => refuseConstant (.foreign tag)
  | .enumMember enumeration member value => refuseConstant (.enumMember enumeration member value)

/-- The expressions of items, still to be drafted. -/
def draftItems (split : Splitter) : List Value → List (Drafting Drafted)
  | [] => []
  | item :: rest => draftValue split item :: draftItems split rest

/-- Drafts the expressions of keys, each with that of its value. -/
def draftEntries (split : Splitter) : List (Value × Value) →
    Drafting (List Statement × List (Expr × Expr))
  | [] => return ([], [])
  | (key, item) :: rest => do
    let (before, k) ← draftValue split key
    let (middle, v) ← draftValue split item
    let (more, es) ← draftEntries split rest
    return (before ++ middle ++ more, (k, v) :: es)

/-- Drafts the statements of the instructions that build an object. -/
def draftSteps (split : Splitter) (target : Local) : List Instruction → Drafting (List Statement)
  | [] => return []
  | .construct className arguments keywords :: rest => do
    let callee ← draftClass split className
    let (before, call) ← draftCall callee (draftItems split arguments) keywords
    let more ← draftSteps split target rest
    return before ++ .bind target call :: more
  | .assign field value :: rest => do
    let (before, e) ← draftValue split value
    let more ← draftSteps split target rest
    return before ++ .assign target field e :: more
  | .invoke method arguments keywords :: rest => do
    let (before, call) ←
      draftCall (.method target method) (draftItems split arguments) keywords
    let more ← draftSteps split target rest
    return before ++ .perform call :: more
  | .placeholder className initializer :: rest => do
    let builder ← fresh .initializer
    let body ← inBlock fun inner => draftSteps split inner initializer
    let more ← draftSteps split target rest
    return .define builder body :: .proxy target className builder :: more
  | .stray value :: _ => ifWritten value (refuse (.unsupportedInstruction value))

end

/-- Drafts the block of a plan. -/
def draftPlan (split : Splitter) (plan : Plan) : Drafting (List Statement) :=
  inBlock fun target => draftSteps split target plan

end Blueprint.Factory
