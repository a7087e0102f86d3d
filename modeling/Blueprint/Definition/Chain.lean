/-
# Chains of steps

A chain starts from a class and a name and takes steps one after the other, each on the definition
that the step before it made.  A step makes a new definition and leaves alone what it is taken on,
so several chains may go on from one place: the requests of a session start definitions, or take a
step on what any earlier request came to.
-/
import Blueprint.Definition.Builder

namespace Blueprint

/-- The arguments that a call is given. -/
structure GivenArguments where
  /-- Those that are given in order. -/
  inOrder : List Value
  /-- Those that are given by name. -/
  named : List (Text × Value)

/-- A step in the making of a definition. -/
inductive BuildStep where
  /-- Sets the arguments of the constructor. -/
  | constructor (given : GivenArguments)
  /-- Adds the assignment of a field; the owner is null where no class is named for it. -/
  | field (field : Text) (value owner : Value)
  /-- Adds the call of a method. -/
  | method (name : Text) (given : GivenArguments)
  /-- Sets the lazy flag. -/
  | lazy (flag : Bool)

/-- Takes a step. -/
def Definition.take (d : Definition) : BuildStep → Except Failure Definition
  | .constructor given => d.withConstructor given.inOrder given.named
  | .field field value owner => .ok (d.withField field value owner)
  | .method name given => d.withMethod name given.inOrder given.named
  | .lazy flag => .ok (d.withLazy flag)

/-- A class and a name to start from, and the steps to take. -/
structure BuildChain where
  /-- The path of the class. -/
  className : Text
  /-- The name of the entry. -/
  name : Value
  /-- The steps in their order. -/
  steps : List BuildStep

namespace BuildChain

/-- The chain with one more step. -/
def snoc (chain : BuildChain) (step : BuildStep) : BuildChain :=
  { chain with steps := chain.steps ++ [step] }

/-- The definition that a chain comes to; the first step that is refused ends it. -/
def build (chain : BuildChain) : Except Failure Definition :=
  chain.steps.foldlM Definition.take (Definition.create chain.className chain.name)

theorem build_nil (className : Text) (name : Value) :
    (⟨className, name, []⟩ : BuildChain).build = .ok (Definition.create className name) :=
  rfl

theorem build_snoc (chain : BuildChain) (step : BuildStep) :
    (chain.snoc step).build = chain.build.bind (·.take step) := by
  rw [build, snoc, List.foldlM_append]
  refine congrArg (Except.bind _) (funext fun d => ?_)
  rw [List.foldlM_cons]
  exact bind_pure _

end BuildChain

/-- What can be asked for in a session. -/
inductive BuildRequest where
  /-- To start a definition. -/
  | create (className : Text) (name : Value)
  /-- To take a step on what an earlier request came to. -/
  | take (source : Nat) (step : BuildStep)

namespace BuildRequest

/-- Serves a request.  What it comes to is listed after what the requests before it came to, and
taking a step on what failed fails in the same way; nothing can be taken on what is not there. -/
def serve (made : List (Except Failure Definition)) :
    BuildRequest → List (Except Failure Definition)
  | create className name => made ++ [.ok (Definition.create className name)]
  | take source step =>
    match made[source]? with
    | some result => made ++ [result.bind (·.take step)]
    | none => made

/-- What the requests of a session come to. -/
def results (requests : List BuildRequest) : List (Except Failure Definition) :=
  requests.foldl serve []

end BuildRequest

end Blueprint
