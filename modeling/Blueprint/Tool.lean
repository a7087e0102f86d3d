/-
# Tools for agents

Two tools answer with a dictionary: one compiles a definition to its payload, one renders it as
a factory.  What goes wrong in a compilation is an answer too; anything else is a failure of the
call.  The tools are registered with a server in whichever way it offers.
-/
import Blueprint.Definition.Loader
import Blueprint.Factory.Render
import Blueprint.Plan.Payload

namespace Blueprint

/-- A tool. -/
inductive Tool where
  /-- Compiles a definition. -/
  | compileDefinition
  /-- Renders a definition as a factory. -/
  | emitFactory
deriving DecidableEq, Repr

namespace Tool

/-- All tools, in the order in which they are registered. -/
def all : List Tool := [compileDefinition, emitFactory]

/-- The name of a tool. -/
def name : Tool → Text
  | compileDefinition => "compile_definition"
  | emitFactory => "emit_factory"

/-- What a tool does, in words. -/
def description : Tool → Text
  | compileDefinition => "Compile one object definition into construction instructions."
  | emitFactory =>
    "Compile one object definition and render it as a Python factory function."

/-- The tool of a name. -/
def ofName? (name : Text) : Option Tool :=
  all.find? fun tool => tool.name == name

/-- The answer of a tool that did its work. -/
def succeeded (part : Text) (value : Value) : Value :=
  record [("ok", .bool true), (part, value)]

/-- The answer of a tool that could not compile. -/
def failed (text : Text) : Value :=
  record [("ok", .bool false), ("error", .str text)]

/-- Makes an answer of what goes wrong in a compilation. -/
def answering (x : Run Value) : Run Value :=
  x.recover fun failure =>
    if failure.isCompilation then return failed failure.message else Run.fail failure

/-- The plan of the entry of a name. -/
def planOf (types : Introspector) (name : Text) (json : Json) : Run Plan := do
  compile types (← Definition.loadEntry (.str name) json)

/-- The factory of a plan, named after its entry. -/
def sourceOf (split : Factory.Splitter) (name : Text) (plan : Plan) : Run Text := do
  let f ← Factory.ofPlan split (Factory.namePrefix ++ Factory.sanitize name) plan
  return f.text

/-- Calls a tool. -/
def call (types : Introspector) (split : Factory.Splitter) (name : Text) (json : Json) :
    Tool → Run Value
  | compileDefinition => answering do
    let plan ← planOf types name json
    return succeeded "instructions" (← Run.ofExcept (planData plan))
  | emitFactory => answering do
    return succeeded "source" (.str (← sourceOf split name (← planOf types name json)))

end Tool

/-- The ways in which a server lets tools be registered. -/
inductive Registration where
  /-- By name and description. -/
  | described
  /-- Without saying anything about them. -/
  | plain
  /-- By handing them over with name and description. -/
  | handedOver
  /-- Not at all. -/
  | unsupported
  /-- There is no server. -/
  | absent
deriving DecidableEq, Repr

/-- The tools of a server once they are registered, each with its description if it has one. -/
def Registration.register : Registration → Except Failure (List (Text × Option Text))
  | described | handedOver => .ok (Tool.all.map fun tool => (tool.name, some tool.description))
  | plain => .ok (Tool.all.map fun tool => (tool.name, none))
  | unsupported => .error .serverUnsupported
  | absent => .error .serverMissing

/-- The name that a server has if it is given none. -/
def defaultServerName : Text := "objcompiler"

end Blueprint
