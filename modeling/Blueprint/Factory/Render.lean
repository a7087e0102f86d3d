/-
# The text of factories

A statement is one line, but for a local function, which is its head and its body one level
deeper.  A level is four spaces.  Names of classes, methods, fields and keywords stand in the
text as they are; only a field that is no identifier is assigned by its quoted name.
-/
import Blueprint.Factory.Draft
import Blueprint.Factory.Name
import Blueprint.Plan.Pass
import Blueprint.Text.Identifier

namespace Blueprint

namespace Factory

/-- The spelling of a role within local names. -/
def Role.text : Role → Text
  | object => "obj"
  | nested => "nested"
  | initializer => "initializer"

/-- The text of a local name. -/
def Local.text (l : Local) : Text :=
  "_" ++ l.role.text ++ "_" ++ toString l.number

/-- The text of a literal.  A double that is no finite number is made from its name. -/
def constantText : Value → Text
  | .float x => if x.isFinite then x.toText else "float(" ++ Text.quote x.toText ++ ")"
  | .derived form (.float x) =>
    let display := (Value.derived form (.float x)).display
    if x.isFinite then display else "float(" ++ Text.quote display ++ ")"
  | v => v.display

mutual

/-- The text of an expression. -/
def Expr.text : Expr → Text
  | .constant v => constantText v
  | .lookup entry => "container.get(" ++ entry.display ++ ")"
  | .build builder => builder.text ++ "()"
  | .list items => listText (exprTexts items)
  | .tuple items => tupleText (exprTexts items)
  | .dict entries => braceText (entryTexts entries)

/-- The texts of expressions. -/
def exprTexts : List Expr → List Text
  | [] => []
  | e :: rest => e.text :: exprTexts rest

/-- The texts of keys, each with that of its value. -/
def entryTexts : List (Expr × Expr) → List Text
  | [] => []
  | (k, v) :: rest => (k.text ++ ": " ++ v.text) :: entryTexts rest

end

/-- The text of what is called. -/
def Callee.text : Callee → Text
  | member moduleName qualifiedName => moduleName ++ "." ++ qualifiedName
  | builtin name => name
  | method target name => target.text ++ "." ++ name

/-- The text of a call. -/
def Call.text (c : Call) : Text :=
  let named := c.keywords.map fun (name, e) => name ++ "=" ++ e.text
  c.callee.text ++ "(" ++ Text.intercalate ", " (c.positional.map Expr.text ++ named) ++ ")"

/-- The space before a line of a level. -/
def indent (level : Nat) : Text :=
  Text.ofChars (List.replicate (4 * level) ' ')

/-- The text of an assignment. -/
def assignText (target : Local) (field : Text) (value : Expr) : Text :=
  if Text.isIdentifier field then target.text ++ "." ++ field ++ " = " ++ value.text
  else "setattr(" ++ target.text ++ ", " ++ Text.quote field ++ ", " ++ value.text ++ ")"

mutual

/-- The lines of a statement of a level. -/
def Statement.lines (level : Nat) : Statement → List Text
  | .define name body =>
    (indent level ++ "def " ++ name.text ++ "():") :: blockLines (level + 1) body
  | .bind target call => [indent level ++ target.text ++ " = " ++ call.text]
  | .assign target field value => [indent level ++ assignText target field value]
  | .perform call => [indent level ++ call.text]
  | .proxy target className initializer =>
    [indent level ++ target.text ++ " = proxy_factory.create_proxy(" ++ Text.quote className ++
      ", " ++ initializer.text ++ ")"]
  | .result target => [indent level ++ "return " ++ target.text]

/-- The lines of the statements of a block. -/
def blockLines (level : Nat) : List Statement → List Text
  | [] => []
  | s :: rest => s.lines level ++ blockLines level rest

end

/-- The lines of a factory. -/
def lines (f : Factory) : List Text :=
  ("def " ++ f.name ++ "(container, proxy_factory):") ::
    (f.imports.map fun name => indent 1 ++ "import " ++ name) ++ blockLines 1 f.body

/-- The text of a factory. -/
def text (f : Factory) : Text :=
  Text.intercalate "\n" f.lines

/-- The factory of a plan.  Its name has to be an identifier. -/
def ofPlan (split : Splitter) (name : Text) (plan : Plan) : Run Factory := do
  if !Text.isIdentifier name then Run.mismatched (.factoryName name)
  let (body, draft) ← (draftPlan split plan).run ⟨0, []⟩
  return { name, imports := draft.modules, body }

end Factory

/-! ## Modules of factories -/

namespace FactoryModule

/-- The first line of every module. -/
def header : Text := "\"\"\"Object factories generated by objcompiler. Do not edit.\"\"\""

/-- The texts of the factories of entries under their names. -/
def factoryTexts (split : Factory.Splitter) : List (Text × Plan) → Run (List Text)
  | [] => return []
  | (name, plan) :: rest => do
    let f ← Factory.ofPlan split name plan
    let more ← factoryTexts split rest
    return f.text :: more

/-- The table of the factories by entry. -/
def tableText (rows : List (Value × Text)) : Text :=
  let rows := rows.map fun (entry, name) =>
    Factory.indent 1 ++ entry.display ++ ": " ++ name ++ ","
  Text.intercalate "\n" (("FACTORIES = \x7b" : Text) :: (rows ++ [("\x7d" : Text)]))

/-- The text of the module of all factories. -/
def text (split : Factory.Splitter) (compiled : CompiledEntries) : Run Text := do
  let entries := compiled.map Prod.fst
  let labels ← Run.ofExcept (entries.mapM Factory.label)
  let names := Factory.uniqueNames [] labels
  let factories ← factoryTexts split (names.zip (compiled.map Prod.snd))
  return Text.intercalate "\n\n\n" (header :: factories ++ [tableText (entries.zip names)]) ++ "\n"

end FactoryModule

end Blueprint
