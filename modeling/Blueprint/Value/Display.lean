/-
# Values as text

Every value has a display form, which messages and generated source quote it by.  For null,
truth values, whole numbers, finite doubles, texts, bytes and collections of these it is a
literal of the generated language, from which the value can be read back.  The text form of a
value is its display form, except that a text stands for itself without quotation marks.

A whole number of too many digits cannot be written.  The forms are total and give it its digits
nevertheless: whether a value can be written is a question of its own, `Value.isWritten` and
`Value.isTextWritten`, and whoever writes a value asks it first.
-/
import Blueprint.Double.Notation
import Blueprint.Text.Quoted
import Blueprint.Value.Basic

namespace Blueprint

/-- The spelling of a truth value. -/
def boolText (b : Bool) : Text :=
  if b then "True" else "False"

/-- Items between parentheses; a single item keeps its comma. -/
def tupleText : List Text → Text
  | [item] => "(" ++ item ++ ",)"
  | items => "(" ++ Text.intercalate ", " items ++ ")"

/-- Items between brackets. -/
def listText (items : List Text) : Text :=
  "[" ++ Text.intercalate ", " items ++ "]"

/-- Items between braces. -/
def braceText (items : List Text) : Text :=
  "\x7b" ++ Text.intercalate ", " items ++ "\x7d"

/-- The display form of the names that arguments are passed by. -/
def keywordsText (keywords : List Text) : Text :=
  tupleText (keywords.map Text.quote)

mutual

/-- The display form of a value, with all the digits of its numbers (`Value.isWritten` says whether
that many can be written). -/
def Value.display : Value → Text
  | .null => "None"
  | .bool b => boolText b
  | .int i => toString i
  | .float x => x.toText
  | .str s => Text.quote s
  | .bytes b => Text.quoteBytes b
  | .list items => listText (displayAll items)
  | .tuple items => tupleText (displayAll items)
  | .dict entries => braceText (displayEntries entries)
  | .reference entry => "Reference(entry_name=" ++ entry.display ++ ")"
  | .useDefault => "USE_DEFAULT"
  | .definition d => displayDefinition d
  | .nested className plan =>
    "NestedObject(class_name=" ++ Text.quote className ++ ", instructions=" ++
      tupleText (displayPlan plan) ++ ")"
  | .set items => if items.isEmpty then "set()" else braceText (displayAll items)
  | .foreign tag => "<opaque " ++ tag ++ ">"
  | .enumMember enumeration member value =>
    "<" ++ enumeration ++ "." ++ member ++ ": " ++ value.display ++ ">"
  | .derived form _ => form.display?.getD ""

/-- The display forms of items. -/
def displayAll : List Value → List Text
  | [] => []
  | item :: rest => item.display :: displayAll rest

/-- The display forms of keys with their values. -/
def displayEntries : List (Value × Value) → List Text
  | [] => []
  | (key, value) :: rest => (key.display ++ ": " ++ value.display) :: displayEntries rest

/-- The display forms of positions with their values. -/
def displayArguments : List (Nat × Value) → List Text
  | [] => []
  | (position, value) :: rest =>
    (toString position ++ ": " ++ value.display) :: displayArguments rest

/-- The display form of a definition. -/
def displayDefinition : Definition → Text
  | ⟨name, className, isLazy, constructor, fields, methods⟩ =>
    "ObjectDefinition(name=" ++ name.display ++ ", class_name=" ++ Text.quote className ++
      ", lazy=" ++ boolText isLazy ++ ", constructor=" ++ displayConstructor constructor ++
      ", fields=" ++ tupleText (displayFields fields) ++
      ", methods=" ++ tupleText (displayMethods methods) ++ ")"

/-- The display form of an optional binding. -/
def displayConstructor : Option Binding → Text
  | none => "None"
  | some b => displayBinding b

/-- The display form of a binding. -/
def displayBinding : Binding → Text
  | ⟨method, arguments⟩ =>
    "MethodBinding(method_name=" ++ Text.quote method ++ ", parameters=mappingproxy(" ++
      braceText (displayArguments arguments) ++ "))"

/-- The display forms of field bindings. -/
def displayFields : List FieldBinding → List Text
  | [] => []
  | ⟨field, value, owner⟩ :: rest =>
    ("FieldBinding(field_name=" ++ Text.quote field ++ ", value=" ++ value.display ++
      ", class_name=" ++ owner.display ++ ")") :: displayFields rest

/-- The display forms of method bindings. -/
def displayMethods : List Binding → List Text
  | [] => []
  | b :: rest => displayBinding b :: displayMethods rest

/-- The display form of an instruction. -/
def displayInstruction : Instruction → Text
  | .construct className arguments keywords =>
    "Construct(class_name=" ++ Text.quote className ++ ", args=" ++
      tupleText (displayAll arguments) ++ ", kwnames=" ++ keywordsText keywords ++ ")"
  | .assign field value =>
    "AssignField(field_name=" ++ Text.quote field ++ ", value=" ++ value.display ++ ")"
  | .invoke method arguments keywords =>
    "InvokeMethod(method_name=" ++ Text.quote method ++ ", args=" ++
      tupleText (displayAll arguments) ++ ", kwnames=" ++ keywordsText keywords ++ ")"
  | .placeholder className initializer =>
    "InstallLazyPlaceholder(class_name=" ++ Text.quote className ++ ", initializer=" ++
      tupleText (displayPlan initializer) ++ ")"
  | .stray value => value.display

/-- The display forms of the instructions of a plan. -/
def displayPlan : List Instruction → List Text
  | [] => []
  | step :: rest => displayInstruction step :: displayPlan rest

end

/-- The text form of a value, with all the digits of its numbers (`Value.isTextWritten` says whether
that many can be written). -/
def Value.text : Value → Text
  | .str s => s
  | .enumMember enumeration member _ => enumeration ++ "." ++ member
  | .derived form _ => form.text?.getD ""
  | v => v.display

end Blueprint
