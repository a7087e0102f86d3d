/-
# Scripts

The text of a factory is a program of another language.  This file gives the part of that language
that factories are written in: its syntax, in which every name is a text, how it is written, and
what it means.

* Names mean what they mean in their normal form.
* An import binds the first part of the path of a module; a path that starts with one of an imported
  module, and goes on, is that of a class.
* The name of a script hides what the language has under that name.
* A function sees the names around it.  As it may be called at any later time, a name that is bound
  again when the function is defined or after that is taken not to be seen at all, which gives
  programs less meaning than they have.
* What has no meaning here is `stuck`: an unbound name, an operand that is no object, a call of what
  cannot be called.
-/
import Blueprint.Factory.Draft
import Blueprint.Proofs.Emission.Execution
import Blueprint.Text.Normal
import Blueprint.Value.Display

namespace Blueprint

namespace Script

/-! ## Syntax -/

/-- An expression. -/
inductive Expr where
  /-- A literal. -/
  | constant (value : Value)
  /-- A name. -/
  | name (name : Text)
  /-- An attribute. -/
  | attribute (e : Expr) (name : Text)
  /-- A call, with arguments in order and by name. -/
  | call (callee : Expr) (positional : List Expr) (keywords : List (Text × Expr))
  /-- A list. -/
  | list (items : List Expr)
  /-- A tuple. -/
  | tuple (items : List Expr)
  /-- A dictionary. -/
  | dict (entries : List (Expr × Expr))

/-- A statement. -/
inductive Statement where
  /-- Define a function without parameters. -/
  | define (name : Text) (body : List Statement)
  /-- Bind a name. -/
  | assign (name : Text) (value : Expr)
  /-- Assign an attribute. -/
  | assignAttribute (target : Expr) (name : Text) (value : Expr)
  /-- Evaluate, and drop the result. -/
  | evaluate (e : Expr)
  /-- Return an object. -/
  | result (e : Expr)

end Script

/-- A function of a container and a factory of placeholders. -/
structure Script where
  /-- Its name. -/
  name : Text
  /-- The modules that it imports. -/
  imports : List Text
  /-- Its body. -/
  body : List Script.Statement

namespace Script

/-! ## Text -/

mutual

/-- The text of an expression. -/
def Expr.text : Expr → Text
  | .constant v => v.display
  | .name n => n
  | .attribute e n => e.text ++ "." ++ n
  | .call callee positional keywords =>
    callee.text ++ "(" ++
      Text.intercalate ", " (exprTexts positional ++ keywordTexts keywords) ++ ")"
  | .list items => listText (exprTexts items)
  | .tuple items => tupleText (exprTexts items)
  | .dict entries => braceText (entryTexts entries)

/-- The texts of expressions. -/
def exprTexts : List Expr → List Text
  | [] => []
  | e :: rest => e.text :: exprTexts rest

/-- The texts of arguments by name. -/
def keywordTexts : List (Text × Expr) → List Text
  | [] => []
  | (name, e) :: rest => (name ++ "=" ++ e.text) :: keywordTexts rest

/-- The texts of keys, each with that of its value. -/
def entryTexts : List (Expr × Expr) → List Text
  | [] => []
  | (k, v) :: rest => (k.text ++ ": " ++ v.text) :: entryTexts rest

end

mutual

/-- The lines of a statement behind a margin. -/
def Statement.lines (margin : Text) : Statement → List Text
  | .define name body =>
    (margin ++ "def " ++ name ++ "():") :: blockLines (margin ++ "    ") body
  | .assign name value => [margin ++ name ++ " = " ++ value.text]
  | .assignAttribute target name value =>
    [margin ++ target.text ++ "." ++ name ++ " = " ++ value.text]
  | .evaluate e => [margin ++ e.text]
  | .result e => [margin ++ "return " ++ e.text]

/-- The lines of a block behind a margin. -/
def blockLines (margin : Text) : List Statement → List Text
  | [] => []
  | s :: rest => s.lines margin ++ blockLines margin rest

end

/-- The text of a script. -/
def text (s : Script) : Text :=
  Text.intercalate "\n" <|
    ("def " ++ s.name ++ "(container, proxy_factory):") ::
      (s.imports.map fun name => "    import " ++ name) ++ blockLines "    " s.body

/-! ## Meaning -/

section Meaning

variable {m : Type → Type} {O : Type}

/-- What a name, or an attribute of one, stands for. -/
inductive Datum (m : Type → Type) (O : Type) where
  /-- An object. -/
  | object (o : O)
  /-- A function without parameters. -/
  | routine (run : m O)
  /-- The module of a path, or what is in it. -/
  | member (path : List Text)
  /-- The container. -/
  | container
  /-- The factory of placeholders. -/
  | proxyFactory
  /-- A method of an object. -/
  | method (o : O) (name : Text)
  /-- The lookup of the container. -/
  | getter
  /-- The function that makes placeholders. -/
  | creator
  /-- The function that assigns a field by its name. -/
  | setter
  /-- A class that needs no module. -/
  | builtin (name : Text)
  /-- The script itself. -/
  | script

/-- What the names stand for. -/
abbrev Names (m : Type → Type) (O : Type) := Text → Option (Datum m O)

/-- The names, with one bound. -/
def Names.bind (names : Names m O) (name : Text) (d : Datum m O) : Names m O :=
  fun n => if n = name.normal then some d else names n

/-- The names, with some no longer bound. -/
def Names.without (names : Names m O) (unbound : List Text) : Names m O :=
  fun n => if n ∈ unbound.map Text.normal then none else names n

/-- The names that a block binds. -/
def boundNames : List Statement → List Text
  | [] => []
  | .define name _ :: rest => name :: boundNames rest
  | .assign name _ :: rest => name :: boundNames rest
  | _ :: rest => boundNames rest

/-- The names that stand for something without being bound. -/
def standardNames : List Text :=
  "setattr" :: Factory.builtinNames

/-- What a name stands for that is not bound. -/
def standard? (name : Text) : Option (Datum m O) :=
  if name = "setattr" then some .setter
  else if name ∈ Factory.builtinNames then some (.builtin name)
  else none

/-- An attribute. -/
def Datum.attribute? : Datum m O → Text → Option (Datum m O)
  | .object o, name => some (.method o name)
  | .member path, name => some (.member (path ++ [name]))
  | .container, name => if name = "get" then some .getter else none
  | .proxyFactory, name => if name = "create_proxy" then some .creator else none
  | _, _ => none

/-- What a name, or an attribute of one, stands for. -/
def Expr.datum? (names : Names m O) : Expr → Option (Datum m O)
  | .name n => (names n.normal).or (standard? n.normal)
  | .attribute e n => (e.datum? names).bind fun d => d.attribute? n.normal
  | _ => none

/-- Whether the path of a class starts with that of an imported module. -/
def isImported (modules : List (List Text)) (path : List Text) : Bool :=
  modules.any fun parts => parts.isPrefixOf path && decide (parts.length < path.length)

/-- The paths of modules, each by its parts. -/
def modulePaths (imports : List Text) : List (List Text) :=
  imports.map fun name => (Catalog.pathParts name).map Text.normal

/-- The names that imports bind: of each module the first part of its path. -/
def importedNames (imports : List Text) : List Text :=
  (modulePaths imports).filterMap List.head?

/-- What the names of the parameters stand for. -/
def parameter? (n : Text) : Option (Datum m O) :=
  if n = "container" then some .container
  else if n = "proxy_factory" then some .proxyFactory
  else none

/-- What the names stand for before the body is run: imported modules, or else the script itself
where its name hides something, or else parameters. -/
def initialNames (s : Script) : Names m O := fun n =>
  if n ∈ importedNames s.imports then some (.member [n])
  else if n = s.name.normal ∧ n ∈ standardNames then some .script
  else parameter? n

variable [Monad m]

/-- A call, given what is called and how its arguments are written and made. -/
def call (host : Host m O) (modules : List (List Text)) (names : Names m O)
    (callee : Option (Datum m O)) (written : List Expr) (positional : m (List O))
    (keywords : List Text) (named : m (List O)) : m O :=
  match callee, written, keywords with
  | some (.routine run), [], [] => run
  | some (.member path), _, _ =>
    if isImported modules path then do
      let os ← positional
      let ks ← named
      host.construct path os (keywords.zip ks)
    else host.stuck
  | some (.builtin name), _, _ => do
    let os ← positional
    let ks ← named
    host.construct [name] os (keywords.zip ks)
  | some (.method o name), _, _ => do
    let os ← positional
    let ks ← named
    host.invoke o name os (keywords.zip ks)
  | some .getter, [.constant entry], [] => host.lookup entry
  | some .creator, [.constant (.str className), e], [] =>
    match e.datum? names with
    | some (.routine run) => host.createProxy className run
    | _ => host.stuck
  | some .setter, [_, .constant (.str field), _], [] => do
    match ← positional with
    | [o, _, v] => do
      host.assign o field v
      return host.constant .null
    | _ => host.stuck
  | _, _, _ => host.stuck

mutual

/-- Makes the object of an expression. -/
def Expr.operand (host : Host m O) (modules : List (List Text)) (names : Names m O) : Expr → m O
  | .constant v => return host.constant v
  | .name n =>
    match Expr.datum? names (.name n) with
    | some (.object o) => pure o
    | _ => host.stuck
  | .attribute _ _ => host.stuck
  | .call callee positional keywords =>
    call host modules names (callee.datum? names) positional
      (operands host modules names positional)
      (keywords.map fun k => k.1.normal) (namedOperands host modules names keywords)
  | .list items => do return host.list (← operands host modules names items)
  | .tuple items => do return host.tuple (← operands host modules names items)
  | .dict entries => do return host.dict (← entryOperands host modules names entries)

/-- Makes the objects of expressions. -/
def operands (host : Host m O) (modules : List (List Text)) (names : Names m O) :
    List Expr → m (List O)
  | [] => return []
  | e :: rest => do
    let o ← e.operand host modules names
    let more ← operands host modules names rest
    return o :: more

/-- Makes the objects of arguments by name. -/
def namedOperands (host : Host m O) (modules : List (List Text)) (names : Names m O) :
    List (Text × Expr) → m (List O)
  | [] => return []
  | (_, e) :: rest => do
    let o ← e.operand host modules names
    let more ← namedOperands host modules names rest
    return o :: more

/-- Makes the objects of keys, each with that of its value. -/
def entryOperands (host : Host m O) (modules : List (List Text)) (names : Names m O) :
    List (Expr × Expr) → m (List (O × O))
  | [] => return []
  | (k, v) :: rest => do
    let a ← k.operand host modules names
    let b ← v.operand host modules names
    let more ← entryOperands host modules names rest
    return (a, b) :: more

end

/-- Runs a block, up to the object that it returns. -/
def runBlock (host : Host m O) (modules : List (List Text)) :
    List Statement → Names m O → m O
  | [], _ => return host.constant .null
  | .define name body :: rest, names =>
    let seen := (names.without (name :: boundNames rest)).without (boundNames body)
    runBlock host modules rest (names.bind name (.routine (runBlock host modules body seen)))
  | .assign name value :: rest, names => do
    let o ← value.operand host modules names
    runBlock host modules rest (names.bind name (.object o))
  | .assignAttribute target name value :: rest, names => do
    let v ← value.operand host modules names
    let o ← target.operand host modules names
    host.assign o name.normal v
    runBlock host modules rest names
  | .evaluate e :: rest, names => do
    let _ ← e.operand host modules names
    runBlock host modules rest names
  | .result e :: _, names => e.operand host modules names

/-- Runs a script. -/
def run (host : Host m O) (s : Script) : m O :=
  runBlock host (modulePaths s.imports) s.body s.initialNames

end Meaning

/-! ## Legal scripts -/

/-- The names of constants, which nothing else is ever called. -/
def constants : List Text :=
  List.map Text.ofString ["False", "None", "True", "__debug__"]

/-- The names that the language has taken. -/
def reservedNames : List Text :=
  constants ++ List.map Text.ofString
    ["and", "as", "assert", "async", "await", "break", "class", "continue", "def", "del", "elif",
      "else", "except", "finally", "for", "from", "global", "if", "import", "in", "is", "lambda",
      "nonlocal", "not", "or", "pass", "raise", "return", "try", "while", "with", "yield"]

/-- An identifier that is not taken. -/
def IsBareName (n : Text) : Prop :=
  Text.isIdentifier n = true ∧ n ∉ reservedNames

instance : DecidablePred IsBareName :=
  fun n => inferInstanceAs (Decidable (Text.isIdentifier n = true ∧ n ∉ reservedNames))

/-- A text that can be written where a name is expected.  What it means in its normal form may look
like a taken name, but not be a constant. -/
def IsName (n : Text) : Prop :=
  IsBareName n ∧ n.normal ∉ constants

instance : DecidablePred IsName :=
  fun n => inferInstanceAs (Decidable (IsBareName n ∧ n.normal ∉ constants))

mutual

/-- The expression can be written as it is. -/
def Expr.IsLegal : Expr → Prop
  | .constant v => v.isPlain = true
  | .name n => IsName n
  | .attribute e n => e.IsLegal ∧ IsName n
  | .call callee positional keywords =>
    callee.IsLegal ∧ AllLegal positional ∧ NamedLegal keywords ∧
      (keywords.map fun k => k.1.normal).Nodup
  | .list items => AllLegal items
  | .tuple items => AllLegal items
  | .dict entries => EntriesLegal entries

/-- The expressions can be written as they are. -/
def AllLegal : List Expr → Prop
  | [] => True
  | e :: rest => e.IsLegal ∧ AllLegal rest

/-- The arguments can be written as they are. -/
def NamedLegal : List (Text × Expr) → Prop
  | [] => True
  | (name, e) :: rest => IsName name ∧ e.IsLegal ∧ NamedLegal rest

/-- The keys and values can be written as they are. -/
def EntriesLegal : List (Expr × Expr) → Prop
  | [] => True
  | (k, v) :: rest => k.IsLegal ∧ v.IsLegal ∧ EntriesLegal rest

end

/-- The statements can be written as they are. -/
def BlockLegal : List Statement → Prop
  | [] => True
  | .define name body :: rest => IsName name ∧ BlockLegal body ∧ BlockLegal rest
  | .assign name value :: rest => IsName name ∧ value.IsLegal ∧ BlockLegal rest
  | .assignAttribute target name value :: rest =>
    target.IsLegal ∧ IsName name ∧ value.IsLegal ∧ BlockLegal rest
  | .evaluate e :: rest => e.IsLegal ∧ BlockLegal rest
  | .result e :: rest => e.IsLegal ∧ BlockLegal rest

/-- The imports and the body of the script can be written as they are. -/
structure IsLegal (s : Script) : Prop where
  /-- Its name. -/
  name : IsName s.name
  /-- The paths of modules. -/
  imports : ∀ name ∈ s.imports, ∀ part ∈ Catalog.pathParts name, IsName part
  /-- Its body. -/
  body : BlockLegal s.body

end Script

end Blueprint
