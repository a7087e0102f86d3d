/-
# Factories as scripts

A factory is a tree that knows what its names are for: a local name has a role and a number, a class
has a module and a name within it.  `Factory.script` forgets that and leaves a script, in which
every name is a text.  The script is written like the factory (`Factory.script_text`), so what is
shown of the meaning of the script is shown of the text that is emitted.
-/
import Blueprint.Factory.Render
import Blueprint.Proofs.Emission.Paths
import Blueprint.Proofs.Emission.Script

namespace Blueprint

namespace Factory

/-! ## Translation -/

/-- A literal; a double that is no finite number is made from its name. -/
def constantScript : Value → Script.Expr
  | .float x =>
    if x.isFinite then .constant (.float x)
    else .call (.name "float") [.constant (.str x.toText)] []
  | .derived form (.float x) =>
    if x.isFinite then .constant (.derived form (.float x))
    else .call (.name "float") [.constant (.str (Value.derived form (.float x)).display)] []
  | v => .constant v

mutual

/-- The expression with its names as texts. -/
def Expr.script : Expr → Script.Expr
  | .constant v => constantScript v
  | .lookup entry => .call (.attribute (.name "container") "get") [.constant entry] []
  | .build builder => .call (.name builder.text) [] []
  | .list items => .list (exprScripts items)
  | .tuple items => .tuple (exprScripts items)
  | .dict entries => .dict (entryScripts entries)

/-- The expressions with their names as texts. -/
def exprScripts : List Expr → List Script.Expr
  | [] => []
  | e :: rest => e.script :: exprScripts rest

/-- The keys and values with their names as texts. -/
def entryScripts : List (Expr × Expr) → List (Script.Expr × Script.Expr)
  | [] => []
  | (k, v) :: rest => (k.script, v.script) :: entryScripts rest

end

/-- The attributes of an expression, one within the other. -/
def attributes (e : Script.Expr) (names : List Text) : Script.Expr :=
  names.foldl .attribute e

/-- A path, from its first name on. -/
def pathScript : List Text → Script.Expr
  | [] => .name ""
  | first :: rest => attributes (.name first) rest

/-- What is called. -/
def Callee.script : Callee → Script.Expr
  | member moduleName qualifiedName =>
    pathScript (Catalog.pathParts moduleName ++ Catalog.pathParts qualifiedName)
  | builtin name => .name name
  | method target name => .attribute (.name target.text) name

/-- The arguments by name. -/
def keywordScripts (keywords : List (Text × Expr)) : List (Text × Script.Expr) :=
  keywords.map fun k => (k.1, k.2.script)

/-- The call with its names as texts. -/
def Call.script (c : Call) : Script.Expr :=
  .call c.callee.script (exprScripts c.positional) (keywordScripts c.keywords)

/-- The assignment of a field, by its name where the field is no identifier. -/
def assignScript (target : Local) (field : Text) (value : Expr) : Script.Statement :=
  if Text.isIdentifier field then .assignAttribute (.name target.text) field value.script
  else
    .evaluate
      (.call (.name "setattr") [.name target.text, .constant (.str field), value.script] [])

/-- The block with its names as texts. -/
def blockScript : List Statement → List Script.Statement
  | [] => []
  | .define name body :: rest => .define name.text (blockScript body) :: blockScript rest
  | .bind target call :: rest => .assign target.text call.script :: blockScript rest
  | .assign target field value :: rest => assignScript target field value :: blockScript rest
  | .perform call :: rest => .evaluate call.script :: blockScript rest
  | .proxy target className initializer :: rest =>
    .assign target.text
        (.call (.attribute (.name "proxy_factory") "create_proxy")
          [.constant (.str className), .name initializer.text] []) ::
      blockScript rest
  | .result target :: rest => .result (.name target.text) :: blockScript rest

/-- The factory with its names as texts. -/
def script (f : Factory) : Script :=
  { name := f.name, imports := f.imports, body := blockScript f.body }

/-! ## Texts -/

lemma constantScript_text (v : Value) : (constantScript v).text = constantText v := by
  have hopen : ("float(" : Text) = "float" ++ "(" := by rfl
  cases v with
  | float x =>
    rw [constantScript, constantText]
    split
    · rfl
    · rw [hopen]
      rfl
  | derived form literal =>
    cases literal with
    | float x =>
      rw [constantScript, constantText]
      split
      · rfl
      · rw [hopen]
        rfl
    | _ => rfl
  | _ => rfl

mutual

lemma Expr.script_text : ∀ e : Expr, e.script.text = e.text
  | .constant v => by rw [Expr.script, Expr.text, constantScript_text]
  | .lookup entry => by
    have hopen : ("container.get(" : Text) = "container" ++ "." ++ "get" ++ "(" := by rfl
    rw [Expr.script, Expr.text, hopen]
    rfl
  | .build builder => by
    have hcall : ("()" : Text) = "(" ++ Text.intercalate ", " [] ++ ")" := by rfl
    rw [Expr.script, Expr.text, hcall, ← Text.append_assoc, ← Text.append_assoc]
    rfl
  | .list items => by rw [Expr.script, Script.Expr.text, Expr.text, exprScripts_texts items]
  | .tuple items => by rw [Expr.script, Script.Expr.text, Expr.text, exprScripts_texts items]
  | .dict entries => by rw [Expr.script, Script.Expr.text, Expr.text, entryScripts_texts entries]

lemma exprScripts_texts : ∀ es : List Expr, Script.exprTexts (exprScripts es) = exprTexts es
  | [] => by rw [exprScripts, Script.exprTexts, exprTexts]
  | e :: rest => by
    rw [exprScripts, Script.exprTexts, exprTexts, Expr.script_text e, exprScripts_texts rest]

lemma entryScripts_texts :
    ∀ es : List (Expr × Expr), Script.entryTexts (entryScripts es) = entryTexts es
  | [] => by rw [entryScripts, Script.entryTexts, entryTexts]
  | (k, v) :: rest => by
    rw [entryScripts, Script.entryTexts, entryTexts, Expr.script_text k, Expr.script_text v,
      entryScripts_texts rest]

end

lemma attributes_text (e : Script.Expr) (first : Text) (rest : List Text) (t : Text)
    (h : e.text = t ++ first) :
    (attributes e rest).text = t ++ Text.intercalate "." (first :: rest) := by
  induction rest generalizing e first t with
  | nil => exact h
  | cons n rest ih =>
    rw [Text.intercalate_cons "." first (List.cons_ne_nil n rest), attributes, List.foldl_cons,
      ← Text.append_assoc, ← Text.append_assoc]
    refine ih (.attribute e n) n (t ++ first ++ ".") ?_
    rw [Script.Expr.text, h]

lemma pathScript_text {parts : List Text} (h : parts ≠ []) :
    (pathScript parts).text = Text.intercalate "." parts := by
  cases parts with
  | nil => exact absurd rfl h
  | cons first rest => exact attributes_text (.name first) first rest ⟨[]⟩ rfl

lemma Callee.script_text (c : Callee) : c.script.text = c.text := by
  cases c with
  | member moduleName qualifiedName =>
    rw [Callee.script, Callee.text, ← Catalog.pathParts_append,
      pathScript_text (Catalog.pathParts_ne_nil _), Catalog.intercalate_pathParts]
  | builtin name => rfl
  | method target name => rfl

lemma exprTexts_eq_map (es : List Expr) : exprTexts es = es.map Expr.text := by
  induction es with
  | nil => rw [exprTexts, List.map_nil]
  | cons e rest ih => rw [exprTexts, List.map_cons, ih]

lemma keywordScripts_texts (keywords : List (Text × Expr)) :
    Script.keywordTexts (keywordScripts keywords) =
      keywords.map fun k => (k.1 ++ "=" ++ k.2.text : Text) := by
  induction keywords with
  | nil =>
    rw [keywordScripts, List.map_nil, Script.keywordTexts, List.map_nil]
  | cons k rest ih =>
    rw [keywordScripts, List.map_cons, Script.keywordTexts, Expr.script_text, List.map_cons, ← ih]
    rfl

lemma Call.script_text (c : Call) : c.script.text = c.text := by
  rw [Call.script, Script.Expr.text, Callee.script_text, exprScripts_texts, exprTexts_eq_map,
    keywordScripts_texts, Call.text]

lemma assignScript_lines (target : Local) (field : Text) (value : Expr) (margin : Text) :
    (assignScript target field value).lines margin = [margin ++ assignText target field value] := by
  rw [assignScript, assignText]
  split
  · simp only [Script.Statement.lines, Script.Expr.text, Expr.script_text, Text.append_assoc]
  · have hopen : ("setattr(" : Text) = "setattr" ++ "(" := by rfl
    rw [hopen]
    simp only [Script.Statement.lines, Script.Expr.text, Script.exprTexts, Script.keywordTexts,
      Expr.script_text, List.append_nil, Text.intercalate, Text.append_assoc]
    rfl

lemma indent_succ (level : Nat) : indent (level + 1) = indent level ++ "    " := by
  have hsum : 4 * (level + 1) = 4 * level + 4 := by omega
  rw [indent, indent, hsum, ← List.replicate_append_replicate, Text.ofChars, List.map_append]
  rfl

mutual

lemma Statement.script_lines (level : Nat) :
    ∀ s : Statement, Script.blockLines (indent level) (blockScript [s]) = s.lines level
  | .define name body => by
    simp only [blockScript, Script.blockLines, Script.Statement.lines, Statement.lines,
      ← indent_succ, blockScript_lines (level + 1) body, List.append_nil]
  | .bind target call => by
    simp only [blockScript, Script.blockLines, Script.Statement.lines, Statement.lines,
      Call.script_text, List.append_nil]
  | .assign target field value => by
    simp only [blockScript, Script.blockLines, assignScript_lines, Statement.lines,
      List.append_nil]
  | .perform call => by
    simp only [blockScript, Script.blockLines, Script.Statement.lines, Statement.lines,
      Call.script_text, List.append_nil]
  | .proxy target className initializer => by
    have hopen : (" = proxy_factory.create_proxy(" : Text) =
        " = " ++ "proxy_factory" ++ "." ++ "create_proxy" ++ "(" := by rfl
    simp only [blockScript, Script.blockLines, Script.Statement.lines, Statement.lines, hopen,
      Script.Expr.text, Script.exprTexts, Script.keywordTexts, List.append_nil, Text.intercalate,
      Text.append_assoc]
    rfl
  | .result target => by
    simp only [blockScript, Script.blockLines, Script.Statement.lines, Statement.lines,
      Script.Expr.text, List.append_nil]

lemma blockScript_lines (level : Nat) :
    ∀ body : List Statement,
      Script.blockLines (indent level) (blockScript body) = blockLines level body
  | [] => by rw [blockScript, Script.blockLines, blockLines]
  | s :: rest => by
    have hcons : Script.blockLines (indent level) (blockScript (s :: rest)) =
        Script.blockLines (indent level) (blockScript [s]) ++
          Script.blockLines (indent level) (blockScript rest) := by
      cases s <;> simp only [blockScript, Script.blockLines, List.append_nil]
    rw [hcons, Statement.script_lines level s, blockScript_lines level rest, blockLines]

end

/-- A factory is written like its script. -/
lemma script_text (f : Factory) : f.script.text = f.text := by
  have hbody : Script.blockLines "    " (blockScript f.body) = blockLines 1 f.body :=
    blockScript_lines 1 f.body
  rw [Script.text, script, hbody, Factory.text, Factory.lines]
  rfl

end Factory

end Blueprint
