/-
# A factory and its script do the same

For a host, running the script of a factory is running the factory for the host as it is addressed
by names that are written: `Factory.run_script`.  What the texts in the script stand for is carried
along as `Factory.Matches`, which every statement of a block preserves.
-/
import Blueprint.Proofs.Emission.Names

namespace Blueprint

namespace Factory

variable {m : Type → Type} {O : Type} {imports own : List Text} {names : Script.Names m O}
  {locals : Locals m O}

/-! ## Single names -/

/-- The names that scripts have for what is neither local nor imported. -/
def fixedNames : List Text :=
  "container" :: "proxy_factory" :: "setattr" :: builtinNames

lemma normal_of_mem_fixedNames {n : Text} (h : n ∈ fixedNames) : n.normal = n := by
  have hall : ∀ n ∈ fixedNames, n.normal = n := by decide
  exact hall n h

lemma ne_text_of_mem_fixedNames {n : Text} (h : n ∈ fixedNames) (l : Local) : n ≠ l.text := by
  have hall : ∀ n ∈ fixedNames, n.points.head? ≠ some (.char '_') := by decide
  rintro rfl
  exact hall _ h l.head_text

lemma standard?_text (l : Local) :
    (Script.standard? l.text : Option (Script.Datum m O)) = none := by
  have hsetter : l.text ≠ "setattr" :=
    (ne_text_of_mem_fixedNames (by decide) l).symm
  have hbuiltin : l.text ∉ builtinNames := by
    intro h
    have hfixed : l.text ∈ fixedNames :=
      List.mem_cons_of_mem _ (List.mem_cons_of_mem _ (List.mem_cons_of_mem _ h))
    exact ne_text_of_mem_fixedNames hfixed l rfl
  rw [Script.standard?, if_neg hsetter, if_neg hbuiltin]

lemma Matches.datum?_local (h : Matches imports own names locals) {l : Local}
    (hl : l.text ∈ own) : (Script.Expr.name l.text).datum? names = (locals l).map Item.datum := by
  rw [Script.Expr.datum?, Local.normal_text, standard?_text, Option.or_none, h.local_ l hl]

lemma Matches.datum?_fixed (h : Matches imports own names locals) {n : Text} (hn : n ∈ own)
    (hfixed : n ∈ fixedNames) :
    (Script.Expr.name n).datum? names = (Script.parameter? n).or (Script.standard? n) := by
  rw [Script.Expr.datum?, normal_of_mem_fixedNames hfixed,
    h.other n hn (ne_text_of_mem_fixedNames hfixed)]

lemma Matches.datum?_builtin (h : Matches imports own names locals) {n : Text} (hn : n ∈ own)
    (hbuiltin : n ∈ builtinNames) : (Script.Expr.name n).datum? names = some (.builtin n) := by
  have hfixed : n ∈ fixedNames :=
    List.mem_cons_of_mem _ (List.mem_cons_of_mem _ (List.mem_cons_of_mem _ hbuiltin))
  have hne : ∀ n ∈ builtinNames, n ≠ "container" ∧ n ≠ "proxy_factory" ∧ n ≠ "setattr" := by
    decide
  obtain ⟨hcontainer, hfactory, hsetter⟩ := hne n hbuiltin
  rw [h.datum?_fixed hn hfixed, Script.parameter?, if_neg hcontainer, if_neg hfactory,
    Option.none_or, Script.standard?, if_neg hsetter, if_pos hbuiltin]

/-- Before the body is run, names stand for what they stand for where nothing is bound. -/
lemma matches_initial {f : Factory} (hf : f.IsHygienic) :
    Matches f.imports f.ownNames (f.script.initialNames : Script.Names m O) (fun _ => none) := by
  have hinitial : ∀ n ∈ f.ownNames,
      (f.script.initialNames : Script.Names m O) n = Script.parameter? n := by
    intro n hn
    have himported : n ∉ Script.importedNames f.imports := fun h => hf.imports n h hn
    have hname : ¬(n = f.name.normal ∧ n ∈ Script.standardNames) := by
      rintro ⟨rfl, hstandard⟩
      exact hf.name hn hstandard
    exact (if_neg himported).trans (if_neg hname)
  refine ⟨fun l hl => ?_, fun n hn _ => hinitial n hn, fun n hn => if_pos hn⟩
  have hcontainer : l.text ≠ "container" :=
    (ne_text_of_mem_fixedNames (by decide) l).symm
  have hfactory : l.text ≠ "proxy_factory" :=
    (ne_text_of_mem_fixedNames (by decide) l).symm
  rw [hinitial _ hl, Script.parameter?, if_neg hcontainer, if_neg hfactory]
  rfl

lemma attributes_datum? {e : Script.Expr} {path : List Text} (parts : List Text)
    (h : e.datum? names = some (.member path)) :
    (attributes e parts).datum? names = some (.member (path ++ parts.map Text.normal)) := by
  induction parts generalizing e path with
  | nil => simpa [attributes] using h
  | cons n rest ih =>
    have hn : (Script.Expr.attribute e n).datum? names = some (.member (path ++ [n.normal])) := by
      rw [Script.Expr.datum?, h]
      rfl
    have hrest := ih hn
    rw [List.append_assoc] at hrest
    exact hrest

/-- A path that starts with that of an imported module stands for what is in the module. -/
lemma Matches.datum?_path (h : Matches imports own names locals) {moduleName : Text}
    (hm : moduleName ∈ imports) (parts : List Text) :
    (pathScript (Catalog.pathParts moduleName ++ parts)).datum? names =
      some (.member ((Catalog.pathParts moduleName ++ parts).map Text.normal)) := by
  rcases hparts : Catalog.pathParts moduleName with _ | ⟨first, rest⟩
  · exact absurd hparts (Catalog.pathParts_ne_nil moduleName)
  · have himported : first.normal ∈ Script.importedNames imports := by
      refine List.mem_filterMap.2 ⟨(Catalog.pathParts moduleName).map Text.normal,
        List.mem_map_of_mem hm, ?_⟩
      rw [hparts]
      rfl
    have hfirst : (Script.Expr.name first).datum? names = some (.member [first.normal]) := by
      rw [Script.Expr.datum?, h.imported _ himported]
      rfl
    exact attributes_datum? (rest ++ parts) hfirst

lemma isImported_path {moduleName : Text} (hm : moduleName ∈ imports) {parts : List Text}
    (hparts : parts ≠ []) :
    Script.isImported (Script.modulePaths imports)
      ((Catalog.pathParts moduleName ++ parts).map Text.normal) = true := by
  refine List.any_eq_true.2 ⟨(Catalog.pathParts moduleName).map Text.normal,
    List.mem_map_of_mem hm, ?_⟩
  have hlength : 0 < parts.length := List.length_pos_iff.2 hparts
  rw [List.map_append, Bool.and_eq_true, List.isPrefixOf_iff_prefix, decide_eq_true_eq]
  refine ⟨List.prefix_append _ _, ?_⟩
  simp only [List.length_append, List.length_map]
  omega

variable [Monad m] {host : Host m O}

lemma Matches.operand_name (h : Matches imports own names locals) {l : Local}
    (hl : l.text ∈ own) :
    (Script.Expr.name l.text).operand host (Script.modulePaths imports) names =
      object host.respelled locals l := by
  rw [Script.Expr.operand, h.datum?_local hl, object]
  rcases locals l with _ | ⟨o | run⟩ <;> rfl

/-! ## Expressions -/

lemma Matches.operand_constant [LawfulMonad m] (h : Matches imports own names locals) {v : Value}
    (hv : v.isBuiltin = true) (hown : ∀ n ∈ constantNames v, n ∈ own) :
    (constantScript v).operand host (Script.modulePaths imports) names =
      pure (host.constant v) := by
  cases v with
  | float x =>
    rw [constantScript]
    split
    · rw [Script.Expr.operand]
    · -- a double that is no literal is made from its text by the type of doubles
      rename_i hx
      have hfloat : ("float" : Text) ∈ own := by
        refine hown _ ?_
        rw [constantNames, if_neg hx]
        exact List.mem_cons_self
      simp only [Script.Expr.operand, h.datum?_builtin hfloat (by decide), Script.call,
        Script.operands, Script.namedOperands, pure_bind, List.map_nil, List.zip_nil_left]
      exact host.construct_float x (by simpa using hx)
  | derived form literal => exact absurd hv Bool.false_ne_true
  | _ => simp only [constantScript, Script.Expr.operand]

mutual

/-- An expression makes the same object as its script. -/
lemma Matches.operand_script [LawfulMonad m] (h : Matches imports own names locals) :
    ∀ e : Expr, e.IsSound → (∀ n ∈ e.ownNames, n ∈ own) →
      e.script.operand host (Script.modulePaths imports) names = e.value host.respelled locals
  | .constant v, hs, hown => by
    rw [Expr.IsSound] at hs
    rw [Expr.script, Expr.value]
    exact h.operand_constant hs hown
  | .lookup entry, _, hown => by
    have hcontainer : (Script.Expr.name "container").datum? names = some .container := by
      rw [h.datum?_fixed (hown _ List.mem_cons_self) (by decide)]
      rfl
    have hgetter : (Script.Expr.attribute (.name "container") "get").datum? names =
        some .getter := by
      rw [Script.Expr.datum?, hcontainer]
      rfl
    rw [Expr.script, Script.Expr.operand, hgetter, Expr.value]
    rfl
  | .build builder, _, hown => by
    rw [Expr.script, Script.Expr.operand, h.datum?_local (hown _ List.mem_cons_self), Expr.value,
      routine]
    rcases locals builder with _ | ⟨o | run⟩ <;> rfl
  | .list items, hs, hown => by
    rw [Expr.IsSound] at hs
    rw [Expr.script, Script.Expr.operand, h.operands_script items hs hown, Expr.value]
    rfl
  | .tuple items, hs, hown => by
    rw [Expr.IsSound] at hs
    rw [Expr.script, Script.Expr.operand, h.operands_script items hs hown, Expr.value]
    rfl
  | .dict entries, hs, hown => by
    rw [Expr.IsSound] at hs
    rw [Expr.script, Script.Expr.operand, h.entryOperands_script entries hs hown, Expr.value]
    rfl

lemma Matches.operands_script [LawfulMonad m] (h : Matches imports own names locals) :
    ∀ es : List Expr, ItemsSound es → (∀ n ∈ itemNames es, n ∈ own) →
      Script.operands host (Script.modulePaths imports) names (exprScripts es) =
        values host.respelled locals es
  | [], _, _ => by rw [exprScripts, Script.operands, values]
  | e :: rest, hs, hown => by
    rw [ItemsSound] at hs
    rw [itemNames, List.forall_mem_append] at hown
    rw [exprScripts, Script.operands, h.operand_script e hs.1 hown.1,
      h.operands_script rest hs.2 hown.2, values]

lemma Matches.entryOperands_script [LawfulMonad m] (h : Matches imports own names locals) :
    ∀ es : List (Expr × Expr), EntriesSound es → (∀ n ∈ entryNames es, n ∈ own) →
      Script.entryOperands host (Script.modulePaths imports) names (entryScripts es) =
        entryValues host.respelled locals es
  | [], _, _ => by rw [entryScripts, Script.entryOperands, entryValues]
  | (k, v) :: rest, hs, hown => by
    rw [EntriesSound] at hs
    rw [entryNames, List.forall_mem_append, List.forall_mem_append] at hown
    rw [entryScripts, Script.entryOperands, h.operand_script k hs.1 hown.1.1,
      h.operand_script v hs.2.1 hown.1.2, h.entryOperands_script rest hs.2.2 hown.2, entryValues]

end

/-! ## Calls -/

lemma Matches.namedOperands_script [LawfulMonad m] (h : Matches imports own names locals)
    (keywords : List (Text × Expr)) (hs : ItemsSound (keywords.map Prod.snd))
    (hown : ∀ n ∈ itemNames (keywords.map Prod.snd), n ∈ own) :
    Script.namedOperands host (Script.modulePaths imports) names (keywordScripts keywords) =
      values host.respelled locals (keywords.map Prod.snd) := by
  induction keywords with
  | nil => simp only [keywordScripts, List.map_nil, Script.namedOperands, values]
  | cons k rest ih =>
    rw [List.map_cons, ItemsSound] at hs
    rw [List.map_cons, itemNames, List.forall_mem_append] at hown
    have hrest := ih hs.2 hown.2
    rw [keywordScripts] at hrest
    simp only [keywordScripts, List.map_cons, Script.namedOperands, values,
      h.operand_script k.2 hs.1 hown.1, hrest]

lemma keywordScripts_names (keywords : List (Text × Expr)) :
    ((keywordScripts keywords).map fun k => k.1.normal) =
      (keywords.map Prod.fst).map Text.normal := by
  simp only [keywordScripts, List.map_map]
  rfl

/-- A call does the same as its script. -/
lemma Matches.operand_call [LawfulMonad m] (h : Matches imports own names locals)
    {P : Text → Prop} {c : Call} (hc : c.IsSound P imports)
    (hown : ∀ n ∈ c.ownNames, n ∈ own) :
    c.script.operand host (Script.modulePaths imports) names = c.perform host.respelled locals := by
  obtain ⟨callee, positional, keywords⟩ := c
  rw [Call.ownNames, List.forall_mem_append, List.forall_mem_append] at hown
  obtain ⟨hcallee, hpositional, hnamed⟩ := hown
  obtain ⟨hc, hpositionalSound, hnamedSound, -, -⟩ := hc
  simp only [Call.script, Script.Expr.operand,
    h.operands_script positional hpositionalSound hpositional,
    h.namedOperands_script keywords hnamedSound hnamed, keywordScripts_names]
  cases callee with
  | member moduleName qualifiedName =>
    simp only [Callee.script, h.datum?_path hc.1, Script.call,
      isImported_path hc.1 (Catalog.pathParts_ne_nil qualifiedName), if_true, Call.perform,
      Host.respelled, spelledKeywords_zip]
  | builtin name =>
    have hname : [name].map Text.normal = [name] := by
      have hfixed : name ∈ fixedNames :=
        List.mem_cons_of_mem _ (List.mem_cons_of_mem _ (List.mem_cons_of_mem _ hc))
      rw [List.map_cons, normal_of_mem_fixedNames hfixed, List.map_nil]
    simp only [Callee.script, h.datum?_builtin (hcallee _ List.mem_cons_self) hc, Script.call,
      Call.perform, Host.respelled, spelledKeywords_zip, hname]
  | method target name =>
    have htarget := h.datum?_local (hcallee _ List.mem_cons_self)
    rw [Callee.script, Script.Expr.datum?, htarget]
    simp only [Call.perform]
    rcases locals target with _ | ⟨o | run⟩
    · rfl
    · simp only [Option.map_some, Item.datum, Option.bind_some, Script.Datum.attribute?,
        Script.call, Host.respelled, spelledKeywords_zip]
    · rfl

/-! ## Blocks -/

lemma spelledField_of_identifier {field : Text} (h : Text.isIdentifier field = true) :
    spelledField field = field.normal :=
  if_pos h

/-- What follows the assignment of a field is run once the field is assigned. -/
lemma Matches.run_assign [LawfulMonad m] (h : Matches imports own names locals) {target : Local}
    {field : Text} {value : Expr} (htarget : target.text ∈ own)
    (hs : value.IsSound) (hvalue : ∀ n ∈ value.ownNames, n ∈ own)
    (hsetter : Text.isIdentifier field = false → ("setattr" : Text) ∈ own)
    (rest : List Script.Statement) :
    Script.runBlock host (Script.modulePaths imports) (assignScript target field value :: rest)
        names =
      performAssign host.respelled locals target field value >>= fun _ =>
        Script.runBlock host (Script.modulePaths imports) rest names := by
  rw [assignScript, performAssign]
  by_cases hfield : Text.isIdentifier field = true
  · rw [if_pos hfield, if_pos hfield, Script.runBlock, h.operand_script value hs hvalue,
      h.operand_name htarget]
    simp only [bind_assoc, Host.respelled, spelledField_of_identifier hfield]
  · rw [Bool.not_eq_true] at hfield
    have hspelled : spelledField field = field := if_neg (by simp [hfield])
    have hname : (Script.Expr.name "setattr").datum? names = some .setter := by
      rw [h.datum?_fixed (hsetter hfield) (by decide)]
      rfl
    have hliteral : (Script.Expr.constant (.str field)).operand host (Script.modulePaths imports)
        names = pure (host.constant (.str field)) := by
      rw [Script.Expr.operand]
    have hoperands : Script.operands host (Script.modulePaths imports) names
        [.name target.text, .constant (.str field), value.script] =
          object host.respelled locals target >>= fun o =>
            value.value host.respelled locals >>= fun v =>
              pure [o, host.constant (.str field), v] := by
      simp only [Script.operands, h.operand_name htarget, h.operand_script value hs hvalue,
        hliteral, pure_bind, bind_assoc]
    rw [hfield, if_neg (by simp), if_neg (by simp), Script.runBlock, Script.Expr.operand, hname,
      hoperands, List.map_nil]
    simp only [Script.call, bind_assoc, pure_bind, Host.respelled, hspelled]

/-- A block does the same as its script, whatever is bound around it. -/
lemma runBlock_script [LawfulMonad m] (hfresh : ∀ n ∈ Script.importedNames imports, n ∉ own)
    {P : Text → Prop} :
    ∀ (body : List Statement) (names : Script.Names m O) (locals : Locals m O),
      Matches imports own names locals → BlockSound P imports body →
      (∀ n ∈ blockNames body, n ∈ own) →
      Script.runBlock host (Script.modulePaths imports) (blockScript body) names =
        runBlock host.respelled body locals
  | [], names, locals, _, _, _ => by
    rw [blockScript, Script.runBlock, runBlock]
    rfl
  | .define l body :: rest, names, locals, h, hs, hown => by
    rw [BlockSound] at hs
    rw [blockNames, List.forall_mem_cons, List.forall_mem_append] at hown
    obtain ⟨hl, hbody, hrest⟩ := hown
    have hlater : ∀ l' ∈ l :: boundLocals rest, l'.text ∈ own :=
      List.forall_mem_cons.2 ⟨hl, fun l' hl' => hrest _ (mem_blockNames_of_bound hl')⟩
    have hinner : ∀ l' ∈ boundLocals body, l'.text ∈ own :=
      fun l' hl' => hbody _ (mem_blockNames_of_bound hl')
    -- in the body, what the block binds later and what the body itself binds hide what was there
    have hseen := (h.without hfresh hlater).without hfresh hinner
    have hroutine := runBlock_script hfresh body _ _ hseen hs.1 hbody
    rw [blockScript, Script.runBlock, runBlock, boundNames_blockScript, boundNames_blockScript,
      ← List.map_cons, hroutine]
    exact runBlock_script hfresh rest _ _ (h.bind hfresh hl (.routine _)) hs.2 hrest
  | .bind target call :: rest, names, locals, h, hs, hown => by
    rw [BlockSound] at hs
    rw [blockNames, List.forall_mem_cons, List.forall_mem_append] at hown
    obtain ⟨htarget, hcall, hrest⟩ := hown
    rw [blockScript, Script.runBlock, runBlock, h.operand_call hs.1 hcall]
    refine congrArg _ (funext fun o => ?_)
    exact runBlock_script hfresh rest _ _ (h.bind hfresh htarget (.object o)) hs.2 hrest
  | .assign target field value :: rest, names, locals, h, hs, hown => by
    rw [BlockSound] at hs
    rw [blockNames, List.forall_mem_append, List.forall_mem_append] at hown
    obtain ⟨hnames, hvalue, hrest⟩ := hown
    have htarget : target.text ∈ own := by
      refine hnames _ ?_
      split
      · exact List.mem_cons_self
      · exact List.mem_cons_of_mem _ List.mem_cons_self
    -- `setattr` is written only where the field is no identifier
    have hsetter (hfield : Text.isIdentifier field = false) : ("setattr" : Text) ∈ own := by
      refine hnames _ ?_
      rw [if_neg (by simp [hfield])]
      exact List.mem_cons_self
    rw [blockScript, h.run_assign htarget hs.2.1 hvalue hsetter, runBlock]
    refine congrArg _ (funext fun _ => ?_)
    exact runBlock_script hfresh rest _ _ h hs.2.2 hrest
  | .perform call :: rest, names, locals, h, hs, hown => by
    rw [BlockSound] at hs
    rw [blockNames, List.forall_mem_append] at hown
    rw [blockScript, Script.runBlock, runBlock, h.operand_call hs.1 hown.1]
    refine congrArg _ (funext fun _ => ?_)
    exact runBlock_script hfresh rest _ _ h hs.2 hown.2
  | .proxy target className initializer :: rest, names, locals, h, hs, hown => by
    rw [BlockSound] at hs
    simp only [blockNames, List.forall_mem_cons] at hown
    obtain ⟨hfactory, htarget, hinitializer, hrest⟩ := hown
    have hname : (Script.Expr.name "proxy_factory").datum? names = some .proxyFactory := by
      rw [h.datum?_fixed hfactory (by decide)]
      rfl
    have hcreator : (Script.Expr.attribute (.name "proxy_factory") "create_proxy").datum? names =
        some .creator := by
      rw [Script.Expr.datum?, hname]
      rfl
    have hcall : Script.call host (Script.modulePaths imports) names (some .creator)
        [.constant (.str className), .name initializer.text]
        (Script.operands host (Script.modulePaths imports) names
          [.constant (.str className), .name initializer.text]) []
        (Script.namedOperands host (Script.modulePaths imports) names []) =
          performProxy host.respelled locals className initializer := by
      rw [Script.call, h.datum?_local hinitializer, performProxy]
      rcases locals initializer with _ | ⟨o | run⟩ <;> rfl
    rw [blockScript, Script.runBlock, runBlock, Script.Expr.operand, hcreator, List.map_nil, hcall]
    refine congrArg _ (funext fun o => ?_)
    exact runBlock_script hfresh rest _ _ (h.bind hfresh htarget (.object o)) hs hrest
  | .result target :: rest, names, locals, h, _, hown => by
    rw [blockNames, List.forall_mem_cons] at hown
    rw [blockScript, Script.runBlock, runBlock, h.operand_name hown.1]

/-- A factory that is sound and hygienic does the same as its script, for the host as it is
addressed by names that are written. -/
theorem run_script [LawfulMonad m] (host : Host m O) (f : Factory) {P : Text → Prop}
    (hs : BlockSound P f.imports f.body) (hf : f.IsHygienic) :
    f.script.run host = runBlock host.respelled f.body fun _ => none :=
  runBlock_script hf.imports f.body _ _ (matches_initial hf) hs fun _ => id

end Factory

end Blueprint
