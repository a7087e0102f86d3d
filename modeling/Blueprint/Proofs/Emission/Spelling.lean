/-
# Names in their normal form

A host that is addressed by written names cannot tell a name from its normal form.  This file shows
what that comes to.  A factory whose names are in their normal form does the same for the host and
for the host as it is addressed by written names.  A plan that mentions a name that is not in its
normal form does not: there is a host that notices, which does nothing but write down the names that
it is addressed by.
-/
import Blueprint.Proofs.Emission.Drafts

namespace Blueprint

/-! ## Factories with normal names -/

namespace Factory

section Normal

variable {m : Type → Type} [Monad m] {O : Type} {host : Host m O} {P : Text → Prop}
  {imports : List Text}

mutual

/-- Expressions address the host by no names. -/
lemma Expr.value_respelled (locals : Locals m O) :
    ∀ e : Expr, e.value host.respelled locals = e.value host locals
  | .constant _ => by rw [Expr.value, Expr.value]; rfl
  | .lookup _ => by rw [Expr.value, Expr.value]; rfl
  | .build _ => by rw [Expr.value, Expr.value]; rfl
  | .list items => by rw [Expr.value, Expr.value, values_respelled locals items]; rfl
  | .tuple items => by rw [Expr.value, Expr.value, values_respelled locals items]; rfl
  | .dict entries => by rw [Expr.value, Expr.value, entryValues_respelled locals entries]; rfl

lemma values_respelled (locals : Locals m O) :
    ∀ es : List Expr, values host.respelled locals es = values host locals es
  | [] => by rw [values, values]
  | e :: rest => by
    rw [values, values, Expr.value_respelled locals e, values_respelled locals rest]

lemma entryValues_respelled (locals : Locals m O) :
    ∀ es : List (Expr × Expr),
      entryValues host.respelled locals es = entryValues host locals es
  | [] => by rw [entryValues, entryValues]
  | (k, v) :: rest => by
    rw [entryValues, entryValues, Expr.value_respelled locals k, Expr.value_respelled locals v,
      entryValues_respelled locals rest]

end

lemma map_normal {ts : List Text} (h : ∀ t ∈ ts, t.normal = t) : ts.map Text.normal = ts := by
  rw [List.map_congr_left h, List.map_id']

variable (hP : ∀ t, P t → t.normal = t)

include hP

lemma Call.perform_respelled {c : Call} (h : c.IsSound P imports) (locals : Locals m O) :
    c.perform host.respelled locals = c.perform host locals := by
  have hkeywords : (c.keywords.map Prod.fst).map Text.normal = c.keywords.map Prod.fst :=
    map_normal fun t ht => hP t (h.names t ht)
  have hcallee := h.callee
  obtain ⟨callee, positional, keywords⟩ := c
  cases callee with
  | member moduleName qualifiedName =>
    have hpath := map_normal fun t ht => hP t (hcallee.2 t ht)
    simp only [Call.perform, values_respelled]
    simp only [Host.respelled, spelledKeywords_zip, hkeywords, hpath]
  | builtin name =>
    have hfixed : name ∈ fixedNames :=
      List.mem_cons_of_mem _ (List.mem_cons_of_mem _ (List.mem_cons_of_mem _ hcallee))
    simp only [Call.perform, values_respelled]
    simp only [Host.respelled, spelledKeywords_zip, hkeywords, List.map_cons, List.map_nil,
      normal_of_mem_fixedNames hfixed]
  | method target name =>
    simp only [Call.perform, values_respelled]
    simp only [Host.respelled, spelledKeywords_zip, hkeywords, hP name hcallee]

lemma performAssign_respelled {field : Text} (h : Text.isIdentifier field = true → P field)
    (locals : Locals m O) (target : Local) (value : Expr) :
    performAssign host.respelled locals target field value =
      performAssign host locals target field value := by
  have hfield : spelledField field = field := by
    rw [spelledField]
    split
    · rename_i hid
      exact hP field (h hid)
    · rfl
  simp only [performAssign, Expr.value_respelled]
  simp only [object, Host.respelled, hfield]

/-- A factory whose names are in their normal form does the same for a host that is addressed by
written names. -/
lemma runBlock_respelled :
    ∀ (body : List Statement) (locals : Locals m O), BlockSound P imports body →
      runBlock host.respelled body locals = runBlock host body locals
  | [], locals, _ => by
    rw [runBlock, runBlock]
    rfl
  | .define l body :: rest, locals, h => by
    rw [BlockSound] at h
    rw [runBlock, runBlock, runBlock_respelled body _ h.1]
    exact runBlock_respelled rest _ h.2
  | .bind target call :: rest, locals, h => by
    rw [BlockSound] at h
    rw [runBlock, runBlock, Call.perform_respelled hP h.1]
    exact congrArg _ (funext fun o => runBlock_respelled rest _ h.2)
  | .assign target field value :: rest, locals, h => by
    rw [BlockSound] at h
    rw [runBlock, runBlock, performAssign_respelled hP h.1]
    exact congrArg _ (funext fun _ => runBlock_respelled rest _ h.2.2)
  | .perform call :: rest, locals, h => by
    rw [BlockSound] at h
    rw [runBlock, runBlock, Call.perform_respelled hP h.1]
    exact congrArg _ (funext fun _ => runBlock_respelled rest _ h.2)
  | .proxy target className initializer :: rest, locals, h => by
    rw [BlockSound] at h
    rw [runBlock, runBlock]
    exact congrArg _ (funext fun o => runBlock_respelled rest _ h)
  | .result target :: rest, locals, _ => by
    rw [runBlock, runBlock]
    rfl

end Normal

end Factory

/-! ## A host that writes names down -/

namespace Recorder

/-- Writes names down. -/
def note (names : List Text) : StateM (List Text) Unit :=
  modify (· ++ names)

lemma note_nil : note [] = pure () := by
  funext names
  show ((), names ++ []) = ((), names)
  rw [List.append_nil]

lemma note_append (names names' : List Text) :
    (note names >>= fun _ => note names') = note (names ++ names') := by
  funext written
  show ((), written ++ names ++ names') = ((), written ++ (names ++ names'))
  rw [List.append_assoc]

/-- The names that something mentioned is written by, the names of fields apart from others. -/
def spelled (spell spellField : Text → Text) : Mention → List Text
  | .path parts => if parts.length = 1 then [] else parts.map spell
  | .method name => [spell name]
  | .field name => [spellField name]
  | .keywords names _ => names.map spell
  | .block _ | .entry _ | .object _ => []

/-- The host that writes down how it is addressed.  A class that needs no module is not worth a
note. -/
def host (spell spellField : Text → Text) : Host (StateM (List Text)) Unit where
  constant _ := ()
  list _ := ()
  tuple _ := ()
  dict _ := ()
  construct path _ named :=
    note ((if path.length = 1 then [] else path.map spell) ++ named.map fun k => spell k.1)
  assign _ field _ := note [spellField field]
  invoke _ method _ named := note (spell method :: named.map fun k => spell k.1)
  lookup _ := pure ()
  createProxy _ initializer := initializer
  stuck := pure ()
  construct_float _ _ := note_nil

lemma host_respelled : (host id id).respelled = host Text.normal spelledField := by
  rw [Host.respelled]
  simp only [host, List.length_map, List.map_id_fun, id_eq, spelledKeywords, List.map_map,
    Function.comp_def]

section Execution

variable (spell spellField : Text → Text)

/-- The names that are written down for what is mentioned. -/
def written (us : List Mention) : List Text :=
  us.flatMap (spelled spell spellField)

lemma written_append (us us' : List Mention) :
    written spell spellField (us ++ us') =
      written spell spellField us ++ written spell spellField us' :=
  List.flatMap_append

lemma written_cons (u : Mention) (us : List Mention) :
    written spell spellField (u :: us) =
      spelled spell spellField u ++ written spell spellField us :=
  List.flatMap_cons

lemma itemMentions_eq_flatMap (items : List Value) :
    itemMentions items = items.flatMap Value.mentions := by
  induction items with
  | nil => rw [itemMentions, List.flatMap_nil]
  | cons item rest ih => rw [itemMentions, List.flatMap_cons, ih]

lemma inOrder_host {items : List Value}
    (h : ∀ v ∈ items, executeValue (host spell spellField) v =
      note (written spell spellField v.mentions)) :
    inOrder (items.map (executeValue (host spell spellField))) =
      note (written spell spellField (items.flatMap Value.mentions)) >>= fun _ =>
        pure (List.replicate items.length ()) := by
  induction items with
  | nil =>
    rw [List.map_nil, inOrder, List.flatMap_nil]
    rw [show note (written spell spellField []) = pure () from note_nil, pure_bind]
    rfl
  | cons item rest ih =>
    rw [List.forall_mem_cons] at h
    rw [List.map_cons, inOrder, h.1, ih h.2, List.flatMap_cons, written_append, ← note_append]
    simp only [bind_assoc, pure_bind]
    rfl

/-- The arguments of a call are made before the call. -/
lemma arguments_host {arguments : List Value} {keywords : List Text}
    (hlength : keywords.length ≤ arguments.length)
    (h : ∀ v ∈ arguments, executeValue (host spell spellField) v =
      note (written spell spellField v.mentions))
    (call : List Unit → List (Text × Unit) → StateM (List Text) Unit) (names : List Text)
    (hcall : ∀ os named, named.map Prod.fst = keywords → call os named = note names) :
    (do
      let operands := executeItems (host spell spellField) arguments
      let positional ← inOrder (operands.take (arguments.length - keywords.length))
      let named ← inOrder (operands.drop (arguments.length - keywords.length))
      call positional (keywords.zip named)) =
      note (written spell spellField (itemMentions arguments) ++ names) := by
  have hzip : (keywords.zip (List.replicate
      (arguments.drop (arguments.length - keywords.length)).length ())).map Prod.fst =
        keywords := by
    refine List.map_fst_zip ?_
    rw [List.length_replicate, List.length_drop]
    omega
  have htake := inOrder_host spell spellField fun v hv =>
    h v (List.mem_of_mem_take (i := arguments.length - keywords.length) hv)
  have hdrop := inOrder_host spell spellField fun v hv =>
    h v (List.mem_of_mem_drop (i := arguments.length - keywords.length) hv)
  have hsplit : written spell spellField (itemMentions arguments) =
      written spell spellField
          ((arguments.take (arguments.length - keywords.length)).flatMap Value.mentions) ++
        written spell spellField
          ((arguments.drop (arguments.length - keywords.length)).flatMap Value.mentions) := by
    rw [← written_append, ← List.flatMap_append, List.take_append_drop, itemMentions_eq_flatMap]
  simp only [Factory.executeItems_eq_map, ← List.map_take, ← List.map_drop, htake, hdrop,
    bind_assoc, pure_bind, hcall _ _ hzip]
  rw [hsplit, List.append_assoc, ← note_append, ← note_append]

lemma map_spell_of_names {named : List (Text × Unit)} {keywords : List Text}
    (h : named.map Prod.fst = keywords) :
    (named.map fun k => spell k.1) = keywords.map spell := by
  rw [← h, List.map_map]
  rfl

lemma current_host (current : Option Unit) :
    (host spell spellField).current current = pure () := by
  cases current <;> rfl

mutual

/-- The names that a value mentions are written down while its object is made. -/
lemma executeValue_host : ∀ v : Value, (∀ u ∈ v.mentions, u.IsShaped) →
    executeValue (host spell spellField) v = note (written spell spellField v.mentions)
  | .null, _ => note_nil.symm
  | .bool _, _ => note_nil.symm
  | .int _, _ => note_nil.symm
  | .float _, _ => note_nil.symm
  | .str _, _ => note_nil.symm
  | .bytes _, _ => note_nil.symm
  | .derived .., _ => note_nil.symm
  | .reference _, _ => note_nil.symm
  | .nested _ plan, h => by
    rw [Value.mentions, List.forall_mem_cons] at h
    rw [executeValue, executeSteps_host plan h.2, Value.mentions, written_cons]
    rfl
  | .list items, h => by
    rw [Value.mentions] at h
    rw [executeValue, Factory.executeItems_eq_map,
      inOrder_host spell spellField (executeItems_host items h), Value.mentions,
      itemMentions_eq_flatMap, bind_assoc]
    rfl
  | .tuple items, h => by
    rw [Value.mentions] at h
    rw [executeValue, Factory.executeItems_eq_map,
      inOrder_host spell spellField (executeItems_host items h), Value.mentions,
      itemMentions_eq_flatMap, bind_assoc]
    rfl
  | .dict entries, h => by
    rw [Value.mentions] at h
    obtain ⟨objects, hobjects⟩ := executeEntries_host entries h
    rw [executeValue, hobjects, Value.mentions, bind_assoc]
    rfl
  | .useDefault, _ => note_nil.symm
  | .definition _, _ => note_nil.symm
  | .set _, _ => note_nil.symm
  | .foreign _, _ => note_nil.symm
  | .enumMember .., _ => note_nil.symm

lemma executeItems_host : ∀ items : List Value, (∀ u ∈ itemMentions items, u.IsShaped) →
    ∀ v ∈ items,
      executeValue (host spell spellField) v = note (written spell spellField v.mentions)
  | [], _ => List.forall_mem_nil _
  | item :: rest, h => by
    rw [itemMentions, List.forall_mem_append] at h
    exact List.forall_mem_cons.2 ⟨executeValue_host item h.1, executeItems_host rest h.2⟩

lemma executeEntries_host : ∀ entries : List (Value × Value),
    (∀ u ∈ entryMentions entries, u.IsShaped) →
      ∃ objects, executeEntries (host spell spellField) entries =
        note (written spell spellField (entryMentions entries)) >>= fun _ => pure objects
  | [], _ => by
    refine ⟨[], ?_⟩
    rw [executeEntries, entryMentions]
    rw [show note (written spell spellField []) = pure () from note_nil, pure_bind]
  | (key, item) :: rest, h => by
    rw [entryMentions, List.forall_mem_append, List.forall_mem_append] at h
    obtain ⟨objects, hrest⟩ := executeEntries_host rest h.2
    refine ⟨((), ()) :: objects, ?_⟩
    rw [executeEntries, executeValue_host key h.1.1, executeValue_host item h.1.2, hrest,
      entryMentions, written_append, written_append, ← note_append, ← note_append]
    simp only [bind_assoc, pure_bind]

/-- The names that instructions mention are written down while they are carried out. -/
lemma executeSteps_host : ∀ plan : List Instruction, (∀ u ∈ stepMentions plan, u.IsShaped) →
    ∀ current, executeSteps (host spell spellField) plan current =
      note (written spell spellField (stepMentions plan))
  | [], _, current => by
    rw [executeSteps, current_host]
    exact note_nil.symm
  | .construct className arguments keywords :: rest, h, current => by
    rw [stepMentions, List.forall_mem_append, List.forall_mem_cons, List.forall_mem_cons] at h
    obtain ⟨harguments, -, hkeywords, hrest⟩ := h
    have hnext := executeSteps_host rest hrest
    rw [executeSteps, stepMentions, written_append, written_cons, written_cons]
    refine arguments_host spell spellField hkeywords.2 (executeItems_host arguments harguments)
      (fun os named => (host spell spellField).construct (classPath className) os named >>=
        fun o => executeSteps (host spell spellField) rest (some o)) _ fun os named hnamed => ?_
    simp only [hnext]
    rw [← List.append_assoc, ← note_append]
    simp only [host, map_spell_of_names spell hnamed, spelled]
  | .assign field value :: rest, h, current => by
    rw [stepMentions, List.forall_mem_append, List.forall_mem_cons] at h
    have hnext := executeSteps_host rest h.2.2
    rw [executeSteps, executeValue_host value h.1, current_host, stepMentions, written_append,
      written_cons, ← note_append, ← note_append]
    simp only [pure_bind, hnext]
    rfl
  | .invoke method arguments keywords :: rest, h, current => by
    rw [stepMentions, List.forall_mem_append, List.forall_mem_cons, List.forall_mem_cons] at h
    obtain ⟨harguments, -, hkeywords, hrest⟩ := h
    have hnext := executeSteps_host rest hrest
    rw [executeSteps, current_host, pure_bind, stepMentions, written_append, written_cons,
      written_cons]
    refine arguments_host spell spellField hkeywords.2 (executeItems_host arguments harguments)
      (fun os named => (host spell spellField).invoke () method os named >>=
        fun _ => executeSteps (host spell spellField) rest (some ())) _ fun os named hnamed => ?_
    simp only [hnext]
    rw [← List.append_assoc, ← note_append]
    simp only [host, map_spell_of_names spell hnamed, spelled, List.cons_append, List.nil_append]
  | .placeholder className initializer :: rest, h, current => by
    rw [stepMentions, List.forall_mem_cons, List.forall_mem_append] at h
    have hcreate : (host spell spellField).createProxy className
        (executeSteps (host spell spellField) initializer none) =
          note (written spell spellField (stepMentions initializer)) :=
      executeSteps_host initializer h.2.1 none
    rw [executeSteps, hcreate, stepMentions, written_cons, written_append, spelled,
      List.nil_append, ← note_append]
    exact congrArg _ (funext fun o => executeSteps_host rest h.2.2 (some o))
  | .stray _ :: _, _, _ => note_nil.symm

end

end Execution

/-! ## What is noticed -/

/-- Lists that are put together from parts of the same lengths, place by place, are the same only if
the parts are. -/
lemma eq_of_flatMap_eq {α β : Type} {f g : α → List β} {l : List α}
    (hlength : ∀ a, (f a).length = (g a).length) (h : l.flatMap f = l.flatMap g) :
    ∀ a ∈ l, f a = g a := by
  induction l with
  | nil => exact List.forall_mem_nil _
  | cons a rest ih =>
    rw [List.flatMap_cons, List.flatMap_cons] at h
    obtain ⟨hfirst, hrest⟩ := List.append_inj h (hlength a)
    exact List.forall_mem_cons.2 ⟨hfirst, ih hrest⟩

lemma isNormal_of_spelled {u : Mention}
    (h : spelled id id u = spelled Text.normal spelledField u) :
    ∀ t ∈ u.bareNames, t.normal = t := by
  have hmap : ∀ ts : List Text, ts.map id = ts.map Text.normal → ∀ t ∈ ts, t.normal = t := by
    intro ts hts t ht
    exact (List.map_inj_left.1 hts t ht).symm
  cases u with
  | path parts =>
    simp only [spelled, Mention.bareNames] at h ⊢
    split
    · exact List.forall_mem_nil _
    · rename_i hlength
      rw [if_neg hlength, if_neg hlength] at h
      exact hmap parts h
  | method name => exact hmap [name] h
  | field name =>
    have hname : name = spelledField name := (List.cons.inj h).1
    rw [Mention.bareNames]
    -- only a field that is an identifier is written as a name
    split
    · rename_i hid
      rw [spelledField, if_pos hid] at hname
      rintro t ht
      rw [List.mem_singleton.1 ht, ← hname]
    · exact List.forall_mem_nil _
  | keywords names arguments => exact hmap names h
  | block starts => exact List.forall_mem_nil _
  | entry name => exact List.forall_mem_nil _
  | object display => exact List.forall_mem_nil _

/-- Whoever writes down how he is addressed notices a name that is not in its normal form. -/
theorem isNormal_of_execute_eq {plan : Plan} (hshaped : ∀ u ∈ plan.mentions, u.IsShaped)
    (h : (host id id).respelled.execute plan = (host id id).execute plan) :
    ∀ u ∈ plan.mentions, ∀ t ∈ u.bareNames, t.normal = t := by
  rw [Plan.mentions, List.forall_mem_cons] at hshaped ⊢
  refine ⟨List.forall_mem_nil _, fun u hu => isNormal_of_spelled ?_⟩
  rw [host_respelled, Host.execute, Host.execute, executeSteps_host _ _ plan hshaped.2,
    executeSteps_host _ _ plan hshaped.2] at h
  have hwritten : written id id (stepMentions plan) =
      written Text.normal spelledField (stepMentions plan) := by
    have := congrArg (fun x => (x.run [] : Unit × List Text).2) h
    exact this.symm
  have hlength : ∀ u, (spelled id id u).length = (spelled Text.normal spelledField u).length := by
    intro u
    cases u <;> simp only [spelled, List.length_map, List.length_singleton]
    split <;> simp only [List.length_map]
  exact eq_of_flatMap_eq hlength hwritten u hu

end Recorder

end Blueprint
