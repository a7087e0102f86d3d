/-
# Drafting step by step

A factory is drafted in a monad that numbers local names, collects modules, and may give up.  This
file inverts its steps: what is drafted in the end was drafted by steps that succeeded, each from
the draft that the one before it left.

It also says what all drafting has in common.  `Grows` is about what a draft counts and collects,
and `Ready` about the statements that are drafted before something that needs them: they define
functions, under numbers that were not used before, so that what was ready before them still is
afterwards.
-/
import Blueprint.Proofs.Emission.Meaning

namespace Blueprint

namespace Factory

/-! ## Steps that succeed -/

/-- From the one draft and world, the step leads to `a` and to the other ones. -/
def LeadsTo {α : Type} (x : Drafting α) (entry : Option Value) (d : Draft) (world : World) (a : α)
    (d' : Draft) (world' : World) : Prop :=
  x.run d entry world = (.ok (a, d'), world')

/-- From the draft `d` the step drafts `a`, and leaves the draft `d'`. -/
def Drafts {α : Type} (x : Drafting α) (d : Draft) (a : α) (d' : Draft) : Prop :=
  ∃ entry world world', x.run d entry world = (.ok (a, d'), world')

/-- The modules with one more, unless it is one of them. -/
def withModule (modules : List Text) (name : Text) : List Text :=
  if modules.contains name then modules else modules ++ [name]

lemma mem_withModule {modules : List Text} {name n : Text} :
    n ∈ withModule modules name ↔ n ∈ modules ∨ n = name := by
  rw [withModule]
  split
  · rename_i h
    refine ⟨.inl, ?_⟩
    rintro (hn | rfl)
    · exact hn
    · exact List.contains_iff_mem.1 h
  · rw [List.mem_append, List.mem_singleton]

namespace LeadsTo

variable {α β : Type} {entry : Option Value} {d d' : Draft} {world world' : World}

lemma drafts {x : Drafting α} {a : α} (h : LeadsTo x entry d world a d' world') :
    Drafts x d a d' :=
  ⟨entry, world, world', h⟩

lemma bind_inv {x : Drafting α} {f : α → Drafting β} {b : β}
    (h : LeadsTo (x >>= f) entry d world b d' world') :
    ∃ a d₁ world₁, LeadsTo x entry d world a d₁ world₁ ∧
      LeadsTo (f a) entry d₁ world₁ b d' world' := by
  rw [LeadsTo, StateT.run_bind, Run.bind_apply] at h
  rcases hx : x.run d entry world with ⟨failure | ⟨a, d₁⟩, world₁⟩ <;> rw [hx] at h
  · exact absurd (Prod.mk.inj h).1 (by simp)
  · exact ⟨a, d₁, world₁, hx, h⟩

lemma pure_inv {a b : α} (h : LeadsTo (pure a) entry d world b d' world') :
    b = a ∧ d' = d ∧ world' = world := by
  obtain ⟨hresult, rfl⟩ := Prod.mk.inj h
  obtain ⟨rfl, rfl⟩ := Prod.mk.inj (Except.ok.inj hresult)
  exact ⟨rfl, rfl, rfl⟩

lemma refuse_inv {cause : Mismatch} {a : α}
    (h : LeadsTo (refuse cause) entry d world a d' world') : False :=
  absurd (Prod.mk.inj h).1 nofun

lemma ifWritten_inv {v : Value} {x : Drafting α} {a : α}
    (h : LeadsTo (ifWritten v x) entry d world a d' world') :
    v.isWritten = true ∧ LeadsTo x entry d world a d' world' := by
  have h : Run.ifWritten v.isWritten (x d) entry world = (.ok (a, d'), world') := h
  cases hv : v.isWritten with
  | true =>
    rw [hv] at h
    exact ⟨rfl, h⟩
  | false =>
    rw [hv] at h
    exact absurd (Prod.mk.inj h).1 nofun

lemma literal_inv {v : Value} {drafted : Drafted}
    (h : LeadsTo (draftLiteral v) entry d world drafted d' world') :
    drafted = ([], .constant v) ∧ d' = d ∧ world' = world :=
  h.ifWritten_inv.2.pure_inv

lemma refuseConstant_inv {v : Value} {drafted : Drafted}
    (h : LeadsTo (refuseConstant v) entry d world drafted d' world') : False :=
  h.ifWritten_inv.2.refuse_inv

lemma lift_inv {x : Run α} {a : α} (h : LeadsTo (StateT.lift x) entry d world a d' world') :
    d' = d ∧ x entry world = (.ok a, world') := by
  rw [LeadsTo, StateT.run_lift, Run.bind_apply] at h
  rcases hx : x entry world with ⟨failure | b, world₁⟩ <;> rw [hx] at h
  · exact absurd (Prod.mk.inj h).1 (by simp)
  · obtain ⟨hresult, rfl⟩ := Prod.mk.inj h
    obtain ⟨rfl, rfl⟩ := Prod.mk.inj (Except.ok.inj hresult)
    exact ⟨rfl, rfl⟩

lemma fresh_inv {role : Role} {l : Local} (h : LeadsTo (fresh role) entry d world l d' world') :
    l = ⟨role, d.count + 1⟩ ∧ d' = { d with count := d.count + 1 } ∧ world' = world := by
  obtain ⟨hresult, rfl⟩ := Prod.mk.inj h
  obtain ⟨rfl, rfl⟩ := Prod.mk.inj (Except.ok.inj hresult)
  exact ⟨rfl, rfl, rfl⟩

lemma useModule_inv {name : Text} {u : Unit}
    (h : LeadsTo (useModule name) entry d world u d' world') :
    d' = { d with modules := withModule d.modules name } ∧ world' = world := by
  obtain ⟨hresult, rfl⟩ := Prod.mk.inj h
  have hd : (if d.modules.contains name then d else { d with modules := d.modules ++ [name] }) =
      d' := (Prod.mk.inj (Except.ok.inj hresult)).2
  refine ⟨?_, rfl⟩
  rw [← hd, withModule]
  split <;> rfl

end LeadsTo

namespace Drafts

variable {α β : Type} {d d' : Draft}

lemma bind_inv {x : Drafting α} {f : α → Drafting β} {b : β} (h : Drafts (x >>= f) d b d') :
    ∃ a d₁, Drafts x d a d₁ ∧ Drafts (f a) d₁ b d' := by
  obtain ⟨entry, world, world', h⟩ := h
  obtain ⟨a, d₁, world₁, hx, hf⟩ := LeadsTo.bind_inv h
  exact ⟨a, d₁, hx.drafts, hf.drafts⟩

lemma pure_inv {a b : α} (h : Drafts (pure a) d b d') : b = a ∧ d' = d := by
  obtain ⟨entry, world, world', h⟩ := h
  obtain ⟨ha, hd, -⟩ := LeadsTo.pure_inv h
  exact ⟨ha, hd⟩

lemma refuse_inv {cause : Mismatch} {a : α} (h : Drafts (refuse cause) d a d') : False := by
  obtain ⟨entry, world, world', h⟩ := h
  exact LeadsTo.refuse_inv h

lemma ifWritten_inv {v : Value} {x : Drafting α} {a : α} (h : Drafts (ifWritten v x) d a d') :
    v.isWritten = true ∧ Drafts x d a d' := by
  obtain ⟨entry, world, world', h⟩ := h
  obtain ⟨hv, hx⟩ := LeadsTo.ifWritten_inv h
  exact ⟨hv, hx.drafts⟩

lemma literal_inv {v : Value} {drafted : Drafted} (h : Drafts (draftLiteral v) d drafted d') :
    drafted = ([], .constant v) ∧ d' = d :=
  h.ifWritten_inv.2.pure_inv

lemma refuseConstant_inv {v : Value} {drafted : Drafted}
    (h : Drafts (refuseConstant v) d drafted d') : False :=
  h.ifWritten_inv.2.refuse_inv

lemma fresh_inv {role : Role} {l : Local} (h : Drafts (fresh role) d l d') :
    l = ⟨role, d.count + 1⟩ ∧ d' = { d with count := d.count + 1 } := by
  obtain ⟨entry, world, world', h⟩ := h
  obtain ⟨hl, hd, -⟩ := LeadsTo.fresh_inv h
  exact ⟨hl, hd⟩

end Drafts

/-! ## Literals -/

lemma draftValue_literal {split : Splitter} {v : Value} (h : v.isLiteral = true) :
    draftValue split v = draftLiteral v := by
  cases v with
  | null | bool | int | float | str | bytes | derived => rw [draftValue]
  | _ => exact absurd h Bool.false_ne_true

lemma draftLiteral_of_written {v : Value} (h : v.isWritten = true) :
    draftLiteral v = pure ([], .constant v) := by
  funext draft
  show Run.ifWritten v.isWritten _ = _
  rw [h]
  rfl

/-! ## What was drafted, from what

Each part of a plan is drafted from its own parts in turn. -/

namespace LeadsTo

variable {split : Splitter} {entry : Option Value} {d d' : Draft} {world world' : World}

/-- A class is split, and its module used; one without a module is built in. -/
lemma class_inv {className : Text} {callee : Callee}
    (h : LeadsTo (draftClass split className) entry d world callee d' world') :
    ∃ m q, split className entry world = (.ok (m, q), world') ∧
      ((m.isEmpty = true ∧ className ∈ builtinNames ∧ callee = .builtin className ∧ d' = d) ∨
        (m.isEmpty = false ∧ callee = .member m q ∧
          d' = { d with modules := withModule d.modules m })) := by
  obtain ⟨⟨m, q⟩, d₁, world₁, hcut, hd⟩ := h.bind_inv
  obtain ⟨rfl, hsplit⟩ := hcut.lift_inv
  cases hempty : m.isEmpty with
  | true =>
    simp only [hempty, if_true] at hd
    split at hd
    · rename_i hbuiltin
      obtain ⟨rfl, rfl, rfl⟩ := hd.pure_inv
      exact ⟨m, q, hsplit, .inl ⟨hempty, List.contains_iff_mem.1 hbuiltin, rfl, rfl⟩⟩
    · exact hd.refuse_inv.elim
  | false =>
    simp only [hempty, Bool.false_eq_true, if_false] at hd
    obtain ⟨_, d₂, world₂, huse, hd⟩ := hd.bind_inv
    obtain ⟨rfl, rfl, rfl⟩ := hd.pure_inv
    obtain ⟨rfl, rfl⟩ := huse.useModule_inv
    exact ⟨m, q, hsplit, .inr ⟨hempty, rfl, rfl⟩⟩

/-- What is put together from several expressions needs what they need before it. -/
lemma gathered_inv {β γ : Type} {x : Drafting (List Statement × β)} {gather : β → γ}
    {drafted : List Statement × γ}
    (h : LeadsTo (x >>= fun parts => pure (parts.1, gather parts.2)) entry d world drafted d'
      world') :
    ∃ before es, LeadsTo x entry d world (before, es) d' world' ∧
      drafted = (before, gather es) := by
  obtain ⟨⟨before, es⟩, d₁, world₁, hx, h⟩ := h.bind_inv
  obtain ⟨rfl, rfl, rfl⟩ := h.pure_inv
  exact ⟨before, es, hx, rfl⟩

lemma all_cons_inv {x : Drafting Drafted} {rest : List (Drafting Drafted)}
    {drafted : List Statement × List Expr}
    (h : LeadsTo (draftAll (x :: rest)) entry d world drafted d' world') :
    ∃ before e d₁ world₁ more es, LeadsTo x entry d world (before, e) d₁ world₁ ∧
      LeadsTo (draftAll rest) entry d₁ world₁ (more, es) d' world' ∧
        drafted = (before ++ more, e :: es) := by
  obtain ⟨⟨before, e⟩, d₁, world₁, hx, h⟩ := h.bind_inv
  obtain ⟨⟨more, es⟩, d₂, world₂, hrest, h⟩ := h.bind_inv
  obtain ⟨rfl, rfl, rfl⟩ := h.pure_inv
  exact ⟨before, e, d₁, world₁, more, es, hx, hrest, rfl⟩

lemma all_length {xs : List (Drafting Drafted)} {drafted : List Statement × List Expr}
    (h : LeadsTo (draftAll xs) entry d world drafted d' world') :
    drafted.2.length = xs.length := by
  induction xs generalizing d world drafted with
  | nil =>
    obtain ⟨rfl, -, -⟩ := h.pure_inv
    rfl
  | cons x rest ih =>
    obtain ⟨_, _, _, _, _, _, -, hrest, rfl⟩ := h.all_cons_inv
    exact congrArg Nat.succ (ih hrest)

/-- What is drafted for named expressions is what is drafted for them without the names, and the
names stay. -/
lemma named_inv {xs : List (Text × Drafting Drafted)}
    {drafted : List Statement × List (Text × Expr)}
    (h : LeadsTo (draftNamed xs) entry d world drafted d' world') :
    LeadsTo (draftAll (xs.map Prod.snd)) entry d world (drafted.1, drafted.2.map Prod.snd) d'
        world' ∧
      drafted.2.map Prod.fst = xs.map Prod.fst := by
  rw [draftNamed_eq] at h
  obtain ⟨before, es, hall, rfl⟩ := h.gathered_inv
  have hlength : es.length = (xs.map Prod.fst).length := by
    rw [hall.all_length, List.length_map, List.length_map]
  rw [List.map_snd_zip (Nat.le_of_eq hlength), List.map_fst_zip (Nat.le_of_eq hlength.symm)]
  exact ⟨hall, rfl⟩

lemma namedValues_inv {named : List (Text × Value)}
    {drafted : List Statement × List (Text × Expr)}
    (h : LeadsTo (draftNamed (named.map fun e => (e.1, draftValue split e.2))) entry d world drafted
      d' world') :
    LeadsTo (draftAll ((named.map Prod.snd).map (draftValue split))) entry d world
        (drafted.1, drafted.2.map Prod.snd) d' world' ∧
      drafted.2.map Prod.fst = named.map Prod.fst := by
  have hdrafted := h.named_inv
  rw [List.map_map, List.map_map] at hdrafted
  rw [List.map_map]
  exact hdrafted

lemma call_inv {callee : Callee} {arguments : List (Drafting Drafted)} {keywords : List Text}
    {drafted : List Statement × Call}
    (h : LeadsTo (draftCall callee arguments keywords) entry d world drafted d' world') :
    ∃ before es d₁ world₁ more ks,
      LeadsTo (draftAll (splitArguments arguments keywords).1) entry d world (before, es) d₁
        world₁ ∧
      LeadsTo (draftNamed (splitArguments arguments keywords).2) entry d₁ world₁ (more, ks) d'
        world' ∧ drafted = (before ++ more, ⟨callee, es, ks⟩) := by
  rw [draftCall] at h
  obtain ⟨⟨before, es⟩, d₁, world₁, hpositional, h⟩ := h.bind_inv
  obtain ⟨⟨more, ks⟩, d₂, world₂, hnamed, h⟩ := h.bind_inv
  obtain ⟨rfl, rfl, rfl⟩ := h.pure_inv
  exact ⟨before, es, d₁, world₁, more, ks, hpositional, hnamed, rfl⟩

lemma plan_inv {plan : Plan} {body : List Statement}
    (h : LeadsTo (draftPlan split plan) entry d world body d' world') :
    ∃ target d₁ world₁ statements, LeadsTo (fresh .object) entry d world target d₁ world₁ ∧
      LeadsTo (draftSteps split target plan) entry d₁ world₁ statements d' world' ∧
        body = statements ++ [.result target] := by
  obtain ⟨target, d₁, world₁, hfresh, h⟩ := h.bind_inv
  obtain ⟨statements, d₂, world₂, hstatements, h⟩ := h.bind_inv
  obtain ⟨rfl, rfl, rfl⟩ := h.pure_inv
  exact ⟨target, d₁, world₁, statements, hfresh, hstatements, rfl⟩

/-! ### Values -/

lemma nested_inv {className : Text} {plan : Plan} {drafted : Drafted}
    (h : LeadsTo (draftValue split (.nested className plan)) entry d world drafted d' world') :
    ∃ builder d₁ world₁ body, LeadsTo (fresh .nested) entry d world builder d₁ world₁ ∧
      LeadsTo (draftPlan split plan) entry d₁ world₁ body d' world' ∧
        drafted = ([.define builder body], .build builder) := by
  rw [draftValue] at h
  obtain ⟨builder, d₁, world₁, hfresh, h⟩ := h.bind_inv
  obtain ⟨body, d₂, world₂, hbody, h⟩ := h.bind_inv
  obtain ⟨rfl, rfl, rfl⟩ := h.pure_inv
  exact ⟨builder, d₁, world₁, body, hfresh, hbody, rfl⟩

lemma entries_nil_inv {drafted : List Statement × List (Expr × Expr)}
    (h : LeadsTo (draftEntries split []) entry d world drafted d' world') :
    drafted = ([], []) ∧ d' = d ∧ world' = world := by
  rw [draftEntries] at h
  exact h.pure_inv

lemma entries_cons_inv {key item : Value} {rest : List (Value × Value)}
    {drafted : List Statement × List (Expr × Expr)}
    (h : LeadsTo (draftEntries split ((key, item) :: rest)) entry d world drafted d' world') :
    ∃ before k d₁ world₁ middle v d₂ world₂ more es,
      LeadsTo (draftValue split key) entry d world (before, k) d₁ world₁ ∧
      LeadsTo (draftValue split item) entry d₁ world₁ (middle, v) d₂ world₂ ∧
      LeadsTo (draftEntries split rest) entry d₂ world₂ (more, es) d' world' ∧
        drafted = (before ++ middle ++ more, (k, v) :: es) := by
  rw [draftEntries] at h
  obtain ⟨⟨before, k⟩, d₁, world₁, hkey, h⟩ := h.bind_inv
  obtain ⟨⟨middle, v⟩, d₂, world₂, hitem, h⟩ := h.bind_inv
  obtain ⟨⟨more, es⟩, d₃, world₃, hrest, h⟩ := h.bind_inv
  obtain ⟨rfl, rfl, rfl⟩ := h.pure_inv
  exact ⟨before, k, d₁, world₁, middle, v, d₂, world₂, more, es, hkey, hitem, hrest, rfl⟩

/-! ### Instructions -/

variable {target : Local} {rest : Plan} {statements : List Statement}

lemma steps_nil_inv
    (h : LeadsTo (draftSteps split target []) entry d world statements d' world') :
    statements = [] ∧ d' = d ∧ world' = world := by
  rw [draftSteps] at h
  exact h.pure_inv

lemma construct_inv {className : Text} {arguments : List Value} {keywords : List Text}
    (h : LeadsTo (draftSteps split target (.construct className arguments keywords :: rest)) entry d
      world statements d' world') :
    ∃ callee d₁ world₁ before call d₂ world₂ more,
      LeadsTo (draftClass split className) entry d world callee d₁ world₁ ∧
      LeadsTo (draftCall callee (draftItems split arguments) keywords) entry d₁ world₁
        (before, call) d₂ world₂ ∧
      LeadsTo (draftSteps split target rest) entry d₂ world₂ more d' world' ∧
        statements = before ++ .bind target call :: more := by
  rw [draftSteps] at h
  obtain ⟨callee, d₁, world₁, hclass, h⟩ := h.bind_inv
  obtain ⟨⟨before, call⟩, d₂, world₂, hcall, h⟩ := h.bind_inv
  obtain ⟨more, d₃, world₃, hmore, h⟩ := h.bind_inv
  obtain ⟨rfl, rfl, rfl⟩ := h.pure_inv
  exact ⟨callee, d₁, world₁, before, call, d₂, world₂, more, hclass, hcall, hmore, rfl⟩

lemma assign_inv {field : Text} {value : Value}
    (h : LeadsTo (draftSteps split target (.assign field value :: rest)) entry d world statements d'
      world') :
    ∃ before e d₁ world₁ more,
      LeadsTo (draftValue split value) entry d world (before, e) d₁ world₁ ∧
      LeadsTo (draftSteps split target rest) entry d₁ world₁ more d' world' ∧
        statements = before ++ .assign target field e :: more := by
  rw [draftSteps] at h
  obtain ⟨⟨before, e⟩, d₁, world₁, he, h⟩ := h.bind_inv
  obtain ⟨more, d₂, world₂, hmore, h⟩ := h.bind_inv
  obtain ⟨rfl, rfl, rfl⟩ := h.pure_inv
  exact ⟨before, e, d₁, world₁, more, he, hmore, rfl⟩

lemma invoke_inv {method : Text} {arguments : List Value} {keywords : List Text}
    (h : LeadsTo (draftSteps split target (.invoke method arguments keywords :: rest)) entry d world
      statements d' world') :
    ∃ before call d₁ world₁ more,
      LeadsTo (draftCall (.method target method) (draftItems split arguments) keywords) entry d
        world (before, call) d₁ world₁ ∧
      LeadsTo (draftSteps split target rest) entry d₁ world₁ more d' world' ∧
        statements = before ++ .perform call :: more := by
  rw [draftSteps] at h
  obtain ⟨⟨before, call⟩, d₁, world₁, hcall, h⟩ := h.bind_inv
  obtain ⟨more, d₂, world₂, hmore, h⟩ := h.bind_inv
  obtain ⟨rfl, rfl, rfl⟩ := h.pure_inv
  exact ⟨before, call, d₁, world₁, more, hcall, hmore, rfl⟩

lemma placeholder_inv {className : Text} {initializer : Plan}
    (h : LeadsTo (draftSteps split target (.placeholder className initializer :: rest)) entry d
      world statements d' world') :
    ∃ builder d₁ world₁ body d₂ world₂ more,
      LeadsTo (fresh .initializer) entry d world builder d₁ world₁ ∧
      LeadsTo (draftPlan split initializer) entry d₁ world₁ body d₂ world₂ ∧
      LeadsTo (draftSteps split target rest) entry d₂ world₂ more d' world' ∧
        statements = .define builder body :: .proxy target className builder :: more := by
  rw [draftSteps] at h
  obtain ⟨builder, d₁, world₁, hfresh, h⟩ := h.bind_inv
  obtain ⟨body, d₂, world₂, hbody, h⟩ := h.bind_inv
  obtain ⟨more, d₃, world₃, hmore, h⟩ := h.bind_inv
  obtain ⟨rfl, rfl, rfl⟩ := h.pure_inv
  exact ⟨builder, d₁, world₁, body, d₂, world₂, more, hfresh, hbody, hmore, rfl⟩

lemma stray_inv {value : Value}
    (h : LeadsTo (draftSteps split target (.stray value :: rest)) entry d world statements d'
      world') : False := by
  rw [draftSteps] at h
  exact h.ifWritten_inv.2.refuse_inv

end LeadsTo

/-! ## What a draft collects -/

/-- A later draft counts and collects more.  Modules that are added are such as `P` allows to be
written. -/
structure Grows (P : Text → Prop) (d d' : Draft) : Prop where
  /-- More local names. -/
  count_le : d.count ≤ d'.count
  /-- Modules are kept. -/
  keeps : ∀ n ∈ d.modules, n ∈ d'.modules
  /-- Modules are added. -/
  adds : ∀ n ∈ d'.modules, n ∈ d.modules ∨ ∀ part ∈ Catalog.pathParts n, P part

namespace Grows

variable {P : Text → Prop} {d d₁ d' : Draft}

lemma refl (d : Draft) : Grows P d d :=
  ⟨Nat.le_refl _, fun _ => id, fun _ => .inl⟩

lemma trans (h : Grows P d d₁) (h' : Grows P d₁ d') : Grows P d d' := by
  refine ⟨Nat.le_trans h.count_le h'.count_le, fun n hn => h'.keeps n (h.keeps n hn), ?_⟩
  intro n hn
  rcases h'.adds n hn with hn | hn
  · exact h.adds n hn
  · exact .inr hn

lemma of_fresh {role : Role} {l : Local} (h : Drafts (fresh role) d l d') : Grows P d d' := by
  obtain ⟨-, rfl⟩ := h.fresh_inv
  exact ⟨Nat.le_succ _, fun _ => id, fun _ => .inl⟩

end Grows

/-! ## Statements that get something ready -/

section Ready

variable {m : Type → Type} {O : Type}

/-- The local names up to a number stand for the same. -/
def Agree (n : Nat) (locals locals' : Locals m O) : Prop :=
  ∀ l, l.number ≤ n → locals l = locals' l

lemma Agree.refl (n : Nat) (locals : Locals m O) : Agree n locals locals :=
  fun _ _ => rfl

lemma Agree.trans {n n' : Nat} (hn : n ≤ n') {locals locals₁ locals' : Locals m O}
    (h : Agree n locals locals₁) (h' : Agree n' locals₁ locals') : Agree n locals locals' :=
  fun l hl => (h l hl).trans (h' l (Nat.le_trans hl hn))

lemma Agree.bind {n : Nat} {l : Local} (hl : n < l.number) (locals : Locals m O)
    (item : Item m O) : Agree n locals (locals.bind l item) := by
  intro l' hl'
  have hne : l' ≠ l := by
    rintro rfl
    omega
  rw [Locals.bind, if_neg hne]

variable [Monad m]

/-- The statements only bind local names with numbers above `n`, and after them `Q` holds for as
long as the local names up to `n'` stand for the same. -/
def Prepares (host : Host m O) (n n' : Nat) (before : List Statement)
    (Q : Locals m O → Prop) : Prop :=
  ∀ rest locals, ∃ locals', Agree n locals locals' ∧
    runBlock host (before ++ rest) locals = runBlock host rest locals' ∧
    ∀ locals'', Agree n' locals' locals'' → Q locals''

/-- The statements are sound and get `Q` ready, on the way from one draft to a later one. -/
structure Ready (host : Host m O) (P : Text → Prop) (d d' : Draft) (before : List Statement)
    (Q : Locals m O → Prop) : Prop extends Grows P d d' where
  /-- The statements are sound. -/
  sound : ∀ imports, (∀ n ∈ d'.modules, n ∈ imports) → BlockSound P imports before
  /-- What they get ready. -/
  prepares : Prepares host d.count d'.count before Q

lemma BlockSound.nil {P : Text → Prop} {imports : List Text} : BlockSound P imports [] := by
  rw [BlockSound]
  trivial

lemma BlockSound.append {P : Text → Prop} {imports : List Text} {body body' : List Statement}
    (h : BlockSound P imports body) (h' : BlockSound P imports body') :
    BlockSound P imports (body ++ body') := by
  induction body with
  | nil => exact h'
  | cons s rest ih =>
    rw [List.cons_append]
    cases s <;> rw [BlockSound] at h ⊢
    case define => exact ⟨h.1, ih h.2⟩
    case bind => exact ⟨h.1, ih h.2⟩
    case assign => exact ⟨h.1, h.2.1, ih h.2.2⟩
    case perform => exact ⟨h.1, ih h.2⟩
    case proxy => exact ih h
    case result => exact ih h

namespace Ready

variable {host : Host m O} {P : Text → Prop} {d d₁ d' : Draft} {before before' : List Statement}
  {Q Q' : Locals m O → Prop}

lemma nil (h : Grows P d d') (hQ : ∀ locals, Q locals) : Ready host P d d' [] Q := by
  refine ⟨h, fun imports _ => BlockSound.nil, fun rest locals => ⟨locals, Agree.refl _ _, rfl, ?_⟩⟩
  exact fun locals'' _ => hQ locals''

lemma mono (h : Ready host P d d' before Q) (hQ : ∀ locals, Q locals → Q' locals) :
    Ready host P d d' before Q' := by
  refine ⟨h.toGrows, h.sound, fun rest locals => ?_⟩
  obtain ⟨locals', hagree, hrun, hready⟩ := h.prepares rest locals
  exact ⟨locals', hagree, hrun, fun locals'' h'' => hQ _ (hready locals'' h'')⟩

/-- What is ready stays ready while more is got ready. -/
lemma append (h : Ready host P d d₁ before Q) (h' : Ready host P d₁ d' before' Q') :
    Ready host P d d' (before ++ before') fun locals => Q locals ∧ Q' locals := by
  refine ⟨h.toGrows.trans h'.toGrows, fun imports hi => ?_, fun rest locals => ?_⟩
  · exact (h.sound imports fun n hn => hi n (h'.keeps n hn)).append (h'.sound imports hi)
  · obtain ⟨locals₁, hagree₁, hrun₁, hready₁⟩ := h.prepares (before' ++ rest) locals
    obtain ⟨locals₂, hagree₂, hrun₂, hready₂⟩ := h'.prepares rest locals₁
    refine ⟨locals₂, hagree₁.trans h.count_le hagree₂, ?_, fun locals'' h'' => ⟨?_, ?_⟩⟩
    · rw [List.append_assoc, hrun₁, hrun₂]
    · exact hready₁ _ (hagree₂.trans h'.count_le h'')
    · exact hready₂ _ h''

end Ready

end Ready

end Factory

end Blueprint
