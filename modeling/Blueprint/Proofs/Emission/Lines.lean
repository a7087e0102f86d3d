/-
# The lines of a factory

A factory is written line by line.  After its head and its imports there is one line for every
statement of its body, in the order in which they stand: a function comes before what is within it,
and that before what follows the function.  A line has four spaces for each block around it, and no
space after them that is not its own.

A factory that is drafted after others is the same as if it were the first.  What they left, in
whatever state, is dropped before anything is numbered (`Factory.emit`).

Together with what a block of a plan is, this is the layout of every factory that is emitted
(`Factory.emit_isLaidOut`).
-/
import Blueprint.Proofs.Emission.Layout
import Blueprint.Proofs.Emission.OneLine

namespace Blueprint.Factory

/-! ## Statements and their levels -/

/-- The line of a statement after the space before it, for a function its first line. -/
def Statement.head : Statement → Text
  | .define name _ => "def " ++ name.text ++ "():"
  | .bind target call => target.text ++ " = " ++ call.text
  | .assign target field value => assignText target field value
  | .perform call => call.text
  | .proxy target className initializer =>
    target.text ++ " = proxy_factory.create_proxy(" ++ Text.quote className ++ ", " ++
      initializer.text ++ ")"
  | .result target => "return " ++ target.text

/-- The statements of a block of a level, and those within its functions, with their levels. -/
def placed (level : Nat) : List Statement → List (Nat × Statement)
  | [] => []
  | .define name body :: rest =>
    (level, .define name body) :: (placed (level + 1) body ++ placed level rest)
  | .bind target call :: rest => (level, .bind target call) :: placed level rest
  | .assign target field value :: rest => (level, .assign target field value) :: placed level rest
  | .perform call :: rest => (level, .perform call) :: placed level rest
  | .proxy target className initializer :: rest =>
    (level, .proxy target className initializer) :: placed level rest
  | .result target :: rest => (level, .result target) :: placed level rest

/-- The lines of a block are those of its statements, each after the space of its level. -/
lemma blockLines_eq_map_placed (level : Nat) : ∀ body : List Statement,
    blockLines level body = (placed level body).map fun p => indent p.1 ++ p.2.head
  | [] => by
    rw [blockLines, placed, List.map_nil]
  | .define name body :: rest => by
    rw [blockLines, Statement.lines, placed, blockLines_eq_map_placed (level + 1) body,
      blockLines_eq_map_placed level rest, List.map_cons, List.map_append]
    simp only [Statement.head, Text.append_assoc, List.cons_append]
  | .bind .. :: rest | .assign .. :: rest | .perform _ :: rest | .proxy .. :: rest
  | .result _ :: rest => by
    rw [blockLines, Statement.lines, placed, blockLines_eq_map_placed level rest, List.map_cons]
    simp only [Statement.head, Text.append_assoc, List.singleton_append]

lemma placed_append (level : Nat) (body body' : List Statement) :
    placed level (body ++ body') = placed level body ++ placed level body' := by
  induction body with
  | nil => rw [placed, List.nil_append, List.nil_append]
  | cons s rest ih => cases s <;> simp only [List.cons_append, placed, ih, List.append_assoc]

/-! ## Where a line starts -/

/-- The text starts with a point that is no space. -/
def IsFlush (t : Text) : Prop :=
  ∃ p, t.points.head? = some p ∧ p ≠ .char ' '

lemma IsFlush.append {t : Text} (h : IsFlush t) (t' : Text) : IsFlush (t ++ t') := by
  obtain ⟨p, hp, hne⟩ := h
  refine ⟨p, ?_, hne⟩
  rw [Text.points_append, List.head?_append, hp, Option.some_or]

lemma Local.isFlush_text (l : Local) : IsFlush l.text :=
  ⟨_, l.head_text, by decide⟩

lemma isFlush_define (builder : Local) (body : List Statement) :
    IsFlush (Statement.define builder body).head :=
  .append (.append ⟨.char 'd', rfl, by decide⟩ _) _

lemma isFlush_result (target : Local) : IsFlush (Statement.result target).head :=
  .append ⟨.char 'r', rfl, by decide⟩ _

/-- A line starts with the object, or with the name of what is done to it. -/
lemma StatementOf.isFlush {target : Local} {i : Instruction} {s : Statement}
    (h : StatementOf target i s) : IsFlush s.head := by
  cases h with
  | construct => exact .append (.append target.isFlush_text _) _
  | assign field =>
    rw [Statement.head, assignText]
    -- the line starts with the name of the object, or with that of the function that sets a field
    split
    · exact .append (.append (.append (.append target.isFlush_text _) _) _) _
    · have hstart : IsFlush "setattr(" := ⟨.char 's', rfl, by decide⟩
      exact .append (.append (.append (.append (.append (.append hstart _) _) _) _) _) _
  | invoke => exact .append (.append (.append (.append (.append target.isFlush_text _) _) _) _) _
  | placeholder =>
    exact .append (.append (.append (.append (.append target.isFlush_text _) _) _) _) _

lemma StatementOf.placed_cons {target : Local} {i : Instruction} {s : Statement}
    (h : StatementOf target i s) (level : Nat) (rest : List Statement) :
    placed level (s :: rest) = (level, s) :: placed level rest := by
  cases h <;> rw [placed]

mutual

/-- The lines of a block start after the space of their levels. -/
theorem BlockOf.isFlush : ∀ {n n' : Nat} {plan : Plan} {body : List Statement},
    BlockOf n plan body n' → ∀ level, ∀ p ∈ placed level body, IsFlush p.2.head
  | _, _, _, _, .mk h, level => by
    rw [placed_append, List.forall_mem_append, placed, placed, List.forall_mem_singleton]
    exact ⟨h.isFlush level, isFlush_result _⟩

theorem StepsOf.isFlush : ∀ {target : Local} {n n' : Nat} {plan : Plan} {body : List Statement},
    StepsOf target n plan body n' → ∀ level, ∀ p ∈ placed level body, IsFlush p.2.head
  | _, _, _, _, _, .nil _ _, level => by
    rw [placed]
    exact List.forall_mem_nil _
  | _, _, _, _, _, .cons hfunctions hs _ hrest, level => by
    rw [placed_append, List.forall_mem_append, hs.placed_cons, List.forall_mem_cons]
    exact ⟨hfunctions.isFlush level, hs.isFlush, hrest.isFlush level⟩

theorem FunctionsFor.isFlush : ∀ {n n' : Nat} {plans : List (Role × Plan)} {names : List Local}
    {body : List Statement}, FunctionsFor n plans names body n' →
      ∀ level, ∀ p ∈ placed level body, IsFlush p.2.head
  | _, _, _, _, _, .nil _, level => by
    rw [placed]
    exact List.forall_mem_nil _
  | _, _, _, _, _, .cons hbody hrest, level => by
    rw [placed, List.forall_mem_cons, List.forall_mem_append]
    exact ⟨isFlush_define _ _, hbody.isFlush (level + 1), hrest.isFlush level⟩

end

/-! ## One factory after another -/

/-- Drafts a factory after others were drafted, whatever they left. -/
def emit (split : Splitter) (name : Text) (plan : Plan) : Drafting Factory := do
  if !Text.isIdentifier name then refuse (.factoryName name)
  set (⟨0, []⟩ : Draft)
  let body ← draftPlan split plan
  let draft ← get
  return { name, imports := draft.modules, body }

section Emission

variable {split : Splitter} {name : Text} {plan : Plan} {entry : Option Value} {world : World}
  {f : Factory} {draft : Draft}

/-- With an identifier for a name, drafting starts from nothing. -/
lemma emit_run (hid : Text.isIdentifier name = true) (left : Draft) :
    (emit split name plan).run left =
      (draftPlan split plan).run ⟨0, []⟩ >>= fun drafted =>
        pure ({ name, imports := drafted.2.modules, body := drafted.1 }, drafted.2) := by
  rw [emit, if_neg (by simp [hid])]
  rfl

/-- Without one, nothing is drafted. -/
lemma emit_run_refused (hid : ¬ Text.isIdentifier name = true) (left : Draft) :
    ((emit split name plan).run left entry world) =
      (.error (Failure.mismatch (.factoryName name)), world) := by
  rw [emit, if_pos (by simp [hid])]
  rfl

/-- Whatever was left, a factory is drafted as if it were the first one, or refused as that is. -/
theorem emit_eq_ofPlan (left : Draft) :
    (((emit split name plan).run left entry world).1.map Prod.fst,
      ((emit split name plan).run left entry world).2) = ofPlan split name plan entry world := by
  -- a name that is no identifier is refused by both, before anything is drafted
  by_cases hid : Text.isIdentifier name = true
  · have hfirst : ofPlan split name plan entry world =
        ((draftPlan split plan).run ⟨0, []⟩ >>= fun drafted =>
          pure { name, imports := drafted.2.modules, body := drafted.1 }) entry world := by
      rw [ofPlan, if_neg (by simp [hid])]
    rw [emit_run hid, hfirst, Run.bind_apply, Run.bind_apply]
    rcases (draftPlan split plan).run ⟨0, []⟩ entry world with ⟨failure | drafted, world'⟩ <;> rfl
  · rw [emit_run_refused hid, ofPlan, if_pos (by simp [hid])]
    rfl

lemma emit_inv {left : Draft} (h : ((emit split name plan).run left entry world).1 =
    .ok (f, draft)) : (ofPlan split name plan entry world).1 = .ok f ∧
      Drafts (draftPlan split plan) ⟨0, []⟩ f.body draft ∧ f.imports = draft.modules := by
  refine ⟨?_, ?_⟩
  · rw [← emit_eq_ofPlan left, h]
    rfl
  · by_cases hid : Text.isIdentifier name = true
    · rw [emit_run hid, Run.bind_apply] at h
      rcases hd : (draftPlan split plan).run ⟨0, []⟩ entry world with
        ⟨failure | ⟨body, last⟩, world'⟩ <;> rw [hd] at h
      · exact absurd h (by simp)
      · obtain ⟨rfl, rfl⟩ := Prod.mk.inj (Except.ok.inj h)
        exact ⟨⟨entry, world, world', hd⟩, rfl⟩
    · rw [emit_run_refused hid] at h
      exact absurd h (by simp)

/-- The factory is laid out as the plan is, with local names that are numbered up to the last
one. -/
structure IsLaidOut (plan : Plan) (last : Nat) (f : Factory) : Prop where
  /-- The body, and that of each function within it, is a block: for every instruction its functions
  and its statement, and then the object is returned. -/
  block : BlockOf 0 plan f.body last
  /-- Every number is that of one object or function. -/
  numbers : ((declared f.body).map Local.number).Perm (List.range' 1 last)
  /-- Nothing is used but functions that are defined. -/
  used : (usedBuilders f.body).Perm (definedBuilders f.body)
  /-- Every function is used by one statement, and once. -/
  usedOnce : ∀ builder ∈ definedBuilders f.body, (usedBuilders f.body).count builder = 1
  /-- There is a line for the head, for every import and for every statement, after four spaces for
  each block around it. -/
  lines : f.lines = ("def " ++ f.name ++ "(container, proxy_factory):") ::
    ((f.imports.map fun n => Text.ofChars (List.replicate 4 ' ') ++ "import " ++ n) ++
      (placed 1 f.body).map fun p => Text.ofChars (List.replicate (4 * p.1) ' ') ++ p.2.head)
  /-- These are all spaces that a line starts with. -/
  flush : ∀ p ∈ placed 1 f.body, IsFlush p.2.head

/-- Every factory that is drafted, whatever was drafted before it, is the one that would be drafted
first, and is laid out as its plan is.  Its lines are those of its text, if what the plan mentions
has no line feed. -/
theorem emit_isLaidOut (catalog : Catalog) (left : Draft)
    (h : ((emit catalog.split name plan).run left entry world).1 = .ok (f, draft)) :
    (ofPlan catalog.split name plan entry world).1 = .ok f ∧ f.IsLaidOut plan draft.count ∧
      (plan.IsOneLine → Text.splitAt '\n' f.text = f.lines) := by
  obtain ⟨hfirst, hd, -⟩ := emit_inv h
  have hblock : BlockOf 0 plan f.body draft.count := draftPlan_blockOf catalog.split hd
  have hlines : f.lines ≠ [] := by simp [lines]
  refine ⟨hfirst, ⟨hblock, hblock.numbers.2, hblock.used, fun _ => hblock.count_used, ?_,
    hblock.isFlush 1⟩, fun hplan => ?_⟩
  · rw [lines, blockLines_eq_map_placed, List.cons_append]
    rfl
  · exact Text.splitAt_intercalate (ofPlan_isOneLine catalog.split_isCutting hfirst hplan) hlines

/-- After a factory that was given up on, the one with nested objects and a placeholder is laid out
with the numbers from one to seven. -/
theorem nestedFactory_isLaidOut :
    ((emit (Catalog.split ⟨[]⟩) "build_pair" nestedPlan).run ⟨3, ["app.old"]⟩ none {}).1 =
        .ok (nestedFactory, ⟨7, ["app"]⟩) ∧
      nestedFactory.IsLaidOut nestedPlan 7 ∧
      Text.splitAt '\n' nestedFactory.text = nestedFactory.lines := by
  have hdrafted : ((emit (Catalog.split ⟨[]⟩) "build_pair" nestedPlan).run ⟨3, ["app.old"]⟩
      none {}).1 = .ok (nestedFactory, ⟨7, ["app"]⟩) := rfl
  obtain ⟨-, hlaid, hsplit⟩ := emit_isLaidOut ⟨[]⟩ ⟨3, ["app.old"]⟩ hdrafted
  exact ⟨hdrafted, hlaid, hsplit (by rw [Plan.IsOneLine, nestedPlan_mentions]; decide)⟩

end Emission

end Blueprint.Factory
