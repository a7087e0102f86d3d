/-
# What the text of factories inherits from the splitter

A module of factories is drafted, named and rendered without a look at the world: the only runs on
the way are those of the splitter, which tells the module of every class that is constructed, and
refusals.  So a property that refusals have and that passes from runs to what is put together from
them (`Run.Composes`) holds of the text of factories as soon as it holds of what the splitter
answers about the class paths that the plans mention.  Drafting refuses a plan for few reasons
(`Mismatch.IsOfDraft`), and the name of a factory is not one of them.
-/
import Blueprint.Factory.Render
import Blueprint.Proofs.Emission.Execution
import Blueprint.Proofs.Entries
import Blueprint.Proofs.Run

namespace Blueprint

variable {C : ∀ {α : Type}, Run α → Prop} {α β : Type}

/-- A reason for which drafting refuses a plan. -/
def Mismatch.IsOfDraft : Mismatch → Prop
  | .unqualifiedClass _ | .unsupportedConstant _ | .unsupportedInstruction _ => True
  | _ => False

/-- The property holds of a result and of a refusal, and passes from two runs to one that goes on
from the first to the second. -/
structure Run.Composes (C : ∀ {α : Type}, Run α → Prop) : Prop where
  pure : ∀ {α : Type} (a : α), C (Pure.pure a : Run α)
  mismatched : ∀ {α : Type} {cause : Mismatch}, cause.IsOfDraft → C (Run.mismatched cause : Run α)
  bind : ∀ {α β : Type} {x : Run α} {f : α → Run β}, C x → (∀ a, C (f a)) → C (x >>= f)

lemma Run.InheritedFrom.composes {S : World → Prop} (hC : InheritedFrom S C) : Composes C where
  pure := hC.pure
  mismatched _ := hC.fail (.mismatch _)
  bind := hC.bind

/-- Where something cannot be written, the property holds of the failure to write it. -/
def Run.Bears (C : ∀ {α : Type}, Run α → Prop) (written : Bool) : Prop :=
  written = false → ∀ {α : Type}, C (Run.fail (.longNumber none) : Run α)

namespace Run.Bears

variable {written written' : Bool}

lemma of_imp (h : Bears C written) (hwritten : written = true → written' = true) :
    Bears C written' := by
  rintro rfl
  exact h (Bool.eq_false_iff.2 fun htrue => Bool.false_ne_true (hwritten htrue))

lemma left (h : Bears C (written && written')) : Bears C written :=
  h.of_imp fun hboth => (Bool.and_eq_true_iff.1 hboth).1

lemma right (h : Bears C (written && written')) : Bears C written' :=
  h.of_imp fun hboth => (Bool.and_eq_true_iff.1 hboth).2

end Run.Bears

/-! ## Arguments in order and by name -/

/-- A call passes nothing but its arguments. -/
lemma mem_splitArguments (arguments : List α) (keywords : List Text) :
    (∀ a ∈ (splitArguments arguments keywords).1, a ∈ arguments) ∧
      ∀ e ∈ (splitArguments arguments keywords).2, e.2 ∈ arguments := by
  unfold splitArguments
  split
  · exact ⟨fun a => id, by simp⟩
  · refine ⟨fun a ha => List.mem_of_mem_take ha, fun e he => ?_⟩
    obtain ⟨⟨name, a⟩, hpair, heq⟩ := List.mem_map.1 (Entries.mem_ofList he).2
    rw [← heq]
    exact List.mem_of_mem_drop (List.of_mem_zip hpair).2

namespace Factory

/-- The property holds of a step of drafting, whatever has been drafted so far. -/
def Drafting.Inherits (C : ∀ {α : Type}, Run α → Prop) (x : Drafting α) : Prop :=
  ∀ draft, C (x.run draft)

namespace Drafting.Inherits

variable {x : Drafting α} {f : α → Drafting β} (hC : Run.Composes C)

include hC

protected lemma pure (a : α) : Inherits C (Pure.pure a : Drafting α) :=
  fun draft => hC.pure (a, draft)

protected lemma bind (hx : Inherits C x) (hf : ∀ a, Inherits C (f a)) : Inherits C (x >>= f) :=
  fun draft => hC.bind (hx draft) fun result => hf result.1 result.2

lemma lift {run : Run α} (h : C run) : Inherits C (StateT.lift run : Drafting α) :=
  fun _ => hC.bind h fun _ => hC.pure _

lemma refuse {cause : Mismatch} (h : cause.IsOfDraft) :
    Inherits C (Factory.refuse cause : Drafting α) :=
  lift hC (hC.mismatched h)

omit hC in
lemma ifWritten {v : Value} (hv : Run.Bears C v.isWritten) (hx : Inherits C x) :
    Inherits C (Factory.ifWritten v x) := by
  intro draft
  show C (Run.ifWritten v.isWritten (x draft))
  cases hwritten : v.isWritten with
  | false => exact hv hwritten
  | true => exact hx draft

lemma fresh (role : Role) : Inherits C (Factory.fresh role) :=
  fun _ => hC.pure _

lemma useModule (name : Text) : Inherits C (Factory.useModule name) :=
  fun _ => hC.pure _

end Drafting.Inherits

open Drafting

section Calls

variable (hC : Run.Composes C)

include hC

/-! ## Calls and blocks -/

lemma draftAll_inherits {xs : List (Drafting Drafted)} (h : ∀ x ∈ xs, Inherits C x) :
    Inherits C (draftAll xs) := by
  induction xs with
  | nil => exact .pure hC _
  | cons x rest ih =>
    refine .bind hC (h x List.mem_cons_self) fun drafted => ?_
    exact .bind hC (ih fun y hy => h y (List.mem_cons_of_mem x hy)) fun more => .pure hC _

lemma inBlock_inherits {steps : Local → Drafting (List Statement)}
    (h : ∀ target, Inherits C (steps target)) : Inherits C (inBlock steps) :=
  .bind hC (.fresh hC _) fun target => .bind hC (h target) fun _ => .pure hC _

lemma draftCall_inherits (callee : Callee) {arguments : List (Drafting Drafted)}
    (keywords : List Text) (h : ∀ x ∈ arguments, Inherits C x) :
    Inherits C (draftCall callee arguments keywords) := by
  obtain ⟨hpositional, hnamed⟩ := mem_splitArguments arguments keywords
  have hnamed : ∀ x ∈ (splitArguments arguments keywords).2.map Prod.snd, Inherits C x :=
    List.forall_mem_map.2 fun e he => h e.2 (hnamed e he)
  simp only [draftCall, draftNamed_eq, bind_assoc, pure_bind]
  refine .bind hC (draftAll_inherits hC fun x hx => h x (hpositional x hx)) fun before => ?_
  exact .bind hC (draftAll_inherits hC hnamed) fun more => .pure hC _

lemma draftClass_inherits {split : Splitter} {className : Text} (hsplit : C (split className)) :
    Inherits C (draftClass split className) := by
  refine .bind hC (.lift hC hsplit) fun cut => ?_
  show Inherits C (if cut.1.isEmpty then
    if builtinNames.contains className then pure (Callee.builtin className)
    else refuse (.unqualifiedClass className)
    else do useModule cut.1; return Callee.member cut.1 cut.2)
  split
  · split
    · exact .pure hC _
    · exact .refuse hC trivial
  · exact .bind hC (.useModule hC _) fun _ => .pure hC _

end Calls

/-! ## Plans -/

section Plans

variable {split : Splitter}

/-- The property holds of every answer of the splitter about a class path that is mentioned. -/
def Splitter.Answers (split : Splitter) (C : ∀ {α : Type}, Run α → Prop) (us : List Mention) :
    Prop :=
  ∀ path, Mention.path (classPath path) ∈ us → C (split path)

lemma Splitter.Answers.of_subset {us us' : List Mention} (h : split.Answers C us)
    (hsubset : us' ⊆ us) : split.Answers C us' :=
  fun path hpath => h path (hsubset hpath)

mutual

lemma draftValue_inherits (hC : Run.Composes C) :
    ∀ v : Value, split.Answers C v.mentions → Run.Bears C v.isWritten →
      Inherits C (draftValue split v)
  | .null, _, hv | .bool _, _, hv | .int _, _, hv | .float _, _, hv | .str _, _, hv
  | .bytes _, _, hv | .derived .., _, hv => by
    rw [draftValue]
    exact .ifWritten hv (.pure hC _)
  | .reference _, _, hv => by
    rw [draftValue]
    rw [Value.isWritten] at hv
    exact .ifWritten hv (.pure hC _)
  | .nested _ plan, hsplit, hv => by
    rw [draftValue]
    rw [Value.mentions] at hsplit
    rw [Value.isWritten] at hv
    refine .bind hC (.fresh hC _) fun builder => ?_
    refine .bind hC (inBlock_inherits hC fun target => ?_) fun body => .pure hC _
    exact draftSteps_inherits hC plan (hsplit.of_subset (List.subset_cons_self _ _)) hv target
  | .list items, hsplit, hv => by
    rw [draftValue]
    rw [Value.mentions] at hsplit
    rw [Value.isWritten] at hv
    refine .bind hC (draftAll_inherits hC ?_) fun drafted => .pure hC _
    exact draftItems_inherits hC items hsplit hv
  | .tuple items, hsplit, hv => by
    rw [draftValue]
    rw [Value.mentions] at hsplit
    rw [Value.isWritten] at hv
    refine .bind hC (draftAll_inherits hC ?_) fun drafted => .pure hC _
    exact draftItems_inherits hC items hsplit hv
  | .dict entries, hsplit, hv => by
    rw [draftValue]
    rw [Value.mentions] at hsplit
    rw [Value.isWritten] at hv
    exact .bind hC (draftEntries_inherits hC entries hsplit hv) fun drafted => .pure hC _
  | .useDefault, _, hv | .definition _, _, hv | .set _, _, hv | .foreign _, _, hv
  | .enumMember .., _, hv => by
    rw [draftValue]
    exact .ifWritten hv (.refuse hC trivial)

lemma draftItems_inherits (hC : Run.Composes C) :
    ∀ items : List Value, split.Answers C (itemMentions items) →
      Run.Bears C (allWritten items) → ∀ x ∈ draftItems split items, Inherits C x
  | [], _, _ => by
    rw [draftItems]
    exact List.forall_mem_nil _
  | item :: rest, hsplit, hwritten => by
    rw [draftItems]
    rw [itemMentions] at hsplit
    rw [allWritten] at hwritten
    have hitem := hsplit.of_subset (List.subset_append_left _ _)
    have hrest := hsplit.of_subset (List.subset_append_right _ _)
    exact List.forall_mem_cons.2 ⟨draftValue_inherits hC item hitem hwritten.left,
      draftItems_inherits hC rest hrest hwritten.right⟩

lemma draftEntries_inherits (hC : Run.Composes C) :
    ∀ entries : List (Value × Value), split.Answers C (entryMentions entries) →
      Run.Bears C (entriesWritten entries) → Inherits C (draftEntries split entries)
  | [], _, _ => by
    rw [draftEntries]
    exact .pure hC _
  | (key, item) :: rest, hsplit, hwritten => by
    rw [draftEntries]
    rw [entryMentions] at hsplit
    rw [entriesWritten] at hwritten
    have hentry := hsplit.of_subset (List.subset_append_left _ _)
    have hrest := hsplit.of_subset (List.subset_append_right _ _)
    have hkey := hentry.of_subset (List.subset_append_left _ _)
    have hitem := hentry.of_subset (List.subset_append_right _ _)
    refine .bind hC (draftValue_inherits hC key hkey hwritten.left.left) fun k => ?_
    refine .bind hC (draftValue_inherits hC item hitem hwritten.left.right) fun v => ?_
    exact .bind hC (draftEntries_inherits hC rest hrest hwritten.right) fun es => .pure hC _

lemma draftSteps_inherits (hC : Run.Composes C) :
    ∀ plan : List Instruction, split.Answers C (stepMentions plan) →
      Run.Bears C (planWritten plan) → ∀ target : Local, Inherits C (draftSteps split target plan)
  | [], _, _, _ => by
    rw [draftSteps]
    exact .pure hC _
  | .construct className arguments keywords :: rest, hsplit, hwritten, target => by
    rw [draftSteps]
    rw [stepMentions] at hsplit
    rw [planWritten, instructionWritten] at hwritten
    have harguments := hsplit.of_subset (List.subset_append_left _ _)
    have hmore := hsplit.of_subset (List.subset_append_right _ _)
    have hrest := hmore.of_subset fun u hu => List.mem_cons_of_mem _ (List.mem_cons_of_mem _ hu)
    refine .bind hC (draftClass_inherits hC (hmore _ List.mem_cons_self)) fun callee => ?_
    have hitems := draftItems_inherits hC arguments harguments hwritten.left
    refine .bind hC (draftCall_inherits hC callee keywords hitems) fun call => ?_
    exact .bind hC (draftSteps_inherits hC rest hrest hwritten.right target) fun more => .pure hC _
  | .assign field value :: rest, hsplit, hwritten, target => by
    rw [draftSteps]
    rw [stepMentions] at hsplit
    rw [planWritten, instructionWritten] at hwritten
    have hvalue := hsplit.of_subset (List.subset_append_left _ _)
    have hmore := hsplit.of_subset (List.subset_append_right _ _)
    have hrest := hmore.of_subset (List.subset_cons_self _ _)
    refine .bind hC (draftValue_inherits hC value hvalue hwritten.left) fun drafted => ?_
    exact .bind hC (draftSteps_inherits hC rest hrest hwritten.right target) fun more => .pure hC _
  | .invoke method arguments keywords :: rest, hsplit, hwritten, target => by
    rw [draftSteps]
    rw [stepMentions] at hsplit
    rw [planWritten, instructionWritten] at hwritten
    have harguments := hsplit.of_subset (List.subset_append_left _ _)
    have hmore := hsplit.of_subset (List.subset_append_right _ _)
    have hrest := hmore.of_subset fun u hu => List.mem_cons_of_mem _ (List.mem_cons_of_mem _ hu)
    have hitems := draftItems_inherits hC arguments harguments hwritten.left
    refine .bind hC (draftCall_inherits hC _ keywords hitems) fun call => ?_
    exact .bind hC (draftSteps_inherits hC rest hrest hwritten.right target) fun more => .pure hC _
  | .placeholder className initializer :: rest, hsplit, hwritten, target => by
    rw [draftSteps]
    rw [stepMentions] at hsplit
    rw [planWritten, instructionWritten] at hwritten
    have hmore := hsplit.of_subset (List.subset_cons_self _ _)
    have hinitializer := hmore.of_subset (List.subset_append_left _ _)
    have hrest := hmore.of_subset (List.subset_append_right _ _)
    refine .bind hC (.fresh hC _) fun builder => ?_
    refine .bind hC (inBlock_inherits hC fun inner => ?_) fun body => ?_
    · exact draftSteps_inherits hC initializer hinitializer hwritten.left inner
    · exact .bind hC (draftSteps_inherits hC rest hrest hwritten.right target) fun more =>
        .pure hC _
  | .stray value :: _, _, hwritten, target => by
    rw [draftSteps]
    rw [planWritten, instructionWritten] at hwritten
    exact .ifWritten hwritten.left (.refuse hC trivial)

end

lemma draftPlan_inherits (hC : Run.Composes C) {plan : Plan}
    (hsplit : split.Answers C plan.mentions) (hwritten : Run.Bears C (planWritten plan)) :
    Inherits C (draftPlan split plan) :=
  inBlock_inherits hC
    (draftSteps_inherits hC plan (hsplit.of_subset (List.subset_cons_self _ _)) hwritten)

lemma ofPlan_inherits (hC : Run.Composes C) (name : Text) {plan : Plan}
    (hrefused : C (Run.mismatched (.factoryName name) : Run PUnit))
    (hsplit : split.Answers C plan.mentions) (hwritten : Run.Bears C (planWritten plan)) :
    C (ofPlan split name plan) := by
  have hdraft : C ((draftPlan split plan).run ⟨0, []⟩ >>= fun drafted =>
      pure (⟨name, drafted.2.modules, drafted.1⟩ : Factory)) :=
    hC.bind (draftPlan_inherits hC hsplit hwritten _) fun drafted => hC.pure _
  unfold ofPlan
  by_cases hname : (!Text.isIdentifier name) = true
  · simp only [hname, if_true]
    exact hC.bind hrefused fun _ => hdraft
  · simp only [hname]
    exact hdraft

end Plans

end Factory

namespace FactoryModule

variable {split : Factory.Splitter}

lemma factoryTexts_inherits (hC : Run.Composes C) {plans : List (Text × Plan)}
    (hrefused : ∀ name, C (Run.mismatched (.factoryName name) : Run PUnit))
    (hsplit : ∀ e ∈ plans, split.Answers C e.2.mentions)
    (hwritten : ∀ e ∈ plans, Run.Bears C (planWritten e.2)) : C (factoryTexts split plans) := by
  induction plans with
  | nil => exact hC.pure []
  | cons e rest ih =>
    obtain ⟨hfirst, hsplits⟩ := List.forall_mem_cons.1 hsplit
    obtain ⟨hone, hall⟩ := List.forall_mem_cons.1 hwritten
    refine hC.bind (Factory.ofPlan_inherits hC e.1 (hrefused e.1) hfirst hone) fun _ => ?_
    exact hC.bind (ih hsplits hall) fun _ => hC.pure _

/-- What holds of every answer of the splitter holds of the text of a module of factories. -/
theorem text_inherited (hC : Run.Inherited C) (hsplit : ∀ path, C (split path))
    (compiled : CompiledEntries) : C (text split compiled) := by
  have hlabels : C (Run.ofExcept ((compiled.map Prod.fst).mapM Factory.label)) := by
    unfold Run.ofExcept
    split
    · exact hC.pure _
    · exact hC.fail _
  have hfactories : ∀ plans, C (factoryTexts split plans) := fun plans =>
    factoryTexts_inherits hC.composes (fun _ => hC.fail _) (fun _ _ path _ => hsplit path)
      fun _ _ _ => hC.fail _
  exact hC.bind hlabels fun labels => hC.bind (hfactories _) fun factories => hC.pure _

end FactoryModule

end Blueprint
