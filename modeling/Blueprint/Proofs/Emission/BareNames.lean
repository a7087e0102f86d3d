/-
# Where the names in a factory come from

A factory of a plan that was compiled writes names of classes, fields, methods and arguments.  This
file follows each of them back to a definition, or to a key of a dictionary, that is reached when
the plan is compiled (`Registry.Says`).  A field is written in quotes where it is no identifier; no
other name is looked at.  So the names that are written as they are can be written exactly if those
that the definitions and declarations give are identifiers that are not taken
(`Factory.compiled_written`).
-/
import Blueprint.Proofs.Derivation
import Blueprint.Proofs.Emission.Uses

namespace Blueprint

/-! ## What calls and collections write -/

namespace Value

variable {w : Written} {items : List Value} {entries : List (Value × Value)}

lemma mem_written_items :
    w ∈ (itemUses items).flatten.flatMap Use.written ↔ ∃ v ∈ items, w ∈ v.written := by
  induction items with
  | nil => simp [itemUses]
  | cons v rest ih =>
    rw [itemUses, List.flatten_cons, List.flatMap_append, List.mem_append, ih]
    simp only [List.mem_cons, exists_eq_or_imp]
    rfl

lemma mem_written_list : w ∈ (Value.list items).written ↔ ∃ v ∈ items, w ∈ v.written := by
  rw [written, uses]
  exact mem_written_items

lemma mem_written_tuple : w ∈ (Value.tuple items).written ↔ ∃ v ∈ items, w ∈ v.written := by
  rw [written, uses]
  exact mem_written_items

lemma mem_written_dict :
    w ∈ (Value.dict entries).written ↔ ∃ e ∈ entries, w ∈ e.1.written ∨ w ∈ e.2.written := by
  rw [written, uses]
  induction entries with
  | nil => simp [entryUses]
  | cons e rest ih =>
    rw [entryUses, List.flatMap_append, List.flatMap_append, List.mem_append, List.mem_append, ih,
      ← or_assoc]
    simp only [List.mem_cons, exists_eq_or_imp]
    rfl

lemma written_literal {v : Value} (h : v.isLiteral = true) : v.written = [] := by
  cases v with
  | float x =>
    rw [written, uses]
    split <;> rfl
  | derived form literal =>
    cases literal with
    | float x =>
      rw [written, uses]
      split <;> rfl
    | int | str | bytes => simp [written, uses]
  | null | bool | int | str | bytes => simp [written, uses]
  | _ => exact absurd h Bool.false_ne_true

end Value

section Calls

variable {arguments : List Value} {keywords : List Text} {w : Written}

/-- A call writes nothing but what its arguments write, and their names. -/
lemma of_mem_callUses (h : w ∈ (callUses (itemUses arguments) keywords).flatMap Use.written) :
    (∃ v ∈ arguments, w ∈ v.written) ∨ ∃ k ∈ keywords, w = .bare k := by
  rw [callUses_itemUses, List.flatMap_append, List.mem_append] at h
  rcases h with h | h
  · rw [← itemUses_eq_map, Value.mem_written_items] at h
    obtain ⟨v, hv, h⟩ := h
    exact .inl ⟨v, mem_of_mem_splitArguments (.inl hv), h⟩
  · obtain ⟨u, hu, h⟩ := List.mem_flatMap.1 h
    obtain ⟨e, he, hu⟩ := List.mem_flatMap.1 hu
    rcases List.mem_cons.1 hu with rfl | hu
    · refine .inr ⟨e.1, ?_, List.mem_singleton.1 h⟩
      unfold splitArguments at he
      split at he
      · exact absurd he List.not_mem_nil
      · obtain ⟨pair, hpair, hkey⟩ := List.mem_map.1 (Entries.mem_ofList he).1
        rw [← hkey]
        exact (List.of_mem_zip hpair).1
    · exact .inl ⟨e.2, mem_of_mem_splitArguments (.inr ⟨e, he, rfl⟩),
        List.mem_flatMap.2 ⟨u, hu, h⟩⟩

/-- With different names, and no more of them than arguments, a call writes all of that. -/
lemma mem_callUses_iff (hnodup : keywords.Nodup) (hlength : keywords.length ≤ arguments.length) :
    w ∈ (callUses (itemUses arguments) keywords).flatMap Use.written ↔
      (∃ v ∈ arguments, w ∈ v.written) ∨ ∃ k ∈ keywords, w = .bare k := by
  refine ⟨of_mem_callUses, fun h => ?_⟩
  have hcount : keywords.length ≤ (itemUses arguments).length := by
    rw [itemUses_eq_map, List.length_map]
    exact hlength
  have hlast : ((itemUses arguments).drop
      ((itemUses arguments).length - keywords.length)).length = keywords.length := by
    rw [List.length_drop]
    omega
  rw [callUses, splitArguments_eq hnodup hcount, List.flatMap_append, List.mem_append]
  rcases h with ⟨v, hv, h⟩ | ⟨k, hk, rfl⟩
  · have huses : v.uses ∈ itemUses arguments := by
      rw [itemUses_eq_map]
      exact List.mem_map_of_mem hv
    rw [← List.take_append_drop ((itemUses arguments).length - keywords.length)
      (itemUses arguments), List.mem_append] at huses
    obtain ⟨u, hu, hw⟩ := List.mem_flatMap.1 h
    rcases huses with huses | huses
    · exact .inl (List.mem_flatMap.2 ⟨u, List.mem_flatten.2 ⟨_, huses, hu⟩, hw⟩)
    · have hsnd := List.map_snd_zip (Nat.le_of_eq hlast)
      rw [← hsnd] at huses
      obtain ⟨e, he, hue⟩ := List.mem_map.1 huses
      refine .inr (List.mem_flatMap.2 ⟨u, List.mem_flatMap.2 ⟨e, he, ?_⟩, hw⟩)
      rw [hue]
      exact List.mem_cons_of_mem _ hu
  · rw [← List.map_fst_zip (Nat.le_of_eq hlast.symm)] at hk
    obtain ⟨e, he, rfl⟩ := List.mem_map.1 hk
    exact .inr (List.mem_flatMap.2 ⟨.keyword e.1, List.mem_flatMap.2 ⟨e, he, List.mem_cons_self⟩,
      List.mem_singleton.2 rfl⟩)

end Calls

/-! ## What plans of definitions write -/

/-- A field as it is written where it is assigned. -/
def FieldBinding.written (b : FieldBinding) : Written :=
  if Text.isIdentifier b.field then .bare b.field else .quoted b.field

/-- Calls of methods write what their arguments write, and the name of the method. -/
lemma mem_written_invocations {w : Written} (xs : List Invocation) :
    w ∈ (stepUses (xs.map Invocation.step)).flatMap Use.written ↔
      ∃ x ∈ xs, w ∈ (callUses (itemUses (x.arguments.map Compiled.operand))
        x.callable.keywords).flatMap Use.written ∨ w = .bare x.binding.method := by
  induction xs with
  | nil => simp [stepUses]
  | cons x rest ih =>
    rw [List.map_cons, Invocation.step, stepUses, List.flatMap_append, List.mem_append,
      List.flatMap_cons, List.mem_append, ih, ← or_assoc, Use.written, List.mem_singleton]
    simp only [List.mem_cons, exists_eq_or_imp]

/-- Assignments write what their values write, and the name of the field. -/
lemma mem_written_assignments {w : Written} (xs : List Assignment) (rest : Plan) :
    w ∈ (stepUses (xs.map Assignment.step ++ rest)).flatMap Use.written ↔
      (∃ x ∈ xs, w ∈ x.compiled.operand.written ∨ w = x.binding.written) ∨
        w ∈ (stepUses rest).flatMap Use.written := by
  induction xs with
  | nil => simp
  | cons x more ih =>
    rw [List.map_cons, List.cons_append, Assignment.step, stepUses, List.flatMap_append,
      List.mem_append, List.flatMap_cons, List.mem_append, ih, ← or_assoc, Use.written,
      List.mem_singleton, ← or_assoc]
    simp only [List.mem_cons, exists_eq_or_imp]
    rfl

/-- The plan of a worksheet writes the parts of the class path, and what its calls and assignments
write. -/
lemma Worksheet.mem_written_plan {sheet : Worksheet} {w : Written} :
    w ∈ (stepUses sheet.plan).flatMap Use.written ↔
      ((∃ part ∈ classPath sheet.definition.className, .bare part = w) ∨
        w ∈ (callUses (itemUses (sheet.arguments.map Compiled.operand))
          (keywordsOf sheet.callable)).flatMap Use.written) ∨
      (∃ x ∈ sheet.assignments, w ∈ x.compiled.operand.written ∨ w = x.binding.written) ∨
      ∃ x ∈ sheet.invocations, w ∈ (callUses (itemUses (x.arguments.map Compiled.operand))
        x.callable.keywords).flatMap Use.written ∨ w = .bare x.binding.method := by
  -- a placeholder writes no name of its own
  have heager : w ∈ (stepUses sheet.plan).flatMap Use.written ↔
      w ∈ (stepUses sheet.eager).flatMap Use.written := by
    rw [plan]
    split
    · simp [stepUses, Use.written]
    · rfl
  rw [heager, eager, stepUses, List.flatMap_cons, List.mem_append, List.flatMap_append,
    List.mem_append, steps, mem_written_assignments, mem_written_invocations, Use.written,
    List.mem_map, ← or_assoc]

namespace Registry

variable {registry : Registry}

/-- A value names something that is written where it is compiled: a definition the parts of its
class path, its fields, its methods and the parameters that are passed by name only; a dictionary
what is in its keys, as they are not compiled. -/
inductive Says (registry : Registry) : Value → Written → Prop where
  | path {e : Definition} {part : Text} (h : part ∈ classPath e.className) :
      Says registry (.definition e) (.bare part)
  | field {e : Definition} {b : FieldBinding} (hb : b ∈ e.fields) :
      Says registry (.definition e) b.written
  | method {e : Definition} {b : Binding} (hb : b ∈ e.methods) :
      Says registry (.definition e) (.bare b.method)
  | keyword {e : Definition} {b : Option Binding} {c : Callable} {k : Text}
      (hc : registry.Calls e b c) (hk : k ∈ c.keywords) : Says registry (.definition e) (.bare k)
  | key {entries : List (Value × Value)} {e : Value × Value} {w : Written} (he : e ∈ entries)
      (hw : w ∈ e.1.written) : Says registry (.dict entries) w

/-- No callable that is reached takes two parameters by one name. -/
def NamesApart (registry : Registry) (v : Value) : Prop :=
  ∀ e b c, registry.Reaches v (.definition e) → registry.Calls e b c → c.keywords.Nodup

section Sheet

variable {schema : TypeSchema} {sheet : Worksheet} {w : Written}

/-- A call writes what was compiled for it writes, and the names of arguments that the callable
takes. -/
lemma says_of_written_call {b : Option Binding} {callable : Option Callable} {xs : List Compiled}
    (hcallable : ∀ c, callable = some c → registry.Calls sheet.definition b c)
    (hxs : ∀ x ∈ xs, x ∈ sheet.compiled)
    (hw : w ∈ (callUses (itemUses (xs.map Compiled.operand)) (keywordsOf callable)).flatMap
      Use.written) :
    registry.Says (.definition sheet.definition) w ∨
      ∃ c ∈ sheet.compiled, w ∈ c.operand.written := by
  rcases of_mem_callUses hw with ⟨v, hv, hw⟩ | ⟨k, hk, rfl⟩
  · obtain ⟨x, hx, rfl⟩ := List.mem_map.1 hv
    exact .inr ⟨x, hxs x hx, hw⟩
  · rcases callable with _ | c
    · exact absurd hk List.not_mem_nil
    · exact .inl (.keyword (hcallable c rfl) hk)

/-- The plan of a worksheet writes what its definition names, and what was compiled for it
writes. -/
lemma Prepares.says_of_written (h : registry.Prepares schema sheet) {className : Text}
    (hw : w ∈ (Value.nested className sheet.plan).written) :
    registry.Says (.definition sheet.definition) w ∨
      ∃ c ∈ sheet.compiled, w ∈ c.operand.written := by
  rw [Value.written, Value.uses, List.flatMap_cons, List.flatMap_cons] at hw
  rcases Worksheet.mem_written_plan.1 hw with
    (⟨part, hpart, rfl⟩ | hw) | ⟨x, hx, hw | rfl⟩ | ⟨x, hx, hw | rfl⟩
  -- the path of the class, and the call of the constructor
  · exact .inl (.path hpart)
  · exact says_of_written_call (fun _ => h.calls_construct)
      (fun _ => Worksheet.mem_compiled_of_argument) hw
  -- an assignment: its value, and its field
  · exact .inr ⟨x.compiled, Worksheet.mem_compiled_of_assignment hx, hw⟩
  · exact .inl (.field (h.mem_fields hx))
  -- the call of a method: its arguments, and its name
  · have hcallable : ∀ c, some x.callable = some c →
        registry.Calls sheet.definition (some x.binding) c := by
      intro c hc
      obtain rfl := Option.some.inj hc
      exact h.calls_invoke hx
    exact says_of_written_call hcallable (fun _ => Worksheet.mem_compiled_of_invocation hx) hw
  · exact .inl (.method (h.mem_methods hx))

/-- A call writes what its arguments write, and the names of those that are passed by name. -/
lemma mem_written_call {b : Option Binding} {c : Callable} {xs : List Compiled}
    (hsupplies : Supplies b (some c) xs) (hapart : c.keywords.Nodup)
    (hw : (∃ x ∈ xs, w ∈ x.operand.written) ∨ ∃ k ∈ c.keywords, w = .bare k) :
    w ∈ (callUses (itemUses (xs.map Compiled.operand)) c.keywords).flatMap Use.written := by
  have hlength : c.keywords.length ≤ (xs.map Compiled.operand).length := by
    cases hsupplies with
    | call length =>
      rw [List.length_map, length, Callable.keywords, List.length_map]
      exact List.length_filter_le _ _
  refine (mem_callUses_iff hapart hlength).2 (hw.imp_left ?_)
  rintro ⟨x, hx, hw⟩
  exact ⟨x.operand, List.mem_map_of_mem hx, hw⟩

section Apart

variable (h : registry.Prepares schema sheet)
  (hapart : ∀ b c, registry.Calls sheet.definition b c → c.keywords.Nodup)

include h hapart

lemma Prepares.mem_written_construct {c : Callable} (hc : sheet.callable = some c)
    (hw : (∃ x ∈ sheet.arguments, w ∈ x.operand.written) ∨ ∃ k ∈ c.keywords, w = .bare k) :
    w ∈ (callUses (itemUses (sheet.arguments.map Compiled.operand))
      (keywordsOf sheet.callable)).flatMap Use.written := by
  have hsupplies := h.arguments
  rw [hc] at hsupplies ⊢
  exact mem_written_call hsupplies (hapart _ c (h.calls_construct hc)) hw

lemma Prepares.mem_written_invoke {x : Invocation} (hx : x ∈ sheet.invocations)
    (hw : (∃ y ∈ x.arguments, w ∈ y.operand.written) ∨ ∃ k ∈ x.callable.keywords, w = .bare k) :
    w ∈ (callUses (itemUses (x.arguments.map Compiled.operand))
      x.callable.keywords).flatMap Use.written :=
  mem_written_call (h.supplies x hx) (hapart _ x.callable (h.calls_invoke hx)) hw

/-- Where names keep the parameters of each callable apart, the plan of a worksheet writes what its
definition names. -/
lemma Prepares.written_of_says (hw : registry.Says (.definition sheet.definition) w)
    (className : Text) : w ∈ (Value.nested className sheet.plan).written := by
  rw [Value.written, Value.uses, List.flatMap_cons, List.flatMap_cons]
  refine Worksheet.mem_written_plan.2 ?_
  cases hw with
  | path hpart => exact .inl (.inl ⟨_, hpart, rfl⟩)
  | field hb =>
    rw [← h.fields] at hb
    obtain ⟨x, hx, rfl⟩ := List.mem_map.1 hb
    exact .inr (.inl ⟨x, hx, .inr rfl⟩)
  | method hb =>
    rw [← h.methods] at hb
    obtain ⟨x, hx, rfl⟩ := List.mem_map.1 hb
    exact .inr (.inr ⟨x, hx, .inr rfl⟩)
  | @keyword _ b c k hc hk =>
    cases hc with
    | construct hd hc =>
      obtain rfl := Option.some.inj (hd.symm.trans h.fits.instantiates.1)
      have hcallable := h.callable.trans hc
      exact .inl (.inr (h.mem_written_construct hapart hcallable (.inr ⟨k, hk, rfl⟩)))
    | invoke hd hb hc =>
      obtain rfl := Option.some.inj (hd.symm.trans h.fits.instantiates.1)
      rw [← h.methods] at hb
      obtain ⟨x, hx, rfl⟩ := List.mem_map.1 hb
      obtain rfl := Option.some.inj (hc.symm.trans (h.callables x hx))
      exact .inr (.inr ⟨x, hx, .inl (h.mem_written_invoke hapart hx (.inr ⟨k, hk, rfl⟩))⟩)

/-- It also writes what was compiled for it writes. -/
lemma Prepares.written_of_compiled {c : Compiled} (hc : c ∈ sheet.compiled)
    (hw : w ∈ c.operand.written) (className : Text) :
    w ∈ (Value.nested className sheet.plan).written := by
  rw [Value.written, Value.uses, List.flatMap_cons, List.flatMap_cons]
  refine Worksheet.mem_written_plan.2 ?_
  rw [Worksheet.compiled, List.mem_append, List.mem_append] at hc
  rcases hc with hc | hc | hc
  · obtain ⟨callable, _, hcallable, -, -⟩ := h.arguments.passes_of_mem hc
    exact .inl (.inr (h.mem_written_construct hapart hcallable (.inl ⟨c, hc, hw⟩)))
  · obtain ⟨x, hx, rfl⟩ := List.mem_map.1 hc
    exact .inr (.inl ⟨x, hx, .inl hw⟩)
  · obtain ⟨x, hx, hc⟩ := List.mem_flatMap.1 hc
    exact .inr (.inr ⟨x, hx, .inl (h.mem_written_invoke hapart hx (.inl ⟨c, hc, hw⟩))⟩)

end Apart

end Sheet

/-- What an operand writes is named by something that was reached on the way to it. -/
theorem Derives.says_of_written {c : Compiled} (h : registry.Derives c) {w : Written}
    (hw : w ∈ c.operand.written) : ∃ u, registry.Reaches c.value u ∧ registry.Says u w := by
  induction h with
  | literal hl =>
    rw [Value.written_literal hl] at hw
    exact absurd hw List.not_mem_nil
  | reference entry =>
    rw [Value.written, Value.uses] at hw
    exact absurd hw List.not_mem_nil
  | list _ ih =>
    obtain ⟨v, hv, hw⟩ := Value.mem_written_list.1 hw
    obtain ⟨c, hc, rfl⟩ := List.mem_map.1 hv
    obtain ⟨u, hr, hu⟩ := ih c hc hw
    exact ⟨u, .list (List.mem_map_of_mem hc) hr, hu⟩
  | tuple _ ih =>
    obtain ⟨v, hv, hw⟩ := Value.mem_written_tuple.1 hw
    obtain ⟨c, hc, rfl⟩ := List.mem_map.1 hv
    obtain ⟨u, hr, hu⟩ := ih c hc hw
    exact ⟨u, .tuple (List.mem_map_of_mem hc) hr, hu⟩
  | @dict entries _ ih =>
    obtain ⟨_, he, hw⟩ := Value.mem_written_dict.1 hw
    obtain ⟨x, hx, rfl⟩ := List.mem_map.1 he
    have hmem : (x.1, x.2.value) ∈ entries.map fun e => (e.1, e.2.value) :=
      List.mem_map.2 ⟨x, hx, rfl⟩
    rcases hw with hw | hw
    · exact ⟨_, .refl _, .key hmem hw⟩
    · obtain ⟨u, hr, hu⟩ := ih x hx hw
      exact ⟨u, .dict hmem hr, hu⟩
  | definition hsheet _ ih =>
    rcases hsheet.says_of_written hw with hu | ⟨c, hc, hw⟩
    · exact ⟨_, .refl _, hu⟩
    · obtain ⟨u, hr, hu⟩ := ih c hc hw
      exact ⟨u, hsheet.reaches_of_mem hc hr, hu⟩

/-- Nothing that is named is left out, where names keep the parameters of each callable apart. -/
theorem Derives.written_of_says {c : Compiled} (h : registry.Derives c)
    (hapart : registry.NamesApart c.value) {u : Value} {w : Written}
    (hr : registry.Reaches c.value u) (hu : registry.Says u w) : w ∈ c.operand.written := by
  induction h with
  | literal hl =>
    cases hr with
    | refl => cases hu <;> exact absurd hl (by simp [Value.isLiteral])
    | _ => exact absurd hl (by simp [Value.isLiteral])
  | reference entry =>
    cases hr with
    | refl => cases hu
  | list _ ih =>
    cases hr with
    | refl => cases hu
    | list hv hr =>
      obtain ⟨c, hc, rfl⟩ := List.mem_map.1 hv
      refine Value.mem_written_list.2 ⟨c.operand, List.mem_map_of_mem hc, ih c hc ?_ hr⟩
      exact fun e b callable he => hapart e b callable (.list hv he)
  | tuple _ ih =>
    cases hr with
    | refl => cases hu
    | tuple hv hr =>
      obtain ⟨c, hc, rfl⟩ := List.mem_map.1 hv
      refine Value.mem_written_tuple.2 ⟨c.operand, List.mem_map_of_mem hc, ih c hc ?_ hr⟩
      exact fun e b callable he => hapart e b callable (.tuple hv he)
  | @dict entries _ ih =>
    cases hr with
    | refl =>
      cases hu with
      | key he hw =>
        obtain ⟨x, hx, rfl⟩ := List.mem_map.1 he
        exact Value.mem_written_dict.2 ⟨_, List.mem_map.2 ⟨x, hx, rfl⟩, .inl hw⟩
    | dict he hr =>
      obtain ⟨x, hx, rfl⟩ := List.mem_map.1 he
      refine Value.mem_written_dict.2 ⟨_, List.mem_map.2 ⟨x, hx, rfl⟩, .inr (ih x hx ?_ hr)⟩
      exact fun e b callable hreach => hapart e b callable (.dict he hreach)
  | @definition sheet schema hsheet _ ih =>
    have hcalls : ∀ b callable, registry.Calls sheet.definition b callable →
        callable.keywords.Nodup := fun b callable => hapart _ b callable (.refl _)
    cases hr with
    | refl => exact hsheet.written_of_says hcalls hu _
    | operand hd hs hr =>
      obtain rfl := Option.some.inj (hd.symm.trans hsheet.fits.instantiates.1)
      obtain ⟨c, hc, hv⟩ := hsheet.mem_of_operand hs
      rw [← hv] at hr
      refine hsheet.written_of_compiled hcalls hc (ih c hc ?_ hr) _
      exact fun e b callable he => hapart e b callable (hsheet.reaches_of_mem hc he)

end Registry

/-! ## Factories of compiled plans -/

namespace Factory

open Registry

/-- A name is quoted only if it is no identifier. -/
lemma not_isIdentifier_of_quoted {us : List Use} {field : Text}
    (h : .quoted field ∈ us.flatMap Use.written) : Text.isIdentifier field = false := by
  obtain ⟨u, -, h⟩ := List.mem_flatMap.1 h
  cases u with
  | path =>
    obtain ⟨_, _, h⟩ := List.mem_map.1 h
    exact absurd h (by simp)
  | field name =>
    rw [Use.written, List.mem_singleton] at h
    split at h
    · exact absurd h (by simp)
    · obtain rfl := Written.quoted.inj h
      rwa [← Bool.not_eq_true]
  | method | keyword => exact absurd (List.mem_singleton.1 h) (by simp)
  | fresh | double | container | proxyFactory => exact absurd h List.not_mem_nil

variable {registry : Registry} {d : Definition} {plan : Plan} {entry entry' : Option Value}
  {world world' : World} {name : Text} {f : Factory}

/-- The names that the factory of a compiled plan writes are those of the plan.  Each of them is
named by a definition or a key that was reached, and a field is quoted only if it is no identifier.
Where names keep the parameters of each callable apart, all that is named is written; and the names
that are not quoted can be written exactly if those that are named are identifiers that are not
taken. -/
theorem compiled_written (catalog : Catalog)
    (hplan : (compile registry.introspector d entry world).1 = .ok plan)
    (h : (ofPlan catalog.split name plan entry' world').1 = .ok f) :
    (∀ w, w ∈ f.written ↔ w ∈ plan.written) ∧
      (∀ w ∈ f.written, ∃ u, registry.Reaches (.definition d) u ∧ registry.Says u w) ∧
      (∀ field, .quoted field ∈ f.written → Text.isIdentifier field = false) ∧
      (registry.NamesApart (.definition d) →
        (∀ u w, registry.Reaches (.definition d) u → registry.Says u w → w ∈ f.written) ∧
        ((∀ n, .bare n ∈ f.written → Script.IsBareName n) ↔
          ∀ u n, registry.Reaches (.definition d) u → registry.Says u (.bare n) →
            Script.IsBareName n)) := by
  obtain ⟨-, -, hwritten⟩ := ofPlan_reflects catalog.split_isCutting h
  obtain ⟨ws, hderives⟩ := (compile_tells registry d).exists_of_ok hplan
  -- the plan is that of an object in its place, which only adds a function to return it
  have hnested : ∀ w, w ∈ plan.written ↔ w ∈ (Value.nested d.className plan).written := by
    intro w
    rw [Plan.written, Plan.uses, Value.written, Value.uses]
    exact Iff.rfl
  have hsays : ∀ w ∈ f.written, ∃ u, registry.Reaches (.definition d) u ∧ registry.Says u w :=
    fun w hw => hderives.says_of_written ((hnested w).1 ((hwritten w).1 hw))
  refine ⟨hwritten, hsays, ?_, fun hapart => ?_⟩
  · exact fun field hfield => not_isIdentifier_of_quoted ((hwritten _).1 hfield)
  · have hall : ∀ u w, registry.Reaches (.definition d) u → registry.Says u w → w ∈ f.written :=
      fun u w hr hu => (hwritten w).2 ((hnested w).2 (hderives.written_of_says hapart hr hu))
    refine ⟨hall, fun hbare u n hr hu => hbare n (hall u _ hr hu), fun hnamed n hn => ?_⟩
    obtain ⟨u, hr, hu⟩ := hsays _ hn
    exact hnamed u n hr hu

/-- A registry of a class with a field that is called like a keyword of the language. -/
def keywordRegistry : Registry :=
  ⟨[{ name := "app.A", isInstantiable := true, constructor := none, methods := [],
      fields := [("class", ⟨"class", "app.A", true, true⟩)] }]⟩

/-- A definition that assigns the field. -/
def keywordField : Definition :=
  { name := .str "a", className := "app.A", isLazy := false, constructor := none,
    fields := [⟨"class", .int 1, .null⟩], methods := [] }

/-- Its factory. -/
def keywordFactory : Factory where
  name := "build_a"
  imports := ["app"]
  body :=
    [.bind ⟨.object, 1⟩ ⟨.member "app" "A", [], []⟩,
      .assign ⟨.object, 1⟩ "class" (.constant (.int 1)), .result ⟨.object, 1⟩]

/-- The field is written as it is, as the definition names it, and cannot be. -/
theorem keywordFactory_written :
    ∃ plan, (compile keywordRegistry.introspector keywordField none {}).1 = .ok plan ∧
      (ofPlan (Catalog.split ⟨[]⟩) "build_a" plan none {}).1 = .ok keywordFactory ∧
      .bare "class" ∈ keywordFactory.written ∧ ¬ Script.IsBareName "class" ∧
      ∃ u, keywordRegistry.Reaches (.definition keywordField) u ∧
        keywordRegistry.Says u (.bare "class") := by
  have hplan : (compile keywordRegistry.introspector keywordField none {}).1 =
      .ok [.construct "app.A" [] [], .assign "class" (.int 1)] := rfl
  have hdrafted : (ofPlan (Catalog.split ⟨[]⟩) "build_a"
      [.construct "app.A" [] [], .assign "class" (.int 1)] none {}).1 = .ok keywordFactory := rfl
  obtain ⟨-, hsays, -⟩ := compiled_written ⟨[]⟩ hplan hdrafted
  have hwritten : .bare "class" ∈ keywordFactory.written := by
    simp only [written, keywordFactory, blockWritten]
    decide
  exact ⟨_, hplan, hdrafted, hwritten, by decide, hsays _ hwritten⟩

end Factory

end Blueprint
