/-
# Ordered signatures

A call passes its arguments in order first and by name last.  This works out because of how
parameters are declared: those that are passed by name only come last, and under different names.
Whatever happens to a signature on its way to a call keeps it so: a function is bound, its variadic
parameters are passed over, and the fields of a data class are put in the order in which its
constructor takes them.
-/
import Blueprint.Catalog.Dataclass
import Blueprint.Catalog.Module
import Blueprint.Proofs.Delivery
import Blueprint.Proofs.Entries

namespace Blueprint.Catalog

/-! ## Signatures -/

/-- One parameter of a function may stand before another: after one that is passed by name only
there are none that are passed in order, and none of the same name that is passed by name only. -/
def Formal.Precedes (p q : Formal) : Prop :=
  p.kind = .keywordOnly →
    Signature.isInOrder q = false ∧ (q.kind = .keywordOnly → q.name ≠ p.name)

instance : DecidableRel Formal.Precedes :=
  fun _ _ => inferInstanceAs (Decidable (_ → _))

namespace Signature

/-- What is passed by name only comes after what is passed in order, under different names. -/
def IsOrdered (formals : Signature) : Prop :=
  formals.Pairwise Formal.Precedes

instance : DecidablePred IsOrdered :=
  fun formals => inferInstanceAs (Decidable (List.Pairwise _ formals))

/-- The parameters have different names, and what is passed by name only comes after what is passed
in order. -/
def IsLegal (formals : Signature) : Prop :=
  formals.Pairwise fun p q => p.name ≠ q.name ∧ (p.kind = .keywordOnly → isInOrder q = false)

instance : DecidablePred IsLegal :=
  fun formals => inferInstanceAs (Decidable (List.Pairwise _ formals))

variable {formals rest : Signature}

lemma IsLegal.isOrdered (h : formals.IsLegal) : formals.IsOrdered :=
  List.Pairwise.imp (fun hpq hp => ⟨hpq.2 hp, fun _ => hpq.1.symm⟩) h

/-- Binding a function takes its first parameter, or none. -/
lemma bind_eq_ok (h : formals.bind = .ok rest) : rest = formals ∨ ∃ p, formals = p :: rest := by
  rcases formals with _ | ⟨p, more⟩
  · exact absurd h (by simp [Signature.bind])
  · cases hp : p.kind <;> simp only [Signature.bind, hp] at h
    · exact .inr ⟨p, by rw [Except.ok.inj h]⟩
    · exact .inr ⟨p, by rw [Except.ok.inj h]⟩
    · exact .inl (Except.ok.inj h).symm
    · exact absurd h (by simp)
    · exact absurd h (by simp)

lemma IsOrdered.bind (h : formals.IsOrdered) (hb : formals.bind = .ok rest) :
    rest.IsOrdered := by
  rcases bind_eq_ok hb with rfl | ⟨p, rfl⟩
  · exact h
  · exact (List.pairwise_cons.1 h).2

lemma IsOrdered.drop (h : formals.IsOrdered) (n : Nat) : Signature.IsOrdered (formals.drop n) :=
  List.Pairwise.sublist (List.drop_sublist n formals) h

lemma IsOrdered.of_ok (h : formals.IsOrdered)
    (hr : (.ok formals : Except Unreadable Signature) = .ok rest) : rest.IsOrdered :=
  Except.ok.inj hr ▸ h

/-- The parameters of a call of an ordered signature are ordered. -/
lemma IsOrdered.parameters (h : formals.IsOrdered) (name : Text) (isBuiltin : Bool) :
    Callable.IsOrdered ⟨name, formals.parameters isBuiltin⟩ := by
  rw [Callable.IsOrdered, Signature.parameters, List.pairwise_map, List.pairwise_filter]
  refine List.Pairwise.imp ?_ h
  intro p q hpq hp hq hkeyword
  have hpk : p.kind = .keywordOnly := by simpa using hkeyword
  obtain ⟨horder, hname⟩ := hpq hpk
  -- of the parameters that take a single argument only those by name are not passed in order
  have hqk : q.kind = .keywordOnly := by
    cases hk : q.kind <;> simp_all [isSingle, isInOrder]
  exact ⟨by simp [hqk], hname hqk⟩

/-- A parameter that takes no single argument is no parameter of a call. -/
lemma parameters_cons_of_not_single {p : Formal} (h : isSingle p = false) (formals : Signature)
    (isBuiltin : Bool) :
    Signature.parameters isBuiltin (p :: formals) = formals.parameters isBuiltin := by
  rw [Signature.parameters, List.filter_cons_of_neg (by simp [h])]
  rfl

/-- Taking off the first parameter is as good as binding, as long as there is something to bind. -/
lemma parameters_drop (h : formals.bind = .ok rest) (isBuiltin : Bool) :
    Signature.parameters isBuiltin (formals.drop 1) = rest.parameters isBuiltin := by
  rcases formals with _ | ⟨p, more⟩
  · exact absurd h (by simp [Signature.bind])
  · cases hp : p.kind <;> simp only [Signature.bind, hp] at h
    · rw [← Except.ok.inj h, List.drop_one, List.tail_cons]
    · rw [← Except.ok.inj h, List.drop_one, List.tail_cons]
    · -- a parameter for surplus arguments stays when it is bound, and takes no single one
      rw [← Except.ok.inj h, List.drop_one, List.tail_cons]
      exact (parameters_cons_of_not_single (by simp [isSingle, hp]) _ _).symm
    · exact absurd h (by simp)
    · exact absurd h (by simp)

end Signature

/-! ## Constructors of data classes -/

/-- The names of fields. -/
def fieldNames (fields : List DataField) : List Text :=
  fields.map DataField.name

lemma dataConstructor_isOrdered {fields : List DataField} (h : (fieldNames fields).Nodup) :
    (dataConstructor fields).IsOrdered := by
  have hnames : fields.Pairwise fun f g => f.name ≠ g.name := List.pairwise_map.1 h
  refine List.pairwise_cons.2 ⟨fun q _ hkind => absurd hkind (by decide), ?_⟩
  refine List.pairwise_append.2 ⟨?_, ?_, ?_⟩
  · refine List.pairwise_map.2 (List.Pairwise.imp ?_ (hnames.filter _))
    intro f g _ hkind
    exact absurd hkind (by simp)
  · refine List.pairwise_map.2 (List.Pairwise.imp ?_ (hnames.filter _))
    intro f g hfg _
    exact ⟨rfl, fun _ => hfg.symm⟩
  · intro p hp q _ hkind
    obtain ⟨f, -, rfl⟩ := List.mem_map.1 hp
    exact absurd hkind (by simp)

/-- A table of fields holds every field under its name, and under different names. -/
def FieldTable (table : List (Text × DataField)) : Prop :=
  (∀ e ∈ table, e.2.name = e.1) ∧ (Entries.keys table).Nodup

lemma FieldTable.names {table : List (Text × DataField)} (h : FieldTable table) :
    fieldNames (table.map Prod.snd) = Entries.keys table := by
  rw [fieldNames, List.map_map]
  exact List.map_congr_left h.1

lemma forall_put_name {table : List (Text × DataField)} (h : ∀ e ∈ table, e.2.name = e.1)
    (f : DataField) : ∀ e ∈ Entries.put f.name f table, e.2.name = e.1 := by
  induction table with
  | nil => simp [Entries.put]
  | cons first rest ih =>
    obtain ⟨k, g⟩ := first
    obtain ⟨hfirst, hrest⟩ := List.forall_mem_cons.1 h
    rw [Entries.put]
    by_cases hk : k = f.name
    · rw [if_pos (by simpa using hk)]
      exact List.forall_mem_cons.2 ⟨hk.symm, hrest⟩
    · rw [if_neg (by simpa using hk)]
      exact List.forall_mem_cons.2 ⟨hfirst, ih hrest⟩

lemma FieldTable.put {table : List (Text × DataField)} (h : FieldTable table) (f : DataField) :
    FieldTable (Entries.put f.name f table) := by
  obtain ⟨hnames, hnodup⟩ := h
  refine ⟨forall_put_name hnames f, ?_⟩
  rw [Entries.keys_put]
  split
  · exact hnodup
  · rename_i hnew
    refine List.nodup_append.2 ⟨hnodup, by simp, ?_⟩
    rintro key hkey _ hname rfl
    exact hnew (List.mem_singleton.1 hname ▸ hkey)

lemma FieldTable.putAll {table : List (Text × DataField)} (h : FieldTable table)
    (more : List DataField) :
    FieldTable (more.foldl (fun table f => Entries.put f.name f table) table) := by
  induction more generalizing table with
  | nil => exact h
  | cons f rest ih => exact ih (h.put f)

/-- Putting fields by their names keeps the names different. -/
lemma putFields_nodup {fields : List DataField} (h : (fieldNames fields).Nodup)
    (more : List DataField) : (fieldNames (putFields fields more)).Nodup := by
  have hstart : FieldTable (fields.map fun f => (f.name, f)) := by
    refine ⟨by simp, ?_⟩
    rw [Entries.keys, List.map_map]
    exact h
  have hresult := hstart.putAll more
  rw [putFields, hresult.names]
  exact hresult.2

lemma putLayers_nodup {fields : List DataField} (h : (fieldNames fields).Nodup)
    (layers : List Layer) :
    (fieldNames (layers.foldl (fun fields l => putFields fields (l.dataFields.getD []))
      fields)).Nodup := by
  induction layers generalizing fields with
  | nil => exact h
  | cons l rest ih => exact ih (putFields_nodup h _)

lemma inheritedFields_nodup (ancestors : List Layer) :
    (fieldNames (inheritedFields ancestors)).Nodup := by
  have hstart : (fieldNames []).Nodup := List.nodup_nil
  exact putLayers_nodup hstart _

/-! ## Legal descriptions -/

mutual

/-- Whether the functions of a member have legal signatures.  Within a class the names of parameters
may be private to the class. -/
def Member.isLegal (className : Option Text) (name : Text) : Member → Bool
  | .nested ⟨_, _, _, members⟩ => membersAreLegal (some name.normal) members
  | .function items _ =>
    decide (Signature.ofItems (items.map (SignatureItem.within className))).IsLegal
  | .property _ => true
  | .alias _ => true
  | .plain .. => true

/-- Whether the functions of members have legal signatures. -/
def membersAreLegal (className : Option Text) : List (Text × Member) → Bool
  | [] => true
  | (name, member) :: rest => member.isLegal className name && membersAreLegal className rest

end

/-- Whether the functions of a module have legal signatures. -/
def ModuleDescription.isLegal (d : ModuleDescription) : Bool :=
  membersAreLegal none d.attributes

end Blueprint.Catalog
