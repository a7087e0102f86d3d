/-
# The entries of tables

Which entries a table has, where it is put together from others: what is found under a key is one of
the entries, and nothing gets into a table but what is put there.
-/
import Blueprint.Entries
import Mathlib.Data.List.Forall2
import Mathlib.Data.List.Induction
import Mathlib.Tactic.Lemma

namespace Blueprint

lemma Entries.mem_of_get? {α β : Type} [BEq α] [LawfulBEq α] {key : α} {value : β}
    {entries : List (α × β)} (h : Entries.get? key entries = some value) :
    (key, value) ∈ entries := by
  induction entries with
  | nil => exact absurd h (by simp)
  | cons entry rest ih =>
    obtain ⟨k, v⟩ := entry
    rw [Entries.get?] at h
    by_cases hk : k = key
    · subst hk
      rw [if_pos (beq_self_eq_true k)] at h
      rw [Option.some.inj h]
      exact List.mem_cons_self
    · rw [if_neg (by simpa using hk)] at h
      exact List.mem_cons_of_mem _ (ih h)

/-- A key is looked up in the first part, and then in the second. -/
lemma Entries.get?_append {α β : Type} [BEq α] (key : α) (before after : List (α × β)) :
    get? key (before ++ after) = (get? key before).or (get? key after) := by
  induction before with
  | nil => rfl
  | cons e rest ih =>
    obtain ⟨k, v⟩ := e
    rw [List.cons_append, Entries.get?, Entries.get?]
    split
    · rfl
    · exact ih

lemma Entries.get?_eq_none {α β : Type} [BEq α] [LawfulBEq α] {key : α} {entries : List (α × β)}
    (h : key ∉ entries.map Prod.fst) : Entries.get? key entries = none := by
  rcases hg : Entries.get? key entries with _ | v
  · rfl
  · exact absurd (List.mem_map_of_mem (Entries.mem_of_get? hg)) h

/-- What is put under a key may stand under one that was there before and compares as equal. -/
lemma Entries.mem_put {κ ι : Type} [BEq κ] {key : κ} {value : ι} {entries : List (κ × ι)}
    {e : κ × ι} (h : e ∈ Entries.put key value entries) :
    e ∈ entries ∨
      e.2 = value ∧ (e.1 = key ∨ (e.1 == key) = true ∧ e.1 ∈ entries.map Prod.fst) := by
  induction entries with
  | nil =>
    obtain rfl := List.mem_singleton.1 h
    exact .inr ⟨rfl, .inl rfl⟩
  | cons first rest ih =>
    obtain ⟨k, v⟩ := first
    rw [Entries.put] at h
    -- the value takes the place of the one that is there, or goes further on
    split at h
    · rename_i hk
      rcases List.mem_cons.1 h with rfl | h
      · exact .inr ⟨rfl, .inr ⟨hk, List.mem_cons_self⟩⟩
      · exact .inl (List.mem_cons_of_mem _ h)
    · rcases List.mem_cons.1 h with rfl | h
      · exact .inl List.mem_cons_self
      · refine (ih h).imp (List.mem_cons_of_mem _) ?_
        exact .imp_right (.imp_right (.imp_right (List.mem_cons_of_mem _)))

lemma Entries.ofList_concat {κ ι : Type} [BEq κ] (pairs : List (κ × ι)) (pair : κ × ι) :
    Entries.ofList (pairs ++ [pair]) = Entries.put pair.1 pair.2 (Entries.ofList pairs) :=
  List.foldl_append

/-- A table has no keys and no values but those of the pairs it is made of. -/
lemma Entries.mem_ofList {κ ι : Type} [BEq κ] {pairs : List (κ × ι)} {e : κ × ι}
    (h : e ∈ Entries.ofList pairs) : e.1 ∈ pairs.map Prod.fst ∧ e.2 ∈ pairs.map Prod.snd := by
  induction pairs using List.reverseRecOn generalizing e with
  | nil => exact absurd h List.not_mem_nil
  | append_singleton before pair ih =>
    rw [Entries.ofList_concat] at h
    rw [List.map_append, List.map_append, List.mem_append, List.mem_append, List.map_singleton,
      List.map_singleton, List.mem_singleton, List.mem_singleton]
    rcases Entries.mem_put h with h | ⟨hvalue, hkey | ⟨-, hkey⟩⟩
    · exact ⟨.inl (ih h).1, .inl (ih h).2⟩
    · exact ⟨.inr hkey, .inr hvalue⟩
    · obtain ⟨e', he', heq⟩ := List.mem_map.1 hkey
      exact ⟨.inl (heq ▸ (ih he').1), .inr hvalue⟩

lemma Entries.put_of_apart {α β : Type} [BEq α] {pair : α × β} {entries : List (α × β)}
    (h : ∀ e ∈ entries, (e.1 == pair.1) = false) :
    Entries.put pair.1 pair.2 entries = entries ++ [pair] := by
  induction entries with
  | nil => rfl
  | cons entry more ih =>
    obtain ⟨hentry, hmore⟩ := List.forall_mem_cons.1 h
    rw [Entries.put, if_neg (by simp [hentry]), ih hmore, List.cons_append]

/-- Pairs whose keys are all told apart are a table as they stand.  The comparison of keys need not
be a lawful one, as that of values is not. -/
lemma Entries.ofList_append_of_apart {α β : Type} [BEq α] {entries pairs : List (α × β)}
    (h : (entries ++ pairs).Pairwise fun e e' => (e.1 == e'.1) = false) :
    pairs.foldl (fun entries pair => Entries.put pair.1 pair.2 entries) entries =
      entries ++ pairs := by
  induction pairs generalizing entries with
  | nil => rw [List.foldl_nil, List.append_nil]
  | cons pair rest ih =>
    obtain ⟨-, -, hbetween⟩ := List.pairwise_append.1 h
    have hapart : ∀ e ∈ entries, (e.1 == pair.1) = false :=
      fun e he => hbetween e he pair List.mem_cons_self
    rw [List.foldl_cons, put_of_apart hapart, ih (by simpa using h), List.append_assoc]
    rfl

lemma Entries.ofList_of_apart {α β : Type} [BEq α] {pairs : List (α × β)}
    (h : pairs.Pairwise fun e e' => (e.1 == e'.1) = false) : Entries.ofList pairs = pairs :=
  Entries.ofList_append_of_apart h

lemma Entries.ofList_append_of_nodup {α β : Type} [BEq α] [LawfulBEq α]
    {entries pairs : List (α × β)} (h : ((entries ++ pairs).map Prod.fst).Nodup) :
    pairs.foldl (fun entries pair => Entries.put pair.1 pair.2 entries) entries =
      entries ++ pairs := by
  refine Entries.ofList_append_of_apart ?_
  exact (List.pairwise_map.1 h).imp fun hne => beq_eq_false_iff_ne.2 hne

/-- A table has each of its keys once. -/
lemma Entries.nodup_keys_ofList {κ ι : Type} [BEq κ] [LawfulBEq κ] (pairs : List (κ × ι)) :
    (Entries.keys (Entries.ofList pairs)).Nodup := by
  induction pairs using List.reverseRecOn with
  | nil => exact List.nodup_nil
  | append_singleton before pair ih =>
    rw [Entries.ofList_concat, Entries.keys_put]
    split
    · exact ih
    · rename_i hnew
      refine List.nodup_append.2 ⟨ih, by simp, fun k hk k' hk' => ?_⟩
      obtain rfl := List.mem_singleton.1 hk'
      rintro rfl
      exact hnew hk

section Lawful

variable {α β : Type} [BEq α] [LawfulBEq α] {pairs : List (α × β)}

/-- A key that the first part does not have is put into the second. -/
lemma Entries.put_append {key : α} {before : List (α × β)} (h : key ∉ keys before) (value : β)
    (after : List (α × β)) :
    put key value (before ++ after) = before ++ put key value after := by
  induction before with
  | nil => rfl
  | cons e rest ih =>
    obtain ⟨k, v⟩ := e
    rw [keys, List.map_cons, List.mem_cons, not_or] at h
    rw [List.cons_append, put, if_neg (by simpa using Ne.symm h.1), ih h.2, List.cons_append]

lemma Entries.putAll_append {before more : List (α × β)} (h : ∀ e ∈ more, e.1 ∉ keys before)
    (after : List (α × β)) :
    more.foldl (fun entries pair => put pair.1 pair.2 entries) (before ++ after) =
      before ++ more.foldl (fun entries pair => put pair.1 pair.2 entries) after := by
  induction more generalizing after with
  | nil => rfl
  | cons e rest ih =>
    obtain ⟨he, hrest⟩ := List.forall_mem_cons.1 h
    rw [List.foldl_cons, List.foldl_cons, put_append he, ih hrest]

/-- What is put under further keys makes a table of its own, after the one that is there. -/
lemma Entries.ofList_append {more : List (α × β)} (h : ∀ e ∈ more, e.1 ∉ keys (ofList pairs)) :
    ofList (pairs ++ more) = ofList pairs ++ ofList more := by
  have hmore := putAll_append h []
  rw [List.append_nil] at hmore
  rw [ofList, List.foldl_append]
  exact hmore

/-- An entry of a table is one of the pairs that it is made of. -/
lemma Entries.mem_of_mem_ofList {e : α × β} (h : e ∈ ofList pairs) : e ∈ pairs := by
  induction pairs using List.reverseRecOn with
  | nil => exact h
  | append_singleton before pair ih =>
    rw [ofList_concat] at h
    rw [List.mem_append, List.mem_singleton]
    -- an entry was there before the last pair was put, or it has the value of that pair
    rcases mem_put h with h | ⟨hvalue, hkey⟩
    · exact .inl (ih h)
    · have hkey' : e.1 = pair.1 := hkey.elim id fun hkey => eq_of_beq hkey.1
      exact .inr (Prod.ext hkey' hvalue)

/-- A table has the keys of its pairs, each where it stands first. -/
lemma Entries.keys_ofList (pairs : List (α × β)) :
    keys (ofList pairs) = (keys pairs).eraseDups := by
  induction pairs using List.reverseRecOn with
  | nil => rfl
  | append_singleton before pair ih =>
    have hkeys : keys (before ++ [pair]) = keys before ++ [pair.1] := List.map_append
    rw [ofList_concat, keys_put, ih, hkeys, List.eraseDups_append]
    by_cases h : pair.1 ∈ keys before
    · rw [if_pos (List.mem_eraseDups.2 h)]
      simp [List.removeAll, h]
    · rw [if_neg fun hmem => h (List.mem_eraseDups.1 hmem)]
      simp [List.removeAll, h, List.eraseDups_cons]

/-- A table has a value for its keys, and for nothing else. -/
lemma Entries.mem_keys_iff {key : α} {entries : List (α × β)} :
    key ∈ keys entries ↔ ∃ v, get? key entries = some v := by
  refine ⟨fun h => ?_, fun ⟨v, h⟩ => List.mem_map_of_mem (mem_of_get? h)⟩
  induction entries with
  | nil => exact absurd h List.not_mem_nil
  | cons e rest ih =>
    obtain ⟨k, v⟩ := e
    rcases List.mem_cons.1 h with rfl | h
    · exact ⟨v, by simp [get?]⟩
    · by_cases hk : k = key
      · exact ⟨v, by simp [get?, hk]⟩
      · simpa [get?, hk] using ih h

/-- A table is determined by its keys in their order, and by what it has under each of them. -/
lemma Entries.eq_of_keys_of_get? {entries entries' : List (α × β)} (hnodup : (keys entries).Nodup)
    (hkeys : keys entries' = keys entries) (hget : ∀ key, get? key entries' = get? key entries) :
    entries' = entries := by
  induction entries generalizing entries' with
  | nil => exact List.map_eq_nil_iff.1 hkeys
  | cons e rest ih =>
    obtain ⟨k, v⟩ := e
    obtain _ | ⟨⟨k', v'⟩, rest'⟩ := entries'
    · exact absurd hkeys (by simp [keys])
    obtain ⟨hkey, hrest⟩ := List.cons.inj hkeys
    obtain rfl : k' = k := hkey
    obtain ⟨hnew, hnodup⟩ := List.nodup_cons.1 hnodup
    have hv : v' = v := by simpa [get?] using hget k'
    rw [hv, ih hnodup hrest fun key => ?_]
    by_cases h : k' = key
    · subst h
      rw [get?_eq_none hnew, get?_eq_none (hrest ▸ hnew)]
    · simpa [get?, h] using hget key

end Lawful

/-- Tables that are aligned are so after putting values under the same key, if the keys
are compared like those they are aligned with. -/
lemma Entries.forall₂_put {κ κ' ι ι' : Type} [BEq κ] [BEq κ'] {f : κ → κ'}
    (hf : ∀ k k', (f k == f k') = (k == k')) {R : ι → ι' → Prop}
    {entries : List (κ × ι)} {entries' : List (κ' × ι')}
    (h : List.Forall₂ (fun e e' => e'.1 = f e.1 ∧ R e.2 e'.2) entries entries') (key : κ)
    {value : ι} {value' : ι'} (hR : R value value') :
    List.Forall₂ (fun e e' => e'.1 = f e.1 ∧ R e.2 e'.2) (Entries.put key value entries)
      (Entries.put (f key) value' entries') := by
  induction h with
  | nil => exact .cons ⟨rfl, hR⟩ .nil
  | cons he hrest ih =>
    rw [Entries.put, Entries.put, he.1, hf]
    split
    · exact .cons ⟨rfl, hR⟩ hrest
    · exact .cons ⟨rfl, he.2⟩ ih

lemma Entries.forall₂_putAll {κ κ' ι ι' : Type} [BEq κ] [BEq κ'] {f : κ → κ'}
    (hf : ∀ k k', (f k == f k') = (k == k')) {R : ι → ι' → Prop}
    {pairs entries : List (κ × ι)} {pairs' entries' : List (κ' × ι')}
    (h : List.Forall₂ (fun e e' => e'.1 = f e.1 ∧ R e.2 e'.2) pairs pairs')
    (halign : List.Forall₂ (fun e e' => e'.1 = f e.1 ∧ R e.2 e'.2) entries entries') :
    List.Forall₂ (fun e e' => e'.1 = f e.1 ∧ R e.2 e'.2)
      (pairs.foldl (fun entries pair => Entries.put pair.1 pair.2 entries) entries)
      (pairs'.foldl (fun entries pair => Entries.put pair.1 pair.2 entries) entries') := by
  induction h generalizing entries entries' with
  | nil => exact halign
  | @cons e e' _ _ he _ ih =>
    obtain ⟨key', value'⟩ := e'
    obtain ⟨rfl, hR⟩ := he
    exact ih (Entries.forall₂_put hf halign e.1 hR)

lemma Entries.forall₂_ofList {κ κ' ι ι' : Type} [BEq κ] [BEq κ'] {f : κ → κ'}
    (hf : ∀ k k', (f k == f k') = (k == k')) {R : ι → ι' → Prop} {pairs : List (κ × ι)}
    {pairs' : List (κ' × ι')}
    (h : List.Forall₂ (fun e e' => e'.1 = f e.1 ∧ R e.2 e'.2) pairs pairs') :
    List.Forall₂ (fun e e' => e'.1 = f e.1 ∧ R e.2 e'.2) (Entries.ofList pairs)
      (Entries.ofList pairs') :=
  Entries.forall₂_putAll hf h .nil

end Blueprint
