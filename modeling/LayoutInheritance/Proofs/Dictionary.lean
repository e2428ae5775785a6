import LayoutInheritance.Dictionary
import Mathlib.Data.List.Induction
import Mathlib.Data.List.Nodup

/-! Dictionaries under repeated insertion. Inserting into a dictionary of distinct keys and updating by it
is the same as updating by it and inserting then, so nested collections may be flattened. -/

namespace LayoutInheritance.Dictionary

variable {κ α β : Type} [BEq κ] [LawfulBEq κ]

/-- The keys in order. -/
def keys (d : Dictionary κ α) : List κ :=
  d.map Prod.fst

theorem mem_keys_put {d : Dictionary κ α} {k k' : κ} {v : α} :
    k' ∈ keys (d.put k v) ↔ k' = k ∨ k' ∈ keys d := by
  unfold keys
  rw [keys_put]
  split
  · next h =>
    constructor
    · exact .inr
    · rintro (rfl | h')
      · exact h
      · exact h'
  · simp [or_comm]

theorem nodup_put {d : Dictionary κ α} (h : (keys d).Nodup) (k : κ) (v : α) : (keys (d.put k v)).Nodup := by
  unfold keys at *
  rw [keys_put]
  split
  · exact h
  · next hk => exact List.nodup_append'.2 ⟨h, List.nodup_singleton k, by simpa using hk⟩

theorem mem_put {d : Dictionary κ α} {k : κ} {v : α} {e : κ × α} (h : e ∈ d.put k v) :
    e = (k, v) ∨ e ∈ d := by
  induction d with
  | nil => exact .inl (List.mem_singleton.1 h)
  | cons entry rest ih =>
    obtain ⟨k', v'⟩ := entry
    rw [put] at h
    split at h
    · next hk =>
      rcases List.mem_cons.1 h with rfl | h
      · exact .inl (by rw [eq_of_beq hk])
      · exact .inr (List.mem_cons_of_mem _ h)
    · rcases List.mem_cons.1 h with rfl | h
      · exact .inr (List.mem_cons_self ..)
      · exact (ih h).imp_right (List.mem_cons_of_mem _)

theorem mem_update {d e : Dictionary κ α} {a : κ × α} (h : a ∈ d.update e) : a ∈ d ∨ a ∈ e := by
  induction e generalizing d with
  | nil => exact .inl h
  | cons entry rest ih =>
    rcases ih h with h | h
    · exact (mem_put h).elim (fun he => .inr (he ▸ List.mem_cons_self ..)) .inl
    · exact .inr (List.mem_cons_of_mem _ h)

theorem mem_ofList {entries : List (κ × α)} {a : κ × α} (h : a ∈ ofList entries) : a ∈ entries :=
  (mem_update h).resolve_left List.not_mem_nil

theorem put_of_not_mem {d : Dictionary κ α} {k : κ} (h : k ∉ keys d) (v : α) : d.put k v = d ++ [(k, v)] := by
  induction d with
  | nil => rfl
  | cons entry rest ih =>
    obtain ⟨k', v'⟩ := entry
    have hne : k ≠ k' := fun he => h (he ▸ List.mem_cons_self ..)
    rw [put, if_neg (by simpa using hne), ih fun hm => h (List.mem_cons_of_mem _ hm), List.cons_append]

theorem put_put_self (d : Dictionary κ α) (k : κ) (v w : α) : (d.put k v).put k w = d.put k w := by
  induction d with
  | nil => simp [put]
  | cons entry rest ih =>
    obtain ⟨k', v'⟩ := entry
    by_cases hk : k = k'
    · simp [put, hk]
    · simp [put, hk, ih]

/-- A key that has its place already may be put before or after another key. -/
theorem put_comm {d : Dictionary κ α} {k k' : κ} (hk : k ∈ keys d) (hne : k ≠ k') (v v' : α) :
    (d.put k' v').put k v = (d.put k v).put k' v' := by
  induction d with
  | nil => exact nomatch hk
  | cons entry rest ih =>
    obtain ⟨k₀, v₀⟩ := entry
    by_cases h : k = k₀
    · subst h
      simp [put, Ne.symm hne]
    · have hr : k ∈ keys rest := (List.mem_cons.1 hk).resolve_left h
      by_cases h' : k' = k₀
      · subst h'
        simp [put, hne]
      · simp [put, h, h', ih hr]

omit [LawfulBEq κ] in
theorem update_cons (d : Dictionary κ α) (k : κ) (v : α) (e : Dictionary κ α) :
    d.update ((k, v) :: e) = (d.put k v).update e := rfl

/-- Entries with new keys are put at the end. -/
theorem update_of_nodup {d e : Dictionary κ α} (h : (keys (d ++ e)).Nodup) : d.update e = d ++ e := by
  induction e generalizing d with
  | nil => exact (List.append_nil d).symm
  | cons entry rest ih =>
    obtain ⟨k, v⟩ := entry
    have hk : k ∉ keys d := by
      intro hm
      rw [keys, List.map_append, List.nodup_append'] at h
      exact h.2.2 hm (List.mem_cons_self ..)
    rw [update_cons, put_of_not_mem hk, ih (by rwa [List.append_assoc]), List.append_assoc]
    rfl

theorem ofList_of_nodup {entries : List (κ × α)} (h : (keys entries).Nodup) : ofList entries = entries :=
  update_of_nodup (d := []) h

omit [LawfulBEq κ] in
theorem ofList_concat (entries : List (κ × α)) (e : κ × α) :
    ofList (entries ++ [e]) = (ofList entries).put e.1 e.2 := by
  simp [ofList, update]

theorem keys_ofList_concat (entries : List (κ × α)) (e : κ × α) : keys (ofList (entries ++ [e])) =
    if e.1 ∈ keys (ofList entries) then keys (ofList entries) else keys (ofList entries) ++ [e.1] := by
  rw [ofList_concat]
  exact keys_put ..

/-- The keys come in the order in which they are first put. -/
theorem keys_ofList (entries : List (κ × α)) : keys (ofList entries) = (keys entries).eraseDups := by
  induction entries using List.reverseRecOn with
  | nil => rfl
  | append_singleton entries e ih =>
    have hkeys : keys (entries ++ [e]) = keys entries ++ [e.1] := by simp [keys]
    rw [keys_ofList_concat, ih, hkeys, List.eraseDups_append]
    by_cases he : e.1 ∈ keys entries <;> simp [List.removeAll, List.eraseDups_cons, he]

/-- The value of a key is the one that is put last. -/
theorem get?_ofList (entries : List (κ × α)) (k : κ) :
    (ofList entries).get? k = (entries.reverse.find? fun e => e.1 == k).map Prod.snd := by
  induction entries using List.reverseRecOn with
  | nil => rfl
  | append_singleton entries e ih =>
    rw [ofList_concat, get?_put, ih, List.reverse_concat, List.find?_cons, Bool.beq_comm]
    cases e.1 == k <;> simp

/-- The first key that satisfies `p` is the first one to be put that does. -/
theorem find?_keys_ofList (p : κ → Bool) (entries : List (κ × α)) :
    (keys (ofList entries)).find? p = (keys entries).find? p := by
  induction entries using List.reverseRecOn with
  | nil => rfl
  | append_singleton entries e ih =>
    have hkeys : keys (entries ++ [e]) = keys entries ++ [e.1] := by simp [keys]
    rw [keys_ofList_concat, hkeys, List.find?_append, ← ih]
    split
    · next he =>
      cases hf : (keys (ofList entries)).find? p with
      | some k => rfl
      | none => simp [List.find?_eq_none.1 hf e.1 he]
    · rw [List.find?_append]

theorem put_update {d e : Dictionary κ α} {k : κ} (hk : k ∈ keys d) (he : k ∉ keys e) (v : α) :
    (d.update e).put k v = (d.put k v).update e := by
  induction e generalizing d with
  | nil => rfl
  | cons entry rest ih =>
    obtain ⟨k', v'⟩ := entry
    have hne : k ≠ k' := fun h => he (h ▸ List.mem_cons_self ..)
    rw [update_cons, update_cons, ← put_comm hk hne]
    exact ih (mem_keys_put.2 (.inr hk)) fun h => he (List.mem_cons_of_mem _ h)

theorem update_put (d : Dictionary κ α) {e : Dictionary κ α} (he : (keys e).Nodup) (k : κ) (v : α) :
    d.update (e.put k v) = (d.update e).put k v := by
  induction e generalizing d with
  | nil => rfl
  | cons entry rest ih =>
    obtain ⟨k', v'⟩ := entry
    have hn := List.nodup_cons.1 he
    by_cases h : k = k'
    · subst h
      rw [put, if_pos (beq_self_eq_true k), update_cons, update_cons,
        put_update (mem_keys_put.2 (.inl rfl)) hn.1, put_put_self]
    · rw [put, if_neg (by simpa using h), update_cons, update_cons]
      exact ih _ hn.2

/-- A choice of keys keeps the values of these keys. -/
theorem get?_filter (p : κ → Bool) (d : Dictionary κ α) (k : κ) :
    get? (d.filter fun e => p e.1) k = if p k then d.get? k else none := by
  induction d with
  | nil => simp
  | cons entry rest ih =>
    obtain ⟨k₀, v₀⟩ := entry
    by_cases hk : k = k₀
    · subst hk
      by_cases hp : p k <;> simp [hp, ih, get?_cons]
    · by_cases hp : p k₀ <;> simp [hp, ih, get?_cons, hk]

theorem get?_remove (d : Dictionary κ α) (k k' : κ) :
    (d.remove k).get? k' = if k' == k then none else d.get? k' := by
  rw [remove, get?_filter fun k' => !(k' == k)]
  cases k' == k <;> rfl

theorem get?_eq_some_iff {d : Dictionary κ α} (h : (keys d).Nodup) {k : κ} {v : α} :
    d.get? k = some v ↔ (k, v) ∈ d := by
  induction d with
  | nil => simp
  | cons entry rest ih =>
    obtain ⟨k', v'⟩ := entry
    have hn := List.nodup_cons.1 h
    rw [get?_cons, List.mem_cons]
    by_cases hk : k = k'
    · subst hk
      have hr : (k, v) ∉ rest := fun hm => hn.1 (List.mem_map.2 ⟨_, hm, rfl⟩)
      simp [hr, eq_comm]
    · simp [hk, ih hn.2]

theorem mem_of_get? {d : Dictionary κ α} {k : κ} {v : α} (h : d.get? k = some v) : (k, v) ∈ d := by
  induction d with
  | nil => simp at h
  | cons entry rest ih =>
    obtain ⟨k', v'⟩ := entry
    rw [get?_cons] at h
    split at h
    · next hk =>
      rw [eq_of_beq hk, ← Option.some.inj h]
      exact List.mem_cons_self ..
    · exact List.mem_cons_of_mem _ (ih h)

theorem get?_eq_none_iff {d : Dictionary κ α} {k : κ} : d.get? k = none ↔ k ∉ keys d := by
  induction d with
  | nil => simp [keys]
  | cons entry rest ih =>
    obtain ⟨k', v'⟩ := entry
    rw [get?_cons]
    by_cases hk : k = k'
    · simp [hk, keys]
    · simp [hk, ih, keys]

theorem has_eq_false_iff {d : Dictionary κ α} {k : κ} : d.has k = false ↔ k ∉ keys d := by
  rw [has, Option.isSome_eq_false_iff, Option.isNone_iff_eq_none, get?_eq_none_iff]

/-- What two dictionaries with the same keys, in any order, have under one of them. -/
theorem rel_get? {d : Dictionary κ α} {d' : Dictionary κ β} {R : α → β → Prop} (hk : ∀ k, k ∈ keys d ↔ k ∈ keys d') (k : κ)
    (h : ∀ v v', d.get? k = some v → d'.get? k = some v' → R v v') : Option.Rel R (d.get? k) (d'.get? k) := by
  have hnone : d.get? k = none ↔ d'.get? k = none := by
    rw [get?_eq_none_iff, get?_eq_none_iff, hk]
  cases hd : d.get? k with
  | none =>
    rw [hnone.1 hd]
    exact .none
  | some v =>
    cases hd' : d'.get? k with
    | none => exact absurd (hd.symm.trans (hnone.2 hd')) (Option.some_ne_none v)
    | some v' => exact .some (h v v' hd hd')

/-! ### Other values under the same keys -/

/-- The dictionary with `f` applied to its values. -/
def mapValues (f : α → β) (d : Dictionary κ α) : Dictionary κ β :=
  d.map fun e => (e.1, f e.2)

omit [BEq κ] [LawfulBEq κ] in
@[simp] theorem keys_mapValues (f : α → β) (d : Dictionary κ α) : keys (d.mapValues f) = keys d := by
  simp [keys, mapValues]

theorem mapValues_put (f : α → β) (d : Dictionary κ α) (k : κ) (v : α) :
    (d.put k v).mapValues f = (d.mapValues f).put k (f v) := by
  induction d with
  | nil => rfl
  | cons entry rest ih =>
    obtain ⟨k', v'⟩ := entry
    unfold mapValues at ih ⊢
    by_cases hk : k = k'
    · simp [put, hk]
    · simp [put, hk, ih]

omit [LawfulBEq κ] in
theorem get?_mapValues (f : α → β) (d : Dictionary κ α) (k : κ) :
    (d.mapValues f).get? k = (d.get? k).map f := by
  induction d with
  | nil => rfl
  | cons entry rest ih =>
    obtain ⟨k', v'⟩ := entry
    unfold mapValues at ih ⊢
    rw [List.map_cons, get?_cons, get?_cons, ih]
    split <;> rfl

omit [LawfulBEq κ] in
theorem has_mapValues (f : α → β) (d : Dictionary κ α) (k : κ) : (d.mapValues f).has k = d.has k := by
  rw [has, get?_mapValues, has, Option.isSome_map]

omit [BEq κ] [LawfulBEq κ] in
theorem find?_mapValues (f : α → β) (d : Dictionary κ α) (p : κ → Bool) :
    (d.mapValues f).find? (fun e => p e.1) = (d.find? fun e => p e.1).map fun e => (e.1, f e.2) := by
  rw [mapValues, List.find?_map]
  rfl

omit [BEq κ] [LawfulBEq κ] in
theorem filterMap_mapValues {γ : Type} (f : α → β) (g : κ × β → Option γ) (d : Dictionary κ α) :
    (d.mapValues f).filterMap g = d.filterMap fun e => g (e.1, f e.2) :=
  List.filterMap_map

end LayoutInheritance.Dictionary
