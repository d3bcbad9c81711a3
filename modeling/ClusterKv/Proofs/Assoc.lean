import ClusterKv.Assoc
import Mathlib.Data.List.Nodup

/-! # Finite maps as lists of entries

Looking up agrees with membership as long as the keys are distinct, which every operation keeps. -/

namespace ClusterKv.Assoc

variable {κ α : Type} [DecidableEq κ]

/-! ## Looking up -/

theorem mem_of_get? {m : Assoc κ α} {key : κ} {value : α} (h : get? m key = some value) :
    (key, value) ∈ m := by
  induction m with
  | nil => simp at h
  | cons e rest ih =>
      obtain ⟨k, v⟩ := e
      by_cases hk : k = key
      · subst hk
        simp only [get?, ite_true, Option.some.injEq] at h
        simp [h]
      · simp only [get?, hk, ite_false] at h
        exact List.mem_cons_of_mem _ (ih h)

theorem get?_eq_none_iff {m : Assoc κ α} {key : κ} : get? m key = none ↔ key ∉ keys m := by
  induction m with
  | nil => simp [keys]
  | cons e rest ih =>
      obtain ⟨k, v⟩ := e
      by_cases hk : k = key
      · simp [get?, keys, hk]
      · have hk' : key ≠ k := fun h => hk h.symm
        simp only [get?, hk, ite_false, keys, List.map_cons, List.mem_cons, hk', false_or]
        exact ih

theorem get?_of_mem {m : Assoc κ α} (hm : (keys m).Nodup) {key : κ} {value : α}
    (h : (key, value) ∈ m) : get? m key = some value := by
  induction m with
  | nil => simp at h
  | cons e rest ih =>
      obtain ⟨k, v⟩ := e
      obtain ⟨hk, hrest⟩ := List.nodup_cons.mp hm
      rcases List.mem_cons.mp h with h | h
      · obtain ⟨rfl, rfl⟩ := Prod.mk.inj h
        simp [get?]
      · have hne : k ≠ key := by
          intro he
          exact hk (he ▸ List.mem_map_of_mem (f := (·.1)) h)
        simp only [get?, hne, ite_false]
        exact ih hrest h

/-! ## Setting and forgetting -/

theorem put_of_get?_eq_none {m : Assoc κ α} {key : κ} (value : α) (h : get? m key = none) :
    put m key value = m ++ [(key, value)] := by
  induction m with
  | nil => rfl
  | cons e rest ih =>
      obtain ⟨k, v⟩ := e
      by_cases hk : k = key
      · simp [get?, hk] at h
      · simp only [get?, hk, ite_false] at h
        simp [put, hk, ih h]

theorem keys_put_of_get?_eq_some {m : Assoc κ α} {key : κ} {old : α} (value : α)
    (h : get? m key = some old) : keys (put m key value) = keys m := by
  induction m with
  | nil => simp at h
  | cons e rest ih =>
      obtain ⟨k, v⟩ := e
      by_cases hk : k = key
      · simp [put, keys, hk]
      · simp only [get?, hk, ite_false] at h
        have := ih h
        simp_all [put, keys]

theorem nodup_keys_put {m : Assoc κ α} (hm : (keys m).Nodup) (key : κ) (value : α) :
    (keys (put m key value)).Nodup := by
  cases h : get? m key with
  | none =>
      have hk : key ∉ keys m := get?_eq_none_iff.mp h
      rw [put_of_get?_eq_none value h]
      simp only [keys, List.map_append, List.map_cons, List.map_nil]
      exact List.Nodup.append hm (List.nodup_singleton key) (by simpa [keys] using hk)
  | some old => rwa [keys_put_of_get?_eq_some value h]

/-- Setting a key to the value it has changes nothing. -/
theorem put_of_get?_eq_some {m : Assoc κ α} {key : κ} {value : α} (h : get? m key = some value) :
    put m key value = m := by
  induction m with
  | nil => simp at h
  | cons e rest ih =>
      obtain ⟨k, v⟩ := e
      by_cases hk : k = key
      · simp only [get?, hk, ite_true, Option.some.injEq] at h
        simp [put, hk, h]
      · simp only [get?, hk, ite_false] at h
        simp [put, hk, ih h]

theorem put_put (m : Assoc κ α) (key : κ) (old value : α) :
    put (put m key old) key value = put m key value := by
  induction m with
  | nil => simp [put]
  | cons e rest ih =>
      obtain ⟨k, v⟩ := e
      by_cases hk : k = key
      · simp [put, hk]
      · simp [put, hk, ih]

/-- Setting a key brings in its own entry and no other. -/
theorem mem_put {m : Assoc κ α} {key : κ} {value : α} {e : κ × α} (h : e ∈ put m key value) :
    e ∈ m ∨ e = (key, value) := by
  induction m with
  | nil => exact Or.inr (by simpa [put] using h)
  | cons first rest ih =>
      obtain ⟨k, v⟩ := first
      unfold put at h
      split at h
      · next hk =>
        subst hk
        rcases List.mem_cons.mp h with rfl | h
        · exact Or.inr rfl
        · exact Or.inl (List.mem_cons_of_mem _ h)
      · rcases List.mem_cons.mp h with rfl | h
        · exact Or.inl List.mem_cons_self
        · exact (ih h).imp_left (List.mem_cons_of_mem _)

theorem erase_of_get?_eq_none {m : Assoc κ α} {key : κ} (h : get? m key = none) :
    erase m key = m := by
  have hk : key ∉ keys m := get?_eq_none_iff.mp h
  apply List.filter_eq_self.mpr
  intro e he
  have hne : e.1 ≠ key := fun h => hk (h ▸ List.mem_map_of_mem (f := (·.1)) he)
  simpa using hne

/-- Whatever is left when a key is forgotten was there before, under another key. -/
theorem get?_of_erase {m : Assoc κ α} {key other : κ} {value : α}
    (h : get? (erase m key) other = some value) : other ≠ key ∧ get? m other = some value := by
  have hother : other ≠ key := by
    rintro rfl
    simp at h
  exact ⟨hother, (get?_erase_of_ne m hother).symm.trans h⟩

omit [DecidableEq κ] in
theorem nodup_keys_filter {m : Assoc κ α} (hm : (keys m).Nodup) (p : κ × α → Bool) :
    (keys (List.filter p m)).Nodup :=
  hm.sublist (List.filter_sublist.map _)

theorem get?_filter {m : Assoc κ α} (hm : (keys m).Nodup) (p : κ × α → Bool) (key : κ) :
    get? (m.filter p) key = (get? m key).filter fun value => p (key, value) := by
  cases h : get? m key with
  | none =>
      rw [get?_eq_none_iff] at h
      refine get?_eq_none_iff.mpr fun hkey => h ?_
      exact (List.filter_sublist.map _).subset hkey
  | some value =>
      rw [Option.filter_some]
      split
      · next hp =>
          exact get?_of_mem (nodup_keys_filter hm p) (List.mem_filter.mpr ⟨mem_of_get? h, hp⟩)
      · next hp =>
          refine get?_eq_none_iff.mpr fun hkey => ?_
          obtain ⟨⟨other, old⟩, he, rfl⟩ := List.mem_map.mp hkey
          obtain ⟨hmem, hold⟩ := List.mem_filter.mp he
          rw [get?_of_mem hm hmem] at h
          exact hp (Option.some.inj h ▸ hold)

/-- Which entries are left may depend on their keys alone; then no key is uncovered. -/
theorem get?_filter_key (m : Assoc κ α) (p : κ → Bool) (key : κ) :
    get? (m.filter fun e => p e.1) key = if p key then get? m key else none := by
  induction m with
  | nil => simp
  | cons e rest ih =>
      obtain ⟨k, v⟩ := e
      rw [List.filter_cons]
      by_cases hk : k = key
      · subst hk
        by_cases hp : p k <;> simp [get?, hp, ih]
      · by_cases hp : p k <;> simp [get?, hp, hk, ih]

theorem nodup_keys_erase {m : Assoc κ α} (hm : (keys m).Nodup) (key : κ) :
    (keys (erase m key)).Nodup :=
  nodup_keys_filter hm _

/-- Forgetting a key takes exactly its entry out of the map. -/
theorem perm_cons_erase {m : Assoc κ α} (hm : (keys m).Nodup) {key : κ} {value : α}
    (h : get? m key = some value) : m.Perm ((key, value) :: erase m key) := by
  induction m with
  | nil => simp at h
  | cons e rest ih =>
      obtain ⟨k, v⟩ := e
      obtain ⟨hk, hrest⟩ := List.nodup_cons.mp hm
      by_cases he : k = key
      · subst he
        simp only [get?, ite_true, Option.some.injEq] at h
        subst h
        have hrest : erase rest k = rest := erase_of_get?_eq_none (get?_eq_none_iff.mpr hk)
        have hself : erase ((k, v) :: rest) k = erase rest k := by simp [erase]
        rw [hself, hrest]
      · simp only [get?, he, ite_false] at h
        have hcons : erase ((k, v) :: rest) key = (k, v) :: erase rest key := by
          simp [erase, he]
        rw [hcons]
        exact ((ih hrest h).cons _).trans (List.Perm.swap _ _ _)

theorem has_put (m : Assoc κ α) (key other : κ) (value : α) :
    (put m key value).has other = true ↔ key = other ∨ m.has other = true := by
  unfold has
  by_cases h : other = key
  · simp [h]
  · have hne : ¬key = other := fun hkey => h hkey.symm
    simp [get?_put_of_ne m value h, hne]

/-! ## Counting entries -/

/-- A new entry is counted once. -/
theorem countP_put {m : Assoc κ α} {key : κ} (h : get? m key = none) (value : α)
    (p : κ × α → Bool) :
    (put m key value).countP p = m.countP p + if p (key, value) then 1 else 0 := by
  rw [put_of_get?_eq_none value h, List.countP_append, List.countP_singleton]

/-- An entry that is forgotten was counted once. -/
theorem countP_erase {m : Assoc κ α} (hm : (keys m).Nodup) {key : κ} {value : α}
    (h : get? m key = some value) (p : κ × α → Bool) :
    m.countP p = (erase m key).countP p + if p (key, value) then 1 else 0 := by
  rw [(perm_cons_erase hm h).countP_eq, List.countP_cons]

/-! ## What the values hold -/

/-- Setting a key brings in what the new value holds, for what the old one held. -/
theorem flatMap_put {β : Type} (f : α → List β) (m : Assoc κ α) (key : κ) (value : α) :
    ((put m key value).flatMap (fun e => f e.2) ++ ((get? m key).map f).getD []).Perm
      (m.flatMap (fun e => f e.2) ++ f value) := by
  induction m with
  | nil => simp [put]
  | cons e rest ih =>
      obtain ⟨k, v⟩ := e
      by_cases hk : k = key
      · simp only [put, get?, hk, ite_true, List.flatMap_cons, Option.map_some, Option.getD_some,
          List.append_assoc]
        refine List.perm_append_comm.trans ?_
        rw [List.append_assoc]
        exact List.perm_append_comm_assoc ..
      · simp only [put, get?, hk, ite_false, List.flatMap_cons, List.append_assoc]
        exact ih.append_left _

/-! ## Changing values in place -/

omit [DecidableEq κ] in
theorem keys_map_values {β : Type} (m : Assoc κ α) (f : κ → α → β) :
    keys (m.map fun e => (e.1, f e.1 e.2)) = keys m := by
  simp [keys]

theorem get?_map_values {β : Type} (m : Assoc κ α) (f : κ → α → β) (key : κ) :
    get? (m.map fun e => (e.1, f e.1 e.2)) key = (get? m key).map (f key) := by
  induction m with
  | nil => rfl
  | cons e rest ih =>
      obtain ⟨k, v⟩ := e
      by_cases hk : k = key
      · simp [get?, hk]
      · simp [get?, hk, ih]

theorem put_map_values {β : Type} (m : Assoc κ α) (f : κ → α → β) (key : κ) (value : α) :
    put (m.map fun e => (e.1, f e.1 e.2)) key (f key value) =
      (put m key value).map fun e => (e.1, f e.1 e.2) := by
  induction m with
  | nil => rfl
  | cons e rest ih =>
      obtain ⟨k, v⟩ := e
      by_cases hk : k = key
      · simp [put, hk]
      · simp [put, hk, ih]

/-- A value that looks the same as the old one may be set unseen. -/
theorem map_values_put {β : Type} {m : Assoc κ α} (f : κ → α → β) {key : κ} {old : α}
    (h : get? m key = some old) (value : α) (hsame : f key value = f key old) :
    ((put m key value).map fun e => (e.1, f e.1 e.2)) = m.map fun e => (e.1, f e.1 e.2) := by
  induction m with
  | nil => simp at h
  | cons e rest ih =>
      obtain ⟨k, v⟩ := e
      by_cases hk : k = key
      · subst hk
        simp only [get?, ite_true, Option.some.injEq] at h
        simp [put, hsame, h]
      · simp only [get?, hk, ite_false] at h
        simp [put, hk, ih h]

theorem erase_map_values {β : Type} (m : Assoc κ α) (f : κ → α → β) (key : κ) :
    erase (m.map fun e => (e.1, f e.1 e.2)) key =
      (erase m key).map fun e => (e.1, f e.1 e.2) := by
  unfold erase
  rw [List.filter_map]
  rfl

theorem put_eq_map {m : Assoc κ α} (hm : (keys m).Nodup) {key : κ} {old : α} (value : α)
    (h : get? m key = some old) :
    put m key value = m.map fun e => (e.1, if e.1 = key then value else e.2) := by
  induction m with
  | nil => simp at h
  | cons e rest ih =>
      obtain ⟨k, v⟩ := e
      obtain ⟨hk, hrest⟩ := List.nodup_cons.mp hm
      by_cases he : k = key
      · subst he
        have hsame : (rest.map fun e => (e.1, if e.1 = k then value else e.2)) = rest := by
          refine (List.map_congr_left ?_).trans (List.map_id rest)
          intro e he
          have hne : e.1 ≠ k := fun h => hk (h ▸ List.mem_map_of_mem (f := (·.1)) he)
          simp [hne]
        simp [put, hsame]
      · simp only [get?, he, ite_false] at h
        simp [put, he, ih hrest h]

end ClusterKv.Assoc
