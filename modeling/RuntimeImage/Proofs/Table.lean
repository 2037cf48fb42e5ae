import RuntimeImage.Table

/-!
Entries sorted by name. When no name repeats they ascend strictly, so two sorted tables with the
same entries are the same table.
-/

namespace RuntimeImage.Table

variable {β : Type} {t u : Table β}

/-- One write to two tables: what the first says of a name the second still says. -/
theorem get?_put_of_imp {key other : String} {value content : β}
    (h : t.get? other = some content → u.get? other = some content)
    (ht : (t.put key value).get? other = some content) :
    (u.put key value).get? other = some content := by
  by_cases hkey : other = key
  · subst hkey
    rwa [get?_put_self] at ht ⊢
  · rw [get?_put_of_ne _ _ hkey] at ht ⊢
    exact h ht

/-- Writing again what is there changes nothing, the order of the names included. -/
theorem put_of_get? {key : String} {value : β} (h : t.get? key = some value) :
    t.put key value = t := by
  induction t with
  | nil => cases h
  | cons e t ih =>
    obtain ⟨name, content⟩ := e
    by_cases hname : name = key
    · simp only [get?, hname, if_true] at h
      cases h
      simp only [put, hname, if_true]
    · simp only [get?, hname, if_false] at h
      simp only [put, hname, if_false, ih h]

theorem mem_of_get? {key : String} {value : β} (h : t.get? key = some value) :
    (key, value) ∈ t := by
  induction t with
  | nil => cases h
  | cons e t ih =>
    rw [get?] at h
    split at h
    · next hk =>
      cases h
      exact hk ▸ List.mem_cons_self
    · exact List.mem_cons_of_mem e (ih h)

theorem mem_of_mem_put {key : String} {value : β} {e : String × β} (h : e ∈ t.put key value) :
    e = (key, value) ∨ e ∈ t := by
  induction t with
  | nil => exact Or.inl (List.mem_singleton.mp h)
  | cons first t ih =>
    rw [put] at h
    split at h
    · rcases List.mem_cons.mp h with rfl | h
      · next hk => exact Or.inl (by rw [hk])
      · exact Or.inr (List.mem_cons_of_mem _ h)
    · rcases List.mem_cons.mp h with rfl | h
      · exact Or.inr List.mem_cons_self
      · exact (ih h).imp_right (List.mem_cons_of_mem _)

/-- A new name is written behind the others. -/
theorem put_of_notMem {key : String} (value : β) (h : key ∉ t.keys) :
    t.put key value = t ++ [(key, value)] := by
  induction t with
  | nil => rfl
  | cons e t ih =>
    obtain ⟨hhead, htail⟩ := not_or.mp (mt List.mem_cons.mpr h)
    rw [put, if_neg (Ne.symm hhead), ih htail, List.cons_append]

theorem nodup_keys_sorted (h : t.keys.Nodup) : t.sorted.keys.Nodup :=
  (t.sorted_perm.map Prod.fst).nodup_iff.mpr h

theorem pairwise_le_sorted (t : Table β) : t.sorted.Pairwise (fun a b => a.1 ≤ b.1) := by
  have htrans : ∀ a b c : String × β, decide (a.1 ≤ b.1) → decide (b.1 ≤ c.1) →
      decide (a.1 ≤ c.1) := by
    intro a b c hab hbc
    simpa using String.le_trans (by simpa using hab) (by simpa using hbc)
  have htotal : ∀ a b : String × β, decide (a.1 ≤ b.1) || decide (b.1 ≤ a.1) := by
    intro a b
    simpa using String.le_total a.1 b.1
  simpa [sorted] using List.pairwise_mergeSort htrans htotal t

theorem pairwise_lt_sorted (h : t.keys.Nodup) : t.sorted.Pairwise (fun a b => a.1 < b.1) := by
  have hne : t.sorted.Pairwise (fun a b => a.1 ≠ b.1) :=
    List.pairwise_map.mp (nodup_keys_sorted h)
  refine t.pairwise_le_sorted.imp₂ (fun a b hle hne => ?_) hne
  exact String.not_le.mp fun hge => hne (String.le_antisymm hle hge)

/-- A table in ascending order is what sorting makes of its entries in any order. -/
theorem sorted_eq_of_perm (hp : t.Perm u) (hu : u.Pairwise (fun a b => a.1 < b.1)) :
    t.sorted = u := by
  have hkeys : t.keys.Nodup := by
    refine (hp.map Prod.fst).nodup_iff.mpr (List.pairwise_map.mpr (hu.imp fun hlt => ?_))
    exact String.ne_of_lt hlt
  refine List.Perm.eq_of_pairwise ?_ (pairwise_lt_sorted hkeys) hu (t.sorted_perm.trans hp)
  intro a b _ _ hab hba
  exact absurd hba (String.lt_asymm hab)

/-- When no name repeats, what is found under a name is what stands beside it. -/
theorem get?_eq_some_iff_mem (h : t.keys.Nodup) {key : String} {value : β} :
    t.get? key = some value ↔ (key, value) ∈ t := by
  refine ⟨mem_of_get?, fun hm => ?_⟩
  induction t with
  | nil => cases hm
  | cons e t ih =>
    obtain ⟨hnew, hrest⟩ := List.nodup_cons.mp h
    rcases List.mem_cons.mp hm with rfl | hm
    · exact if_pos rfl
    · have hne : e.1 ≠ key := fun he => hnew (he ▸ List.mem_map_of_mem hm)
      rw [get?, if_neg hne, ih hrest hm]

/-- Sorting changes the order of the entries and nothing else. -/
theorem get?_sorted (h : t.keys.Nodup) (key : String) : t.sorted.get? key = t.get? key := by
  refine Option.ext fun value => ?_
  rw [get?_eq_some_iff_mem (nodup_keys_sorted h), get?_eq_some_iff_mem h]
  exact t.sorted_perm.mem_iff

end RuntimeImage.Table
