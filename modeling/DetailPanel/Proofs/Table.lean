import DetailPanel.Table

/-!
# Tables without repeated keys

A table that starts empty lists every key once (`Distinct`), so its pairs are
its look-ups and counting pairs is counting keys.

    t.Distinct → (t.set k v).Distinct
    t.Distinct → ((k, v) ∈ t ↔ t.get? k = some v)               (Distinct.mem_iff)
-/

namespace DetailPanel.Table

variable {κ α : Type} [DecidableEq κ] {k : κ} {v : α} {t : Table κ α}

/-- No key is listed twice. -/
def Distinct (t : Table κ α) : Prop := (t.map (·.1)).Nodup

omit [DecidableEq κ] in
theorem distinct_nil : Distinct ([] : Table κ α) := List.nodup_nil

/-- A key that is overwritten stays in its place; a new one goes to the end. -/
theorem keys_set (k : κ) (v : α) (t : Table κ α) :
    (set k v t).map (·.1) = if k ∈ t.map (·.1) then t.map (·.1) else t.map (·.1) ++ [k] := by
  induction t with
  | nil => simp [set]
  | cons e t ih =>
      obtain ⟨k', v'⟩ := e
      by_cases hk : k = k'
      · simp [set, hk]
      · simp only [set, hk, if_false, List.map_cons, ih, List.mem_cons, false_or]
        split <;> rfl

theorem Distinct.set (h : t.Distinct) (k : κ) (v : α) : (t.set k v).Distinct := by
  rw [Distinct, keys_set]
  split
  · exact h
  · rename_i hk
    refine List.nodup_append.2 ⟨h, by simp, fun a ha b hb => ?_⟩
    obtain rfl := List.mem_singleton.1 hb
    rintro rfl
    exact hk ha

theorem keys_modify (k : κ) (f : α → α) (t : Table κ α) :
    (modify k f t).map (·.1) = t.map (·.1) := by
  induction t with
  | nil => rfl
  | cons e t ih =>
      obtain ⟨k', v'⟩ := e
      by_cases hk : k = k' <;> simp [modify, hk, ih]

theorem Distinct.modify (h : t.Distinct) (k : κ) (f : α → α) : (t.modify k f).Distinct := by
  rwa [Distinct, keys_modify]

theorem sublist_erase (k : κ) (t : Table κ α) : (erase k t).Sublist t := by
  induction t with
  | nil => exact .refl _
  | cons e t ih =>
      obtain ⟨k', v'⟩ := e
      by_cases hk : k = k'
      · simpa [erase, hk] using .cons (k', v') (hk ▸ ih)
      · simpa [erase, hk] using ih

theorem Distinct.erase (h : t.Distinct) (k : κ) : (t.erase k).Distinct :=
  h.sublist ((sublist_erase k t).map _)

/-- The pairs of a table are its look-ups. -/
theorem Distinct.mem_iff (h : t.Distinct) : (k, v) ∈ t ↔ t.get? k = some v := by
  induction t with
  | nil => simp
  | cons e t ih =>
      obtain ⟨k', v'⟩ := e
      obtain ⟨hnew, ht⟩ := List.nodup_cons.1 h
      by_cases hk : k = k'
      · subst hk
        have hnone : (k, v) ∉ t := fun hmem => hnew (List.mem_map.2 ⟨_, hmem, rfl⟩)
        simp [get?, hnone, eq_comm]
      · simpa [get?, hk] using ih ht

end DetailPanel.Table
