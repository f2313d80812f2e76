import DetailPanel.Registry

/-!
# Registries in ascending order

A registry that starts empty lists its subscribers by ascending numbers, all
of them below the number that it hands out next (`Ascending`).  So a number
stands for one entry, and cancelling it takes away that entry and no other.
-/

namespace DetailPanel.Registry

variable {κ : Type}

theorem mem_entries_subscribe {r : Registry κ} {s : κ} {e : Nat × κ} :
    e ∈ (r.subscribe s).2.entries ↔ e ∈ r.entries ∨ e = (r.nextId, s) := by
  simp [subscribe]

theorem mem_subscribers {r : Registry κ} {s : κ} :
    s ∈ r.subscribers ↔ ∃ id, (id, s) ∈ r.entries := by
  simp [subscribers]

/-- Numbers ascend along the list, and the next one is new. -/
structure Ascending (r : Registry κ) : Prop where
  ordered : r.entries.Pairwise fun a b => a.1 < b.1
  below : ∀ e ∈ r.entries, e.1 < r.nextId

theorem ascending_empty : ({} : Registry κ).Ascending := ⟨.nil, by simp⟩

theorem Ascending.subscribe {r : Registry κ} (h : r.Ascending) (s : κ) :
    (r.subscribe s).2.Ascending := by
  refine ⟨?_, ?_⟩
  · simp only [Registry.subscribe]
    refine List.pairwise_append.2 ⟨h.ordered, by simp, ?_⟩
    intro a ha b hb
    obtain rfl := List.mem_singleton.1 hb
    exact h.below a ha
  · intro e he
    rcases mem_entries_subscribe.1 he with he | rfl
    · exact Nat.lt_succ_of_lt (h.below e he)
    · exact Nat.lt_succ_self _

theorem Ascending.cancel {r : Registry κ} (h : r.Ascending) (id : Nat) :
    (r.cancel id).Ascending :=
  ⟨h.ordered.filter _, fun e he => h.below e (mem_entries_cancel.1 he).1⟩

/-- A number stands for one entry. -/
theorem Ascending.eq_of_id {r : Registry κ} (h : r.Ascending) {a b : Nat × κ}
    (ha : a ∈ r.entries) (hb : b ∈ r.entries) (hid : a.1 = b.1) : a = b := by
  obtain ⟨i, hi, rfl⟩ := List.mem_iff_getElem.1 ha
  obtain ⟨j, hj, rfl⟩ := List.mem_iff_getElem.1 hb
  rcases Nat.lt_trichotomy i j with hij | rfl | hij
  · have := List.pairwise_iff_getElem.1 h.ordered i j hi hj hij
    omega
  · rfl
  · have := List.pairwise_iff_getElem.1 h.ordered j i hj hi hij
    omega

/-- Cancelling an entry takes away that entry and no other. -/
theorem Ascending.mem_cancel {r : Registry κ} (h : r.Ascending) {a e : Nat × κ}
    (ha : a ∈ r.entries) : e ∈ (r.cancel a.1).entries ↔ e ∈ r.entries ∧ e ≠ a := by
  rw [mem_entries_cancel]
  refine and_congr_right fun he => not_congr ⟨fun hid => h.eq_of_id he ha hid, ?_⟩
  rintro rfl
  rfl

/-- Cancelling an entry closes the gap that it leaves. -/
theorem Ascending.exists_cancel {r : Registry κ} (h : r.Ascending) {e : Nat × κ}
    (he : e ∈ r.entries) : ∃ front back, r.entries = front ++ e :: back ∧
    r.cancel e.1 = { r with entries := front ++ back } := by
  obtain ⟨front, back, heq⟩ := List.append_of_mem he
  have hordered := h.ordered
  rw [heq] at hordered
  obtain ⟨-, hback, hfront⟩ := List.pairwise_append.1 hordered
  have hkeepFront : front.filter (·.1 != e.1) = front := by
    refine List.filter_eq_self.2 fun a ha => ?_
    have hlt := hfront a ha e (by simp)
    simpa using Nat.ne_of_lt hlt
  have hkeepBack : back.filter (·.1 != e.1) = back := by
    refine List.filter_eq_self.2 fun a ha => ?_
    have hlt := (List.pairwise_cons.1 hback).1 a ha
    simpa using Nat.ne_of_gt hlt
  refine ⟨front, back, heq, ?_⟩
  rw [Registry.cancel, heq, List.filter_append, hkeepFront, List.filter_cons_of_neg (by simp),
    hkeepBack]

/-- The next number stands for no entry yet. -/
theorem Ascending.nextId_notMem {r : Registry κ} (h : r.Ascending) (s : κ) :
    (r.nextId, s) ∉ r.entries :=
  fun he => Nat.lt_irrefl _ (h.below _ he)

/-- What becomes of a registry: who is listed later was listed before, or has subscribed
in between and has a new number. -/
structure Grows (r r' : Registry κ) : Prop where
  nextId_le : r.nextId ≤ r'.nextId
  old_or_new : ∀ e ∈ r'.entries, e ∈ r.entries ∨ r.nextId ≤ e.1

theorem Grows.refl (r : Registry κ) : r.Grows r := ⟨Nat.le_refl _, fun _ he => .inl he⟩

theorem Grows.trans {r r' r'' : Registry κ} (h : r.Grows r') (h' : r'.Grows r'') :
    r.Grows r'' where
  nextId_le := Nat.le_trans h.nextId_le h'.nextId_le
  old_or_new e he := by
    rcases h'.old_or_new e he with hold | hnew
    · exact h.old_or_new e hold
    · exact .inr (Nat.le_trans h.nextId_le hnew)

theorem grows_subscribe (r : Registry κ) (s : κ) : r.Grows (r.subscribe s).2 where
  nextId_le := Nat.le_succ _
  old_or_new e he := by
    rcases mem_entries_subscribe.1 he with he | rfl
    · exact .inl he
    · exact .inr (Nat.le_refl _)

theorem grows_cancel (r : Registry κ) (id : Nat) : r.Grows (r.cancel id) where
  nextId_le := Nat.le_refl _
  old_or_new _ he := .inl (mem_entries_cancel.1 he).1

/-- Nobody subscribes under an old number, so who has one was listed all the time. -/
theorem Grows.mem_of_lt {r r' : Registry κ} (h : r.Grows r') {e : Nat × κ} (he : e ∈ r'.entries)
    (hlt : e.1 < r.nextId) : e ∈ r.entries :=
  (h.old_or_new e he).resolve_right (Nat.not_le_of_gt hlt)

/-- A registry with one entry lists that entry once. -/
theorem Ascending.entries_eq_singleton {r : Registry κ} (h : r.Ascending) {a : Nat × κ}
    (ha : ∀ e, e ∈ r.entries ↔ e = a) : r.entries = [a] := by
  have hnd : r.entries.Nodup := by
    refine h.ordered.imp ?_
    rintro a b hab rfl
    exact Nat.lt_irrefl _ hab
  have hperm : r.entries.Perm [a] :=
    (List.perm_ext_iff_of_nodup hnd (by simp)).2 (by simpa using ha)
  exact List.perm_singleton.1 hperm

end DetailPanel.Registry
