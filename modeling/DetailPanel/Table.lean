/-!
# Tables

A table pairs keys with values in the order of their first insertion.  `set`
overwrites in place, so the order of the keys shows when each was first used,
and listing a table by key is a separate step (`byKey`).

The statements say what each operation does to a look-up: `get?_set`,
`get?_erase`, `get?_modify`.
-/

namespace DetailPanel

abbrev Table (κ α : Type) := List (κ × α)

namespace Table

variable {κ α : Type} [DecidableEq κ]

def get? (k : κ) : Table κ α → Option α
  | [] => none
  | (k', v) :: t => if k = k' then some v else get? k t

def contains (k : κ) (t : Table κ α) : Bool := (get? k t).isSome

/-- Overwrite the entry of `k`, or add one at the end. -/
def set (k : κ) (v : α) : Table κ α → Table κ α
  | [] => [(k, v)]
  | (k', v') :: t => if k = k' then (k, v) :: t else (k', v') :: set k v t

def erase (k : κ) : Table κ α → Table κ α
  | [] => []
  | (k', v') :: t => if k = k' then erase k t else (k', v') :: erase k t

/-- Change the value of `k`, if there is one. -/
def modify (k : κ) (f : α → α) : Table κ α → Table κ α
  | [] => []
  | (k', v') :: t => if k = k' then (k', f v') :: t else (k', v') :: modify k f t

/-- The entries in ascending order of their keys. -/
def byKey (le : κ → κ → Bool) (t : Table κ α) : List (κ × α) :=
  t.mergeSort fun a b => le a.1 b.1

/-! ## Look-ups -/

@[simp] theorem get?_nil (k : κ) : get? k ([] : Table κ α) = none := rfl

theorem get?_set (j k : κ) (v : α) (t : Table κ α) :
    get? j (set k v t) = if j = k then some v else get? j t := by
  induction t with
  | nil => simp [set, get?]
  | cons e t ih =>
      obtain ⟨k', v'⟩ := e
      by_cases hk : k = k'
      · subst hk
        by_cases hj : j = k <;> simp [set, get?, hj]
      · by_cases hj : j = k'
        · subst hj
          simp [set, get?, hk, Ne.symm hk]
        · simp [set, get?, hk, hj, ih]

theorem get?_erase (j k : κ) (t : Table κ α) :
    get? j (erase k t) = if j = k then none else get? j t := by
  induction t with
  | nil => simp [erase, get?]
  | cons e t ih =>
      obtain ⟨k', v'⟩ := e
      by_cases hk : k = k'
      · subst hk
        simp only [erase, ↓reduceIte, ih, get?]
        by_cases hj : j = k <;> simp [hj]
      · by_cases hj : j = k'
        · subst hj
          simp [erase, get?, hk, Ne.symm hk]
        · simp [erase, get?, hk, hj, ih]

theorem get?_modify (j k : κ) (f : α → α) (t : Table κ α) :
    get? j (modify k f t) = if j = k then (get? j t).map f else get? j t := by
  induction t with
  | nil => simp [modify, get?]
  | cons e t ih =>
      obtain ⟨k', v'⟩ := e
      by_cases hk : k = k'
      · subst hk
        by_cases hj : j = k <;> simp [modify, get?, hj]
      · by_cases hj : j = k'
        · subst hj
          simp [modify, get?, hk, Ne.symm hk]
        · simp [modify, get?, hk, hj, ih]

end Table

end DetailPanel
