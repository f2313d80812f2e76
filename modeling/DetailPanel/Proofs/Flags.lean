import DetailPanel.Flags
import Mathlib.Data.List.Sort
import Mathlib.Data.String.Basic

/-!
# Class lists as sets

A class list that is kept in order is known by the classes that it has, and
toggling keeps it in order.  So flags that are shown hide whatever flags were shown
before.

    n.Ascending → n'.Ascending → (∀ c, n.has c = n'.has c) → n = n'     (Ascending.ext)
    n.Ascending → f.applyTo (g.applyTo n) = f.applyTo n                 (applyTo_shown)
-/

namespace DetailPanel

namespace ClassList

variable {n n' : ClassList}

/-- The classes are in ascending order, without repetitions. -/
def Ascending (n : ClassList) : Prop := n.classes.Pairwise (· < ·)

instance : Decidable n.Ascending := inferInstanceAs (Decidable (n.classes.Pairwise (· < ·)))

theorem ascending_empty : ({} : ClassList).Ascending := List.Pairwise.nil

theorem pairwise_insertSorted {c : String} {ds : List String} (h : ds.Pairwise (· < ·)) :
    (insertSorted c ds).Pairwise (· < ·) := by
  induction ds with
  | nil => exact List.pairwise_singleton ..
  | cons d ds ih =>
      obtain ⟨hd, hds⟩ := List.pairwise_cons.1 h
      unfold insertSorted
      split
      · exact h
      · rename_i hne
        split
        · rename_i hlt
          refine List.pairwise_cons.2 ⟨fun b hb => ?_, h⟩
          rcases List.mem_cons.1 hb with rfl | hb
          · exact hlt
          · exact lt_trans hlt (hd b hb)
        · rename_i hnlt
          refine List.pairwise_cons.2 ⟨fun b hb => ?_, ih hds⟩
          rcases (mem_insertSorted b c ds).1 hb with rfl | hb
          · exact lt_of_le_of_ne (not_lt.1 hnlt) (Ne.symm hne)
          · exact hd b hb

theorem Ascending.toggle (h : n.Ascending) (c : String) (on : Bool) : (n.toggle c on).Ascending := by
  unfold ClassList.toggle
  split
  · exact pairwise_insertSorted h
  · exact List.Pairwise.filter _ h

/-- A class list is known by the classes that it has. -/
theorem Ascending.ext (h : n.Ascending) (h' : n'.Ascending) (hc : ∀ c, n.has c = n'.has c) :
    n = n' := by
  have hmem : ∀ c, c ∈ n.classes ↔ c ∈ n'.classes := by
    intro c
    simpa [has] using congrArg (· = true) (hc c)
  obtain ⟨classes⟩ := n
  obtain ⟨classes'⟩ := n'
  exact congrArg ClassList.mk (List.Pairwise.eq_of_mem_iff h h' hmem)

end ClassList

namespace Flags

variable {n : ClassList}

theorem ascending_applyTo (h : n.Ascending) (f : Flags) : (f.applyTo n).Ascending :=
  (h.toggle notFoundClass f.notFound).toggle isSearchingClass f.isSearching

/-- Flags that were shown before leave no trace. -/
theorem applyTo_shown (h : n.Ascending) (f g : Flags) : f.applyTo (g.applyTo n) = f.applyTo n := by
  refine (ascending_applyTo (ascending_applyTo h g) f).ext (ascending_applyTo h f) fun c => ?_
  simp only [has_applyTo]
  split
  · rfl
  · split <;> rfl

/-- The flags can be read off the node that shows them. -/
theorem has_classes_applyTo (f : Flags) (n : ClassList) :
    (f.applyTo n).has notFoundClass = f.notFound ∧
      (f.applyTo n).has isSearchingClass = f.isSearching := by
  simp [has_applyTo, notFoundClass, isSearchingClass]

end Flags

end DetailPanel
