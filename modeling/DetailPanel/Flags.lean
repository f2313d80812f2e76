/-!
# Status flags and class lists

The panel shows two flags on its root node, each as a class that is there or
not.  A class list is kept in ascending order without repetitions.
-/

namespace DetailPanel

structure Flags where
  notFound : Bool := false
  isSearching : Bool := false
  deriving DecidableEq, Repr

/-- The classes that a node carries. -/
structure ClassList where
  classes : List String := []
  deriving DecidableEq, Repr

namespace ClassList

def has (n : ClassList) (c : String) : Bool := n.classes.contains c

/-- Insert into an ascending list, once. -/
def insertSorted (c : String) : List String → List String
  | [] => [c]
  | d :: ds => if c = d then d :: ds else if c < d then c :: d :: ds else d :: insertSorted c ds

def toggle (n : ClassList) (c : String) (on : Bool) : ClassList :=
  if on then ⟨insertSorted c n.classes⟩ else ⟨n.classes.filter (· != c)⟩

/-! ## What toggling does to membership -/

theorem mem_insertSorted (b c : String) (ds : List String) :
    b ∈ insertSorted c ds ↔ b = c ∨ b ∈ ds := by
  induction ds with
  | nil => simp [insertSorted]
  | cons d ds ih =>
      unfold insertSorted
      split
      · rename_i h
        subst h
        simp
      · split
        · simp
        · simp only [List.mem_cons, ih]
          exact or_left_comm

theorem has_toggle (n : ClassList) (b c : String) (on : Bool) :
    (n.toggle c on).has b = if b = c then on else n.has b := by
  have key : (n.toggle c on).has b = true ↔ (if b = c then on else n.has b) = true := by
    by_cases hb : b = c <;> cases on <;> simp [toggle, has, mem_insertSorted, hb]
  exact Bool.eq_iff_iff.2 key

end ClassList

namespace Flags

def notFoundClass : String := "not-found"
def isSearchingClass : String := "is-searching"

/-- The toggles that show the flags, in order. -/
def toggles (f : Flags) : List (String × Bool) :=
  [(notFoundClass, f.notFound), (isSearchingClass, f.isSearching)]

/-- Show the flags on a node; its other classes stay. -/
def applyTo (f : Flags) (n : ClassList) : ClassList :=
  f.toggles.foldl (fun n t => n.toggle t.1 t.2) n

/-- A letter or a dash for each flag. -/
def brief (f : Flags) : String :=
  (if f.notFound then "N" else "-") ++ if f.isSearching then "S" else "-"

def describe (f : Flags) : String :=
  s!"DisplayFlags \x7b not_found: {f.notFound}, is_searching: {f.isSearching} \x7d"

theorem has_applyTo (f : Flags) (n : ClassList) (c : String) :
    (f.applyTo n).has c =
      if c = isSearchingClass then f.isSearching
      else if c = notFoundClass then f.notFound else n.has c := by
  simp [applyTo, toggles, ClassList.has_toggle]

end Flags

end DetailPanel
