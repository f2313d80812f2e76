import DetailPanel.Metacard

/-!
# Metacards by value

Two metacards are the same if their ids, their titles and their attributes
agree.  Attributes are trees, and agree if they are equal; only of the two zeros
among the doubles each passes for the other (`normal`).

    a.same b ↔ a.normal = b.normal               (Value.same_iff, Metacard.same_iff)
-/

namespace DetailPanel

namespace Json

/-- The number with the zero of positive sign for that of negative sign. -/
def Number.normal : Number → Number
  | .double bits => .double (if isZeroDouble bits then 0 else bits)
  | n => n

def Atom.normal : Atom → Atom
  | .number n => .number n.normal
  | a => a

namespace Value

mutual
def normal : Value → Value
  | .atom a => .atom a.normal
  | .array items => .array (normalItems items)
  | .object entries => .object (normalEntries entries)
def normalItems : List Value → List Value
  | [] => []
  | v :: vs => normal v :: normalItems vs
def normalEntries : List (String × Value) → List (String × Value)
  | [] => []
  | (k, v) :: es => (k, normal v) :: normalEntries es
end

end Value

theorem Number.same_iff (a b : Number) : a.same b ↔ a.normal = b.normal := by
  cases a with
  | natural m => cases b <;> simp [same, normal]
  | negSucc m => cases b <;> simp [same, normal]
  | double x =>
      cases b with
      | natural n => simp [same, normal]
      | negSucc n => simp [same, normal]
      | double y =>
          have hzero : isZeroDouble 0 := rfl
          simp only [same, normal, Bool.or_eq_true, beq_iff_eq, Bool.and_eq_true, double.injEq]
          split <;> split <;> rename_i hx hy
          · simp [hx, hy]
          · have hne : x ≠ y := by rintro rfl; exact hy hx
            have hne' : 0 ≠ y := by rintro rfl; exact hy hzero
            simp [hy, hne, hne']
          · have hne : x ≠ y := by rintro rfl; exact hx hy
            have hne' : x ≠ 0 := by rintro rfl; exact hx hzero
            simp [hx, hne, hne']
          · simp [hx]

theorem Atom.same_iff (a b : Atom) : a.same b ↔ a.normal = b.normal := by
  cases a with
  | number m =>
      cases b with
      | number n => simp [same, normal, Number.same_iff]
      | null | bool | text => simp [same, normal]
  | null | bool | text => cases b <;> simp [same, normal]

namespace Value

mutual
theorem same_iff (a b : Value) : a.same b ↔ a.normal = b.normal := by
  cases a with
  | atom a => cases b <;> simp [same, normal, Atom.same_iff]
  | array as =>
      cases b with
      | array bs => simp [same, normal, sameItems_iff as bs]
      | atom | object => simp [same, normal]
  | object as =>
      cases b with
      | object bs => simp [same, normal, sameEntries_iff as bs]
      | atom | array => simp [same, normal]
theorem sameItems_iff (as bs : List Value) :
    sameItems as bs ↔ normalItems as = normalItems bs := by
  cases as with
  | nil => cases bs <;> simp [sameItems, normalItems]
  | cons a as =>
      cases bs with
      | nil => simp [sameItems, normalItems]
      | cons b bs => simp [sameItems, normalItems, same_iff a b, sameItems_iff as bs]
theorem sameEntries_iff (as bs : List (String × Value)) :
    sameEntries as bs ↔ normalEntries as = normalEntries bs := by
  cases as with
  | nil => cases bs <;> simp [sameEntries, normalEntries]
  | cons e as =>
      obtain ⟨j, a⟩ := e
      cases bs with
      | nil => simp [sameEntries, normalEntries]
      | cons e' bs =>
          obtain ⟨k, b⟩ := e'
          simp [sameEntries, normalEntries, same_iff a b, sameEntries_iff as bs, and_assoc]
end

end Value

end Json

namespace Metacard

/-- What a metacard is as a value. -/
def normal (c : Metacard) : Metacard :=
  { c with attributes := Json.Value.normalEntries c.attributes }

theorem same_iff (a b : Metacard) : a.same b ↔ a.normal = b.normal := by
  obtain ⟨id, title, attributes⟩ := a
  obtain ⟨id', title', attributes'⟩ := b
  simp [same, normal, Json.Value.sameEntries_iff, and_assoc]

end Metacard

end DetailPanel
