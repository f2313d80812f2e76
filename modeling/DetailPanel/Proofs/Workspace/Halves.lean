import DetailPanel.Proofs.Metacard
import DetailPanel.Proofs.Workspace.Moves

/-!
# The halves of the selection

A result and a metacard are selected independently, each on a channel of its
own.  What holds of setting the one holds of setting the other, with its own
idea of what differs and of what is announced.

    w.setHalf h v = (false, [], w)                       if v does not differ
    w.setHalf h v = (true, announced, w.assign h v)      if it does     (setHalf_spec)
-/

namespace DetailPanel

/-- A half of the selection. -/
inductive Half where
  | result
  | card
  deriving DecidableEq

namespace Half

/-- What can be selected. -/
abbrev Value : Half → Type
  | .result => ResultId
  | .card => Metacard

/-- What an announcement tells of it. -/
abbrev Id : Half → Type
  | .result => ResultId
  | .card => String

def channel : Half → Channel
  | .result => .result
  | .card => .card

def id : (h : Half) → h.Value → h.Id
  | .result, r => r
  | .card, c => c.id

/-- Results differ by identity and metacards by value; something differs from nothing. -/
def Differ : (h : Half) → Option h.Value → Option h.Value → Prop
  | .result, a, b => a ≠ b
  | .card, a, b => a.map Metacard.normal ≠ b.map Metacard.normal

/-- The notice of a change. -/
def notice : (h : Half) → (previous current : Option h.Id) → Notice
  | .result, a, b => .resultChanged a b
  | .card, a, b => .cardChanged a b

/-- The change that a notice tells of, if it is one of this half. -/
def change? : (h : Half) → Notice → Option (Option h.Id × Option h.Id)
  | .result, .resultChanged a b => some (a, b)
  | .card, .cardChanged a b => some (a, b)
  | _, _ => none

@[simp] theorem change?_notice (h : Half) (a b : Option h.Id) :
    h.change? (h.notice a b) = some (a, b) := by
  cases h <;> rfl

theorem change?_eq_some {h : Half} {n : Notice} {c : Option h.Id × Option h.Id} :
    h.change? n = some c ↔ n = h.notice c.1 c.2 := by
  constructor
  · intro hn
    obtain ⟨a, b⟩ := c
    cases h <;> cases n <;> simp_all [change?, notice]
  · rintro rfl
    exact h.change?_notice c.1 c.2

/-- A notice that tells of a change of one half tells nothing of the other. -/
theorem notice_inj {h g : Half} {a b : Option h.Id} {c d : Option g.Id}
    (heq : h.notice a b = g.notice c d) : h = g := by
  cases h <;> cases g <;> first | rfl | cases heq

theorem lifecycle_ne_notice {h : Half} {e : LifecycleEvent} {a b : Option h.Id} :
    .lifecycle e ≠ h.notice a b := by
  cases h <;> exact nofun

end Half

namespace Workspace

variable {w w' : Workspace}

/-- What is selected of a half. -/
def stored (w : Workspace) : (h : Half) → Option h.Value
  | .result => w.result
  | .card => w.card

/-- The id of what is selected. -/
def storedId (w : Workspace) (h : Half) : Option h.Id := (w.stored h).map h.id

/-- Store a value, and tell nobody. -/
def assign (w : Workspace) : (h : Half) → Option h.Value → Workspace
  | .result, r => { w with result := r }
  | .card, card => { w with card }

/-- Set a half of the selection. -/
def setHalf (w : Workspace) : (h : Half) → Option h.Value → Bool × List Delivery × Workspace
  | .result, r => w.selectResult r
  | .card, card => w.selectCard card

@[simp] theorem stored_assign (w : Workspace) (h : Half) (v : Option h.Value) :
    (w.assign h v).stored h = v := by
  cases h <;> rfl

theorem stored_assign_of_ne {h g : Half} (hne : g ≠ h) (v : Option h.Value) :
    (w.assign h v).stored g = w.stored g := by
  cases h <;> cases g <;> first | rfl | exact absurd rfl hne

theorem PanelsOnly.stored (hw : PanelsOnly w w') (h : Half) : w'.stored h = w.stored h := by
  cases h with
  | result => exact hw.result
  | card => exact hw.card

/-- Metacards are the same if they do not differ by value. -/
theorem sameCard_iff (a b : Option Metacard) :
    sameCard a b ↔ a.map Metacard.normal = b.map Metacard.normal := by
  cases a <;> cases b <;> simp [sameCard, Metacard.same_iff]

/-- A value that does not differ changes nothing and is announced to nobody; one
that does is stored, and announced to all who listen on its channel. -/
theorem setHalf_spec (w : Workspace) (h : Half) (v : Option h.Value) :
    ¬ h.Differ (w.stored h) v ∧ w.setHalf h v = (false, [], w) ∨
      h.Differ (w.stored h) v ∧ w.setHalf h v =
        (true, w.announce h.channel (h.notice (w.storedId h) (v.map h.id)), w.assign h v) := by
  cases h with
  | result =>
      rcases w.selectResult_spec v with ⟨hsame, heq⟩ | ⟨hne, heq⟩
      · exact .inl ⟨not_not_intro hsame, heq⟩
      · have hid : ∀ r : Option ResultId, r.map Half.result.id = r := fun _ => Option.map_id'
        refine .inr ⟨hne, heq.trans ?_⟩
        simp only [storedId, stored, hid, Half.notice, Half.channel, assign]
  | card =>
      rcases w.selectCard_spec v with ⟨hsame, heq⟩ | ⟨hne, heq⟩
      · exact .inl ⟨not_not_intro ((sameCard_iff ..).1 hsame), heq⟩
      · have hdiffer : w.card.map Metacard.normal ≠ v.map Metacard.normal := fun hsame =>
          Bool.false_ne_true (hne.symm.trans ((sameCard_iff ..).2 hsame))
        exact .inr ⟨hdiffer, heq⟩

end Workspace

end DetailPanel
