import DetailPanel.Clock

/-!
# A trailing throttle

The first trigger opens a window; whatever else comes in before the window
closes is absorbed, and one poll at or after the deadline fires.  Moments and
the window are counted in milliseconds.

The main statement is `poll_deadline`: a poll at the deadline always fires, so
a loop that polls at deadlines makes progress.
-/

namespace DetailPanel

structure Throttle where
  window : Nat
  /-- When the open window was opened. -/
  armedAt : Option Nat := none
  /-- Triggers since then that changed nothing, counted up to `absorbedLimit`. -/
  absorbed : Nat := 0
  deriving DecidableEq, Repr

namespace Throttle

def absorbedLimit : Nat := 4294967295

def isPending (t : Throttle) : Bool := t.armedAt.isSome

def deadline (t : Throttle) : Option Nat := t.armedAt.map (· + t.window)

/-- Open a window if none is open; the answer says whether this trigger did. -/
def trigger (t : Throttle) (now : Nat) : Bool × Throttle :=
  match t.armedAt with
  | some _ => (false, { t with absorbed := min absorbedLimit (t.absorbed + 1) })
  | none => (true, { t with armedAt := some now, absorbed := 0 })

/-- Whether the window has closed by `now`.  A moment before the arming counts
as the arming itself. -/
def isDue (t : Throttle) (now : Nat) : Bool :=
  match t.armedAt with
  | some since => decide (t.window ≤ now - since)
  | none => false

/-- Fire if the window has closed. -/
def poll (t : Throttle) (now : Nat) : Bool × Throttle :=
  if t.isDue now then (true, { t with armedAt := none }) else (false, t)

/-- Give the open window up; the answer says whether there was one. -/
def cancel (t : Throttle) : Bool × Throttle :=
  (t.isPending, { t with armedAt := none, absorbed := 0 })

/-! ## Polls and deadlines -/

theorem isDue_of_deadline_le {t : Throttle} {d now : Nat} (h : t.deadline = some d)
    (hd : d ≤ now) : t.isDue now = true := by
  obtain ⟨since, hs, rfl⟩ := Option.map_eq_some_iff.1 h
  have hle : since + t.window ≤ now := hd
  simp only [isDue, hs, decide_eq_true_eq]
  omega

theorem poll_deadline {t : Throttle} {d now : Nat} (h : t.deadline = some d) (hd : d ≤ now) :
    t.poll now = (true, { t with armedAt := none }) := by
  simp [poll, isDue_of_deadline_le h hd]

end Throttle

end DetailPanel
