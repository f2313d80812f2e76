import DetailPanel.Flags
import DetailPanel.Throttle

/-!
# Trackers

A tracker keeps the flags of one panel.  It may listen to the selection, and
while it does, it may be bound to the result that it watches.  Each binding has
a throttle of its own and a generation that no other binding of the tracker
ever has, by which a notice meant for an earlier binding is told apart.
-/

namespace DetailPanel

/-- Results are numbered from one in the order in which they were added. -/
abbrev ResultId := Nat

structure Binding where
  result : ResultId
  generation : Nat
  throttle : Throttle
  /-- The entry among the listeners of the result. -/
  subscription : Nat
  deriving DecidableEq, Repr

/-- The subscriptions of a tracker that listens. -/
structure Listening where
  onResult : Nat
  onCard : Nat
  binding : Option Binding := none
  deriving DecidableEq, Repr

structure Tracker where
  name : String
  window : Nat
  /-- Whether time is read from the wall.  The root node of such a tracker is not
  traced. -/
  wall : Bool := false
  root : ClassList := {}
  flags : Flags := {}
  recomputes : Nat := 0
  generation : Nat := 0
  listening : Option Listening := none
  deriving DecidableEq, Repr

namespace Tracker

inductive State where
  | unbound
  | idle
  | watching (result : ResultId)
  deriving DecidableEq, Repr

def binding (t : Tracker) : Option Binding := t.listening.bind (·.binding)

def state (t : Tracker) : State :=
  match t.listening with
  | none => .unbound
  | some l => l.binding.elim .idle fun b => .watching b.result

def deadline (t : Tracker) : Option Nat := t.binding.bind (·.throttle.deadline)

/-- The time that this tracker reads. -/
def time (t : Tracker) (c : Clock) : Nat := if t.wall then c.wall else c.now

def setBinding (t : Tracker) (b : Option Binding) : Tracker :=
  { t with listening := t.listening.map fun l => { l with binding := b } }

/-- Store new flags and show them. -/
def paint (t : Tracker) (f : Flags) : Tracker :=
  { t with root := f.applyTo t.root, flags := f, recomputes := t.recomputes + 1 }

/-- A lifecycle notice for the binding of a generation arms its throttle. -/
def arm (t : Tracker) (generation now : Nat) : Tracker :=
  match t.binding with
  | some b =>
      if b.generation = generation then
        t.setBinding (some { b with throttle := (b.throttle.trigger now).2 })
      else t
  | none => t

/-- Whether a throttled recompute is due at `now`; if so, it is taken to be run. -/
def takeDue (t : Tracker) (now : Nat) : Bool × Tracker :=
  match t.binding with
  | some b =>
      let (due, throttle) := b.throttle.poll now
      (due, t.setBinding (some { b with throttle }))
  | none => (false, t)

def State.describe : State → String
  | .unbound => "Unbound"
  | .idle => "Idle"
  | .watching r => s!"Watching(ResultId(#{r}))"

def describe (t : Tracker) : String :=
  s!"SelectionTracker \x7b state: {t.state.describe}, flags: {t.flags.describe}, " ++
    s!"generation: {t.generation} \x7d"

end Tracker

end DetailPanel
