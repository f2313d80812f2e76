/-!
# A clock that moves when told

Times are whole milliseconds since the clock's origin.  There is no latest time
here: the clock does not wrap and an addition always has a result, where the
instants of a platform end somewhere and an addition past that end fails.  A time
is reduced to 64 bits only where it is written down.

Panels may be timed by the wall instead.  It moves on by itself (`pass`), by any
amount between one call and the next, and no move of the clock tells anything
about it; within a call it stands still.
-/

namespace DetailPanel

structure Clock where
  now : Nat := 0
  /-- What the wall reads.  It starts later than the origin of the clock. -/
  wall : Nat := 1
  deriving DecidableEq, Repr

namespace Clock

def advance (c : Clock) (ms : Nat) : Clock := { c with now := c.now + ms }

/-- Jump to a moment, which may lie before the origin; a clock never goes back. -/
def advanceTo (c : Clock) (target : Int) : Clock := { c with now := max c.now target.toNat }

/-- Time passes on the wall. -/
def pass (c : Clock) (ms : Nat) : Clock := { c with wall := c.wall + ms }

theorem now_le_advanceTo (c : Clock) (target : Int) : c.now ≤ (c.advanceTo target).now :=
  Nat.le_max_left ..

theorem advanceTo_natCast (c : Clock) (t : Nat) : (c.advanceTo t).now = max c.now t := rfl

end Clock

/-- How a time is written: the low 64 bits of its count of milliseconds. -/
def writtenTime (t : Nat) : UInt64 := t.toUInt64

end DetailPanel
