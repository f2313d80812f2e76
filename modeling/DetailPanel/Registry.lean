/-!
# Subscriber registries

A registry hands out ascending subscription numbers, starting at one, and
keeps its subscribers in the order of their subscription.  What is called back
is a value of the type `κ`: the registry stores it and does not look into it.
Cancelling removes one entry and leaves the order of the others; a number is
never handed out again.
-/

namespace DetailPanel

structure Registry (κ : Type) where
  nextId : Nat := 1
  entries : List (Nat × κ) := []
  deriving DecidableEq, Repr

namespace Registry

variable {κ : Type}

def subscribe (r : Registry κ) (subscriber : κ) : Nat × Registry κ :=
  (r.nextId, { nextId := r.nextId + 1, entries := r.entries ++ [(r.nextId, subscriber)] })

def cancel (r : Registry κ) (id : Nat) : Registry κ :=
  { r with entries := r.entries.filter (·.1 != id) }

/-- Those to be called back when something is announced now, in order. -/
def subscribers (r : Registry κ) : List κ := r.entries.map (·.2)

def size (r : Registry κ) : Nat := r.entries.length

def isEmpty (r : Registry κ) : Bool := r.size == 0

end Registry

/-- The owner's end of a subscription.  It cancels once, on whichever comes
first of an explicit `unsubscribe` and being dropped. -/
structure Handle where
  id : Nat
  active : Bool := true
  deriving DecidableEq, Repr

namespace Handle

variable {κ : Type}

def cancel (h : Handle) (r : Registry κ) : Handle × Registry κ :=
  if h.active then ({ h with active := false }, r.cancel h.id) else (h, r)

def drop (h : Handle) (r : Registry κ) : Registry κ := (h.cancel r).2

/-- Cancel, and then drop the spent handle. -/
def unsubscribe (h : Handle) (r : Registry κ) : Registry κ :=
  let (h', r') := h.cancel r
  h'.drop r'

theorem unsubscribe_eq_drop (h : Handle) (r : Registry κ) : h.unsubscribe r = h.drop r := by
  cases hb : h.active <;> simp [unsubscribe, drop, cancel, hb]

end Handle

namespace Registry

variable {κ : Type}

/-! ## What the operations do to the list of subscribers -/

@[simp] theorem subscribers_subscribe (r : Registry κ) (s : κ) :
    (r.subscribe s).2.subscribers = r.subscribers ++ [s] := by
  simp [subscribe, subscribers]

theorem mem_entries_cancel {r : Registry κ} {id : Nat} {e : Nat × κ} :
    e ∈ (r.cancel id).entries ↔ e ∈ r.entries ∧ e.1 ≠ id := by
  simp [cancel]

end Registry

end DetailPanel
