import DetailPanel.Agenda
import DetailPanel.Registry
import DetailPanel.Script
import DetailPanel.Table

/-!
# A switchboard

One registry, named subscriptions to it, and callbacks that may themselves
subscribe, unsubscribe, emit or close the registry while an event is being
delivered.  An event goes to those who were registered when it was emitted; an
event emitted during a delivery is delivered completely before the delivery
goes on.  Both follow from the agenda: emitting puts one delivery per
subscriber in front of all else that is waiting.
-/

namespace DetailPanel

namespace Switchboard

inductive Step where
  | subscribe (name : String) (script : Script Step)
  | unsubscribe (name : String)
  | drop (name : String)
  | emit (event : String)
  /-- Give the registry up; deliveries under way go on. -/
  | close

structure Callback where
  name : String
  script : Script Step

structure Call where
  name : String
  event : String
  deriving DecidableEq, Repr

inductive Job where
  | step (step : Step)
  /-- Call the subscriber of this number back. -/
  | deliver (subscriber : Nat) (event : String)

inductive Answer where
  | nothing
  | subscribed (id : Nat)
  /-- Whether there was something to give up. -/
  | found (was : Bool)
  deriving DecidableEq, Repr

end Switchboard

open Switchboard in
structure Switchboard where
  /-- Its entries name a position in `callbacks`. -/
  registry : Option (Registry Nat) := some {}
  handles : Table String Handle := []
  callbacks : List Callback := []
  /-- All calls so far, in order. -/
  calls : List Call := []

namespace Switchboard

/-- Give up the handle of a name, if it has one; `release` cancels its entry. -/
def giveUp (b : Switchboard) (name : String) (release : Handle → Registry Nat → Registry Nat) :
    Switchboard :=
  match b.handles.get? name with
  | some h => { b with registry := b.registry.map (release h), handles := b.handles.erase name }
  | none => b

/-- Register a callback; a handle that had the name is dropped afterwards.  A
closed registry takes nobody. -/
def subscribe (b : Switchboard) (name : String) (script : Script Step) : Answer × Switchboard :=
  match b.registry with
  | none => (.nothing, b)
  | some r =>
      let (id, r') := r.subscribe b.callbacks.length
      let registered : Switchboard :=
        { b with registry := some r', callbacks := b.callbacks ++ [{ name, script }] }
      let b' := registered.giveUp name Handle.drop
      (.subscribed id, { b' with handles := b'.handles.set name { id } })

/-- Begin a step: its answer, the deliveries it starts, and the board meanwhile. -/
def begin (b : Switchboard) : Step → Answer × List Job × Switchboard
  | .subscribe name script => ((b.subscribe name script).1, [], (b.subscribe name script).2)
  | .unsubscribe name => (.found (b.handles.contains name), [], b.giveUp name Handle.unsubscribe)
  | .drop name => (.found (b.handles.contains name), [], b.giveUp name Handle.drop)
  | .emit event => (.nothing, (b.registry.elim [] Registry.subscribers).map (.deliver · event), b)
  | .close => (.found b.registry.isSome, [], { b with registry := none })

/-- Call a subscriber back: note the call and start its program. -/
def deliver (b : Switchboard) (subscriber : Nat) (event : String) : List Job × Switchboard :=
  match b.callbacks[subscriber]? with
  | none => ([], b)
  | some c =>
      (c.script.next.1.map .step,
        { b with
          callbacks := b.callbacks.set subscriber { c with script := c.script.next.2 }
          calls := b.calls ++ [⟨c.name, event⟩] })

def perform : Job → Switchboard → List Job × Switchboard
  | .step s, b => (b.begin s).2
  | .deliver subscriber event, b => b.deliver subscriber event

/-! ## Every run ends -/

mutual
/-- One for the step itself, and all that the callback it registers may run. -/
def Step.weight : Step → Nat
  | .subscribe _ script => 1 + Step.weightOfScript script
  | _ => 1
def Step.weightOfScript : Script Step → Nat
  | .silent => 0
  | .phase calls program rest => calls * Step.weightOfProgram program + Step.weightOfScript rest
def Step.weightOfProgram : List Step → Nat
  | [] => 0
  | s :: p => s.weight + Step.weightOfProgram p
end

theorem Step.weightOfProgram_eq (p : List Step) : weightOfProgram p = total weight p := by
  induction p with
  | nil => rfl
  | cons s p ih => simp [weightOfProgram, ih]

theorem Step.weightOfScript_eq (s : Script Step) : weightOfScript s = s.weight weight := by
  induction s with
  | silent => rfl
  | phase calls program rest ih => simp [weightOfScript, Script.weight, weightOfProgram_eq, ih]

theorem Step.weight_subscribe (name : String) (script : Script Step) :
    (Step.subscribe name script).weight = 1 + script.weight Step.weight := by
  rw [Step.weight, weightOfScript_eq]

theorem Step.weight_pos (s : Step) : 0 < s.weight := by
  cases s with
  | subscribe => rw [Step.weight_subscribe]; omega
  | _ => simp [Step.weight]

def Job.work : Job → Nat
  | .step s => s.weight
  | .deliver .. => 0

/-- What the callbacks may still run. -/
def store (b : Switchboard) : Nat := total (fun c => c.script.weight Step.weight) b.callbacks

@[simp] theorem callbacks_giveUp (b : Switchboard) (name : String)
    (release : Handle → Registry Nat → Registry Nat) :
    (b.giveUp name release).callbacks = b.callbacks := by
  unfold giveUp
  split <;> rfl

theorem store_subscribe_le (b : Switchboard) (name : String) (script : Script Step) :
    (b.subscribe name script).2.store ≤ b.store + script.weight Step.weight := by
  unfold subscribe
  split <;> simp [store]

theorem work_deliveries (l : List Nat) (event : String) :
    total Job.work (l.map (Job.deliver · event)) = 0 := by
  simp [total_map, Job.work]

theorem work_program (p : List Step) :
    total Job.work (p.map Job.step) = total Step.weight p := total_map ..

theorem perform_work (j : Job) (b : Switchboard) (h : 0 < j.work) :
    store (perform j b).2 + total Job.work (perform j b).1 < store b + j.work := by
  cases j with
  | deliver => simp [Job.work] at h
  | step s =>
      cases s with
      | subscribe name script =>
          have := store_subscribe_le b name script
          simp only [perform, begin, Job.work, Step.weight_subscribe, total_nil]
          omega
      | emit event =>
          simp only [perform, begin, Job.work, Step.weight, work_deliveries]
          omega
      | unsubscribe | drop | close => simp [perform, begin, Job.work, Step.weight, store]

theorem perform_workless (j : Job) (b : Switchboard) (h : j.work = 0) :
    store (perform j b).2 + total Job.work (perform j b).1 ≤ store b ∧
      ∀ u ∈ (perform j b).1, 0 < u.work := by
  cases j with
  | step s =>
      have := s.weight_pos
      simp only [Job.work] at h
      omega
  | deliver subscriber event =>
      simp only [perform, deliver]
      split
      · simp
      · rename_i c hc
        have hset := total_set (fun c : Callback => c.script.weight Step.weight) b.callbacks
          subscriber c { c with script := c.script.next.2 } hc
        have hnext := Script.weight_next Step.weight c.script
        refine ⟨?_, ?_⟩
        · simp only [store, work_program]
          simp only at hset
          omega
        · intro u hu
          obtain ⟨s, _, rfl⟩ := List.mem_map.1 hu
          exact s.weight_pos

def machine : Machine Switchboard Job where
  perform
  work := Job.work
  store
  perform_work
  perform_workless

/-- Carry a step out, together with all that it sets off. -/
def apply (b : Switchboard) (s : Step) : Answer × Switchboard :=
  let (answer, jobs, b') := b.begin s
  (answer, machine.run jobs b')

/-! ## Descriptions -/

def describe (b : Switchboard) : Option String :=
  b.registry.map fun r => s!"Listeners \x7b len: {r.size} \x7d"

def describeHandle (b : Switchboard) (name : String) : Option String :=
  (b.handles.get? name).map fun h =>
    s!"Subscription \x7b id: {h.id}, active: {h.active} \x7d"

end Switchboard

end DetailPanel
