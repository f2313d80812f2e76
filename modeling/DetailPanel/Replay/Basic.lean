import DetailPanel.Scenario.Step
import DetailPanel.Workspace.Deadlines
import DetailPanel.Workspace.Selection
import DetailPanel.Workspace.Viewing

/-!
# Replays

A replay applies the steps of a scenario to a fresh workspace with one shown
panel.  Time moves on `advance` steps only, and throttled recomputes run with
the clock at their deadlines.  The timeline gets an entry whenever the flags of
the panel differ from those of the entry before it.
-/

namespace DetailPanel

/-- What made the flags change. -/
inductive Cause where
  | shown
  | throttle
  | step (kind : Step.Kind)
  deriving DecidableEq, Repr

def Cause.text : Cause → String
  | .shown => "show"
  | .throttle => "throttle"
  | .step kind => kind.label

structure Entry where
  /-- The number of the step, from one; zero is the first display. -/
  step : Nat
  atMs : UInt64
  cause : Cause
  flags : Flags
  deriving DecidableEq, Repr

structure Replay where
  workspace : Workspace
  panel : PanelId
  results : Table String ResultId := []
  timeline : List Entry := []
  lastFlags : Option Flags := none
  throttledRuns : Nat := 0
  steps : Nat := 0

namespace Replay

/-- Why a step fails. -/
inductive Fault where
  | unknownResult (step : Nat) (name : String)
  | duplicateResult (step : Nat) (name : String)
  deriving DecidableEq, Repr

def Fault.message : Fault → String
  | .unknownResult step name => s!"Step {step}: unknown result '{name}'"
  | .duplicateResult step name => s!"Step {step}: result '{name}' already exists"

def tracker? (r : Replay) : Option Tracker := r.workspace.trackers.get? r.panel

def view? (r : Replay) : Option View := r.workspace.views.get? r.panel

def flags (r : Replay) : Flags := (r.tracker?.map (·.flags)).getD {}

def deadline (r : Replay) : Option Nat := r.workspace.deadline r.panel

/-- Go on with a workspace.  Nobody looks at the effects of a replay. -/
def setWorkspace (r : Replay) (w : Workspace) : Replay :=
  { r with workspace := { w with effects := [] } }

/-- Add an entry to the timeline, unless the flags are those of the last one. -/
def record (r : Replay) (step : Nat) (cause : Cause) : Replay :=
  if r.lastFlags = some r.flags then r
  else
    { r with
      lastFlags := some r.flags
      timeline := r.timeline ++ [⟨step, writtenTime r.workspace.now, cause, r.flags⟩] }

/-- A fresh workspace with one panel, shown. -/
def new (config : Config) : Replay :=
  let (panel, w) := ({} : Workspace).addView "panel" config false
  let r : Replay := { workspace := {}, panel }
  (r.setWorkspace (w.showView panel)).record 0 .shown

/-! ## Time -/

/-- Put the clock at a deadline and run what falls due there. -/
def runAt (r : Replay) (step deadline : Nat) : Replay :=
  let (due, w) := (r.workspace.advanceTo deadline).poll r.panel deadline
  let r := r.setWorkspace w
  if due then { r with throttledRuns := r.throttledRuns + 1 }.record step .throttle else r

theorem deadline_record (r : Replay) (step : Nat) (cause : Cause) :
    (r.record step cause).deadline = r.deadline := by
  unfold record
  split <;> rfl

theorem deadline_runAt {r : Replay} {step d : Nat} (h : r.deadline = some d) :
    (r.runAt step d).deadline = none := by
  have h' : (r.workspace.advanceTo d).deadline r.panel = some d := h
  have hpoll := Workspace.poll_of_deadline h' (Nat.le_refl d)
  have hnone := Workspace.deadline_poll h' (Nat.le_refl d)
  simp only [runAt, hpoll, if_true, deadline_record]
  exact hnone

/-- Run all that falls due up to `target`, one deadline after the other. -/
def runUntil (r : Replay) (step target : Nat) : Replay :=
  match _h : r.deadline with
  | some d => if d ≤ target then (r.runAt step d).runUntil step target else r
  | none => r
termination_by r.deadline.isSome.toNat
decreasing_by
  rw [deadline_runAt _h, _h]
  exact Nat.zero_lt_one

/-- Run all that falls due in the next `ms` milliseconds and move the clock there.  This
time is there however far off it is, as there is no latest one (see `Clock`). -/
def advance (r : Replay) (step ms : Nat) : Replay :=
  let target := r.workspace.now + ms
  let r := r.runUntil step target
  r.setWorkspace (r.workspace.advanceTo target)

/-! ## Steps -/

/-- Do something with the result of a name. -/
def withResult (r : Replay) (step : Nat) (name : String) (f : ResultId → Replay) :
    Except Fault Replay :=
  match r.results.get? name with
  | some id => .ok (f id)
  | none => .error (.unknownResult step name)

def select (r : Replay) (result : Option ResultId) : Replay :=
  let (_, ds, w) := r.workspace.selectResult result
  r.setWorkspace (w.deliverAll ds)

def selectCard (r : Replay) (card : Option Metacard) : Replay :=
  let (_, ds, w) := r.workspace.selectCard card
  r.setWorkspace (w.deliverAll ds)

def fetch (r : Replay) (f : Workspace.Fetch) (result : ResultId) : Replay :=
  let (ds, w) := r.workspace.fetch result f
  r.setWorkspace (w.deliverAll ds)

/-- What a step does, before it is recorded. -/
def act (r : Replay) (step : Nat) : Step → Except Fault Replay
  | .addResult name searching =>
      if r.results.contains name then .error (.duplicateResult step name)
      else
        let (id, w) := r.workspace.addResult name searching
        .ok { r with workspace := w, results := r.results.set name id }
  | .selectResult name => r.withResult step name fun id => r.select (some id)
  | .clearResult => .ok (r.select none)
  | .selectMetacard id title => .ok (r.selectCard (some { id, title }))
  | .clearMetacard => .ok (r.selectCard none)
  | .beginFetch name => r.withResult step name (r.fetch .begin)
  | .completeFetch name => r.withResult step name (r.fetch .complete)
  | .failFetch name => r.withResult step name (r.fetch .fail)
  | .advance ms => .ok (r.advance step ms.toNat)
  | .render => .ok (r.setWorkspace (r.workspace.render r.panel))

/-- Apply a step under a number.  A step that fails is counted and changes
nothing else. -/
def apply (r : Replay) (step : Nat) (s : Step) : Option Fault × Replay :=
  let r := { r with steps := r.steps + 1 }
  match r.act step s with
  | .ok r => (none, r.record step (.step s.kind))
  | .error e => (some e, r)

/-! ## Outcomes -/

structure Summary where
  scenario : Option String
  steps : Nat
  elapsedMs : UInt64
  renders : Nat
  recomputes : Nat
  throttledRuns : Nat
  layoutMounts : Nat
  finalFlags : Flags
  deriving DecidableEq, Repr

structure Outcome where
  timeline : List Entry
  summary : Summary
  deriving DecidableEq, Repr

def finish (r : Replay) (scenario : Option String) : Outcome where
  timeline := r.timeline
  summary := {
    scenario
    steps := r.steps
    elapsedMs := writtenTime r.workspace.now
    renders := (r.view?.map (·.renders)).getD 0
    recomputes := (r.tracker?.map (·.recomputes)).getD 0
    throttledRuns := r.throttledRuns
    layoutMounts := (r.view?.map (·.region.mounts)).getD 0
    finalFlags := r.flags }

/-- Apply steps under ascending numbers until one fails. -/
def applyAll (r : Replay) (step : Nat) : List Step → Except Fault Replay
  | [] => .ok r
  | s :: ss =>
      match r.apply step s with
      | (none, r) => r.applyAll (step + 1) ss
      | (some e, _) => .error e

def run (config : Config) (s : Scenario) : Except Fault Outcome :=
  ((new config).applyAll 1 s.steps).map (·.finish s.name)

end Replay

end DetailPanel
