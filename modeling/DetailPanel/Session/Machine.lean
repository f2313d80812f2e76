import DetailPanel.Agenda
import DetailPanel.Session.Step

/-!
# Sessions

A session is a workspace with names and observers.  A step that changes the
selection or announces a lifecycle event ends with the deliveries it starts:
they are put in front of the agenda, and what an observer does when it is told
goes before the deliveries that were still waiting.  So a change made from
inside a notice is announced completely before the outer announcement goes on.
-/

namespace DetailPanel

namespace Session

structure Callback where
  name : String
  script : Script Step

/-- The handle of an observer: where it listens and its entry there. -/
structure Handle where
  channel : Channel
  id : Nat
  deriving DecidableEq, Repr

/-- The selection as it once was.  Results are kept by identity, so whether one
is searching is read when the snapshot is used. -/
structure Snapshot where
  result : Option ResultId
  card : Option Metacard

inductive Note where
  | effect (e : Effect)
  /-- An observer was told something while the panels had these flags. -/
  | saw (observer : String) (notice : Notice) (panels : List (String × Flags))
  deriving DecidableEq, Repr

inductive Job where
  | step (s : Step)
  | deliver (d : Delivery)

end Session

open Session in
structure Session where
  workspace : Workspace := {}
  results : Table String ResultId := []
  /-- The key under which each result was added. -/
  keys : Table ResultId String := []
  views : Table String PanelId := []
  trackers : Table String PanelId := []
  observers : Table String Session.Handle := []
  /-- All observers so far; an observer is known by its position. -/
  callbacks : List Callback := []
  snapshots : Table String Snapshot := []
  classes : ClassList := {}
  log : List Note := []

namespace Session

def setWorkspace (s : Session) (w : Workspace) : Session := { s with workspace := w }

/-- Names in ascending order, with what they stand for. -/
def byName {α : Type} (t : Table String α) : List (String × α) :=
  t.byKey fun a b => decide (a ≤ b)

/-- The flags of all panels: the views by name, then the trackers by name. -/
def panelFlags (s : Session) : List (String × Flags) :=
  (byName s.views ++ byName s.trackers).filterMap fun e =>
    (s.workspace.trackers.get? e.2).map fun t => (e.1, t.flags)

/-! ## Steps -/

/-- What comes of a step at once: its answer, and the deliveries it starts. -/
abbrev Result := Answer × List Delivery × Session

def withResult (s : Session) (key : String) (f : ResultId → Result) : Result :=
  match s.results.get? key with
  | some r => f r
  | none => (.absent .result, [], s)

def withView (s : Session) (name : String) (f : PanelId → Answer × Workspace) : Result :=
  match s.views.get? name with
  | some p => let (a, w) := f p; (a, [], s.setWorkspace w)
  | none => (.absent .view, [], s)

def withTracker (s : Session) (name : String) (f : PanelId → Answer × Workspace) : Result :=
  match s.trackers.get? name with
  | some p => let (a, w) := f p; (a, [], s.setWorkspace w)
  | none => (.absent .tracker, [], s)

def addResult (s : Session) (key label : String) (searching : Bool) : Session :=
  let (r, w) := s.workspace.addResult label searching
  { s with workspace := w, results := s.results.set key r, keys := s.keys.set r key }

def selectResult (s : Session) (r : Option ResultId) : Result :=
  let (changed, ds, w) := s.workspace.selectResult r
  (.bool changed, ds, s.setWorkspace w)

def selectCard (s : Session) (card : Option Metacard) : Result :=
  let (changed, ds, w) := s.workspace.selectCard card
  (.bool changed, ds, s.setWorkspace w)

def fetch (s : Session) (move : Workspace.Fetch) (r : ResultId) : Result :=
  let (ds, w) := s.workspace.fetch r move
  (.nothing, ds, s.setWorkspace w)

def addView (s : Session) (name : String) (config : Config) (wall : Bool) : Session :=
  let (p, w) := s.workspace.addView name config wall
  let w := ((s.views.get? name).map w.dropView).getD w
  { s with workspace := w, views := s.views.set name p }

def dropView (s : Session) (name : String) : Result :=
  match s.views.get? name with
  | some p =>
      (.bool true, [],
        { s with workspace := s.workspace.dropView p, views := s.views.erase name })
  | none => (.bool false, [], s)

def addTracker (s : Session) (name : String) (window : Nat) : Session :=
  let (p, w) := s.workspace.addTracker name window false
  let w := ((s.trackers.get? name).map w.dropTracker).getD w
  { s with workspace := w, trackers := s.trackers.set name p }

def dropTracker (s : Session) (name : String) : Result :=
  match s.trackers.get? name with
  | some p =>
      (.bool true, [],
        { s with workspace := s.workspace.dropTracker p, trackers := s.trackers.erase name })
  | none => (.bool false, [], s)

def channel? (s : Session) : Topic → Option Channel
  | .result => some .result
  | .card => some .card
  | .lifecycle key => (s.results.get? key).map .lifecycle

def observe (s : Session) (name : String) (c : Channel) (script : Script Step) : Nat × Session :=
  let (id, w) := s.workspace.subscribe c (.observer s.callbacks.length)
  let w := ((s.observers.get? name).map fun h => w.cancel h.channel h.id).getD w
  (id,
    { s with
      workspace := w
      observers := s.observers.set name { channel := c, id }
      callbacks := s.callbacks ++ [{ name, script }] })

def unobserve (s : Session) (name : String) : Result :=
  match s.observers.get? name with
  | some h =>
      (.bool true, [],
        { s with
          workspace := s.workspace.cancel h.channel h.id
          observers := s.observers.erase name })
  | none => (.bool false, [], s)

/-- Poll a panel at a time, or at what the clock reads. -/
def pollAt (s : Session) (time : Option Nat) (p : PanelId) : Answer × Workspace :=
  let (due, w) := s.workspace.poll p (time.getD s.workspace.now)
  (.bool due, w)

def reflect (s : Session) : Result :=
  let f := s.workspace.liveFlags
  let classes := f.applyTo s.classes
  (.reflected f classes.classes, [], { s with classes })

def begin (s : Session) : Step → Result
  | .addResult key label searching => (.label label, [], s.addResult key label searching)
  | .setSearching key on =>
      s.withResult key fun r => (.nothing, [], s.setWorkspace (s.workspace.setSearching r on))
  | .fetch key move => s.withResult key (s.fetch move)
  | .announce key event =>
      s.withResult key fun r => (.nothing, s.workspace.announceLifecycle r event, s)
  | .select none => s.selectResult none
  | .select (some key) => s.withResult key fun r => s.selectResult (some r)
  | .selectCard card => s.selectCard card
  | .advance ms => (.nothing, [], s.setWorkspace (s.workspace.advance ms))
  | .advanceTo target => (.nothing, [], s.setWorkspace (s.workspace.advanceTo target))
  | .passWall ms => (.nothing, [], s.setWorkspace (s.workspace.passWall ms))
  | .view name config wall =>
      (.mountPoint config.region config.layout, [], s.addView name config wall)
  | .dropView name => s.dropView name
  | .showView name => s.withView name fun p => (.nothing, s.workspace.showView p)
  | .render name => s.withView name fun p => (.nothing, s.workspace.render p)
  | .beforeShow name => s.withView name fun p => (.nothing, s.workspace.beforeShow p)
  | .teardown name => s.withView name fun p => (.nothing, s.workspace.teardown p)
  | .tick name time => s.withView name (s.pollAt time)
  | .update name message =>
      s.withView name fun p => ((s.workspace.update p message).map Answer.bool id)
  | .tracker name window => (.nothing, [], s.addTracker name window)
  | .dropTracker name => s.dropTracker name
  | .bind name => s.withTracker name fun p => (.nothing, s.workspace.bind p)
  | .unbind name => s.withTracker name fun p => (.nothing, s.workspace.unbind p)
  | .resync name => s.withTracker name fun p => (.nothing, s.workspace.resync p)
  | .recompute name =>
      s.withTracker name fun p => (.flags s.workspace.liveFlags, s.workspace.recompute p)
  | .poll name time => s.withTracker name (s.pollAt time)
  | .observe name topic script =>
      match s.channel? topic with
      | some c => let (id, s) := s.observe name c script; (.subscribed id, [], s)
      | none => (.absent .result, [], s)
  | .unobserve name => s.unobserve name
  | .snapshot name =>
      let snapshot : Snapshot := ⟨s.workspace.result, s.workspace.card⟩
      (.nothing, [], { s with snapshots := s.snapshots.set name snapshot })
  | .reflect => s.reflect

/-- Move the effects of the workspace to the log. -/
def settle (s : Session) : Session :=
  { s with
    log := s.log ++ s.workspace.effects.map .effect
    workspace := { s.workspace with effects := [] } }

/-- Tell an observer: note what it saw and start its program for this call. -/
def tell (s : Session) (observer : Nat) (n : Notice) : List Job × Session :=
  match s.callbacks[observer]? with
  | none => ([], s)
  | some c =>
      (c.script.next.1.map .step,
        { s with
          callbacks := s.callbacks.set observer { c with script := c.script.next.2 }
          log := s.log ++ [.saw c.name n s.panelFlags] })

def deliver (s : Session) (d : Delivery) : List Job × Session :=
  match d.subscriber with
  | .observer observer => s.tell observer d.notice
  | _ => ([], (s.setWorkspace (s.workspace.deliver d)).settle)

def perform : Job → Session → List Job × Session
  | .step t, s => ((s.begin t).2.1.map .deliver, (s.begin t).2.2.settle)
  | .deliver d, s => s.deliver d

/-! ## Every run ends -/

mutual
/-- One for the step itself, and all that the observer it makes may run. -/
def Step.weight : Step → Nat
  | .observe _ _ script => 1 + Step.weightOfScript script
  | _ => 1
def Step.weightOfScript : Script Step → Nat
  | .silent => 0
  | .phase calls program rest => calls * Step.weightOfProgram program + Step.weightOfScript rest
def Step.weightOfProgram : List Step → Nat
  | [] => 0
  | s :: p => s.weight + Step.weightOfProgram p
end

theorem Step.weightOfProgram_eq (p : List Step) : weightOfProgram p = total weight p := by
  induction p with
  | nil => rfl
  | cons s p ih => simp [weightOfProgram, ih]

theorem Step.weightOfScript_eq (s : Script Step) : weightOfScript s = s.weight weight := by
  induction s with
  | silent => rfl
  | phase calls program rest ih => simp [weightOfScript, Script.weight, weightOfProgram_eq, ih]

theorem Step.weight_observe (name : String) (topic : Topic) (script : Script Step) :
    (Step.observe name topic script).weight = 1 + script.weight Step.weight := by
  rw [Step.weight, weightOfScript_eq]

theorem Step.weight_pos (s : Step) : 0 < s.weight := by
  cases s with
  | observe => rw [Step.weight_observe]; omega
  | _ => simp [Step.weight]

def Job.work : Job → Nat
  | .step s => s.weight
  | .deliver _ => 0

/-- What the observers may still run. -/
def store (s : Session) : Nat := total (fun c => c.script.weight Step.weight) s.callbacks

@[simp] theorem store_settle (s : Session) : s.settle.store = s.store := rfl

@[simp] theorem store_setWorkspace (s : Session) (w : Workspace) :
    (s.setWorkspace w).store = s.store := rfl

theorem store_withResult {s : Session} {key : String} {f : ResultId → Result} {n : Nat}
    (hf : ∀ r, (f r).2.2.store ≤ n) (hs : s.store ≤ n) : (s.withResult key f).2.2.store ≤ n := by
  unfold withResult
  split
  · exact hf _
  · exact hs

theorem store_withView (s : Session) (name : String) (f : PanelId → Answer × Workspace) :
    (s.withView name f).2.2.store = s.store := by
  unfold withView
  split <;> rfl

theorem store_withTracker (s : Session) (name : String) (f : PanelId → Answer × Workspace) :
    (s.withTracker name f).2.2.store = s.store := by
  unfold withTracker
  split <;> rfl

/-- A step leaves the observers as they are, or adds one with its script. -/
theorem store_begin_lt (s : Session) (t : Step) : (s.begin t).2.2.store < s.store + t.weight := by
  cases t with
  | observe name topic script =>
      rw [Step.weight_observe]
      simp only [begin]
      split
      · simp only [observe, store, total_append, total_cons, total_nil]
        omega
      · show s.store < _
        omega
  | setSearching | fetch | announce =>
      exact Nat.lt_succ_of_le (store_withResult (fun _ => Nat.le_refl _) (Nat.le_refl _))
  | select key =>
      cases key with
      | none => exact Nat.lt_succ_self _
      | some key =>
          exact Nat.lt_succ_of_le (store_withResult (fun _ => Nat.le_refl _) (Nat.le_refl _))
  | showView | render | beforeShow | teardown | tick | update =>
      simp only [begin, store_withView, Step.weight]
      omega
  | bind | unbind | resync | recompute | poll =>
      simp only [begin, store_withTracker, Step.weight]
      omega
  | dropView name =>
      simp only [begin, dropView, Step.weight]
      split <;> exact Nat.lt_succ_self _
  | dropTracker name =>
      simp only [begin, dropTracker, Step.weight]
      split <;> exact Nat.lt_succ_self _
  | unobserve name =>
      simp only [begin, unobserve, Step.weight]
      split <;> exact Nat.lt_succ_self _
  | addResult | selectCard | advance | advanceTo | passWall | view | tracker | snapshot | reflect =>
      exact Nat.lt_succ_self _

theorem work_deliveries (ds : List Delivery) : total Job.work (ds.map Job.deliver) = 0 := by
  simp [total_map, Job.work]

theorem work_program (p : List Step) :
    total Job.work (p.map Job.step) = total Step.weight p := total_map ..

theorem perform_work (j : Job) (s : Session) (h : 0 < j.work) :
    store (perform j s).2 + total Job.work (perform j s).1 < store s + j.work := by
  cases j with
  | deliver => simp [Job.work] at h
  | step t =>
      have := store_begin_lt s t
      simp only [perform, store_settle, work_deliveries, Job.work]
      omega

theorem perform_workless (j : Job) (s : Session) (h : j.work = 0) :
    store (perform j s).2 + total Job.work (perform j s).1 ≤ store s ∧
      ∀ u ∈ (perform j s).1, 0 < u.work := by
  cases j with
  | step t =>
      have := t.weight_pos
      simp only [Job.work] at h
      omega
  | deliver d =>
      simp only [perform, deliver]
      split
      · unfold tell
        split
        · simp
        · rename_i c hc
          have hset := total_set (fun c : Callback => c.script.weight Step.weight) s.callbacks _ c
            { c with script := c.script.next.2 } hc
          have hnext := Script.weight_next Step.weight c.script
          refine ⟨?_, ?_⟩
          · simp only [store, work_program]
            simp only at hset
            omega
          · intro u hu
            obtain ⟨t, _, rfl⟩ := List.mem_map.1 hu
            exact t.weight_pos
      · simp

def machine : Machine Session Job where
  perform
  work := Job.work
  store
  perform_work
  perform_workless

/-- Carry a step out, together with all that it sets off. -/
def apply (s : Session) (t : Step) : Answer × Session :=
  let (answer, ds, s') := s.begin t
  (answer, machine.run (ds.map .deliver) s'.settle)

/-- The log so far, and the session with an empty one. -/
def takeLog (s : Session) : List Note × Session := (s.log, { s with log := [] })

/-! ## Questions -/

/-- The flags that a saved selection calls for now. -/
def derive? (s : Session) (name : String) : Option Flags :=
  (s.snapshots.get? name).map fun p => s.workspace.flagsOf p.result p.card

def hasClass? (s : Session) (name className : String) : Option Bool := do
  let p ← s.views.get? name
  let t ← s.workspace.trackers.get? p
  some (t.root.has className)

def describeView? (s : Session) (name : String) : Option String :=
  (s.views.get? name).bind s.workspace.describeView

def describeTracker? (s : Session) (name : String) : Option String :=
  (s.trackers.get? name).bind fun p => (s.workspace.trackers.get? p).map (·.describe)

def describeResult? (s : Session) (key : String) : Option String :=
  (s.results.get? key).bind s.workspace.describeResult

end Session

end DetailPanel
