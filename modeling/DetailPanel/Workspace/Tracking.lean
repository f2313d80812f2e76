import DetailPanel.Workspace.Basic

/-!
# How panels follow the selection

A panel that listens recomputes its flags at every change of the selection, and
at a change of result it also binds to the result that is current by then.  A
notice from the bound result arms the throttle; the recompute runs at a later
poll and reads the selection as it is at that moment.
-/

namespace DetailPanel.Workspace

/-- Recompute the flags of a panel from the selection and show them. -/
def recompute (w : Workspace) (p : PanelId) : Workspace :=
  match w.trackers.get? p with
  | none => w
  | some t =>
      let toggles := w.liveFlags.toggles.map fun c => Effect.toggled t.name c.1 c.2
      (w.modifyTracker p (·.paint w.liveFlags)).emit (if t.wall then [] else toggles)

/-- Release the binding of a panel, if it has one. -/
def release (w : Workspace) (p : PanelId) : Workspace :=
  match (w.trackers.get? p).bind Tracker.binding with
  | none => w
  | some b =>
      (w.cancel (.lifecycle b.result) b.subscription).modifyTracker p (·.setBinding none)

/-- Bind a panel to a result as its next generation. -/
def bindTo (w : Workspace) (p : PanelId) (r : ResultId) (generation window : Nat) : Workspace :=
  let (subscription, w) := w.subscribe (.lifecycle r) (.arm p generation)
  let binding : Binding := { result := r, generation, throttle := { window }, subscription }
  w.modifyTracker p (·.setBinding (some binding))

/-- Release the binding and bind to the current result, even if it is the same one. -/
def rebind (w : Workspace) (p : PanelId) : Workspace :=
  match w.trackers.get? p with
  | none => w
  | some t =>
      let generation := t.generation + 1
      let w := (w.release p).modifyTracker p fun t => { t with generation }
      match w.result with
      | none => w
      | some r => w.bindTo p r generation t.window

def isListening (w : Workspace) (p : PanelId) : Bool :=
  (w.trackers.get? p).any (·.listening.isSome)

/-- What a panel does when the current result has changed. -/
def resync (w : Workspace) (p : PanelId) : Workspace :=
  if w.isListening p then (w.recompute p).rebind p else w

/-- What a panel does when the current metacard has changed. -/
def repaint (w : Workspace) (p : PanelId) : Workspace :=
  if w.isListening p then w.recompute p else w

/-- What a panel does when a result has announced a lifecycle event. -/
def arm (w : Workspace) (p : PanelId) (generation : Nat) : Workspace :=
  w.modifyTracker p fun t => t.arm generation (t.time w.clock)

/-- Run the throttled recompute of a panel if it is due; the answer says whether it was. -/
def poll (w : Workspace) (p : PanelId) (now : Nat) : Bool × Workspace :=
  match w.trackers.get? p with
  | none => (false, w)
  | some t =>
      let (due, t) := t.takeDue now
      let w := w.modifyTracker p fun _ => t
      (due, if due then w.recompute p else w)

/-- Hand a notice to its subscriber.  Observers are served outside. -/
def deliver (w : Workspace) (d : Delivery) : Workspace :=
  match d.subscriber with
  | .resync p => w.resync p
  | .repaint p => w.repaint p
  | .arm p generation => w.arm p generation
  | .observer _ => w

def deliverAll (w : Workspace) (ds : List Delivery) : Workspace := ds.foldl deliver w

/-! ## Making and dropping trackers -/

/-- A tracker that does not listen yet. -/
def addTracker (w : Workspace) (name : String) (window : Nat) (wall : Bool) : PanelId × Workspace :=
  (w.nextPanel,
    { w with
      trackers := w.trackers.set w.nextPanel { name, window, wall }
      nextPanel := w.nextPanel + 1 })

/-- Listen to both halves of the selection; a tracker that listens stays as it is. -/
def bind (w : Workspace) (p : PanelId) : Workspace :=
  if w.isListening p then w
  else
    let (onResult, w) := w.subscribe .result (.resync p)
    let (onCard, w) := w.subscribe .card (.repaint p)
    w.modifyTracker p fun t => { t with listening := some { onResult, onCard } }

/-- Give up every subscription and whatever was pending. -/
def unbind (w : Workspace) (p : PanelId) : Workspace :=
  match (w.trackers.get? p).bind (·.listening) with
  | none => w
  | some l =>
      let w := (w.cancel .result l.onResult).cancel .card l.onCard
      (w.release p).modifyTracker p fun t => { t with listening := none }

/-- Unbind a tracker and forget it; notices still on their way to it do nothing. -/
def dropTracker (w : Workspace) (p : PanelId) : Workspace :=
  let w := w.unbind p
  { w with trackers := w.trackers.erase p }

end DetailPanel.Workspace
