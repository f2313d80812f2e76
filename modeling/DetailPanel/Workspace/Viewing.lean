import DetailPanel.Workspace.Tracking

/-!
# Views

A view listens from the moment it is made.  Its layout is made and mounted the
first time the view is shown, and never again; tearing the view down closes the
layout and silences the tracker for good.
-/

namespace DetailPanel.Workspace

/-- Make a view that listens and has not been shown. -/
def addView (w : Workspace) (name : String) (config : Config) (wall : Bool) :
    PanelId × Workspace :=
  let (p, w) := w.addTracker name config.window wall
  let w := w.bind p
  (p, { w with views := w.views.set p { config, region := { name := config.region } } })

def panelName (w : Workspace) (p : PanelId) : String :=
  ((w.trackers.get? p).map (·.name)).getD ""

/-- Let the region of a view change, and note what it does. -/
def changeRegion (w : Workspace) (p : PanelId) (f : Region → List Region.Event × Region) :
    Workspace :=
  match w.views.get? p with
  | none => w
  | some v =>
      let (events, region) := f v.region
      (w.modifyView p fun v => { v with region }).emit (events.map (.region (w.panelName p)))

def render (w : Workspace) (p : PanelId) : Workspace :=
  (w.modifyView p fun v => { v with renders := v.renders + 1 }).resync p

/-- Make and mount the layout, the first time only. -/
def beforeShow (w : Workspace) (p : PanelId) : Workspace :=
  match w.views.get? p with
  | none => w
  | some v =>
      if v.shown then w
      else
        let w := w.modifyView p fun v => { v with shown := true }
        let w := w.emit [.created (w.panelName p) v.config.layout]
        w.changeRegion p (·.mount v.config.layout)

def showView (w : Workspace) (p : PanelId) : Workspace := (w.render p).beforeShow p

def teardown (w : Workspace) (p : PanelId) : Workspace :=
  (w.unbind p).changeRegion p Region.close

/-- Close the layout, unbind the tracker, and forget the view. -/
def dropView (w : Workspace) (p : PanelId) : Workspace :=
  let w := (w.changeRegion p Region.close).dropTracker p
  { w with views := w.views.erase p }

/-- The time that a panel reads. -/
def timeOf (w : Workspace) (p : PanelId) : Nat :=
  ((w.trackers.get? p).map (·.time w.clock)).getD w.now

inductive Message where
  | showView
  | render
  | tick
  | teardown
  deriving DecidableEq, Repr

/-- What a view does on a message; the answer is whether it did anything. -/
def update (w : Workspace) (p : PanelId) : Message → Bool × Workspace
  | .showView => (true, w.showView p)
  | .render => (true, w.render p)
  | .tick => w.poll p (w.timeOf p)
  | .teardown => (true, w.teardown p)

/-! ## Descriptions -/

def describeView (w : Workspace) (p : PanelId) : Option String := do
  let t ← w.trackers.get? p
  let v ← w.views.get? p
  some <| s!"MetacardView \x7b tracker: {t.describe}, details_tabular: {v.region.describe}, " ++
    s!"shown: {v.shown}, renders: {v.renders} \x7d"

def describeResult (w : Workspace) (r : ResultId) : Option String := do
  let h ← w.results.get? r
  some <| s!"ResultHolder \x7b id: ResultId(#{r}), label: {Text.quote h.label}, " ++
    s!"searching: {h.searching}, listeners: {h.listeners.size} \x7d"

def describeSelection (w : Workspace) : String :=
  let optional (o : Option String) := o.elim "None" fun s => "Some(" ++ s ++ ")"
  let result := optional (w.result.map fun r => s!"ResultId(#{r})")
  let card := optional (w.card.map fun c => Text.quote c.id)
  s!"SelectionContext \x7b current_result: {result}, current_metacard: {card}, " ++
    s!"listeners: {w.listenerCount} \x7d"

end DetailPanel.Workspace
