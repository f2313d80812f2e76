import DetailPanel.Config.Basic
import DetailPanel.Lifecycle
import DetailPanel.Metacard
import DetailPanel.Region
import DetailPanel.Registry
import DetailPanel.Table
import DetailPanel.Workspace.Tracker

/-!
# Workspaces

A workspace holds one selection, the results that can be selected, the panels
that follow the selection, and a clock.  The selection has two channels, one
for each of its halves, and every result has one of its own; who listens on a
channel is an entry in its registry.
-/

namespace DetailPanel

/-- Panels are numbered in the order in which they were made. -/
abbrev PanelId := Nat

/-- What is called back when a channel announces something. -/
inductive Subscriber where
  /-- The panel recomputes its flags and binds to the current result. -/
  | resync (panel : PanelId)
  /-- The panel recomputes its flags. -/
  | repaint (panel : PanelId)
  /-- The panel arms the throttle of its binding of this generation. -/
  | arm (panel : PanelId) (generation : Nat)
  /-- Somebody outside the workspace. -/
  | observer (id : Nat)
  deriving DecidableEq, Repr

/-- What a channel announces. -/
inductive Notice where
  | resultChanged (previous current : Option ResultId)
  | cardChanged (previous current : Option String)
  | lifecycle (event : LifecycleEvent)
  deriving DecidableEq, Repr

/-- A notice on its way to one subscriber. -/
structure Delivery where
  subscriber : Subscriber
  notice : Notice
  deriving DecidableEq, Repr

inductive Channel where
  | result
  | card
  | lifecycle (result : ResultId)
  deriving DecidableEq, Repr

/-- A search result that is being fetched or has been fetched. -/
structure Holder where
  label : String
  searching : Bool := false
  listeners : Registry Subscriber := {}
  deriving DecidableEq, Repr

/-- A panel beyond its tracker. -/
structure View where
  config : Config
  region : Region
  shown : Bool := false
  renders : Nat := 0
  deriving DecidableEq, Repr

/-- What can be seen of a panel from outside while it happens. -/
inductive Effect where
  | toggled (panel className : String) (on : Bool)
  | created (panel layout : String)
  | region (panel : String) (event : Region.Event)
  deriving DecidableEq, Repr

structure Workspace where
  clock : Clock := {}
  result : Option ResultId := none
  card : Option Metacard := none
  onResult : Registry Subscriber := {}
  onCard : Registry Subscriber := {}
  results : Table ResultId Holder := []
  nextResult : ResultId := 1
  /-- The trackers of all panels. -/
  trackers : Table PanelId Tracker := []
  /-- The panels that are views. -/
  views : Table PanelId View := []
  nextPanel : PanelId := 0
  /-- All effects so far, in order. -/
  effects : List Effect := []

namespace Workspace

def now (w : Workspace) : Nat := w.clock.now

def isSearching (w : Workspace) (r : ResultId) : Bool :=
  (w.results.get? r).any (·.searching)

/-- The flags of a selection; a missing result is never searching. -/
def flagsOf (w : Workspace) (result : Option ResultId) (card : Option Metacard) : Flags where
  notFound := card.isNone
  isSearching := result.any w.isSearching

/-- The flags that the selection calls for now. -/
def liveFlags (w : Workspace) : Flags := w.flagsOf w.result w.card

def modifyTracker (w : Workspace) (p : PanelId) (f : Tracker → Tracker) : Workspace :=
  { w with trackers := w.trackers.modify p f }

def modifyView (w : Workspace) (p : PanelId) (f : View → View) : Workspace :=
  { w with views := w.views.modify p f }

def modifyResult (w : Workspace) (r : ResultId) (f : Holder → Holder) : Workspace :=
  { w with results := w.results.modify r f }

def emit (w : Workspace) (es : List Effect) : Workspace := { w with effects := w.effects ++ es }

/-! ## Channels -/

def registry (w : Workspace) : Channel → Registry Subscriber
  | .result => w.onResult
  | .card => w.onCard
  | .lifecycle r => ((w.results.get? r).map (·.listeners)).getD {}

def setRegistry (w : Workspace) (c : Channel) (g : Registry Subscriber) : Workspace :=
  match c with
  | .result => { w with onResult := g }
  | .card => { w with onCard := g }
  | .lifecycle r => w.modifyResult r fun h => { h with listeners := g }

def subscribe (w : Workspace) (c : Channel) (s : Subscriber) : Nat × Workspace :=
  let (id, g) := (w.registry c).subscribe s
  (id, w.setRegistry c g)

def cancel (w : Workspace) (c : Channel) (id : Nat) : Workspace :=
  w.setRegistry c ((w.registry c).cancel id)

/-- The deliveries of a notice to all who listen on a channel now. -/
def announce (w : Workspace) (c : Channel) (n : Notice) : List Delivery :=
  (w.registry c).subscribers.map fun s => ⟨s, n⟩

/-- How many listen to the selection. -/
def listenerCount (w : Workspace) : Nat := w.onResult.size + w.onCard.size

end Workspace

end DetailPanel
