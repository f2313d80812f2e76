import DetailPanel.Script
import DetailPanel.Workspace.Selection
import DetailPanel.Workspace.Viewing

/-!
# Steps of a session

In a session everything goes by name: results by their key, and views,
trackers, observers and snapshots by names of their own.  An observer runs the
steps of its script from inside the notices it gets.
-/

namespace DetailPanel.Session

/-- What an observer listens to. -/
inductive Topic where
  | result
  | card
  | lifecycle (key : String)
  deriving DecidableEq, Repr

inductive Step where
  | addResult (key label : String) (searching : Bool)
  | setSearching (key : String) (on : Bool)
  | fetch (key : String) (move : Workspace.Fetch)
  | announce (key : String) (event : LifecycleEvent)
  /-- Select the result of a key, or none. -/
  | select (key : Option String)
  | selectCard (card : Option Metacard)
  | advance (ms : Nat)
  | advanceTo (target : Nat)
  /-- Time passes on the wall. -/
  | passWall (ms : Nat)
  /-- Make a view; one that has the name is dropped afterwards. -/
  | view (name : String) (config : Config) (wall : Bool)
  | dropView (name : String)
  | showView (name : String)
  | render (name : String)
  | beforeShow (name : String)
  | teardown (name : String)
  /-- Poll a view, at what the clock reads unless a time is given. -/
  | tick (name : String) (time : Option Nat)
  | update (name : String) (message : Workspace.Message)
  /-- Make a tracker; one that has the name is dropped afterwards. -/
  | tracker (name : String) (window : Nat)
  | dropTracker (name : String)
  | bind (name : String)
  | unbind (name : String)
  | resync (name : String)
  | recompute (name : String)
  | poll (name : String) (time : Option Nat)
  /-- Subscribe an observer; one that has the name is cancelled afterwards. -/
  | observe (name : String) (topic : Topic) (script : Script Step)
  | unobserve (name : String)
  | snapshot (name : String)
  /-- Show the live flags on the class list of the session. -/
  | reflect

/-- What a step may name that is not there. -/
inductive Absent where
  | result
  | view
  | tracker
  | snapshot
  deriving DecidableEq, Repr

inductive Answer where
  | nothing
  | absent (what : Absent)
  | bool (b : Bool)
  | label (s : String)
  | mountPoint (region layout : String)
  | flags (f : Flags)
  | subscribed (id : Nat)
  | reflected (f : Flags) (classes : List String)
  deriving DecidableEq, Repr

end DetailPanel.Session
