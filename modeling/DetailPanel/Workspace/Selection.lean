import DetailPanel.Workspace.Basic

/-!
# The selection and its results

Setting half of the selection to what it is changes nothing and is announced to
nobody.  Results are compared by identity, metacards by value.  A change is in
place before it is announced, so whoever is told reads the new state.
-/

namespace DetailPanel.Workspace

/-- Add a result under the next number. -/
def addResult (w : Workspace) (label : String) (searching : Bool) : ResultId × Workspace :=
  (w.nextResult,
    { w with
      results := w.results.set w.nextResult { label, searching }
      nextResult := w.nextResult + 1 })

/-- Say whether a result is searching, and tell nobody. -/
def setSearching (w : Workspace) (r : ResultId) (on : Bool) : Workspace :=
  w.modifyResult r fun h => { h with searching := on }

def selectResult (w : Workspace) (r : Option ResultId) : Bool × List Delivery × Workspace :=
  if w.result = r then (false, [], w)
  else
    let w' := { w with result := r }
    (true, w'.announce .result (.resultChanged w.result r), w')

def sameCard : Option Metacard → Option Metacard → Bool
  | none, none => true
  | some a, some b => a.same b
  | _, _ => false

def selectCard (w : Workspace) (c : Option Metacard) : Bool × List Delivery × Workspace :=
  if sameCard w.card c then (false, [], w)
  else
    let w' := { w with card := c }
    (true, w'.announce .card (.cardChanged (w.card.map (·.id)) (c.map (·.id))), w')

def announceLifecycle (w : Workspace) (r : ResultId) (e : LifecycleEvent) : List Delivery :=
  w.announce (.lifecycle r) (.lifecycle e)

/-- The three moves of a fetch, each with the event that announces it. -/
inductive Fetch where
  | begin
  | complete
  | fail
  deriving DecidableEq, Repr

def Fetch.searching : Fetch → Bool
  | .begin => true
  | .complete | .fail => false

def Fetch.event : Fetch → LifecycleEvent
  | .begin => .request
  | .complete => .sync
  | .fail => .error

def fetch (w : Workspace) (r : ResultId) (f : Fetch) : List Delivery × Workspace :=
  let w' := w.setSearching r f.searching
  (w'.announceLifecycle r f.event, w')

def advance (w : Workspace) (ms : Nat) : Workspace := { w with clock := w.clock.advance ms }

def advanceTo (w : Workspace) (target : Int) : Workspace :=
  { w with clock := w.clock.advanceTo target }

def passWall (w : Workspace) (ms : Nat) : Workspace := { w with clock := w.clock.pass ms }

end DetailPanel.Workspace
