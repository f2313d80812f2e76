import DetailPanel.Json.Writer
import DetailPanel.Replay.Json
import DetailPanel.Session.Machine

/-!
# What a session shows

The lines of the log, and an overview of the whole session as JSON.  Results
are written by their keys.
-/

namespace DetailPanel.Session

open Json

/-- The key of a result, or `none` in place of a result that is not there. -/
def keyOf (s : Session) (r : Option ResultId) : String :=
  (r.bind s.keys.get?).getD "none"

def idJson (id : Option String) : String := (Value.ofOption Value.ofText id).compact

/-! ## The log -/

def noticeText (s : Session) : Notice → String
  | .resultChanged previous current => s.keyOf previous ++ "->" ++ s.keyOf current
  | .cardChanged previous current => idJson previous ++ "->" ++ idJson current
  | .lifecycle event => event.name

def effectText : Effect → String
  | .toggled panel className on => panel ++ (if on then " +" else " -") ++ className
  | .created panel layout =>
      panel ++ " create LayoutOptions \x7b config_name: " ++ Text.quote layout ++ ", .. \x7d"
  | .region panel (.shown layout) => panel ++ " show " ++ layout
  | .region panel (.closed layout) => panel ++ " close " ++ layout

def noteText (s : Session) : Note → String
  | .effect e => effectText e
  | .saw observer notice panels =>
      let panels := panels.map fun p => p.1 ++ "=" ++ p.2.brief
      observer ++ " saw " ++ s.noticeText notice ++ " [" ++ ",".intercalate panels ++ "]"

/-! ## The overview -/

def timeJson (t : Nat) : Value := .ofNatural (writtenTime t)

def stateText (s : Session) : Tracker.State → String
  | .unbound => "unbound"
  | .idle => "idle"
  | .watching r => "watching " ++ s.keyOf (some r)

/-- A deadline on the wall clock is only said to be there. -/
def pendingJson (t : Tracker) : Value :=
  Value.ofOption (fun d => if t.wall then .ofText "wall" else timeJson d) t.deadline

def trackerJson (s : Session) (t : Tracker) : List (String × Value) :=
  [("flags", .ofText t.flags.brief), ("classes", .array (t.root.classes.map .ofText)),
    ("state", .ofText (s.stateText t.state)), ("pending", pendingJson t),
    ("recomputes", countJson t.recomputes)]

def viewJson (v : View) : List (String × Value) :=
  [("renders", countJson v.renders), ("layout", Value.ofOption .ofText v.region.current),
    ("mounts", countJson v.region.mounts)]

def panelJson (s : Session) (p : PanelId) : Value :=
  .object <|
    ((s.workspace.trackers.get? p).map s.trackerJson).getD [] ++
      ((s.workspace.views.get? p).map viewJson).getD []

def resultJson (s : Session) (r : ResultId) : Value :=
  .object <|
    ((s.workspace.results.get? r).map fun h =>
      [("searching", .ofBool h.searching), ("listeners", countJson h.listeners.size)]).getD []

def toJson (s : Session) : Value :=
  let w := s.workspace
  .object [("now", timeJson w.now), ("result", .ofText (s.keyOf w.result)),
    ("metacard", Value.ofOption .ofText (w.card.map (·.id))),
    ("listeners", countJson w.listenerCount),
    ("results", .object ((byName s.results).map fun e => (e.1, s.resultJson e.2))),
    ("panels", .object ((byName s.views ++ byName s.trackers).map fun e => (e.1, s.panelJson e.2)))]

end DetailPanel.Session
