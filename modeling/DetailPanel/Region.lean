import DetailPanel.Text.Quoted

/-!
# Regions

A region is a named slot for at most one layout, which is known by the name of
its configuration.  Mounting a layout closes the one before it.
-/

namespace DetailPanel

structure Region where
  name : String
  current : Option String := none
  mounts : Nat := 0
  deriving DecidableEq, Repr

namespace Region

inductive Event where
  | shown (layout : String)
  | closed (layout : String)
  deriving DecidableEq, Repr

def Event.describe : Event → String
  | .shown layout => "show:" ++ layout
  | .closed layout => "close:" ++ layout

/-- Close what is mounted, if anything is. -/
def close (r : Region) : List Event × Region :=
  (r.current.toList.map .closed, { r with current := none })

def mount (r : Region) (layout : String) : List Event × Region :=
  (r.close.1 ++ [.shown layout], { r with current := some layout, mounts := r.mounts + 1 })

def isMounted (r : Region) : Bool := r.current.isSome

def describe (r : Region) : String :=
  let mounted :=
    match r.current with
    | none => "None"
    | some layout => "Some(" ++ Text.quote layout ++ ")"
  "Region \x7b name: " ++ Text.quote r.name ++ ", mounted: " ++ mounted ++
    ", mounts: " ++ toString r.mounts ++ " \x7d"

end Region

end DetailPanel
