import DetailPanel.Json.Reader
import DetailPanel.Json.Writer

/-!
# Lifecycle events of a result

A result announces that a fetch was started, that it was merged, or that it
failed.  As JSON an event is its name, alone or as the only key of an object.
-/

namespace DetailPanel

inductive LifecycleEvent where
  | sync
  | request
  | error
  deriving DecidableEq, Repr

namespace LifecycleEvent

open Json

def all : List LifecycleEvent := [.sync, .request, .error]

def name : LifecycleEvent → String
  | .sync => "sync"
  | .request => "request"
  | .error => "error"

def ofName? (s : String) : Option LifecycleEvent := all.find? (·.name == s)

/-- The position of an event in `all`. -/
def index (e : LifecycleEvent) : Nat := all.idxOf e

def toJson (e : LifecycleEvent) : Value := .ofText e.name

def names : Scalar LifecycleEvent := variant (all.map fun e => (e.name, e))

/-- An event name, or an object that holds null under the name and nothing else. -/
def read : Reader LifecycleEvent := fun l cs =>
  match skipBlanks cs, l.depth with
  | [], _ => .error .ended
  | '"' :: r, _ => scalar names l ('"' :: r)
  | '{' :: _, 0 => .error .malformed
  | '{' :: r, depth + 1 =>
      let l := { l with depth }
      match skipBlanks r with
      | [] => .error .ended
      | '"' :: r =>
          (scalar names l ('"' :: r)).andThen fun e r =>
          (colon r).andThen fun _ r =>
          (scalar unit l r).andThen fun _ r =>
          (closeObject r).map fun _ => e
      | _ => .error .malformed
  | _, _ => .error .malformed

def ofJson (s : String) : Except Failure LifecycleEvent := readAll read s

/-- The event that a value describes: its name, or an object that holds null under
the name and nothing else. -/
def ofValue? (v : Value) : Option LifecycleEvent :=
  match v.canonical with
  | .atom (.text s) => ofName? s
  | .object [(s, .atom .null)] => ofName? s
  | _ => none

end LifecycleEvent

end DetailPanel
