/-!
# Scenarios

A scenario is a list of steps on results, the selection and the clock, and
perhaps a name.
-/

namespace DetailPanel

inductive Step where
  | addResult (name : String) (searching : Bool)
  | selectResult (name : String)
  | clearResult
  | selectMetacard (id : String) (title : Option String)
  | clearMetacard
  | beginFetch (name : String)
  | completeFetch (name : String)
  | failFetch (name : String)
  /-- Move the clock forward by this many milliseconds. -/
  | advance (ms : UInt64)
  | render
  deriving DecidableEq, Repr

structure Scenario where
  name : Option String := none
  steps : List Step
  deriving DecidableEq, Repr

/-- The kinds of steps. -/
inductive Step.Kind where
  | addResult
  | selectResult
  | clearResult
  | selectMetacard
  | clearMetacard
  | beginFetch
  | completeFetch
  | failFetch
  | advance
  | render
  deriving DecidableEq, Repr

namespace Step

def Kind.all : List Kind :=
  [.addResult, .selectResult, .clearResult, .selectMetacard, .clearMetacard, .beginFetch,
    .completeFetch, .failFetch, .advance, .render]

/-- The name of a kind, in scenarios and in the timeline. -/
def Kind.label : Kind → String
  | .addResult => "add_result"
  | .selectResult => "select_result"
  | .clearResult => "clear_result"
  | .selectMetacard => "select_metacard"
  | .clearMetacard => "clear_metacard"
  | .beginFetch => "begin_fetch"
  | .completeFetch => "complete_fetch"
  | .failFetch => "fail_fetch"
  | .advance => "advance_ms"
  | .render => "render"

def kind : Step → Kind
  | .addResult .. => .addResult
  | .selectResult _ => .selectResult
  | .clearResult => .clearResult
  | .selectMetacard .. => .selectMetacard
  | .clearMetacard => .clearMetacard
  | .beginFetch _ => .beginFetch
  | .completeFetch _ => .completeFetch
  | .failFetch _ => .failFetch
  | .advance _ => .advance
  | .render => .render

def label (s : Step) : String := s.kind.label

end Step

end DetailPanel
