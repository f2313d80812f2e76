import DetailPanel.Json.Tagged
import DetailPanel.Json.Writer
import DetailPanel.Scenario.Step

/-!
# Scenarios as JSON

A step is a record tagged by `op`.  Its fields go by name, so a field that
several kinds share is described once.
-/

namespace DetailPanel

open Json

namespace Step

/-- The fields of steps of all kinds, as far as they have been read. -/
structure Draft where
  name : Option String := none
  searching : Option Bool := none
  id : Option String := none
  title : Option (Option String) := none
  ms : Option UInt64 := none

namespace Draft

def name? : Slot Draft where
  name := "name"
  optional := false
  given d := d.name.isSome
  fill d v := (text.ofValue v).map fun s => { d with name := some s }

def searching? : Slot Draft where
  name := "searching"
  optional := true
  given d := d.searching.isSome
  fill d v := (boolean.ofValue v).map fun b => { d with searching := some b }

def id? : Slot Draft where
  name := "id"
  optional := false
  given d := d.id.isSome
  fill d v := (text.ofValue v).map fun s => { d with id := some s }

def title? : Slot Draft where
  name := "title"
  optional := true
  given d := d.title.isSome
  fill d v := (optionalText.ofValue v).map fun t => { d with title := some t }

def ms? : Slot Draft where
  name := "ms"
  optional := false
  given d := d.ms.isSome
  fill d v := (natural64.ofValue v).map fun n => { d with ms := some n }

end Draft

/-- The name of a kind as a type of record. -/
def Kind.name : Kind → String
  | .addResult => "AddResult"
  | .selectResult => "SelectResult"
  | .clearResult => "ClearResult"
  | .selectMetacard => "SelectMetacard"
  | .clearMetacard => "ClearMetacard"
  | .beginFetch => "BeginFetch"
  | .completeFetch => "CompleteFetch"
  | .failFetch => "FailFetch"
  | .advance => "AdvanceMs"
  | .render => "Render"

/-- The name of a kind where a message speaks of its fields. -/
def Kind.title (k : Kind) : String := "Step::" ++ k.name

/-- A name in lower case, with an underscore before every capital but the first. -/
def snakeCase : List Char → List Char
  | [] => []
  | c :: cs => c.toLower :: cs.flatMap fun c => if c.isUpper then ['_', c.toLower] else [c]

/-- What stands under `op` for a kind. -/
def Kind.tag (k : Kind) : String := String.ofList (snakeCase k.name.toList)

def Kind.slots : Kind → List (Slot Draft)
  | .addResult => [Draft.name?, Draft.searching?]
  | .selectResult | .beginFetch | .completeFetch | .failFetch => [Draft.name?]
  | .selectMetacard => [Draft.id?, Draft.title?]
  | .advance => [Draft.ms?]
  | .clearResult | .clearMetacard | .render => []

def required {α : Type} (name : String) : Option α → Except Mismatch α
  | some a => .ok a
  | none => .error (.missingField name)

/-- The step of a kind with the fields that were read. -/
def ofDraft (d : Draft) : Kind → Except Mismatch Step
  | .addResult => (required "name" d.name).map (.addResult · (d.searching.getD false))
  | .selectResult => (required "name" d.name).map .selectResult
  | .clearResult => .ok .clearResult
  | .selectMetacard => (required "id" d.id).map (.selectMetacard · d.title.join)
  | .clearMetacard => .ok .clearMetacard
  | .beginFetch => (required "name" d.name).map .beginFetch
  | .completeFetch => (required "name" d.name).map .completeFetch
  | .failFetch => (required "name" d.name).map .failFetch
  | .advance => (required "ms" d.ms).map .advance
  | .render => .ok .render

def ofBody (k : Kind) (b : Body) : Except Mismatch Step :=
  (Slot.fillBody k.title k.slots {} b).bind fun d => ofDraft d k

def kinds : Scalar Kind := variant (Kind.all.map fun k => (k.tag, k))

def read : Reader Step := fun l cs =>
  (tagged "Step" "op" kinds l cs).andThen fun kb r => settle (ofBody kb.1 kb.2) r

/-- The fields of a step under their names. -/
def fields : Step → List (String × Value)
  | .addResult name searching => [("name", .ofText name), ("searching", .ofBool searching)]
  | .selectResult name | .beginFetch name | .completeFetch name | .failFetch name =>
      [("name", .ofText name)]
  | .selectMetacard id title => [("id", .ofText id), ("title", Value.ofOption .ofText title)]
  | .advance ms => [("ms", .ofNatural ms)]
  | .clearResult | .clearMetacard | .render => []

def toJson (s : Step) : Value := .object (("op", .ofText s.label) :: s.fields)

end Step

namespace Scenario

structure Draft where
  name : Option (Option String) := none
  steps : Option (List Step) := none

def record : Record Draft Scenario where
  name := "Scenario"
  empty := {}
  fields := [
    { name := "name", optional := true, given := (·.name.isSome)
      read := fun d l cs => (scalar optionalText l cs).map fun n => { d with name := some n } },
    { name := "steps", optional := false, given := (·.steps.isSome)
      read := fun d l cs => (list Step.read l cs).map fun ss => { d with steps := some ss } }]
  make d :=
    match d.steps with
    | none => .error "steps"
    | some steps => .ok { name := d.name.join, steps }

def ofJson (s : String) : Except Failure Scenario := readAll record.read s

def toJson (s : Scenario) : Value :=
  .object [("name", Value.ofOption .ofText s.name), ("steps", .array (s.steps.map Step.toJson))]

end Scenario

end DetailPanel
