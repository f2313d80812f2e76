import DetailPanel.Json.Reader
import DetailPanel.Json.Writer

/-!
# Metacards

A metacard has an identifier, perhaps a title, and attributes, which are
arbitrary JSON sorted by name at every level.  Two metacards are the same when
all three agree.
-/

namespace DetailPanel

open Json

structure Metacard where
  id : String
  title : Option String := none
  attributes : List (String × Value) := []
  deriving Repr

namespace Metacard

def same (a b : Metacard) : Bool :=
  a.id == b.id && a.title == b.title && Value.sameEntries a.attributes b.attributes

def toJson (c : Metacard) : Value :=
  .object [("id", .ofText c.id), ("title", Value.ofOption .ofText c.title),
    ("attributes", .object c.attributes)]

/-! ## Reading -/

/-- The fields as far as they have been read. -/
structure Draft where
  id : Option String := none
  title : Option (Option String) := none
  attributes : Option (List (String × Value)) := none

def Draft.complete (d : Draft) : Except String Metacard :=
  match d.id with
  | none => .error "id"
  | some id => .ok { id, title := d.title.join, attributes := d.attributes.getD [] }

def record : Record Draft Metacard where
  name := "Metacard"
  empty := {}
  fields := [
    { name := "id", optional := false, given := (·.id.isSome)
      read := fun d l cs => (scalar text l cs).map fun s => { d with id := some s } },
    { name := "title", optional := true, given := (·.title.isSome)
      read := fun d l cs => (scalar optionalText l cs).map fun t => { d with title := some t } },
    { name := "attributes", optional := true, given := (·.attributes.isSome)
      read := fun d l cs =>
        (sortedEntries l cs).map fun es => { d with attributes := some es } }]
  make := Draft.complete

def ofJson (s : String) : Except Failure Metacard := readAll record.read s

/-- The metacard that a value describes: an object with at least an identifier,
or an array of the leading fields. -/
def ofValue? (v : Value) : Option Metacard :=
  match v.canonical with
  | .object es => build (es.lookup "id") (es.lookup "title") (es.lookup "attributes")
  | .array [id] => build (some id) none none
  | .array [id, title] => build (some id) (some title) none
  | .array [id, title, attributes] => build (some id) (some title) (some attributes)
  | _ => none
where
  build (id title attributes : Option Value) : Option Metacard := do
    let .atom (.text id) ← id | none
    let title ←
      match title with
      | none | some (.atom .null) => some none
      | some (.atom (.text t)) => some (some t)
      | some _ => none
    let attributes ←
      match attributes with
      | none => some []
      | some (.object es) => some es
      | some _ => none
    some { id, title, attributes }

end Metacard

end DetailPanel
