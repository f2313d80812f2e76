import DetailPanel.Json.Reader

/-!
# Tagged records

A record of one of several kinds says its kind under a tag.  Written as an
object, the tag may stand anywhere among the entries; written as an array, it
comes first.  The rest is kept as it stands and is interpreted once the whole
record has been read, so a fault in its JSON hides a wrong field further left.
-/

namespace DetailPanel.Json

/-- What a tagged record holds beside its tag. -/
inductive Body where
  | items (vs : List Value)
  | entries (es : List (String × Value))

/-- A field that is filled from a value already read. -/
structure Slot (σ : Type) where
  name : String
  optional : Bool
  given : σ → Bool
  fill : σ → Value → Except Mismatch σ

namespace Slot

variable {σ : Type}

/-- Fill slots by name; entries of other names are passed over. -/
def fillEntries (slots : List (Slot σ)) : σ → List (String × Value) → Except Mismatch σ
  | s, [] => .ok s
  | s, (k, v) :: es =>
      match slots.find? (·.name == k) with
      | none => fillEntries slots s es
      | some slot =>
          if slot.given s then .error (.duplicateField k)
          else
            match slot.fill s v with
            | .error m => .error m
            | .ok s => fillEntries slots s es

/-- Fill slots in order, the first of which has the number `i`.  Every slot has
to be filled unless it is optional, and no value may be left. -/
def fillItems (tooShort : Nat → Mismatch) (tooLong : Nat → Mismatch) :
    Nat → List (Slot σ) → σ → List Value → Except Mismatch σ
  | _, [], s, [] => .ok s
  | i, [], _, v :: vs => .error (tooLong (i + (v :: vs).length))
  | i, slot :: slots, s, [] =>
      if slot.optional then fillItems tooShort tooLong (i + 1) slots s []
      else .error (tooShort i)
  | i, slot :: slots, s, v :: vs =>
      match slot.fill s v with
      | .error m => .error m
      | .ok s => fillItems tooShort tooLong (i + 1) slots s vs

/-- Fill the slots of the kind called `name`. -/
def fillBody (name : String) (slots : List (Slot σ)) (s : σ) : Body → Except Mismatch σ
  | .entries es => fillEntries slots s es
  | .items vs =>
      fillItems (fun i => .invalidLength i (.variantOf name slots.length))
        (fun n => .invalidLength n (.items slots.length)) 0 slots s vs

end Slot

/-- A record tagged by one of `kinds`. -/
def tagged {κ : Type} (name tag : String) (kinds : Scalar κ) : Reader (κ × Body) :=
  let missing : Failure := .mismatched (.missingField tag)
  container (.tagged name)
    (some fun l cs =>
      (moreItems true cs).andThen fun more r =>
      if more then
        (scalar kinds l r).andThen fun kind r =>
        (items (value l) l.size false r).andThen fun vs r =>
        (closeArray r).map fun _ => (kind, .items vs)
      else .error missing)
    (some fun l cs =>
      let entry (key : String) (s : Option κ × List (String × Value)) (cs : List Char) :=
        if key = tag then
          if s.1.isSome then .error (.mismatched (.duplicateField tag))
          else
            (colon cs).andThen fun _ r => (scalar kinds l r).map fun kind => (some kind, s.2)
        else (colon cs).andThen fun _ r => (value l r).map fun v => (s.1, (key, v) :: s.2)
      (entries l.size entry l.size true (none, []) cs).andThen fun s r =>
      match s.1 with
      | none => .error missing
      | some kind => (closeObject r).map fun _ => (kind, .entries s.2.reverse))

end DetailPanel.Json
