import DetailPanel.Json.Skip

/-!
# Reading JSON by shape

A reader takes the limits that are left and the characters at hand.  It checks
the shape as it goes, so a wrong shape is reported before a fault further
right.  Entering a container takes one off the depth that is left, whatever is
wanted of the container.
-/

namespace DetailPanel.Json

structure Limits where
  /-- How many containers may still be opened inside one another. -/
  depth : Nat
  /-- More than the length of the text; no container has as many entries. -/
  size : Nat

abbrev Reader (α : Type) := Limits → List Char → Scan α

/-- Nesting deeper than this is refused. -/
def nestingLimit : Nat := 127

/-! ## Entries of containers -/

/-- Whether an array has one more element here; a comma before it is passed over. -/
def moreItems (first : Bool) (cs : List Char) : Scan Bool :=
  match skipBlanks cs with
  | [] => .error .ended
  | ']' :: r => .ok (false, ']' :: r)
  | ',' :: r =>
      if first then .ok (true, ',' :: r)
      else
        match skipBlanks r with
        | [] => .error .ended
        | ']' :: _ => .error .malformed
        | r => .ok (true, r)
  | r => if first then .ok (true, r) else .error .malformed

def closeArray (cs : List Char) : Scan Unit :=
  match skipBlanks cs with
  | [] => .error .ended
  | ']' :: r => .ok ((), r)
  | _ => .error .malformed

/-- The next key of an object with its colon still to come, or `none` at its end. -/
def nextKey (size : Nat) (first : Bool) (cs : List Char) : Scan (Option String) :=
  let key : List Char → Scan (Option String)
    | [] => .error .ended
    | '"' :: r => (stringBody size r).map fun body => some (String.ofList body)
    | _ => .error .malformed
  match skipBlanks cs with
  | [] => .error .ended
  | '}' :: r => .ok (none, '}' :: r)
  | ',' :: r => if first then .error .malformed else key (skipBlanks r)
  | r => if first then key r else .error .malformed

def closeObject (cs : List Char) : Scan Unit :=
  match skipBlanks cs with
  | [] => .error .ended
  | '}' :: r => .ok ((), r)
  | _ => .error .malformed

/-- The elements of an array up to its bracket. -/
def items {α : Type} (item : List Char → Scan α) : Nat → Bool → List Char → Scan (List α)
  | 0, _, _ => .error .malformed
  | n + 1, first, cs =>
      (moreItems first cs).andThen fun more r =>
      if more then
        (item r).andThen fun a r => (items item n false r).map (a :: ·)
      else .ok ([], r)

/-- The entries of an object up to its brace; `entry` reads on after a key. -/
def entries {σ : Type} (size : Nat) (entry : String → σ → List Char → Scan σ) :
    Nat → Bool → σ → List Char → Scan σ
  | 0, _, _, _ => .error .malformed
  | n + 1, first, s, cs =>
      (nextKey size first cs).andThen fun key r =>
      match key with
      | none => .ok (s, r)
      | some key => (entry key s r).andThen fun s r => entries size entry n false s r

/-! ## Values -/

/-- One value, where `inside` reads the values of a container. -/
def valueWith (size : Nat) (inside : Option (List Char → Scan Value)) (cs : List Char) :
    Scan Value :=
  (opening size cs).andThen fun opened r =>
  match opened, inside with
  | .atom a, _ => .ok (.atom a, r)
  | _, none => .error .malformed
  | .array, some inside =>
      (items inside size true r).andThen fun vs r => (closeArray r).map fun _ => .array vs
  | .object, some inside =>
      let entry (key : String) (es : List (String × Value)) (cs : List Char) :=
        (colon cs).andThen fun _ r => (inside r).map fun v => (key, v) :: es
      (entries size entry size true [] r).andThen fun es r =>
      (closeObject r).map fun _ => .object es.reverse

def valueAt (size : Nat) : Nat → List Char → Scan Value
  | 0 => valueWith size none
  | depth + 1 => valueWith size (some (valueAt size depth))

/-- Any value, kept whole. -/
def value : Reader Value := fun l => valueAt l.size l.depth

/-! ## Scalars -/

/-- A scalar type: what it is called, and what it makes of an atom. -/
structure Scalar (α : Type) where
  expected : Expected
  accept : Atom → Option (Except Mismatch α)

namespace Scalar

variable {α : Type}

/-- What the type makes of an atom; an atom it does not know has the wrong type. -/
def ofAtom (t : Scalar α) (a : Atom) : Except Mismatch α :=
  (t.accept a).getD (.error (.invalidType (.atom a) t.expected))

def ofValue (t : Scalar α) : Value → Except Mismatch α
  | .atom a => t.ofAtom a
  | .array _ => .error (.invalidType .sequence t.expected)
  | .object _ => .error (.invalidType .map t.expected)

end Scalar

def text : Scalar String where
  expected := .text
  accept
    | .text s => some (.ok s)
    | _ => none

def boolean : Scalar Bool where
  expected := .boolean
  accept
    | .bool b => some (.ok b)
    | _ => none

def natural64 : Scalar UInt64 where
  expected := .natural64
  accept
    | .number (.natural n) => some (.ok n)
    | .number (.negSucc n) => some (.error (.invalidValue (.negSucc n) .natural64))
    | _ => none

/-- A text or null. -/
def optionalText : Scalar (Option String) where
  expected := .text
  accept
    | .text s => some (.ok (some s))
    | .null => some (.ok none)
    | _ => none

def unit : Scalar Unit where
  expected := .unit
  accept
    | .null => some (.ok ())
    | _ => none

/-- One of some names. -/
def variant {α : Type} (names : List (String × α)) : Scalar α where
  expected := .variant
  accept
    | .text s => some <|
        match names.find? (·.1 == s) with
        | some (_, a) => .ok a
        | none => .error (.unknownVariant s (names.map (·.1)))
    | _ => none

/-- Turn a mismatch into a failure, keeping the characters left. -/
def settle {α : Type} (r : Except Mismatch α) (cs : List Char) : Scan α :=
  match r with
  | .ok a => .ok (a, cs)
  | .error m => .error (.mismatched m)

/-- A scalar of a text.  An atom is read to its end even if its type is wrong. -/
def scalar {α : Type} (t : Scalar α) : Reader α := fun l cs =>
  (opening l.size cs).andThen fun opened r =>
  match opened with
  | .atom a => settle (t.ofAtom a) r
  | .array => .error (.mismatched (.invalidType .sequence t.expected))
  | .object => .error (.mismatched (.invalidType .map t.expected))

/-! ## Containers -/

/-- Open the container that a shape may be written as, or refuse what stands there. -/
def container {α : Type} (expected : Expected) (array object : Option (Reader α)) : Reader α :=
  fun l cs =>
  let inside (read : Option (Reader α)) (found : Found) (r : List Char) : Scan α :=
    match read, l.depth with
    | none, _ => .error (.mismatched (.invalidType found expected))
    | some _, 0 => .error .malformed
    | some read, depth + 1 => read { l with depth } r
  (opening l.size cs).andThen fun opened r =>
  match opened with
  | .atom a => .error (.mismatched (.invalidType (.atom a) expected))
  | .array => inside array .sequence r
  | .object => inside object .map r

def list {α : Type} (item : Reader α) : Reader (List α) :=
  container .sequence
    (some fun l cs =>
      (items (item l) l.size true cs).andThen fun as r => (closeArray r).map fun _ => as)
    none

/-- An object of arbitrary keys; the entries come sorted, the last of each key. -/
def sortedEntries : Reader (List (String × Value)) :=
  container .map none
    (some fun l cs =>
      let entry (key : String) (es : List (String × Value)) (cs : List Char) :=
        (colon cs).andThen fun _ r => (value l r).map fun v => Value.insert key v.canonical es
      (entries l.size entry l.size true [] cs).andThen fun es r =>
      (closeObject r).map fun _ => es)

/-! ## Records -/

/-- A field of a record that is gathered in `σ`. -/
structure Field (σ : Type) where
  name : String
  /-- Whether the field may be left out. -/
  optional : Bool
  given : σ → Bool
  read : σ → Reader σ

/-- A record: an object of its fields, or an array of their values in order. -/
structure Record (σ α : Type) where
  name : String
  empty : σ
  fields : List (Field σ)
  /-- The record made of its fields, or the name of a field that is missing. -/
  make : σ → Except String α

namespace Record

variable {σ α : Type}

/-- One entry of a record written as an object.  Unknown fields are passed over. -/
def entry (fields : List (Field σ)) (l : Limits) (key : String) (s : σ) (cs : List Char) : Scan σ :=
  match fields.find? (·.name == key) with
  | none => (colon cs).andThen fun _ r => (skipValue l.size r).map fun _ => s
  | some f =>
      if f.given s then .error (.mismatched (.duplicateField key))
      else (colon cs).andThen fun _ r => f.read s l r

/-- The fields in order, the first of which has the number `i`. -/
def positional (tooShort : Nat → Mismatch) (l : Limits) :
    Nat → List (Field σ) → σ → List Char → Scan σ
  | _, [], s, cs => .ok (s, cs)
  | i, f :: fs, s, cs =>
      (moreItems (i == 0) cs).andThen fun more r =>
      if more then (f.read s l r).andThen fun s r => positional tooShort l (i + 1) fs s r
      else if f.optional then positional tooShort l (i + 1) fs s r
      else .error (.mismatched (tooShort i))

def finish (t : Record σ α) (s : σ) (cs : List Char) : Scan α :=
  settle ((t.make s).mapError .missingField) cs

def read (t : Record σ α) : Reader α :=
  container (.record t.name)
    (some fun l cs =>
      let tooShort i := .invalidLength i (.recordOf t.name t.fields.length)
      (positional tooShort l 0 t.fields t.empty cs).andThen fun s r =>
      (t.finish s r).andThen fun a r =>
      (closeArray r).map fun _ => a)
    (some fun l cs =>
      (entries l.size (entry t.fields l) l.size true t.empty cs).andThen fun s r =>
      (t.finish s r).andThen fun a r =>
      (closeObject r).map fun _ => a)

end Record

/-! ## Whole texts -/

/-- Read all of a text: nothing but blanks may follow. -/
def readAll {α : Type} (read : Reader α) (s : String) : Except Failure α :=
  let cs := s.toList
  match read ⟨nestingLimit, cs.length + 1⟩ cs with
  | .error e => .error e
  | .ok (a, r) => if (skipBlanks r).isEmpty then .ok a else .error .malformed

end DetailPanel.Json
