import DetailPanel.Toml.Scalar

/-!
# TOML documents

A document is a tree of tables.  How a table came about decides what may still
be added to it: a table that a header names is defined once, one that is only
passed through by headers may be defined later, one that dotted keys made grows
by dotted keys and sub-tables, and one written inline is closed.
-/

namespace DetailPanel.Toml

inductive Origin where
  /-- Named by a header, or an element of an array of tables. -/
  | header
  /-- Passed through by the path of a header. -/
  | passed
  | dotted
  | inline
  deriving DecidableEq, Repr

inductive Node where
  | scalar (s : Scalar)
  | array (items : List Node)
  /-- Built by headers; the tables stand in reverse order. -/
  | tables (elements : List (List (String × Node)))
  | table (origin : Origin) (entries : List (String × Node))

abbrev Entries := List (String × Node)

/-! ## Growing a table -/

def replace (k : String) (n : Node) (es : Entries) : Entries :=
  es.map fun e => if e.1 == k then (k, n) else e

/-- Add an entry under a new key. -/
def add (k : String) (n : Node) (es : Entries) : Option Entries :=
  if (es.lookup k).isSome then none else some (es ++ [(k, n)])

/-- Put a value under a key with the given path of dotted parts.  A table that
headers only passed through counts as made by dotted keys from then on; an
element of an array of tables may be passed through, but gets no value. -/
def addDotted : (path : List String) → String → Node → Entries → Option Entries
  | [], k, n, es => add k n es
  | p :: path, k, n, es =>
      match es.lookup p with
      | none => do
          let inner ← addDotted path k n []
          some (es ++ [(p, .table .dotted inner)])
      | some (.table .dotted inner) | some (.table .passed inner) => do
          let inner ← addDotted path k n inner
          some (replace p (.table .dotted inner) es)
      | some (.tables (last :: before)) =>
          if path.isEmpty then none
          else do
            let last ← addDotted path k n last
            some (replace p (.tables (last :: before)) es)
      | some _ => none

/-- Change the table that the path of a header leads to. -/
def within : (path : List String) → (Entries → Option Entries) → Entries → Option Entries
  | [], f, es => f es
  | p :: path, f, es =>
      match es.lookup p with
      | none => do
          let inner ← within path f []
          some (es ++ [(p, .table .passed inner)])
      | some (.tables (last :: before)) => do
          let last ← within path f last
          some (replace p (.tables (last :: before)) es)
      | some (.table origin inner) =>
          if origin = .inline then none
          else do
            let inner ← within path f inner
            some (replace p (.table origin inner) es)
      | some _ => none

/-- What stands under a key of the table that a path leads to. -/
def lookupPath : (path : List String) → String → Entries → Option Node
  | [], k, es => es.lookup k
  | p :: path, k, es =>
      match es.lookup p with
      | some (.tables (last :: _)) => lookupPath path k last
      | some (.table _ inner) => lookupPath path k inner
      | _ => none

/-! ## Values -/

/-- Containers may be nested this deep. -/
def nestingLimit : Nat := 80

/-- The elements of an array, up to its bracket. -/
def items (size : Nat) (value : List Char → Option (Node × List Char)) :
    Nat → List Char → Option (List Node × List Char)
  | 0, _ => none
  | n + 1, cs =>
      match skipLines size cs with
      | ']' :: r => some ([], r)
      | r => do
          let (v, r) ← value r
          match skipLines size r with
          | ']' :: r => some ([v], r)
          | ',' :: r => do
              let (vs, r) ← items size value n r
              some (v :: vs, r)
          | _ => none

/-- A key and a value, with the path of the key; `skip` passes over what may
stand on both sides of the equals sign. -/
def keyValue (size : Nat) (skip : List Char → List Char)
    (value : List Char → Option (Node × List Char)) (cs : List Char) :
    Option (((List String × String) × Node) × List Char) := do
  let (parts, r) ← key size cs
  let last ← parts.getLast?
  match skip r with
  | '=' :: r => do
      let (v, r) ← value (skip r)
      some (((parts.dropLast, last), v), r)
  | _ => none

/-- The entries of an inline table, up to its brace.  Line ends and comments may
stand between any two of its tokens but inside a key. -/
def inlineEntries (size : Nat) (value : List Char → Option (Node × List Char)) :
    Nat → Entries → List Char → Option (Entries × List Char)
  | 0, _, _ => none
  | n + 1, es, cs =>
      match skipLines size cs with
      | '}' :: r => some (es, r)
      | r => do
          let (((path, k), v), r) ← keyValue size (skipLines size) value r
          let es ← addDotted path k v es
          match skipLines size r with
          | '}' :: r => some (es, r)
          | ',' :: r => inlineEntries size value n es r
          | _ => none

def value (size : Nat) : (depth : Nat) → List Char → Option (Node × List Char)
  | 0, cs =>
      match cs with
      | '[' :: _ | '{' :: _ => none
      | cs => (scalar size cs).map fun p => (.scalar p.1, p.2)
  | depth + 1, cs =>
      match cs with
      | '[' :: r => (items size (value size depth) size r).map fun p => (.array p.1, p.2)
      | '{' :: r =>
          (inlineEntries size (value size depth) size [] r).map fun p => (.table .inline p.1, p.2)
      | cs => (scalar size cs).map fun p => (.scalar p.1, p.2)

/-! ## Documents -/

/-- The header that a table was opened by. -/
structure Header where
  path : List String
  name : String
  isArray : Bool

/-- The tables closed so far, and the one that is open. -/
structure Draft where
  root : Entries := []
  header : Option Header := none
  current : Entries := []

/-- Put the open table where its header says. -/
def Draft.close (d : Draft) : Option Entries :=
  match d.header with
  | none => some d.current
  | some h =>
      within h.path
        (fun es =>
          match h.isArray, es.lookup h.name with
          | true, none => some (es ++ [(h.name, .tables [d.current])])
          | true, some (.tables ts) => some (replace h.name (.tables (d.current :: ts)) es)
          | false, none => some (es ++ [(h.name, .table .header d.current)])
          | _, _ => none)
        d.root

/-- Close the open table and open the one that a header names.  A table that was
only passed through keeps what it holds. -/
def Draft.openTable (d : Draft) (h : Header) : Option Draft := do
  let root ← d.close
  match h.isArray, lookupPath h.path h.name root with
  | true, none | true, some (.tables _) =>
      let root ← within h.path some root
      some { root, header := some h }
  | false, none =>
      let root ← within h.path some root
      some { root, header := some h }
  | false, some (.table .passed inner) =>
      let root ← within h.path (fun es => some (es.filter (·.1 != h.name))) root
      some { root, header := some h, current := inner }
  | _, _ => none

/-- A table header after its first bracket. -/
def header (size : Nat) (cs : List Char) : Option (Header × List Char) :=
  let (isArray, cs) :=
    match cs with
    | '[' :: r => (true, r)
    | r => (false, r)
  match key size cs with
  | none => none
  | some (parts, r) =>
      let closed :=
        match isArray, r with
        | true, ']' :: ']' :: r => some r
        | false, ']' :: r => some r
        | _, _ => none
      match parts.getLast?, closed with
      | some name, some r => some ({ path := parts.dropLast, name, isArray }, r)
      | _, _ => none

/-- The lines of a document. -/
def lines (size : Nat) : Nat → Draft → List Char → Option Entries
  | 0, _, _ => none
  | n + 1, d, cs =>
      match skipLines size cs with
      | [] => d.close
      | '#' :: r => if (skipComment ('#' :: r)).isEmpty then d.close else none
      | '[' :: r => do
          let (h, r) ← header size r
          let d ← d.openTable h
          let r ← lineEnd r
          lines size n d r
      | r => do
          let (((path, k), v), r) ← keyValue size skipBlanks (value size nestingLimit) r
          let current ← addDotted path k v d.current
          let r ← lineEnd r
          lines size n { d with current } r

/-- The root table of a document.  One byte order mark may come first. -/
def parse (s : String) : Option Entries :=
  let cs :=
    match s.toList with
    | '\uFEFF' :: r => r
    | r => r
  lines (cs.length + 1) (cs.length + 1) {} cs

end DetailPanel.Toml
