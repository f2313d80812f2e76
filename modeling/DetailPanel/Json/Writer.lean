import DetailPanel.Json.Value

/-!
# Writing JSON

Compact text on one line, or indented by two blanks a level.  Object entries
are written in the order they stand.
-/

namespace DetailPanel.Json

def hexChar (d : Nat) : Char := Char.ofNat (if d < 10 then 48 + d else 87 + d)

/-- Quotes, backslashes and controls are escaped, and nothing else. -/
def escapeChar (c : Char) : List Char :=
  if c = '"' then ['\\', '"']
  else if c = '\\' then ['\\', '\\']
  else if c = '\x08' then ['\\', 'b']
  else if c = '\x0c' then ['\\', 'f']
  else if c = '\n' then ['\\', 'n']
  else if c = '\r' then ['\\', 'r']
  else if c = '\t' then ['\\', 't']
  else if c.toNat < 0x20 then
    ['\\', 'u', '0', '0', hexChar (c.toNat / 16), hexChar (c.toNat % 16)]
  else [c]

def writeString (s : String) : List Char := '"' :: s.toList.flatMap escapeChar ++ ['"']

def Atom.write : Atom → List Char
  | .null => ['n', 'u', 'l', 'l']
  | .bool true => ['t', 'r', 'u', 'e']
  | .bool false => ['f', 'a', 'l', 's', 'e']
  | .number n => n.text
  | .text s => writeString s

namespace Value

mutual
def write : Value → List Char
  | .atom a => a.write
  | .array [] => ['[', ']']
  | .array (v :: vs) => '[' :: write v ++ writeItems vs
  | .object [] => ['{', '}']
  | .object ((k, v) :: es) => '{' :: writeString k ++ ':' :: write v ++ writeEntries es
/-- The elements after the first, and the bracket. -/
def writeItems : List Value → List Char
  | [] => [']']
  | v :: vs => ',' :: write v ++ writeItems vs
/-- The entries after the first, and the brace. -/
def writeEntries : List (String × Value) → List Char
  | [] => ['}']
  | (k, v) :: es => ',' :: writeString k ++ ':' :: write v ++ writeEntries es
end

def newLine (level : Nat) : List Char := '\n' :: List.replicate (2 * level) ' '

mutual
/-- Every element and entry on a line of its own. -/
def indent (level : Nat) : Value → List Char
  | .atom a => a.write
  | .array [] => ['[', ']']
  | .array (v :: vs) =>
      '[' :: newLine (level + 1) ++ indent (level + 1) v ++ indentItems level vs
  | .object [] => ['{', '}']
  | .object ((k, v) :: es) =>
      '{' :: newLine (level + 1) ++ writeString k ++ ':' :: ' ' :: indent (level + 1) v ++
        indentEntries level es
def indentItems (level : Nat) : List Value → List Char
  | [] => newLine level ++ [']']
  | v :: vs => ',' :: newLine (level + 1) ++ indent (level + 1) v ++ indentItems level vs
def indentEntries (level : Nat) : List (String × Value) → List Char
  | [] => newLine level ++ ['}']
  | (k, v) :: es =>
      ',' :: newLine (level + 1) ++ writeString k ++ ':' :: ' ' :: indent (level + 1) v ++
        indentEntries level es
end

def compact (v : Value) : String := String.ofList v.write

def pretty (v : Value) : String := String.ofList (v.indent 0)

/-! ## Building values -/

def null : Value := .atom .null

def ofBool (b : Bool) : Value := .atom (.bool b)

def ofText (s : String) : Value := .atom (.text s)

def ofNatural (n : UInt64) : Value := .atom (.number (.natural n))

def ofOption {α : Type} (f : α → Value) : Option α → Value
  | some a => f a
  | none => null

end Value

end DetailPanel.Json
