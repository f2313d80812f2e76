/-!
# Blanks, comments, strings and keys of TOML

Everything here takes the characters at hand and answers what it read together
with those it left, or nothing if the text is no TOML.  Strings are of four
kinds: basic ones know escapes, literal ones do not, and either may run over
several lines between triple quotes.
-/

namespace DetailPanel.Toml

def isBlank (c : Char) : Bool := c == ' ' || c == '\t'

def skipBlanks (cs : List Char) : List Char := cs.dropWhile isBlank

/-- A character that may stand for itself in comments and literal strings. -/
def isPlain (c : Char) : Bool := c == '\t' || (0x20 ≤ c.toNat && c.toNat != 0x7f)

/-- A line feed, alone or after a carriage return. -/
def newline? : List Char → Option (List Char)
  | '\n' :: r => some r
  | '\r' :: '\n' :: r => some r
  | _ => none

/-- A comment, if one starts here, up to the end of its line. -/
def skipComment : List Char → List Char
  | '#' :: r => r.dropWhile isPlain
  | r => r

/-- Blanks and a comment up to the end of a line or of the text. -/
def lineEnd (cs : List Char) : Option (List Char) :=
  match skipComment (skipBlanks cs) with
  | [] => some []
  | r => newline? r

/-- Blanks, comments and line ends. -/
def skipLines : (size : Nat) → List Char → List Char
  | 0, cs => cs
  | n + 1, cs =>
      let r := skipBlanks cs
      match newline? (skipComment r) with
      | some r => skipLines n r
      | none => r

/-! ## Strings -/

def hexValue? (c : Char) : Option Nat :=
  if '0' ≤ c ∧ c ≤ '9' then some (c.toNat - 48)
  else if 'a' ≤ c ∧ c ≤ 'f' then some (c.toNat - 87)
  else if 'A' ≤ c ∧ c ≤ 'F' then some (c.toNat - 55)
  else none

/-- The number that exactly `count` hexadecimal digits write after `n`. -/
def hexNumber : (count : Nat) → Nat → List Char → Option (Nat × List Char)
  | 0, n, cs => some (n, cs)
  | _ + 1, _, [] => none
  | count + 1, n, c :: cs => do
      let d ← hexValue? c
      hexNumber count (16 * n + d) cs

/-- A character by its code point; surrogates are none. -/
def codePoint (count : Nat) (cs : List Char) : Option (Char × List Char) := do
  let (n, r) ← hexNumber count 0 cs
  if n.isValidChar then some (Char.ofNat n, r) else none

/-- The character of an escape, after its backslash. -/
def escape : List Char → Option (Char × List Char)
  | 'b' :: r => some ('\x08', r)
  | 't' :: r => some ('\t', r)
  | 'n' :: r => some ('\n', r)
  | 'f' :: r => some ('\x0c', r)
  | 'r' :: r => some ('\r', r)
  | 'e' :: r => some ('\x1b', r)
  | '"' :: r => some ('"', r)
  | '\\' :: r => some ('\\', r)
  | 'x' :: r => codePoint 2 r
  | 'u' :: r => codePoint 4 r
  | 'U' :: r => codePoint 8 r
  | _ => none

/-- Put a character in front of what is read next. -/
def prepend (c : Char) (s : Option (List Char × List Char)) : Option (List Char × List Char) :=
  s.map fun p => (c :: p.1, p.2)

/-- The rest of a basic string on one line. -/
def basicString : (size : Nat) → List Char → Option (List Char × List Char)
  | 0, _ => none
  | _ + 1, [] => none
  | _ + 1, '"' :: r => some ([], r)
  | n + 1, '\\' :: r => do
      let (c, r) ← escape r
      prepend c (basicString n r)
  | n + 1, c :: r => if isPlain c then prepend c (basicString n r) else none

/-- The rest of a literal string on one line. -/
def literalString : List Char → Option (List Char × List Char)
  | [] => none
  | '\'' :: r => some ([], r)
  | c :: r => if isPlain c then prepend c (literalString r) else none

/-- The end of a string over several lines: three quotes, and up to two more
before them that belong to the string. -/
def tripleEnd (quote : Char) (cs : List Char) : Option (List Char × List Char) :=
  let run := cs.takeWhile (· == quote)
  if run.length < 3 then none
  else some (List.replicate (min (run.length - 3) 2) quote, cs.drop (min run.length 5))

/-- After a backslash at the end of a line: the blanks and line ends that it removes. -/
def continuation (size : Nat) (cs : List Char) : Option (List Char) :=
  (newline? (skipBlanks cs)).map (go size)
where
  go : Nat → List Char → List Char
    | 0, cs => cs
    | n + 1, cs =>
        let r := skipBlanks cs
        match newline? r with
        | some r => go n r
        | none => r

/-- The rest of a basic string over several lines.  Line ends stay as they are written. -/
def basicLines : (size : Nat) → List Char → Option (List Char × List Char)
  | 0, _ => none
  | n + 1, cs =>
      match tripleEnd '"' cs with
      | some ending => some ending
      | none =>
          match cs with
          | [] => none
          | '\n' :: r => prepend '\n' (basicLines n r)
          | '\r' :: '\n' :: r => prepend '\r' (prepend '\n' (basicLines n r))
          | '\\' :: r =>
              match continuation n r with
              | some r => basicLines n r
              | none => do
                  let (c, r) ← escape r
                  prepend c (basicLines n r)
          | c :: r => if isPlain c then prepend c (basicLines n r) else none

/-- The rest of a literal string over several lines. -/
def literalLines : (size : Nat) → List Char → Option (List Char × List Char)
  | 0, _ => none
  | n + 1, cs =>
      match tripleEnd '\'' cs with
      | some ending => some ending
      | none =>
          match cs with
          | [] => none
          | '\n' :: r => prepend '\n' (literalLines n r)
          | '\r' :: '\n' :: r => prepend '\r' (prepend '\n' (literalLines n r))
          | c :: r => if isPlain c then prepend c (literalLines n r) else none

/-- A line end right after triple quotes does not belong to the string. -/
def dropFirstNewline (cs : List Char) : List Char := (newline? cs).getD cs

/-- A string of any kind. -/
def string (size : Nat) (cs : List Char) : Option (String × List Char) :=
  let chars :=
    match cs with
    | '"' :: '"' :: '"' :: r => basicLines size (dropFirstNewline r)
    | '\'' :: '\'' :: '\'' :: r => literalLines size (dropFirstNewline r)
    | '"' :: r => basicString size r
    | '\'' :: r => literalString r
    | _ => none
  chars.map fun p => (String.ofList p.1, p.2)

/-! ## Keys -/

def isBare (c : Char) : Bool := c.isAlphanum || c == '_' || c == '-'

/-- One part of a key: bare, or a string on one line. -/
def keyPart (size : Nat) (cs : List Char) : Option (String × List Char) :=
  match cs with
  | '"' :: r => (basicString size r).map fun p => (String.ofList p.1, p.2)
  | '\'' :: r => (literalString r).map fun p => (String.ofList p.1, p.2)
  | cs =>
      let part := cs.takeWhile isBare
      if part.isEmpty then none else some (String.ofList part, cs.dropWhile isBare)

/-- The most parts of one key. -/
def keyLimit : Nat := 80

/-- Up to `most` parts of a key, which dots separate; blanks may stand around each. -/
def keyParts (size : Nat) : (most : Nat) → List Char → Option (List String × List Char)
  | 0, _ => none
  | most + 1, cs => do
      let (part, r) ← keyPart size (skipBlanks cs)
      match skipBlanks r with
      | '.' :: r => do
          let (more, r) ← keyParts size most r
          some (part :: more, r)
      | r => some ([part], r)

def key (size : Nat) (cs : List Char) : Option (List String × List Char) :=
  keyParts size keyLimit cs

end DetailPanel.Toml
