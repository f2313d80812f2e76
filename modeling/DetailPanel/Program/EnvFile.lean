import DetailPanel.Table
import DetailPanel.Text.Alphanumeric
import DetailPanel.Text.Blank

/-!
# Environment files

An environment file assigns variables, one a line.  A quote that is open at the
end of a line carries the assignment on to the next one.  Values may be quoted,
escape characters, and substitute earlier variables; what the environment
already has is never overwritten.  Reading stops at the first line that makes no
sense or is no text, and what came before it stays.
-/

namespace DetailPanel

/-- Variables by name. -/
abbrev Environment := Table String String

namespace EnvFile

/-! ## Logical lines -/

/-- Where a line stands with respect to quotes, escapes and comments. -/
inductive Mode where
  | complete
  | escaped
  | strong
  | strongEscaped
  | weak
  | weakEscaped
  | blank
  | comment
  deriving DecidableEq, Repr

def Mode.next (m : Mode) (c : Char) : Mode :=
  match m with
  | .blank =>
      if c = '#' then .comment
      else if c = '\\' then .escaped
      else if c = '"' then .weak
      else if c = '\'' then .strong
      else .complete
  | .complete =>
      if Text.isBlank c ∧ c ≠ '\n' ∧ c ≠ '\r' then .blank
      else if c = '\\' then .escaped
      else if c = '"' then .weak
      else if c = '\'' then .strong
      else .complete
  | .escaped => .complete
  | .weak => if c = '\\' then .weakEscaped else if c = '"' then .complete else .weak
  | .weakEscaped => .weak
  | .strong => if c = '\\' then .strongEscaped else if c = '\'' then .complete else .strong
  | .strongEscaped => .strong
  | .comment => .comment

/-- Run through a physical line up to a comment: the mode at its end, and what
stands before the comment. -/
def scanLine : Mode → List Char → Mode × List Char
  | m, [] => (m, [])
  | m, c :: cs =>
      match m.next c with
      | .comment => (.comment, [])
      | m => let (m, kept) := scanLine m cs; (m, c :: kept)

/-- The first physical line with its line end, and the rest. -/
def splitLine : List Char → List Char × List Char
  | [] => ([], [])
  | '\n' :: r => (['\n'], r)
  | c :: r => let (line, r) := splitLine r; (c :: line, r)

def isCommentLine (cs : List Char) : Bool := (cs.dropWhile Text.isBlank).head? == some '#'

/-- The logical lines, where the last one may be unfinished (`none`). -/
def logicalLines : (size : Nat) → (before : List Char) → Mode → List Char →
    List (Option (List Char))
  | 0, _, _, _ => []
  | _ + 1, _, m, [] => if m = .complete then [] else [none]
  | n + 1, before, m, cs =>
      let (line, r) := splitLine cs
      if isCommentLine (before ++ line) then logicalLines n [] .complete r
      else
        let (m, kept) := scanLine m line
        match m with
        | .complete | .comment => some (before ++ kept) :: logicalLines n [] .complete r
        | m => logicalLines n (before ++ line) m r

/-! ## Values -/

inductive Substitution where
  | none
  /-- After a dollar sign, with the name so far. -/
  | bare (name : List Char)
  /-- Between braces, with the name so far. -/
  | braced (name : List Char)
  deriving DecidableEq, Repr

/-- What has been read of a value; texts are kept in reverse. -/
structure ValueDraft where
  output : List Char := []
  strong : Bool := false
  weak : Bool := false
  escaped : Bool := false
  /-- A blank has ended the value; only a comment may follow. -/
  ended : Bool := false
  substitution : Substitution := .none

namespace ValueDraft

def push (d : ValueDraft) (c : Char) : ValueDraft := { d with output := c :: d.output }

/-- Put the value of a variable, or nothing if there is none. -/
def substitute (d : ValueDraft) (lookup : String → Option String) (name : List Char) : ValueDraft :=
  let value := (lookup (String.ofList name.reverse)).getD ""
  { d with output := value.toList.reverse ++ d.output, substitution := .none }

/-- Take one character: `none` for an error, and otherwise whether to go on. -/
def step (lookup : String → Option String) (d : ValueDraft) (c : Char) :
    Option (Bool × ValueDraft) :=
  if d.ended then
    if c = ' ' ∨ c = '\t' then some (true, d)
    else if c = '#' then some (false, d)
    else none
  else if d.escaped then
    let d := { d with escaped := false }
    if c = '\\' ∨ c = '\'' ∨ c = '"' ∨ c = '$' ∨ c = ' ' then some (true, d.push c)
    else if c = 'n' then some (true, d.push '\n')
    else none
  else if d.strong then
    some (true, if c = '\'' then { d with strong := false } else d.push c)
  else
    match d.substitution with
    | .bare name =>
        if Text.isAlphanumeric c then some (true, { d with substitution := .bare (c :: name) })
        else if c = '\x7b' ∧ name = [] then some (true, { d with substitution := .braced [] })
        else
          let d := d.substitute lookup name
          if c = '$' then some (true, { d with substitution := .bare [] })
          else some (true, d.push c)
    | .braced name =>
        if c = '\x7d' then some (true, d.substitute lookup name)
        else some (true, { d with substitution := .braced (c :: name) })
    | .none =>
        if c = '$' then some (true, { d with substitution := .bare [] })
        else if d.weak then
          if c = '"' then some (true, { d with weak := false })
          else if c = '\\' then some (true, { d with escaped := true })
          else some (true, d.push c)
        else if c = '\'' then some (true, { d with strong := true })
        else if c = '"' then some (true, { d with weak := true })
        else if c = '\\' then some (true, { d with escaped := true })
        else if c = ' ' ∨ c = '\t' then some (true, { d with ended := true })
        else some (true, d.push c)

/-- Quotes and braces have to be closed; a bare name may end with the value. -/
def finish (lookup : String → Option String) (d : ValueDraft) : Option String :=
  if d.strong || d.weak then none
  else
    match d.substitution with
    | .braced _ => none
    | .bare name => some (String.ofList (d.substitute lookup name).output.reverse)
    | .none => some (String.ofList d.output.reverse)

def read (lookup : String → Option String) : ValueDraft → List Char → Option String
  | d, [] => d.finish lookup
  | d, c :: cs =>
      match d.step lookup c with
      | none => none
      | some (false, d) => d.finish lookup
      | some (true, d) => d.read lookup cs

end ValueDraft

/-! ## Assignments -/

def key (cs : List Char) : Option (String × List Char) :=
  let isKeyChar (c : Char) := c.isAlphanum || c == '_' || c == '.'
  match cs with
  | c :: _ =>
      if c.isAlpha || c == '_' then
        some (String.ofList (cs.takeWhile isKeyChar), cs.dropWhile isKeyChar)
      else none
  | [] => none

/-- What follows an equals sign, after blanks. -/
def afterEquals (cs : List Char) : Option (List Char) :=
  match cs with
  | '=' :: r => some (r.dropWhile Text.isBlank)
  | _ => none

/-- A name with what follows its equals sign; the word `export` may stand before it. -/
def target (cs : List Char) : Option (String × List Char) := do
  let (name, r) ← key cs
  let r := r.dropWhile Text.isBlank
  match afterEquals r with
  | some r => some (name, r)
  | none =>
      if name = "export" then do
        let (name, r) ← key r
        let r ← afterEquals (r.dropWhile Text.isBlank)
        some (name, r)
      else none

inductive Line where
  | empty
  | assignment (name value : String)
  | senseless
  deriving DecidableEq, Repr

def readLine (lookup : String → Option String) (cs : List Char) : Line :=
  match Text.trim cs with
  | [] => .empty
  | '#' :: _ => .empty
  | cs =>
      match target cs with
      | none => .senseless
      | some (name, []) => .assignment name ""
      | some (name, '#' :: _) => .assignment name ""
      | some (name, r) =>
          match ValueDraft.read lookup {} r with
          | some value => .assignment name value
          | none => .senseless

/-- Apply lines to an environment; `known` holds what the lines so far assigned.  A
variable cannot hold a value with a null character: setting it to one ends the
process, and there is no environment. -/
def applyLines (env known : Environment) : List (Option (List Char)) → Option Environment
  | [] => some env
  | none :: _ => some env
  | some line :: lines =>
      let lookup name := (env.get? name).or (known.get? name)
      match readLine lookup line with
      | .empty => applyLines env known lines
      | .senseless => some env
      | .assignment name value =>
          if env.contains name then applyLines env (known.set name value) lines
          else if value.contains '\x00' then none
          else applyLines (env.set name value) (known.set name value) lines

/-- The environment with the assignments of a file, unless these end the process.  One
byte order mark may come first. -/
def apply (env : Environment) (text : String) : Option Environment :=
  let cs :=
    match text.toList with
    | '\uFEFF' :: r => r
    | r => r
  applyLines env [] (logicalLines (cs.length + 1) [] .complete cs)

/-! ## Bytes -/

/-- The first line with its line end, and the rest. -/
def splitBytes : List UInt8 → List UInt8 × List UInt8
  | [] => ([], [])
  | b :: r => if b = 10 then ([b], r) else let (line, r) := splitBytes r; (b :: line, r)

/-- The text of the lines before the first that is no text: the others are not reached.
Each line has a byte at least, so there are no more lines than `size`. -/
def leadingText : (size : Nat) → List UInt8 → String
  | 0, _ => ""
  | n + 1, bytes =>
      let (line, r) := splitBytes bytes
      match String.fromUTF8? ⟨line.toArray⟩ with
      | some text => text ++ leadingText n r
      | none => ""

def textOf (bytes : ByteArray) : String := leadingText bytes.size bytes.toList

end EnvFile

end DetailPanel
