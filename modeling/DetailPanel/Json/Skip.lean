import DetailPanel.Json.Scan

/-!
# Passing over a JSON value

A value that nobody wants is checked less strictly than one that is kept: it
may be nested to any depth, its numbers may have any size, and its `\u` escapes
need not pair up.  The containers still open are a list, innermost first.
-/

namespace DetailPanel.Json

inductive Frame where
  | array
  | object
  deriving DecidableEq, Repr

/-- The rest of a string after its opening quote. -/
def skipString : (size : Nat) → List Char → Scan Unit
  | 0, _ => .error .malformed
  | _ + 1, [] => .error .ended
  | _ + 1, '"' :: cs => .ok ((), cs)
  | _ + 1, '\\' :: [] => .error .ended
  | n + 1, '\\' :: c :: cs =>
      if c = 'u' then (codeUnit cs).andThen fun _ r => skipString n r
      else if (simpleEscape? c).isSome then skipString n cs
      else .error .malformed
  | n + 1, c :: cs => if c.toNat < 0x20 then .error .malformed else skipString n cs

/-- One digit or more. -/
def skipDigits : List Char → Scan Unit
  | c :: cs => if isDigit c then .ok ((), cs.dropWhile isDigit) else .error .malformed
  | [] => .error .malformed

def skipExponent (cs : List Char) : Scan Unit :=
  match cs with
  | c :: r =>
      if isExponentMark c then
        match r with
        | '+' :: r => skipDigits r
        | '-' :: r => skipDigits r
        | r => skipDigits r
      else .ok ((), cs)
  | [] => .ok ((), [])

/-- A number after its sign.  A number cut short is malformed. -/
def skipNumber (cs : List Char) : Scan Unit :=
  let integer : Scan Unit :=
    match cs with
    | '0' :: c :: r => if isDigit c then .error .malformed else .ok ((), c :: r)
    | r => skipDigits r
  integer.andThen fun _ r =>
    match r with
    | '.' :: r => (skipDigits r).andThen fun _ r => skipExponent r
    | r => skipExponent r

/-- The container that a value opens, or `none` for an atom, which is passed over. -/
def skipOpening (size : Nat) (cs : List Char) : Scan (Option Frame) :=
  match skipBlanks cs with
  | [] => .error .ended
  | '[' :: r => .ok (some .array, r)
  | '{' :: r => .ok (some .object, r)
  | '"' :: r => (skipString size r).map fun _ => none
  | 'n' :: r => (word ['u', 'l', 'l'] r).map fun _ => none
  | 't' :: r => (word ['r', 'u', 'e'] r).map fun _ => none
  | 'f' :: r => (word ['a', 'l', 's', 'e'] r).map fun _ => none
  | '-' :: r => (skipNumber r).map fun _ => none
  | c :: r =>
      if isDigit c then (skipNumber (c :: r)).map fun _ => none else .error .malformed

def colon (cs : List Char) : Scan Unit :=
  match skipBlanks cs with
  | [] => .error .ended
  | ':' :: r => .ok ((), r)
  | _ => .error .malformed

/-- A key and its colon. -/
def skipKey (size : Nat) (cs : List Char) : Scan Unit :=
  match skipBlanks cs with
  | [] => .error .ended
  | '"' :: r => (skipString size r).andThen fun _ r => colon r
  | _ => .error .malformed

/-- After a value: leave every container that closes here, up to the place of
the next value.  No container is left when all is done. -/
def leave (size : Nat) : List Frame → List Char → Scan (List Frame)
  | [], cs => .ok ([], cs)
  | .array :: outer, cs =>
      match skipBlanks cs with
      | [] => .error .ended
      | ',' :: r => .ok (.array :: outer, r)
      | ']' :: r => leave size outer r
      | _ => .error .malformed
  | .object :: outer, cs =>
      match skipBlanks cs with
      | [] => .error .ended
      | ',' :: r => (skipKey size r).map fun _ => .object :: outer
      | '}' :: r => leave size outer r
      | _ => .error .malformed

/-- Into a container just opened, up to the place of its first value. -/
def enter (size : Nat) (frame : Frame) (outer : List Frame) (cs : List Char) : Scan (List Frame) :=
  match frame, skipBlanks cs with
  | _, [] => .error .ended
  | .array, ']' :: r => leave size outer r
  | .array, r => .ok (.array :: outer, r)
  | .object, '}' :: r => leave size outer r
  | .object, r => (skipKey size r).map fun _ => .object :: outer

def skipInside (size : Nat) : Nat → List Frame → List Char → Scan Unit
  | 0, _, _ => .error .malformed
  | n + 1, outer, cs =>
      (skipOpening size cs).andThen fun opened r =>
      let next :=
        match opened with
        | none => leave size outer r
        | some frame => enter size frame outer r
      next.andThen fun outer r =>
      match outer with
      | [] => .ok ((), r)
      | outer => skipInside size n outer r

/-- Pass over one value. -/
def skipValue (size : Nat) (cs : List Char) : Scan Unit := skipInside size size [] cs

end DetailPanel.Json
