import DetailPanel.Json.Failure
import DetailPanel.Total

/-!
# Scanning JSON scalars

Each scanner takes the characters at hand and answers what it read together
with those it left.  All of them stop at the first fault, so of two faults in a
text the one further left is reported.
-/

namespace DetailPanel.Json

/-- What a scanner answers: a value and the characters left over. -/
abbrev Scan (α : Type) := Except Failure (α × List Char)

/-- Go on with what was read and what was left. -/
def Scan.andThen {α β : Type} (s : Scan α) (f : α → List Char → Scan β) : Scan β :=
  match s with
  | .ok (a, r) => f a r
  | .error e => .error e

def Scan.map {α β : Type} (f : α → β) (s : Scan α) : Scan β := s.andThen fun a r => .ok (f a, r)

@[simp] theorem Scan.andThen_ok {α β : Type} (a : α) (r : List Char)
    (f : α → List Char → Scan β) : Scan.andThen (.ok (a, r)) f = f a r := rfl

@[simp] theorem Scan.andThen_error {α β : Type} (e : Failure) (f : α → List Char → Scan β) :
    Scan.andThen (.error e) f = .error e := rfl

def isBlank (c : Char) : Bool := c == ' ' || c == '\n' || c == '\t' || c == '\r'

def skipBlanks (cs : List Char) : List Char := cs.dropWhile isBlank

/-- The rest of a fixed word. -/
def word : List Char → List Char → Scan Unit
  | [], cs => .ok ((), cs)
  | _ :: _, [] => .error .ended
  | w :: ws, c :: cs => if w = c then word ws cs else .error .malformed

/-! ## Strings -/

def hexValue? (c : Char) : Option Nat :=
  if '0' ≤ c ∧ c ≤ '9' then some (c.toNat - 48)
  else if 'a' ≤ c ∧ c ≤ 'f' then some (c.toNat - 87)
  else if 'A' ≤ c ∧ c ≤ 'F' then some (c.toNat - 55)
  else none

def utf8Length (cs : List Char) : Nat := total Char.utf8Size cs

/-- The code unit of a `\u` escape.  A text with fewer than four octets left has
ended too early, whatever they are. -/
def codeUnit (cs : List Char) : Scan Nat :=
  match cs with
  | a :: b :: c :: d :: r =>
      match hexValue? a, hexValue? b, hexValue? c, hexValue? d with
      | some a, some b, some c, some d => .ok (((a * 16 + b) * 16 + c) * 16 + d, r)
      | _, _, _, _ => .error .malformed
  | short => if utf8Length short < 4 then .error .ended else .error .malformed

/-- The second half of a surrogate pair, after its first half. -/
def trailing (lead : Nat) : List Char → Scan Char
  | [] => .error .ended
  | '\\' :: [] => .error .ended
  | '\\' :: 'u' :: cs =>
      (codeUnit cs).andThen fun unit r =>
      if 0xDC00 ≤ unit ∧ unit ≤ 0xDFFF then
        .ok (Char.ofNat (0x10000 + (lead - 0xD800) * 0x400 + (unit - 0xDC00)), r)
      else .error .malformed
  | _ => .error .malformed

/-- The character of a `\u` escape; halves of surrogate pairs come in pairs only. -/
def unicodeEscape (cs : List Char) : Scan Char :=
  (codeUnit cs).andThen fun unit r =>
  if 0xDC00 ≤ unit ∧ unit ≤ 0xDFFF then .error .malformed
  else if 0xD800 ≤ unit ∧ unit ≤ 0xDBFF then trailing unit r
  else .ok (Char.ofNat unit, r)

def simpleEscape? : Char → Option Char
  | '"' => some '"'
  | '\\' => some '\\'
  | '/' => some '/'
  | 'b' => some '\x08'
  | 'f' => some '\x0c'
  | 'n' => some '\n'
  | 'r' => some '\r'
  | 't' => some '\t'
  | _ => none

/-- The character of an escape, after its backslash. -/
def escape : List Char → Scan Char
  | [] => .error .ended
  | 'u' :: cs => unicodeEscape cs
  | c :: cs =>
      match simpleEscape? c with
      | some e => .ok (e, cs)
      | none => .error .malformed

/-- The rest of a string after its opening quote, for a string of fewer than
`size` characters. -/
def stringBody : (size : Nat) → List Char → Scan (List Char)
  | 0, _ => .error .malformed
  | _ + 1, [] => .error .ended
  | _ + 1, '"' :: cs => .ok ([], cs)
  | n + 1, '\\' :: cs => (escape cs).andThen fun c r => (stringBody n r).map (c :: ·)
  | n + 1, c :: cs =>
      if c.toNat < 0x20 then .error .malformed else (stringBody n cs).map (c :: ·)

/-! ## Numbers -/

def isDigit (c : Char) : Bool := '0' ≤ c && c ≤ '9'

def largest64 : Nat := 18446744073709551615

/-- Take digits as long as the number that they continue fits into 64 bits: the
number, how many were taken, and what is left. -/
def boundedDigits (n : Nat) : List Char → Nat × Nat × List Char
  | [] => (n, 0, [])
  | c :: cs =>
      if isDigit c && 10 * n + Decimal.digitValue c ≤ largest64 then
        let (m, count, r) := boundedDigits (10 * n + Decimal.digitValue c) cs
        (m, count + 1, r)
      else (n, 0, c :: cs)

def largestExponent : Nat := 2147483647

/-- The exponent that digits write, or `none` when it leaves 32 bits; digits
after that are passed over. -/
def exponentDigits (n : Nat) : List Char → Option Nat × List Char
  | [] => (some n, [])
  | c :: cs =>
      if isDigit c then
        if 10 * n + Decimal.digitValue c ≤ largestExponent then
          exponentDigits (10 * n + Decimal.digitValue c) cs
        else (none, cs.dropWhile isDigit)
      else (some n, c :: cs)

/-- Divide by `10 ^ n`, in steps of at most `10 ^ 308`. -/
def divideByPower (x n : Nat) : Nat :=
  if n ≤ 308 then Decimal.Double.div x (Decimal.Double.powerOfTen n)
  else if x = 0 then 0
  else divideByPower (Decimal.Double.div x (Decimal.Double.powerOfTen 308)) (n - 308)
termination_by n

/-- The double of `significand * 10 ^ exponent`, if it is finite.  It is formed with one rounding
for the significand and one for each power of ten, which need not give the
nearest double. -/
def scale (significand : Nat) (exponent : Int) : Option Nat :=
  let x := Decimal.Double.ofNat significand
  if 0 ≤ exponent then
    if exponent.toNat ≤ 308 then
      let y := Decimal.Double.mul x (Decimal.Double.powerOfTen exponent.toNat)
      if y < Decimal.Double.infinite then some y else none
    else if x = 0 then some 0
    else none
  else some (divideByPower x (-exponent).toNat)

/-- The double of a significand and an exponent, before the characters `cs`. -/
def double (negative : Bool) (significand : Nat) (exponent : Int) (cs : List Char) : Scan Number :=
  match scale significand exponent with
  | some x => .ok (.ofSize negative x, cs)
  | none => .error .malformed

/-- The exponent part after its `e`, and with it the number. -/
def exponentPart (negative : Bool) (significand : Nat) (exponent : Int) (cs : List Char) :
    Scan Number :=
  let (downwards, cs) :=
    match cs with
    | '+' :: r => (false, r)
    | '-' :: r => (true, r)
    | r => (false, r)
  match cs with
  | [] => .error .ended
  | c :: r =>
      if isDigit c then
        match exponentDigits (Decimal.digitValue c) r with
        | (some e, r) =>
            double negative significand (exponent + if downwards then -(e : Int) else e) r
        | (none, r) =>
            if significand != 0 && !downwards then .error .malformed
            else .ok (.ofSize negative 0, r)
      else .error .malformed

def isExponentMark (c : Char) : Bool := c == 'e' || c == 'E'

/-- What may follow the last digit of a number that is a double. -/
def doubleEnd (negative : Bool) (significand : Nat) (exponent : Int) (cs : List Char) :
    Scan Number :=
  match cs with
  | c :: r =>
      if isExponentMark c then exponentPart negative significand exponent r
      else double negative significand exponent cs
  | [] => double negative significand exponent []

/-- The fraction after its point.  Digits beyond 64 bits of significand are
passed over. -/
def fractionPart (negative : Bool) (significand : Nat) (exponent : Int) (cs : List Char) :
    Scan Number :=
  let (significand, count, r) := boundedDigits significand cs
  let more := r.takeWhile isDigit
  if count = 0 && more.isEmpty then
    match r with
    | [] => .error .ended
    | _ => .error .malformed
  else doubleEnd negative significand (exponent - count) (r.dropWhile isDigit)

/-- The number after its leading digits. -/
def afterInteger (negative : Bool) (significand : Nat) (cs : List Char) : Scan Number :=
  match cs with
  | '.' :: r => fractionPart negative significand 0 r
  | c :: r =>
      if isExponentMark c then exponentPart negative significand 0 r
      else .ok (whole, cs)
  | [] => .ok (whole, [])
where
  /-- A negative zero, or a negative number beyond 64 bits, is a double. -/
  whole : Number :=
    if negative then
      if h : 0 < significand ∧ significand - 1 < negativeSpan then .negSucc ⟨significand - 1, h.2⟩
      else .ofSize true (Decimal.Double.ofNat significand)
    else .natural significand.toUInt64

/-- A number after its sign. -/
def unsigned (negative : Bool) : List Char → Scan Number
  | [] => .error .ended
  | '0' :: cs =>
      match cs with
      | c :: _ => if isDigit c then .error .malformed else afterInteger negative 0 cs
      | [] => afterInteger negative 0 []
  | c :: cs =>
      if isDigit c then
        let (significand, _, r) := boundedDigits (Decimal.digitValue c) cs
        let more := r.takeWhile isDigit
        if more.isEmpty then afterInteger negative significand r
        else
          match r.dropWhile isDigit with
          | '.' :: r => fractionPart negative significand more.length r
          | r => doubleEnd negative significand more.length r
      else .error .malformed

/-! ## Atoms -/

/-- What a value begins with: a whole atom, or the bracket of a container. -/
inductive Opening where
  | atom (a : Atom)
  | array
  | object

/-- Read an atom or an opening bracket; blanks before it are skipped. -/
def opening (size : Nat) (cs : List Char) : Scan Opening :=
  match skipBlanks cs with
  | [] => .error .ended
  | '[' :: r => .ok (.array, r)
  | '{' :: r => .ok (.object, r)
  | '"' :: r => (stringBody size r).map fun body => .atom (.text (String.ofList body))
  | 'n' :: r => (word ['u', 'l', 'l'] r).map fun _ => .atom .null
  | 't' :: r => (word ['r', 'u', 'e'] r).map fun _ => .atom (.bool true)
  | 'f' :: r => (word ['a', 'l', 's', 'e'] r).map fun _ => .atom (.bool false)
  | '-' :: r => (unsigned true r).map fun n => .atom (.number n)
  | c :: r =>
      if isDigit c then (unsigned false (c :: r)).map fun n => .atom (.number n)
      else .error .malformed

end DetailPanel.Json
