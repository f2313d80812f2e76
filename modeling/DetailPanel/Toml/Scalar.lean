import DetailPanel.Decimal.Natural
import DetailPanel.Toml.Text

/-!
# Numbers, booleans and moments of TOML

An unquoted scalar is a run of characters that is taken whole and then judged.
A date may be followed by one blank and a time.
-/

namespace DetailPanel.Toml

inductive Scalar where
  | text (s : String)
  | integer (n : Int)
  | float
  | boolean (b : Bool)
  | moment
  deriving DecidableEq, Repr

/-- Digits of a radix with single underscores between them. -/
def groupedDigits (isDigit : Char → Bool) : List Char → Option (List Char)
  | [] => none
  | [c] => if isDigit c then some [c] else none
  | c :: '_' :: r =>
      if isDigit c then (groupedDigits isDigit r).map (c :: ·) else none
  | c :: r => if isDigit c then (groupedDigits isDigit r).map (c :: ·) else none

def decimalDigits : List Char → Option (List Char) := groupedDigits Char.isDigit

def radixValue (radix : Nat) (ds : List Char) : Nat :=
  ds.foldl (fun n c => radix * n + (hexValue? c).getD 0) 0

/-- An integer without sign in another radix. -/
def radixInteger (cs : List Char) : Option Nat :=
  let read (radix : Nat) (r : List Char) : Option Nat :=
    (groupedDigits (fun c => (hexValue? c).any (· < radix)) r).map (radixValue radix)
  match cs with
  | '0' :: 'x' :: r => read 16 r
  | '0' :: 'o' :: r => read 8 r
  | '0' :: 'b' :: r => read 2 r
  | _ => none

/-- Decimal digits with no leading zero. -/
def decimalInteger (cs : List Char) : Option (List Char) := do
  let ds ← decimalDigits cs
  match ds with
  | '0' :: _ :: _ => none
  | ds => some ds

/-- Integers are kept up to 128 bits, with one bit for the sign of a negative one. -/
def boundedInteger (n : Int) : Option Scalar :=
  if n < 0 then
    if n.natAbs ≤ Nat.pow 2 127 then some (.integer n) else none
  else if n.natAbs < Nat.pow 2 128 then some (.integer n)
  else none

/-- The exponent of a float after its mark. -/
def exponent (cs : List Char) : Option Int :=
  match cs with
  | '-' :: r => (decimalDigits r).map fun ds => -(Decimal.value ds : Int)
  | '+' :: r => (decimalDigits r).map fun ds => (Decimal.value ds : Int)
  | r => (decimalDigits r).map fun ds => (Decimal.value ds : Int)

/-- Whether `digits * 10 ^ e` rounds to a finite double. -/
def isFinite (ds : List Char) (e : Int) : Bool :=
  let n := Decimal.value ds
  let order := e + (Decimal.digits n).length
  let limit := Nat.pow 2 1024 - Nat.pow 2 970
  if n = 0 ∨ order ≤ 308 then true
  else if 310 < order then false
  else if 0 ≤ e then n * Nat.pow 10 e.toNat < limit
  else n < limit * Nat.pow 10 (-e).toNat

/-- A float without sign: a fraction, an exponent, or both. -/
def unsignedFloat (cs : List Char) : Option Scalar := do
  let isMark (c : Char) := c == 'e' || c == 'E'
  let mantissa := cs.takeWhile fun c => !isMark c
  let e ←
    match cs.dropWhile fun c => !isMark c with
    | [] => some 0
    | _ :: r => exponent r
  let whole ← decimalInteger (mantissa.takeWhile (· != '.'))
  let fraction ←
    match mantissa.dropWhile (· != '.') with
    | [] => some []
    | _ :: r => decimalDigits r
  if mantissa.length == cs.length && !mantissa.contains '.' then none
  else if isFinite (whole ++ fraction) (e - fraction.length) then some .float
  else none

/-- A number after its sign. -/
def unsignedNumber (negative : Bool) (cs : List Char) : Option Scalar :=
  if cs = ['i', 'n', 'f'] ∨ cs = ['n', 'a', 'n'] then some .float
  else
    match decimalInteger cs with
    | some ds =>
        let n : Int := Decimal.value ds
        boundedInteger (if negative then -n else n)
    | none => unsignedFloat cs

/-! ## Moments -/

/-- Exactly `count` digits, for a number between `low` and `high`. -/
def field (count low high : Nat) (cs : List Char) : Option (Nat × List Char) :=
  let ds := cs.take count
  let n := Decimal.value ds
  if ds.length = count ∧ ds.all Char.isDigit ∧ low ≤ n ∧ n ≤ high then some (n, cs.drop count)
  else none

def mark (isMark : Char → Bool) : List Char → Option (List Char)
  | c :: r => if isMark c then some r else none
  | [] => none

def daysIn (year month : Nat) : Nat :=
  if month = 2 then
    if year % 4 = 0 ∧ (year % 100 ≠ 0 ∨ year % 400 = 0) then 29 else 28
  else if month = 4 ∨ month = 6 ∨ month = 9 ∨ month = 11 then 30
  else 31

def date (cs : List Char) : Option (List Char) := do
  let (year, r) ← field 4 0 9999 cs
  let r ← mark (· == '-') r
  let (month, r) ← field 2 1 12 r
  let r ← mark (· == '-') r
  let (_, r) ← field 2 1 (daysIn year month) r
  some r

/-- Hours and minutes, and perhaps seconds with a fraction. -/
def time (cs : List Char) : Option (List Char) := do
  let (_, r) ← field 2 0 23 cs
  let r ← mark (· == ':') r
  let (_, r) ← field 2 0 59 r
  match r with
  | ':' :: r => do
      let (_, r) ← field 2 0 60 r
      match r with
      | '.' :: c :: r => if c.isDigit then some (r.dropWhile Char.isDigit) else none
      | '.' :: [] => none
      | r => some r
  | r => some r

/-- Nothing, a `Z`, or a difference in hours and minutes. -/
def zone (cs : List Char) : Option (List Char) :=
  match cs with
  | [] => some []
  | c :: r =>
      if c == 'Z' || c == 'z' then some r
      else if c == '+' || c == '-' then do
        let (_, r) ← field 2 0 23 r
        let r ← mark (· == ':') r
        let (_, r) ← field 2 0 59 r
        some r
      else none

def isMoment (cs : List Char) : Bool :=
  let dated := do
    let r ← date cs
    match r with
    | [] => some []
    | c :: r => if c == 'T' || c == 't' || c == ' ' then (time r).bind zone else none
  dated == some [] || time cs == some []

/-! ## Unquoted scalars -/

def ofWord (cs : List Char) : Option Scalar :=
  if cs = ['t', 'r', 'u', 'e'] then some (.boolean true)
  else if cs = ['f', 'a', 'l', 's', 'e'] then some (.boolean false)
  else if isMoment cs then some .moment
  else
    match cs with
    | '+' :: r => unsignedNumber false r
    | '-' :: r => unsignedNumber true r
    | r =>
        match radixInteger r with
        | some n => boundedInteger n
        | none => unsignedNumber false r

def isWordChar (c : Char) : Bool := isBare c || c == '+' || c == '.' || c == ':'

/-- The run of characters of an unquoted scalar. -/
def word (cs : List Char) : List Char × List Char :=
  let first := cs.takeWhile isWordChar
  let rest := cs.dropWhile isWordChar
  match rest with
  | ' ' :: d :: r =>
      if date first = some [] ∧ d.isDigit then
        (first ++ ' ' :: (d :: r).takeWhile isWordChar, (d :: r).dropWhile isWordChar)
      else (first, rest)
  | _ => (first, rest)

/-- A scalar of any kind. -/
def scalar (size : Nat) (cs : List Char) : Option (Scalar × List Char) :=
  match cs with
  | '"' :: _ | '\'' :: _ => (string size cs).map fun p => (.text p.1, p.2)
  | _ => (ofWord (word cs).1).map fun s => (s, (word cs).2)

end DetailPanel.Toml
