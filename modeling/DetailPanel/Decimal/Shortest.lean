import DetailPanel.Decimal.Natural

/-!
# The shortest decimal of a double

A finite double is `m * 2 ^ q`.  The reals that round to it form an interval
which contains its ends exactly when `m` is even.  The shortest decimal is the
one with the fewest digits in that interval, the nearest of those, and on a tie
the one with an even last digit.  All comparisons are made in whole numbers.
-/

namespace DetailPanel.Decimal

/-- The size of a finite double: `m * 2 ^ e / 2 ^ 1074`, with the gap below it
halved where the binary exponent changes. -/
structure Magnitude where
  m : Nat
  e : Nat
  halfGapBelow : Bool
  deriving DecidableEq, Repr

namespace Magnitude

/-- Decode the 64 bits of a finite double, leaving its sign out. -/
def ofBits (bits : UInt64) : Magnitude :=
  let fraction := bits.toNat % 0x10000000000000
  let exponent := bits.toNat / 0x10000000000000 % 0x800
  if exponent = 0 then ⟨fraction, 0, false⟩
  else ⟨0x10000000000000 + fraction, exponent - 1, fraction == 0 && 1 < exponent⟩

/-! Everything below is counted in quarters of the unit `2 ^ e / 2 ^ 1074`: a
real `x` is compared with the magnitude through `x * unitsPer`. -/

def center (v : Magnitude) : Nat := 4 * v.m * Nat.pow 2 v.e

def low (v : Magnitude) : Nat := (4 * v.m - if v.halfGapBelow then 1 else 2) * Nat.pow 2 v.e

def high (v : Magnitude) : Nat := (4 * v.m + 2) * Nat.pow 2 v.e

/-- One whole unit, on the scale of `center`. -/
def one : Nat := 4 * Nat.pow 2 1074

/-- Whether the real `num / den` (on the scale of `center`) rounds to the magnitude. -/
def admits (v : Magnitude) (num den : Nat) : Bool :=
  if v.m % 2 = 0 then v.low * den ≤ num && num ≤ v.high * den
  else v.low * den < num && num < v.high * den

end Magnitude

/-- The decimal `coefficient * 10 ^ exponent`. -/
structure Scientific where
  coefficient : Nat
  exponent : Int
  deriving DecidableEq, Repr

namespace Scientific

/-- Numerator and denominator on the scale of `Magnitude.center`. -/
def scaled (s : Scientific) : Nat × Nat :=
  if 0 ≤ s.exponent then (s.coefficient * Nat.pow 10 s.exponent.toNat * Magnitude.one, 1)
  else (s.coefficient * Magnitude.one, Nat.pow 10 (-s.exponent).toNat)

def within (s : Scientific) (v : Magnitude) : Bool := v.admits s.scaled.1 s.scaled.2

end Scientific

/-- The least `p` with `v < 10 ^ p`, for a magnitude below `10 ^ 309`. -/
def orderOf (v : Magnitude) : Int :=
  let below := (List.range 310).find? fun p => v.center < Nat.pow 10 p * Magnitude.one
  match below with
  | some (p + 1) => p + 1
  | some 0 | none =>
      let above := (List.range 325).find? fun p => Magnitude.one ≤ v.center * Nat.pow 10 (p + 1)
      match above with
      | some p => -p
      | none => 0

/-- The neighbours of the magnitude on the grid of multiples of `10 ^ k`. -/
def neighbours (v : Magnitude) (k : Int) : Scientific × Scientific :=
  let c :=
    if 0 ≤ k then v.center / (Nat.pow 10 k.toNat * Magnitude.one)
    else v.center * Nat.pow 10 (-k).toNat / Magnitude.one
  (⟨c, k⟩, ⟨c + 1, k⟩)

/-- The better of two neighbours that both round to the magnitude. -/
def nearer (v : Magnitude) (a b : Scientific) : Scientific :=
  let below := v.center * a.scaled.2 - a.scaled.1
  let above := b.scaled.1 - v.center * b.scaled.2
  if below < above then a
  else if above < below then b
  else if a.coefficient % 2 = 0 then a else b

/-- The neighbour on a grid that rounds to the magnitude, if there is one. -/
def onGrid (v : Magnitude) (k : Int) : Option Scientific :=
  let (a, b) := neighbours v k
  match a.within v, b.within v with
  | true, true => some (nearer v a b)
  | true, false => some a
  | false, true => some b
  | false, false => none

/-- Seventeen digits always suffice. -/
def shortest (v : Magnitude) : Scientific :=
  let p := orderOf v
  ((List.range 17).findSome? fun (n : Nat) => onGrid v (p - 1 - n)).getD ⟨0, 0⟩

/-! ## Layout -/

/-- Which decimal exponents are written out in full. -/
structure Layout where
  leastPlain : Int
  greatestPlain : Int

/-- Drop the zeros at the end of a coefficient, for at most `fuel` places. -/
def Scientific.strip (fuel : Nat) (s : Scientific) : Scientific :=
  match fuel with
  | 0 => s
  | fuel + 1 =>
      if s.coefficient % 10 = 0 && s.coefficient != 0 then
        strip fuel ⟨s.coefficient / 10, s.exponent + 1⟩
      else s

/-- A mark between whole and fraction, at least one digit on each side of it. -/
def plain (ds : List Char) (point : Int) : List Char :=
  if point ≤ 0 then ['0', '.'] ++ List.replicate (-point).toNat '0' ++ ds
  else if point.toNat < ds.length then ds.take point.toNat ++ '.' :: ds.drop point.toNat
  else ds ++ List.replicate (point.toNat - ds.length) '0' ++ ['.', '0']

def signed (n : Int) : List Char := (if n < 0 then '-' else '+') :: digits n.natAbs

def withExponent (ds : List Char) (exponent : Int) : List Char :=
  match ds with
  | [] => []
  | d :: [] => d :: 'e' :: signed exponent
  | d :: rest => d :: '.' :: rest ++ 'e' :: signed exponent

def Layout.write (l : Layout) (s : Scientific) : List Char :=
  let s := s.strip 20
  let ds := digits s.coefficient
  let exponent := s.exponent + ds.length - 1
  if l.leastPlain ≤ exponent && exponent ≤ l.greatestPlain then plain ds (exponent + 1)
  else withExponent ds exponent

/-- The text of a finite double given by its bits. -/
def ofBits (l : Layout) (bits : UInt64) : List Char :=
  let v := Magnitude.ofBits bits
  let sign := if 0x8000000000000000 ≤ bits.toNat then ['-'] else []
  sign ++ if v.m = 0 then ['0', '.', '0'] else l.write (shortest v)

end DetailPanel.Decimal
