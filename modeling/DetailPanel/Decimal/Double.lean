import DetailPanel.Decimal.Natural

/-!
# Arithmetic of doubles

A double that is finite and not negative is a whole multiple of `2 ^ -1074`, and
here it is counted in these units.  A product, a quotient or a whole number is
rounded to the nearest double, on a tie to the one with an even significand.  All
of this is done in whole numbers.
-/

namespace DetailPanel.Decimal.Double

/-- The number one. -/
def one : Nat := Nat.pow 2 1074

/-- Where the doubles end: what is rounded to this or more is infinite. -/
def infinite : Nat := Nat.pow 2 2098

/-- The whole number nearest to `n / d`, the even one of two. -/
def roundHalfEven (n d : Nat) : Nat :=
  let q := n / d
  if 2 * (n % d) < d ∨ (2 * (n % d) = d ∧ q % 2 = 0) then q else q + 1

/-- The distance of the doubles next to `x`, which have 53 bits. -/
def gap (x : Nat) : Nat := Nat.pow 2 (Nat.log2 x - 52)

/-- The double nearest to `n / d`. -/
def nearest (n d : Nat) : Nat := roundHalfEven n (d * gap (n / d)) * gap (n / d)

def ofNat (n : Nat) : Nat := nearest (n * one) 1

def mul (x y : Nat) : Nat := nearest (x * y) one

def div (x y : Nat) : Nat := nearest (x * one) y

def powerOfTen (n : Nat) : Nat := ofNat (Nat.pow 10 n)

/-- The bits of a double: those below its leading bit, of which there are up to
52, and above them the exponent. -/
def bits (x : Nat) : Nat :=
  let e := Nat.log2 x - 52
  e * Nat.pow 2 52 + x / Nat.pow 2 e

end DetailPanel.Decimal.Double
