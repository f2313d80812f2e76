import DetailPanel.Json.Scan

/-!
# JSON numbers

The grammar of numbers: a minus sign or none, a whole part without leading zeros and, each
if wanted, a fraction and an exponent.  An integer of 64 bits that is written without
fraction and exponent is kept as it is, unless it is minus zero; every other number becomes
a double.

    x.text                      : how the number is written
    x.coefficient, x.power      : its size is coefficient * 10 ^ power
    x.number                    : what it is kept as
    x.Finite                    : it has not become infinite
-/

namespace DetailPanel.Json

/-! ## Grammar -/

/-- The exponent of a number. -/
structure Exponent where
  mark : Char
  sign : List Char
  digits : List Char
  isMark : mark = 'e' ∨ mark = 'E'
  isSign : sign = [] ∨ sign = ['+'] ∨ sign = ['-']
  digits_ne_nil : digits ≠ []
  isDigit : ∀ c ∈ digits, c.isDigit = true

/-- A number as it is written. -/
structure Numeral where
  negative : Bool
  whole : List Char
  /-- The digits after the point, or none of them without a point. -/
  fraction : List Char
  exponent : Option Exponent
  whole_ne_nil : whole ≠ []
  zero_alone : ∀ cs, whole = '0' :: cs → cs = []
  isDigit_whole : ∀ c ∈ whole, c.isDigit = true
  isDigit_fraction : ∀ c ∈ fraction, c.isDigit = true

namespace Exponent

def text (e : Exponent) : List Char := e.mark :: (e.sign ++ e.digits)

def value (e : Exponent) : Int :=
  if e.sign = ['-'] then -(Decimal.value e.digits : Int) else Decimal.value e.digits

end Exponent

namespace Numeral

def pointed : List Char → List Char
  | [] => []
  | d :: ds => '.' :: d :: ds

/-- What stands after the whole part and the fraction. -/
def ending (x : Numeral) : List Char := x.exponent.elim [] Exponent.text

/-- The number without its sign. -/
def body (x : Numeral) : List Char := x.whole ++ (pointed x.fraction ++ x.ending)

def text (x : Numeral) : List Char := if x.negative then '-' :: x.body else x.body

/-! ## Size -/

def coefficient (x : Numeral) : Nat := Decimal.value (x.whole ++ x.fraction)

/-- The exponent as it is written, zero if there is none. -/
def shift (x : Numeral) : Int := x.exponent.elim 0 Exponent.value

def power (x : Numeral) : Int := x.shift - x.fraction.length

/-- The number `1.797693134862315 * 10 ^ 308`.  The largest double is greater by less than one
part in `10 ^ 15`. -/
def safeLimit : Nat := 1797693134862315 * Nat.pow 10 293

/-- The number stays below the limit, and 32 bits hold its exponent unless the number is zero. -/
structure InRange (x : Numeral) : Prop where
  below : x.coefficient * Nat.pow 10 x.power.toNat < safeLimit * Nat.pow 10 (-x.power).toNat
  shift_le : x.shift ≤ 2147483647 ∨ x.coefficient = 0

/-! ## Value -/

/-- The leading digits that 64 bits hold. -/
def significand (x : Numeral) : Nat :=
  (boundedDigits (boundedDigits 0 x.whole).1 x.fraction).1

/-- The power of ten of the significand, leaving the exponent out. -/
def place (x : Numeral) : Int :=
  (boundedDigits 0 x.whole).2.2.length - (boundedDigits (boundedDigits 0 x.whole).1 x.fraction).2.1

/-- The double of a significand, a power of ten and an exponent that is added to it, if it is
finite.  An exponent that 32 bits do not hold is as good as infinite. -/
def rounded (significand : Nat) (place : Int) : Option Exponent → Option Nat
  | none => scale significand place
  | some e =>
      if Decimal.value e.digits ≤ largestExponent then scale significand (place + e.value)
      else if significand ≠ 0 ∧ e.sign ≠ ['-'] then none
      else some 0

def Integral (x : Numeral) : Prop :=
  x.fraction = [] ∧ x.exponent.isNone ∧ x.coefficient ≤ largest64

instance (x : Numeral) : Decidable x.Integral := inferInstanceAs (Decidable (_ ∧ _ ∧ _))

/-- What the number is kept as, if it is not infinite. -/
def number? (x : Numeral) : Option Number :=
  if x.Integral then some (afterInteger.whole x.negative x.coefficient)
  else (rounded x.significand x.place x.exponent).map (.ofSize x.negative)

def number (x : Numeral) : Number :=
  x.number?.getD (.ofSize x.negative Decimal.Double.infinite)

def Finite (x : Numeral) : Prop := x.number?.isSome = true

end Numeral

end DetailPanel.Json
