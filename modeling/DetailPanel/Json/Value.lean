import DetailPanel.Decimal.Double
import DetailPanel.Decimal.Shortest

/-!
# JSON values

Numbers come in three kinds that never equal one another: naturals of 64 bits,
negative integers of 64 bits, and doubles, which are kept as their bits.  The
entries of an object keep the order they were read in, repeated keys included;
`canonical` sorts them and keeps the last of each key, at every level.
-/

namespace DetailPanel.Json

/-- How many negative integers of 64 bits there are. -/
abbrev negativeSpan : Nat := 9223372036854775808

inductive Number where
  | natural (n : UInt64)
  /-- The integer `-(n + 1)`. -/
  | negSucc (n : Fin negativeSpan)
  | double (bits : UInt64)
  deriving DecidableEq, Repr

inductive Atom where
  | null
  | bool (b : Bool)
  | number (n : Number)
  | text (s : String)
  deriving DecidableEq, Repr

inductive Value where
  | atom (a : Atom)
  | array (items : List Value)
  | object (entries : List (String × Value))
  deriving Repr

namespace Number

/-- The double of a sign and a size, which is counted in units of `2 ^ -1074`. -/
def ofSize (negative : Bool) (x : Nat) : Number :=
  .double (Decimal.Double.bits x + if negative then 0x8000000000000000 else 0).toUInt64

/-- Doubles with an exponent from -5 to 15 are written in full. -/
def layout : Decimal.Layout := ⟨-5, 15⟩

def text : Number → List Char
  | .natural n => Decimal.digits n.toNat
  | .negSucc n => '-' :: Decimal.digits (n.val + 1)
  | .double bits => Decimal.ofBits layout bits

def isZeroDouble (bits : UInt64) : Bool := bits.toNat % 0x8000000000000000 == 0

/-- Equal as numbers of one kind; the two zeros among the doubles are equal. -/
def same : Number → Number → Bool
  | .double a, .double b => a == b || (isZeroDouble a && isZeroDouble b)
  | a, b => a == b

end Number

def Atom.same : Atom → Atom → Bool
  | .number a, .number b => a.same b
  | a, b => a == b

namespace Value

/-- Put an entry into a sorted list of entries; one that has the key gives way. -/
def insert (k : String) (v : Value) : List (String × Value) → List (String × Value)
  | [] => [(k, v)]
  | (k', v') :: es =>
      if k = k' then (k, v) :: es
      else if k < k' then (k, v) :: (k', v') :: es
      else (k', v') :: insert k v es

mutual
def canonical : Value → Value
  | .atom a => .atom a
  | .array items => .array (canonicalItems items)
  | .object entries => .object (canonicalEntries entries [])
def canonicalItems : List Value → List Value
  | [] => []
  | v :: vs => canonical v :: canonicalItems vs
/-- Insert the entries in turn into those already sorted. -/
def canonicalEntries : List (String × Value) → List (String × Value) → List (String × Value)
  | [], sorted => sorted
  | (k, v) :: es, sorted => canonicalEntries es (insert k (canonical v) sorted)
end

mutual
/-- Equality of canonical values, with numbers compared by kind. -/
def same : Value → Value → Bool
  | .atom a, .atom b => a.same b
  | .array as, .array bs => sameItems as bs
  | .object as, .object bs => sameEntries as bs
  | _, _ => false
def sameItems : List Value → List Value → Bool
  | [], [] => true
  | a :: as, b :: bs => same a b && sameItems as bs
  | _, _ => false
def sameEntries : List (String × Value) → List (String × Value) → Bool
  | [], [] => true
  | (j, a) :: as, (k, b) :: bs => j == k && same a b && sameEntries as bs
  | _, _ => false
end

end Value

end DetailPanel.Json
