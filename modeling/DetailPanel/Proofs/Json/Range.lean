import Mathlib.Tactic.Ring
import DetailPanel.Proofs.Json.Numbers

/-!
# Numbers in the range of doubles

A number that stays a little below the largest double is kept as a finite double.  Three
roundings lie between the digits and the double, and each adds at most one part in
`2 ^ 53`; the digits that are passed over only take away.

    x.InRange → x.Finite                     (Numeral.InRange.finite)
-/

namespace DetailPanel

/-! ## Rounding -/

namespace Decimal.Double

theorem one_pos : 0 < one := by decide +kernel

theorem roundHalfEven_le (n d : Nat) : 2 * (d * roundHalfEven n d) ≤ 2 * n + d := by
  have hdiv : d * (n / d) + n % d = n := Nat.div_add_mod n d
  simp only [roundHalfEven]
  split
  · omega
  · have hnext : d * (n / d + 1) = d * (n / d) + d := Nat.mul_succ d (n / d)
    omega

/-- Rounding adds at most half a gap. -/
theorem nearest_le (n d : Nat) : 2 * (d * nearest n d) ≤ 2 * n + d * gap (n / d) := by
  have hround := roundHalfEven_le n (d * gap (n / d))
  rwa [Nat.mul_assoc, Nat.mul_comm (gap _)] at hround

/-- Where a number has 53 bits or more, half a gap is at most one part in `2 ^ 53`. -/
theorem gap_le {q : Nat} (hq : 2 ^ 52 ≤ q) : 2 ^ 52 * gap q ≤ q := by
  have hlog : 52 ≤ Nat.log2 q := (Nat.le_log2 (by omega)).2 hq
  have hpow : 2 ^ 52 * gap q = 2 ^ Nat.log2 q := by
    rw [gap, Nat.pow_eq, ← Nat.pow_add]
    congr 1
    omega
  rw [hpow]
  exact Nat.log2_self_le (by omega)

theorem nearest_le_of_large {n d : Nat} (h : 2 ^ 52 ≤ n / d) :
    2 ^ 53 * (d * nearest n d) ≤ (2 ^ 53 + 1) * n := by
  have hle := nearest_le n d
  have hunits : 2 ^ 52 * (d * gap (n / d)) ≤ n :=
    calc 2 ^ 52 * (d * gap (n / d)) = d * (2 ^ 52 * gap (n / d)) := Nat.mul_left_comm ..
      _ ≤ d * (n / d) := Nat.mul_le_mul_left d (gap_le h)
      _ ≤ n := Nat.mul_div_le n d
  omega

theorem nearest_le_of_small {n d : Nat} (hd : 0 < d) (h : n / d < 2 ^ 52) :
    nearest n d ≤ 2 ^ 52 := by
  have hlog : Nat.log2 (n / d) - 52 = 0 := by
    rcases Nat.eq_zero_or_pos (n / d) with hzero | hpos
    · rw [hzero, Nat.log2_zero]
    · have hlt : Nat.log2 (n / d) < 52 := (Nat.log2_lt (by omega)).2 h
      omega
  have hgap : gap (n / d) = 1 := by rw [gap, hlog, Nat.pow_eq, Nat.pow_zero]
  have hle := nearest_le n d
  have hn : n < d * 2 ^ 52 := by
    rw [Nat.mul_comm]
    exact (Nat.div_lt_iff_lt_mul hd).1 h
  rw [hgap] at hle
  -- beyond 2 ^ 52 there would be a whole unit left, of which rounding adds only half
  by_contra hlarge
  have hnext : d * (2 ^ 52 + 1) ≤ d * nearest n d := Nat.mul_le_mul_left d (by omega)
  omega

theorem ofNat_zero : ofNat 0 = 0 := by
  rw [ofNat, Nat.zero_mul]
  rfl

theorem ofNat_le {n : Nat} (hn : 0 < n) : 2 ^ 53 * ofNat n ≤ (2 ^ 53 + 1) * (n * one) := by
  have hone : 2 ^ 52 ≤ one := by decide +kernel
  have hlarge : 2 ^ 52 ≤ n * one / 1 := by
    rw [Nat.div_one]
    exact Nat.le_trans hone (Nat.le_mul_of_pos_left one hn)
  have hle := nearest_le_of_large hlarge
  rwa [Nat.one_mul] at hle

/-- Three roundings, of two factors and of their product. -/
theorem lt_of_rounded {u a b x y z bound limit : Nat} (hu : 0 < u) (h : a * b < bound)
    (hx : 2 ^ 53 * x ≤ (2 ^ 53 + 1) * (a * u)) (hy : 2 ^ 53 * y ≤ (2 ^ 53 + 1) * (b * u))
    (hz : 2 ^ 53 * (u * z) ≤ (2 ^ 53 + 1) * (x * y))
    (hlimit : (2 ^ 53 + 1) ^ 3 * bound * u ≤ 2 ^ 159 * limit) : z < limit := by
  have hfactors := Nat.mul_le_mul hx hy
  have hscaled : u * (2 ^ 159 * z) < u * (2 ^ 159 * limit) :=
    calc u * (2 ^ 159 * z) = 2 ^ 106 * (2 ^ 53 * (u * z)) := by ring
      _ ≤ 2 ^ 106 * ((2 ^ 53 + 1) * (x * y)) := Nat.mul_le_mul_left _ hz
      _ = (2 ^ 53 + 1) * (2 ^ 53 * x * (2 ^ 53 * y)) := by ring
      _ ≤ (2 ^ 53 + 1) * ((2 ^ 53 + 1) * (a * u) * ((2 ^ 53 + 1) * (b * u))) :=
          Nat.mul_le_mul_left _ hfactors
      _ = a * b * ((2 ^ 53 + 1) ^ 3 * u * u) := by ring
      _ < bound * ((2 ^ 53 + 1) ^ 3 * u * u) :=
          Nat.mul_lt_mul_of_pos_right h (Nat.mul_pos (Nat.mul_pos (by decide) hu) hu)
      _ = u * ((2 ^ 53 + 1) ^ 3 * bound * u) := by ring
      _ ≤ u * (2 ^ 159 * limit) := Nat.mul_le_mul_left _ hlimit
  exact Nat.lt_of_mul_lt_mul_left (Nat.lt_of_mul_lt_mul_left hscaled)

end Decimal.Double

namespace Json

open Decimal.Double
open Numeral (safeLimit)

variable {m n j : Nat} {ds : List Char}

/-! ## Scaling -/

theorem mul_lt_infinite {a b : Nat} (h : a * b < safeLimit) :
    mul (ofNat a) (ofNat b) < infinite := by
  by_cases hlarge : 2 ^ 52 ≤ ofNat a * ofNat b / one
  · have hne : a ≠ 0 ∧ b ≠ 0 := by
      constructor <;> rintro rfl <;> simp [ofNat_zero] at hlarge
    have hlimit : (2 ^ 53 + 1) ^ 3 * safeLimit * one ≤ 2 ^ 159 * infinite := by decide +kernel
    exact lt_of_rounded Decimal.Double.one_pos h (ofNat_le (Nat.pos_of_ne_zero hne.1))
      (ofNat_le (Nat.pos_of_ne_zero hne.2)) (nearest_le_of_large hlarge) hlimit
  · have hsmall : mul (ofNat a) (ofNat b) ≤ 2 ^ 52 :=
      nearest_le_of_small Decimal.Double.one_pos (Nat.lt_of_not_le hlarge)
    have hinfinite : 2 ^ 52 < infinite := by decide +kernel
    exact Nat.lt_of_le_of_lt hsmall hinfinite

theorem scale_isSome {e : Int} (h : 0 ≤ e → m * 10 ^ e.toNat < safeLimit) :
    (scale m e).isSome = true := by
  unfold scale
  simp only []
  split
  · rename_i he
    have hm := h he
    split
    · have hfinite : mul (ofNat m) (powerOfTen e.toNat) < infinite := mul_lt_infinite hm
      rw [if_pos hfinite]
      rfl
    · rename_i hlarge
      have hzero : m = 0 := by
        by_contra hne
        have hlimit : safeLimit ≤ 10 ^ 309 := by decide +kernel
        have hmono : ∀ k l, k ≤ l → 10 ^ k ≤ 10 ^ l := fun k l => Nat.pow_le_pow_right (by decide)
        have hpow : 10 ^ 309 ≤ 10 ^ e.toNat := hmono 309 e.toNat (by omega)
        have hmul : 10 ^ e.toNat ≤ m * 10 ^ e.toNat :=
          Nat.le_mul_of_pos_left _ (Nat.pos_of_ne_zero hne)
        exact absurd hm (Nat.not_lt.2 (hlimit.trans (hpow.trans hmul)))
      rw [hzero, ofNat_zero, if_pos rfl]
      rfl
  · rfl

/-! ## Digits that are passed over -/

/-- A significand `m` and the number of digits that were passed over fall short of the
number `n` that all of the digits write; digits are passed over once 64 bits are used up. -/
structure ShortOf (m n j : Nat) : Prop where
  le : m * 10 ^ j ≤ n
  full : 0 < j → largest64 * 10 ^ (j - 1) < n

theorem mul_pow_length_le (n : Nat) (cs : List Char) :
    n * 10 ^ cs.length ≤ Decimal.valueFrom n cs := by
  induction cs generalizing n with
  | nil => simp [Decimal.valueFrom]
  | cons c cs ih =>
      calc n * 10 ^ (cs.length + 1) = 10 * n * 10 ^ cs.length := by ring
        _ ≤ (10 * n + Decimal.digitValue c) * 10 ^ cs.length :=
            Nat.mul_le_mul_right _ (Nat.le_add_right ..)
        _ ≤ Decimal.valueFrom n (c :: cs) := ih _

/-- One digit more, which fits. -/
theorem ShortOf.next (h : ShortOf m n j) {d : Nat} (hd : 10 * m + d ≤ largest64) :
    ShortOf (10 * m + d) (10 * n + d) j := by
  obtain ⟨hle, hfull⟩ := h
  cases j with
  | zero => exact ⟨by simpa using hle, fun hj => absurd hj (Nat.lt_irrefl 0)⟩
  | succ j =>
      have hmore : largest64 * 10 ^ j < n := hfull (Nat.succ_pos j)
      refine ⟨?_, fun _ => Nat.lt_of_lt_of_le hmore (by omega)⟩
      calc (10 * m + d) * 10 ^ (j + 1) ≤ largest64 * 10 ^ (j + 1) := Nat.mul_le_mul_right _ hd
        _ = 10 * (largest64 * 10 ^ j) := by ring
        _ ≤ 10 * n + d := by omega

/-- Where a digit does not fit, it is passed over with all that follow it. -/
theorem ShortOf.pass (h : ShortOf m n j) {c : Char}
    (hd : largest64 < 10 * m + Decimal.digitValue c) (cs : List Char) :
    ShortOf m (Decimal.valueFrom n (c :: cs)) (j + (cs.length + 1)) := by
  obtain ⟨hle, hfull⟩ := h
  refine ⟨?_, fun _ => ?_⟩
  · calc m * 10 ^ (j + (cs.length + 1)) = m * 10 ^ j * 10 ^ (cs.length + 1) := by ring
      _ ≤ n * 10 ^ (cs.length + 1) := Nat.mul_le_mul_right _ hle
      _ ≤ _ := mul_pow_length_le n (c :: cs)
  · have hnext : largest64 * 10 ^ j < 10 * n + Decimal.digitValue c := by
      cases j with
      | zero => omega
      | succ j =>
          have hmore : largest64 * 10 ^ j < n := hfull (Nat.succ_pos j)
          rw [Nat.pow_succ, ← Nat.mul_assoc]
          omega
    calc largest64 * 10 ^ (j + cs.length) = largest64 * 10 ^ j * 10 ^ cs.length := by ring
      _ < (10 * n + Decimal.digitValue c) * 10 ^ cs.length :=
          Nat.mul_lt_mul_of_pos_right hnext (Nat.pow_pos (by decide))
      _ ≤ _ := mul_pow_length_le _ cs

theorem ShortOf.boundedDigits (h : ShortOf m n j) (hds : ∀ c ∈ ds, c.isDigit = true) :
    ShortOf (boundedDigits m ds).1 (Decimal.valueFrom n ds)
      (j + (boundedDigits m ds).2.2.length) := by
  induction ds generalizing m n with
  | nil => exact h
  | cons c ds ih =>
      obtain ⟨hc, hds⟩ := List.forall_mem_cons.1 hds
      have hc : isDigit c = true := hc
      by_cases hd : 10 * m + Decimal.digitValue c ≤ largest64
      · simp only [Json.boundedDigits, hc, hd, decide_true, Bool.and_true, if_true]
        exact ih (h.next hd) hds
      · simp only [Json.boundedDigits, hc, hd, decide_false, Bool.and_false]
        exact h.pass (Nat.lt_of_not_le hd) ds

namespace Numeral

variable {x : Numeral}

/-- How many digits were passed over. -/
def passed (x : Numeral) : Nat :=
  (boundedDigits 0 x.whole).2.2.length +
    (boundedDigits (boundedDigits 0 x.whole).1 x.fraction).2.2.length

theorem significand_le (x : Numeral) : x.significand * 10 ^ x.passed ≤ x.coefficient := by
  have hwhole : ShortOf 0 0 0 := ⟨by simp, fun h => absurd h (Nat.lt_irrefl 0)⟩
  have hall := (hwhole.boundedDigits x.isDigit_whole).boundedDigits x.isDigit_fraction
  have hvalue : Decimal.valueFrom (Decimal.valueFrom 0 x.whole) x.fraction = x.coefficient := by
    rw [coefficient, Decimal.value, Decimal.valueFrom, Decimal.valueFrom, Decimal.valueFrom,
      List.foldl_append]
  rw [hvalue, Nat.zero_add] at hall
  exact hall.le

theorem place_eq (x : Numeral) : x.place = x.passed - x.fraction.length := by
  obtain ⟨taken, rest, hsplit, hread⟩ :=
    boundedDigits_split (boundedDigits 0 x.whole).1 x.fraction
  rw [place, passed, hread, hsplit, List.length_append]
  push_cast
  ring

/-- The digits that are kept, with their power of ten, stay below what the number stays below. -/
theorem InRange.significand_lt (h : x.InRange) (hplace : 0 ≤ x.place + x.shift) :
    x.significand * 10 ^ (x.place + x.shift).toNat < safeLimit := by
  have hbelow : x.coefficient * 10 ^ x.power.toNat < safeLimit * 10 ^ (-x.power).toNat := h.below
  have hpower : x.place + x.shift = x.passed + x.power := by
    rw [place_eq, power]
    ring
  have hsum : (x.place + x.shift).toNat + (-x.power).toNat = x.passed + x.power.toNat := by omega
  have hscaled : x.significand * 10 ^ (x.place + x.shift).toNat * 10 ^ (-x.power).toNat <
      safeLimit * 10 ^ (-x.power).toNat :=
    calc x.significand * 10 ^ (x.place + x.shift).toNat * 10 ^ (-x.power).toNat
        = x.significand * 10 ^ x.passed * 10 ^ x.power.toNat := by
          rw [Nat.mul_assoc, ← Nat.pow_add, hsum, Nat.pow_add, Nat.mul_assoc]
      _ ≤ x.coefficient * 10 ^ x.power.toNat := Nat.mul_le_mul_right _ (significand_le x)
      _ < _ := hbelow
  exact Nat.lt_of_mul_lt_mul_right hscaled

theorem InRange.finite (h : x.InRange) : x.Finite := by
  rw [Finite, number?]
  split
  · rfl
  · rw [Option.isSome_map]
    cases hexponent : x.exponent with
    | none =>
        have hshift : x.shift = 0 := by rw [shift, hexponent]; rfl
        refine scale_isSome fun hplace => ?_
        have hlt := h.significand_lt
        rw [hshift, Int.add_zero] at hlt
        exact hlt hplace
    | some e =>
        have hshift : x.shift = e.value := by rw [shift, hexponent]; rfl
        rw [rounded]
        split
        · exact hshift ▸ scale_isSome h.significand_lt
        · rename_i hlarge
          -- an exponent beyond 32 bits is negative, or nothing but zeros stands before it
          have hzero : ¬ (x.significand ≠ 0 ∧ e.sign ≠ ['-']) := by
            rintro ⟨hsignificand, hsign⟩
            have hvalue : e.value = Decimal.value e.digits := if_neg hsign
            rcases h.shift_le with hle | hzero
            · rw [hshift, hvalue] at hle
              exact hlarge (by rw [largestExponent]; omega)
            · have hle := significand_le x
              rw [hzero, Nat.le_zero, Nat.mul_eq_zero] at hle
              exact hsignificand (hle.resolve_right (Nat.pow_pos (by decide)).ne')
          rw [if_neg hzero]
          rfl

end Numeral

end Json

end DetailPanel
