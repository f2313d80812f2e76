import DetailPanel.Proofs.Json.Texts

/-!
# Reading numbers

A numeral is read to its end and no further, wherever the next character does not continue
it.  It is read as the number that it is kept as, and refused if that is infinite.

    Stops r → unsigned x.negative (x.body ++ r) = readAs x.number? r     (Numeral.unsigned_body)
-/

namespace DetailPanel.Json

variable {c : Char} {cs ds r : List Char} {negative : Bool} {significand m : Nat}

/-- A number before the characters `r`, refused if it is infinite. -/
def readAs (n : Option Number) (r : List Char) : Scan Number :=
  match n with
  | some n => .ok (n, r)
  | none => .error .malformed

/-! ## Digits in a row -/

theorem isDigit_eq : isDigit = Char.isDigit := rfl

/-- What comes next is no digit. -/
def EndsDigits (cs : List Char) : Prop := ∀ c r, cs = c :: r → isDigit c = false

theorem endsDigits_cons (hc : isDigit c = false) (cs : List Char) : EndsDigits (c :: cs) := by
  rintro d r ⟨⟩
  exact hc

theorem Stops.endsDigits (hr : Stops r) : EndsDigits r := fun c cs heq => (hr c cs heq).1

theorem digitValue_le (hc : c.isDigit = true) : Decimal.digitValue c ≤ 9 := by
  simp only [Char.isDigit, Bool.and_eq_true, decide_eq_true_eq, ge_iff_le,
    UInt32.le_iff_toNat_le] at hc
  have hc : c.toNat ≤ 57 := hc.2
  rw [Decimal.digitValue]
  omega

theorem takeWhile_digits (hds : ∀ c ∈ ds, c.isDigit = true) (hr : EndsDigits r) :
    (ds ++ r).takeWhile isDigit = ds := by
  rw [isDigit_eq, List.takeWhile_append_of_pos hds, ← isDigit_eq]
  cases r with
  | nil => exact List.append_nil ds
  | cons c r => rw [List.takeWhile_cons_of_neg (by simp [hr c r rfl]), List.append_nil]

theorem dropWhile_digits (hds : ∀ c ∈ ds, c.isDigit = true) (hr : EndsDigits r) :
    (ds ++ r).dropWhile isDigit = r := by
  rw [isDigit_eq, List.dropWhile_append_of_pos hds, ← isDigit_eq]
  cases r with
  | nil => rfl
  | cons c r => exact List.dropWhile_cons_of_neg (by simp [hr c r rfl])

theorem boundedDigits_append (hr : EndsDigits r) (m : Nat) (cs : List Char) :
    boundedDigits m (cs ++ r) =
      ((boundedDigits m cs).1, (boundedDigits m cs).2.1, (boundedDigits m cs).2.2 ++ r) := by
  induction cs generalizing m with
  | nil =>
      cases r with
      | nil => rfl
      | cons c r => simp [boundedDigits, hr c r rfl]
  | cons c cs ih =>
      by_cases hc : isDigit c && 10 * m + Decimal.digitValue c ≤ largest64
      · simp only [List.cons_append, boundedDigits, hc, if_true, ih]
      · simp [boundedDigits, hc]

/-- Digits are taken from the front until 64 bits hold no more. -/
theorem boundedDigits_split (m : Nat) (cs : List Char) : ∃ taken rest, cs = taken ++ rest ∧
    boundedDigits m cs = (Decimal.valueFrom m taken, taken.length, rest) := by
  induction cs generalizing m with
  | nil => exact ⟨[], [], rfl, rfl⟩
  | cons c cs ih =>
      by_cases hc : isDigit c && 10 * m + Decimal.digitValue c ≤ largest64
      · obtain ⟨taken, rest, rfl, hread⟩ := ih (10 * m + Decimal.digitValue c)
        refine ⟨c :: taken, rest, rfl, ?_⟩
        simp only [boundedDigits, hc, if_true, hread]
        rfl
      · exact ⟨[], c :: cs, rfl, by simp [boundedDigits, hc, Decimal.valueFrom]⟩

theorem le_valueFrom (m : Nat) (cs : List Char) : m ≤ Decimal.valueFrom m cs := by
  induction cs generalizing m with
  | nil => exact Nat.le_refl m
  | cons c cs ih =>
      have htail : 10 * m + Decimal.digitValue c ≤ Decimal.valueFrom m (c :: cs) := ih _
      omega

/-- All digits are taken of a number that 64 bits hold, and only of such a number. -/
theorem boundedDigits_rest_eq_nil (hds : ∀ c ∈ ds, c.isDigit = true) (hm : m ≤ largest64) :
    (boundedDigits m ds).2.2 = [] ↔ Decimal.valueFrom m ds ≤ largest64 := by
  induction ds generalizing m with
  | nil => exact iff_of_true rfl hm
  | cons c ds ih =>
      obtain ⟨hc, hds⟩ := List.forall_mem_cons.1 hds
      have hc : isDigit c = true := hc
      have hvalue : Decimal.valueFrom m (c :: ds) =
          Decimal.valueFrom (10 * m + Decimal.digitValue c) ds := rfl
      by_cases hle : 10 * m + Decimal.digitValue c ≤ largest64
      · simp only [boundedDigits, hc, hle, decide_true, Bool.and_true, if_true]
        rw [ih hds hle, hvalue]
      · have hlarge : ¬ Decimal.valueFrom m (c :: ds) ≤ largest64 := fun hfits =>
          hle (Nat.le_trans (le_valueFrom _ ds) hfits)
        simp [boundedDigits, hle, hlarge]

theorem boundedDigits_eq_value (h : (boundedDigits m cs).2.2 = []) :
    (boundedDigits m cs).1 = Decimal.valueFrom m cs := by
  obtain ⟨taken, rest, rfl, hread⟩ := boundedDigits_split m cs
  rw [hread] at h ⊢
  obtain rfl : rest = [] := h
  rw [List.append_nil]

theorem isDigit_of_mem_rest (hds : ∀ c ∈ ds, c.isDigit = true) (m : Nat) :
    ∀ c ∈ (boundedDigits m ds).2.2, c.isDigit = true := by
  obtain ⟨taken, rest, rfl, hread⟩ := boundedDigits_split m ds
  rw [hread]
  exact fun c hc => hds c (List.mem_append_right _ hc)

/-- The digits of an exponent are read to their end, also where 32 bits do not hold it. -/
theorem exponentDigits_digits (hds : ∀ c ∈ ds, c.isDigit = true) (hr : EndsDigits r)
    (hm : m ≤ largestExponent) :
    exponentDigits m (ds ++ r) =
      (if Decimal.valueFrom m ds ≤ largestExponent then some (Decimal.valueFrom m ds) else none,
        r) := by
  induction ds generalizing m with
  | nil =>
      have hvalue : Decimal.valueFrom m [] = m := rfl
      rw [hvalue, if_pos hm]
      cases r with
      | nil => rfl
      | cons c r => simp [exponentDigits, hr c r rfl]
  | cons c ds ih =>
      obtain ⟨hc, hds⟩ := List.forall_mem_cons.1 hds
      have hc : isDigit c = true := hc
      have hvalue : Decimal.valueFrom m (c :: ds) =
          Decimal.valueFrom (10 * m + Decimal.digitValue c) ds := rfl
      rw [List.cons_append, exponentDigits, if_pos hc, hvalue]
      split
      · rename_i hle
        exact ih hds hle
      · rename_i hle
        have hlarge : ¬ Decimal.valueFrom (10 * m + Decimal.digitValue c) ds ≤ largestExponent :=
          fun hfits => hle (Nat.le_trans (le_valueFrom _ ds) hfits)
        rw [if_neg hlarge, dropWhile_digits hds hr]

/-! ## Exponents -/

theorem double_eq (negative : Bool) (significand : Nat) (place : Int) (r : List Char) :
    double negative significand place r =
      readAs ((scale significand place).map (.ofSize negative)) r := by
  unfold double
  cases scale significand place <;> rfl

theorem Exponent.isExponentMark_mark (e : Exponent) : isExponentMark e.mark = true := by
  rcases e.isMark with h | h <;> rw [h] <;> rfl

theorem Exponent.mark_ne_point (e : Exponent) : e.mark ≠ '.' := by
  rcases e.isMark with h | h <;> rw [h] <;> decide

/-- The exponent after its sign, and with it the number. -/
def exponentAfterSign (negative : Bool) (significand : Nat) (exponent : Int) (downwards : Bool) :
    List Char → Scan Number
  | [] => .error .ended
  | c :: r =>
      if isDigit c then
        match exponentDigits (Decimal.digitValue c) r with
        | (some e, r) =>
            double negative significand (exponent + if downwards then -(e : Int) else e) r
        | (none, r) =>
            if significand != 0 && !downwards then .error .malformed
            else .ok (.ofSize negative 0, r)
      else .error .malformed

theorem exponentPart_sign {exponent : Int} (hplus : c ≠ '+') (hminus : c ≠ '-') :
    exponentPart negative significand exponent (c :: cs) =
      exponentAfterSign negative significand exponent false (c :: cs) := by
  unfold exponentPart
  split
  rename_i hmatch
  split at hmatch
  · simp_all
  · simp_all
  · cases hmatch
    rfl

theorem exponentAfterSign_digits {place : Int} (e : Exponent) (hr : EndsDigits r) :
    exponentAfterSign negative significand place (e.sign = ['-']) (e.digits ++ r) =
      readAs ((Numeral.rounded significand place (some e)).map (.ofSize negative)) r := by
  obtain ⟨c, ds, hdigits⟩ := List.exists_cons_of_ne_nil e.digits_ne_nil
  obtain ⟨hc, hds⟩ := List.forall_mem_cons.1 (hdigits ▸ e.isDigit)
  have hsmall : Decimal.digitValue c ≤ largestExponent :=
    Nat.le_trans (digitValue_le hc) (by decide)
  have hvalue : Decimal.value e.digits = Decimal.valueFrom (Decimal.digitValue c) ds := by
    rw [hdigits, Decimal.value, Decimal.valueFrom, List.foldl_cons, Nat.mul_zero, Nat.zero_add]
    rfl
  have hshift : (if decide (e.sign = ['-']) = true then
      -(Decimal.valueFrom (Decimal.digitValue c) ds : Int)
      else Decimal.valueFrom (Decimal.digitValue c) ds) = e.value := by
    simp only [Exponent.value, hvalue, decide_eq_true_eq]
  have hc : isDigit c = true := hc
  rw [hdigits, List.cons_append, exponentAfterSign, if_pos hc, exponentDigits_digits hds hr hsmall,
    Numeral.rounded, hvalue]
  by_cases hle : Decimal.valueFrom (Decimal.digitValue c) ds ≤ largestExponent
  · rw [if_pos hle, if_pos hle]
    simp only [hshift, double_eq]
  · rw [if_neg hle, if_neg hle]
    by_cases hinfinite : significand ≠ 0 ∧ e.sign ≠ ['-']
    · simp [hinfinite, readAs]
    · rw [if_neg hinfinite]
      exact if_neg (by simpa using hinfinite)

theorem exponentPart_text {place : Int} (e : Exponent) (hr : EndsDigits r) :
    exponentPart negative significand place (e.sign ++ (e.digits ++ r)) =
      readAs ((Numeral.rounded significand place (some e)).map (.ofSize negative)) r := by
  rw [← exponentAfterSign_digits e hr]
  rcases e.isSign with hsign | hsign | hsign
  · obtain ⟨c, ds, hdigits⟩ := List.exists_cons_of_ne_nil e.digits_ne_nil
    have hc : c.isDigit = true := e.isDigit c (hdigits ▸ List.mem_cons_self ..)
    rw [hsign, hdigits]
    refine exponentPart_sign ?_ ?_ <;> rintro rfl <;> cases hc
  · rw [hsign]
    rfl
  · rw [hsign]
    rfl

/-! ## The parts of a number -/

theorem doubleEnd_ending {place : Int} (x : Numeral) (hr : Stops r) :
    doubleEnd negative significand place (x.ending ++ r) =
      readAs ((Numeral.rounded significand place x.exponent).map (.ofSize negative)) r := by
  unfold Numeral.ending
  cases x.exponent with
  | none =>
      have hdouble : doubleEnd negative significand place r = double negative significand place r := by
        cases r with
        | nil => rfl
        | cons c r => simp [doubleEnd, (hr c r rfl).2.2]
      exact hdouble.trans (double_eq ..)
  | some e =>
      simp only [Option.elim_some, Exponent.text, List.cons_append, doubleEnd,
        e.isExponentMark_mark, if_true, List.append_assoc]
      exact exponentPart_text e hr.endsDigits

theorem endsDigits_ending (x : Numeral) (hr : Stops r) : EndsDigits (x.ending ++ r) := by
  unfold Numeral.ending
  cases x.exponent with
  | none => exact hr.endsDigits
  | some e =>
      refine endsDigits_cons ?_ _
      rcases e.isMark with h | h <;> rw [h] <;> rfl

theorem fractionPart_digits {place : Int} (hds : ∀ c ∈ ds, c.isDigit = true) (hne : ds ≠ [])
    (hr : EndsDigits r) :
    fractionPart negative significand place (ds ++ r) =
      doubleEnd negative (boundedDigits significand ds).1
        (place - (boundedDigits significand ds).2.1) r := by
  obtain ⟨taken, rest, hsplit, hread⟩ := boundedDigits_split significand ds
  have hrest : ∀ c ∈ rest, c.isDigit = true := fun c hc =>
    hds c (hsplit ▸ List.mem_append_right _ hc)
  have hsome : ¬ (taken.length = 0 && rest.isEmpty) = true := by
    intro hnone
    simp only [Bool.and_eq_true, decide_eq_true_eq, List.length_eq_zero_iff,
      List.isEmpty_iff] at hnone
    exact hne (by rw [hsplit, hnone.1, hnone.2]; rfl)
  simp only [fractionPart, boundedDigits_append hr, hread, takeWhile_digits hrest hr,
    dropWhile_digits hrest hr]
  exact if_neg hsome

theorem ending_ne_point (x : Numeral) (hr : Stops r) (cs : List Char) :
    x.ending ++ r ≠ '.' :: cs := by
  unfold Numeral.ending
  cases x.exponent with
  | none => exact fun heq => (hr _ _ heq).2.1 rfl
  | some e => exact fun heq => e.mark_ne_point (List.cons.inj heq).1

theorem afterInteger_stops (hr : Stops r) :
    afterInteger negative significand r = .ok (afterInteger.whole negative significand, r) := by
  cases r with
  | nil => rfl
  | cons c r =>
      obtain ⟨-, hpoint, hmark⟩ := hr c r rfl
      simp [afterInteger, hmark]

theorem afterInteger_exponent (e : Exponent) :
    afterInteger negative significand (e.text ++ r) =
      doubleEnd negative significand 0 (e.text ++ r) := by
  have hpoint : e.mark ≠ '.' := e.mark_ne_point
  simp [afterInteger, doubleEnd, Exponent.text, e.isExponentMark_mark]

/-- A number after its leading digits that fit into 64 bits. -/
def afterDigits (negative : Bool) (significand : Nat) (cs : List Char) : Scan Number :=
  let more := cs.takeWhile isDigit
  if more.isEmpty then afterInteger negative significand cs
  else
    match cs.dropWhile isDigit with
    | '.' :: r => fractionPart negative significand more.length r
    | r => doubleEnd negative significand more.length r

theorem unsigned_nonzero (hzero : c ≠ '0') (cs : List Char) :
    unsigned negative (c :: cs) =
      if isDigit c then
        afterDigits negative (boundedDigits (Decimal.digitValue c) cs).1
          (boundedDigits (Decimal.digitValue c) cs).2.2
      else .error .malformed := by
  rw [unsigned]
  · rfl
  · exact hzero

namespace Numeral

variable (x : Numeral)

theorem endsDigits_pointed (hr : Stops r) :
    EndsDigits (pointed x.fraction ++ (x.ending ++ r)) := by
  cases x.fraction with
  | nil => exact endsDigits_ending x hr
  | cons d ds => exact endsDigits_cons rfl _

theorem whole_eq_cons : ∃ c ds, x.whole = c :: ds ∧ c.isDigit = true := by
  obtain ⟨c, ds, hwhole⟩ := List.exists_cons_of_ne_nil x.whole_ne_nil
  exact ⟨c, ds, hwhole, x.isDigit_whole c (hwhole ▸ List.mem_cons_self ..)⟩

/-- The digits of the whole part are taken as far as they fit. -/
theorem unsigned_whole (hr : EndsDigits r) :
    unsigned x.negative (x.whole ++ r) =
      afterDigits x.negative (boundedDigits 0 x.whole).1 ((boundedDigits 0 x.whole).2.2 ++ r) := by
  obtain ⟨c, ds, hwhole, hc⟩ := x.whole_eq_cons
  have hfits : Decimal.digitValue c ≤ largest64 := Nat.le_trans (digitValue_le hc) (by decide)
  have hc : isDigit c = true := hc
  by_cases hzero : c = '0'
  · subst hzero
    obtain rfl := x.zero_alone ds hwhole
    have hread : boundedDigits 0 ['0'] = (0, 1, []) := rfl
    rw [hwhole, hread, List.nil_append, afterDigits]
    cases r with
    | nil => rfl
    | cons d r =>
        have hd : isDigit d = false := hr d r rfl
        have hunsigned : unsigned x.negative ('0' :: d :: r) = afterInteger x.negative 0 (d :: r) := by
          rw [unsigned, if_neg (by simp [hd])]
        rw [List.takeWhile_cons_of_neg (by simp [hd])]
        exact hunsigned
  · have hread : boundedDigits 0 (c :: ds) =
        ((boundedDigits (Decimal.digitValue c) ds).1, (boundedDigits (Decimal.digitValue c) ds).2.1 + 1,
          (boundedDigits (Decimal.digitValue c) ds).2.2) := by
      simp [boundedDigits, hc, hfits]
    rw [hwhole, List.cons_append, unsigned_nonzero hzero, if_pos hc, boundedDigits_append hr, hread]

/-- Digits that do not fit count for the power of ten; without any, an integer may be kept. -/
theorem afterDigits_ending {more : List Char} (hmore : ∀ c ∈ more, c.isDigit = true)
    (hr : Stops r) :
    afterDigits negative significand (more ++ (pointed x.fraction ++ (x.ending ++ r))) =
      if more = [] ∧ x.fraction = [] ∧ x.exponent.isNone then
        .ok (afterInteger.whole negative significand, r)
      else readAs ((rounded (boundedDigits significand x.fraction).1
        (more.length - (boundedDigits significand x.fraction).2.1) x.exponent).map
          (.ofSize negative)) r := by
  have hends := endsDigits_pointed x hr
  simp only [afterDigits, takeWhile_digits hmore hends, dropWhile_digits hmore hends]
  cases hfraction : x.fraction with
  | cons d ds =>
      have hds := hfraction ▸ x.isDigit_fraction
      have hpart : ∀ place : Int,
          fractionPart negative significand place (d :: ds ++ (x.ending ++ r)) = _ := fun place =>
        (fractionPart_digits hds nofun (endsDigits_ending x hr)).trans (doubleEnd_ending x hr)
      have hdouble : ¬ (more = [] ∧ d :: ds = [] ∧ x.exponent.isNone) := by simp
      rw [if_neg hdouble]
      cases more with
      | nil => exact hpart 0
      | cons e es => exact hpart _
  | nil =>
      have hread : boundedDigits significand [] = (significand, 0, []) := rfl
      simp only [hread, pointed, List.nil_append, true_and, Int.natCast_zero, Int.sub_zero]
      cases more with
      | nil =>
          rw [List.isEmpty_nil, if_pos rfl, List.nil_append]
          cases hexponent : x.exponent with
          | none =>
              have hending : x.ending = [] := by rw [ending, hexponent]; rfl
              rw [hending, if_pos (by simp)]
              exact afterInteger_stops hr
          | some e =>
              have hending : x.ending = e.text := by rw [ending, hexponent]; rfl
              rw [if_neg (by simp), hending, afterInteger_exponent, ← hending,
                doubleEnd_ending x hr, hexponent]
              rfl
      | cons e es =>
          rw [List.isEmpty_cons, if_neg nofun, if_neg nofun]
          split
          · rename_i heq
            exact absurd heq (ending_ne_point x hr _)
          · exact doubleEnd_ending x hr

theorem integral_iff : x.Integral ↔
    (boundedDigits 0 x.whole).2.2 = [] ∧ x.fraction = [] ∧ x.exponent.isNone := by
  rw [boundedDigits_rest_eq_nil x.isDigit_whole (Nat.zero_le _)]
  constructor
  · rintro ⟨hfraction, hexponent, hfits⟩
    rw [coefficient, hfraction, List.append_nil] at hfits
    exact ⟨hfits, hfraction, hexponent⟩
  · rintro ⟨hfits, hfraction, hexponent⟩
    refine ⟨hfraction, hexponent, ?_⟩
    rw [coefficient, hfraction, List.append_nil]
    exact hfits

/-- A numeral is read to its end as the number that it is kept as. -/
theorem unsigned_body (hr : Stops r) :
    unsigned x.negative (x.body ++ r) = readAs x.number? r := by
  rw [body, List.append_assoc, List.append_assoc, unsigned_whole x (endsDigits_pointed x hr),
    afterDigits_ending x (isDigit_of_mem_rest x.isDigit_whole 0) hr, number?]
  by_cases hint : x.Integral
  · obtain ⟨hall, hfraction, -⟩ := (integral_iff x).1 hint
    have hvalue : (boundedDigits 0 x.whole).1 = x.coefficient := by
      rw [boundedDigits_eq_value hall, coefficient, hfraction, List.append_nil]
      rfl
    rw [if_pos ((integral_iff x).1 hint), if_pos hint, hvalue]
    rfl
  · rw [if_neg (mt (integral_iff x).2 hint), if_neg hint]
    rfl

variable {x}

theorem Finite.unsigned_body (h : x.Finite) (hr : Stops r) :
    unsigned x.negative (x.body ++ r) = .ok (x.number, r) := by
  obtain ⟨n, hn⟩ := Option.isSome_iff_exists.1 h
  rw [x.unsigned_body hr, number, hn]
  rfl

end Numeral

/-- A number is read to its end after its sign, and without a sign it begins with a digit. -/
theorem NumberText.unsigned_append {n : Number} {t : List Char}
    (h : NumberText Numeral.Finite n t) (hr : Stops r) :
    (∃ c t', t = c :: t' ∧ isDigit c = true ∧ unsigned false (t ++ r) = .ok (n, r)) ∨
      ∃ t', t = '-' :: t' ∧ unsigned true (t' ++ r) = .ok (n, r) := by
  obtain ⟨x, hx, rfl, rfl⟩ := h
  have hread := hx.unsigned_body hr
  cases hsign : x.negative with
  | true =>
      rw [hsign] at hread
      exact .inr ⟨x.body, by simp [Numeral.text, hsign], hread⟩
  | false =>
      obtain ⟨c, ds, hwhole, hc⟩ := x.whole_eq_cons
      have htext : x.text = x.body := by simp [Numeral.text, hsign]
      rw [hsign] at hread
      rw [htext]
      exact .inl ⟨c, _, by rw [Numeral.body, hwhole, List.cons_append], hc, hread⟩

/-! ## Integers as they are written -/

/-- No zero leads the digits of a positive number. -/
theorem digits_eq_cons {m : Nat} (hm : 0 < m) : ∃ c cs, Decimal.digits m = c :: cs ∧ c ≠ '0' := by
  rw [Decimal.digits]
  split
  · rename_i hsmall
    have hchar : ∀ d < 10, 0 < d → Decimal.digitChar d ≠ '0' := by decide
    exact ⟨_, [], rfl, hchar m hsmall hm⟩
  · obtain ⟨c, cs, hdigits, hc⟩ := digits_eq_cons (m := m / 10) (by omega)
    exact ⟨c, cs ++ [Decimal.digitChar (m % 10)], by rw [hdigits, List.cons_append], hc⟩
termination_by m
decreasing_by omega

namespace Numeral

theorem isDigit_nil : ∀ c ∈ ([] : List Char), c.isDigit = true := List.forall_mem_nil _

/-- An integer as it is written. -/
def ofNat (negative : Bool) (m : Nat) : Numeral where
  negative := negative
  whole := Decimal.digits m
  fraction := []
  exponent := none
  whole_ne_nil := Decimal.digits_ne_nil m
  zero_alone cs h := by
    rcases Nat.eq_zero_or_pos m with rfl | hm
    · rw [Decimal.digits] at h
      exact (List.cons.inj h).2.symm
    · obtain ⟨c, ds, hdigits, hc⟩ := digits_eq_cons hm
      exact absurd (List.cons.inj (hdigits.symm.trans h)).1 hc
  isDigit_whole c hc := Decimal.isDigit_of_mem_digits m c hc
  isDigit_fraction := isDigit_nil

theorem number?_ofNat (hm : m ≤ largest64) :
    (ofNat negative m).number? = some (afterInteger.whole negative m) := by
  have hvalue : (ofNat negative m).coefficient = m := by
    rw [coefficient, ofNat, List.append_nil, Decimal.value_digits]
  have hint : (ofNat negative m).Integral := ⟨rfl, rfl, by rwa [hvalue]⟩
  rw [number?, if_pos hint, hvalue]
  rfl

theorem numberText_ofNat {n : Number} (hm : m ≤ largest64)
    (hn : afterInteger.whole negative m = n) : NumberText Finite n (ofNat negative m).text := by
  have hread : (ofNat negative m).number? = some (afterInteger.whole negative m) :=
    number?_ofNat hm
  exact ⟨_, by rw [Finite, hread]; rfl, by rw [number, hread]; exact hn, rfl⟩

end Numeral

theorem numberText_natural (n : UInt64) :
    NumberText Numeral.Finite (.natural n) (Decimal.digits n.toNat) := by
  have hfits : n.toNat ≤ largest64 := Nat.le_of_lt_succ n.toNat_lt
  have htext : (Numeral.ofNat false n.toNat).text = Decimal.digits n.toNat :=
    List.append_nil (Decimal.digits n.toNat)
  exact htext ▸ Numeral.numberText_ofNat hfits (by simp [afterInteger.whole])

theorem numberText_negSucc (n : Fin negativeSpan) :
    NumberText Numeral.Finite (.negSucc n) ('-' :: Decimal.digits (n.val + 1)) := by
  have hfits : n.val + 1 ≤ largest64 := by
    have hspan : n.val < negativeSpan := n.isLt
    simp only [largest64, negativeSpan] at hspan ⊢
    omega
  have htext : (Numeral.ofNat true (n.val + 1)).text = '-' :: Decimal.digits (n.val + 1) :=
    congrArg (List.cons '-') (List.append_nil (Decimal.digits (n.val + 1)))
  exact htext ▸ Numeral.numberText_ofNat hfits (by simp [afterInteger.whole])

end DetailPanel.Json
