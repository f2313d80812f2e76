import DetailPanel.Proofs.Program.Layering
import Mathlib.Data.List.Induction
import Mathlib.Data.List.TakeWhile

/-!
# The grammar of an override

The throttle window may be given as white space, a plus sign or none, decimal digits with
any number of zeros in front, and white space again, if the number has 64 bits.  What
applying the overrides comes to follows from the windows that can be asked for:

    throttleOverride raw = .ok n ↔ Spells raw n                (throttleOverride_eq_ok)
    Asked lookup window →
      c.override lookup = (d.validate, d), where d = c.beneath window …  (override_of_asked)
-/

namespace DetailPanel

/-! ## Numerals -/

namespace Decimal

variable {cs : List Char} {n : Nat}

/-- Decimal digits, at least one, and the number that they denote. -/
inductive Numeral : List Char → Nat → Prop
  | digit {d : Nat} (hd : d < 10) : Numeral [digitChar d] d
  | concat {cs : List Char} {n d : Nat} (h : Numeral cs n) (hd : d < 10) :
      Numeral (cs ++ [digitChar d]) (10 * n + d)

theorem value_concat (cs : List Char) (c : Char) :
    value (cs ++ [c]) = 10 * value cs + digitValue c := by
  simp [value, valueFrom]

theorem toNat_of_isDigit {c : Char} (hc : Json.isDigit c = true) : 48 ≤ c.toNat ∧ c.toNat ≤ 57 := by
  simp only [Json.isDigit, Bool.and_eq_true, decide_eq_true_eq, Char.le_def,
    UInt32.le_iff_toNat_le] at hc
  exact hc

/-- A digit is the character of its value. -/
theorem digitChar_digitValue {c : Char} (hc : Json.isDigit c = true) :
    digitValue c < 10 ∧ digitChar (digitValue c) = c := by
  obtain ⟨hlow, hhigh⟩ := toNat_of_isDigit hc
  have hcode : 48 + (c.toNat - 48) = c.toNat := by omega
  refine ⟨by rw [digitValue]; omega, ?_⟩
  rw [digitChar, digitValue, hcode, Char.ofNat_toNat]

theorem Numeral.isDigit (h : Numeral cs n) : ∀ c ∈ cs, Json.isDigit c = true := by
  induction h with
  | digit hd =>
      intro c hc
      exact List.mem_singleton.1 hc ▸ (digitChar_cases _ hd).2
  | concat h hd ih =>
      intro c hc
      rcases List.mem_append.1 hc with hc | hc
      · exact ih c hc
      · exact List.mem_singleton.1 hc ▸ (digitChar_cases _ hd).2

theorem Numeral.value_eq (h : Numeral cs n) : value cs = n := by
  induction h with
  | digit hd => simpa [value, valueFrom] using (digitChar_cases _ hd).1
  | concat h hd ih => rw [value_concat, ih, (digitChar_cases _ hd).1]

theorem Numeral.ne_nil (h : Numeral cs n) : cs ≠ [] := by
  cases h <;> simp

/-- Digits are a numeral of their value. -/
theorem numeral_value (hne : cs ≠ []) (hdigits : ∀ c ∈ cs, Json.isDigit c = true) :
    Numeral cs (value cs) := by
  induction cs using List.reverseRecOn with
  | nil => exact absurd rfl hne
  | append_singleton cs c ih =>
      obtain ⟨hlt, hchar⟩ := digitChar_digitValue (hdigits c (by simp))
      rw [value_concat]
      by_cases hcs : cs = []
      · subst hcs
        have hdigit := Numeral.digit hlt
        rw [hchar] at hdigit
        simpa [value, valueFrom] using hdigit
      · have hdigit := (ih hcs fun k hk => hdigits k (by simp [hk])).concat hlt
        rwa [hchar] at hdigit

theorem numeral_iff : Numeral cs n ↔
    cs ≠ [] ∧ (∀ c ∈ cs, Json.isDigit c = true) ∧ value cs = n := by
  constructor
  · intro h
    exact ⟨h.ne_nil, h.isDigit, h.value_eq⟩
  · rintro ⟨hne, hdigits, rfl⟩
    exact numeral_value hne hdigits

theorem numeral_digits (n : Nat) : Numeral (digits n) n :=
  numeral_iff.2 ⟨digits_ne_nil n, isDigit_of_mem_digits n, value_digits n⟩

end Decimal

/-! ## Trimming -/

namespace Text

variable {cs before body after : List Char}

theorem isBlank_of_isDigit {c : Char} (hc : Json.isDigit c = true) : isBlank c = false := by
  obtain ⟨hlow, hhigh⟩ := Decimal.toNat_of_isDigit hc
  simp only [isBlank, Bool.or_eq_false_iff, Bool.and_eq_false_iff, decide_eq_false_iff_not,
    beq_eq_false_iff_ne]
  omega

/-- Trimming takes white space away at both ends. -/
theorem exists_trim (cs : List Char) : ∃ before after, cs = before ++ trim cs ++ after ∧
    (∀ c ∈ before, isBlank c = true) ∧ ∀ c ∈ after, isBlank c = true := by
  let rest := (cs.dropWhile isBlank).reverse
  refine ⟨cs.takeWhile isBlank, (rest.takeWhile isBlank).reverse, ?_, ?_, ?_⟩
  · have hrest : trim cs ++ (rest.takeWhile isBlank).reverse = cs.dropWhile isBlank := by
      rw [trim, ← List.reverse_append, List.takeWhile_append_dropWhile, List.reverse_reverse]
    rw [List.append_assoc, hrest, List.takeWhile_append_dropWhile]
  · intro c hc
    exact List.mem_takeWhile_imp hc
  · intro c hc
    exact List.mem_takeWhile_imp (List.mem_reverse.1 hc)

theorem dropWhile_eq_self (h : ∀ c ∈ cs, isBlank c = false) : cs.dropWhile isBlank = cs := by
  rw [List.dropWhile_eq_self_iff]
  intro hlt
  simp [h _ (List.getElem_mem hlt)]

/-- Of a text without white space that is padded, trimming leaves the text. -/
theorem trim_padded (hbefore : ∀ c ∈ before, isBlank c = true) (hne : body ≠ [])
    (hbody : ∀ c ∈ body, isBlank c = false) (hafter : ∀ c ∈ after, isBlank c = true) :
    trim (before ++ body ++ after) = body := by
  have hleft : (before ++ body ++ after).dropWhile isBlank = body ++ after := by
    rw [List.append_assoc, List.dropWhile_append_of_pos hbefore, List.dropWhile_append,
      dropWhile_eq_self hbody, if_neg (by simpa using hne)]
  have hright : (after.reverse ++ body.reverse).dropWhile isBlank = body.reverse := by
    rw [List.dropWhile_append_of_pos (by simpa using hafter),
      dropWhile_eq_self (by simpa using hbody)]
  rw [trim, hleft, List.reverse_append, hright, List.reverse_reverse]

end Text

/-! ## The window that an override asks for -/

namespace Config

open Decimal

variable {c : Config} {lookup : String → Option String} {cs ds : List Char} {raw : String}
  {n : UInt64} {window : Option UInt64}

/-- A number of 64 bits without white space. -/
def Unpadded (cs : List Char) (n : UInt64) : Prop :=
  Numeral cs n.toNat ∨ ∃ ds, cs = '+' :: ds ∧ Numeral ds n.toNat

/-- White space, a plus sign or none, the digits of a number, and white space. -/
def Spells (raw : String) (n : UInt64) : Prop :=
  ∃ before body after, raw.toList = before ++ body ++ after ∧
    (∀ k ∈ before, Text.isBlank k = true) ∧ Unpadded body n ∧
    ∀ k ∈ after, Text.isBlank k = true

theorem Unpadded.ne_nil (h : Unpadded cs n) : cs ≠ [] := by
  rcases h with h | ⟨ds, rfl, -⟩
  · exact h.ne_nil
  · simp

theorem Unpadded.isBlank (h : Unpadded cs n) : ∀ c ∈ cs, Text.isBlank c = false := by
  rcases h with h | ⟨ds, rfl, h⟩
  · exact fun c hc => Text.isBlank_of_isDigit (h.isDigit c hc)
  · refine List.forall_mem_cons.2 ⟨by decide, ?_⟩
    exact fun c hc => Text.isBlank_of_isDigit (h.isDigit c hc)

/-- What is tested of the digits after the sign is that they are a numeral of 64 bits. -/
theorem digits64_eq_some :
    (if !ds.isEmpty && ds.all Json.isDigit && value ds ≤ Json.largest64 then
      some (value ds).toUInt64 else none) = some n ↔ Numeral ds n.toNat := by
  rw [numeral_iff]
  constructor
  · intro h
    split at h
    · rename_i hds
      obtain rfl := Option.some.inj h
      simp only [Bool.and_eq_true, decide_eq_true_eq, List.all_eq_true] at hds
      obtain ⟨⟨hne, hdigits⟩, hfits⟩ := hds
      refine ⟨by simpa using hne, hdigits, ?_⟩
      exact (UInt64.toNat_ofNat_of_lt' (Nat.lt_succ_of_le hfits)).symm
    · cases h
  · rintro ⟨hne, hdigits, hvalue⟩
    have hfits : value ds ≤ Json.largest64 := hvalue ▸ Nat.le_of_lt_succ n.toNat_lt
    have hds : (!ds.isEmpty && ds.all Json.isDigit && value ds ≤ Json.largest64) = true := by
      simpa [hfits, hne] using hdigits
    rw [if_pos hds, hvalue]
    exact congrArg some (UInt64.ofNat_toNat)

theorem natural64?_eq_some : natural64? cs = some n ↔ Unpadded cs n := by
  unfold natural64?
  simp only
  split
  · rename_i ds
    rw [digits64_eq_some]
    constructor
    · exact fun h => .inr ⟨ds, rfl, h⟩
    · rintro (h | ⟨ds', heq, h⟩)
      · -- no numeral begins with a sign
        exact absurd (h.isDigit '+' (by simp)) (by decide)
      · obtain rfl := (List.cons.inj heq).2
        exact h
  · rename_i hsign
    rw [digits64_eq_some]
    constructor
    · exact .inl
    · rintro (h | ⟨ds, rfl, -⟩)
      · exact h
      · exact absurd rfl (hsign ds)

theorem trim_of_spells (h : Spells raw n) : Unpadded (Text.trim raw.toList) n := by
  obtain ⟨before, body, after, hraw, hbefore, hbody, hafter⟩ := h
  rwa [hraw, Text.trim_padded hbefore hbody.ne_nil hbody.isBlank hafter]

/-- An override is read if and only if it follows the grammar, and as the number it spells. -/
theorem throttleOverride_eq_ok : throttleOverride raw = .ok n ↔ Spells raw n := by
  have hread : throttleOverride raw = .ok n ↔ natural64? (Text.trim raw.toList) = some n := by
    unfold throttleOverride
    cases natural64? (Text.trim raw.toList) <;> simp
  rw [hread, natural64?_eq_some]
  constructor
  · intro h
    obtain ⟨before, after, hraw, hbefore, hafter⟩ := Text.exists_trim raw.toList
    exact ⟨before, _, after, hraw, hbefore, h, hafter⟩
  · exact trim_of_spells

theorem throttleOverride_of_not_spells (h : ∀ n, ¬ Spells raw n) :
    throttleOverride raw = .error (.throttleOverride raw) := by
  unfold throttleOverride
  cases hn : natural64? (Text.trim raw.toList) with
  | none => rfl
  | some n =>
      refine absurd (throttleOverride_eq_ok.1 ?_) (h n)
      rw [throttleOverride, hn]

/-- The window that an environment asks for, if it asks for one. -/
inductive Asked (lookup : String → Option String) : Option UInt64 → Prop
  | nothing (hraw : lookup throttleVariable = none) : Asked lookup none
  | window {raw : String} {n : UInt64} (hraw : lookup throttleVariable = some raw)
      (hn : Spells raw n) : Asked lookup (some n)

theorem asked_iff : Asked lookup window ↔ windowLayer lookup = some window := by
  unfold windowLayer
  cases hraw : lookup throttleVariable with
  | none =>
      constructor
      · rintro (_ | ⟨hraw', -⟩)
        · rfl
        · rw [hraw] at hraw'
          cases hraw'
      · intro h
        obtain rfl := Option.some.inj h
        exact .nothing hraw
  | some raw =>
      constructor
      · rintro (hraw' | ⟨hraw', hn⟩)
        · rw [hraw] at hraw'
          cases hraw'
        · obtain rfl := Option.some.inj (hraw.symm.trans hraw')
          simp [throttleOverride_eq_ok.2 hn, Except.toOption]
      · intro h
        cases hread : throttleOverride raw with
        | error e => simp [hread, Except.toOption] at h
        | ok n =>
            obtain rfl : some n = window := by simpa [hread, Except.toOption] using h
            exact .window hraw (throttleOverride_eq_ok.1 hread)

/-! ## What applying the overrides comes to -/

/-- Both overrides are in place when the result is validated, and stay in place. -/
theorem override_of_asked (h : Asked lookup window) :
    c.override lookup = ((c.beneath window (lookup layoutVariable)).validate,
      c.beneath window (lookup layoutVariable)) := by
  unfold override
  cases h with
  | nothing hraw => simp only [hraw]; rfl
  | window hraw hn => simp only [hraw, throttleOverride_eq_ok.2 hn]; rfl

/-- An override that is no number leaves everything as it was. -/
theorem override_of_not_spells (hraw : lookup throttleVariable = some raw)
    (h : ∀ n, ¬ Spells raw n) : c.override lookup = (.error (.throttleOverride raw), c) := by
  unfold override
  simp only [hraw, throttleOverride_of_not_spells h]
  rfl

theorem override_accepted : (c.override lookup).1 = .ok () ↔
    ∃ window, Asked lookup window ∧ (c.beneath window (lookup layoutVariable)).Valid := by
  have hok : (c.override lookup).1 = .ok () ↔ ∃ c', c.override lookup = (.ok (), c') := by
    constructor
    · exact fun h => ⟨_, Prod.ext h rfl⟩
    · rintro ⟨c', h⟩
      rw [h]
  simp only [hok, override_eq_ok, asked_iff]
  constructor
  · rintro ⟨c', window, hwindow, rfl, hvalid⟩
    exact ⟨window, hwindow, hvalid⟩
  · rintro ⟨window, hwindow, hvalid⟩
    exact ⟨_, window, hwindow, rfl, hvalid⟩

/-- The first thing that is wrong with a configuration. -/
inductive Fault (c : Config) : Invalid → Prop
  | zeroThrottle (hthrottle : c.throttleMs = 0) : Fault c .zeroThrottle
  | blankLayout (hthrottle : 0 < c.throttleMs) (hlayout : Text.allBlank c.layout = true) :
      Fault c .blankLayout
  | blankRegion (hthrottle : 0 < c.throttleMs) (hlayout : Text.allBlank c.layout = false)
      (hregion : Text.allBlank c.region = true) : Fault c .blankRegion

theorem validate_eq_error {e : Invalid} : c.validate = .error e ↔ c.Fault e := by
  unfold validate
  constructor
  · intro h
    split at h
    · rename_i hthrottle
      obtain rfl := Except.error.inj h
      exact .zeroThrottle hthrottle
    · rename_i hthrottle
      have hpos : 0 < c.throttleMs := UInt64.pos_iff_ne_zero.2 hthrottle
      split at h
      · rename_i hlayout
        obtain rfl := Except.error.inj h
        exact .blankLayout hpos hlayout
      · rename_i hlayout
        split at h
        · rename_i hregion
          obtain rfl := Except.error.inj h
          exact .blankRegion hpos (by simpa using hlayout) hregion
        · cases h
  · rintro (hthrottle | ⟨hthrottle, hlayout⟩ | ⟨hthrottle, hlayout, hregion⟩)
    · simp [hthrottle]
    · simp [UInt64.pos_iff_ne_zero.1 hthrottle, hlayout]
    · simp [UInt64.pos_iff_ne_zero.1 hthrottle, hlayout, hregion]

/-- A number that is printed and padded is one of the texts that spell it. -/
theorem spells_digits {before after : List Char} (hbefore : ∀ k ∈ before, Text.isBlank k = true)
    (hafter : ∀ k ∈ after, Text.isBlank k = true) (n : UInt64) :
    Spells (String.ofList (before ++ digits n.toNat ++ after)) n :=
  ⟨before, _, after, String.toList_ofList, hbefore, .inl (numeral_digits _), hafter⟩

/-- What applying the overrides that `lookup` finds comes to: the outcome, and what
becomes of the configuration. -/
structure Overridden (c : Config) (lookup : String → Option String) (out : Except Invalid Unit)
    (c' : Config) : Prop where
  /-- The overrides are accepted if no window is given or the one that is given follows the
  grammar, and if they leave a configuration that is valid. -/
  accepted : out = .ok () ↔
    ∃ window, Asked lookup window ∧ (c.beneath window (lookup layoutVariable)).Valid
  /-- Both overrides are applied, whether the result is valid or not. -/
  applied : ∀ window, Asked lookup window → c' = c.beneath window (lookup layoutVariable)
  /-- If it is not, the error is the first thing that is wrong with it. -/
  failed : ∀ window, Asked lookup window → ∀ e, out = .error e ↔ c'.Fault e
  /-- A window that does not follow the grammar leaves everything as it was. -/
  illFormed : ∀ raw, lookup throttleVariable = some raw → (∀ n, ¬ Spells raw n) →
    out = .error (.throttleOverride raw) ∧ c' = c
  region : c'.region = c.region
  /-- A number that is printed, with any white space around it, is read back. -/
  readBack : ∀ (n : UInt64) (before after : List Char), 0 < n →
    (∀ k ∈ before, Text.isBlank k = true) → (∀ k ∈ after, Text.isBlank k = true) →
    lookup throttleVariable = some (String.ofList (before ++ digits n.toNat ++ after)) →
      c'.throttleMs = n ∧
        (out = .ok () ↔ Text.allBlank c'.layout = false ∧ Text.allBlank c'.region = false)

/-- The region is left alone, whatever the overrides are. -/
theorem region_override (c : Config) (lookup : String → Option String) :
    (c.override lookup).2.region = c.region := by
  cases hraw : lookup throttleVariable with
  | none =>
      rw [override_of_asked (.nothing hraw)]
      rfl
  | some raw =>
      by_cases hspells : ∃ n, Spells raw n
      · obtain ⟨n, hn⟩ := hspells
        rw [override_of_asked (.window hraw hn)]
        rfl
      · rw [override_of_not_spells hraw (not_exists.1 hspells)]

/-- The effect of the overrides, in every case. -/
theorem override_exact (c : Config) (lookup : String → Option String) :
    Overridden c lookup (c.override lookup).1 (c.override lookup).2 where
  accepted := override_accepted
  applied window h := by rw [override_of_asked h]
  failed window h e := by rw [override_of_asked h, validate_eq_error]
  illFormed raw hraw h := by
    rw [override_of_not_spells hraw h]
    exact ⟨rfl, rfl⟩
  region := region_override c lookup
  readBack n before after hn hbefore hafter hraw := by
    have hasked : Asked lookup (some n) := .window hraw (spells_digits hbefore hafter n)
    rw [override_of_asked hasked, validate_eq_ok]
    exact ⟨rfl, fun h => ⟨h.layout, h.region⟩, fun h => ⟨hn, h.1, h.2⟩⟩

/-- Zeros in front and a plus sign are allowed, a second sign is not. -/
example :
    throttleOverride "\u00a0+0025\n" = .ok 25 ∧
      throttleOverride "++25" = .error (.throttleOverride "++25") := by
  decide

end Config

end DetailPanel
