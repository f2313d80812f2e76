import Mathlib.Data.List.Forall2
import DetailPanel.Json.Reader
import DetailPanel.Proofs.Json.Numerals

/-!
# JSON texts

What it takes for a list of characters to be a JSON text of a value: white space may
stand between all tokens, a string may be spelled with any escapes, a number is a numeral
that is kept as it, and the entries of an object come in the order in which they are
written.  Which numerals may occur is a parameter; it is left out where they are those that
are kept as finite numbers.

    ValueTextOf admits depth v cs : the text cs writes v with numerals that are admitted and
                                    at most `depth` containers inside one another
    ValueText depth v cs          : ... with finite numerals
-/

namespace DetailPanel.Json

/-- White space. -/
def Blanks (cs : List Char) : Prop := ∀ c ∈ cs, isBlank c = true

instance (cs : List Char) : Decidable (Blanks cs) :=
  List.decidableBAll (fun c => isBlank c = true) cs

/-- What comes next does not continue a number. -/
def Stops (cs : List Char) : Prop :=
  ∀ c r, cs = c :: r → isDigit c = false ∧ c ≠ '.' ∧ isExponentMark c = false

/-! ## Strings -/

/-- Four hexadecimal digits of a number. -/
def HexUnit (n : Nat) (cs : List Char) : Prop :=
  ∃ a b c d i j k l, cs = [a, b, c, d] ∧ hexValue? a = some i ∧ hexValue? b = some j ∧
    hexValue? c = some k ∧ hexValue? d = some l ∧ n = ((i * 16 + j) * 16 + k) * 16 + l

/-- How a character may be spelled in a string. -/
inductive Spells : Char → List Char → Prop
  /-- As it is, unless it is a quote, a backslash or a control character. -/
  | plain {c : Char} (hc : 0x20 ≤ c.toNat) (hquote : c ≠ '"') (hslash : c ≠ '\\') : Spells c [c]
  | short {c e : Char} (h : simpleEscape? e = some c) : Spells c ['\\', e]
  /-- By its code point. -/
  | unit {c : Char} {ds : List Char} (h : HexUnit c.toNat ds) : Spells c ('\\' :: 'u' :: ds)
  /-- By the two halves of a surrogate pair. -/
  | pair {c : Char} {ds ds' : List Char} (hc : 0x10000 ≤ c.toNat)
      (hlead : HexUnit (0xD800 + (c.toNat - 0x10000) / 0x400) ds)
      (htrail : HexUnit (0xDC00 + (c.toNat - 0x10000) % 0x400) ds') :
      Spells c ('\\' :: 'u' :: ds ++ '\\' :: 'u' :: ds')

def Spelled : List Char → List Char → Prop
  | [], cs => cs = []
  | c :: s, cs => ∃ t r, Spells c t ∧ Spelled s r ∧ cs = t ++ r

def StringText (s : String) (cs : List Char) : Prop :=
  ∃ body, Spelled s.toList body ∧ cs = '"' :: body ++ ['"']

/-! ## Atoms -/

section Atoms

variable (admits : Numeral → Prop)

def NumberText (n : Number) (cs : List Char) : Prop :=
  ∃ x : Numeral, admits x ∧ x.number = n ∧ cs = x.text

def AtomText : Atom → List Char → Prop
  | .null, cs => cs = ['n', 'u', 'l', 'l']
  | .bool true, cs => cs = ['t', 'r', 'u', 'e']
  | .bool false, cs => cs = ['f', 'a', 'l', 's', 'e']
  | .number n, cs => NumberText admits n cs
  | .text s, cs => StringText s cs

end Atoms

/-! ## Containers -/

section Containers

variable {α : Type}

/-- What stands before an element: white space and, if it is not the first, a comma. -/
def Lead : (first : Bool) → List Char → Prop
  | true, cs => Blanks cs
  | false, cs => ∃ a b, Blanks a ∧ Blanks b ∧ cs = a ++ ',' :: b

/-- Elements in a row, up to the bracket that closes them. -/
def Listed (P : α → List Char → Prop) : (first : Bool) → List α → List Char → Prop
  | _, [], cs => Blanks cs
  | first, x :: xs, cs => ∃ lead t r, Lead first lead ∧ P x t ∧ Listed P false xs r ∧
      cs = lead ++ t ++ r

def ArrayText (P : α → List Char → Prop) (xs : List α) (cs : List Char) : Prop :=
  ∃ body, Listed P true xs body ∧ cs = '[' :: body ++ [']']

/-- A key, a colon and what is written under the key. -/
def MemberText (P : α → List Char → Prop) (e : String × α) (cs : List Char) : Prop :=
  ∃ key pad pad' t, StringText e.1 key ∧ Blanks pad ∧ Blanks pad' ∧ P e.2 t ∧
    cs = key ++ pad ++ ':' :: pad' ++ t

def ObjectText (P : α → List Char → Prop) (es : List (String × α)) (cs : List Char) : Prop :=
  ∃ body, Listed (MemberText P) true es body ∧ cs = '{' :: body ++ ['}']

/-- Elements that stand for others are written where these are. -/
theorem Listed.of_forall₂ {β : Type} {P : α → List Char → Prop} {R : β → α → Prop} {first : Bool}
    {ys : List β} {xs : List α} {cs : List Char} (h : Listed P first xs cs)
    (hR : List.Forall₂ R ys xs) : Listed (fun y t => ∃ x, R y x ∧ P x t) first ys cs := by
  induction hR generalizing first cs with
  | nil => exact h
  | cons hyx _ ih =>
      obtain ⟨lead, t, r, hlead, ht, hr, rfl⟩ := h
      exact ⟨lead, t, r, hlead, ⟨_, hyx, ht⟩, ih hr, rfl⟩

theorem Listed.imp {P Q : α → List Char → Prop} (himp : ∀ x cs, P x cs → Q x cs) {first : Bool}
    {xs : List α} {cs : List Char} (h : Listed P first xs cs) : Listed Q first xs cs := by
  induction xs generalizing first cs with
  | nil => exact h
  | cons x xs ih =>
      obtain ⟨lead, t, r, hlead, ht, hr, rfl⟩ := h
      exact ⟨lead, t, r, hlead, himp x t ht, ih hr, rfl⟩

end Containers

section Values

variable (admits : Numeral → Prop)

/-- A text of a value in which at most `depth` containers stand inside one another. -/
def ValueTextOf : (depth : Nat) → Value → List Char → Prop
  | _, .atom a, cs => AtomText admits a cs
  | 0, .array _, _ | 0, .object _, _ => False
  | depth + 1, .array vs, cs => ArrayText (ValueTextOf depth) vs cs
  | depth + 1, .object es, cs => ObjectText (ValueTextOf depth) es cs

/-- A text of a value alone, within the limit of nesting. -/
def DocumentTextOf (v : Value) (cs : List Char) : Prop :=
  ∃ pad body pad', Blanks pad ∧ ValueTextOf admits nestingLimit v body ∧ Blanks pad' ∧
    cs = pad ++ (body ++ pad')

end Values

abbrev ValueText : (depth : Nat) → Value → List Char → Prop := ValueTextOf Numeral.Finite

abbrev DocumentText : Value → List Char → Prop := DocumentTextOf Numeral.Finite

theorem valueText_atom {admits : Numeral → Prop} {depth : Nat} {a : Atom} {cs : List Char} :
    ValueTextOf admits depth (.atom a) cs ↔ AtomText admits a cs := by
  cases depth <;> exact Iff.rfl

section Values

variable {admits admits' : Numeral → Prop} {v : Value} {cs : List Char}

theorem AtomText.imp (himp : ∀ x, admits x → admits' x) {a : Atom} (h : AtomText admits a cs) :
    AtomText admits' a cs := by
  cases a with
  | number n =>
      obtain ⟨x, hx, hn, hcs⟩ := h
      exact ⟨x, himp x hx, hn, hcs⟩
  | bool b => cases b <;> exact h
  | null | text => exact h

/-- Where more numerals are admitted there are more texts. -/
theorem ValueTextOf.imp (himp : ∀ x, admits x → admits' x) {depth : Nat}
    (h : ValueTextOf admits depth v cs) : ValueTextOf admits' depth v cs := by
  induction depth generalizing v cs with
  | zero =>
      cases v with
      | atom a => exact valueText_atom.2 ((valueText_atom.1 h).imp himp)
      | array vs => exact h.elim
      | object es => exact h.elim
  | succ depth ih =>
      cases v with
      | atom a => exact valueText_atom.2 ((valueText_atom.1 h).imp himp)
      | array vs =>
          obtain ⟨body, hbody, rfl⟩ := h
          exact ⟨body, hbody.imp fun _ _ => ih, rfl⟩
      | object es =>
          obtain ⟨body, hbody, rfl⟩ := h
          refine ⟨body, hbody.imp fun e t ht => ?_, rfl⟩
          obtain ⟨key, pad, pad', t, hkey, hpad, hpad', ht, rfl⟩ := ht
          exact ⟨key, pad, pad', t, hkey, hpad, hpad', ih ht, rfl⟩

theorem DocumentTextOf.imp (himp : ∀ x, admits x → admits' x) (h : DocumentTextOf admits v cs) :
    DocumentTextOf admits' v cs := by
  obtain ⟨pad, body, pad', hpad, hbody, hpad', rfl⟩ := h
  exact ⟨pad, body, pad', hpad, hbody.imp himp, hpad', rfl⟩

end Values

/-! ## White space -/

section Blanks

variable {pad cs : List Char}

theorem blanks_nil : Blanks [] := nofun

theorem skipBlanks_append (h : Blanks pad) (cs : List Char) :
    skipBlanks (pad ++ cs) = skipBlanks cs := by
  induction pad with
  | nil => rfl
  | cons c pad ih =>
      have hc : isBlank c = true := h c (List.mem_cons_self ..)
      rw [skipBlanks, List.cons_append, List.dropWhile_cons_of_pos hc]
      exact ih fun b hb => h b (List.mem_cons_of_mem _ hb)

theorem skipBlanks_cons {c : Char} (hc : isBlank c = false) (cs : List Char) :
    skipBlanks (c :: cs) = c :: cs := List.dropWhile_cons_of_neg (by simp [hc])

theorem skipBlanks_blanks (h : Blanks pad) : skipBlanks pad = [] := by
  have happend := skipBlanks_append h []
  rwa [List.append_nil] at happend

theorem stops_nil : Stops [] := nofun

theorem Blanks.stops (h : Blanks pad) (hcs : Stops cs) : Stops (pad ++ cs) := by
  cases pad with
  | nil => exact hcs
  | cons b pad =>
      rintro c r ⟨⟩
      have hb : isBlank b = true := h b (List.mem_cons_self ..)
      simp only [isBlank, Bool.or_eq_true, beq_iff_eq] at hb
      rcases hb with ((rfl | rfl) | rfl) | rfl <;> decide

end Blanks

end DetailPanel.Json
