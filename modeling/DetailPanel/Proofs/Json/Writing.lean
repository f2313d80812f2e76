import DetailPanel.Json.Writer
import DetailPanel.Proofs.Json.Numbers

/-!
# Writing JSON texts

What is written compactly for a value is a text of the value.  Doubles are left out: their
texts go by how a decimal is rounded.

    Whole depth v → ValueText depth v v.write                     (Whole.valueText)
    Whole nestingLimit v → DocumentText v v.compact.toList      (Whole.documentText)
-/

namespace DetailPanel.Json

/-- No number in a value is a double, and at most `depth` containers stand inside one another. -/
def Whole : (depth : Nat) → Value → Prop
  | _, .atom a => ∀ bits, a ≠ .number (.double bits)
  | 0, .array _ | 0, .object _ => False
  | depth + 1, .array vs => ∀ v ∈ vs, Whole depth v
  | depth + 1, .object es => ∀ e ∈ es, Whole depth e.2

theorem whole_atom {depth : Nat} {a : Atom} :
    Whole depth (.atom a) ↔ ∀ bits, a ≠ .number (.double bits) := by
  cases depth <;> exact Iff.rfl

/-! ## Strings -/

theorem hexValue?_hexChar : ∀ d < 16, hexValue? (hexChar d) = some d := by decide

theorem hexUnit_control {n : Nat} (hn : n < 0x20) :
    HexUnit n ['0', '0', hexChar (n / 16), hexChar (n % 16)] := by
  refine ⟨_, _, _, _, 0, 0, n / 16, n % 16, rfl, rfl, rfl, ?_, ?_, ?_⟩
  · exact hexValue?_hexChar _ (by omega)
  · exact hexValue?_hexChar _ (by omega)
  · omega

theorem spells_escapeChar (c : Char) : Spells c (escapeChar c) := by
  unfold escapeChar
  iterate 7
    split
    · rename_i hc
      subst hc
      exact .short rfl
  split
  · rename_i hcontrol
    exact .unit (hexUnit_control hcontrol)
  · exact .plain (by omega) ‹_› ‹_›

theorem spelled_flatMap (s : List Char) : Spelled s (s.flatMap escapeChar) := by
  induction s with
  | nil => rfl
  | cons c s ih => exact ⟨_, _, spells_escapeChar c, ih, List.flatMap_cons⟩

theorem stringText_writeString (s : String) : StringText s (writeString s) :=
  ⟨_, spelled_flatMap s.toList, rfl⟩

/-! ## Values -/

theorem atomText_write {a : Atom} (h : ∀ bits, a ≠ .number (.double bits)) :
    AtomText Numeral.Finite a a.write := by
  cases a with
  | null => rfl
  | bool b => cases b <;> rfl
  | text s => exact stringText_writeString s
  | number n =>
      cases n with
      | natural n => exact numberText_natural n
      | negSucc n => exact numberText_negSucc n
      | double bits => exact absurd rfl (h bits)

section Containers

variable {P : Value → List Char → Prop}

theorem listed_writeItems {vs : List Value} (h : ∀ v ∈ vs, P v v.write) :
    ∃ body, Listed P false vs body ∧ Value.writeItems vs = body ++ [']'] := by
  induction vs with
  | nil => exact ⟨[], blanks_nil, rfl⟩
  | cons v vs ih =>
      obtain ⟨hv, hvs⟩ := List.forall_mem_cons.1 h
      obtain ⟨body, hbody, hwrite⟩ := ih hvs
      refine ⟨_, ⟨[','], _, body, ⟨[], [], blanks_nil, blanks_nil, rfl⟩, hv, hbody, rfl⟩, ?_⟩
      simp [Value.writeItems, hwrite]

theorem arrayText_write {vs : List Value} (h : ∀ v ∈ vs, P v v.write) :
    ArrayText P vs (Value.array vs).write := by
  cases vs with
  | nil => exact ⟨[], blanks_nil, rfl⟩
  | cons v vs =>
      obtain ⟨hv, hvs⟩ := List.forall_mem_cons.1 h
      obtain ⟨body, hbody, hwrite⟩ := listed_writeItems hvs
      refine ⟨_, ⟨[], _, body, blanks_nil, hv, hbody, rfl⟩, ?_⟩
      simp [Value.write, hwrite]

theorem memberText_write {k : String} {v : Value} (h : P v v.write) :
    MemberText P (k, v) (writeString k ++ ':' :: v.write) :=
  ⟨writeString k, [], [], v.write, stringText_writeString k, blanks_nil, blanks_nil, h, by simp⟩

theorem listed_writeEntries {es : List (String × Value)} (h : ∀ e ∈ es, P e.2 e.2.write) :
    ∃ body, Listed (MemberText P) false es body ∧ Value.writeEntries es = body ++ ['}'] := by
  induction es with
  | nil => exact ⟨[], blanks_nil, rfl⟩
  | cons e es ih =>
      obtain ⟨he, hes⟩ := List.forall_mem_cons.1 h
      obtain ⟨body, hbody, hwrite⟩ := ih hes
      refine ⟨_, ⟨[','], _, body, ⟨[], [], blanks_nil, blanks_nil, rfl⟩, memberText_write he,
        hbody, rfl⟩, ?_⟩
      simp [Value.writeEntries, hwrite]

theorem objectText_write {es : List (String × Value)} (h : ∀ e ∈ es, P e.2 e.2.write) :
    ObjectText P es (Value.object es).write := by
  cases es with
  | nil => exact ⟨[], blanks_nil, rfl⟩
  | cons e es =>
      obtain ⟨he, hes⟩ := List.forall_mem_cons.1 h
      obtain ⟨body, hbody, hwrite⟩ := listed_writeEntries hes
      refine ⟨_, ⟨[], _, body, blanks_nil, memberText_write he, hbody, rfl⟩, ?_⟩
      simp [Value.write, hwrite]

end Containers

/-- What is written for a value is a text of it. -/
theorem Whole.valueText {depth : Nat} {v : Value} (h : Whole depth v) :
    ValueText depth v v.write := by
  induction depth generalizing v with
  | zero =>
      cases v with
      | atom a => exact valueText_atom.2 (atomText_write (whole_atom.1 h))
      | array vs => exact h.elim
      | object es => exact h.elim
  | succ depth ih =>
      cases v with
      | atom a => exact valueText_atom.2 (atomText_write (whole_atom.1 h))
      | array vs => exact arrayText_write fun v hv => ih (h v hv)
      | object es => exact objectText_write fun e he => ih (h e he)

theorem Whole.documentText {v : Value} (h : Whole nestingLimit v) :
    DocumentText v v.compact.toList :=
  ⟨[], v.write, [], blanks_nil, h.valueText, blanks_nil, by simp [Value.compact]⟩

end DetailPanel.Json
