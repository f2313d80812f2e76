import DetailPanel.Json.Tagged
import DetailPanel.Json.Writer
import DetailPanel.Proofs.Json.Numbers

/-!
# Reading JSON texts

The reader finds in every text the value that it writes.  Each kind of reader has one
lemma that says which texts it reads, with blanks before them and anything after them
that does not continue a number.

    Scans read cs a : read finds a in the text cs and leaves what follows it

    ValueText depth v cs → Scans (valueAt size depth) cs v     (ValueText.scans)
-/

namespace DetailPanel.Json

variable {size : Nat} {c : Char} {cs pad r : List Char}

/-! ## Strings -/

theorem codeUnit_append {n : Nat} {ds : List Char} (h : HexUnit n ds) (r : List Char) :
    codeUnit (ds ++ r) = .ok (n, r) := by
  obtain ⟨a, b, c, d, i, j, k, l, rfl, ha, hb, hc, hd, rfl⟩ := h
  simp [codeUnit, ha, hb, hc, hd]

/-- A code point is no half of a surrogate pair. -/
theorem not_surrogate (c : Char) : c.toNat < 0xD800 ∨ 0xDFFF < c.toNat ∧ c.toNat < 0x110000 :=
  c.valid

theorem unicodeEscape_unit {ds : List Char} (h : HexUnit c.toNat ds) (r : List Char) :
    unicodeEscape (ds ++ r) = .ok (c, r) := by
  have hc := not_surrogate c
  rw [unicodeEscape, codeUnit_append h, Scan.andThen_ok, if_neg (by omega), if_neg (by omega),
    Char.ofNat_toNat]

theorem unicodeEscape_pair {ds ds' : List Char} (hc : 0x10000 ≤ c.toNat)
    (hlead : HexUnit (0xD800 + (c.toNat - 0x10000) / 0x400) ds)
    (htrail : HexUnit (0xDC00 + (c.toNat - 0x10000) % 0x400) ds') (r : List Char) :
    unicodeEscape (ds ++ '\\' :: 'u' :: (ds' ++ r)) = .ok (c, r) := by
  have hvalid := not_surrogate c
  have hpoint : 0x10000 + (0xD800 + (c.toNat - 0x10000) / 0x400 - 0xD800) * 0x400 +
      (0xDC00 + (c.toNat - 0x10000) % 0x400 - 0xDC00) = c.toNat := by omega
  rw [unicodeEscape, codeUnit_append hlead, Scan.andThen_ok, if_neg (by omega),
    if_pos (by omega), trailing, codeUnit_append htrail, Scan.andThen_ok, if_pos (by omega),
    hpoint, Char.ofNat_toNat]

theorem stringBody_spells {t : List Char} (h : Spells c t) (n : Nat) (r : List Char) :
    stringBody (n + 1) (t ++ r) = (stringBody n r).map (c :: ·) := by
  cases h with
  | plain hc hquote hslash =>
      rw [List.singleton_append, stringBody, if_neg (by omega)]
      · exact hquote
      · exact hslash
  | @short e h =>
      have hu : e ≠ 'u' := by
        rintro rfl
        cases h
      have hescape : escape (e :: r) = .ok (c, r) := by
        rw [escape, h]
        exact hu
      rw [List.cons_append, List.singleton_append, stringBody, hescape, Scan.andThen_ok]
  | unit h =>
      rw [List.cons_append, List.cons_append, stringBody, escape, unicodeEscape_unit h,
        Scan.andThen_ok]
  | pair hc hlead htrail =>
      simp only [List.cons_append, List.append_assoc]
      rw [stringBody, escape, unicodeEscape_pair hc hlead htrail, Scan.andThen_ok]

theorem Spells.length_pos {t : List Char} (h : Spells c t) : 0 < t.length := by
  cases h <;> simp

theorem Spelled.stringBody {s body : List Char} (h : Spelled s body) {n : Nat}
    (hn : body.length < n) (r : List Char) :
    stringBody n (body ++ '"' :: r) = .ok (s, r) := by
  induction s generalizing body n with
  | nil =>
      obtain rfl : body = [] := h
      obtain ⟨n, rfl⟩ := Nat.exists_eq_add_one_of_ne_zero (Nat.ne_of_gt hn)
      rfl
  | cons c s ih =>
      obtain ⟨t, rest, hc, hs, rfl⟩ := h
      have hpos := hc.length_pos
      rw [List.length_append] at hn
      obtain ⟨n, rfl⟩ := Nat.exists_eq_add_one_of_ne_zero (n := n) (by omega)
      rw [List.append_assoc, stringBody_spells hc, ih hs (by omega)]
      rfl

/-! ## Atoms -/

/-- Neither white space nor the end of an array. -/
def Begins (cs : List Char) : Prop := ∃ c r, cs = c :: r ∧ isBlank c = false ∧ c ≠ ']'

def Scans {α : Type} (read : List Char → Scan α) (cs : List Char) (a : α) : Prop :=
  ∀ pad r, Blanks pad → Stops r → read (pad ++ (cs ++ r)) = .ok (a, r)

theorem Scans.map {α β : Type} {read : List Char → Scan α} {a : α} (h : Scans read cs a)
    (f : α → β) : Scans (fun cs => (read cs).map f) cs (f a) := by
  intro pad r hpad hr
  exact congrArg (Scan.map f) (h pad r hpad hr)

theorem opening_blanks (hpad : Blanks pad) (cs : List Char) :
    opening size (pad ++ cs) = opening size cs := by
  rw [opening, skipBlanks_append hpad]
  rfl

theorem isBlank_of_isDigit (hc : isDigit c = true) : isBlank c = false := by
  simp only [isBlank, Bool.or_eq_false_iff, beq_eq_false_iff_ne]
  refine ⟨⟨⟨?_, ?_⟩, ?_⟩, ?_⟩ <;> rintro rfl <;> cases hc

theorem opening_digit (hc : isDigit c = true) (cs : List Char) :
    opening size (c :: cs) = (unsigned false (c :: cs)).map fun n => .atom (.number n) := by
  rw [opening, skipBlanks_cons (isBlank_of_isDigit hc)]
  split
  -- the bracket, quote, letter or sign of another kind of value is no digit
  all_goals rename_i heq; cases heq
  any_goals cases hc
  exact if_pos hc

/-- The text of an atom is read to its end. -/
theorem AtomText.scans {a : Atom} (h : AtomText Numeral.Finite a cs) (hsize : cs.length < size) :
    Scans (opening size) cs (.atom a) := by
  intro pad r hpad hr
  rw [opening_blanks hpad]
  cases a with
  | null =>
      obtain rfl : cs = ['n', 'u', 'l', 'l'] := h
      rfl
  | bool b =>
      cases b with
      | true =>
          obtain rfl : cs = ['t', 'r', 'u', 'e'] := h
          rfl
      | false =>
          obtain rfl : cs = ['f', 'a', 'l', 's', 'e'] := h
          rfl
  | number n =>
      obtain ⟨c, t, rfl, hc, hread⟩ | ⟨t, rfl, hread⟩ := NumberText.unsigned_append h hr
      · rw [List.cons_append] at hread ⊢
        rw [opening_digit hc, hread]
        rfl
      · have hopening : opening size ('-' :: t ++ r) =
            (unsigned true (t ++ r)).map fun n => .atom (.number n) := rfl
        rw [hopening, hread]
        rfl
  | text s =>
      obtain ⟨body, hbody, rfl⟩ := h
      simp only [List.length_cons, List.length_append] at hsize
      have hopening : opening size ('"' :: body ++ ['"'] ++ r) =
          (stringBody size (body ++ ['"'] ++ r)).map fun s => .atom (.text (String.ofList s)) := rfl
      rw [hopening, List.append_assoc, List.singleton_append, hbody.stringBody (by omega)]
      simp [Scan.map]

theorem AtomText.begins {a : Atom} (h : AtomText Numeral.Finite a cs) : Begins cs := by
  cases a with
  | null => exact ⟨_, _, h, by decide, by decide⟩
  | bool b => cases b <;> exact ⟨_, _, h, by decide, by decide⟩
  | number n =>
      obtain ⟨c, t, rfl, hc, -⟩ | ⟨t, rfl, -⟩ := NumberText.unsigned_append h stops_nil
      · refine ⟨c, t, rfl, isBlank_of_isDigit hc, ?_⟩
        rintro rfl
        cases hc
      · exact ⟨_, _, rfl, by decide, by decide⟩
  | text s =>
      obtain ⟨body, -, rfl⟩ := h
      exact ⟨_, _, rfl, by decide, by decide⟩

/-! ## Elements in a row -/

section Containers

variable {α : Type} {P : α → List Char → Prop} {first : Bool}

theorem stops_cons (hc : isDigit c = false) (hpoint : c ≠ '.') (hmark : isExponentMark c = false)
    (cs : List Char) : Stops (c :: cs) := by
  rintro d r ⟨⟩
  exact ⟨hc, hpoint, hmark⟩

/-- What follows an element does not continue a number. -/
theorem Listed.stops {xs : List α} (h : Listed P false xs cs) (hr : Stops r) :
    Stops (cs ++ r) := by
  cases xs with
  | nil => exact Blanks.stops h hr
  | cons x xs =>
      obtain ⟨lead, t, rest, ⟨a, b, ha, -, rfl⟩, -, -, rfl⟩ := h
      simp only [List.append_assoc, List.cons_append]
      exact ha.stops (stops_cons (by decide) (by decide) (by decide) _)

theorem moreItems_end (h : Blanks cs) (r : List Char) :
    moreItems first (cs ++ ']' :: r) = .ok (false, ']' :: r) := by
  rw [moreItems, skipBlanks_append h]
  rfl

theorem moreItems_lead {lead : List Char} (hlead : Lead first lead) (hcs : Begins cs) :
    moreItems first (lead ++ cs) = .ok (true, cs) := by
  obtain ⟨c, r, rfl, hblank, hclose⟩ := hcs
  cases first with
  | true =>
      have hlead : Blanks lead := hlead
      rw [moreItems, skipBlanks_append hlead, skipBlanks_cons hblank]
      split
      · rename_i heq
        cases heq
      · rename_i heq
        cases heq
        exact absurd rfl hclose
      · rename_i heq
        cases heq
        rfl
      · rfl
  | false =>
      obtain ⟨a, b, ha, hb, rfl⟩ := hlead
      have hrest : skipBlanks (b ++ c :: r) = c :: r := by
        rw [skipBlanks_append hb, skipBlanks_cons hblank]
      have hcomma : skipBlanks (a ++ ',' :: b ++ c :: r) = ',' :: (b ++ c :: r) := by
        rw [List.append_assoc, skipBlanks_append ha]
        rfl
      simp only [moreItems, hcomma, hrest, Bool.false_eq_true, if_false]
      split
      · rename_i heq
        cases heq
      · rename_i heq
        cases heq
        exact absurd rfl hclose
      · rfl

theorem closeObject_brace (r : List Char) : closeObject ('}' :: r) = .ok ((), r) := rfl

/-- The elements of an array are read in order. -/
theorem Listed.items {item : List Char → Scan α}
    (hbegins : ∀ x t, P x t → Begins t)
    (hitem : ∀ x t, P x t → t.length < size → Scans item t x)
    {xs : List α} (h : Listed P first xs cs) (hsize : cs.length < size) {n : Nat}
    (hn : cs.length < n) (r : List Char) :
    items item n first (cs ++ ']' :: r) = .ok (xs, ']' :: r) := by
  induction xs generalizing first cs n with
  | nil =>
      obtain ⟨n, rfl⟩ := Nat.exists_eq_add_one_of_ne_zero (Nat.ne_of_gt (Nat.zero_lt_of_lt hn))
      rw [Json.items, moreItems_end h]
      rfl
  | cons x xs ih =>
      obtain ⟨lead, t, rest, hlead, ht, hrest, rfl⟩ := h
      obtain ⟨c, t', rfl, hc⟩ := hbegins x t ht
      simp only [List.length_append, List.length_cons] at hsize hn
      obtain ⟨n, rfl⟩ := Nat.exists_eq_add_one_of_ne_zero (n := n) (by omega)
      have hmore : moreItems first (lead ++ (c :: t' ++ (rest ++ ']' :: r))) =
          .ok (true, c :: t' ++ (rest ++ ']' :: r)) := moreItems_lead hlead ⟨_, _, rfl, hc⟩
      have hstops : Stops (rest ++ ']' :: r) :=
        hrest.stops (stops_cons (by decide) (by decide) (by decide) r)
      have hread : item (c :: t' ++ (rest ++ ']' :: r)) = .ok (x, rest ++ ']' :: r) :=
        hitem x _ ht (by rw [List.length_cons]; omega) [] _ blanks_nil hstops
      have htail : Json.items item n false (rest ++ ']' :: r) = .ok (xs, ']' :: r) :=
        ih hrest (by omega) (by omega)
      rw [List.append_assoc, List.append_assoc, Json.items, hmore, Scan.andThen_ok, if_pos rfl,
        hread, Scan.andThen_ok, htail]
      rfl

/-! ## Members in a row -/

theorem colon_blanks (hpad : Blanks pad) (r : List Char) : colon (pad ++ ':' :: r) = .ok ((), r) := by
  rw [colon, skipBlanks_append hpad]
  rfl

theorem nextKey_end (h : Blanks cs) (r : List Char) :
    nextKey size first (cs ++ '}' :: r) = .ok (none, '}' :: r) := by
  rw [nextKey, skipBlanks_append h]
  rfl

theorem nextKey_lead {lead key : List Char} {k : String} (hlead : Lead first lead)
    (hkey : StringText k key) (hsize : key.length < size) (r : List Char) :
    nextKey size first (lead ++ (key ++ r)) = .ok (some k, r) := by
  obtain ⟨body, hbody, rfl⟩ := hkey
  simp only [List.length_append, List.length_cons] at hsize
  have hbody : stringBody size (body ++ '"' :: r) = .ok (k.toList, r) :=
    hbody.stringBody (by omega) r
  have hname : (stringBody size (body ++ '"' :: r)).map (fun body => some (String.ofList body)) =
      .ok (some k, r) := by
    rw [hbody]
    simp [Scan.map]
  have hkey : '"' :: body ++ ['"'] ++ r = '"' :: (body ++ '"' :: r) := by simp
  cases first with
  | true =>
      have hlead : Blanks lead := hlead
      rw [nextKey, skipBlanks_append hlead, hkey]
      exact hname
  | false =>
      obtain ⟨a, b, ha, hb, rfl⟩ := hlead
      rw [nextKey, List.append_assoc, skipBlanks_append ha, List.cons_append, hkey]
      have hquote : skipBlanks (b ++ '"' :: (body ++ '"' :: r)) = '"' :: (body ++ '"' :: r) := by
        rw [skipBlanks_append hb]
        rfl
      have hcomma : skipBlanks (',' :: (b ++ '"' :: (body ++ '"' :: r))) =
          ',' :: (b ++ '"' :: (body ++ '"' :: r)) := rfl
      simp only [hcomma, hquote, Bool.false_eq_true, if_false]
      exact hname

section Members

variable {σ : Type} {entry : String → σ → List Char → Scan σ} {s s' : σ}

/-- A member takes the state of the reader of an object on, however it is written. -/
def Takes (size : Nat) (entry : String → σ → List Char → Scan σ) (P : α → List Char → Prop)
    (e : String × α) (s s' : σ) : Prop :=
  ∀ t pad, P e.2 t → t.length < size → Blanks pad →
    Scans (fun cs => entry e.1 s (pad ++ ':' :: cs)) t s'

/-- Members take the state on, one after the other. -/
def Gathers {ε : Type} (takes : ε → σ → σ → Prop) : List ε → σ → σ → Prop
  | [], s, s' => s = s'
  | e :: es, s, s' => ∃ m, takes e s m ∧ Gathers takes es m s'

theorem gathers_append {ε : Type} {takes : ε → σ → σ → Prop} {es es' : List ε} {m : σ}
    (h : Gathers takes es s m) (h' : Gathers takes es' m s') : Gathers takes (es ++ es') s s' := by
  induction es generalizing s with
  | nil => exact h ▸ h'
  | cons e es ih =>
      obtain ⟨m', he, hes⟩ := h
      exact ⟨m', he, ih hes⟩

theorem Gathers.imp {ε : Type} {takes takes' : ε → σ → σ → Prop} {es : List ε}
    (himp : ∀ e s s', takes e s s' → takes' e s s') (h : Gathers takes es s s') :
    Gathers takes' es s s' := by
  induction es generalizing s with
  | nil => exact h
  | cons e es ih =>
      obtain ⟨m, he, hes⟩ := h
      exact ⟨m, himp e s m he, ih hes⟩

/-- Members that can change places can come in any order. -/
theorem Gathers.perm {ε : Type} {takes : ε → σ → σ → Prop} {es es' : List ε}
    (h : Gathers takes es s s') (hperm : es'.Perm es)
    (hswap : ∀ d e s m s', takes d s m → takes e m s' → ∃ m', takes e s m' ∧ takes d m' s') :
    Gathers takes es' s s' := by
  induction hperm generalizing s with
  | nil => exact h
  | cons e _ ih =>
      obtain ⟨m, he, hes⟩ := h
      exact ⟨m, he, ih hes⟩
  | swap d e es =>
      obtain ⟨m, hd, m', he, hes⟩ := h
      obtain ⟨m'', he, hd⟩ := hswap d e s m m' hd he
      exact ⟨m'', he, m', hd, hes⟩
  | trans _ _ ih ih' => exact ih (ih' h)

/-- Members that are kept are kept with the last on top. -/
theorem gathers_kept {ε : Type} {takes : ε → σ → σ → Prop} (state : List ε → σ) {es : List ε}
    (h : ∀ e ∈ es, ∀ kept, takes e (state kept) (state (e :: kept))) (kept : List ε) :
    Gathers takes es (state kept) (state (es.reverse ++ kept)) := by
  induction es generalizing kept with
  | nil => rfl
  | cons e es ih =>
      obtain ⟨he, hes⟩ := List.forall_mem_cons.1 h
      refine ⟨_, he kept, ?_⟩
      rw [List.reverse_cons, List.append_assoc, List.singleton_append]
      exact ih hes (e :: kept)

/-- After the colon, a member is read by a reader of its own. -/
theorem Takes.of_scans {P : α → List Char → Prop} {e : String × α} (read : List Char → Scan σ)
    (hentry : ∀ cs, entry e.1 s cs = (colon cs).andThen fun _ r => read r)
    (hread : ∀ t, P e.2 t → t.length < size → Scans read t s') :
    Takes size entry P e s s' := by
  intro t pad ht hsize hpad pad' r hpad' hr
  have hcolon : entry e.1 s (pad ++ ':' :: (pad' ++ (t ++ r))) = read (pad' ++ (t ++ r)) := by
    rw [hentry, colon_blanks hpad, Scan.andThen_ok]
  exact hcolon.trans (hread t ht hsize pad' r hpad' hr)

/-- The members of an object are read in order. -/
theorem Listed.entries {es : List (String × α)}
    (h : Listed (MemberText P) first es cs) (hes : Gathers (Takes size entry P) es s s')
    (hsize : cs.length < size) {n : Nat} (hn : cs.length < n) (r : List Char) :
    entries size entry n first s (cs ++ '}' :: r) = .ok (s', '}' :: r) := by
  induction es generalizing first cs n s with
  | nil =>
      obtain rfl : s = s' := hes
      obtain ⟨n, rfl⟩ := Nat.exists_eq_add_one_of_ne_zero (Nat.ne_of_gt (Nat.zero_lt_of_lt hn))
      rw [Json.entries, nextKey_end h]
      rfl
  | cons e es ih =>
      obtain ⟨lead, t, rest, hlead, hmember, hrest, rfl⟩ := h
      obtain ⟨key, pad, pad', t, hkey, hpad, hpad', ht, rfl⟩ := hmember
      obtain ⟨m, he, hes⟩ := hes
      simp only [List.length_append, List.length_cons] at hsize hn
      obtain ⟨n, rfl⟩ := Nat.exists_eq_add_one_of_ne_zero (n := n) (by omega)
      have hstops : Stops (rest ++ '}' :: r) :=
        hrest.stops (stops_cons (by decide) (by decide) (by decide) r)
      have hread : entry e.1 s (pad ++ ':' :: (pad' ++ (t ++ (rest ++ '}' :: r)))) =
          .ok (m, rest ++ '}' :: r) := he t pad ht (by omega) hpad pad' _ hpad' hstops
      have htail : Json.entries size entry n false m (rest ++ '}' :: r) = .ok (s', '}' :: r) :=
        ih hrest hes (by omega) (by omega)
      simp only [List.append_assoc, List.cons_append]
      rw [Json.entries, nextKey_lead hlead hkey (by omega), Scan.andThen_ok]
      simp only [hread, Scan.andThen_ok, htail]

end Members

end Containers

/-! ## Values -/

theorem begins_bracket (cs : List Char) : Begins ('[' :: cs) := ⟨_, _, rfl, by decide, by decide⟩

theorem begins_brace (cs : List Char) : Begins ('{' :: cs) := ⟨_, _, rfl, by decide, by decide⟩

theorem opening_bracket (cs : List Char) : opening size ('[' :: cs) = .ok (.array, cs) := rfl

theorem ValueText.begins {depth : Nat} {v : Value} (h : ValueText depth v cs) : Begins cs := by
  cases v with
  | atom a => exact AtomText.begins (valueText_atom.1 h)
  | array vs =>
      cases depth with
      | zero => exact h.elim
      | succ depth =>
          obtain ⟨body, -, rfl⟩ := h
          exact begins_bracket _
  | object es =>
      cases depth with
      | zero => exact h.elim
      | succ depth =>
          obtain ⟨body, -, rfl⟩ := h
          exact begins_brace _

theorem valueWith_atom {inside : Option (List Char → Scan Value)} {a : Atom} (h : AtomText Numeral.Finite a cs)
    (hsize : cs.length < size) : Scans (valueWith size inside) cs (.atom a) := by
  intro pad r hpad hr
  rw [valueWith, h.scans hsize pad r hpad hr]
  rfl

section Inside

variable {inside : List Char → Scan Value} {P : Value → List Char → Prop}

theorem valueWith_array {vs : List Value} (hbegins : ∀ v t, P v t → Begins t)
    (hinside : ∀ v t, P v t → t.length < size → Scans inside t v) (h : ArrayText P vs cs)
    (hsize : cs.length < size) : Scans (valueWith size (some inside)) cs (.array vs) := by
  intro pad r hpad hr
  obtain ⟨body, hbody, rfl⟩ := h
  simp only [List.length_append, List.length_cons] at hsize
  have hitems := hbody.items hbegins hinside (by omega) (n := size) (by omega) r
  rw [valueWith, opening_blanks hpad, List.append_assoc, List.cons_append, opening_bracket,
    List.singleton_append, Scan.andThen_ok]
  simp only [hitems, Scan.andThen_ok]
  rfl

/-- A member of a value is read and put on top of those that are kept. -/
def keepMember (inside : List Char → Scan Value) (key : String) (kept : List (String × Value))
    (cs : List Char) : Scan (List (String × Value)) :=
  (colon cs).andThen fun _ r => (inside r).map fun v => (key, v) :: kept

theorem valueWith_brace (r : List Char) :
    valueWith size (some inside) ('{' :: r) =
      (entries size (keepMember inside) size true [] r).andThen fun es r =>
      (closeObject r).map fun _ => .object es.reverse := rfl

theorem takes_keepMember (hinside : ∀ v t, P v t → t.length < size → Scans inside t v)
    (e : String × Value) (kept : List (String × Value)) :
    Takes size (keepMember inside) P e kept (e :: kept) :=
  Takes.of_scans (fun cs => (inside cs).map fun v => (e.1, v) :: kept) (fun _ => rfl)
    fun t ht hsize => (hinside e.2 t ht hsize).map fun v => (e.1, v) :: kept

theorem valueWith_object {es : List (String × Value)}
    (hinside : ∀ v t, P v t → t.length < size → Scans inside t v) (h : ObjectText P es cs)
    (hsize : cs.length < size) : Scans (valueWith size (some inside)) cs (.object es) := by
  intro pad r hpad hr
  obtain ⟨body, hbody, rfl⟩ := h
  simp only [List.length_append, List.length_cons] at hsize
  have hkept : Gathers (Takes size (keepMember inside) P) es [] (es.reverse ++ []) :=
    gathers_kept id (fun e _ kept => takes_keepMember hinside e kept) []
  have hentries := hbody.entries hkept (by omega) (n := size) (by omega) r
  have hopening : valueWith size (some inside) (pad ++ ('{' :: body ++ ['}'] ++ r)) =
      valueWith size (some inside) ('{' :: (body ++ '}' :: r)) := by
    rw [List.append_assoc, valueWith, opening_blanks hpad]
    rfl
  rw [hopening, valueWith_brace, hentries, Scan.andThen_ok, closeObject_brace]
  simp [Scan.map]

end Inside

/-- Every text of a value is read as this value. -/
theorem ValueText.scans {depth : Nat} {v : Value} (h : ValueText depth v cs)
    (hsize : cs.length < size) : Scans (valueAt size depth) cs v := by
  induction depth generalizing v cs with
  | zero =>
      cases v with
      | atom a => exact valueWith_atom (valueText_atom.1 h) hsize
      | array vs => exact h.elim
      | object es => exact h.elim
  | succ depth ih =>
      have hinside : ∀ v t, ValueText depth v t → t.length < size →
          Scans (valueAt size depth) t v := fun v t ht => ih ht
      cases v with
      | atom a => exact valueWith_atom (valueText_atom.1 h) hsize
      | array vs => exact valueWith_array (fun v t => ValueText.begins) hinside h hsize
      | object es => exact valueWith_object hinside h hsize

/-! ## Shapes -/

section Shapes

variable {α σ : Type} {l : Limits}

/-- The texts of an atom that a scalar type accepts are read as what it makes of the atom. -/
theorem AtomText.scans_scalar {t : Scalar α} {atom : Atom} {a : α} (h : AtomText Numeral.Finite atom cs)
    (hatom : t.ofAtom atom = .ok a) (hsize : cs.length < l.size) : Scans (scalar t l) cs a := by
  intro pad r hpad hr
  rw [scalar, h.scans hsize pad r hpad hr, Scan.andThen_ok]
  simp only [hatom, settle]

variable {expected : Expected} {read : Reader α} {other : Option (Reader α)} {depth : Nat}

theorem scans_text {s : String} (ht : ValueText depth (.ofText s) cs) (hsize : cs.length < size) :
    Scans (scalar text ⟨depth, size⟩) cs s :=
  AtomText.scans_scalar (l := ⟨depth, size⟩) (valueText_atom.1 ht) rfl hsize

theorem scans_optionalText {s : Option String} (ht : ValueText depth (Value.ofOption .ofText s) cs)
    (hsize : cs.length < size) : Scans (scalar optionalText ⟨depth, size⟩) cs s := by
  cases s with
  | none => exact AtomText.scans_scalar (l := ⟨depth, size⟩) (valueText_atom.1 ht) rfl hsize
  | some s => exact AtomText.scans_scalar (l := ⟨depth, size⟩) (valueText_atom.1 ht) rfl hsize

theorem scans_natural64 {n : UInt64} (ht : ValueText depth (.ofNatural n) cs)
    (hsize : cs.length < size) : Scans (scalar natural64 ⟨depth, size⟩) cs n :=
  AtomText.scans_scalar (l := ⟨depth, size⟩) (valueText_atom.1 ht) rfl hsize

theorem container_array (hpad : Blanks pad) (r : List Char) :
    container expected (some read) other ⟨depth + 1, size⟩ (pad ++ '[' :: r) =
      read ⟨depth, size⟩ r := by
  rw [container, opening_blanks hpad]
  rfl

theorem container_object (hpad : Blanks pad) (r : List Char) :
    container expected other (some read) ⟨depth + 1, size⟩ (pad ++ '{' :: r) =
      read ⟨depth, size⟩ r := by
  rw [container, opening_blanks hpad]
  rfl

theorem ArrayText.scans_list {item : Reader α} {P : α → List Char → Prop} {as : List α}
    (h : ArrayText P as cs) (hbegins : ∀ a t, P a t → Begins t)
    (hitem : ∀ a t, P a t → t.length < size → Scans (item ⟨depth, size⟩) t a)
    (hsize : cs.length < size) : Scans (list item ⟨depth + 1, size⟩) cs as := by
  intro pad r hpad hr
  obtain ⟨body, hbody, rfl⟩ := h
  simp only [List.length_append, List.length_cons] at hsize
  have hitems := hbody.items hbegins hitem (by omega) (n := size) (by omega) r
  rw [list, List.append_assoc, List.cons_append, container_array hpad, List.singleton_append]
  simp only [hitems, Scan.andThen_ok]
  rfl

/-- A record is read from an object whose members give its fields. -/
theorem ObjectText.scans_record {β : Type} {t : Record σ β} {P : α → List Char → Prop}
    {es : List (String × α)} {s : σ} {b : β} (h : ObjectText P es cs)
    (hes : Gathers (Takes size (Record.entry t.fields ⟨depth, size⟩) P) es t.empty s)
    (hmake : t.make s = .ok b) (hsize : cs.length < size) :
    Scans (t.read ⟨depth + 1, size⟩) cs b := by
  intro pad r hpad hr
  obtain ⟨body, hbody, rfl⟩ := h
  simp only [List.length_append, List.length_cons] at hsize
  have hentries := hbody.entries hes (by omega) (n := size) (by omega) r
  rw [Record.read, List.append_assoc, List.cons_append, container_object hpad,
    List.singleton_append]
  simp only [hentries, Scan.andThen_ok, Record.finish, hmake]
  rfl

/-- A member that has not been read yet is read by the field of its name. -/
theorem Takes.of_field {fields : List (Field σ)} {f : Field σ} {P : α → List Char → Prop}
    {e : String × α} {s s' : σ} (hf : fields.find? (·.name == e.1) = some f)
    (hgiven : f.given s = false)
    (hread : ∀ t, P e.2 t → t.length < size → Scans (f.read s ⟨depth, size⟩) t s') :
    Takes size (Record.entry fields ⟨depth, size⟩) P e s s' := by
  refine Takes.of_scans (f.read s ⟨depth, size⟩) (fun cs => ?_) hread
  rw [Record.entry, hf]
  exact if_neg (by simp [hgiven])

/-! Written as an array, a record has the values of its leading fields in order. -/

section Positional

variable {P : α → List Char → Prop}

/-- Values that fill the leading fields; those left out are optional. -/
def Fills (P : α → List Char → Prop) (l : Limits) :
    List (Field σ) → List α → σ → σ → Prop
  | fs, [], s, s' => s = s' ∧ ∀ f ∈ fs, f.optional = true
  | [], _ :: _, _, _ => False
  | f :: fs, x :: xs, s, s' =>
      ∃ m, (∀ t, P x t → t.length < l.size → Scans (f.read s l) t m) ∧ Fills P l fs xs m s'

theorem positional_optional {tooShort : Nat → Mismatch} {fields : List (Field σ)}
    (h : ∀ f ∈ fields, f.optional = true) (i : Nat) (s : σ) {pad : List Char} (hpad : Blanks pad)
    (r : List Char) (hfields : fields ≠ []) :
    Record.positional tooShort l i fields s (pad ++ ']' :: r) = .ok (s, ']' :: r) := by
  induction fields generalizing i pad with
  | nil => exact absurd rfl hfields
  | cons f fs ih =>
      obtain ⟨hf, hfs⟩ := List.forall_mem_cons.1 h
      rw [Record.positional, moreItems_end hpad, Scan.andThen_ok, if_neg nofun, if_pos hf]
      cases fs with
      | nil => rfl
      | cons g fs => exact ih hfs (i + 1) blanks_nil nofun

theorem Listed.positional (tooShort : Nat → Mismatch) (hbegins : ∀ x t, P x t → Begins t)
    {fields : List (Field σ)} {xs : List α} {s s' : σ} {i : Nat}
    (h : Listed P (i == 0) xs cs) (hfill : Fills P l fields xs s s') (hsize : cs.length < l.size)
    (r : List Char) : ∃ pad, Blanks pad ∧
      Record.positional tooShort l i fields s (cs ++ ']' :: r) = .ok (s', pad ++ ']' :: r) := by
  -- after the last value the bracket is met once for each field that is left
  induction xs generalizing fields s i cs with
  | nil =>
      obtain ⟨rfl, hoptional⟩ : s = s' ∧ ∀ f ∈ fields, f.optional = true := by
        cases fields <;> exact hfill
      cases fields with
      | nil => exact ⟨cs, h, rfl⟩
      | cons f fs => exact ⟨[], blanks_nil, positional_optional hoptional i s h r nofun⟩
  | cons x xs ih =>
      cases fields with
      | nil => exact hfill.elim
      | cons f fs =>
          obtain ⟨lead, t, rest, hlead, ht, hrest, rfl⟩ := h
          obtain ⟨m, hread, hfill⟩ := hfill
          obtain ⟨c, t', rfl, hc⟩ := hbegins x t ht
          simp only [List.length_append, List.length_cons] at hsize
          have hstops : Stops (rest ++ ']' :: r) :=
            hrest.stops (stops_cons (by decide) (by decide) (by decide) r)
          have hmore : moreItems (i == 0) (lead ++ (c :: t' ++ (rest ++ ']' :: r))) =
              .ok (true, c :: t' ++ (rest ++ ']' :: r)) := moreItems_lead hlead ⟨_, _, rfl, hc⟩
          have hfield : f.read s l (c :: t' ++ (rest ++ ']' :: r)) = .ok (m, rest ++ ']' :: r) :=
            hread _ ht (by rw [List.length_cons]; omega) [] _ blanks_nil hstops
          obtain ⟨pad, hpad, htail⟩ := ih (i := i + 1) hrest hfill (by omega)
          refine ⟨pad, hpad, ?_⟩
          rw [List.append_assoc, List.append_assoc, Record.positional, hmore, Scan.andThen_ok,
            if_pos rfl, hfield, Scan.andThen_ok, htail]

/-- A record is read from an array of its leading fields. -/
theorem ArrayText.scans_record {β : Type} {t : Record σ β} {xs : List α} {s : σ} {b : β}
    (h : ArrayText P xs cs) (hbegins : ∀ x t, P x t → Begins t)
    (hfill : Fills P ⟨depth, size⟩ t.fields xs t.empty s) (hmake : t.make s = .ok b)
    (hsize : cs.length < size) : Scans (t.read ⟨depth + 1, size⟩) cs b := by
  intro pad r hpad hr
  obtain ⟨body, hbody, rfl⟩ := h
  simp only [List.length_append, List.length_cons] at hsize
  obtain ⟨pad', hpad', hread⟩ :=
    hbody.positional (fun i => .invalidLength i (.recordOf t.name t.fields.length)) (i := 0)
      hbegins hfill (by simp only; omega) r
  have hclose : closeArray (pad' ++ ']' :: r) = .ok ((), r) := by
    rw [closeArray, skipBlanks_append hpad']
    rfl
  rw [Record.read, List.append_assoc, List.cons_append, container_array hpad,
    List.singleton_append]
  simp only [hread, Scan.andThen_ok, Record.finish, hmake]
  simp only [Except.mapError, settle, Scan.andThen_ok, hclose, Scan.map]

end Positional

section Tagged

variable {tag name : String} {kinds : Scalar α}

/-- A member of a tagged record is its tag, or it is put on top of those that are kept. -/
def taggedMember (tag : String) (kinds : Scalar α) (l : Limits) (key : String)
    (s : Option α × List (String × Value)) (cs : List Char) :
    Scan (Option α × List (String × Value)) :=
  if key = tag then
    if s.1.isSome then .error (.mismatched (.duplicateField tag))
    else (colon cs).andThen fun _ r => (scalar kinds l r).map fun kind => (some kind, s.2)
  else (colon cs).andThen fun _ r => (value l r).map fun v => (s.1, (key, v) :: s.2)

theorem tagged_brace (hpad : Blanks pad) (r : List Char) :
    tagged name tag kinds ⟨depth + 1, size⟩ (pad ++ '{' :: r) =
      (entries size (taggedMember tag kinds ⟨depth, size⟩) size true (none, []) r).andThen fun s r =>
      match s.1 with
      | none => .error (.mismatched (.missingField tag))
      | some kind => (closeObject r).map fun _ => (kind, .entries s.2.reverse) := by
  rw [tagged, container_object hpad]
  rfl

theorem takes_tag {k : α} {a : Atom} (hk : kinds.ofAtom a = .ok k)
    (kept : List (String × Value)) :
    Takes size (taggedMember tag kinds ⟨depth, size⟩) (ValueText depth) (tag, .atom a)
      (none, kept) (some k, kept) :=
  Takes.of_scans (fun cs => (scalar kinds ⟨depth, size⟩ cs).map fun kind => (some kind, kept))
    (fun _ => if_pos rfl) fun _ ht hsize =>
      ((valueText_atom.1 ht).scans_scalar hk hsize).map fun kind => (some kind, kept)

theorem takes_untagged {e : String × Value} (he : e.1 ≠ tag) (k : Option α)
    (kept : List (String × Value)) :
    Takes size (taggedMember tag kinds ⟨depth, size⟩) (ValueText depth) e
      (k, kept) (k, e :: kept) :=
  Takes.of_scans (fun cs => (valueAt size depth cs).map fun v => (k, (e.1, v) :: kept))
    (fun _ => if_neg he) fun _ ht hsize =>
      (ht.scans hsize).map fun v => (k, (e.1, v) :: kept)

/-- A tagged record is read from an object with one tag anywhere among its members, and the
other members are kept in order. -/
theorem ObjectText.scans_tagged {k : α} {a : Atom} {before after : List (String × Value)}
    (h : ObjectText (ValueText depth) (before ++ (tag, .atom a) :: after) cs)
    (hk : kinds.ofAtom a = .ok k) (hbefore : ∀ e ∈ before, e.1 ≠ tag)
    (hafter : ∀ e ∈ after, e.1 ≠ tag) (hsize : cs.length < size) :
    Scans (tagged name tag kinds ⟨depth + 1, size⟩) cs (k, .entries (before ++ after)) := by
  intro pad r hpad hr
  obtain ⟨body, hbody, rfl⟩ := h
  simp only [List.length_append, List.length_cons] at hsize
  have hmembers : Gathers (Takes size (taggedMember tag kinds ⟨depth, size⟩) (ValueText depth))
      (before ++ (tag, .atom a) :: after) (none, [])
      (some k, after.reverse ++ (before.reverse ++ [])) :=
    gathers_append
      (gathers_kept (none, ·) (fun e he kept => takes_untagged (hbefore e he) none kept) [])
      ⟨_, takes_tag hk _,
        gathers_kept (some k, ·) (fun e he kept => takes_untagged (hafter e he) (some k) kept) _⟩
  have hentries := hbody.entries hmembers (by omega) (n := size) (by omega) r
  rw [List.append_assoc, List.cons_append, tagged_brace hpad, List.singleton_append, hentries,
    Scan.andThen_ok]
  simp [Scan.map, closeObject_brace]

end Tagged

end Shapes

/-! ## Slots -/

namespace Slot

variable {σ : Type} {slots : List (Slot σ)}

/-- Whether an entry fills one of some slots. -/
def known (slots : List (Slot σ)) (e : String × Value) : Bool :=
  (slots.find? (·.name == e.1)).isSome

theorem known_iff {e : String × Value} : known slots e = true ↔ e.1 ∈ slots.map Slot.name := by
  simp [known]

/-- Entries that fill no slot do not matter. -/
theorem fillEntries_filter (s : σ) (es : List (String × Value)) :
    fillEntries slots s (es.filter (known slots)) = fillEntries slots s es := by
  induction es generalizing s with
  | nil => rfl
  | cons e es ih =>
      obtain ⟨k, v⟩ := e
      cases hslot : slots.find? (·.name == k) with
      | none =>
          have hunknown : ¬ known slots (k, v) = true := by simp [known, hslot]
          rw [List.filter_cons_of_neg hunknown, ih, fillEntries, hslot]
      | some slot =>
          have hknown : known slots (k, v) = true := by simp [known, hslot]
          rw [List.filter_cons_of_pos hknown, fillEntries, fillEntries, hslot]
          simp only [ih]

end Slot

/-! ## Whole texts -/

/-- Reading all of a text finds what is read of the value that it writes. -/
theorem DocumentText.readAll_eq_ok {α : Type} {read : Reader α} {a : α} {v : Value} {s : String}
    (hs : DocumentText v s.toList)
    (h : ∀ cs size, ValueText nestingLimit v cs → cs.length < size →
      Scans (read ⟨nestingLimit, size⟩) cs a) : readAll read s = .ok a := by
  obtain ⟨pad, body, pad', hpad, hbody, hpad', hs⟩ := hs
  have hstops : Stops pad' := List.append_nil pad' ▸ hpad'.stops stops_nil
  have hsize : body.length < s.toList.length + 1 := by
    simp only [hs, List.length_append]
    omega
  have hread := h body _ hbody hsize pad pad' hpad hstops
  rw [← hs] at hread
  simp only [readAll, hread, skipBlanks_blanks hpad']
  rfl

end DetailPanel.Json
