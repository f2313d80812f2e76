import DetailPanel.Proofs.Json.Writing

/-!
# What readers find

Whatever text a reader accepts, what it finds there has some shape.  Each combinator of
readers has one lemma that carries such a property from its parts, and the values that
are found are no deeper than the reader may go.

    s.Finds P                          : if s reads anything, P holds of it
    Within depth v                     : at most `depth` containers inside one another
    (valueAt size depth cs).Finds (Within depth)                      (finds_valueAt)
    I of the fields read so far → I of the fields of a record     (Record.finds_read)
-/

namespace DetailPanel.Json

/-- At most `depth` containers stand inside one another. -/
def Within : (depth : Nat) → Value → Prop
  | _, .atom _ => True
  | 0, .array _ | 0, .object _ => False
  | depth + 1, .array vs => ∀ v ∈ vs, Within depth v
  | depth + 1, .object es => ∀ e ∈ es, Within depth e.2

theorem within_atom {depth : Nat} (a : Atom) : Within depth (.atom a) := by
  cases depth <;> trivial

/-- An atom stands somewhere in a value. -/
inductive Holds (a : Atom) : Value → Prop
  | here : Holds a (.atom a)
  | item {vs : List Value} {v : Value} (hv : v ∈ vs) (h : Holds a v) : Holds a (.array vs)
  | entry {es : List (String × Value)} {e : String × Value} (he : e ∈ es) (h : Holds a e.2) :
      Holds a (.object es)

theorem whole_iff {depth : Nat} {v : Value} :
    Whole depth v ↔ Within depth v ∧ ∀ bits, ¬ Holds (.number (.double bits)) v := by
  constructor
  · intro h
    induction depth generalizing v with
    | zero =>
        cases v with
        | atom a =>
            refine ⟨trivial, fun bits hv => ?_⟩
            cases hv
            exact whole_atom.1 h bits rfl
        | array vs => exact h.elim
        | object es => exact h.elim
    | succ depth ih =>
        cases v with
        | atom a =>
            refine ⟨trivial, fun bits hv => ?_⟩
            cases hv
            exact whole_atom.1 h bits rfl
        | array vs =>
            refine ⟨fun v hmem => (ih (h v hmem)).1, fun bits hv => ?_⟩
            cases hv with
            | item hmem hin => exact (ih (h _ hmem)).2 bits hin
        | object es =>
            refine ⟨fun e hmem => (ih (h e hmem)).1, fun bits hv => ?_⟩
            cases hv with
            | entry hmem hin => exact (ih (h _ hmem)).2 bits hin
  · rintro ⟨h, hv⟩
    induction depth generalizing v with
    | zero =>
        cases v with
        | atom a => exact whole_atom.2 fun bits ha => hv bits (ha ▸ .here)
        | array vs => exact h.elim
        | object es => exact h.elim
    | succ depth ih =>
        cases v with
        | atom a => exact whole_atom.2 fun bits ha => hv bits (ha ▸ .here)
        | array vs =>
            intro v hmem
            exact ih (h v hmem) fun bits hin => hv bits (.item hmem hin)
        | object es =>
            intro e hmem
            exact ih (h e hmem) fun bits hin => hv bits (.entry hmem hin)

/-! ## Scans -/

section Scans

variable {α β : Type} {P : α → Prop} {Q : β → Prop} {s : Scan α}

/-- What a scan finds, if it finds anything, has a property. -/
def Scan.Finds (s : Scan α) (P : α → Prop) : Prop := ∀ a r, s = .ok (a, r) → P a

theorem finds_ok {a : α} (h : P a) (r : List Char) : Scan.Finds (.ok (a, r)) P := by
  rintro _ _ ⟨⟩
  exact h

theorem finds_error (e : Failure) : Scan.Finds (.error e) P := nofun

theorem Scan.Finds.andThen {f : α → List Char → Scan β} (h : s.Finds P)
    (hf : ∀ a r, P a → (f a r).Finds Q) : (s.andThen f).Finds Q := by
  cases s with
  | error e => exact finds_error e
  | ok found =>
      obtain ⟨a, r⟩ := found
      exact hf a r (h a r rfl)

/-- Nothing need be known of what was read before. -/
theorem finds_andThen {f : α → List Char → Scan β} (hf : ∀ a r, (f a r).Finds Q) :
    (s.andThen f).Finds Q :=
  Scan.Finds.andThen (P := fun _ => True) (fun _ _ _ => trivial) fun a r _ => hf a r

theorem Scan.Finds.map {f : α → β} (h : s.Finds P) (hf : ∀ a, P a → Q (f a)) :
    (s.map f).Finds Q :=
  h.andThen fun a r ha => finds_ok (hf a ha) r

theorem finds_map {f : α → β} (hf : ∀ a, Q (f a)) : (s.map f).Finds Q :=
  finds_andThen fun a r => finds_ok (hf a) r

theorem finds_settle {result : Except Mismatch α} (h : ∀ a, result = .ok a → P a)
    (r : List Char) : (settle result r).Finds P := by
  cases result with
  | error m => exact finds_error _
  | ok a => exact finds_ok (h a rfl) r

end Scans

/-! ## Containers -/

section Containers

variable {α σ : Type} {P : α → Prop} {I : σ → Prop} {size : Nat}

theorem finds_items {item : List Char → Scan α} (hitem : ∀ cs, (item cs).Finds P)
    (n : Nat) (first : Bool) (cs : List Char) :
    (items item n first cs).Finds fun as => ∀ a ∈ as, P a := by
  induction n generalizing first cs with
  | zero => exact finds_error _
  | succ n ih =>
      refine finds_andThen fun more r => ?_
      cases more with
      | false => exact finds_ok nofun r
      | true =>
          refine (hitem r).andThen fun a r ha => (ih false r).map fun as has => ?_
          exact List.forall_mem_cons.2 ⟨ha, has⟩

/-- What every member preserves holds after all of them. -/
theorem finds_entries {entry : String → σ → List Char → Scan σ}
    (hentry : ∀ key s cs, I s → (entry key s cs).Finds I) (n : Nat) (first : Bool) {s : σ}
    (hs : I s) (cs : List Char) : (entries size entry n first s cs).Finds I := by
  induction n generalizing first s cs with
  | zero => exact finds_error _
  | succ n ih =>
      refine finds_andThen fun key r => ?_
      cases key with
      | none => exact finds_ok hs r
      | some key => exact (hentry key s r hs).andThen fun s r hs => ih false hs r

theorem finds_container {expected : Expected} {array object : Option (Reader α)} {l : Limits}
    (harray : ∀ read ∈ array, ∀ depth cs, l.depth = depth + 1 →
      (read ⟨depth, l.size⟩ cs).Finds P)
    (hobject : ∀ read ∈ object, ∀ depth cs, l.depth = depth + 1 →
      (read ⟨depth, l.size⟩ cs).Finds P) (cs : List Char) :
    (container expected array object l cs).Finds P := by
  obtain ⟨depth, size⟩ := l
  refine finds_andThen fun opened r => ?_
  cases opened with
  | atom a => exact finds_error _
  | array =>
      cases array with
      | none => exact finds_error _
      | some read =>
          cases depth with
          | zero => exact finds_error _
          | succ depth => exact harray read rfl depth r rfl
  | object =>
      cases object with
      | none => exact finds_error _
      | some read =>
          cases depth with
          | zero => exact finds_error _
          | succ depth => exact hobject read rfl depth r rfl

end Containers

/-! ## Values -/

theorem finds_valueWith {size depth : Nat} {inside : List Char → Scan Value}
    (hinside : ∀ cs, (inside cs).Finds (Within depth)) (cs : List Char) :
    (valueWith size (some inside) cs).Finds (Within (depth + 1)) := by
  refine finds_andThen fun opened r => ?_
  cases opened with
  | atom a => exact finds_ok (within_atom a) r
  | array =>
      refine (finds_items hinside size true r).andThen fun vs r hvs => ?_
      exact finds_map fun _ => hvs
  | object =>
      have hkept : ∀ key (es : List (String × Value)) cs, (∀ e ∈ es, Within depth e.2) →
          ((colon cs).andThen fun _ r => (inside r).map fun v => (key, v) :: es).Finds
            fun es => ∀ e ∈ es, Within depth e.2 := by
        intro key es cs hes
        refine finds_andThen fun _ r => (hinside r).map fun v hv => ?_
        exact List.forall_mem_cons.2 ⟨hv, hes⟩
      have hnone : ∀ e ∈ ([] : List (String × Value)), Within depth e.2 := by
        intro e he
        cases he
      refine (finds_entries hkept size true hnone r).andThen fun es r hes => ?_
      exact finds_map fun _ e he => hes e (List.mem_reverse.1 he)

/-- What is read as a value is as deep as the reader may go at most. -/
theorem finds_valueAt (size depth : Nat) (cs : List Char) :
    (valueAt size depth cs).Finds (Within depth) := by
  induction depth generalizing cs with
  | zero =>
      refine finds_andThen fun opened r => ?_
      cases opened with
      | atom a => exact finds_ok trivial r
      | array => exact finds_error _
      | object => exact finds_error _
  | succ depth ih => exact finds_valueWith ih cs

/-! ## Records -/

namespace Record

variable {α σ : Type} {I : σ → Prop} {l : Limits}

/-- Fields that preserve what is known of those read before. -/
def Keeps (fields : List (Field σ)) (l : Limits) (I : σ → Prop) : Prop :=
  ∀ f ∈ fields, ∀ s cs, I s → (f.read s l cs).Finds I

theorem finds_entry {fields : List (Field σ)} (h : Keeps fields l I) (key : String) {s : σ}
    (hs : I s) (cs : List Char) : (entry fields l key s cs).Finds I := by
  unfold entry
  split
  · exact finds_andThen fun _ r => finds_map fun _ => hs
  · rename_i f hf
    split
    · exact finds_error _
    · exact finds_andThen fun _ r => h f (List.mem_of_find?_eq_some hf) s r hs

theorem finds_positional {tooShort : Nat → Mismatch} {fields : List (Field σ)}
    (h : Keeps fields l I) (i : Nat) {s : σ} (hs : I s) (cs : List Char) :
    (positional tooShort l i fields s cs).Finds I := by
  induction fields generalizing i s cs with
  | nil => exact finds_ok hs cs
  | cons f fs ih =>
      have hrest : Keeps fs l I := fun g hg => h g (List.mem_cons_of_mem _ hg)
      refine finds_andThen fun more r => ?_
      cases more with
      | true =>
          exact (h f (List.mem_cons_self ..) s r hs).andThen fun s r hs =>
            ih hrest (i + 1) hs r
      | false =>
          simp only [Bool.false_eq_true, if_false]
          split
          · exact ih hrest (i + 1) hs r
          · exact finds_error _

/-- A record is made of fields for which holds what each of them preserves. -/
theorem finds_read {t : Record σ α} (hempty : I t.empty)
    (h : ∀ depth, l.depth = depth + 1 → Keeps t.fields ⟨depth, l.size⟩ I) (cs : List Char) :
    (t.read l cs).Finds fun a => ∃ s, I s ∧ t.make s = .ok a := by
  have hfinish : ∀ s, I s → ∀ r, (t.finish s r).Finds fun a => ∃ s, I s ∧ t.make s = .ok a := by
    intro s hs r
    refine finds_settle (fun a ha => ⟨s, hs, ?_⟩) r
    cases hmake : t.make s with
    | ok b =>
        rw [hmake] at ha
        cases ha
        rfl
    | error name =>
        rw [hmake] at ha
        cases ha
  refine finds_container ?_ ?_ cs
  · rintro _ ⟨⟩ depth r hl
    refine (finds_positional (h depth hl) 0 hempty r).andThen fun s r hs => ?_
    exact (hfinish s hs r).andThen fun a r ha => finds_map fun _ => ha
  · rintro _ ⟨⟩ depth r hl
    refine (finds_entries (fun key s cs hs => finds_entry (h depth hl) key hs cs) l.size true
      hempty r).andThen fun s r hs => ?_
    exact (hfinish s hs r).andThen fun a r ha => finds_map fun _ => ha

end Record

/-- What is read of a whole text has the property of what its reader finds. -/
theorem readAll_finds {α : Type} {read : Reader α} {P : α → Prop} {s : String} {a : α}
    (h : readAll read s = .ok a) (hread : ∀ size cs, (read ⟨nestingLimit, size⟩ cs).Finds P) :
    P a := by
  simp only [readAll] at h
  split at h
  · cases h
  · rename_i b r heq
    split at h
    · cases h
      exact hread _ _ a r heq
    · cases h

end DetailPanel.Json
