import Mathlib.Data.List.Permutation
import DetailPanel.Proofs.Json.Range
import DetailPanel.Proofs.Json.Reading
import DetailPanel.Proofs.Json.Writing
import DetailPanel.Scenario.Reader

/-!
# Reading scenarios

A scenario can be written in many ways: the members of an object come in any order, the
fields that have a default may be left out, members of other names may be added, and
strings may be spelled with any escapes.  All of these texts are read as the scenario,
unless a number is added that is out of the range of doubles.

    sc.WrittenAs v → DocumentText v s.toList → ofJson s = .ok sc      (ofJson_text)
    ofJson sc.toJson.compact = .ok sc                                 (ofJson_compact)
-/

namespace DetailPanel

open Json

/-! ## The members of a step -/

namespace Step

variable {s : Step} {es given : List (String × Value)}

theorem kinds_label (k : Kind) : kinds.ofAtom (.text k.label) = .ok k := by
  cases k <;> rfl

/-- The slots of a kind are named like the fields of its steps. -/
theorem names_slots (s : Step) : s.kind.slots.map Slot.name = s.fields.map Prod.fst := by
  cases s <;> rfl

theorem op_not_mem_fields (s : Step) : "op" ∉ s.fields.map Prod.fst := by
  cases s <;> simp [fields]

/-- What is taken for granted where a field is left out. -/
def defaults : List (String × Value) := [("searching", .ofBool false), ("title", .atom .null)]

/-- Members of a step in order: all its fields, apart from some that have their defaults. -/
def Gives (s : Step) (given : List (String × Value)) : Prop :=
  given.Sublist s.fields ∧ ∀ e ∈ s.fields, e ∈ given ∨ e ∈ defaults

/-- All members of an object that writes a step: its tag, its fields apart from some that have
their defaults, and members of other names, in any order. -/
def Members (s : Step) (es : List (String × Value)) : Prop :=
  ∃ given extra, s.Gives given ∧ (∀ e ∈ extra, e.1 ≠ "op" ∧ e.1 ∉ s.fields.map Prod.fst) ∧
    es.Perm (("op", .ofText s.label) :: (given ++ extra))

/-- The values that write a step. -/
def WrittenAs (s : Step) (v : Value) : Prop := ∃ es, v = .object es ∧ s.Members es

theorem Gives.mem {a : String × Value} (h : s.Gives given) (hs : a ∈ s.fields)
    (ha : a ∉ defaults) : a ∈ given := (h.2 a hs).resolve_right ha

theorem Gives.single {a : String × Value} (h : s.Gives given) (hs : s.fields = [a])
    (ha : a ∉ defaults) : given = [a] := by
  have hgiven : a ∈ given := h.mem (by simp [hs]) ha
  have hsub := h.1
  rw [hs, List.sublist_singleton] at hsub
  rcases hsub with rfl | rfl
  · cases hgiven
  · rfl

/-- Of two fields the first is given, and the second unless it has its default. -/
theorem Gives.pair {a b : String × Value} (h : s.Gives given) (hs : s.fields = [a, b])
    (ha : a ∉ defaults) (hab : a ≠ b) : given = [a, b] ∨ given = [a] ∧ b ∈ defaults := by
  have hgiven : a ∈ given := h.mem (by simp [hs]) ha
  have hother : b ∈ given ∨ b ∈ defaults := h.2 b (by simp [hs])
  have hsub := h.1
  rw [hs] at hsub
  cases hsub with
  | cons _ hsub =>
      rcases List.sublist_singleton.1 hsub with rfl | rfl
      · cases hgiven
      · exact absurd (List.mem_singleton.1 hgiven) hab
  | cons_cons _ hsub =>
      rcases List.sublist_singleton.1 hsub with rfl | rfl
      · exact .inr ⟨rfl, hother.resolve_left fun hb => hab (List.mem_singleton.1 hb).symm⟩
      · exact .inl rfl

/-- The fields of a step may come in any order. -/
theorem ofBody_given (h : s.Gives given) (hes : es.Perm given) :
    ofBody s.kind (.entries es) = .ok s := by
  cases s with
  | addResult name searching =>
      obtain rfl | ⟨rfl, hdefault⟩ := h.pair rfl (by simp [defaults]) (by simp)
      · rcases List.perm_pair.1 hes with rfl | rfl <;> rfl
      · obtain rfl := List.perm_singleton.1 hes
        obtain rfl : searching = false := by simpa [defaults, Value.ofBool] using hdefault
        rfl
  | selectMetacard id title =>
      obtain rfl | ⟨rfl, hdefault⟩ := h.pair rfl (by simp [defaults]) (by simp)
      · rcases List.perm_pair.1 hes with rfl | rfl <;> cases title <;> rfl
      · obtain rfl := List.perm_singleton.1 hes
        obtain rfl : title = none := by
          cases title with
          | none => rfl
          | some t => simp [defaults, Value.ofOption, Value.ofText] at hdefault
        rfl
  | advance ms =>
      obtain rfl := h.single rfl (by simp [defaults])
      obtain rfl := List.perm_singleton.1 hes
      rfl
  | clearResult | clearMetacard | render =>
      obtain rfl := List.sublist_nil.1 h.1
      obtain rfl := List.perm_nil.1 hes
      rfl
  | selectResult name | beginFetch name | completeFetch name | failFetch name =>
      obtain rfl := h.single rfl (by simp [defaults])
      obtain rfl := List.perm_singleton.1 hes
      rfl

/-- Members of other names are passed over. -/
theorem ofBody_members {extra : List (String × Value)} (h : s.Gives given)
    (hextra : ∀ e ∈ extra, e.1 ∉ s.fields.map Prod.fst) (hes : es.Perm (given ++ extra)) :
    ofBody s.kind (.entries es) = .ok s := by
  have hknown : ∀ e : String × Value,
      Slot.known s.kind.slots e = true ↔ e.1 ∈ s.fields.map Prod.fst := fun e => by
    rw [Slot.known_iff, names_slots]
  have hgiven : given.filter (Slot.known s.kind.slots) = given :=
    List.filter_eq_self.2 fun e he =>
      (hknown e).2 (List.mem_map_of_mem (h.1.subset he))
  have hnone : extra.filter (Slot.known s.kind.slots) = [] :=
    List.filter_eq_nil_iff.2 fun e he hk => hextra e he ((hknown e).1 hk)
  have hfilter : (es.filter (Slot.known s.kind.slots)).Perm given := by
    have hperm := hes.filter (Slot.known s.kind.slots)
    rwa [List.filter_append, hgiven, hnone, List.append_nil] at hperm
  have hread := ofBody_given h hfilter
  rwa [ofBody, Slot.fillBody, Slot.fillEntries_filter] at hread

/-! ## Steps -/

theorem Members.split (h : s.Members es) : ∃ before after,
    es = before ++ ("op", .atom (.text s.label)) :: after ∧
      (∀ e ∈ before ++ after, e.1 ≠ "op") ∧
      ofBody s.kind (.entries (before ++ after)) = .ok s := by
  obtain ⟨given, extra, hgiven, hextra, hperm⟩ := h
  have hop : ("op", Value.ofText s.label) ∈ es := hperm.mem_iff.2 (List.mem_cons_self ..)
  obtain ⟨before, after, rfl⟩ := List.append_of_mem hop
  have hrest : (before ++ after).Perm (given ++ extra) :=
    (List.perm_middle.symm.trans hperm).cons_inv
  refine ⟨before, after, rfl, fun e he => ?_, ?_⟩
  · rcases List.mem_append.1 (hrest.mem_iff.1 he) with hmem | hmem
    · rintro hop
      exact op_not_mem_fields s (hop ▸ List.mem_map_of_mem (hgiven.1.subset hmem))
    · exact (hextra e hmem).1
  · exact ofBody_members hgiven (fun e he => (hextra e he).2) hrest

/-- A step is read from every text of a value that writes it. -/
theorem WrittenAs.scans {v : Value} {depth size : Nat} {cs : List Char} (h : s.WrittenAs v)
    (hcs : ValueText depth v cs) (hsize : cs.length < size) :
    Scans (Step.read ⟨depth, size⟩) cs s := by
  obtain ⟨es, rfl, hes⟩ := h
  obtain ⟨before, after, rfl, hop, hbody⟩ := hes.split
  cases depth with
  | zero => exact hcs.elim
  | succ depth =>
      have hscan : Scans (tagged "Step" "op" kinds ⟨depth + 1, size⟩) cs
          (s.kind, .entries (before ++ after)) :=
        ObjectText.scans_tagged hcs (kinds_label s.kind)
          (fun e he => hop e (List.mem_append_left _ he))
          (fun e he => hop e (List.mem_append_right _ he)) hsize
      intro pad r hpad hr
      rw [Step.read, hscan pad r hpad hr, Scan.andThen_ok, hbody, settle]

theorem writtenAs_toJson (s : Step) : s.WrittenAs s.toJson :=
  ⟨_, rfl, s.fields, [], ⟨List.Sublist.refl _, fun _ he => .inl he⟩, nofun,
    by rw [List.append_nil]⟩

theorem whole_toJson (s : Step) (depth : Nat) : Whole (depth + 1) s.toJson := by
  refine List.forall_mem_cons.2 ⟨whole_atom.2 nofun, ?_⟩
  cases s with
  | addResult | selectResult | clearResult | clearMetacard | beginFetch | completeFetch | failFetch
  | advance | render =>
      simp [fields, Value.ofText, Value.ofBool, Value.ofNatural, whole_atom]
  | selectMetacard id title =>
      cases title <;> simp [fields, Value.ofText, Value.ofOption, Value.null, whole_atom]

end Step

/-! ## Scenarios -/

namespace Scenario

variable {sc : Scenario} {depth size : Nat}

/-- The values that write a scenario: its steps and its name in any order.  A missing name is
left out or null. -/
def WrittenAs (sc : Scenario) (v : Value) : Prop :=
  ∃ es steps, v = .object es ∧ List.Forall₂ Step.WrittenAs sc.steps steps ∧
    (es.Perm [("name", Value.ofOption .ofText sc.name), ("steps", .array steps)] ∨
      sc.name = none ∧ es = [("steps", .array steps)])

/-- One member takes a draft on. -/
abbrev DraftTakes (depth size : Nat) (e : String × Value) (d d' : Draft) : Prop :=
  Takes size (Record.entry record.fields ⟨depth, size⟩) (ValueText depth) e d d'

theorem takes_name {d : Draft} (hd : d.name = none) (name : Option String) :
    DraftTakes depth size ("name", Value.ofOption .ofText name) d
      { d with name := some name } :=
  Takes.of_field (by rfl) (by simp [hd]) fun t ht hsize =>
    (scans_optionalText ht hsize).map fun n => { d with name := some n }

theorem takes_steps {d : Draft} (hd : d.steps = none) {steps : List Step} {vs : List Value}
    (hvs : List.Forall₂ Step.WrittenAs steps vs) :
    DraftTakes depth size ("steps", .array vs) d { d with steps := some steps } := by
  refine Takes.of_field (by rfl) (by simp [hd]) fun t ht hsize => ?_
  cases depth with
  | zero => exact ht.elim
  | succ depth =>
      obtain ⟨body, hbody, rfl⟩ := ht
      have hlist : Scans (list Step.read ⟨depth + 1, size⟩) ('[' :: body ++ [']']) steps := by
        refine ArrayText.scans_list ⟨body, hbody.of_forall₂ hvs, rfl⟩
          (fun _ _ hstep => ?_) (fun _ _ hstep => ?_) hsize
        · obtain ⟨v, _, hv⟩ := hstep
          exact ValueText.begins hv
        · obtain ⟨v, hs, hv⟩ := hstep
          exact hs.scans hv
      exact hlist.map fun ss => { d with steps := some ss }

/-- The members of a scenario make up a draft of it. -/
theorem gathers_members {es : List (String × Value)} {vs : List Value}
    (hvs : List.Forall₂ Step.WrittenAs sc.steps vs)
    (hes : es.Perm [("name", Value.ofOption .ofText sc.name), ("steps", .array vs)] ∨
      sc.name = none ∧ es = [("steps", .array vs)]) :
    ∃ d, Gathers (DraftTakes depth size) es {} d ∧ record.make d = .ok sc := by
  rcases hes with hperm | ⟨hname, rfl⟩
  · refine ⟨{ name := some sc.name, steps := some sc.steps }, ?_, rfl⟩
    rcases List.perm_pair.1 hperm with rfl | rfl
    · exact ⟨_, takes_name rfl sc.name, _, takes_steps rfl hvs, rfl⟩
    · exact ⟨_, takes_steps rfl hvs, _, takes_name rfl sc.name, rfl⟩
  · refine ⟨{ steps := some sc.steps }, ⟨_, takes_steps rfl hvs, rfl⟩, ?_⟩
    cases sc
    subst hname
    rfl

theorem writtenAs_toJson (sc : Scenario) : sc.WrittenAs sc.toJson := by
  refine ⟨_, _, rfl, ?_, .inl (List.Perm.refl _)⟩
  exact List.forall₂_map_right_iff.2 (List.forall₂_same.2 fun s _ => s.writtenAs_toJson)

theorem WrittenAs.scans {v : Value} {cs : List Char} (h : sc.WrittenAs v)
    (hcs : ValueText (depth + 1) v cs) (hsize : cs.length < size) :
    Scans (record.read ⟨depth + 1, size⟩) cs sc := by
  obtain ⟨es, vs, rfl, hvs, hes⟩ := h
  obtain ⟨d, hd, hmake⟩ : ∃ d, Gathers (DraftTakes depth size) es {} d ∧ record.make d = .ok sc :=
    gathers_members hvs hes
  exact ObjectText.scans_record hcs hd hmake hsize

/-- A scenario is read from every text of a value that writes it, if the numbers of the members
that are added are in the range of doubles: below the limit, or above it and still finite. -/
theorem ofJson_text {v : Value} {s : String} (h : sc.WrittenAs v)
    (hs : DocumentTextOf (fun x => x.InRange ∨ x.Finite) v s.toList) : ofJson s = .ok sc := by
  have hfinite : DocumentText v s.toList := hs.imp fun _ hx => hx.elim Numeral.InRange.finite id
  exact hfinite.readAll_eq_ok fun _ _ => h.scans

/-! ## Texts with a number that is added -/

/-- The number `-12.5e-3`. -/
def slight : Numeral where
  negative := true
  whole := ['1', '2']
  fraction := ['5']
  exponent := some ⟨'e', ['-'], ['3'], .inl rfl, .inr (.inr rfl), by decide, List.all_eq_true.1 rfl⟩
  whole_ne_nil := by decide
  zero_alone := fun _ h => absurd (List.head_eq_of_cons_eq h) (by decide)
  isDigit_whole := List.all_eq_true.1 rfl
  isDigit_fraction := List.all_eq_true.1 rfl

/-- The number `1e400`, which lies beyond all doubles. -/
def vast : Numeral where
  negative := false
  whole := ['1']
  fraction := []
  exponent := some ⟨'e', [], ['4', '0', '0'], .inl rfl, .inl rfl, by decide, List.all_eq_true.1 rfl⟩
  whole_ne_nil := by decide
  zero_alone := fun _ h => absurd (List.head_eq_of_cons_eq h) (by decide)
  isDigit_whole := List.all_eq_true.1 rfl
  isDigit_fraction := Numeral.isDigit_nil

theorem lead_comma : Lead false [',', ' '] := ⟨[], [' '], blanks_nil, by decide, rfl⟩

theorem memberText_number {admits : Numeral → Prop} {x : Numeral} (hx : admits x) (k : String)
    (depth : Nat) : MemberText (ValueTextOf admits depth) (k, .atom (.number x.number))
      (writeString k ++ ':' :: x.text) := by
  have hnumber : ValueTextOf admits depth (.atom (.number x.number)) x.text :=
    valueText_atom.2 ⟨x, hx, rfl, rfl⟩
  exact ⟨writeString k, [], [], x.text, stringText_writeString k, blanks_nil, blanks_nil, hnumber,
    by simp⟩

/-- The text of a scenario of one step, from the text of the step. -/
theorem documentText_step {admits : Numeral → Prop} {es : List (String × Value)} {cs : List Char}
    (h : ObjectText (ValueTextOf admits (nestingLimit - 3)) es cs) :
    DocumentTextOf admits (.object [("steps", .array [.object es])])
      ("\x7b\"steps\": [".toList ++ cs ++ "]\x7d\n".toList) := by
  have hsteps : ArrayText (ValueTextOf admits (nestingLimit - 2)) [.object es] ('[' :: cs ++ [']']) :=
    ⟨cs, ⟨[], cs, [], blanks_nil, h, blanks_nil, by simp⟩, rfl⟩
  have hmember : MemberText (ValueTextOf admits (nestingLimit - 1)) ("steps", .array [.object es])
      ("\"steps\": [".toList ++ cs ++ [']']) :=
    ⟨writeString "steps", [], [' '], _, stringText_writeString "steps", blanks_nil, by decide, hsteps,
      rfl⟩
  exact ⟨[], _, ['\n'], blanks_nil, ⟨_, ⟨[], _, [], blanks_nil, hmember, blanks_nil, rfl⟩, rfl⟩,
    by decide, by simp⟩

/-- The tag comes last, a fraction with an exponent is added, a quote is spelled by its code point,
and the title and the name are left out. -/
theorem ofJson_text_shuffled :
    ofJson "\x7b\"steps\": [\x7b\"id\":\"\\u0022\", \"x\":-12.5e-3, \"op\":\"select_metacard\"\x7d]\x7d\n" =
      .ok { name := none, steps := [.selectMetacard "\"" none] } := by
  have hx : slight.InRange := ⟨by decide +kernel, by decide⟩
  have hid : StringText "\"" "\"\\u0022\"".toList :=
    ⟨_, ⟨_, [], .unit ⟨_, _, _, _, 0, 0, 2, 2, rfl, rfl, rfl, rfl, rfl, rfl⟩, rfl, rfl⟩, rfl⟩
  have hstep : ObjectText (ValueTextOf (fun x => x.InRange ∨ x.Finite) (nestingLimit - 3))
      [("id", .ofText "\""), ("x", .atom (.number slight.number)), ("op", .ofText "select_metacard")]
      "\x7b\"id\":\"\\u0022\", \"x\":-12.5e-3, \"op\":\"select_metacard\"\x7d".toList :=
    ⟨_, ⟨[], _, _, blanks_nil,
      ⟨_, [], [], _, stringText_writeString "id", blanks_nil, blanks_nil, hid, rfl⟩,
      ⟨_, _, _, lead_comma, memberText_number (.inl hx) "x" _,
        ⟨_, _, [], lead_comma, memberText_write (stringText_writeString "select_metacard"),
          blanks_nil, rfl⟩, rfl⟩, rfl⟩, rfl⟩
  exact ofJson_text ⟨_, _, rfl, .cons ⟨_, rfl, [("id", .ofText "\"")],
    [("x", .atom (.number slight.number))],
    ⟨.cons_cons _ (.cons _ .slnil), by simp [Step.fields, Step.defaults, Value.ofOption, Value.null]⟩,
    by simp [Step.fields], List.perm_append_singleton _ [_, _]⟩ .nil, .inr ⟨rfl, rfl⟩⟩
    (documentText_step hstep)

/-- Not all numbers may be added: a step with a number beyond the doubles is refused. -/
theorem ofJson_text_unbounded : ¬ ∀ (sc : Scenario) (v : Value) (s : String), sc.WrittenAs v →
    DocumentTextOf (fun _ => True) v s.toList → ofJson s = .ok sc := by
  intro hall
  have hstep : ObjectText (ValueTextOf (fun _ => True) (nestingLimit - 3))
      [("op", .ofText "render"), ("x", .atom (.number vast.number))]
      "\x7b\"op\":\"render\", \"x\":1e400\x7d".toList :=
    ⟨_, ⟨[], _, _, blanks_nil, memberText_write (stringText_writeString "render"),
      ⟨_, _, [], lead_comma, memberText_number trivial "x" _, blanks_nil, rfl⟩, rfl⟩, rfl⟩
  have hread := hall { name := none, steps := [.render] } _
    "\x7b\"steps\": [\x7b\"op\":\"render\", \"x\":1e400\x7d]\x7d\n"
    ⟨_, _, rfl, .cons ⟨_, rfl, [], [("x", .atom (.number vast.number))],
      ⟨.slnil, List.forall_mem_nil _⟩, by simp [Step.fields], .refl _⟩ .nil, .inr ⟨rfl, rfl⟩⟩
    (documentText_step hstep)
  have hrefused : ofJson "\x7b\"steps\": [\x7b\"op\":\"render\", \"x\":1e400\x7d]\x7d\n" =
      .error .malformed := by decide +kernel
  rw [hrefused] at hread
  cases hread

/-- Nor may a string have one half of a surrogate pair, which is no text of any character. -/
example : ofJson "\x7b\"steps\": [\x7b\"op\":\"render\", \"x\":\"\\ud800\"\x7d]\x7d" =
    .error .malformed := by
  decide +kernel

/-! ## Written scenarios -/

theorem whole_toJson (sc : Scenario) (depth : Nat) : Whole (depth + 3) sc.toJson := by
  have hname : Whole (depth + 2) (Value.ofOption .ofText sc.name) := by
    cases sc.name <;> exact whole_atom.2 nofun
  have hsteps : Whole (depth + 2) (.array (sc.steps.map Step.toJson)) := by
    refine List.forall_mem_map.2 fun s _ => s.whole_toJson depth
  exact List.forall_mem_cons.2 ⟨hname, List.forall_mem_singleton.2 hsteps⟩

end Scenario

end DetailPanel
