import Mathlib
import DetailPanel.Config.Basic
import DetailPanel.Proofs.Json.Canonical
import DetailPanel.Proofs.Metacard

/-!
# Records that are written and read back

A metacard can be written in many ways: as an object with its members in any order, or as
an array, with a title and attributes left out, and with the same attribute more than
once.  What is read is kept in one form, and what is written for that form is read as it
is.  Doubles are left out, since their texts go by how a decimal is rounded.

    m.WrittenAs v → DocumentText v s.toList → ofJson s = .ok m.kept      (ofJson_writtenAs)
    ofJson s = .ok m → m.DoubleFree → ofJson m.toJson.compact = .ok m    (ofJson_toJson)
    Config.ofJson c.toJson.compact = .ok c                               (Config.ofJson_toJson)
-/

namespace DetailPanel

open Json

/-! ## Fields -/

namespace Json

variable {depth size : Nat} {t : List Char}

theorem scans_entries {es : List (String × Value)} (ht : ValueText depth (.object es) t)
    (hsize : t.length < size) :
    Scans (sortedEntries ⟨depth, size⟩) t (Value.canonicalEntries es []) := by
  cases depth with
  | zero => exact ht.elim
  | succ depth => exact ObjectText.scans_sortedEntries ht hsize

end Json

/-! ## Metacards -/

namespace Metacard

variable {m : Metacard} {depth size : Nat} {cs : List Char}

/-- No attribute is a double, however deep. -/
def DoubleFree (m : Metacard) : Prop :=
  ∀ bits, ¬ Holds (.number (.double bits)) (.object m.attributes)

/-- The metacard with its attributes as they are kept: sorted, and the last of each key. -/
def kept (m : Metacard) : Metacard :=
  { m with attributes := Value.canonicalEntries m.attributes [] }

/-! ### Writings -/

def fields (m : Metacard) : List (String × Value) :=
  [("id", .ofText m.id), ("title", Value.ofOption .ofText m.title),
    ("attributes", .object m.attributes)]

/-- Fields of a metacard in order.  A title that is missing and attributes of which there are
none may be left out. -/
inductive Gives (m : Metacard) : List (String × Value) → Prop
  | all : Gives m m.fields
  | untitled (h : m.title = none) :
      Gives m [("id", .ofText m.id), ("attributes", .object m.attributes)]
  | bare (h : m.attributes = []) :
      Gives m [("id", .ofText m.id), ("title", Value.ofOption .ofText m.title)]
  | named (h : m.title = none) (h' : m.attributes = []) : Gives m [("id", .ofText m.id)]

/-- The values that write a metacard. -/
inductive WrittenAs (m : Metacard) : Value → Prop
  | object {es given : List (String × Value)} (h : m.Gives given) (hes : es.Perm given) :
      WrittenAs m (.object es)
  /-- As an array nothing can be left out before the end. -/
  | array {given : List (String × Value)} (h : m.Gives given) (hlead : given <+: m.fields) :
      WrittenAs m (.array (given.map Prod.snd))

/-- How a member of a metacard takes a draft on. -/
inductive Adds (m : Metacard) : String × Value → Draft → Draft → Prop
  | id {d : Draft} (h : d.id = none) : Adds m ("id", .ofText m.id) d { d with id := some m.id }
  | title {d : Draft} (h : d.title = none) :
      Adds m ("title", Value.ofOption .ofText m.title) d { d with title := some m.title }
  | attributes {d : Draft} (h : d.attributes = none) :
      Adds m ("attributes", .object m.attributes) d
        { d with attributes := some m.kept.attributes }

theorem Adds.swap {e e' : String × Value} {d d₁ d₂ : Draft} (h : m.Adds e d d₁)
    (h' : m.Adds e' d₁ d₂) : ∃ d₁', m.Adds e' d d₁' ∧ m.Adds e d₁' d₂ := by
  -- no field comes twice, so the two have different names
  cases h with
  | id h =>
      cases h' with
      | id h' => cases h'
      | title h' => exact ⟨_, .title h', .id h⟩
      | attributes h' => exact ⟨_, .attributes h', .id h⟩
  | title h =>
      cases h' with
      | id h' => exact ⟨_, .id h', .title h⟩
      | title h' => cases h'
      | attributes h' => exact ⟨_, .attributes h', .title h⟩
  | attributes h =>
      cases h' with
      | id h' => exact ⟨_, .id h', .attributes h⟩
      | title h' => exact ⟨_, .title h', .attributes h⟩
      | attributes h' => cases h'

/-- The fields that are given make up the metacard. -/
theorem Gives.gathers {given : List (String × Value)} (h : m.Gives given) :
    ∃ d, Gathers m.Adds given {} d ∧ record.make d = .ok m.kept := by
  cases h with
  | all => exact ⟨_, ⟨_, .id rfl, _, .title rfl, _, .attributes rfl, rfl⟩, rfl⟩
  | untitled h =>
      refine ⟨_, ⟨_, .id rfl, _, .attributes rfl, rfl⟩, ?_⟩
      simp [record, Draft.complete, kept, h]
  | bare h =>
      refine ⟨_, ⟨_, .id rfl, _, .title rfl, rfl⟩, ?_⟩
      simp [record, Draft.complete, kept, h, Value.canonicalEntries]
  | named h h' =>
      refine ⟨_, ⟨_, .id rfl, rfl⟩, ?_⟩
      simp [record, Draft.complete, kept, h, h', Value.canonicalEntries]

/-! ### Reading them -/

theorem Adds.takes {e : String × Value} {d d' : Draft} (h : m.Adds e d d') :
    Takes size (Record.entry record.fields ⟨depth, size⟩) (ValueText depth) e d d' := by
  cases h with
  | id h =>
      exact Takes.of_field (by rfl) (by simp [h]) fun t ht hsize =>
        (scans_text ht hsize).map fun s => { d with id := some s }
  | title h =>
      exact Takes.of_field (by rfl) (by simp [h]) fun t ht hsize =>
        (scans_optionalText ht hsize).map fun s => { d with title := some s }
  | attributes h =>
      exact Takes.of_field (by rfl) (by simp [h]) fun t ht hsize =>
        (scans_entries ht hsize).map fun es => { d with attributes := some es }

/-- The fields of an array are read in order. -/
theorem Gives.fills {given : List (String × Value)} (h : m.Gives given)
    (hlead : given <+: m.fields) : ∃ d,
      Fills (ValueText depth) ⟨depth, size⟩ record.fields (given.map Prod.snd) {} d ∧
        record.make d = .ok m.kept := by
  have hid : ∀ t, ValueText depth (.ofText m.id) t → t.length < size →
      Scans (fun cs => (scalar text ⟨depth, size⟩ cs).map fun s => ({ id := some s } : Draft)) t
        { id := some m.id } :=
    fun t ht hsize => (scans_text ht hsize).map fun s => ({ id := some s } : Draft)
  have htitle : ∀ t, ValueText depth (Value.ofOption .ofText m.title) t → t.length < size →
      Scans (fun cs => (scalar optionalText ⟨depth, size⟩ cs).map fun s =>
        ({ id := some m.id, title := some s } : Draft)) t
        { id := some m.id, title := some m.title } :=
    fun t ht hsize => (scans_optionalText ht hsize).map fun s =>
      ({ id := some m.id, title := some s } : Draft)
  have hattributes : ∀ t, ValueText depth (.object m.attributes) t → t.length < size →
      Scans (fun cs => (sortedEntries ⟨depth, size⟩ cs).map fun es =>
        ({ id := some m.id, title := some m.title, attributes := some es } : Draft)) t
        { id := some m.id, title := some m.title, attributes := some m.kept.attributes } :=
    fun t ht hsize => (scans_entries ht hsize).map fun es =>
      ({ id := some m.id, title := some m.title, attributes := some es } : Draft)
  cases h with
  | all => exact ⟨_, ⟨_, hid, _, htitle, _, hattributes, rfl, nofun⟩, rfl⟩
  | untitled h => simp [fields] at hlead
  | bare h =>
      refine ⟨_, ⟨_, hid, _, htitle, rfl, by simp⟩, ?_⟩
      simp [record, Draft.complete, kept, h, Value.canonicalEntries]
  | named h h' =>
      refine ⟨_, ⟨_, hid, rfl, by simp⟩, ?_⟩
      simp [record, Draft.complete, kept, h, h', Value.canonicalEntries]

theorem WrittenAs.scans {v : Value} (h : m.WrittenAs v) (hcs : ValueText (depth + 1) v cs)
    (hsize : cs.length < size) : Scans (record.read ⟨depth + 1, size⟩) cs m.kept := by
  cases h with
  | object h hes =>
      obtain ⟨d, hd, hmake⟩ := h.gathers
      have htakes : Gathers (Takes size (Record.entry record.fields ⟨depth, size⟩)
          (ValueText depth)) _ {} d :=
        (hd.perm hes fun _ _ _ _ _ he he' => he.swap he').imp fun _ _ _ he => he.takes
      exact ObjectText.scans_record hcs htakes hmake hsize
  | array h hlead =>
      obtain ⟨d, hd, hmake⟩ := h.fills hlead
      exact ArrayText.scans_record hcs (fun _ _ => ValueText.begins) hd hmake hsize

/-- Every text that writes a metacard is read as it is kept. -/
theorem ofJson_writtenAs {v : Value} {s : String} (h : m.WrittenAs v)
    (hs : DocumentText v s.toList) : ofJson s = .ok m.kept :=
  hs.readAll_eq_ok fun _ _ => h.scans

/-! ### Reading back -/

/-- What holds of a metacard that was read: its attributes are sorted and not too deep. -/
structure Settled (m : Metacard) : Prop where
  ordered : Value.Ordered m.attributes
  within : Within (nestingLimit - 1) (.object m.attributes)

/-- What holds of a draft as soon as its attributes are read. -/
def Draft.Settled (d : Draft) : Prop :=
  ∀ es, d.attributes = some es → Value.Ordered es ∧ Within (nestingLimit - 1) (.object es)

theorem keeps_settled (size : Nat) :
    Record.Keeps record.fields ⟨nestingLimit - 1, size⟩ Draft.Settled := by
  have hid : ∀ d cs, Draft.Settled d → Scan.Finds
      ((scalar text ⟨nestingLimit - 1, size⟩ cs).map fun s => { d with id := some s })
      Draft.Settled := fun d cs hd => finds_map fun _ => hd
  have htitle : ∀ d cs, Draft.Settled d → Scan.Finds
      ((scalar optionalText ⟨nestingLimit - 1, size⟩ cs).map fun s => { d with title := some s })
      Draft.Settled := fun d cs hd => finds_map fun _ => hd
  have hattributes : ∀ d cs, Draft.Settled d → Scan.Finds
      ((sortedEntries ⟨nestingLimit - 1, size⟩ cs).map fun es => { d with attributes := some es })
      Draft.Settled := by
    intro d cs _
    refine (finds_sortedEntries _ cs).map fun es hes => ?_
    rintro _ ⟨⟩
    exact hes
  exact List.forall_mem_cons.2 ⟨hid, List.forall_mem_cons.2 ⟨htitle,
    List.forall_mem_singleton.2 hattributes⟩⟩

theorem Draft.Settled.complete {d : Draft} (h : d.Settled) (hm : d.complete = .ok m) :
    m.Settled := by
  obtain ⟨id, title, attributes⟩ := d
  cases id with
  | none => cases hm
  | some id =>
      cases hm
      cases attributes with
      | none => exact ⟨Value.ordered_nil, nofun⟩
      | some es => exact ⟨(h es rfl).1, (h es rfl).2⟩

theorem settled_of_ofJson {s : String} (h : ofJson s = .ok m) : m.Settled := by
  obtain ⟨d, hd, hm⟩ := readAll_finds h fun size cs =>
    Record.finds_read (I := Draft.Settled) (fun _ hes => by cases hes)
      (fun depth hdepth => Nat.succ.inj hdepth ▸ keeps_settled size) cs
  exact hd.complete hm

theorem Settled.kept (h : m.Settled) : m.kept = m := by
  rw [Metacard.kept, h.ordered.canonicalEntries_nil]

theorem Settled.whole (h : m.Settled) (hm : m.DoubleFree) :
    Whole (nestingLimit - 1) (.object m.attributes) := whole_iff.2 ⟨h.within, hm⟩

theorem Settled.whole_toJson (h : m.Settled) (hm : m.DoubleFree) : Whole nestingLimit m.toJson := by
  have htitle : Whole (nestingLimit - 1) (Value.ofOption .ofText m.title) := by
    cases m.title <;> exact whole_atom.2 nofun
  exact List.forall_mem_cons.2 ⟨whole_atom.2 nofun, List.forall_mem_cons.2 ⟨htitle,
    List.forall_mem_singleton.2 (h.whole hm)⟩⟩

theorem writtenAs_toJson (m : Metacard) : m.WrittenAs m.toJson :=
  .object .all (List.Perm.refl _)

/-- What is written for a metacard that was read is read as it. -/
theorem ofJson_toJson {s : String} (h : ofJson s = .ok m) (hm : m.DoubleFree) :
    ofJson m.toJson.compact = .ok m := by
  have hsettled : m.Settled := settled_of_ofJson h
  have hread : ofJson m.toJson.compact = .ok m.kept :=
    ofJson_writtenAs m.writtenAs_toJson (hsettled.whole_toJson hm).documentText
  rw [hread, hsettled.kept]

end Metacard

/-! ## Equality -/

namespace Json

theorem Value.normalItems_eq_self {vs : List Value} (h : ∀ v ∈ vs, v.normal = v) :
    normalItems vs = vs := by
  induction vs with
  | nil => rw [normalItems]
  | cons v vs ih =>
      obtain ⟨hv, hvs⟩ := List.forall_mem_cons.1 h
      rw [normalItems, hv, ih hvs]

theorem Value.normalEntries_eq_self {es : List (String × Value)} (h : ∀ e ∈ es, e.2.normal = e.2) :
    normalEntries es = es := by
  induction es with
  | nil => rw [normalEntries]
  | cons e es ih =>
      obtain ⟨he, hes⟩ := List.forall_mem_cons.1 h
      rw [normalEntries, he, ih hes]

theorem Atom.normal_eq_self {a : Atom} (h : ∀ bits, a ≠ .number (.double bits)) : a.normal = a := by
  cases a with
  | null | bool | text => rfl
  | number n =>
      cases n with
      | natural | negSucc => rfl
      | double bits => exact absurd rfl (h bits)

/-- Where there are no doubles, no zero passes for another. -/
theorem Whole.normal {depth : Nat} {v : Value} (h : Whole depth v) : v.normal = v := by
  induction depth generalizing v with
  | zero =>
      cases v with
      | atom a => rw [Value.normal, Atom.normal_eq_self (whole_atom.1 h)]
      | array vs => exact h.elim
      | object es => exact h.elim
  | succ depth ih =>
      cases v with
      | atom a => rw [Value.normal, Atom.normal_eq_self (whole_atom.1 h)]
      | array vs => rw [Value.normal, Value.normalItems_eq_self fun v hv => ih (h v hv)]
      | object es => rw [Value.normal, Value.normalEntries_eq_self fun e he => ih (h e he)]

end Json

namespace Metacard

theorem Settled.same_iff {m m' : Metacard} (h : m.Settled) (hm : m.DoubleFree) (h' : m'.Settled)
    (hm' : m'.DoubleFree) : m.same m' = true ↔ m = m' := by
  have hnormal : ∀ {m : Metacard}, m.Settled → m.DoubleFree → m.normal = m := by
    intro m h hm
    have hentries : Value.normalEntries m.attributes = m.attributes :=
      Value.normalEntries_eq_self fun e he => ((h.whole hm) e he).normal
    rw [Metacard.normal, hentries]
  rw [Metacard.same_iff, hnormal h hm, hnormal h' hm']

end Metacard

/-! ## Configurations -/

namespace Config

variable {depth size : Nat} {d : Draft}

/-- One member takes a draft on. -/
abbrev DraftTakes (depth size : Nat) (e : String × Value) (d d' : Draft) : Prop :=
  Takes size (Record.entry record.fields ⟨depth, size⟩) (ValueText depth) e d d'

theorem takes_throttleMs (hd : d.throttleMs = none) (n : UInt64) :
    DraftTakes depth size ("throttle_ms", .ofNatural n) d { d with throttleMs := some n } :=
  Takes.of_field (by rfl) (by simp [hd]) fun _ ht hsize =>
    (scans_natural64 ht hsize).map fun n => { d with throttleMs := some n }

theorem takes_layout (hd : d.layout = none) (s : String) :
    DraftTakes depth size ("layout_config_name", .ofText s) d { d with layout := some s } :=
  Takes.of_field (by rfl) (by simp [hd]) fun _ ht hsize =>
    (scans_text ht hsize).map fun s => { d with layout := some s }

theorem takes_region (hd : d.region = none) (s : String) :
    DraftTakes depth size ("region", .ofText s) d { d with region := some s } :=
  Takes.of_field (by rfl) (by simp [hd]) fun _ ht hsize =>
    (scans_text ht hsize).map fun s => { d with region := some s }

theorem whole_toJson (c : Config) (depth : Nat) : Whole (depth + 1) c.toJson :=
  List.forall_mem_cons.2 ⟨whole_atom.2 nofun, List.forall_mem_cons.2 ⟨whole_atom.2 nofun,
    List.forall_mem_singleton.2 (whole_atom.2 nofun)⟩⟩

/-- What is written for a configuration is read as it, valid or not. -/
theorem ofJson_toJson (c : Config) : ofJson c.toJson.compact = .ok c := by
  refine (c.whole_toJson (nestingLimit - 1)).documentText.readAll_eq_ok fun cs size hcs hsize => ?_
  have hfields : Gathers (DraftTakes (nestingLimit - 1) size)
      [("throttle_ms", .ofNatural c.throttleMs), ("layout_config_name", .ofText c.layout),
        ("region", .ofText c.region)] {}
      { throttleMs := some c.throttleMs, layout := some c.layout, region := some c.region } :=
    ⟨_, takes_throttleMs rfl c.throttleMs, _, takes_layout rfl c.layout, _,
      takes_region rfl c.region, rfl⟩
  exact ObjectText.scans_record hcs hfields rfl hsize

end Config

/-! ## Both records -/

/-- Every metacard that was read and has no double anywhere is read back from its compact
text, so two such metacards are the same exactly if their texts are.  All writings of a
metacard are read, whatever attributes it has; of each attribute the last is kept.  Every
configuration is read back, valid or not. -/
theorem records_read_back :
    (∀ (s : String) (m : Metacard), Metacard.ofJson s = .ok m → m.DoubleFree →
      Metacard.ofJson m.toJson.compact = .ok m ∧ m.same m = true ∧
      ∀ (s' : String) (m' : Metacard), Metacard.ofJson s' = .ok m' → m'.DoubleFree →
        (m.same m' = true ↔ m.toJson.compact = m'.toJson.compact)) ∧
    (∀ (m : Metacard) (v : Value) (s : String), m.WrittenAs v → DocumentText v s.toList →
      ∃ m', Metacard.ofJson s = .ok m' ∧ m'.id = m.id ∧ m'.title = m.title ∧
        ∀ k, m'.attributes.lookup k = (m.attributes.reverse.lookup k).map Value.canonical) ∧
    ∀ c : Config, Config.ofJson c.toJson.compact = .ok c := by
  refine ⟨?_, ?_, Config.ofJson_toJson⟩
  · intro s m hread hm
    have hsettled : m.Settled := Metacard.settled_of_ofJson hread
    have hback : Metacard.ofJson m.toJson.compact = .ok m := Metacard.ofJson_toJson hread hm
    refine ⟨hback, (hsettled.same_iff hm hsettled hm).2 rfl, ?_⟩
    intro s' m' hread' hm'
    rw [hsettled.same_iff hm (Metacard.settled_of_ofJson hread') hm']
    constructor
    · rintro rfl
      rfl
    · intro htext
      have hback' : Metacard.ofJson m'.toJson.compact = .ok m' :=
        Metacard.ofJson_toJson hread' hm'
      rw [htext, hback'] at hback
      cases hback
      rfl
  · intro m v s hv hs
    exact ⟨m.kept, Metacard.ofJson_writtenAs hv hs, rfl, rfl,
      Value.lookup_canonicalEntries m.attributes⟩

/-- A metacard as it may be written: an attribute comes twice, none are in order, and the
numbers are the least and the greatest that are kept exactly. -/
def Metacard.unsorted : Metacard where
  id := "\x00"
  attributes := [("b", .ofText "\""),
    ("a", .object [("z", .null), ("y", .atom (.number (.negSucc ⟨9223372036854775807, by decide⟩)))]),
    ("b", .ofNatural 18446744073709551615)]

theorem records_read_back_unsorted :
    let s := "[\"\\u0000\",null,\x7b\"b\":\"\\\"\",\"a\":\x7b\"z\":null,\"y\":-9223372036854775808\x7d,\"b\":18446744073709551615\x7d]"
    ∃ m, Metacard.ofJson s = .ok m ∧ m.DoubleFree ∧
      m.attributes.lookup "b" = some (.ofNatural 18446744073709551615) ∧
      m.toJson.compact = "\x7b\"id\":\"\\u0000\",\"title\":null,\"attributes\":\x7b\"a\":\x7b\"y\":-9223372036854775808,\"z\":null\x7d,\"b\":18446744073709551615\x7d\x7d" ∧
      Metacard.ofJson m.toJson.compact = .ok m := by
  intro s
  have hwhole : Whole nestingLimit (.array (Metacard.unsorted.fields.map Prod.snd)) := by
    simp [Metacard.unsorted, Metacard.fields, Whole, nestingLimit, Value.ofText, Value.ofOption,
      Value.null, Value.ofNatural]
  have htext : (Value.array (Metacard.unsorted.fields.map Prod.snd)).compact = s := by cbv
  have hdoc := hwhole.documentText
  rw [htext] at hdoc
  have hwritten : Metacard.unsorted.WrittenAs (.array (Metacard.unsorted.fields.map Prod.snd)) :=
    .array .all (List.prefix_refl _)
  have hread : Metacard.ofJson s = .ok Metacard.unsorted.kept :=
    Metacard.ofJson_writtenAs hwritten hdoc
  have hm : Metacard.unsorted.kept.DoubleFree := by
    have hkept : Whole 2 (.object Metacard.unsorted.kept.attributes) := by
      rw [show Metacard.unsorted.kept.attributes = _ by cbv]
      simp [Whole]
    exact (whole_iff.1 hkept).2
  obtain ⟨m', hread', -, -, hlookup⟩ :=
    records_read_back.2.1 Metacard.unsorted _ s hwritten hdoc
  obtain rfl : Metacard.unsorted.kept = m' := Except.ok.inj (hread.symm.trans hread')
  exact ⟨_, hread, hm, hlookup "b", by cbv, (records_read_back.1 s _ hread hm).1⟩

end DetailPanel
