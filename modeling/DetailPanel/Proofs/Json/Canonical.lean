import Mathlib.Data.List.Induction
import Mathlib.Data.String.Basic
import DetailPanel.Proofs.Json.Nesting
import DetailPanel.Proofs.Json.Reading

/-!
# Objects with sorted keys

Objects are kept sorted by key at every level, with one entry for each key, the last that
was written.  Sorting them again changes nothing, so what is kept is written and read back
as it is.

    v.canonical.canonical = v.canonical                                (canonical_canonical)
    Ordered es → canonicalEntries es [] = es                   (Ordered.canonicalEntries_nil)
    (canonicalEntries es []).lookup k is the last value of k in es (lookup_canonicalEntries)
    ObjectText … es cs → Scans (sortedEntries …) cs (canonicalEntries es [])
-/

namespace DetailPanel.Json

namespace Value

variable {k : String} {v : Value} {es acc : List (String × Value)}

/-- Entries in ascending order of their keys, with values that are themselves canonical. -/
structure Ordered (es : List (String × Value)) : Prop where
  ascending : es.Pairwise fun d e => d.1 < e.1
  canonical : ∀ e ∈ es, e.2.canonical = e.2

theorem ordered_nil : Ordered [] := ⟨.nil, nofun⟩

/-! ## Inserting an entry -/

theorem mem_insert {e : String × Value} (h : e ∈ insert k v es) : e = (k, v) ∨ e ∈ es := by
  induction es with
  | nil => exact .inl (List.mem_singleton.1 h)
  | cons d es ih =>
      obtain ⟨k', v'⟩ := d
      unfold insert at h
      split at h
      · rcases List.mem_cons.1 h with rfl | h
        · exact .inl rfl
        · exact .inr (List.mem_cons_of_mem _ h)
      · split at h
        · exact List.mem_cons.1 h
        · rcases List.mem_cons.1 h with rfl | h
          · exact .inr (List.mem_cons_self ..)
          · exact (ih h).imp_right (List.mem_cons_of_mem _)

theorem pairwise_insert (h : es.Pairwise fun d e => d.1 < e.1) :
    (insert k v es).Pairwise fun d e => d.1 < e.1 := by
  induction es with
  | nil => exact List.pairwise_singleton ..
  | cons d es ih =>
      obtain ⟨k', v'⟩ := d
      obtain ⟨hd, hes⟩ := List.pairwise_cons.1 h
      unfold insert
      split
      · rename_i heq
        subst heq
        exact List.pairwise_cons.2 ⟨hd, hes⟩
      · rename_i hne
        split
        · rename_i hlt
          refine List.pairwise_cons.2 ⟨fun e he => ?_, h⟩
          rcases List.mem_cons.1 he with rfl | he
          · exact hlt
          · exact lt_trans hlt (hd e he)
        · rename_i hnlt
          refine List.pairwise_cons.2 ⟨fun e he => ?_, ih hes⟩
          rcases mem_insert he with rfl | he
          · exact lt_of_le_of_ne (not_lt.1 hnlt) (Ne.symm hne)
          · exact hd e he

theorem Ordered.insert (h : Ordered es) (hv : v.canonical = v) : Ordered (insert k v es) := by
  constructor
  · exact pairwise_insert h.ascending
  · intro e he
    rcases mem_insert he with rfl | he
    · exact hv
    · exact h.canonical e he

/-- A key above all others goes to the end. -/
theorem insert_of_above (h : ∀ e ∈ es, e.1 < k) : insert k v es = es ++ [(k, v)] := by
  induction es with
  | nil => rfl
  | cons d es ih =>
      obtain ⟨hd, hes⟩ := List.forall_mem_cons.1 h
      rw [Value.insert, if_neg (ne_of_gt hd), if_neg (not_lt_of_gt hd), ih hes]
      rfl

theorem lookup_insert (j : String) :
    (insert k v es).lookup j = if j = k then some v else es.lookup j := by
  induction es with
  | nil =>
      by_cases hj : j = k
      · simp [Value.insert, hj]
      · simp [Value.insert, hj, List.lookup_cons, beq_false_of_ne hj]
  | cons d es ih =>
      obtain ⟨k', v'⟩ := d
      by_cases hj : j = k
      · subst hj
        rw [if_pos rfl] at ih ⊢
        unfold Value.insert
        split
        · exact List.lookup_cons_self ..
        · rename_i hne
          split
          · exact List.lookup_cons_self ..
          · rw [List.lookup_cons, beq_false_of_ne hne]
            exact ih
      · rw [if_neg hj] at ih ⊢
        unfold Value.insert
        split
        · rename_i heq
          subst heq
          simp only [List.lookup_cons, beq_false_of_ne hj]
        · split
          · rw [List.lookup_cons, beq_false_of_ne hj]
          · simp only [List.lookup_cons, ih]

/-! ## Inserting entries in turn -/

/-- Put the canonical value of an entry among entries that are sorted. -/
def put (acc : List (String × Value)) (e : String × Value) : List (String × Value) :=
  insert e.1 e.2.canonical acc

theorem canonicalEntries_eq_foldl (es acc : List (String × Value)) :
    canonicalEntries es acc = es.foldl put acc := by
  induction es generalizing acc with
  | nil => rw [canonicalEntries, List.foldl_nil]
  | cons e es ih =>
      rw [canonicalEntries, List.foldl_cons, ih]
      rfl

theorem canonicalItems_eq_map (vs : List Value) : canonicalItems vs = vs.map canonical := by
  induction vs with
  | nil => rw [canonicalItems, List.map_nil]
  | cons v vs ih => rw [canonicalItems, List.map_cons, ih]

theorem mem_canonicalEntries {e : String × Value} (h : e ∈ canonicalEntries es acc) :
    (∃ d ∈ es, e = (d.1, d.2.canonical)) ∨ e ∈ acc := by
  rw [canonicalEntries_eq_foldl] at h
  induction es generalizing acc with
  | nil => exact .inr h
  | cons d es ih =>
      rcases ih h with ⟨d', hd', rfl⟩ | hacc
      · exact .inl ⟨d', List.mem_cons_of_mem _ hd', rfl⟩
      · rcases mem_insert hacc with rfl | hacc
        · exact .inl ⟨d, List.mem_cons_self .., rfl⟩
        · exact .inr hacc

/-- Of entries with the same key the last is kept. -/
theorem lookup_canonicalEntries (es : List (String × Value)) (k : String) :
    (canonicalEntries es []).lookup k = (es.reverse.lookup k).map canonical := by
  rw [canonicalEntries_eq_foldl]
  induction es using List.reverseRecOn with
  | nil => rfl
  | append_singleton es e ih =>
      obtain ⟨k', v⟩ := e
      rw [List.foldl_concat, put, lookup_insert, ih, List.reverse_concat, List.lookup_cons]
      by_cases hk : k = k'
      · simp [hk]
      · simp [hk, beq_false_of_ne hk]

/-- Entries that are in order already stay as they are. -/
theorem Ordered.canonicalEntries_append (h : Ordered (acc ++ es)) :
    canonicalEntries es acc = acc ++ es := by
  -- an entry is above all of `acc`, so it is put at the end
  induction es generalizing acc with
  | nil => rw [canonicalEntries, List.append_nil]
  | cons e es ih =>
      have hbelow : ∀ d ∈ acc, d.1 < e.1 := by
        intro d hd
        exact (List.pairwise_append.1 h.ascending).2.2 d hd e (List.mem_cons_self ..)
      have hvalue : e.2.canonical = e.2 :=
        h.canonical e (List.mem_append_right _ (List.mem_cons_self ..))
      have happend : acc ++ e :: es = acc ++ [e] ++ es := by simp
      rw [canonicalEntries, hvalue, insert_of_above hbelow, ih (happend ▸ h), happend]

theorem Ordered.canonicalEntries_nil (h : Ordered es) : canonicalEntries es [] = es := by
  rw [← List.nil_append es] at h
  exact h.canonicalEntries_append

mutual
/-- What is canonical stays as it is. -/
theorem canonical_canonical (v : Value) : v.canonical.canonical = v.canonical := by
  cases v with
  | atom a => rw [canonical, canonical]
  | array vs => rw [canonical, canonical, canonicalItems_canonicalItems vs]
  | object es =>
      rw [canonical, canonical, (ordered_canonicalEntries es ordered_nil).canonicalEntries_nil]
theorem canonicalItems_canonicalItems (vs : List Value) :
    canonicalItems (canonicalItems vs) = canonicalItems vs := by
  cases vs with
  | nil => rw [canonicalItems, canonicalItems]
  | cons v vs =>
      rw [canonicalItems, canonicalItems, canonical_canonical v, canonicalItems_canonicalItems vs]
theorem ordered_canonicalEntries (es : List (String × Value)) {acc : List (String × Value)}
    (h : Ordered acc) : Ordered (canonicalEntries es acc) := by
  cases es with
  | nil => rwa [canonicalEntries]
  | cons e es =>
      obtain ⟨k, v⟩ := e
      rw [canonicalEntries]
      exact ordered_canonicalEntries es (h.insert (canonical_canonical v))
end

end Value

/-- Sorting does not nest a value deeper. -/
theorem Within.canonical {depth : Nat} {v : Value} (h : Within depth v) :
    Within depth v.canonical := by
  induction depth generalizing v with
  | zero =>
      cases v with
      | atom a => rwa [Value.canonical]
      | array vs => exact h.elim
      | object es => exact h.elim
  | succ depth ih =>
      cases v with
      | atom a => rwa [Value.canonical]
      | array vs =>
          rw [Value.canonical, Value.canonicalItems_eq_map]
          exact List.forall_mem_map.2 fun v hv => ih (h v hv)
      | object es =>
          rw [Value.canonical]
          intro e he
          obtain ⟨d, hd, rfl⟩ | hnil := Value.mem_canonicalEntries he
          · exact ih (h d hd)
          · cases hnil

/-! ## Reading -/

section Reading

variable {depth size : Nat} {cs : List Char} {es : List (String × Value)}

/-- A member of an object is read and put among those that are sorted. -/
def putMember (l : Limits) (key : String) (acc : List (String × Value)) (cs : List Char) :
    Scan (List (String × Value)) :=
  (colon cs).andThen fun _ r => (value l r).map fun v => Value.put acc (key, v)

/-- The entries that are read come in order, however they are written. -/
theorem finds_sortedEntries (l : Limits) (cs : List Char) :
    (sortedEntries l cs).Finds fun es => Value.Ordered es ∧ Within l.depth (.object es) := by
  refine finds_container nofun ?_ cs
  rintro _ ⟨⟩ depth r hl
  have hput : ∀ key es cs, Value.Ordered es ∧ Within (depth + 1) (.object es) →
      (putMember ⟨depth, l.size⟩ key es cs).Finds fun es =>
        Value.Ordered es ∧ Within (depth + 1) (.object es) := by
    rintro key es cs ⟨hes, hwithin⟩
    refine finds_andThen fun _ r => (finds_valueAt l.size depth r).map fun v hv => ⟨?_, ?_⟩
    · exact hes.insert (Value.canonical_canonical v)
    · intro e he
      rcases Value.mem_insert he with rfl | he
      · exact hv.canonical
      · exact hwithin e he
  rw [hl]
  refine (finds_entries hput l.size true ⟨Value.ordered_nil, nofun⟩ r).andThen fun es r hes => ?_
  exact finds_map fun _ => hes

theorem gathers_foldl {σ ε : Type} {takes : ε → σ → σ → Prop} {step : σ → ε → σ} {es : List ε}
    (h : ∀ e ∈ es, ∀ s, takes e s (step s e)) (s : σ) :
    Gathers takes es s (es.foldl step s) := by
  induction es generalizing s with
  | nil => rfl
  | cons e es ih =>
      obtain ⟨he, hes⟩ := List.forall_mem_cons.1 h
      exact ⟨_, he s, ih hes (step s e)⟩

theorem takes_putMember (e : String × Value) (acc : List (String × Value)) :
    Takes size (putMember ⟨depth, size⟩) (ValueText depth) e acc (Value.put acc e) :=
  Takes.of_scans (fun cs => (valueAt size depth cs).map fun v => Value.put acc (e.1, v))
    (fun _ => rfl) fun _ ht hsize => (ht.scans hsize).map fun v => Value.put acc (e.1, v)

/-- The entries of an object are read in any order, and the last of each key is kept. -/
theorem ObjectText.scans_sortedEntries (h : ObjectText (ValueText depth) es cs)
    (hsize : cs.length < size) :
    Scans (sortedEntries ⟨depth + 1, size⟩) cs (Value.canonicalEntries es []) := by
  intro pad r hpad hr
  obtain ⟨body, hbody, rfl⟩ := h
  simp only [List.length_append, List.length_cons] at hsize
  have hput : Gathers (Takes size (putMember ⟨depth, size⟩) (ValueText depth)) es []
      (es.foldl Value.put []) := gathers_foldl (fun e _ acc => takes_putMember e acc) []
  have hentries := hbody.entries hput (by omega) (n := size) (by omega) r
  have hopening : sortedEntries ⟨depth + 1, size⟩ (pad ++ ('{' :: body ++ ['}'] ++ r)) =
      (entries size (putMember ⟨depth, size⟩) size true [] (body ++ '}' :: r)).andThen fun es r =>
      (closeObject r).map fun _ => es := by
    rw [List.append_assoc, List.cons_append, sortedEntries, container_object hpad,
      List.singleton_append]
    rfl
  rw [hopening, hentries, Scan.andThen_ok, closeObject_brace, Value.canonicalEntries_eq_foldl]
  rfl

end Reading

end DetailPanel.Json
