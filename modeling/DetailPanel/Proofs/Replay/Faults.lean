import DetailPanel.Proofs.Replay.Refinement

/-!
# Steps that fail

A step fails if it adds a result that was added already, or refers to one that
was not.  It fails before it has changed anything, so a list of steps leads to
the states that the accepted ones among them lead to, but for the count of the
steps (`withCount`):

    (r.apply n s).1 = some e ↔ the step is of one of these two kinds     (fault_apply)
    (r.apply n s).1 = some e → (r.apply n s).2 = r.withCount (r.steps + 1)   (apply_of_fault)
    r.play (r.accepted ss) has no faults and ends where r.play ss does    (play_accepted)
-/

namespace DetailPanel

/-- The result, by its name, that a step needs to be there. -/
def Step.refersTo : Step → Option String
  | .selectResult x | .beginFetch x | .completeFetch x | .failFetch x => some x
  | _ => none

namespace Replay

/-- What goes with no fault. -/
def faultless {α : Type} (l : List α) (faults : List (Option Fault)) : List α :=
  ((l.zip faults).filter (·.2.isNone)).map (·.1)

/-- The steps that are not passed over. -/
def accepted (r : Replay) (ss : List (Nat × Step)) : List (Nat × Step) :=
  faultless ss (r.play ss).1

/-- A step that was accepted added a result of the name. -/
def Introduced (r : Replay) (ss : List (Nat × Step)) (x : String) : Prop :=
  ∃ n on, (n, .addResult x on) ∈ r.accepted ss

/-- The fault that a step must meet after the steps `ss`. -/
def Faulty (r : Replay) (ss : List (Nat × Step)) (n : Nat) (s : Step) (e : Fault) : Prop :=
  (∃ x on, s = .addResult x on ∧ r.Introduced ss x ∧ e = .duplicateResult n x) ∨
    ∃ x, s.refersTo = some x ∧ ¬ r.Introduced ss x ∧ e = .unknownResult n x

/-- The state after each step. -/
def states (r : Replay) : List (Nat × Step) → List Replay
  | [] => []
  | (n, s) :: ss => (r.apply n s).2 :: (r.apply n s).2.states ss

/-- The same state with another count of steps. -/
def withCount (r : Replay) (k : Nat) : Replay := { r with steps := k }

variable {r r' : Replay} {n : Nat} {s : Step} {e : Fault}

/-! ## The count of steps matters to nothing -/

@[simp] theorem withCount_withCount (r : Replay) (j k : Nat) :
    (r.withCount j).withCount k = r.withCount k := rfl

theorem record_withCount (r : Replay) (k n : Nat) (cause : Cause) :
    (r.withCount k).record n cause = (r.record n cause).withCount k := by
  have hflags : (r.withCount k).flags = r.flags := rfl
  have hlast : (r.withCount k).lastFlags = r.lastFlags := rfl
  unfold record
  rw [hflags, hlast]
  split <;> rfl

theorem runAt_withCount (r : Replay) (k n d : Nat) :
    (r.withCount k).runAt n d = (r.runAt n d).withCount k := by
  have hpoll : ((r.withCount k).workspace.advanceTo d).poll (r.withCount k).panel d =
      (r.workspace.advanceTo d).poll r.panel d := rfl
  unfold runAt
  rw [hpoll]
  dsimp only
  split
  · exact record_withCount
      { r.setWorkspace ((r.workspace.advanceTo d).poll r.panel d).2 with
        throttledRuns := r.throttledRuns + 1 } k n .throttle
  · rfl

theorem runUntil_withCount (r : Replay) (k n target : Nat) :
    (r.withCount k).runUntil n target = (r.runUntil n target).withCount k := by
  fun_induction r.runUntil n target with
  | case1 r d hd hle ih =>
      have hd' : (r.withCount k).deadline = some d := hd
      rw [runUntil]
      split
      · rename_i d' hd''
        obtain rfl : d = d' := Option.some.inj (hd'.symm.trans hd'')
        rw [if_pos hle, runAt_withCount, ih]
      · rename_i hnone
        simp [hd'] at hnone
  | case2 r d hd hle =>
      have hd' : (r.withCount k).deadline = some d := hd
      rw [runUntil]
      split
      · rename_i d' hd''
        obtain rfl : d = d' := Option.some.inj (hd'.symm.trans hd'')
        rw [if_neg hle]
      · rfl
  | case3 r hd =>
      have hd' : (r.withCount k).deadline = none := hd
      rw [runUntil]
      split
      · rename_i d' hd''
        simp [hd'] at hd''
      · rfl

theorem advance_withCount (r : Replay) (k n ms : Nat) :
    (r.withCount k).advance n ms = (r.advance n ms).withCount k := by
  have hnow : (r.withCount k).workspace.now = r.workspace.now := rfl
  unfold advance
  dsimp only
  rw [hnow, runUntil_withCount]
  rfl

theorem act_withCount (r : Replay) (k n : Nat) (s : Step) :
    (r.withCount k).act n s = (r.act n s).map (·.withCount k) := by
  have hnamed : ∀ (x : String) (f f' : ResultId → Replay), (∀ id, f' id = (f id).withCount k) →
      (r.withCount k).withResult n x f' = (r.withResult n x f).map (·.withCount k) := by
    intro x f f' hf
    have hres : (r.withCount k).results = r.results := rfl
    unfold withResult
    rw [hres]
    cases r.results.get? x with
    | none => rfl
    | some id => exact congrArg Except.ok (hf id)
  cases s with
  | addResult x on =>
      have hres : (r.withCount k).results.contains x = r.results.contains x := rfl
      simp only [act, hres]
      split <;> rfl
  | selectResult x => exact hnamed x _ _ fun _ => rfl
  | beginFetch x | completeFetch x | failFetch x => exact hnamed x _ _ fun _ => rfl
  | clearResult | selectMetacard | clearMetacard | render => rfl
  | advance ms =>
      show Except.ok ((r.withCount k).advance n ms.toNat) =
        Except.ok ((r.advance n ms.toNat).withCount k)
      rw [advance_withCount]

theorem apply_eq (r : Replay) (n : Nat) (s : Step) :
    r.apply n s = match r.act n s with
      | .ok r' => (none, (r'.record n (.step s.kind)).withCount (r.steps + 1))
      | .error e => (some e, r.withCount (r.steps + 1)) := by
  have hact : act { r with steps := r.steps + 1 } n s =
      (r.act n s).map (·.withCount (r.steps + 1)) := r.act_withCount (r.steps + 1) n s
  simp only [apply, hact]
  cases r.act n s with
  | error e => rfl
  | ok r' => exact congrArg (Prod.mk none) (record_withCount r' _ n _)

theorem apply_withCount (r : Replay) (k n : Nat) (s : Step) :
    (r.withCount k).apply n s = ((r.apply n s).1, (r.apply n s).2.withCount (k + 1)) := by
  rw [apply_eq, apply_eq, act_withCount]
  cases r.act n s with
  | error e => rfl
  | ok r' =>
      show (none, ((r'.withCount k).record n _).withCount (k + 1)) = _
      rw [record_withCount]
      rfl

theorem play_cons (r : Replay) (n : Nat) (s : Step) (ss : List (Nat × Step)) :
    r.play ((n, s) :: ss) =
      ((r.apply n s).1 :: ((r.apply n s).2.play ss).1, ((r.apply n s).2.play ss).2) := rfl

theorem play_withCount (r : Replay) (k : Nat) (ss : List (Nat × Step)) :
    (r.withCount k).play ss = ((r.play ss).1, (r.play ss).2.withCount (k + ss.length)) := by
  induction ss generalizing r k with
  | nil => rfl
  | cons e ss ih =>
      obtain ⟨n, s⟩ := e
      rw [play_cons, play_cons, apply_withCount, ih, List.length_cons, Nat.add_assoc,
        Nat.add_comm 1]

theorem steps_play (r : Replay) (ss : List (Nat × Step)) :
    (r.play ss).2.steps = r.steps + ss.length := by
  have h := congrArg (fun p => p.2.steps) (r.play_withCount r.steps ss)
  exact h

theorem accepted_withCount (r : Replay) (k : Nat) (ss : List (Nat × Step)) :
    (r.withCount k).accepted ss = r.accepted ss := by
  rw [accepted, play_withCount]
  rfl

/-! ## One step -/

theorem fault_apply_iff_act : (r.apply n s).1 = some e ↔ r.act n s = .error e := by
  rw [apply_eq]
  cases r.act n s <;> simp

/-- A step that fails is counted and changes nothing else. -/
theorem apply_of_fault (h : (r.apply n s).1 = some e) :
    (r.apply n s).2 = r.withCount (r.steps + 1) := by
  rw [apply_eq, fault_apply_iff_act.1 h]

theorem withResult_eq_error {x : String} {f : ResultId → Replay} :
    r.withResult n x f = .error e ↔ ¬ r.results.contains x ∧ e = .unknownResult n x := by
  unfold withResult Table.contains
  cases r.results.get? x with
  | none => simp [eq_comm]
  | some id => simp

theorem withResult_eq_ok {x : String} {f : ResultId → Replay} :
    r.withResult n x f = .ok r' ↔ ∃ id, r.results.get? x = some id ∧ f id = r' := by
  unfold withResult
  cases r.results.get? x with
  | none => simp
  | some id => simp

/-- The two ways to fail. -/
theorem fault_apply : (r.apply n s).1 = some e ↔
    (∃ x on, s = .addResult x on ∧ r.results.contains x ∧ e = .duplicateResult n x) ∨
      ∃ x, s.refersTo = some x ∧ ¬ r.results.contains x ∧ e = .unknownResult n x := by
  rw [fault_apply_iff_act]
  cases s with
  | addResult x on =>
      simp only [act]
      split
      · rename_i hx
        simp only [Step.refersTo, Except.error.injEq]
        constructor
        · rintro rfl
          exact .inl ⟨x, on, rfl, hx, rfl⟩
        · rintro (⟨y, on', hs, -, rfl⟩ | ⟨y, hs, -⟩)
          · obtain ⟨rfl, rfl⟩ : x = y ∧ on = on' := by simpa using hs
            rfl
          · cases hs
      · rename_i hx
        simp [Step.refersTo, hx]
  | selectResult x | beginFetch x | completeFetch x | failFetch x =>
      simp only [act]
      rw [withResult_eq_error]
      simp [Step.refersTo]
  | clearResult | selectMetacard | clearMetacard | advance | render =>
      simp [act, Step.refersTo]

theorem results_record (r : Replay) (n : Nat) (cause : Cause) :
    (r.record n cause).results = r.results := by
  unfold record
  split <;> rfl

/-- No step but an addition touches the table of results. -/
theorem results_runUntil (r : Replay) (n target : Nat) :
    (r.runUntil n target).results = r.results := by
  fun_induction r.runUntil n target with
  | case1 r d hd hle ih =>
      rw [ih]
      unfold runAt
      dsimp only
      split
      · exact results_record ..
      · rfl
  | case2 | case3 => rfl

theorem contains_act (h : r.act n s = .ok r') (x : String) :
    r'.results.contains x ↔ r.results.contains x ∨ ∃ on, s = .addResult x on := by
  have hsame : (∀ on, s ≠ .addResult x on) → r'.results = r.results →
      (r'.results.contains x ↔ r.results.contains x ∨ ∃ on, s = .addResult x on) := by
    intro hs hr
    simp [hr, hs]
  cases s with
  | addResult y on =>
      simp only [act] at h
      split at h
      · cases h
      · obtain rfl := Except.ok.inj h
        simp only [Table.contains, Table.get?_set]
        by_cases hx : x = y
        · simp [hx]
        · simp [hx, Ne.symm hx]
  | selectResult y | beginFetch y | completeFetch y | failFetch y =>
      obtain ⟨id, -, rfl⟩ := withResult_eq_ok.1 h
      exact hsame (by simp) rfl
  | clearResult | selectMetacard | clearMetacard | render =>
      obtain rfl := Except.ok.inj h
      exact hsame (by simp) rfl
  | advance ms =>
      obtain rfl := Except.ok.inj h
      exact hsame (by simp) (results_runUntil ..)

/-- A name is taken by the first step that is accepted to add it. -/
theorem contains_apply (r : Replay) (n : Nat) (s : Step) (x : String) :
    (r.apply n s).2.results.contains x ↔
      r.results.contains x ∨ (r.apply n s).1 = none ∧ ∃ on, s = .addResult x on := by
  rw [apply_eq]
  cases hact : r.act n s with
  | error e => simp [withCount]
  | ok r' =>
      have hres : ((r'.record n (.step s.kind)).withCount (r.steps + 1)).results = r'.results :=
        results_record ..
      simp [hres, contains_act hact x]

/-! ## All steps -/

theorem accepted_of_none (h : (r.apply n s).1 = none) (ss : List (Nat × Step)) :
    r.accepted ((n, s) :: ss) = (n, s) :: (r.apply n s).2.accepted ss := by
  simp [accepted, faultless, play_cons, h]

theorem accepted_of_fault (h : (r.apply n s).1 = some e) (ss : List (Nat × Step)) :
    r.accepted ((n, s) :: ss) = r.accepted ss := by
  have hrest : ((r.apply n s).2.play ss).1 = (r.play ss).1 := by
    rw [apply_of_fault h, play_withCount]
  simp [accepted, faultless, play_cons, h, hrest]

/-- The results that are there are those that were introduced. -/
theorem contains_play (r : Replay) (ss : List (Nat × Step)) (x : String) :
    (r.play ss).2.results.contains x ↔ r.results.contains x ∨ r.Introduced ss x := by
  induction ss generalizing r with
  | nil => simp [play, Introduced, accepted, faultless]
  | cons e ss ih =>
      obtain ⟨n, s⟩ := e
      rw [play_cons]
      show ((r.apply n s).2.play ss).2.results.contains x ↔ _
      rw [ih, contains_apply, or_assoc]
      refine or_congr_right ?_
      unfold Introduced
      cases hfault : (r.apply n s).1 with
      | none =>
          rw [accepted_of_none hfault]
          simp only [List.mem_cons, Prod.mk.injEq]
          constructor
          · rintro (⟨-, on, rfl⟩ | ⟨n', on, hmem⟩)
            · exact ⟨n, on, .inl ⟨rfl, rfl⟩⟩
            · exact ⟨n', on, .inr hmem⟩
          · rintro ⟨n', on, ⟨rfl, rfl⟩ | hmem⟩
            · exact .inl ⟨trivial, on, rfl⟩
            · exact .inr ⟨n', on, hmem⟩
      | some e =>
          rw [accepted_of_fault hfault, apply_of_fault hfault, accepted_withCount]
          simp

theorem steps_apply (r : Replay) (n : Nat) (s : Step) : (r.apply n s).2.steps = r.steps + 1 := by
  rw [apply_eq]
  cases r.act n s <;> rfl

/-- The accepted steps by themselves are all accepted, and end in the same state. -/
theorem play_accepted (r : Replay) (ss : List (Nat × Step)) :
    (∀ f ∈ (r.play (r.accepted ss)).1, f = none) ∧
      (r.play (r.accepted ss)).2 =
        (r.play ss).2.withCount (r.steps + (r.accepted ss).length) := by
  induction ss generalizing r with
  | nil => exact ⟨by simp [accepted, faultless, play], rfl⟩
  | cons e ss ih =>
      obtain ⟨n, s⟩ := e
      cases hfault : (r.apply n s).1 with
      | none =>
          obtain ⟨hnone, hend⟩ := ih (r.apply n s).2
          rw [accepted_of_none hfault, play_cons, play_cons, hfault]
          refine ⟨?_, ?_⟩
          · simpa using hnone
          · show ((r.apply n s).2.play ((r.apply n s).2.accepted ss)).2 = _
            rw [hend, steps_apply, List.length_cons, Nat.add_assoc, Nat.add_comm 1]
      | some e =>
          obtain ⟨hnone, hend⟩ := ih r
          rw [accepted_of_fault hfault, play_cons, apply_of_fault hfault, play_withCount]
          exact ⟨hnone, hend⟩

theorem states_withCount (r : Replay) (k : Nat) (ss : List (Nat × Step)) :
    ((r.withCount k).states ss).map (·.withCount 0) = (r.states ss).map (·.withCount 0) := by
  induction ss generalizing r k with
  | nil => rfl
  | cons e ss ih =>
      obtain ⟨n, s⟩ := e
      simp only [states, List.map_cons, apply_withCount, withCount_withCount, ih]

/-- The states after the accepted steps are those that the accepted steps by
themselves go through, but for the count. -/
theorem states_accepted (r : Replay) (ss : List (Nat × Step)) :
    faultless ((r.states ss).map (·.withCount 0)) (r.play ss).1 =
      (r.states (r.accepted ss)).map (·.withCount 0) := by
  induction ss generalizing r with
  | nil => rfl
  | cons e ss ih =>
      obtain ⟨n, s⟩ := e
      rw [states, play_cons]
      cases hfault : (r.apply n s).1 with
      | none =>
          have hrest := ih (r.apply n s).2
          rw [accepted_of_none hfault, states, List.map_cons, List.map_cons, ← hrest]
          simp [faultless]
      | some e =>
          have hrest := ih r
          rw [accepted_of_fault hfault, ← hrest, apply_of_fault hfault, play_withCount,
            List.map_cons, states_withCount]
          simp [faultless]

/-- A step fails, and none of those before it. -/
def FirstFault (r : Replay) (n : Nat) (ss : List Step) (e : Fault) : Prop :=
  ∃ before s after, ss = before ++ s :: after ∧
    (∀ f ∈ (r.play (numbered n before)).1, f = none) ∧
    ((r.play (numbered n before)).2.apply (n + before.length) s).1 = some e

theorem firstFault_cons {ss : List Step} : r.FirstFault n (s :: ss) e ↔
    (r.apply n s).1 = some e ∨
      (r.apply n s).1 = none ∧ (r.apply n s).2.FirstFault (n + 1) ss e := by
  constructor
  · rintro ⟨before, t, after, heq, hnone, he⟩
    cases before with
    | nil =>
        obtain ⟨rfl, rfl⟩ := List.cons.inj heq
        exact .inl he
    | cons s' before =>
        obtain ⟨rfl, rfl⟩ := List.cons.inj heq
        rw [numbered, play_cons] at hnone
        rw [numbered, play_cons, List.length_cons, Nat.add_comm before.length,
          ← Nat.add_assoc] at he
        obtain ⟨hfirst, hrest⟩ := List.forall_mem_cons.1 hnone
        exact .inr ⟨hfirst, before, t, after, rfl, hrest, he⟩
  · rintro (he | ⟨hfirst, before, t, after, rfl, hrest, he⟩)
    · exact ⟨[], s, ss, rfl, by simp [numbered, play], he⟩
    · refine ⟨s :: before, t, after, rfl, ?_, ?_⟩
      · rw [numbered, play_cons]
        exact List.forall_mem_cons.2 ⟨hfirst, hrest⟩
      · rw [numbered, play_cons, List.length_cons, Nat.add_comm before.length, ← Nat.add_assoc]
        exact he

/-- A scenario is refused at the first step that fails. -/
theorem applyAll_eq_error (r : Replay) (n : Nat) (ss : List Step) (e : Fault) :
    r.applyAll n ss = .error e ↔ r.FirstFault n ss e := by
  induction ss generalizing r n with
  | nil => simp [applyAll, FirstFault]
  | cons s ss ih =>
      rw [applyAll, firstFault_cons]
      cases hfault : (r.apply n s).1 with
      | none =>
          have happly : r.apply n s = (none, (r.apply n s).2) := Prod.ext hfault rfl
          rw [happly]
          simpa using ih (r.apply n s).2 (n + 1)
      | some e' =>
          have happly : r.apply n s = (some e', (r.apply n s).2) := Prod.ext hfault rfl
          rw [happly]
          simp

/-! ## From the beginning -/

/-- What can be said of all faults of the replays of a configuration. -/
structure FaultsExact (config : Config) : Prop where
  /-- A step fails if it is one of these two kinds, and as it says there. -/
  fault_iff : ∀ ss n s e,
    (((new config).play ss).2.apply n s).1 = some e ↔ (new config).Faulty ss n s e
  /-- A step that fails is counted and changes nothing else. -/
  harmless : ∀ ss n s e, (((new config).play ss).2.apply n s).1 = some e →
    (((new config).play ss).2.apply n s).2 =
      { ((new config).play ss).2 with steps := ((new config).play ss).2.steps + 1 }
  /-- The accepted steps by themselves are all accepted. -/
  accepted : ∀ ss, ∀ f ∈ ((new config).play ((new config).accepted ss)).1, f = none
  /-- They go through the same states, but for the count. -/
  states : ∀ ss,
    faultless (((new config).states ss).map (·.withCount 0)) ((new config).play ss).1 =
      ((new config).states ((new config).accepted ss)).map (·.withCount 0)
  /-- They have the same outcome, but for the count, which is of all steps. -/
  outcome : ∀ ss name,
    let o := ((new config).play ((new config).accepted ss)).2.finish name
    ((new config).play ss).2.finish name =
      { o with summary := { o.summary with steps := ss.length } }
  /-- A run is refused at the first step that fails, with its number and its name. -/
  run_error : ∀ name ss e, run config ⟨name, ss⟩ = .error e ↔
    ∃ before s after, ss = before ++ s :: after ∧
      (∀ f ∈ ((new config).play (numbered 1 before)).1, f = none) ∧
      (new config).Faulty (numbered 1 before) (before.length + 1) s e

theorem introduced_iff (config : Config) (ss : List (Nat × Step)) (x : String) :
    ((new config).play ss).2.results.contains x ↔ (new config).Introduced ss x := by
  have hnew : ¬ (new config).results.contains x := by
    have hempty : (new config).results = [] := results_record ..
    simp [hempty, Table.contains]
  rw [contains_play]
  simp [hnew]

theorem faulty_iff (config : Config) (ss : List (Nat × Step)) (n : Nat) (s : Step) (e : Fault) :
    (((new config).play ss).2.apply n s).1 = some e ↔ (new config).Faulty ss n s e := by
  rw [fault_apply]
  simp only [introduced_iff]
  rfl

/-- The faults of a replay are exact and do no harm. -/
theorem faults_exact (config : Config) : FaultsExact config where
  fault_iff := faulty_iff config
  harmless ss n s e h := apply_of_fault h
  accepted ss := ((new config).play_accepted ss).1
  states ss := (new config).states_accepted ss
  outcome ss name := by
    have hsteps : ((new config).play ss).2.steps = ss.length := by
      rw [steps_play]
      have hzero : (new config).steps = 0 := rfl
      rw [hzero, Nat.zero_add]
    rw [((new config).play_accepted ss).2]
    simp only [finish, hsteps]
    rfl
  run_error name ss e := by
    have hrun : run config ⟨name, ss⟩ = .error e ↔ (new config).applyAll 1 ss = .error e := by
      unfold run
      cases (new config).applyAll 1 ss <;> simp [Except.map]
    rw [hrun, applyAll_eq_error, FirstFault]
    simp only [← faulty_iff, Nat.add_comm]

end Replay

end DetailPanel
