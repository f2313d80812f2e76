import DetailPanel.Proofs.Replay.Faults

/-!
# The numbers of steps

A replay writes the number of a step into the entries and the faults that the
step makes, and into nothing else.  So replays that are equal without these
numbers and without the count of the steps (`unnumbered`) stay so, whatever
numbers their steps go under.

    r.unnumbered.apply 0 s = … (r.apply n s).2.unnumbered …           (apply_unnumbered)
    r.unnumbered = r'.unnumbered → … (r.play ss).2.unnumbered = …      (play_unnumbered)
    r.unnumbered = r'.unnumbered → r.answer n name ss = r'.answer …    (answer_unnumbered)
-/

namespace DetailPanel

/-- What an entry tells beside the number of its step. -/
def Entry.unnumbered (e : Entry) : Entry := { e with step := 0 }

namespace Replay

/-- What a fault tells beside the number of its step. -/
def Fault.unnumbered : Fault → Fault
  | .unknownResult _ x => .unknownResult 0 x
  | .duplicateResult _ x => .duplicateResult 0 x

/-- What an outcome tells beside the numbers of its steps and their count. -/
def Outcome.unnumbered (o : Outcome) : Outcome where
  timeline := o.timeline.map Entry.unnumbered
  summary := { o.summary with steps := 0 }

/-- What a run says beside the numbers of its steps and their count. -/
def unnumberedAnswer : Except Fault Outcome → Except Fault Outcome
  | .ok o => .ok o.unnumbered
  | .error e => .error e.unnumbered

/-- A replay without the numbers of its steps and their count: its workspace with
the clock, the panel and all that is pending, the names of the results, the
throttled runs, and the times, causes and flags of its entries. -/
def unnumbered (r : Replay) : Replay :=
  { r with timeline := r.timeline.map Entry.unnumbered, steps := 0 }

/-- What is said of a replay after more steps, numbered from `n`. -/
def answer (r : Replay) (n : Nat) (name : Option String) (ss : List Step) : Except Fault Outcome :=
  (r.applyAll n ss).map (·.finish name)

variable {r r' : Replay}

@[simp] theorem unnumbered_withCount (r : Replay) (k : Nat) :
    (r.withCount k).unnumbered = r.unnumbered := rfl

theorem unnumbered_record (r : Replay) (n : Nat) (cause : Cause) :
    (r.record n cause).unnumbered = r.unnumbered.record 0 cause := by
  have hflags : r.unnumbered.flags = r.flags := rfl
  have hlast : r.unnumbered.lastFlags = r.lastFlags := rfl
  unfold record
  rw [hflags, hlast]
  split
  · rfl
  · simp [unnumbered, Entry.unnumbered]

theorem unnumbered_runAt (r : Replay) (n d : Nat) :
    (r.runAt n d).unnumbered = r.unnumbered.runAt 0 d := by
  have hpoll : (r.unnumbered.workspace.advanceTo d).poll r.unnumbered.panel d =
      (r.workspace.advanceTo d).poll r.panel d := rfl
  unfold runAt
  rw [hpoll]
  dsimp only
  split
  · rw [unnumbered_record]
    rfl
  · rfl

theorem unnumbered_runUntil (r : Replay) (n target : Nat) :
    (r.runUntil n target).unnumbered = r.unnumbered.runUntil 0 target := by
  have hdeadline : r.unnumbered.deadline = r.deadline := rfl
  by_cases hdue : r.deadline.any (· ≤ target)
  · obtain ⟨d, hd, hle⟩ := (Option.any_eq_true ..).1 hdue
    have hle : d ≤ target := by simpa using hle
    rw [runUntil_of_due hd hle, runUntil_of_due (hdeadline.trans hd) hle, unnumbered_runAt]
  · rw [runUntil_of_not_due hdue, runUntil_of_not_due (by rwa [hdeadline])]

theorem unnumbered_advance (r : Replay) (n ms : Nat) :
    (r.advance n ms).unnumbered = r.unnumbered.advance 0 ms := by
  have hnow : r.unnumbered.workspace.now = r.workspace.now := rfl
  unfold advance
  dsimp only
  rw [hnow, ← unnumbered_runUntil]
  rfl

/-- What a step does, whatever its number is. -/
theorem act_unnumbered (r : Replay) (n : Nat) (s : Step) :
    r.unnumbered.act 0 s = match r.act n s with
      | .ok r' => .ok r'.unnumbered
      | .error e => .error e.unnumbered := by
  have hnamed : ∀ (x : String) (f f' : ResultId → Replay), (∀ id, f' id = (f id).unnumbered) →
      r.unnumbered.withResult 0 x f' = match r.withResult n x f with
        | .ok r' => .ok r'.unnumbered
        | .error e => .error e.unnumbered := by
    intro x f f' hf
    have hres : r.unnumbered.results = r.results := rfl
    unfold withResult
    rw [hres]
    cases r.results.get? x with
    | none => rfl
    | some id => exact congrArg Except.ok (hf id)
  cases s with
  | addResult x on =>
      have hres : r.unnumbered.results.contains x = r.results.contains x := rfl
      simp only [act, hres]
      split <;> rfl
  | selectResult x => exact hnamed x _ _ fun _ => rfl
  | beginFetch x | completeFetch x | failFetch x => exact hnamed x _ _ fun _ => rfl
  | clearResult | selectMetacard | clearMetacard | render => rfl
  | advance ms => exact congrArg Except.ok (r.unnumbered_advance n ms.toNat).symm

theorem apply_unnumbered (r : Replay) (n : Nat) (s : Step) :
    r.unnumbered.apply 0 s =
      ((r.apply n s).1.map Fault.unnumbered, (r.apply n s).2.unnumbered.withCount 1) := by
  rw [apply_eq, apply_eq, act_unnumbered r n s]
  cases r.act n s with
  | error e => rfl
  | ok r' =>
      show (none, (r'.unnumbered.record 0 _).withCount 1) = _
      rw [← unnumbered_record]
      rfl

/-- The same step under two numbers. -/
theorem apply_unnumbered_congr (h : r.unnumbered = r'.unnumbered) (n n' : Nat) (s : Step) :
    (r.apply n s).1.map Fault.unnumbered = (r'.apply n' s).1.map Fault.unnumbered ∧
      (r.apply n s).2.unnumbered = (r'.apply n' s).2.unnumbered := by
  have hr := apply_unnumbered r n s
  have hr' := apply_unnumbered r' n' s
  rw [h, hr', Prod.mk.injEq] at hr
  exact ⟨hr.1.symm, (congrArg (·.withCount 0) hr.2).symm⟩

/-- The same steps under other numbers meet the same faults and lead to the same
state. -/
theorem play_unnumbered (h : r.unnumbered = r'.unnumbered) {ss ss' : List (Nat × Step)}
    (hss : ss.map (·.2) = ss'.map (·.2)) :
    (r.play ss).1.map (Option.map Fault.unnumbered) =
        (r'.play ss').1.map (Option.map Fault.unnumbered) ∧
      (r.play ss).2.unnumbered = (r'.play ss').2.unnumbered := by
  induction ss generalizing r r' ss' with
  | nil =>
      obtain rfl := List.map_eq_nil_iff.1 hss.symm
      exact ⟨rfl, h⟩
  | cons e ss ih =>
      obtain ⟨e', ss', rfl, hs, hrest⟩ := List.map_eq_cons_iff.1 hss.symm
      obtain ⟨n, s⟩ := e
      obtain ⟨n', s'⟩ := e'
      obtain rfl : s' = s := hs
      obtain ⟨hfault, hnext⟩ := apply_unnumbered_congr h n n' s'
      obtain ⟨hfaults, hend⟩ := ih hnext hrest.symm
      rw [play_cons, play_cons]
      refine ⟨?_, hend⟩
      rw [List.map_cons, List.map_cons, hfault, hfaults]

theorem finish_unnumbered (r : Replay) (name : Option String) :
    r.unnumbered.finish name = (r.finish name).unnumbered := rfl

/-- The same steps from other numbers on come to the same end. -/
theorem answer_unnumbered (h : r.unnumbered = r'.unnumbered) (n n' : Nat) (name : Option String)
    (ss : List Step) :
    unnumberedAnswer (r.answer n name ss) = unnumberedAnswer (r'.answer n' name ss) := by
  induction ss generalizing r r' n n' with
  | nil =>
      show Except.ok (r.finish name).unnumbered = Except.ok (r'.finish name).unnumbered
      rw [← finish_unnumbered, h, finish_unnumbered]
  | cons s ss ih =>
      obtain ⟨hfault, hnext⟩ := apply_unnumbered_congr h n n' s
      have hnext := ih hnext (n + 1) (n' + 1)
      unfold answer at hnext ⊢
      rw [applyAll, applyAll]
      cases hr : r.apply n s with
      | mk fault r₁ =>
          cases hr' : r'.apply n' s with
          | mk fault' r₁' =>
              rw [hr, hr'] at hfault hnext
              cases fault with
              | none =>
                  obtain rfl : fault' = none := by simpa using hfault.symm
                  exact hnext
              | some e =>
                  obtain ⟨e', rfl, he⟩ := Option.map_eq_some_iff.1 hfault.symm
                  exact congrArg Except.error he.symm

/-- What stands in front is carried out first. -/
theorem answer_append {n : Nat} {ss : List Step} (h : r.applyAll n ss = .ok r')
    (name : Option String) (ts : List Step) :
    r.answer n name (ss ++ ts) = r'.answer (n + ss.length) name ts := by
  rw [answer, applyAll_append, h]
  rfl

end Replay

end DetailPanel
