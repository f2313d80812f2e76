import DetailPanel.Proofs.Replay.Numbers
import DetailPanel.Proofs.Replay.Timing

/-!
# How time is sliced does not matter

An advance runs what falls due with the clock at the deadline, so it makes no
difference whether the clock gets there in one go: the cut lies after the
deadline, and the second advance finds nothing left to run, or it lies before,
and the first one runs nothing.  A deadline that a fetch has made is a whole
window away, so while the window is positive nothing is due between steps
(`Ahead`), and an advance by nothing does nothing.

    InStep window r q → (r.advance n a).advance m b is r.advance k (a + b)   (advance_advance)
    InStep window r q → r.Ahead → r.advance n 0 = r                          (advance_zero)
-/

namespace DetailPanel.Replay

variable {config : Config} {window : Nat} {r r' : Replay} {q q' : Reference} {n : Nat} {s : Step}

/-- What is pending falls due later than now. -/
def Ahead (r : Replay) : Prop := ∀ d, r.deadline = some d → r.workspace.now < d

/-- Let time pass in which nothing falls due. -/
def passTo (r : Replay) (t : Nat) : Replay := r.setWorkspace (r.workspace.advanceTo t)

/-! ## Nothing is left to be observed -/

theorem effects_record (r : Replay) (n : Nat) (cause : Cause) :
    (r.record n cause).workspace.effects = r.workspace.effects := by
  unfold record
  split <;> rfl

theorem effects_act (he : r.workspace.effects = []) (hact : r.act n s = .ok r') :
    r'.workspace.effects = [] := by
  cases s with
  | addResult x on =>
      simp only [act] at hact
      split at hact
      · cases hact
      · obtain rfl := Except.ok.inj hact
        exact he
  | selectResult x | beginFetch x | completeFetch x | failFetch x =>
      obtain ⟨id, -, rfl⟩ := withResult_eq_ok.1 hact
      rfl
  | clearResult | selectMetacard | clearMetacard | advance | render =>
      obtain rfl := Except.ok.inj hact
      rfl

theorem effects_apply (he : r.workspace.effects = []) (n : Nat) (s : Step) :
    (r.apply n s).2.workspace.effects = [] := by
  rw [apply_eq]
  cases hact : r.act n s with
  | error e => exact he
  | ok r' => exact (effects_record r' n _).trans (effects_act he hact)

theorem effects_new (config : Config) : (new config).workspace.effects = [] := effects_record ..

/-! ## Two advances -/

theorem advanceTo_advanceTo (w : Workspace) {t u : Nat} (h : t ≤ u) :
    (w.advanceTo t).advanceTo u = w.advanceTo u := by
  have hclock : (w.clock.advanceTo t).advanceTo u = w.clock.advanceTo u := by
    show { w.clock with now := max (max w.clock.now t) u } =
      { w.clock with now := max w.clock.now u }
    rw [Nat.max_assoc, Nat.max_eq_right h]
  simp only [Workspace.advanceTo, hclock]

theorem passTo_passTo (r : Replay) {t u : Nat} (h : t ≤ u) :
    (r.passTo t).passTo u = r.passTo u := by
  show r.setWorkspace ((r.workspace.advanceTo t).advanceTo u) = r.passTo u
  rw [advanceTo_advanceTo _ h]
  rfl

theorem setWorkspace_of_effects {w : Workspace} (he : w.effects = []) :
    r.setWorkspace w = { r with workspace := w } := by
  unfold setWorkspace
  rw [← he]

theorem passTo_of_effects (he : r.workspace.effects = []) (t : Nat) :
    r.passTo t = { r with workspace := r.workspace.advanceTo t } := setWorkspace_of_effects he

/-- The clock goes to the deadline from wherever it is. -/
theorem runAt_passTo (he : r.workspace.effects = []) {t d : Nat} (h : t ≤ d) (n : Nat) :
    (r.passTo t).runAt n d = r.runAt n d := by
  rw [passTo_of_effects he]
  unfold runAt
  rw [advanceTo_advanceTo _ h]
  rfl

theorem advance_of_due {d ms : Nat} (hd : r.deadline = some d) (hle : d ≤ r.workspace.now + ms)
    (n : Nat) : r.advance n ms = (r.runAt n d).passTo (r.workspace.now + ms) := by
  unfold advance
  dsimp only
  rw [runUntil_of_due hd hle]
  rfl

theorem advance_of_not_due {ms : Nat} (h : ¬ r.deadline.any (· ≤ r.workspace.now + ms)) (n : Nat) :
    r.advance n ms = r.passTo (r.workspace.now + ms) := by
  unfold advance
  dsimp only
  rw [runUntil_of_not_due h]
  rfl

/-- Where a deadline lies in the first part or in the second, or in neither, the
two parts run what the whole runs. -/
theorem InStep.advance_advance (h : InStep window r q) (he : r.workspace.effects = [])
    (n m k a b : Nat) :
    ((r.advance n a).advance m b).unnumbered = (r.advance k (a + b)).unnumbered := by
  have hmid : (r.advance n a).workspace.now = r.workspace.now + a := by
    rw [(h.toMatches.advance h.last n a).1.agrees.now, Reference.now_advance, h.agrees.now]
  by_cases hfirst : r.deadline.any (· ≤ r.workspace.now + a)
  · obtain ⟨d, hd, hle⟩ := (Option.any_eq_true ..).1 hfirst
    have hle : d ≤ r.workspace.now + a := by simpa using hle
    have hnone : (r.advance n a).deadline = none := by
      rw [advance_of_due hd hle]
      exact deadline_runAt hd
    rw [advance_of_not_due (by simp [hnone]), hmid, advance_of_due hd hle,
      advance_of_due hd (by omega), passTo_passTo _ (by omega), Nat.add_assoc]
    show ((r.runAt n d).unnumbered.passTo _) = ((r.runAt k d).unnumbered.passTo _)
    rw [unnumbered_runAt, unnumbered_runAt]
  · have hpass := advance_of_not_due hfirst n
    have hdeadline : (r.advance n a).deadline = r.deadline := by rw [hpass]; rfl
    by_cases hsecond : r.deadline.any (· ≤ r.workspace.now + (a + b))
    · obtain ⟨d, hd, hle⟩ := (Option.any_eq_true ..).1 hsecond
      have hle : d ≤ r.workspace.now + (a + b) := by simpa using hle
      have hlater : r.workspace.now + a < d := by simpa [hd] using hfirst
      rw [advance_of_due (hdeadline.trans hd) (by omega), hmid, hpass,
        runAt_passTo he (by omega), advance_of_due hd hle, Nat.add_assoc]
      show ((r.runAt m d).unnumbered.passTo _) = ((r.runAt k d).unnumbered.passTo _)
      rw [unnumbered_runAt, unnumbered_runAt]
    · rw [advance_of_not_due (by rwa [hdeadline, hmid, Nat.add_assoc]), hmid, hpass,
        advance_of_not_due hsecond, passTo_passTo _ (by omega), Nat.add_assoc]

/-- An advance makes no entry at its end. -/
theorem InStep.apply_advance (h : InStep window r q) (n : Nat) (ms : UInt64) :
    r.apply n (.advance ms) = (none, (r.advance n ms.toNat).withCount (r.steps + 1)) := by
  obtain ⟨hadv, hlast, -⟩ := h.toMatches.advance h.last n ms.toNat
  have hrecord : (r.advance n ms.toNat).record n (.step .advance) = r.advance n ms.toNat := by
    rw [record, if_pos (by rw [hlast, hadv.flags])]
  rw [apply_eq]
  show (none, ((r.advance n ms.toNat).record n (.step .advance)).withCount _) = _
  rw [hrecord]

theorem InStep.unnumbered_apply_advance (h : InStep window r q) (n : Nat) (ms : UInt64) :
    (r.apply n (.advance ms)).2.unnumbered = (r.advance n ms.toNat).unnumbered := by
  rw [h.apply_advance]
  rfl

theorem InStep.play_advance (h : InStep window r q) (he : r.workspace.effects = []) {a b : UInt64}
    (hab : a.toNat + b.toNat < UInt64.size) (k l m : Nat) :
    (r.play [(k, .advance a), (l, .advance b)]).2.unnumbered =
      (r.play [(m, .advance (a + b))]).2.unnumbered := by
  have hsum : (a + b).toNat = a.toNat + b.toNat := by
    rw [UInt64.toNat_add]
    exact Nat.mod_eq_of_lt hab
  show ((r.apply k (.advance a)).2.apply l (.advance b)).2.unnumbered =
    (r.apply m (.advance (a + b))).2.unnumbered
  rw [(h.after k (.advance a)).unnumbered_apply_advance, h.unnumbered_apply_advance, hsum,
    unnumbered_advance, h.unnumbered_apply_advance, ← unnumbered_advance]
  exact h.advance_advance he k l m a.toNat b.toNat

/-! ## Nothing is due between steps -/

namespace Reference

theorem ahead_after (hwindow : 0 < window) (h : ∀ d, q.deadline = some d → q.now < d) (n : Nat)
    (s : Step) : ∀ d, (q.after window n s).deadline = some d → (q.after window n s).now < d := by
  have hnamed : ∀ (x : String) (q' : Reference), (∀ d, q'.deadline = some d → q'.now < d) →
      ∀ d, ((q.withResult n x q').toOption.getD q).deadline = some d →
        ((q.withResult n x q').toOption.getD q).now < d := by
    intro x q' hq'
    rw [getD_withResult]
    split
    · exact hq'
    · exact h
  have hselect : ∀ current d, (q.select current).deadline = some d →
      (q.select current).now < d := by
    intro current
    unfold select
    split
    · exact h
    · simp [render]
  have hselectCard : ∀ card d, (q.selectCard card).deadline = some d →
      (q.selectCard card).now < d := by
    intro card
    unfold selectCard
    split <;> exact h
  have hfetch : ∀ x on d, (q.fetch window x on).deadline = some d →
      (q.fetch window x on).now < d := by
    intro x on
    unfold fetch
    split
    · intro d hd
      obtain rfl := Option.some.inj hd
      exact Nat.lt_add_of_pos_right hwindow
    · exact h
  cases s with
  | addResult x on =>
      simp only [after, step]
      split <;> exact h
  | selectResult x => exact hnamed x _ (hselect (some x))
  | clearResult => exact hselect none
  | selectMetacard id title => exact hselectCard (some (id, title))
  | clearMetacard => exact hselectCard none
  | beginFetch x => exact hnamed x _ (hfetch x true)
  | completeFetch x | failFetch x => exact hnamed x _ (hfetch x false)
  | advance ms =>
      show ∀ d, (q.advance ms.toNat).deadline = some d → (q.advance ms.toNat).now < d
      unfold advance
      split
      · simp [render]
      · rename_i hnot
        intro d hd
        have hd : q.deadline = some d := hd
        simpa [hd] using hnot
  | render =>
      intro d hd
      have hd : none = some d := hd
      cases hd

end Reference

theorem InStep.ahead_apply (h : InStep window r q) (hwindow : 0 < window) (hahead : r.Ahead)
    (n : Nat) (s : Step) : (r.apply n s).2.Ahead := by
  have hafter := h.after n s
  have hq : ∀ d, q.deadline = some d → q.now < d := by
    rw [← h.deadline, ← h.agrees.now]
    exact hahead
  unfold Ahead
  rw [hafter.deadline, hafter.agrees.now]
  exact Reference.ahead_after hwindow hq n s

/-- Where nothing is due, an advance by nothing does nothing. -/
theorem advance_zero (he : r.workspace.effects = []) (hahead : r.Ahead) (n : Nat) :
    r.advance n 0 = r := by
  have hnot : ¬ r.deadline.any (· ≤ r.workspace.now + 0) := by
    intro hany
    obtain ⟨d, hd, hle⟩ := (Option.any_eq_true ..).1 hany
    have := hahead d hd
    simp at hle
    omega
  have hclock : r.workspace.advanceTo ((r.workspace.now + 0 : Nat) : Int) = r.workspace := by
    have hsame : r.workspace.clock.advanceTo ((r.workspace.now + 0 : Nat) : Int) =
        r.workspace.clock := by
      show { r.workspace.clock with now := max r.workspace.now r.workspace.now } = _
      rw [Nat.max_self]
      rfl
    simp only [Workspace.advanceTo, hsame]
  rw [advance_of_not_due hnot, passTo_of_effects he, hclock]

/-! ## Reachable replays -/

theorem effects_play (he : r.workspace.effects = []) (ss : List (Nat × Step)) :
    (r.play ss).2.workspace.effects = [] := by
  induction ss generalizing r with
  | nil => exact he
  | cons e ss ih => exact ih (effects_apply he e.1 e.2)

theorem InStep.ahead_play (h : InStep window r q) (hwindow : 0 < window) (hahead : r.Ahead)
    (ss : List (Nat × Step)) : (r.play ss).2.Ahead := by
  induction ss generalizing r q with
  | nil => exact hahead
  | cons e ss ih => exact ih (h.after e.1 e.2) (h.ahead_apply hwindow hahead e.1 e.2)

theorem ahead_new (config : Config) : (new config).Ahead := by
  intro d hd
  rw [(inStep_new config).1.deadline] at hd
  cases hd

/-- An advance by nothing is counted and does nothing else, so it only shifts the
numbers of the steps after it. -/
theorem run_advance_zero (hwindow : 0 < config.window) (name : Option String) (ss ts : List Step) :
    unnumberedAnswer (run config ⟨name, ss ++ .advance 0 :: ts⟩) =
      unnumberedAnswer (run config ⟨name, ss ++ ts⟩) := by
  show unnumberedAnswer ((new config).answer 1 name (ss ++ .advance 0 :: ts)) =
    unnumberedAnswer ((new config).answer 1 name (ss ++ ts))
  cases hr : (new config).applyAll 1 ss with
  | error e =>
      rw [answer, answer, applyAll_append, applyAll_append, hr]
      rfl
  | ok r =>
      obtain ⟨-, hin, -⟩ := (inStep_new config).1.play (numbered 1 ss)
      have heffects := effects_play (effects_new config) (numbered 1 ss)
      have hahead := (inStep_new config).1.ahead_play hwindow (ahead_new config) (numbered 1 ss)
      rw [play_of_applyAll hr] at hin heffects hahead
      have happly : r.apply (1 + ss.length) (.advance 0) = (none, r.withCount (r.steps + 1)) := by
        rw [hin.apply_advance]
        show (none, (r.advance _ 0).withCount _) = _
        rw [advance_zero heffects hahead]
      have hskip : r.answer (1 + ss.length) name (.advance 0 :: ts) =
          (r.withCount (r.steps + 1)).answer (1 + ss.length + 1) name ts := by
        rw [answer, applyAll, happly]
        rfl
      rw [answer_append hr, answer_append hr, hskip]
      exact answer_unnumbered (unnumbered_withCount r _) _ _ name ts

/-- After any steps, two advances lead to the state that one advance by their sum
leads to, but for the numbers of the steps, and whatever steps come next meet the
same faults and lead to the same states.  Where the window is positive, an advance
by nothing makes no difference to a run. -/
theorem time_slicing (config : Config) :
    (∀ (ss : List (Nat × Step)) (a b : UInt64) (k l m : Nat), a.toNat + b.toNat < UInt64.size →
      let sliced := (((new config).play ss).2.play [(k, .advance a), (l, .advance b)]).2
      let whole := (((new config).play ss).2.play [(m, .advance (a + b))]).2
      sliced.unnumbered = whole.unnumbered ∧
        ∀ ts ts' : List (Nat × Step), ts.map (·.2) = ts'.map (·.2) →
          (sliced.play ts).1.map (Option.map Fault.unnumbered) =
              (whole.play ts').1.map (Option.map Fault.unnumbered) ∧
            (sliced.play ts).2.unnumbered = (whole.play ts').2.unnumbered) ∧
      (0 < config.throttleMs → ∀ (name : Option String) (ss ts : List Step),
        unnumberedAnswer (run config ⟨name, ss ++ .advance 0 :: ts⟩) =
          unnumberedAnswer (run config ⟨name, ss ++ ts⟩)) := by
  refine ⟨fun ss a b k l m hab => ?_, fun hwindow name ss ts => ?_⟩
  · intro sliced whole
    obtain ⟨-, hin, -⟩ := (inStep_new config).1.play ss
    have hsame : sliced.unnumbered = whole.unnumbered :=
      hin.play_advance (effects_play (effects_new config) ss) hab k l m
    exact ⟨hsame, fun ts ts' hts => play_unnumbered hsame hts⟩
  · exact run_advance_zero (UInt64.lt_iff_toNat_lt.1 hwindow) name ss ts

/-- The cut lies before the deadline of a fetch. -/
theorem time_slicing_before_deadline :
    let ss : List Step := [.addResult "a" true, .selectResult "a", .beginFetch "a"]
    let r := ((new {}).play (numbered 1 ss)).2
    let sliced := (r.play [(4, .advance 30), (5, .advance 40)]).2
    let whole := (r.play [(4, .advance 70)]).2
    r.deadline = some 60 ∧ sliced.unnumbered = whole.unnumbered ∧ whole.workspace.now = 70 ∧
      unnumberedAnswer (run {} ⟨none, ss ++ .advance 0 :: [.advance 70]⟩) =
        unnumberedAnswer (run {} ⟨none, ss ++ [.advance 70]⟩) := by
  intro ss r sliced whole
  have hin := ((inStep_new {}).1.play (numbered 1 ss)).2.1
  obtain ⟨hsliced, hzero⟩ := time_slicing {}
  exact ⟨hin.deadline, (hsliced (numbered 1 ss) 30 40 4 5 4 (by decide)).1,
    (hin.after 4 (.advance 70)).agrees.now, hzero (by decide) none ss [.advance 70]⟩

end DetailPanel.Replay
