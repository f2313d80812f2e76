import DetailPanel.Proofs.Replay.Timing

/-!
# How an advance ends

An advance goes from deadline to deadline until none is left up to its target.  Each
round fires, since a poll at a deadline always does, and nothing that a round does opens
a window again.  So there is one round at most, and the loop ends for every window, zero
included.

    Loop n target r rounds r'   : the loop goes from r through the rounds to r'
    r.Loop… ends in r.runUntil n target after at most one round             (loop_runUntil)
    InStep window r q → Advanced r n ms rounds (r.runUntil …)               (InStep.advanced)
-/

namespace DetailPanel.Replay

/-- The loop that runs what falls due up to `target`: the states that its rounds lead to, and
the state in which it stops because nothing more falls due. -/
inductive Loop (n target : Nat) : Replay → List Replay → Replay → Prop
  | stop {r : Replay} (h : ∀ d, r.deadline = some d → target < d) : Loop n target r [] r
  | round {r r' : Replay} {rounds : List Replay} {d : Nat} (h : r.deadline = some d)
      (hle : d ≤ target) (hrest : Loop n target (r.runAt n d) rounds r') :
      Loop n target r (r.runAt n d :: rounds) r'

/-- What an advance does on its way: the states after its rounds, and where its loop stops. -/
structure Advanced (r : Replay) (n ms : Nat) (rounds : List Replay) (r' : Replay) : Prop where
  loop : Loop n (r.workspace.now + ms) r rounds r'
  once : rounds.length ≤ 1
  /-- A round runs what was pending, with the clock at the deadline. -/
  runs : ∀ r₁ ∈ rounds, r.deadline = some r₁.workspace.now ∧
    r₁.throttledRuns = r.throttledRuns + 1
  ends : r.advance n ms = r'.setWorkspace (r'.workspace.advanceTo (r.workspace.now + ms : Nat))
  counted : (r.advance n ms).throttledRuns = r.throttledRuns + rounds.length
  /-- The clock goes forward all the way. -/
  forward : (r.workspace.now :: rounds.map (·.workspace.now) ++
    [(r.advance n ms).workspace.now]).Pairwise (· ≤ ·)
  arrives : (r.advance n ms).workspace.now = r.workspace.now + ms
  /-- Nothing is left that is due. -/
  settled : ∀ d, (r.advance n ms).deadline = some d → (r.advance n ms).workspace.now < d

variable {window : Nat} {r : Replay} {q : Reference}

/-- The loop ends, after one round at most: a round leaves no deadline. -/
theorem loop_runUntil (r : Replay) (n target : Nat) :
    ∃ rounds, Loop n target r rounds (r.runUntil n target) ∧
      rounds = if r.deadline.any (· ≤ target) then [r.runUntil n target] else [] := by
  by_cases hdue : r.deadline.any (· ≤ target) = true
  · obtain ⟨d, hd, hle⟩ := (Option.any_eq_true ..).1 hdue
    have hle : d ≤ target := by simpa using hle
    have hrun : r.runUntil n target = r.runAt n d := runUntil_of_due hd hle n
    have hnone : (r.runAt n d).deadline = none := deadline_runAt hd
    refine ⟨[r.runAt n d], ?_, ?_⟩
    · rw [hrun]
      refine .round hd hle (.stop ?_)
      intro d' hd'
      rw [hnone] at hd'
      cases hd'
    · rw [if_pos hdue, hrun]
  · have hstay : r.runUntil n target = r := runUntil_of_not_due hdue n
    refine ⟨[], ?_, ?_⟩
    · rw [hstay]
      refine .stop ?_
      intro d hd
      have hlate : ¬ d ≤ target := by simpa [hd] using hdue
      omega
    · rw [if_neg hdue]

theorem InStep.advanced (h : InStep window r q) (n ms : Nat) :
    ∃ rounds, Advanced r n ms rounds (r.runUntil n (r.workspace.now + ms)) := by
  have hnow : r.workspace.now = q.now := h.agrees.now
  have harrived := (h.toMatches.advance h.last n ms).1
  have hend : (r.advance n ms).workspace.now = r.workspace.now + ms := by
    rw [harrived.agrees.now, q.now_advance, hnow]
  have hleft : (r.advance n ms).deadline = (q.advance ms).deadline := harrived.deadline
  obtain ⟨rounds, hloop, hrounds⟩ := loop_runUntil r n (r.workspace.now + ms)
  refine ⟨rounds, ?_⟩
  by_cases hdue : r.deadline.any (· ≤ r.workspace.now + ms) = true
  · obtain ⟨d, hd, hle⟩ := (Option.any_eq_true ..).1 hdue
    have hle : d ≤ r.workspace.now + ms := by simpa using hle
    have hdq : q.deadline = some d := h.deadline.symm.trans hd
    have hrun : r.runUntil n (r.workspace.now + ms) = r.runAt n d := runUntil_of_due hd hle n
    have hat : (r.runAt n d).workspace.now = d :=
      (h.toMatches.runAt h.last hdq n).1.agrees.now
    have hcount : (r.runAt n d).throttledRuns = r.throttledRuns + 1 := h.throttledRuns_runAt hdq n
    have hfrom : r.workspace.now ≤ d := hnow ▸ h.due d hdq
    rw [if_pos hdue, hrun] at hrounds
    subst hrounds
    constructor
    · exact hloop
    · exact Nat.le_refl 1
    · intro r₁ hr₁
      obtain rfl := List.mem_singleton.1 hr₁
      exact ⟨hat.symm ▸ hd, hcount⟩
    · rfl
    · show (r.runUntil n (r.workspace.now + ms)).throttledRuns = _
      rw [hrun]
      exact hcount
    · rw [hend]
      simp [hat]
      omega
    · exact hend
    · intro d' hd'
      have hnone : (q.advance ms).deadline = none := by
        rw [Reference.advance, if_pos (by rw [hdq]; simpa [hnow] using hle)]
        rfl
      rw [hleft, hnone] at hd'
      cases hd'
  · have hstay : r.runUntil n (r.workspace.now + ms) = r := runUntil_of_not_due hdue n
    rw [if_neg hdue] at hrounds
    subst hrounds
    constructor
    · exact hloop
    · exact Nat.zero_le 1
    · intro r₁ hr₁
      cases hr₁
    · rfl
    · show (r.runUntil n (r.workspace.now + ms)).throttledRuns = _
      rw [hstay]
      rfl
    · rw [hend]
      simp
    · exact hend
    · intro d hd
      have hkept : (q.advance ms).deadline = q.deadline := by
        rw [Reference.advance, if_neg (by rw [← h.deadline, ← hnow]; exact hdue)]
      rw [hleft, hkept, ← h.deadline] at hd
      have hlate : ¬ d ≤ r.workspace.now + ms := by simpa [hd] using hdue
      omega

/-- A poll at or after a deadline fires and closes the window.  So from every state that a
replay can be in, whatever its window is, the loop of an advance ends after at most one
throttled run, which comes with the clock at the deadline that was pending; the clock goes
forward, by the time asked for in all, and what is pending then lies ahead of it. -/
theorem advance_ends :
    (∀ (t : Throttle) (d now : Nat), t.deadline = some d → d ≤ now →
      (t.poll now).1 = true ∧ (t.poll now).2.isPending = false) ∧
    ∀ (config : Config) (ss : List (Nat × Step)) (k n ms : Nat),
      ∃ rounds r', Advanced { ((new config).play ss).2 with steps := k } n ms rounds r' := by
  constructor
  · intro t d now hd hle
    rw [Throttle.poll_deadline hd hle]
    exact ⟨rfl, rfl⟩
  · intro config ss k n ms
    obtain ⟨-, hreached, -⟩ := (inStep_new config).1.play ss
    have hcounted : InStep config.window { ((new config).play ss).2 with steps := k }
        (Reference.play config.window {} ss).2.2 :=
      ⟨hreached.toMatches.congr rfl rfl rfl, hreached.last⟩
    obtain ⟨rounds, hadvanced⟩ := hcounted.advanced n ms
    exact ⟨rounds, _, hadvanced⟩

/-- A fetch begins while a window of no length is in force, and the next step is counted. -/
def begun : Replay :=
  { ((new { throttleMs := 0 }).play
      [(1, .addResult "a" false), (2, .selectResult "a"), (3, .beginFetch "a")]).2 with steps := 4 }

/-- The deadline is the very moment, a poll then fires, and an advance by nothing makes the one
run. -/
theorem advance_ends_window_zero :
    ((({ window := 0 } : Throttle).trigger 5).2.poll 5).1 = true ∧ begun.deadline = some 0 ∧
      (begun.advance 4 0).throttledRuns = 1 ∧ ∃ rounds r', Advanced begun 4 0 rounds r' := by
  have hfires := advance_ends.1 (({ window := 0 } : Throttle).trigger 5).2 5 5 (by rfl)
    (Nat.le_refl 5)
  have hdue : begun.deadline = some 0 := by rfl
  have hruns : (begun.advance 4 0).throttledRuns = 1 := by
    show (begun.runUntil 4 0).throttledRuns = 1
    rw [runUntil_of_due hdue (Nat.le_refl 0)]
    rfl
  exact ⟨hfires.1, hdue, hruns, advance_ends.2 _ _ 4 4 0⟩

end DetailPanel.Replay
