import DetailPanel.Proofs.Replay.Counters

/-!
# The counters of a replay add up

Every recompute has one cause: a render, a step that changed half of the
selection, or a throttled run.  Whether a step changed the selection is read off
the workspaces before and after it, a passage.  The counts of a summary are those
of the passages, however many of the steps fail:

    (r.play ss).2.view? = r.view?, rendered once more for each render      (view?_play)
    InStep window r q → r'.recomputes = r.recomputes + its causes          (InStep.recomputes_passage)
    InStep window r q → entries by the throttle ≤ throttled runs           (InStep.throttled_play)
    the outcome of any steps is balanced                              (play_balanced)
-/

namespace DetailPanel

namespace Step

/-- The step sets the current result. -/
def setsResult : Step → Bool
  | .selectResult _ | .clearResult => true
  | _ => false

/-- The step sets the metacard. -/
def setsCard : Step → Bool
  | .selectMetacard .. | .clearMetacard => true
  | _ => false

end Step

/-- What a replay sets of a metacard: its identifier and its title. -/
def Workspace.caption (w : Workspace) : Option (String × Option String) :=
  w.card.map fun c => (c.id, c.title)

namespace Replay

/-- A step and the states that it lies between. -/
structure Passage where
  before : Replay
  step : Step
  after : Replay

namespace Passage

def reselects (p : Passage) : Bool :=
  p.step.setsResult && p.after.workspace.result != p.before.workspace.result

def recaptions (p : Passage) : Bool :=
  p.step.setsCard && p.after.workspace.caption != p.before.workspace.caption

def renders (p : Passage) : Bool := p.step == .render

end Passage

/-- All steps, those that fail too, with the states that they lie between. -/
def passages (r : Replay) : List (Nat × Step) → List Passage
  | [] => []
  | (n, s) :: ss => ⟨r, s, (r.apply n s).2⟩ :: (r.apply n s).2.passages ss

/-- The entries that the throttle made. -/
def throttled (entries : List Entry) : Nat := entries.countP (·.cause.text == "throttle")

variable {window : Nat} {r r' : Replay} {q q' : Reference} {n : Nat} {s : Step}

/-! ## Renders -/

/-- Renders and advances do not fail. -/
theorem unfailing_of_fault {e : Fault} (h : (r.apply n s).1 = some e) :
    s ≠ .render ∧ ∀ ms, s ≠ .advance ms := by
  rcases fault_apply.1 h with ⟨x, on, rfl, -⟩ | ⟨x, hx, -⟩
  · exact ⟨by simp, by simp⟩
  · constructor
    · rintro rfl
      cases hx
    · rintro ms rfl
      cases hx

theorem view?_step (r : Replay) (n : Nat) (s : Step) :
    (r.apply n s).2.view? =
      r.view?.map fun v => { v with renders := v.renders + (s == .render).toNat } := by
  cases hfault : (r.apply n s).1 with
  | none =>
      rw [view?_apply (Prod.ext hfault rfl)]
      by_cases hs : s = .render
      · rw [if_pos hs, hs]
        rfl
      · have hne : (s == .render) = false := beq_eq_false_iff_ne.2 hs
        simp [hs, hne]
  | some e =>
      have hne : (s == .render) = false := beq_eq_false_iff_ne.2 (unfailing_of_fault hfault).1
      simp [apply_of_fault hfault, hne, withCount, view?]

theorem view?_play (r : Replay) (ss : List (Nat × Step)) :
    (r.play ss).2.view? =
      r.view?.map fun v => { v with renders := v.renders + ss.countP (·.2 == .render) } := by
  induction ss generalizing r with
  | nil => simp [play]
  | cons e ss ih =>
      obtain ⟨n, s⟩ := e
      rw [play_cons]
      show ((r.apply n s).2.play ss).2.view? = _
      rw [ih, view?_step, Option.map_map]
      congr 1
      funext v
      cases hs : s == .render <;> simp [hs, Nat.add_assoc, Nat.add_comm 1]

/-! ## Changes of the selection -/

theorem Reference.current_select (q : Reference) (current : Option String) :
    (q.select current).current = current := by
  unfold Reference.select
  split
  · assumption
  · rfl

theorem Reference.card_selectCard (q : Reference) (card : Option (String × Option String)) :
    (q.selectCard card).card = card := by
  unfold Reference.selectCard
  split
  · assumption
  · rfl

theorem Agrees.caption {names : Table String ResultId} {w : Workspace} (h : Agrees names w q) :
    w.caption = q.card := by
  rw [Workspace.caption, h.card]
  cases q.card <;> rfl

theorem Matches.reselects (h : Matches window r q) (current : Option String)
    (hk : ∀ x, current = some x → (r.results.get? x).isSome) :
    ((r.select (current.bind r.results.get?)).workspace.result != r.workspace.result).toNat =
      if q.current = current then 0 else 1 := by
  have hresult : (r.select (current.bind r.results.get?)).workspace.result =
      current.bind r.results.get? := by
    have hagrees := (h.select hk).agrees.result
    rwa [Reference.current_select] at hagrees
  have hiff := h.agrees.result_eq_iff hk
  rw [hresult]
  by_cases hcur : q.current = current
  · rw [if_pos hcur, hiff.2 hcur, bne_self_eq_false]
    rfl
  · rw [if_neg hcur, bne_iff_ne.2 fun heq => hcur (hiff.1 heq.symm)]
    rfl

theorem Matches.recaptions (h : Matches window r q) (card : Option (String × Option String)) :
    ((r.selectCard (card.map fun c => { id := c.1, title := c.2 })).workspace.caption !=
      r.workspace.caption).toNat = if q.card = card then 0 else 1 := by
  rw [(h.selectCard card).agrees.caption, h.agrees.caption, Reference.card_selectCard]
  by_cases hcard : q.card = card
  · rw [if_pos hcard, hcard, bne_self_eq_false]
    rfl
  · rw [if_neg hcard, bne_iff_ne.2 (Ne.symm hcard)]
    rfl

/-! ## Recomputes -/

/-- The causes that a step may have for recomputes: a render, a change of the
result, a change of the metacard. -/
def Passage.causes (p : Passage) : Nat :=
  p.renders.toNat + p.reselects.toNat + p.recaptions.toNat

theorem Passage.causes_of_setsResult (hs : s.setsResult = true) (r r' : Replay) :
    Passage.causes ⟨r, s, r'⟩ = (r'.workspace.result != r.workspace.result).toNat := by
  cases s <;> simp_all [Step.setsResult, Step.setsCard, causes, renders, reselects, recaptions]

theorem Passage.causes_of_setsCard (hs : s.setsCard = true) (r r' : Replay) :
    Passage.causes ⟨r, s, r'⟩ = (r'.workspace.caption != r.workspace.caption).toNat := by
  cases s <;> simp_all [Step.setsResult, Step.setsCard, causes, renders, reselects, recaptions]

/-- What the machine recomputes has its cause in the passage, or is a throttled run. -/
theorem InStep.paints_act (h : InStep window r q) (hact : r.act n s = .ok r') :
    q.paints s = Passage.causes ⟨r, s, r'⟩ + ((q.events s).filter Event.isRun).length := by
  cases s with
  | selectResult x =>
      obtain ⟨id, hid, rfl⟩ := withResult_eq_ok.1 hact
      have hchange := h.reselects (some x) (by simp [hid])
      rw [Option.bind_some, hid] at hchange
      rw [filter_isRun_events q (by simp), Passage.causes_of_setsResult rfl, hchange]
      rfl
  | clearResult =>
      obtain rfl := Except.ok.inj hact
      have hchange := h.reselects none (by simp)
      rw [Option.bind_none] at hchange
      rw [filter_isRun_events q (by simp), Passage.causes_of_setsResult rfl, hchange]
      rfl
  | selectMetacard id title =>
      obtain rfl := Except.ok.inj hact
      have hchange := h.recaptions (some (id, title))
      rw [Option.map_some] at hchange
      rw [filter_isRun_events q (by simp), Passage.causes_of_setsCard rfl, hchange]
      rfl
  | clearMetacard =>
      obtain rfl := Except.ok.inj hact
      have hchange := h.recaptions none
      rw [Option.map_none] at hchange
      rw [filter_isRun_events q (by simp), Passage.causes_of_setsCard rfl, hchange]
      rfl
  | beginFetch x | completeFetch x | failFetch x =>
      rw [filter_isRun_events q (by simp)]
      rfl
  | advance ms =>
      rw [length_filter_isRun_advance]
      exact (Nat.zero_add _).symm
  | addResult | render => rfl

theorem workspace_record (r : Replay) (n : Nat) (cause : Cause) :
    (r.record n cause).workspace = r.workspace := by
  unfold record
  split <;> rfl

/-- A recompute has its cause in the passage, or is a throttled run. -/
theorem InStep.recomputes_passage (h : InStep window r q) (n : Nat) (s : Step) :
    (r.apply n s).2.recomputes = r.recomputes + Passage.causes ⟨r, s, (r.apply n s).2⟩ +
      ((q.events s).filter Event.isRun).length := by
  cases hfault : (r.apply n s).1 with
  | none =>
      have happly : r.apply n s = (none, (r.apply n s).2) := Prod.ext hfault rfl
      obtain ⟨r₁, hact, hr⟩ := act_of_apply happly
      have hworkspace : (r.apply n s).2.workspace = r₁.workspace := by
        rw [hr]
        exact workspace_record ..
      rw [h.recomputes_apply happly, h.paints_act hact, ← Nat.add_assoc]
      simp only [Passage.causes, Passage.renders, Passage.reselects, Passage.recaptions,
        hworkspace]
  | some e =>
      obtain ⟨hrender, hadvance⟩ := unfailing_of_fault hfault
      rw [filter_isRun_events q hadvance, apply_of_fault hfault]
      simp [Passage.causes, Passage.renders, Passage.reselects, Passage.recaptions, withCount,
        recomputes, tracker?, hrender]

/-- The recomputes of any steps, by their causes. -/
theorem InStep.recomputes_play (h : InStep window r q) (ss : List (Nat × Step)) :
    (r.play ss).2.recomputes + r.throttledRuns = r.recomputes +
      total Passage.causes (r.passages ss) + (r.play ss).2.throttledRuns := by
  induction ss generalizing r q with
  | nil => exact rfl
  | cons e ss ih =>
      obtain ⟨n, s⟩ := e
      have hrest := ih (h.after n s)
      have hruns := h.throttledRuns_apply n s
      have hone := h.recomputes_passage n s
      rw [h.events] at hruns
      rw [play_cons, passages, total_cons]
      dsimp only
      omega

/-! ## Entries of the throttle -/

theorem text_eq_throttle (cause : Cause) : cause.text = "throttle" ↔ cause = .throttle := by
  cases cause with
  | shown | throttle => decide
  | step kind => cases kind <;> decide

/-- The machine makes an entry of the throttle only where it logs a run. -/
theorem Reference.throttled_entries_le (q : Reference) {q' : Reference}
    (hstep : q.step window n s = .ok q') :
    throttled (q.entries n s q') ≤ ((q.events s).filter Event.isRun).length := by
  by_cases hs : ∀ ms, s ≠ .advance ms
  · have hkind : ∀ kind : Step.Kind, (Cause.step kind).text ≠ "throttle" := fun kind htext => by
      cases (text_eq_throttle _).1 htext
    unfold Reference.entries
    split
    · exact Nat.zero_le _
    · cases s with
      | advance ms => exact absurd rfl (hs ms)
      | _ => simp [throttled, hkind]
  · obtain ⟨ms, rfl⟩ : ∃ ms, s = .advance ms := by simpa using hs
    obtain rfl := Except.ok.inj hstep
    rw [length_filter_isRun_advance]
    unfold Reference.entries Reference.dueBy
    by_cases hdue : q.deadline.any (· ≤ q.now + ms.toNat) = true
    · obtain ⟨d, hd, hle⟩ : ∃ d, q.deadline = some d ∧ d ≤ q.now + ms.toNat := by
        simpa [Option.any_eq_true] using hdue
      rw [hd]
      simp only [if_pos hle]
      exact Nat.le_trans (List.countP_le_length ..) (by split <;> simp)
    · have hsame : (q.advance ms.toNat).flags = q.flags := by
        rw [Reference.advance, if_neg hdue]
      rw [if_pos hsame]
      exact Nat.zero_le _

theorem InStep.throttled_play (h : InStep window r q) (ss : List (Nat × Step)) :
    throttled (r.play ss).2.timeline + r.throttledRuns ≤
      throttled r.timeline + (r.play ss).2.throttledRuns := by
  induction ss generalizing r q with
  | nil => exact Nat.le_refl _
  | cons e ss ih =>
      obtain ⟨n, s⟩ := e
      have hrest := ih (h.after n s)
      have hruns := h.throttledRuns_apply n s
      rw [h.events] at hruns
      have hone : throttled (r.apply n s).2.timeline ≤
          throttled r.timeline + ((q.events s).filter Event.isRun).length := by
        cases hfault : (r.apply n s).1 with
        | none =>
            obtain ⟨q', hstep, -, htimeline⟩ := h.of_apply (Prod.ext hfault rfl)
            rw [htimeline, throttled, List.countP_append]
            exact Nat.add_le_add_left (q.throttled_entries_le hstep) _
        | some e =>
            rw [apply_of_fault hfault]
            exact Nat.le_add_right ..
      rw [play_cons]
      dsimp only
      omega

/-! ## Outcomes -/

/-- The counts of an outcome add up to what the steps, those that fail too, did. -/
structure Balanced (ss : List (Nat × Step)) (ps : List Passage) (o : Outcome) : Prop where
  recomputes : o.summary.recomputes = o.summary.renders + ps.countP Passage.reselects +
    ps.countP Passage.recaptions + o.summary.throttledRuns
  /-- The first display renders once. -/
  renders : o.summary.renders = 1 + ss.countP (·.2 == .render)
  layoutMounts : o.summary.layoutMounts = 1
  steps : o.summary.steps = ss.length
  elapsedMs : o.summary.elapsedMs.toNat = total (·.2.duration) ss % UInt64.size
  throttled_le : throttled o.timeline ≤ o.summary.throttledRuns

theorem total_causes (r : Replay) (ss : List (Nat × Step)) :
    total Passage.causes (r.passages ss) = ss.countP (·.2 == .render) +
      (r.passages ss).countP Passage.reselects + (r.passages ss).countP Passage.recaptions := by
  induction ss generalizing r with
  | nil => rfl
  | cons e ss ih =>
      obtain ⟨n, s⟩ := e
      have hcount : ∀ b : Bool, b.toNat = if b then 1 else 0 := by decide
      simp only [passages, total_cons, ih, List.countP_cons, Passage.causes, Passage.renders, hcount]
      omega

/-- Whatever the steps are, the outcome of a replay is balanced. -/
theorem play_balanced (config : Config) (ss : List (Nat × Step)) (name : Option String) :
    Balanced ss ((new config).passages ss) (((new config).play ss).2.finish name) := by
  obtain ⟨hin, htimeline⟩ := inStep_new config
  have hview := (new config).view?_play ss
  obtain ⟨v, hv, hrenders, hmounts⟩ : ∃ v, (new config).view? = some v ∧ v.renders = 1 ∧
      v.region.mounts = 1 := ⟨_, rfl, rfl, rfl⟩
  rw [hv, Option.map_some] at hview
  have hrecomputes := hin.recomputes_play ss
  rw [total_causes, show (new config).recomputes = 1 from rfl,
    show (new config).throttledRuns = 0 from rfl] at hrecomputes
  have hcount : (((new config).play ss).2.finish name).summary.renders =
      1 + ss.countP (·.2 == .render) := by
    simp [finish, hview, hrenders]
  refine ⟨?_, hcount, ?_, ?_, ?_, ?_⟩
  · rw [hcount]
    show ((new config).play ss).2.recomputes = _ + ((new config).play ss).2.throttledRuns
    omega
  · simp [finish, hview, hmounts]
  · show ((new config).play ss).2.steps = _
    rw [steps_play]
    exact Nat.zero_add _
  · show (writtenTime ((new config).play ss).2.workspace.now).toNat = _
    rw [hin.now_play, show (new config).workspace.now = 0 from rfl, Nat.zero_add]
    rfl
  · have hle := hin.throttled_play ss
    rw [htimeline, show (new config).throttledRuns = 0 from rfl] at hle
    show throttled ((new config).play ss).2.timeline ≤ ((new config).play ss).2.throttledRuns
    have hfirst : throttled [⟨0, 0, .shown, { notFound := true }⟩] = 0 := by decide
    omega

end Replay

end DetailPanel
