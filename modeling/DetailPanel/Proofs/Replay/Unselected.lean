import DetailPanel.Proofs.Replay.ChangeLog
import DetailPanel.Proofs.Replay.Counters
import DetailPanel.Proofs.Replay.Settling
import DetailPanel.Proofs.Replay.Slicing

/-!
# Results that are not selected

Nobody hears of the fetches of a result that is not the current one; they only say
whether it is searching, and that is read once it is current again.  So of the
fetches in a stretch of steps through which a result is not the current one, only
the last one matters, and not even that one if the result is fetched again before
it is next selected.  Two machines that agree but for what is hidden go on alike
(`SameBut`), and with them two replays (`Twins`).

    SameBut hidden q q' → q.step window n s = .ok q₁ → … SameBut … q₁ q₁'   (SameBut.step)
    Twins window hidden r r' → r.apply n s = (none, r₁) → … Twins … r₁ r₁'  (Twins.step)
    run config ⟨name, pre ++ mid ++ post⟩ = .ok o →
      … run config ⟨name, pre ++ lastFetchOnly x mid ++ post⟩ …              (run_unselected)
-/

namespace DetailPanel

/-- Whether a step fetches the result of a name. -/
def Step.fetches (x : String) : Step → Bool
  | .beginFetch y | .completeFetch y | .failFetch y => x = y
  | _ => false

namespace Replay

/-- The result of a name is the current one. -/
def Selects (r : Replay) (x : String) : Prop :=
  ∃ id, r.results.get? x = some id ∧ r.workspace.result = some id

/-- The result of a name is not the current one before any of the steps. -/
def Away (r : Replay) (n : Nat) (x : String) (ss : List Step) : Prop :=
  ∀ a s b, ss = a ++ s :: b → ∀ r', r.applyAll n a = .ok r' → ¬ r'.Selects x

/-- The steps without the fetches of a result but the last. -/
def lastFetchOnly (x : String) : List Step → List Step
  | [] => []
  | s :: ss =>
      if s.fetches x ∧ ss.any (Step.fetches x) then lastFetchOnly x ss
      else s :: lastFetchOnly x ss

/-- The steps without the fetches of a result. -/
def withoutFetches (x : String) (ss : List Step) : List Step := ss.filter fun s => !s.fetches x

/-- Before a result is selected it is fetched. -/
def FetchedFirst (x : String) (ss : List Step) : Prop :=
  ∀ a b, ss = a ++ .selectResult x :: b → ∃ s ∈ a, s.fetches x

variable {window : Nat} {hidden : String → Prop} {r r' r₁ : Replay} {q q' q₁ : Reference}
  {n : Nat} {s : Step} {x : String}

/-! ## Two machines -/

namespace Reference

/-- Two machines agree, but for whether the results that are hidden are searching,
and none of these is the current one. -/
structure SameBut (hidden : String → Prop) (q q' : Reference) : Prop where
  now : q'.now = q.now
  current : q'.current = q.current
  card : q'.card = q.card
  flags : q'.flags = q.flags
  deadline : q'.deadline = q.deadline
  contains : ∀ x, q'.searching.contains x = q.searching.contains x
  searching : ∀ x, ¬ hidden x → q'.searching.get? x = q.searching.get? x
  away : ∀ x, q.current = some x → ¬ hidden x

namespace SameBut

theorem refl (q : Reference) : SameBut (fun _ => False) q q :=
  ⟨rfl, rfl, rfl, rfl, rfl, fun _ => rfl, fun _ _ => rfl, fun _ _ h => h⟩

theorem live (h : SameBut hidden q q') : q'.live = q.live := by
  have hcurrent : q'.current.any (fun x => q'.searching.get? x = some true) =
      q.current.any fun x => q.searching.get? x = some true := by
    rw [h.current]
    cases hc : q.current with
    | none => rfl
    | some x => simp [h.searching x (h.away x hc)]
  simp only [Reference.live, h.card, hcurrent]

theorem refresh (h : SameBut hidden q q') : SameBut hidden q.refresh q'.refresh :=
  ⟨h.now, h.current, h.card, h.live, h.deadline, h.contains, h.searching, h.away⟩

theorem render (h : SameBut hidden q q') : SameBut hidden q.render q'.render :=
  ⟨h.now, h.current, h.card, h.live, rfl, h.contains, h.searching, h.away⟩

theorem select (h : SameBut hidden q q') {current : Option String}
    (hc : ∀ x, current = some x → ¬ hidden x) :
    SameBut hidden (q.select current) (q'.select current) := by
  unfold Reference.select
  rw [h.current]
  split
  · exact h
  · have hset : SameBut hidden { q with current } { q' with current } :=
      ⟨h.now, rfl, h.card, h.flags, h.deadline, h.contains, h.searching, hc⟩
    exact hset.render

theorem selectCard (h : SameBut hidden q q') (card : Option (String × Option String)) :
    SameBut hidden (q.selectCard card) (q'.selectCard card) := by
  unfold Reference.selectCard
  rw [h.card]
  split
  · exact h
  · have hset : SameBut hidden { q with card } { q' with card } :=
      ⟨h.now, h.current, rfl, h.flags, h.deadline, h.contains, h.searching, h.away⟩
    exact hset.refresh

/-- What is said of a result is hidden no more. -/
theorem setSearching (h : SameBut hidden q q') (x : String) (on : Bool) :
    SameBut (fun y => hidden y ∧ y ≠ x) (q.setSearching x on) (q'.setSearching x on) := by
  refine ⟨h.now, h.current, h.card, h.flags, h.deadline, fun y => ?_, fun y hy => ?_,
    fun y hy hhid => h.away y hy hhid.1⟩
  · simp only [Reference.setSearching, Table.contains, Table.get?_set]
    split
    · rfl
    · exact h.contains y
  · simp only [Reference.setSearching, Table.get?_set]
    split
    · rfl
    · rename_i hne
      exact h.searching y fun hhid => hy ⟨hhid, hne⟩

theorem fetch (h : SameBut hidden q q') (window : Nat) (x : String) (on : Bool) :
    SameBut (fun y => hidden y ∧ y ≠ x) (q.fetch window x on) (q'.fetch window x on) := by
  obtain ⟨hnow, hcurrent, hcard, hflags, -, hcontains, hsearching, haway⟩ := h.setSearching x on
  unfold Reference.fetch
  rw [h.current, h.deadline, h.now]
  split
  · exact ⟨hnow, hcurrent, hcard, hflags, rfl, hcontains, hsearching, haway⟩
  · exact h.setSearching x on

theorem advance (h : SameBut hidden q q') (ms : Nat) :
    SameBut hidden (q.advance ms) (q'.advance ms) := by
  unfold Reference.advance
  rw [h.deadline, h.now]
  split
  · exact ⟨rfl, h.current, h.card, h.live, rfl, h.contains, h.searching, h.away⟩
  · exact ⟨rfl, h.current, h.card, h.flags, rfl, h.contains, h.searching, h.away⟩

/-- What is hidden may be more than what differs. -/
theorem mono (h : SameBut hidden q q') {hidden' : String → Prop}
    (hmore : ∀ x, hidden x → hidden' x) (haway : ∀ x, q.current = some x → ¬ hidden' x) :
    SameBut hidden' q q' :=
  ⟨h.now, h.current, h.card, h.flags, h.deadline, h.contains,
    fun x hx => h.searching x fun hhid => hx (hmore x hhid), haway⟩

/-- Where neither machine selects what is hidden, they accept the same steps and
stay alike; what is fetched is hidden no more. -/
theorem step (h : SameBut hidden q q') (hstep : q.step window n s = .ok q₁)
    (hs : ∀ x, s = .selectResult x → ¬ hidden x) (n' : Nat) :
    ∃ q₁', q'.step window n' s = .ok q₁' ∧
      SameBut (fun y => hidden y ∧ ¬ s.fetches y) q₁ q₁' := by
  have hkeep : ∀ {p p' : Reference}, SameBut hidden p p' → (∀ y, s.fetches y = false) →
      SameBut (fun y => hidden y ∧ ¬ s.fetches y) p p' := by
    intro p p' hp hno
    refine hp.mono (fun y hy => ⟨hy, by simp [hno]⟩) fun y hy hhid => hp.away y hy hhid.1
  have hnamed : ∀ {y : String} {p : Reference} (p' : Reference), q.withResult n y p = .ok q₁ →
      SameBut (fun y => hidden y ∧ ¬ s.fetches y) p p' →
        ∃ q₁', q'.withResult n' y p' = .ok q₁' ∧
          SameBut (fun y => hidden y ∧ ¬ s.fetches y) q₁ q₁' := by
    intro y p p' hy hp
    obtain ⟨hcontains, rfl⟩ := withResult_eq_ok.1 hy
    exact ⟨p', withResult_eq_ok.2 ⟨(h.contains y).trans hcontains, rfl⟩, hp⟩
  cases s with
  | addResult y on =>
      simp only [Reference.step, h.contains] at hstep ⊢
      split at hstep
      · cases hstep
      · rename_i hnew
        obtain rfl := Except.ok.inj hstep
        refine ⟨_, if_neg hnew, (h.setSearching y on).mono ?_ ?_⟩
        · exact fun z hz => ⟨hz.1, by simp [Step.fetches]⟩
        · exact fun z hz hhid => h.away z hz hhid.1
  | selectResult y =>
      refine hnamed _ hstep (hkeep (h.select ?_) fun _ => rfl)
      rintro z hz
      obtain rfl := Option.some.inj hz
      exact hs y rfl
  | clearResult =>
      obtain rfl := Except.ok.inj hstep
      exact ⟨_, rfl, hkeep (h.select (by simp)) fun _ => rfl⟩
  | selectMetacard id title =>
      obtain rfl := Except.ok.inj hstep
      exact ⟨_, rfl, hkeep (h.selectCard (some (id, title))) fun _ => rfl⟩
  | clearMetacard =>
      obtain rfl := Except.ok.inj hstep
      exact ⟨_, rfl, hkeep (h.selectCard none) fun _ => rfl⟩
  | beginFetch y | completeFetch y | failFetch y =>
      refine hnamed _ hstep ?_
      simpa [Step.fetches] using h.fetch window y _
  | advance ms =>
      obtain rfl := Except.ok.inj hstep
      exact ⟨_, rfl, hkeep (h.advance ms.toNat) fun _ => rfl⟩
  | render =>
      obtain rfl := Except.ok.inj hstep
      exact ⟨_, rfl, hkeep h.render fun _ => rfl⟩

theorem entries (h : SameBut hidden q q') {q₁' : Reference} (hflags : q₁'.flags = q₁.flags)
    (n' : Nat) : (q'.entries n' s q₁').map Entry.unnumbered =
      (q.entries n s q₁).map Entry.unnumbered := by
  unfold Reference.entries
  rw [hflags, h.flags]
  split
  · rfl
  · cases s with
    | advance ms => simp [Entry.unnumbered, h.deadline, h.now]
    | _ => simp [Entry.unnumbered, h.now]

theorem paints (h : SameBut hidden q q') (s : Step) : q'.paints s = q.paints s := by
  cases s with
  | advance ms => simp only [Reference.paints, dueBy, h.deadline, h.now]
  | _ => simp only [Reference.paints, h.current, h.card]

theorem events (h : SameBut hidden q q') (s : Step) : q'.events s = q.events s := by
  cases s with
  | advance ms => simp only [Reference.events, dueBy, h.deadline, h.now]
  | _ => simp only [Reference.events, changeEvents, fetchEvents, h.contains, h.current, h.now]

end SameBut

/-- A fetch of a result that is not the current one says whether it is searching. -/
theorem step_of_fetches (hstep : q.step window n s = .ok q₁) (hs : s.fetches x)
    (hx : q.current ≠ some x) : q.searching.contains x ∧ ∃ on, q₁ = q.setSearching x on := by
  have hfetch : ∀ {y : String} {on : Bool}, x = y →
      q.withResult n y (q.fetch window y on) = .ok q₁ →
        q.searching.contains x ∧ ∃ on, q₁ = q.setSearching x on := by
    rintro y on rfl hy
    obtain ⟨hcontains, rfl⟩ := withResult_eq_ok.1 hy
    exact ⟨hcontains, on, if_neg fun hidle => hx hidle.1⟩
  cases s with
  | beginFetch y | completeFetch y | failFetch y =>
      exact hfetch (of_decide_eq_true hs) hstep
  | _ => simp [Step.fetches] at hs

/-- A machine that does without such a fetch stays alike. -/
theorem SameBut.skip (h : SameBut hidden q q') (hx : q.current ≠ some x)
    (hknown : q.searching.contains x) (on : Bool) :
    SameBut (fun y => hidden y ∨ y = x) (q.setSearching x on) q' := by
  refine ⟨h.now, h.current, h.card, h.flags, h.deadline, fun y => ?_, fun y hy => ?_,
    fun y hy hhid => ?_⟩
  · simp only [Reference.setSearching, Table.contains, Table.get?_set]
    split
    · rename_i heq
      rw [heq]
      exact (h.contains x).trans hknown
    · exact h.contains y
  · simp only [Reference.setSearching, Table.get?_set]
    rw [if_neg fun heq => hy (.inr heq)]
    exact h.searching y fun hhid => hy (.inl hhid)
  · rcases hhid with hhid | rfl
    · exact h.away y hy hhid
    · exact hx hy

end Reference

/-! ## Two replays -/

open Reference

theorem Matches.selects_iff (h : Matches window r q) (x : String) :
    r.Selects x ↔ q.current = some x := (h.refines.current x).symm

/-- Two replays that agree, but for the numbers of their steps and for whether the
results that are hidden are searching. -/
structure Twins (window : Nat) (hidden : String → Prop) (r r' : Replay) : Prop where
  states : ∃ q q', InStep window r q ∧ InStep window r' q' ∧ SameBut hidden q q'
  view : r'.view? = r.view?
  recomputes : r'.recomputes = r.recomputes
  throttledRuns : r'.throttledRuns = r.throttledRuns
  timeline : r'.timeline.map Entry.unnumbered = r.timeline.map Entry.unnumbered

namespace Twins

theorem refl (h : InStep window r q) : Twins window (fun _ => False) r r :=
  ⟨⟨q, q, h, h, .refl q⟩, rfl, rfl, rfl, rfl⟩

theorem step (h : Twins window hidden r r') (happly : r.apply n s = (none, r₁))
    (hs : ∀ x, s = .selectResult x → ¬ hidden x) (n' : Nat) :
    ∃ r₁', r'.apply n' s = (none, r₁') ∧
      Twins window (fun y => hidden y ∧ ¬ s.fetches y) r₁ r₁' := by
  obtain ⟨q, q', hin, hin', hsame⟩ := h.states
  obtain ⟨q₁, hstep, hin₁, htimeline⟩ := hin.of_apply happly
  obtain ⟨q₁', hstep', hsame₁⟩ := hsame.step hstep hs n'
  have hanswer := hin'.apply n' s
  rw [hstep'] at hanswer
  obtain ⟨hnone, hin₁', htimeline'⟩ := hanswer
  have happly' : r'.apply n' s = (none, (r'.apply n' s).2) := Prod.ext hnone rfl
  refine ⟨_, happly', ⟨q₁, q₁', hin₁, hin₁', hsame₁⟩, ?_, ?_, ?_, ?_⟩
  · rw [view?_apply happly', view?_apply happly, h.view]
  · rw [hin'.recomputes_apply happly', hin.recomputes_apply happly, h.recomputes, hsame.paints]
  · have hruns := hin.throttledRuns_apply n s
    rw [happly] at hruns
    rw [hin'.throttledRuns_apply, hruns, hin'.events, hin.events, hsame.events, h.throttledRuns]
  · rw [htimeline', htimeline, List.map_append, List.map_append, h.timeline,
      hsame.entries hsame₁.flags]

/-- One of the two does without a fetch of a result that is not the current one. -/
theorem skip (h : Twins window hidden r r') (happly : r.apply n s = (none, r₁))
    (hs : s.fetches x) (hx : ¬ r.Selects x) : Twins window (fun y => hidden y ∨ y = x) r₁ r' := by
  obtain ⟨q, q', hin, hin', hsame⟩ := h.states
  obtain ⟨q₁, hstep, hin₁, htimeline⟩ := hin.of_apply happly
  rw [hin.toMatches.selects_iff] at hx
  obtain ⟨hknown, on, rfl⟩ := step_of_fetches hstep hs hx
  have hquiet : q.paints s = 0 ∧ s ≠ .render ∧ ∀ ms, s ≠ .advance ms := by
    cases s with
    | beginFetch | completeFetch | failFetch => simp [Reference.paints]
    | _ => simp [Step.fetches] at hs
  refine ⟨⟨_, q', hin₁, hin', hsame.skip hx hknown on⟩, ?_, ?_, ?_, ?_⟩
  · rw [view?_apply happly, if_neg hquiet.2.1, h.view]
  · rw [hin.recomputes_apply happly, hquiet.1, h.recomputes]
    rfl
  · have hruns := hin.throttledRuns_apply n s
    rw [happly, hin.events, filter_isRun_events q hquiet.2.2] at hruns
    exact h.throttledRuns.trans hruns.symm
  · have hentries : q.entries n s (q.setSearching x on) = [] := if_pos rfl
    rw [htimeline, hentries, List.append_nil, h.timeline]

theorem finish (h : Twins window hidden r r') (name : Option String) :
    (r'.finish name).unnumbered = (r.finish name).unnumbered := by
  obtain ⟨q, q', hin, hin', hsame⟩ := h.states
  have hnow : r'.workspace.now = r.workspace.now := by
    rw [hin'.agrees.now, hin.agrees.now, hsame.now]
  have hflags : r'.flags = r.flags := by
    rw [hin'.toMatches.flags, hin.toMatches.flags, hsame.flags]
  have hrecomputes : (r'.tracker?.map (·.recomputes)).getD 0 =
      (r.tracker?.map (·.recomputes)).getD 0 := h.recomputes
  simp only [Replay.finish, Outcome.unnumbered, h.timeline, h.view, h.throttledRuns, hnow, hflags,
    hrecomputes]

end Twins

/-! ## Stretches of steps -/

variable {ss post : List Step}

theorem Away.head (h : r.Away n x (s :: ss)) : ¬ r.Selects x := h [] s ss rfl r rfl

theorem Away.tail (h : r.Away n x (s :: ss)) (happly : r.apply n s = (none, r₁)) :
    r₁.Away (n + 1) x ss := by
  rintro a s' b rfl r₂ hr₂
  exact h (s :: a) s' b rfl r₂ (applyAll_cons_eq_ok.2 ⟨r₁, happly, hr₂⟩)

theorem FetchedFirst.ne_select (h : FetchedFirst x (s :: ss)) : s ≠ .selectResult x := by
  rintro rfl
  obtain ⟨s, hs, -⟩ := h [] ss rfl
  cases hs

theorem FetchedFirst.tail (h : FetchedFirst x (s :: ss)) (hs : ¬ s.fetches x) :
    FetchedFirst x ss := by
  rintro a b rfl
  obtain ⟨s', hs', hfetch⟩ := h (s :: a) b rfl
  rcases List.mem_cons.1 hs' with rfl | hmem
  · exact absurd hfetch hs
  · exact ⟨s', hmem, hfetch⟩

/-- After a step that selects a result it is the current one. -/
theorem InStep.selects_of_select (h : InStep window r q)
    (happly : r.apply n (.selectResult x) = (none, r₁)) : r₁.Selects x := by
  obtain ⟨q₁, hstep, hin₁, -⟩ := h.of_apply happly
  exact (hin₁.toMatches.selects_iff x).2 (reads_step hstep).2.1

/-- In a stretch of steps through which a result is not the current one, only its
last fetch matters: after it nothing is hidden any more. -/
theorem Twins.lastFetchOnly (h : Twins window hidden r r')
    (hhidden : ∀ y, hidden y → y = x ∧ ss.any (Step.fetches x)) (haway : r.Away n x ss)
    (hr : r.applyAll n ss = .ok r₁) (n' : Nat) :
    ∃ r₁' hidden', r'.applyAll n' (lastFetchOnly x ss) = .ok r₁' ∧ Twins window hidden' r₁ r₁' ∧
      ∀ y, ¬ hidden' y := by
  induction ss generalizing r r' n n' hidden with
  | nil =>
      obtain rfl := Except.ok.inj hr
      exact ⟨r', hidden, rfl, h, fun y hy => by simpa using (hhidden y hy).2⟩
  | cons s ss ih =>
      obtain ⟨r₂, happly, hr⟩ := applyAll_cons_eq_ok.1 hr
      have hrest := haway.tail happly
      by_cases hskip : s.fetches x ∧ ss.any (Step.fetches x)
      · have hnext := h.skip happly hskip.1 haway.head
        rw [Replay.lastFetchOnly, if_pos hskip]
        refine ih hnext (fun y hy => ⟨?_, hskip.2⟩) hrest hr n'
        rcases hy with hy | rfl
        · exact (hhidden y hy).1
        · rfl
      · -- Where a fetch is still to come, this step does not select the result.
        have hselect : ∀ y, s = .selectResult y → ¬ hidden y := by
          rintro y rfl hy
          obtain ⟨rfl, hany⟩ := hhidden y hy
          obtain ⟨q, q', hin, -⟩ := h.states
          cases ss with
          | nil => simp [Step.fetches] at hany
          | cons s' ss => exact hrest.head (hin.selects_of_select happly)
        obtain ⟨r₂', happly', hnext⟩ := h.step happly hselect n'
        have hstill : ∀ y, hidden y ∧ ¬ s.fetches y → y = x ∧ ss.any (Step.fetches x) := by
          rintro y ⟨hy, hs⟩
          obtain ⟨rfl, hany⟩ := hhidden y hy
          rw [List.any_cons] at hany
          exact ⟨rfl, by simpa [hs] using hany⟩
        obtain ⟨r₁', hidden', hr', hend⟩ := ih hnext hstill hrest hr (n' + 1)
        rw [Replay.lastFetchOnly, if_neg hskip]
        exact ⟨r₁', hidden', applyAll_cons_eq_ok.2 ⟨r₂', happly', hr'⟩, hend⟩

/-- Where a result is fetched before it is next selected, none of its fetches in
the stretch matters. -/
theorem Twins.withoutFetches (h : Twins window hidden r r') (hhidden : ∀ y, hidden y → y = x)
    (hfirst : FetchedFirst x (withoutFetches x ss ++ post)) (haway : r.Away n x ss)
    (hr : r.applyAll n ss = .ok r₁) (n' : Nat) :
    ∃ r₁' hidden', r'.applyAll n' (withoutFetches x ss) = .ok r₁' ∧ Twins window hidden' r₁ r₁' ∧
      FetchedFirst x post ∧ ∀ y, hidden' y → y = x := by
  induction ss generalizing r r' n n' hidden with
  | nil =>
      obtain rfl := Except.ok.inj hr
      exact ⟨r', hidden, rfl, h, hfirst, hhidden⟩
  | cons s ss ih =>
      obtain ⟨r₂, happly, hr⟩ := applyAll_cons_eq_ok.1 hr
      have hrest := haway.tail happly
      by_cases hskip : s.fetches x
      · have hnext := h.skip happly hskip haway.head
        have hdrop : Replay.withoutFetches x (s :: ss) = Replay.withoutFetches x ss := by
          simp [Replay.withoutFetches, hskip]
        rw [hdrop] at hfirst ⊢
        refine ih hnext (fun y hy => ?_) hfirst hrest hr n'
        rcases hy with hy | rfl
        · exact hhidden y hy
        · rfl
      · have hkeep : Replay.withoutFetches x (s :: ss) = s :: Replay.withoutFetches x ss := by
          simp [Replay.withoutFetches, hskip]
        rw [hkeep] at hfirst ⊢
        have hselect : ∀ y, s = .selectResult y → ¬ hidden y := by
          rintro y rfl hy
          obtain rfl := hhidden y hy
          exact hfirst.ne_select rfl
        obtain ⟨r₂', happly', hnext⟩ := h.step happly hselect n'
        obtain ⟨r₁', hidden', hr', hend⟩ :=
          ih hnext (fun y hy => hhidden y hy.1) (hfirst.tail hskip) hrest hr (n' + 1)
        exact ⟨r₁', hidden', applyAll_cons_eq_ok.2 ⟨r₂', happly', hr'⟩, hend⟩

/-- What comes after the stretch does the same to both, and shows what was hidden
once it is fetched again. -/
theorem Twins.applyAll (h : Twins window hidden r r')
    (hhidden : ∀ y, hidden y → y = x ∧ FetchedFirst x ss) (hr : r.applyAll n ss = .ok r₁)
    (n' : Nat) : ∃ r₁' hidden', r'.applyAll n' ss = .ok r₁' ∧ Twins window hidden' r₁ r₁' := by
  induction ss generalizing r r' n n' hidden with
  | nil =>
      obtain rfl := Except.ok.inj hr
      exact ⟨r', hidden, rfl, h⟩
  | cons s ss ih =>
      obtain ⟨r₂, happly, hr⟩ := applyAll_cons_eq_ok.1 hr
      have hselect : ∀ y, s = .selectResult y → ¬ hidden y := by
        rintro y rfl hy
        obtain ⟨rfl, hfirst⟩ := hhidden y hy
        exact hfirst.ne_select rfl
      obtain ⟨r₂', happly', hnext⟩ := h.step happly hselect n'
      have hstill : ∀ y, hidden y ∧ ¬ s.fetches y → y = x ∧ FetchedFirst x ss := by
        rintro y ⟨hy, hs⟩
        obtain ⟨rfl, hfirst⟩ := hhidden y hy
        exact ⟨rfl, hfirst.tail hs⟩
      obtain ⟨r₁', hidden', hr', hend⟩ := ih hnext hstill hr (n' + 1)
      exact ⟨r₁', hidden', applyAll_cons_eq_ok.2 ⟨r₂', happly', hr'⟩, hend⟩

/-- A result that is not the current one stays so until it is selected. -/
theorem InStep.away (h : InStep window r q) (hx : ¬ r.Selects x)
    (hs : ∀ s ∈ ss, s ≠ .selectResult x) (n : Nat) : r.Away n x ss := by
  rintro a s b rfl r' hr'
  induction a generalizing r q n with
  | nil =>
      obtain rfl := Except.ok.inj hr'
      exact hx
  | cons s' a ih =>
      obtain ⟨r₁, happly, hr'⟩ := applyAll_cons_eq_ok.1 hr'
      obtain ⟨q₁, hstep, hin₁, -⟩ := h.of_apply happly
      refine ih hin₁ ?_ (n + 1) (fun t ht => hs t (List.mem_cons_of_mem _ ht)) hr'
      rw [hin₁.toMatches.selects_iff, (reads_step hstep).2.1]
      rw [h.toMatches.selects_iff] at hx
      have hne : s' ≠ .selectResult x := hs s' (by simp)
      cases s' with
      | selectResult y =>
          intro hy
          exact hne (congrArg Step.selectResult (Option.some.inj hy))
      | clearResult => simp [selectsResult]
      | _ => exact hx

/-! ## Runs -/

/-- A fetch of a result that is not the current one says whether it is searching and
changes nothing else: no throttle is armed, nothing that is pending is given up, the
flags are not recomputed, and no entry is made. -/
theorem InStep.apply_fetch_unselected (h : InStep window r q) (he : r.workspace.effects = [])
    (hs : s.fetches x) (hknown : r.results.contains x) (hx : ¬ r.Selects x) (n : Nat) :
    ∃ id on, r.results.get? x = some id ∧ r.apply n s =
      (none, { r with
        workspace := r.workspace.setSearching id on
        steps := r.steps + 1 }) := by
  obtain ⟨id, hid⟩ := Option.isSome_iff_exists.1 hknown
  obtain ⟨t, hsolo, hshows⟩ := h.solo
  have hother : t.binding.map (·.result) ≠ some id := by
    rw [hshows.bound]
    exact fun hres => hx ⟨id, hid, hres⟩
  have hfetch : ∀ f : Workspace.Fetch, r.fetch f id =
      { r with workspace := r.workspace.setSearching id f.searching } := by
    intro f
    rw [Replay.fetch]
    dsimp only
    rw [hsolo.fetch_unbound hother]
    exact setWorkspace_of_effects he
  have hquiet : ∀ on cause, ({ r with workspace := r.workspace.setSearching id on } : Replay).record
      n cause = { r with workspace := r.workspace.setSearching id on } := fun on cause =>
    if_pos (h.last.trans (congrArg some h.toMatches.flags.symm))
  have happly : ∀ f : Workspace.Fetch, r.act n s = .ok (r.fetch f id) → r.apply n s =
      (none, { r with
        workspace := r.workspace.setSearching id f.searching
        steps := r.steps + 1 }) := by
    intro f hact
    rw [apply_eq, hact, hfetch]
    show (none, (record _ n _).withCount _) = _
    rw [hquiet]
    rfl
  have hnamed : ∀ {y : String} (f : Workspace.Fetch), x = y →
      r.act n s = r.withResult n y (r.fetch f) → r.act n s = .ok (r.fetch f id) := by
    rintro y f rfl hact
    rw [hact, withResult, hid]
  cases s with
  | beginFetch y =>
      exact ⟨id, true, hid, happly .begin (hnamed .begin (of_decide_eq_true hs) rfl)⟩
  | completeFetch y =>
      exact ⟨id, false, hid, happly .complete (hnamed .complete (of_decide_eq_true hs) rfl)⟩
  | failFetch y =>
      exact ⟨id, false, hid, happly .fail (hnamed .fail (of_decide_eq_true hs) rfl)⟩
  | _ => simp [Step.fetches] at hs

/-- Of the fetches of a result in a stretch of steps through which it is not the
current one, all but the last can be left out of a run, and all where the result is
fetched again before it is next selected.  A fetch of such a result changes nothing
but whether it is searching. -/
theorem run_unselected (config : Config) (x : String) :
    (∀ (name : Option String) (pre mid post : List Step) (o : Outcome),
      run config ⟨name, pre ++ mid ++ post⟩ = .ok o →
      (∀ r, (new config).applyAll 1 pre = .ok r → r.Away (1 + pre.length) x mid) →
        (∃ o', run config ⟨name, pre ++ lastFetchOnly x mid ++ post⟩ = .ok o' ∧
          o'.unnumbered = o.unnumbered) ∧
        (FetchedFirst x (withoutFetches x mid ++ post) →
          ∃ o', run config ⟨name, pre ++ withoutFetches x mid ++ post⟩ = .ok o' ∧
            o'.unnumbered = o.unnumbered)) ∧
      ∀ (ss : List (Nat × Step)) (r : Replay), ((new config).play ss).2 = r →
        r.results.contains x → ¬ r.Selects x → ∀ n s, s.fetches x →
          ∃ id on, r.results.get? x = some id ∧ r.apply n s =
            (none, { r with
              workspace := r.workspace.setSearching id on
              steps := r.steps + 1 }) := by
  refine ⟨fun name pre mid post o hrun haway => ?_, ?_⟩
  · obtain ⟨r, hr, rfl⟩ := exists_of_run hrun
    obtain ⟨r₂, hr₂, hpost⟩ := applyAll_append_eq_ok.1 hr
    obtain ⟨r₁, hpre, hmid⟩ := applyAll_append_eq_ok.1 hr₂
    obtain ⟨⟨q, hin⟩, -, -⟩ := changeLog_of_applyAll hpre
    have hstart := Twins.refl hin
    have hend : ∀ {mid' : List Step} {r₂' : Replay} {hidden : String → Prop},
        r₁.applyAll (1 + pre.length) mid' = .ok r₂' → Twins config.window hidden r₂ r₂' →
        (∀ y, hidden y → y = x ∧ FetchedFirst x post) →
          ∃ o', run config ⟨name, pre ++ mid' ++ post⟩ = .ok o' ∧
            o'.unnumbered = (r.finish name).unnumbered := by
      intro mid' r₂' hidden hmid' htwins hhidden
      obtain ⟨r', hidden', hr', htwins'⟩ :=
        htwins.applyAll hhidden hpost (1 + (pre ++ mid').length)
      have hall : (new config).applyAll 1 (pre ++ mid' ++ post) = .ok r' :=
        applyAll_append_eq_ok.2 ⟨r₂', applyAll_append_eq_ok.2 ⟨r₁, hpre, hmid'⟩, hr'⟩
      refine ⟨r'.finish name, ?_, htwins'.finish name⟩
      rw [run, hall]
      rfl
    refine ⟨?_, fun hfirst => ?_⟩
    · obtain ⟨r₂', hidden', hmid', htwins, hnone⟩ :=
        hstart.lastFetchOnly (fun _ => False.elim) (haway r₁ hpre) hmid (1 + pre.length)
      exact hend hmid' htwins fun y hy => absurd hy (hnone y)
    · obtain ⟨r₂', hidden', hmid', htwins, hpost', honly⟩ :=
        hstart.withoutFetches (fun _ => False.elim) hfirst (haway r₁ hpre) hmid (1 + pre.length)
      exact hend hmid' htwins fun y hy => ⟨honly y hy, hpost'⟩
  · rintro ss r rfl hknown hx n s hs
    obtain ⟨-, hin, -⟩ := (inStep_new config).1.play ss
    exact hin.apply_fetch_unselected (effects_play (effects_new config) ss) hs hknown hx n

/-- The result was swapped out while its fetch was pending, and is selected again
after it was fetched once more. -/
theorem run_unselected_swapped :
    let pre : List Step := [.addResult "a" false, .addResult "b" false, .selectResult "a",
      .beginFetch "a", .selectResult "b"]
    let mid : List Step := [.failFetch "a", .render, .beginFetch "a"]
    let post : List Step := [.completeFetch "a", .selectResult "a", .advance 60]
    ∃ o, run {} ⟨none, pre ++ mid ++ post⟩ = .ok o ∧
      (∃ o', run {} ⟨none, pre ++ [.render, .beginFetch "a"] ++ post⟩ = .ok o' ∧
        o'.unnumbered = o.unnumbered) ∧
      ∃ o', run {} ⟨none, pre ++ [.render] ++ post⟩ = .ok o' ∧ o'.unnumbered = o.unnumbered := by
  intro pre mid post
  obtain ⟨q, hq⟩ : ∃ q, Reference.applyAll (Config.window {}) {} 1 (pre ++ mid ++ post) = .ok q :=
    ⟨_, rfl⟩
  obtain ⟨o, hrun⟩ := run_accepted hq none
  have haway : ∀ r, (new {}).applyAll 1 pre = .ok r → r.Away (1 + pre.length) "a" mid := by
    intro r hr
    have hin := ((inStep_new {}).1.play (numbered 1 pre)).2.1
    rw [play_of_applyAll hr] at hin
    refine hin.away ?_ (by decide) _
    rw [hin.toMatches.selects_iff]
    decide
  have hfirst : FetchedFirst "a" (withoutFetches "a" mid ++ post) := by
    rintro (_ | ⟨s, _ | ⟨t, a⟩⟩) b hab
    · simp [withoutFetches, mid, post, Step.fetches] at hab
    · simp [withoutFetches, mid, post, Step.fetches] at hab
    · simp [withoutFetches, mid, post, Step.fetches] at hab
      exact ⟨t, by simp, by rw [← hab.2.1]; rfl⟩
  obtain ⟨hlast, hnone⟩ := (run_unselected {} "a").1 none pre mid post o hrun haway
  exact ⟨o, hrun, hlast, hnone hfirst⟩

end Replay

end DetailPanel
