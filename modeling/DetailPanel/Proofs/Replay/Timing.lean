import DetailPanel.Proofs.Pace
import DetailPanel.Proofs.Replay.Refinement

/-!
# When throttled runs happen

The log of a replay lists, with the time on the clock, what matters to the
throttle: fetches of the current result, announced changes of it, renders, moves
of the clock, and the throttled runs that are counted on the way.  The log of
any numbered steps is kept in pace, and with it the log of every run:

    InStep window r q → r.log ss = q.log window ss                         (InStep.log)
    Logged window l q → the log of what comes next keeps the pace           (Logged.step)
    run config ⟨name, ss⟩ = .ok o → Paced config.window (elapsed ss) …      (run_paced)
-/

namespace DetailPanel

/-- How far a step moves the clock. -/
def Step.duration : Step → Nat
  | .advance ms => ms.toNat
  | _ => 0

namespace Replay

/-- The time that all steps together take. -/
def elapsed (ss : List Step) : Nat := total Step.duration ss

/-- The times on the clock when throttled runs are counted, on the way to `target`. -/
def runTimes (r : Replay) (step target : Nat) : List Nat :=
  match _h : r.deadline with
  | some d =>
      if d ≤ target then
        (if r.throttledRuns < (r.runAt step d).throttledRuns then
          [(r.runAt step d).workspace.now] else []) ++ (r.runAt step d).runTimes step target
      else []
  | none => []
termination_by r.deadline.isSome.toNat
decreasing_by
  rw [deadline_runAt _h, _h]
  exact Nat.zero_lt_one

/-- A change of the current result, if it is announced. -/
def changeEvents (r : Replay) (result : Option ResultId) : List Event :=
  if (r.workspace.selectResult result).1 then [⟨r.workspace.now, .change⟩] else []

/-- A fetch of a known result, if it is the current one. -/
def fetchEvents (r : Replay) (x : String) : List Event :=
  if (r.results.get? x).isSome ∧ r.results.get? x = r.workspace.result then
    [⟨r.workspace.now, .fetch⟩]
  else []

/-- What a step does that matters to the throttle. -/
def events (r : Replay) (n : Nat) : Step → List Event
  | .selectResult x => (r.results.get? x).elim [] fun id => r.changeEvents (some id)
  | .clearResult => r.changeEvents none
  | .beginFetch x => r.fetchEvents x
  | .completeFetch x => r.fetchEvents x
  | .failFetch x => r.fetchEvents x
  | .render => [⟨r.workspace.now, .render⟩]
  | .advance ms =>
      (r.runTimes n (r.workspace.now + ms.toNat)).map (⟨·, .run⟩) ++
        [⟨(r.advance n ms.toNat).workspace.now, .advance⟩]
  | .addResult _ _ => []
  | .selectMetacard _ _ => []
  | .clearMetacard => []

/-- What numbered steps do that matters to the throttle. -/
def log (r : Replay) : List (Nat × Step) → List Event
  | [] => []
  | (n, s) :: ss => r.events n s ++ (r.apply n s).2.log ss

/-! ## The log of the machine -/

namespace Reference

/-- The deadlines up to a target, one at most. -/
def dueBy (q : Reference) (target : Nat) : List Nat :=
  match q.deadline with
  | some d => if d ≤ target then [d] else []
  | none => []

def changeEvents (q : Reference) (current : Option String) : List Event :=
  if q.current = current then [] else [⟨q.now, .change⟩]

def fetchEvents (q : Reference) (x : String) : List Event :=
  if q.current = some x then [⟨q.now, .fetch⟩] else []

def events (q : Reference) : Step → List Event
  | .selectResult x => if q.searching.contains x then q.changeEvents (some x) else []
  | .clearResult => q.changeEvents none
  | .beginFetch x => if q.searching.contains x then q.fetchEvents x else []
  | .completeFetch x => if q.searching.contains x then q.fetchEvents x else []
  | .failFetch x => if q.searching.contains x then q.fetchEvents x else []
  | .render => [⟨q.now, .render⟩]
  | .advance ms => (q.dueBy (q.now + ms.toNat)).map (⟨·, .run⟩) ++ [⟨q.now + ms.toNat, .advance⟩]
  | .addResult _ _ => []
  | .selectMetacard _ _ => []
  | .clearMetacard => []

/-- What a step leads to, one that fails to nothing new. -/
def after (window : Nat) (q : Reference) (n : Nat) (s : Step) : Reference :=
  (q.step window n s).toOption.getD q

def log (window : Nat) (q : Reference) : List (Nat × Step) → List Event
  | [] => []
  | (n, s) :: ss => q.events s ++ (q.after window n s).log window ss

theorem getD_withResult (q : Reference) (n : Nat) (x : String) (q' : Reference) :
    (q.withResult n x q').toOption.getD q = if q.searching.contains x then q' else q := by
  unfold withResult
  split <;> rfl

theorem now_fetch (q : Reference) (window : Nat) (x : String) (on : Bool) :
    (q.fetch window x on).now = q.now := by
  unfold fetch
  split <;> rfl

theorem now_advance (q : Reference) (ms : Nat) : (q.advance ms).now = q.now + ms := by
  unfold advance
  split <;> rfl

/-- The clock of the machine moves by what a step takes. -/
theorem now_after (window : Nat) (q : Reference) (n : Nat) (s : Step) :
    (q.after window n s).now = q.now + s.duration := by
  have hnamed : ∀ (x : String) (q' : Reference), q'.now = q.now →
      ((q.withResult n x q').toOption.getD q).now = q.now := by
    intro x q' hnow
    rw [getD_withResult]
    split
    · exact hnow
    · rfl
  cases s with
  | addResult x on =>
      simp only [after, step]
      split <;> rfl
  | selectResult x => exact hnamed x _ (now_select q (some x))
  | clearResult => exact now_select q none
  | selectMetacard id title => exact now_selectCard q (some (id, title))
  | clearMetacard => exact now_selectCard q none
  | beginFetch x => exact hnamed x _ (now_fetch q window x true)
  | completeFetch x | failFetch x => exact hnamed x _ (now_fetch q window x false)
  | advance ms => exact now_advance q ms.toNat
  | render => rfl

end Reference

/-! ## The log is kept in pace -/

variable {window : Nat} {r : Replay} {q q' : Reference} {l : List Event}

/-- A log is kept in pace, up to the time and the deadline of the machine. -/
def Logged (window : Nat) (l : List Event) (q : Reference) : Prop :=
  ∃ p, Pace.Log window l p ∧ p.now = q.now ∧ q.deadline = p.since.map (· + window)

theorem logged_start (window : Nat) : Logged window [] {} := ⟨{}, .nil, rfl, rfl⟩

namespace Logged

/-- Where the time and the deadline stay, there is nothing to be logged. -/
theorem congr (h : Logged window l q) (hnow : q'.now = q.now)
    (hdeadline : q'.deadline = q.deadline) : Logged window (l ++ []) q' := by
  obtain ⟨p, hl, hp, hd⟩ := h
  rw [List.append_nil]
  exact ⟨p, hl, hp.trans hnow.symm, hdeadline.trans hd⟩

theorem render (h : Logged window l q) : Logged window (l ++ [⟨q.now, .render⟩]) q.render := by
  obtain ⟨p, hl, hp, -⟩ := h
  refine ⟨⟨q.now, none⟩, hl.snoc ?_, rfl, rfl⟩
  rw [← hp]
  exact .render p.now p.since

theorem select (h : Logged window l q) (current : Option String) :
    Logged window (l ++ q.changeEvents current) (q.select current) := by
  unfold Reference.changeEvents Reference.select
  by_cases hcur : q.current = current
  · rw [if_pos hcur, if_pos hcur]
    exact h.congr rfl rfl
  · rw [if_neg hcur, if_neg hcur]
    obtain ⟨p, hl, hp, -⟩ := h
    refine ⟨⟨q.now, none⟩, hl.snoc ?_, rfl, rfl⟩
    rw [← hp]
    exact .change p.now p.since

theorem selectCard (h : Logged window l q) (card : Option (String × Option String)) :
    Logged window (l ++ []) (q.selectCard card) := by
  refine h.congr (now_selectCard q card) ?_
  unfold Reference.selectCard
  split <;> rfl

/-- A fetch of the current result opens a window, or is absorbed by the open one. -/
theorem fetch (h : Logged window l q) (x : String) (on : Bool) :
    Logged window (l ++ q.fetchEvents x) (q.fetch window x on) := by
  unfold Reference.fetchEvents
  by_cases hcur : q.current = some x
  · rw [if_pos hcur, Reference.fetch_current hcur]
    obtain ⟨⟨now, since⟩, hl, rfl, hd⟩ := h
    cases since with
    | none => exact ⟨⟨q.now, some q.now⟩, hl.snoc (.opens q.now), rfl, by simp [hd]⟩
    | some t => exact ⟨⟨q.now, some t⟩, hl.snoc (.absorbed q.now t), rfl, by simp [hd]⟩
  · rw [if_neg hcur, Reference.fetch, if_neg fun hidle => hcur hidle.1]
    exact h.congr rfl rfl

/-- A window that closes on the way makes for a run when it closes. -/
theorem advance (h : Logged window l q) (ms : Nat) :
    Logged window
      (l ++ ((q.dueBy (q.now + ms)).map (⟨·, .run⟩) ++ [⟨q.now + ms, .advance⟩]))
      (q.advance ms) := by
  obtain ⟨⟨now, since⟩, hl, rfl, hd⟩ := h
  cases since with
  | none =>
      have hd : q.deadline = none := hd
      have hadvance : q.advance ms = { q with now := q.now + ms } := by
        simp [Reference.advance, hd]
      have hend := hl.snoc (.advance q.now (q.now + ms) none (by omega) (by simp))
      simp only [Reference.dueBy, hd, hadvance]
      exact ⟨⟨q.now + ms, none⟩, hend, rfl, rfl⟩
  | some t =>
      have hd : q.deadline = some (t + window) := hd
      by_cases hdue : t + window ≤ q.now + ms
      · have hadvance : q.advance ms = { q.render with now := q.now + ms } := by
          simp [Reference.advance, hd, hdue]
        have hrun := hl.snoc (.run q.now t)
        have hend := hrun.snoc (.advance (t + window) (q.now + ms) none hdue (by simp))
        simp only [Reference.dueBy, hd, hadvance, if_pos hdue]
        rw [List.append_assoc] at hend
        exact ⟨⟨q.now + ms, none⟩, hend, rfl, rfl⟩
      · have hadvance : q.advance ms = { q with now := q.now + ms } := by
          simp [Reference.advance, hd, hdue]
        have hopen : ∀ t', some t = some t' → q.now + ms < t' + window := by
          intro t' ht
          obtain rfl := Option.some.inj ht
          omega
        have hend := hl.snoc (.advance q.now (q.now + ms) (some t) (by omega) hopen)
        simp only [Reference.dueBy, hd, hadvance, if_neg hdue]
        exact ⟨⟨q.now + ms, some t⟩, hend, rfl, rfl⟩

theorem withResult (h : Logged window l q) {n : Nat} {x : String} {events : List Event}
    (hq : Logged window (l ++ events) q') :
    Logged window (l ++ if q.searching.contains x then events else [])
      ((q.withResult n x q').toOption.getD q) := by
  rw [Reference.getD_withResult]
  by_cases hx : q.searching.contains x
  · rw [if_pos hx, if_pos hx]
    exact hq
  · rw [if_neg hx, if_neg hx]
    exact h.congr rfl rfl

/-- What a step adds to the log keeps it in pace. -/
theorem step (h : Logged window l q) (n : Nat) (s : Step) :
    Logged window (l ++ q.events s) (q.after window n s) := by
  cases s with
  | addResult x on =>
      show Logged window (l ++ []) _
      simp only [Reference.after, Reference.step]
      split
      · exact h.congr rfl rfl
      · exact h.congr rfl rfl
  | selectResult x => exact h.withResult (h.select (some x))
  | clearResult => exact h.select none
  | selectMetacard id title => exact h.selectCard (some (id, title))
  | clearMetacard => exact h.selectCard none
  | beginFetch x => exact h.withResult (h.fetch x true)
  | completeFetch x | failFetch x => exact h.withResult (h.fetch x false)
  | advance ms => exact h.advance ms.toNat
  | render => exact h.render

/-- The log of any numbered steps is kept in pace, up to the time that they take. -/
theorem play (h : Logged window l q) (ss : List (Nat × Step)) :
    ∃ q', Logged window (l ++ q.log window ss) q' ∧
      q'.now = q.now + total (fun e => e.2.duration) ss := by
  induction ss generalizing l q with
  | nil => exact ⟨q, by simpa [Reference.log] using h, rfl⟩
  | cons e ss ih =>
      obtain ⟨n, s⟩ := e
      obtain ⟨q', hlog, hnow⟩ := ih (h.step n s)
      refine ⟨q', ?_, ?_⟩
      · rwa [Reference.log, ← List.append_assoc]
      · rw [hnow, Reference.now_after, total_cons, Nat.add_assoc]

end Logged

/-! ## A replay logs what the machine logs -/

theorem Matches.changeEvents (h : Matches window r q) (current : Option String)
    (hk : ∀ x, current = some x → (r.results.get? x).isSome) :
    r.changeEvents (current.bind r.results.get?) = q.changeEvents current := by
  have hiff := h.agrees.result_eq_iff hk
  unfold Replay.changeEvents Reference.changeEvents
  rcases r.workspace.selectResult_spec (current.bind r.results.get?) with ⟨hres, heq⟩ | ⟨hres, heq⟩
  · rw [heq, if_pos (hiff.1 hres)]
    rfl
  · rw [heq, if_neg fun hcur => hres (hiff.2 hcur), h.agrees.now]
    rfl

theorem Matches.fetchEvents (h : Matches window r q) (x : String) :
    r.fetchEvents x = if q.searching.contains x then q.fetchEvents x else [] := by
  rw [h.agrees.contains, Table.contains]
  cases hx : r.results.get? x with
  | none => simp [Replay.fetchEvents, hx]
  | some id =>
      have hiff : r.workspace.result = (some x).bind r.results.get? ↔ q.current = some x :=
        h.agrees.result_eq_iff (by simp [hx])
      rw [Option.bind_some, hx] at hiff
      simp only [Replay.fetchEvents, Reference.fetchEvents, hx, ← hiff, h.agrees.now]
      simp [eq_comm]

theorem throttledRuns_record (r : Replay) (n : Nat) (cause : Cause) :
    (r.record n cause).throttledRuns = r.throttledRuns := by
  unfold record
  split <;> rfl

theorem Matches.throttledRuns_runAt (h : Matches window r q) {d : Nat} (hd : q.deadline = some d)
    (n : Nat) : (r.runAt n d).throttledRuns = r.throttledRuns + 1 := by
  have hdue := (h.pollAt hd).1
  simp only [Replay.runAt, hdue, if_true, throttledRuns_record]
  rfl

theorem InStep.runTimes (h : InStep window r q) (n target : Nat) :
    r.runTimes n target = q.dueBy target := by
  rw [Replay.runTimes]
  unfold Reference.dueBy
  split
  · rename_i d hd
    have hdq : q.deadline = some d := h.deadline.symm.trans hd
    rw [hdq]
    by_cases hle : d ≤ target
    · have hnone : (r.runAt n d).deadline = none := deadline_runAt hd
      have hnow : (r.runAt n d).workspace.now = d := (h.toMatches.runAt h.last hdq n).1.agrees.now
      have hrest : (r.runAt n d).runTimes n target = [] := by
        rw [Replay.runTimes]
        split
        · rename_i d' hd'
          simp [hnone] at hd'
        · rfl
      have hcount := h.throttledRuns_runAt hdq n
      simp [hle, hrest, hnow, hcount]
    · simp [hle]
  · rename_i hd
    rw [← h.deadline, hd]

theorem InStep.events (h : InStep window r q) (n : Nat) (s : Step) :
    r.events n s = q.events s := by
  cases s with
  | selectResult x =>
      show (r.results.get? x).elim [] (fun id => r.changeEvents (some id)) =
        if q.searching.contains x then q.changeEvents (some x) else []
      rw [h.agrees.contains, Table.contains]
      cases hx : r.results.get? x with
      | none => rfl
      | some id =>
          have hchange := h.changeEvents (some x) (by simp [hx])
          rwa [Option.bind_some, hx] at hchange
  | clearResult => exact h.changeEvents none (by simp)
  | beginFetch x | completeFetch x | failFetch x => exact h.fetchEvents x
  | advance ms =>
      have hadv : (r.advance n ms.toNat).workspace.now = q.now + ms.toNat :=
        (h.toMatches.advance h.last n ms.toNat).1.agrees.now.trans (q.now_advance ms.toNat)
      show (r.runTimes n (r.workspace.now + ms.toNat)).map (fun d => (⟨d, .run⟩ : Event)) ++
        [(⟨(r.advance n ms.toNat).workspace.now, .advance⟩ : Event)] = _
      rw [hadv, h.agrees.now, h.runTimes]
      rfl
  | render =>
      show [(⟨r.workspace.now, .render⟩ : Event)] = _
      rw [h.agrees.now]
      rfl
  | addResult | selectMetacard | clearMetacard => rfl

theorem InStep.after (h : InStep window r q) (n : Nat) (s : Step) :
    InStep window (r.apply n s).2 (q.after window n s) := by
  have hanswer := h.apply n s
  unfold Reference.after
  cases hstep : q.step window n s with
  | ok q' =>
      rw [hstep] at hanswer
      exact hanswer.2.1
  | error e =>
      rw [hstep] at hanswer
      have hanswer : r.apply n s = _ := hanswer
      rw [hanswer]
      exact h.counted

theorem InStep.log (h : InStep window r q) (ss : List (Nat × Step)) :
    r.log ss = q.log window ss := by
  induction ss generalizing r q with
  | nil => rfl
  | cons e ss ih =>
      obtain ⟨n, s⟩ := e
      rw [Replay.log, Reference.log, h.events n s, ih (h.after n s)]

/-! ## The runs are counted -/

/-- The throttled runs on the way are all counted. -/
theorem InStep.throttledRuns_advance (h : InStep window r q) (n ms : Nat) :
    (r.advance n ms).throttledRuns = r.throttledRuns + (q.dueBy (q.now + ms)).length := by
  rw [Replay.advance, h.agrees.now]
  show (r.runUntil n (q.now + ms)).throttledRuns = _
  unfold Reference.dueBy
  cases hd : q.deadline with
  | none =>
      rw [runUntil_of_not_due (by simp [h.deadline, hd])]
      rfl
  | some d =>
      by_cases hle : d ≤ q.now + ms
      · rw [runUntil_of_due (h.deadline.trans hd) hle, h.throttledRuns_runAt hd]
        simp [hle]
      · rw [runUntil_of_not_due (by simp [h.deadline, hd, hle])]
        simp [hle]

/-- Only an advance counts throttled runs. -/
theorem throttledRuns_act {r' : Replay} {n : Nat} {s : Step} (hact : r.act n s = .ok r')
    (hs : ∀ ms, s ≠ .advance ms) : r'.throttledRuns = r.throttledRuns := by
  have hnamed : ∀ {x : String} {f : ResultId → Replay}, r.withResult n x f = .ok r' →
      (∀ id, (f id).throttledRuns = r.throttledRuns) →
        r'.throttledRuns = r.throttledRuns := by
    intro x f hx hf
    unfold withResult at hx
    split at hx
    · obtain rfl := Except.ok.inj hx
      exact hf _
    · cases hx
  cases s with
  | addResult x on =>
      simp only [act] at hact
      split at hact
      · cases hact
      · obtain rfl := Except.ok.inj hact
        rfl
  | selectResult x => exact hnamed hact fun _ => rfl
  | beginFetch x | completeFetch x | failFetch x => exact hnamed hact fun _ => rfl
  | clearResult | selectMetacard | clearMetacard | render =>
      obtain rfl := Except.ok.inj hact
      rfl
  | advance ms => exact absurd rfl (hs ms)

/-- Only an advance logs throttled runs. -/
theorem filter_isRun_events (q : Reference) {s : Step} (hs : ∀ ms, s ≠ .advance ms) :
    (q.events s).filter Event.isRun = [] := by
  have hchange : ∀ current, (q.changeEvents current).filter Event.isRun = [] := by
    intro current
    unfold Reference.changeEvents
    split <;> rfl
  have hfetch : ∀ x, (q.fetchEvents x).filter Event.isRun = [] := by
    intro x
    unfold Reference.fetchEvents
    split <;> rfl
  cases s with
  | selectResult x =>
      simp only [Reference.events]
      split
      · exact hchange (some x)
      · rfl
  | clearResult => exact hchange none
  | beginFetch x | completeFetch x | failFetch x =>
      simp only [Reference.events]
      split
      · exact hfetch x
      · rfl
  | addResult | selectMetacard | clearMetacard | render => rfl
  | advance ms => exact absurd rfl (hs ms)

/-- An advance logs a run for each deadline on the way. -/
theorem length_filter_isRun_advance (q : Reference) (ms : UInt64) :
    ((q.events (.advance ms)).filter Event.isRun).length =
      (q.dueBy (q.now + ms.toNat)).length := by
  have hall : ∀ times : List Nat, (times.map fun d => (⟨d, .run⟩ : Event)).filter Event.isRun =
      times.map fun d => ⟨d, .run⟩ := by
    intro times
    exact List.filter_eq_self.2 (by simp [Event.isRun])
  have hlast : ∀ d : Nat, [(⟨d, .advance⟩ : Event)].filter Event.isRun = [] := fun _ => rfl
  rw [Reference.events, List.filter_append, hall, hlast, List.append_nil, List.length_map]

/-- The runs that a step counts are those that it logs. -/
theorem InStep.throttledRuns_apply (h : InStep window r q) (n : Nat) (s : Step) :
    (r.apply n s).2.throttledRuns =
      r.throttledRuns + ((r.events n s).filter Event.isRun).length := by
  rw [h.events]
  by_cases hs : ∀ ms, s ≠ .advance ms
  · rw [filter_isRun_events q hs, Replay.apply]
    cases hact : Replay.act { r with steps := r.steps + 1 } n s with
    | error e => rfl
    | ok r' =>
        have hsame : r'.throttledRuns = r.throttledRuns :=
          throttledRuns_act (r := { r with steps := r.steps + 1 }) hact hs
        exact (throttledRuns_record ..).trans hsame
  · obtain ⟨ms, rfl⟩ : ∃ ms, s = .advance ms := by simpa using hs
    have hcount := h.counted.throttledRuns_advance n ms.toNat
    rw [length_filter_isRun_advance]
    exact (throttledRuns_record ..).trans hcount

theorem InStep.throttledRuns_play (h : InStep window r q) (ss : List (Nat × Step)) :
    (r.play ss).2.throttledRuns =
      r.throttledRuns + ((r.log ss).filter Event.isRun).length := by
  induction ss generalizing r q with
  | nil => rfl
  | cons e ss ih =>
      obtain ⟨n, s⟩ := e
      rw [Replay.log, List.filter_append, List.length_append, ← Nat.add_assoc,
        ← h.throttledRuns_apply n s]
      exact ih (h.after n s)

theorem InStep.now_play (h : InStep window r q) (ss : List (Nat × Step)) :
    (r.play ss).2.workspace.now = r.workspace.now + total (fun e => e.2.duration) ss := by
  induction ss generalizing r q with
  | nil => rfl
  | cons e ss ih =>
      obtain ⟨n, s⟩ := e
      have hstep : (r.apply n s).2.workspace.now = r.workspace.now + s.duration := by
        rw [(h.after n s).agrees.now, Reference.now_after, h.agrees.now]
      rw [total_cons, ← Nat.add_assoc, ← hstep]
      exact ih (h.after n s)

/-! ## Runs -/

/-- A scenario runs if the machine accepts it. -/
theorem run_accepted {config : Config} {ss : List Step} {q : Reference}
    (h : Reference.applyAll config.window {} 1 ss = .ok q) (name : Option String) :
    ∃ o, run config ⟨name, ss⟩ = .ok o := by
  have hrun := run_refines config name ss
  rw [h] at hrun
  obtain ⟨r, -, -, hrun⟩ := hrun
  exact ⟨_, hrun⟩

/-- A run that is accepted finishes the replay of its steps. -/
theorem exists_of_run {config : Config} {name : Option String} {ss : List Step} {o : Outcome}
    (h : run config ⟨name, ss⟩ = .ok o) :
    ∃ r, (new config).applyAll 1 ss = .ok r ∧ r.finish name = o := by
  unfold run at h
  cases hr : (new config).applyAll 1 ss with
  | error e =>
      rw [hr] at h
      cases h
  | ok r =>
      rw [hr] at h
      exact ⟨r, rfl, Except.ok.inj h⟩

theorem total_numbered (f : Step → Nat) (n : Nat) (ss : List Step) :
    total (fun e => f e.2) (numbered n ss) = total f ss := by
  induction ss generalizing n with
  | nil => rfl
  | cons s ss ih => simp [numbered, ih]

/-- The log of a run is kept in pace up to the time that its steps take, and the
runs on it are those that the outcome counts. -/
theorem run_paced {config : Config} {name : Option String} {ss : List Step} {o : Outcome}
    (h : run config ⟨name, ss⟩ = .ok o) :
    Paced config.window (elapsed ss) ((new config).log (numbered 1 ss)) ∧
      o.summary.throttledRuns =
        (((new config).log (numbered 1 ss)).filter Event.isRun).length ∧
      o.summary.elapsedMs = writtenTime (elapsed ss) := by
  obtain ⟨r, hr, rfl⟩ := exists_of_run h
  have hstart := (inStep_new config).1
  have hruns := hstart.throttledRuns_play (numbered 1 ss)
  have htime := hstart.now_play (numbered 1 ss)
  rw [play_of_applyAll hr] at hruns htime
  rw [total_numbered] at htime
  refine ⟨?_, ?_, ?_⟩
  · obtain ⟨q, ⟨p, hl, hp, -⟩, hnow⟩ := (logged_start config.window).play (numbered 1 ss)
    have hend : p.now = elapsed ss := by
      rw [hp, hnow, total_numbered]
      exact Nat.zero_add _
    have hpaced := hl.paced
    rwa [List.nil_append, hend, ← hstart.log] at hpaced
  · exact hruns.trans (Nat.zero_add _)
  · show writtenTime r.workspace.now = _
    rw [htime]
    exact congrArg writtenTime (Nat.zero_add _)

/-- A fetch while a window is open is absorbed: the run comes when the window closes. -/
theorem run_paced_absorbing :
    let ss : List Step := [.addResult "a" true, .selectResult "a", .beginFetch "a",
      .advance 59, .completeFetch "a", .advance 2]
    ∃ o, run {} ⟨none, ss⟩ = .ok o ∧ o.summary.throttledRuns = 1 ∧ o.summary.elapsedMs = 61 ∧
      Paced 60 61 [⟨0, .change⟩, ⟨0, .fetch⟩, ⟨59, .advance⟩, ⟨59, .fetch⟩, ⟨60, .run⟩,
        ⟨61, .advance⟩] := by
  intro ss
  obtain ⟨q, hq⟩ : ∃ q, Reference.applyAll (Config.window {}) {} 1 ss = .ok q := ⟨_, rfl⟩
  obtain ⟨o, hrun⟩ := run_accepted hq none
  have hlog : (new {}).log (numbered 1 ss) = [⟨0, .change⟩, ⟨0, .fetch⟩, ⟨59, .advance⟩,
      ⟨59, .fetch⟩, ⟨60, .run⟩, ⟨61, .advance⟩] := (inStep_new {}).1.log _
  obtain ⟨hpaced, hruns, htime⟩ := run_paced hrun
  rw [hlog] at hpaced hruns
  exact ⟨o, hrun, hruns, htime, hpaced⟩

/-- Where the window is zero, a fetch is not followed up before the clock is
moved, be it by nothing. -/
theorem fetch_unfollowed_without_advance :
    let config : Config := { throttleMs := 0 }
    let ss : List Step := [.addResult "a" true, .selectResult "a", .beginFetch "a"]
    ∃ o, run config ⟨none, ss⟩ = .ok o ∧
      ¬ ∀ a f b, (new config).log (numbered 1 ss) = a ++ f :: b → f.mark = .fetch →
        Followed config.window f b ∨ elapsed ss < f.time + config.window := by
  intro config ss
  obtain ⟨q, hq⟩ : ∃ q, Reference.applyAll config.window {} 1 ss = .ok q := ⟨_, rfl⟩
  obtain ⟨o, hrun⟩ := run_accepted hq none
  refine ⟨o, hrun, fun hclaim => ?_⟩
  have hlog : (new config).log (numbered 1 ss) = [⟨0, .change⟩, ⟨0, .fetch⟩] :=
    (inStep_new config).1.log _
  rcases hclaim [⟨0, .change⟩] ⟨0, .fetch⟩ [] hlog rfl with ⟨c, e, l, hnil, -⟩ | hlt
  · simp at hnil
  · exact absurd hlt (by decide)

end Replay

end DetailPanel
