import DetailPanel.Proofs.Replay.Reference

/-!
# Replays refine the reference machine

A replay matches the machine if its workspace agrees with it and its panel shows
what the machine shows.  They go on in step: a step meets the same fault in both,
or leaves them matching and adds the entries of the machine to the timeline.

    Matches window r q → Matches window (r.select …) (q.select …)            (Matches.select)
    Matches window r q → … (r.advance n ms) matches q.advance ms             (Matches.advance)
    InStep window r q → Answers window r q n s                               (InStep.apply)
-/

namespace DetailPanel.Replay

open Workspace

/-- A replay is in the state of the reference machine. -/
structure Matches (window : Nat) (r : Replay) (q : Reference) : Prop where
  agrees : Agrees r.results r.workspace q
  solo : ∃ t, r.workspace.Solo r.panel t ∧ t.Shows window r.workspace.result q.flags q.deadline
  due : ∀ d, q.deadline = some d → q.now ≤ d

variable {window : Nat} {r r' : Replay} {q q' : Reference} {w : Workspace} {t : Tracker}

theorem Matches.flags (h : Matches window r q) : r.flags = q.flags := by
  obtain ⟨t, hsolo, hshows⟩ := h.solo
  simp [Replay.flags, tracker?, hsolo.tracker, hshows.flags_eq]

theorem Matches.deadline (h : Matches window r q) : r.deadline = q.deadline := by
  obtain ⟨t, hsolo, hshows⟩ := h.solo
  simp [Replay.deadline, Workspace.deadline, hsolo.tracker, hshows.deadline_eq]

theorem Matches.of_workspace (hagrees : Agrees r.results w q) (hsolo : w.Solo r.panel t)
    (hshows : t.Shows window w.result q.flags q.deadline)
    (hdue : ∀ d, q.deadline = some d → q.now ≤ d) : Matches window (r.setWorkspace w) q := by
  have hviews : ViewsOnly w (r.setWorkspace w).workspace := rfl
  exact ⟨hagrees.transport hviews.panelsOnly, ⟨t, hsolo.scenery hviews, hshows⟩, hdue⟩

/-- What is counted and what has been recorded is no part of the state. -/
theorem Matches.congr (h : Matches window r q) (hw : r'.workspace = r.workspace)
    (hp : r'.panel = r.panel) (hr : r'.results = r.results) : Matches window r' q := by
  obtain ⟨hagrees, hsolo, hdue⟩ := h
  exact ⟨by rwa [hr, hw], by rwa [hw, hp], hdue⟩

/-! ## Steps without time -/

theorem Matches.select (h : Matches window r q) {current : Option String}
    (hk : ∀ x, current = some x → (r.results.get? x).isSome) :
    Matches window (r.select (current.bind r.results.get?)) (q.select current) := by
  obtain ⟨t, hsolo, hshows⟩ := h.solo
  have hiff := h.agrees.result_eq_iff hk
  by_cases hcur : q.current = current
  · have hsame : r.workspace.selectResult (current.bind r.results.get?) = _ :=
      ((r.workspace.selectResult_spec _).resolve_right fun hne => hne.1 (hiff.2 hcur)).2
    rw [Replay.select, hsame, Reference.select, if_pos hcur]
    exact .of_workspace h.agrees hsolo hshows h.due
  · have hknown : ∀ id, current.bind r.results.get? = some id →
        (r.workspace.results.get? id).isSome := by
      intro id hid
      obtain ⟨x, -, hx⟩ := Option.bind_eq_some_iff.1 hid
      exact h.agrees.known x id hx
    obtain ⟨heq, hsolo'⟩ := hsolo.selectResult (fun hr => hcur (hiff.1 hr)) hknown
    have hagrees := h.agrees.select hk
    rw [Replay.select, Reference.select, if_neg hcur]
    dsimp only
    rw [heq]
    refine .of_workspace ((hagrees.shown _ _).transport (.resync _ r.panel)) hsolo' ?_
      (by simp [Reference.render])
    rw [(PanelsOnly.resync _ r.panel).result]
    have hlive := hshows.resynced (w := { r.workspace with result := current.bind r.results.get? })
    rwa [hagrees.live] at hlive

theorem Matches.selectCard (h : Matches window r q) (card : Option (String × Option String)) :
    Matches window (r.selectCard (card.map fun c => { id := c.1, title := c.2 }))
      (q.selectCard card) := by
  obtain ⟨t, hsolo, hshows⟩ := h.solo
  have hiff := h.agrees.sameCard_iff card
  by_cases hcard : q.card = card
  · have hsame : r.workspace.selectCard (card.map fun c => { id := c.1, title := c.2 }) = _ :=
      ((r.workspace.selectCard_spec _).resolve_right fun hne => by
        simp [hiff.2 hcard] at hne).2
    rw [Replay.selectCard, hsame, Reference.selectCard, if_pos hcard]
    exact .of_workspace h.agrees hsolo hshows h.due
  · have hother : sameCard r.workspace.card (card.map fun c => { id := c.1, title := c.2 }) = false :=
      Bool.eq_false_iff.2 fun hs => hcard (hiff.1 hs)
    obtain ⟨heq, hsolo'⟩ := hsolo.selectCard hother
    have hagrees := h.agrees.selectCard card
    rw [Replay.selectCard, Reference.selectCard, if_neg hcard]
    dsimp only
    rw [heq]
    refine .of_workspace ((hagrees.shown _ _).transport (.repaint _ r.panel)) hsolo' ?_ h.due
    rw [(PanelsOnly.repaint _ r.panel).result]
    have hpaint := hshows.paint ({ q with card }.live)
    rwa [hagrees.live]

theorem Matches.fetch (h : Matches window r q) {x : String} {id : ResultId}
    (hx : r.results.get? x = some id) (f : Fetch) :
    Matches window (r.fetch f id) (q.fetch window x f.searching) := by
  obtain ⟨t, hsolo, hshows⟩ := h.solo
  have hagrees := h.agrees.setSearching hx f.searching
  have hiff : r.workspace.result = some id ↔ q.current = some x := by
    have hiff : r.workspace.result = (some x).bind r.results.get? ↔ q.current = some x :=
      h.agrees.result_eq_iff (by simp [hx])
    rwa [Option.bind_some, hx] at hiff
  rw [Replay.fetch]
  dsimp only
  by_cases hcur : q.current = some x
  · obtain ⟨b, hb, rfl⟩ := Option.map_eq_some_iff.1 (hshows.bound.trans (hiff.2 hcur))
    obtain ⟨heq, hsolo'⟩ := hsolo.fetch_bound hb f
    have hnow : r.workspace.clock.now = q.now := h.agrees.now
    have harmed := hshows.armed hb r.workspace.clock
    rw [hnow] at harmed
    rw [heq, Reference.fetch_current hcur]
    have hmove := PanelsOnly.arm (r.workspace.setSearching b.result f.searching) r.panel b.generation
    refine .of_workspace ((hagrees.shown _ _).transport hmove) hsolo' ?_ fun d hd => ?_
    · rw [hmove.result]
      exact harmed
    · obtain rfl := Option.some.inj hd
      show q.now ≤ q.deadline.getD (q.now + window)
      cases hq : q.deadline with
      | none => exact Nat.le_add_right ..
      | some d => exact h.due d hq
  · have hother : t.binding.map (·.result) ≠ some id := by
      rw [hshows.bound]
      exact fun hres => hcur (hiff.1 hres)
    rw [hsolo.fetch_unbound hother, Reference.fetch, if_neg fun hidle => hcur hidle.1]
    exact .of_workspace hagrees (hsolo.setSearching id f.searching) hshows h.due

theorem Matches.render (h : Matches window r q) :
    Matches window (r.setWorkspace (r.workspace.render r.panel)) q.render := by
  obtain ⟨t, hsolo, hshows⟩ := h.solo
  have hviews := ViewsOnly.modifyView r.workspace r.panel fun v => { v with renders := v.renders + 1 }
  have hagrees := h.agrees.transport hviews.panelsOnly
  refine .of_workspace ((hagrees.shown _ _).transport (.resync _ r.panel))
    (hsolo.scenery hviews).resync ?_ (by simp [Reference.render])
  have hresult : (r.workspace.render r.panel).result = r.workspace.result :=
    (PanelsOnly.resync _ r.panel).result
  have hlive := hshows.resynced (w := r.workspace.modifyView r.panel fun v =>
    { v with renders := v.renders + 1 })
  rw [hagrees.live] at hlive
  rwa [hresult]

theorem Matches.addResult (h : Matches window r q) {x : String} (hx : r.results.get? x = none)
    (on : Bool) :
    Matches window { r with
      workspace := (r.workspace.addResult x on).2
      results := r.results.set x r.workspace.nextResult } (q.setSearching x on) := by
  obtain ⟨t, hsolo, hshows⟩ := h.solo
  exact ⟨h.agrees.addResult hsolo.wired.toNumbered hx x on, ⟨t, hsolo.addResult x on, hshows⟩, h.due⟩

/-! ## Records -/

theorem Matches.record (h : Matches window r q) (n : Nat) (cause : Cause) :
    Matches window (r.record n cause) q := by
  unfold Replay.record
  split
  · exact h
  · exact h.congr rfl rfl rfl

/-- An entry is added if the flags differ from those of the last one. -/
theorem record_spec {last : Flags} (hlast : r.lastFlags = some last) (n : Nat) (cause : Cause) :
    (r.record n cause).lastFlags = some r.flags ∧
      (r.record n cause).timeline = r.timeline ++
        if r.flags = last then [] else [⟨n, writtenTime r.workspace.now, cause, r.flags⟩] := by
  unfold Replay.record
  rw [hlast]
  by_cases hf : r.flags = last
  · simp [hf, hlast]
  · simp [hf, Ne.symm hf]

/-! ## Time -/

theorem Matches.setClock (h : Matches window r q) (clock : Clock)
    (hdue : ∀ d, q.deadline = some d → clock.now ≤ d) :
    Matches window (r.setWorkspace { r.workspace with clock }) { q with now := clock.now } := by
  obtain ⟨t, hsolo, hshows⟩ := h.solo
  exact .of_workspace (h.agrees.setClock clock) (hsolo.setClock clock) hshows hdue

/-- A poll at the deadline paints the panel and leaves no deadline. -/
theorem Matches.pollAt (h : Matches window r q) {d : Nat} (hd : q.deadline = some d) :
    ((r.workspace.advanceTo d).poll r.panel d).1 = true ∧
      Matches window (r.setWorkspace ((r.workspace.advanceTo d).poll r.panel d).2)
        { q.render with now := d } := by
  have hnow : (r.workspace.clock.advanceTo d).now = d :=
    (Clock.advanceTo_natCast r.workspace.clock d).trans <| Nat.max_eq_right <| by
      show r.workspace.now ≤ d
      rw [h.agrees.now]
      exact h.due d hd
  have hclock := h.agrees.setClock (r.workspace.clock.advanceTo d)
  rw [hnow] at hclock
  have hpending : (r.workspace.advanceTo d).deadline r.panel = some d := h.deadline.trans hd
  have hmove := PanelsOnly.poll (r.workspace.advanceTo d) r.panel d
  obtain ⟨t, hsolo, hshows⟩ := h.solo
  rw [hd] at hshows
  refine ⟨poll_of_deadline hpending (Nat.le_refl d), ?_⟩
  refine .of_workspace (Agrees.transport (hclock.shown _ _) hmove)
    ((hsolo.setClock (r.workspace.clock.advanceTo d)).poll d) ?_ (by simp [Reference.render])
  rw [hmove.result]
  have hlive : (r.workspace.advanceTo d).liveFlags = q.live := hclock.live
  have hshown := hshows.polled (Nat.le_refl d) (r.workspace.advanceTo d).liveFlags
  rw [hlive] at hshown
  show Tracker.Shows (t.polled (r.workspace.advanceTo d).liveFlags d) _ _ _ _
  rw [hlive]
  exact hshown

/-- What falls due at a deadline is run and recorded. -/
theorem Matches.runAt (h : Matches window r q) (hlast : r.lastFlags = some q.flags) {d : Nat}
    (hd : q.deadline = some d) (n : Nat) :
    Matches window (r.runAt n d) { q.render with now := d } ∧
      (r.runAt n d).lastFlags = some q.live ∧
      (r.runAt n d).timeline = r.timeline ++
        if q.live = q.flags then [] else [⟨n, writtenTime d, .throttle, q.live⟩] := by
  obtain ⟨hdue, hpolled⟩ := h.pollAt hd
  let fired : Replay :=
    { r.setWorkspace ((r.workspace.advanceTo d).poll r.panel d).2 with
      throttledRuns := r.throttledRuns + 1 }
  have hfired : Matches window fired { q.render with now := d } := hpolled.congr rfl rfl rfl
  have hrun : r.runAt n d = fired.record n .throttle := by
    simp only [Replay.runAt, hdue, if_true]
    rfl
  have hflags : fired.flags = q.live := hfired.flags
  have hnow : fired.workspace.now = d := hfired.agrees.now
  have hrecord := record_spec (r := fired) hlast n .throttle
  rw [hflags, hnow] at hrecord
  rw [hrun]
  exact ⟨hfired.record n .throttle, hrecord⟩

theorem runUntil_of_due {d target : Nat} (hd : r.deadline = some d) (hle : d ≤ target) (n : Nat) :
    r.runUntil n target = r.runAt n d := by
  have hnone : (r.runAt n d).deadline = none := deadline_runAt hd
  rw [runUntil]
  split
  · rename_i d' hd'
    obtain rfl := Option.some.inj (hd.symm.trans hd')
    rw [if_pos hle, runUntil]
    split
    · rename_i d' hd'
      simp [hnone] at hd'
    · rfl
  · rename_i hd'
    simp [hd] at hd'

theorem runUntil_of_not_due {target : Nat} (h : ¬ r.deadline.any (· ≤ target)) (n : Nat) :
    r.runUntil n target = r := by
  rw [runUntil]
  split
  · rename_i d hd
    rw [if_neg ?_]
    simpa [hd] using h
  · rfl

theorem Matches.advanceTo (h : Matches window r q) {target : Nat} (hnow : q.now ≤ target)
    (hdue : ∀ d, q.deadline = some d → target ≤ d) :
    Matches window (r.setWorkspace (r.workspace.advanceTo target)) { q with now := target } := by
  have hclock : (r.workspace.clock.advanceTo target).now = target :=
    (Clock.advanceTo_natCast r.workspace.clock target).trans <| Nat.max_eq_right <| by
      show r.workspace.now ≤ target
      rwa [h.agrees.now]
  have hset := h.setClock (r.workspace.clock.advanceTo target) (by rwa [hclock])
  rwa [hclock] at hset

theorem Matches.advance (h : Matches window r q) (hlast : r.lastFlags = some q.flags)
    (n ms : Nat) :
    Matches window (r.advance n ms) (q.advance ms) ∧
      (r.advance n ms).lastFlags = some (q.advance ms).flags ∧
      (r.advance n ms).timeline = r.timeline ++
        if (q.advance ms).flags = q.flags then []
        else [⟨n, writtenTime (q.deadline.getD q.now), .throttle, (q.advance ms).flags⟩] := by
  rw [Replay.advance, Reference.advance, h.agrees.now]
  split
  · rename_i hdue
    obtain ⟨d, hd, hle⟩ := (Option.any_eq_true ..).1 hdue
    have hle : d ≤ q.now + ms := by simpa using hle
    obtain ⟨hrun, hlast', htimeline⟩ := h.runAt hlast hd n
    rw [runUntil_of_due (h.deadline.trans hd) hle]
    refine ⟨hrun.advanceTo hle (by simp [Reference.render]), hlast', ?_⟩
    rw [hd]
    exact htimeline
  · rename_i hnot
    rw [runUntil_of_not_due (by rwa [h.deadline])]
    refine ⟨h.advanceTo (Nat.le_add_right ..) fun d hd => ?_, hlast, ?_⟩
    · have : ¬ d ≤ q.now + ms := by simpa [hd] using hnot
      omega
    · simp [Replay.setWorkspace]

/-! ## Steps -/

/-- Between steps the flags shown are those that were recorded last. -/
structure InStep (window : Nat) (r : Replay) (q : Reference) : Prop extends Matches window r q where
  last : r.lastFlags = some q.flags

/-- A replay does with a step what the machine does: it fails in the same way, or
gets to a matching state and makes the same entries. -/
def Answers (window : Nat) (r : Replay) (q : Reference) (n : Nat) (s : Step) :
    Except Fault Reference → Prop
  | .ok q' => (r.apply n s).1 = none ∧ InStep window (r.apply n s).2 q' ∧
      (r.apply n s).2.timeline = r.timeline ++ q.entries n s q'
  | .error e => r.apply n s = (some e, { r with steps := r.steps + 1 })

theorem InStep.counted (h : InStep window r q) :
    InStep window { r with steps := r.steps + 1 } q := ⟨h.toMatches.congr rfl rfl rfl, h.last⟩

/-- A step that takes no time: its entry is made at the end. -/
theorem InStep.answers_of_act (h : InStep window r q) {n : Nat} {s : Step}
    (hact : Replay.act { r with steps := r.steps + 1 } n s = .ok r') (hm : Matches window r' q')
    (hlast : r'.lastFlags = r.lastFlags) (htimeline : r'.timeline = r.timeline)
    (hnow : q'.now = q.now) (hs : ∀ ms, s ≠ .advance ms) : Answers window r q n s (.ok q') := by
  have happly : r.apply n s = (none, r'.record n (.step s.kind)) := by
    simp only [Replay.apply, hact]
  obtain ⟨hrec, hentries⟩ := record_spec (hlast.trans h.last) n (.step s.kind)
  rw [hm.flags] at hrec
  rw [hm.flags, hm.agrees.now, hnow, htimeline] at hentries
  show (r.apply n s).1 = none ∧ _ ∧ _
  rw [happly]
  refine ⟨rfl, ⟨hm.record n _, hrec⟩, hentries.trans ?_⟩
  unfold Reference.entries
  cases s with
  | advance ms => exact absurd rfl (hs ms)
  | _ => rfl

/-- A step that names a result fails if no result has the name. -/
theorem InStep.answers_withResult (h : InStep window r q) {n : Nat} {s : Step} {x : String}
    {f : ResultId → Replay} (hact : Replay.act { r with steps := r.steps + 1 } n s =
      Replay.withResult { r with steps := r.steps + 1 } n x f)
    (hf : ∀ id, r.results.get? x = some id → Answers window r q n s (.ok q')) :
    Answers window r q n s (q.withResult n x q') := by
  rw [Reference.withResult, h.agrees.contains, Table.contains]
  cases hx : r.results.get? x with
  | some id => exact hf id hx
  | none =>
      have herr : Replay.act { r with steps := r.steps + 1 } n s = .error (.unknownResult n x) := by
        rw [hact, Replay.withResult, hx]
      simp only [Answers, Replay.apply, herr]
      rfl

theorem InStep.answers_fetch (h : InStep window r q) {n : Nat} {s : Step} {x : String} (f : Fetch)
    (hact : Replay.act { r with steps := r.steps + 1 } n s =
      Replay.withResult { r with steps := r.steps + 1 } n x
        (Replay.fetch { r with steps := r.steps + 1 } f))
    (hs : ∀ ms, s ≠ .advance ms) :
    Answers window r q n s (q.withResult n x (q.fetch window x f.searching)) := by
  refine h.answers_withResult hact fun id hid => ?_
  refine h.answers_of_act ?_ (h.counted.toMatches.fetch hid f) rfl rfl ?_ hs
  · rw [hact, Replay.withResult, hid]
  · unfold Reference.fetch
    split <;> rfl

theorem now_select (q : Reference) (current : Option String) : (q.select current).now = q.now := by
  unfold Reference.select
  split <;> rfl

theorem now_selectCard (q : Reference) (card : Option (String × Option String)) :
    (q.selectCard card).now = q.now := by
  unfold Reference.selectCard
  split <;> rfl

theorem InStep.apply (h : InStep window r q) (n : Nat) (s : Step) :
    Answers window r q n s (q.step window n s) := by
  have hm := h.counted.toMatches
  cases s with
  | addResult x on =>
      rw [Reference.step, h.agrees.contains, Table.contains]
      cases hx : r.results.get? x with
      | some id =>
          simp [Answers, Replay.apply, Replay.act, Table.contains, hx]
      | none =>
          refine h.answers_of_act ?_ (hm.addResult hx on) rfl rfl rfl (by simp)
          simp [Replay.act, Table.contains, hx, Workspace.addResult]
  | selectResult x =>
      refine h.answers_withResult rfl fun id hid => ?_
      have hsel : Matches window (Replay.select _ ((some x).bind r.results.get?)) _ :=
        hm.select (by simp [hid])
      rw [Option.bind_some, hid] at hsel
      refine h.answers_of_act ?_ hsel rfl rfl (now_select ..) (by simp)
      simp [Replay.act, Replay.withResult, hid]
  | clearResult =>
      have hclear : Matches window (Replay.select _ (none.bind r.results.get?)) _ :=
        hm.select (by simp)
      exact h.answers_of_act rfl hclear rfl rfl (now_select ..) (by simp)
  | selectMetacard id title =>
      exact h.answers_of_act rfl (hm.selectCard (some (id, title))) rfl rfl (now_selectCard ..)
        (by simp)
  | clearMetacard =>
      exact h.answers_of_act rfl (hm.selectCard none) rfl rfl (now_selectCard ..) (by simp)
  | beginFetch x => exact h.answers_fetch .begin rfl (by simp)
  | completeFetch x => exact h.answers_fetch .complete rfl (by simp)
  | failFetch x => exact h.answers_fetch .fail rfl (by simp)
  | advance ms =>
      obtain ⟨hadv, hlast, htimeline⟩ := hm.advance h.last n ms.toNat
      obtain ⟨hrec, hentries⟩ := record_spec hlast n (.step .advance)
      rw [hadv.flags] at hrec
      rw [if_pos hadv.flags, List.append_nil] at hentries
      refine ⟨rfl, ⟨hadv.record n _, hrec⟩, hentries.trans (htimeline.trans ?_)⟩
      rfl
  | render => exact h.answers_of_act rfl hm.render rfl rfl rfl (by simp)

/-- A step that is accepted is accepted by the machine. -/
theorem InStep.of_apply (h : InStep window r q) (happly : r.apply n s = (none, r')) :
    ∃ q', q.step window n s = .ok q' ∧ InStep window r' q' ∧
      r'.timeline = r.timeline ++ q.entries n s q' := by
  have hanswer := h.apply n s
  cases hstep : q.step window n s with
  | ok q' =>
      rw [hstep] at hanswer
      obtain ⟨-, hin, htimeline⟩ := hanswer
      rw [happly] at hin htimeline
      exact ⟨q', rfl, hin, htimeline⟩
  | error e =>
      rw [hstep] at hanswer
      have hanswer : r.apply n s = _ := hanswer
      rw [happly] at hanswer
      cases hanswer

/-! ## Runs -/

/-- Apply numbered steps; one that fails is passed over. -/
def play (r : Replay) : List (Nat × Step) → List (Option Fault) × Replay
  | [] => ([], r)
  | (n, s) :: ss =>
      let (fault, r) := r.apply n s
      let (faults, r) := r.play ss
      (fault :: faults, r)

/-- The faults, the entries and the last state of numbered steps. -/
def Reference.play (window : Nat) (q : Reference) :
    List (Nat × Step) → List (Option Fault) × List Entry × Reference
  | [] => ([], [], q)
  | (n, s) :: ss =>
      match q.step window n s with
      | .ok q' =>
          let (faults, entries, q'') := q'.play window ss
          (none :: faults, q.entries n s q' ++ entries, q'')
      | .error e =>
          let (faults, entries, q') := q.play window ss
          (some e :: faults, entries, q')

/-- Apply steps under ascending numbers until one fails. -/
def Reference.applyAll (window : Nat) (q : Reference) (n : Nat) : List Step → Except Fault Reference
  | [] => .ok q
  | s :: ss =>
      match q.step window n s with
      | .ok q' => q'.applyAll window (n + 1) ss
      | .error e => .error e

theorem InStep.play (h : InStep window r q) (ss : List (Nat × Step)) :
    (r.play ss).1 = (q.play window ss).1 ∧
      InStep window (r.play ss).2 (q.play window ss).2.2 ∧
      (r.play ss).2.timeline = r.timeline ++ (q.play window ss).2.1 := by
  induction ss generalizing r q with
  | nil => exact ⟨rfl, h, (List.append_nil _).symm⟩
  | cons e ss ih =>
      obtain ⟨n, s⟩ := e
      have hanswer := h.apply n s
      rw [Replay.play, Reference.play]
      cases hstep : q.step window n s with
      | ok q' =>
          rw [hstep] at hanswer
          obtain ⟨hnone, hin, htimeline⟩ := hanswer
          obtain ⟨hfaults, hend, hentries⟩ := ih hin
          refine ⟨?_, hend, ?_⟩
          · exact congr (congrArg _ hnone) hfaults
          · rw [← List.append_assoc, ← htimeline]
            exact hentries
      | error e =>
          rw [hstep] at hanswer
          have hanswer : r.apply n s = _ := hanswer
          obtain ⟨hfaults, hend, hentries⟩ := ih h.counted
          rw [hanswer]
          exact ⟨congrArg _ hfaults, hend, hentries⟩

/-- The steps with their numbers. -/
def numbered (n : Nat) : List Step → List (Nat × Step)
  | [] => []
  | s :: ss => (n, s) :: numbered (n + 1) ss

/-- Where no step fails, none is passed over. -/
theorem play_of_applyAll {n : Nat} {ss : List Step} (h : r.applyAll n ss = .ok r') :
    (r.play (numbered n ss)).2 = r' := by
  induction ss generalizing r n with
  | nil => exact Except.ok.inj h
  | cons s ss ih =>
      rw [Replay.applyAll] at h
      split at h
      · rename_i r₁ happly
        rw [numbered, Replay.play, happly]
        exact ih h
      · cases h

theorem applyAll_cons_eq_ok {n : Nat} {s : Step} {ss : List Step} :
    r.applyAll n (s :: ss) = .ok r' ↔
      ∃ r₁, r.apply n s = (none, r₁) ∧ r₁.applyAll (n + 1) ss = .ok r' := by
  rw [Replay.applyAll]
  split
  · rename_i r₁ happly
    simp [happly]
  · rename_i e r₁ happly
    simp [happly]

/-- What stands in front is carried out first. -/
theorem applyAll_append (r : Replay) (n : Nat) (ss ts : List Step) :
    r.applyAll n (ss ++ ts) = (r.applyAll n ss).bind (·.applyAll (n + ss.length) ts) := by
  induction ss generalizing r n with
  | nil => rfl
  | cons s ss ih =>
      rw [List.cons_append, Replay.applyAll, Replay.applyAll, List.length_cons,
        Nat.add_comm ss.length, ← Nat.add_assoc]
      split
      · exact ih _ _
      · rfl

theorem applyAll_append_eq_ok {n : Nat} {ss ts : List Step} :
    r.applyAll n (ss ++ ts) = .ok r' ↔
      ∃ r₁, r.applyAll n ss = .ok r₁ ∧ r₁.applyAll (n + ss.length) ts = .ok r' := by
  rw [applyAll_append]
  cases r.applyAll n ss with
  | ok r₁ => simp [Except.bind]
  | error e => simp [Except.bind]

theorem applyAll_concat_eq_ok {n : Nat} {ss : List Step} {s : Step} :
    r.applyAll n (ss ++ [s]) = .ok r' ↔
      ∃ r₁, r.applyAll n ss = .ok r₁ ∧ r₁.apply (n + ss.length) s = (none, r') := by
  rw [applyAll_append_eq_ok]
  refine exists_congr fun r₁ => and_congr_right fun _ => ?_
  rw [applyAll_cons_eq_ok]
  simp [Replay.applyAll]

/-- A replay accepts the steps that the machine accepts. -/
theorem InStep.applyAll (h : InStep window r q) (n : Nat) (ss : List Step) :
    match q.applyAll window n ss with
    | .ok q' => ∃ r', r.applyAll n ss = .ok r' ∧ InStep window r' q'
    | .error e => r.applyAll n ss = .error e := by
  induction ss generalizing r q n with
  | nil => exact ⟨r, rfl, h⟩
  | cons s ss ih =>
      have hanswer := h.apply n s
      rw [Reference.applyAll, Replay.applyAll]
      cases hstep : q.step window n s with
      | ok q' =>
          rw [hstep] at hanswer
          obtain ⟨hnone, hin, -⟩ := hanswer
          have happly : r.apply n s = (none, (r.apply n s).2) := Prod.ext hnone rfl
          rw [happly]
          exact ih hin (n + 1)
      | error e =>
          rw [hstep] at hanswer
          have hanswer : r.apply n s = _ := hanswer
          rw [hanswer]

/-! ## From the beginning -/

theorem Matches.of_views (h : Matches window r q) (hv : ViewsOnly r.workspace w) :
    Matches window (r.setWorkspace w) q := by
  obtain ⟨t, hsolo, hshows⟩ := h.solo
  refine .of_workspace (h.agrees.transport hv.panelsOnly) (hsolo.scenery hv) ?_ h.due
  rwa [hv.panelsOnly.result]

/-- A panel that has been made and not been shown. -/
theorem matches_added (config : Config) :
    Matches config.window
      { workspace := (({} : Workspace).addView "panel" config false).2, panel := 0 }
      { flags := {} } := by
  let l : Licence := ⟨False, fun _ => False, fun _ _ => False⟩
  have htrackers : ∃ t, (({} : Workspace).addView "panel" config false).2.trackers = [(0, t)] :=
    ⟨_, rfl⟩
  refine ⟨⟨rfl, by simp, by simp, by simp, rfl, by simp, rfl⟩, ⟨_, ⟨?_, rfl, ?_, rfl⟩, ?_⟩, by simp⟩
  · exact wired_empty.moves (l := l) (moves_addView _ "panel" config false)
  · intro p hp
    obtain ⟨t, ht⟩ := htrackers
    rw [ht, Table.get?] at hp
    split at hp
    · assumption
    · cases hp
  · exact ⟨rfl, rfl, rfl, rfl, by simp [Tracker.binding], rfl, rfl⟩

/-- The first display starts the timeline. -/
theorem inStep_new (config : Config) :
    InStep config.window (new config) {} ∧
      (new config).timeline = [⟨0, 0, .shown, { notFound := true }⟩] := by
  let w := (({} : Workspace).addView "panel" config false).2
  let made : Replay := { workspace := w, panel := 0 }
  have hrendered : Matches config.window (made.setWorkspace (w.render 0)) {} :=
    (matches_added config).render
  have hviews : ViewsOnly (made.setWorkspace (w.render 0)).workspace (w.showView 0) :=
    (show ViewsOnly (made.setWorkspace (w.render 0)).workspace (w.render 0) from rfl).trans
      (.beforeShow (w.render 0) 0)
  have hshown : Matches config.window (made.setWorkspace (w.showView 0)) {} :=
    (hrendered.of_views hviews).congr rfl rfl rfl
  have hnew : new config = (made.setWorkspace (w.showView 0)).record 0 .shown := rfl
  have hrecord : (made.setWorkspace (w.showView 0)).record 0 .shown =
      { made.setWorkspace (w.showView 0) with
        lastFlags := some { notFound := true }
        timeline := [⟨0, 0, .shown, { notFound := true }⟩] } := by
    rw [Replay.record, if_neg (by simp [made, Replay.setWorkspace]), hshown.flags, hshown.agrees.now]
    rfl
  rw [hnew]
  exact ⟨⟨hshown.record 0 .shown, by rw [hrecord]⟩, by rw [hrecord]⟩

/-- A run accepts the scenarios that the machine accepts, and ends with its flags
at its time. -/
theorem run_refines (config : Config) (name : Option String) (ss : List Step) :
    match Reference.applyAll config.window {} 1 ss with
    | .ok q => ∃ r, (new config).applyAll 1 ss = .ok r ∧ InStep config.window r q ∧
        run config ⟨name, ss⟩ = .ok (r.finish name)
    | .error e => run config ⟨name, ss⟩ = .error e := by
  have hall := (inStep_new config).1.applyAll 1 ss
  cases hq : Reference.applyAll config.window {} 1 ss with
  | ok q =>
      rw [hq] at hall
      obtain ⟨r, hr, hin⟩ := hall
      exact ⟨r, hr, hin, by rw [run, hr]; rfl⟩
  | error e =>
      rw [hq] at hall
      have hr : (new config).applyAll 1 ss = .error e := hall
      show run config ⟨name, ss⟩ = .error e
      rw [run, hr]
      rfl

/-- What can be seen of a replay is what the machine has in its variables. -/
structure Refines (r : Replay) (q : Reference) : Prop where
  now : r.workspace.now = q.now
  searching : ∀ x, q.searching.get? x = (r.results.get? x).map r.workspace.isSearching
  current : ∀ x, q.current = some x ↔
    ∃ id, r.results.get? x = some id ∧ r.workspace.result = some id
  cleared : q.current = none ↔ r.workspace.result = none
  card : r.workspace.card = q.card.map fun c => { id := c.1, title := c.2 }
  flags : r.flags = q.flags
  deadline : r.deadline = q.deadline

theorem Matches.refines (h : Matches window r q) : Refines r q where
  now := h.agrees.now
  searching := h.agrees.searching
  current x := by
    constructor
    · intro hx
      obtain ⟨id, hid⟩ := Option.isSome_iff_exists.1 (h.agrees.current x hx)
      exact ⟨id, hid, by rw [h.agrees.result, hx, Option.bind_some, hid]⟩
    · rintro ⟨id, hid, hres⟩
      refine (h.agrees.result_eq_iff (by simp [hid])).1 ?_
      rw [hres, Option.bind_some, hid]
  cleared := (h.agrees.result_eq_iff (by simp)).symm
  card := h.agrees.card
  flags := h.flags
  deadline := h.deadline

/-- After any numbered steps, those that fail passed over, a replay and the machine
have met the same faults and are in the same state, and the timeline has the
entries of the machine after that of the first display.  A step that the machine
refuses next is counted and changes nothing else.  The run of a scenario is
accepted if the machine accepts it, and ends likewise. -/
theorem replay_refines_reference (config : Config) :
    (∀ ss : List (Nat × Step),
      ((new config).play ss).1 = (Reference.play config.window {} ss).1 ∧
        Refines ((new config).play ss).2 (Reference.play config.window {} ss).2.2 ∧
        ((new config).play ss).2.timeline =
          ⟨0, 0, .shown, { notFound := true }⟩ :: (Reference.play config.window {} ss).2.1 ∧
        ∀ n s e, (Reference.play config.window {} ss).2.2.step config.window n s = .error e →
          ((new config).play ss).2.apply n s =
            (some e, { ((new config).play ss).2 with steps := ((new config).play ss).2.steps + 1 })) ∧
      ∀ (name : Option String) (ss : List Step),
        match Reference.applyAll config.window {} 1 ss with
        | .ok q => ∃ r, (new config).applyAll 1 ss = .ok r ∧ Refines r q ∧
            r.timeline = ⟨0, 0, .shown, { notFound := true }⟩ ::
              (Reference.play config.window {} (numbered 1 ss)).2.1 ∧
            run config ⟨name, ss⟩ = .ok (r.finish name)
        | .error e => run config ⟨name, ss⟩ = .error e := by
  obtain ⟨hin, hshown⟩ := inStep_new config
  have htimeline : ∀ ss : List (Nat × Step), ((new config).play ss).2.timeline =
      ⟨0, 0, .shown, { notFound := true }⟩ :: (Reference.play config.window {} ss).2.1 := by
    intro ss
    obtain ⟨-, -, hentries⟩ := hin.play ss
    rw [hentries, hshown]
    rfl
  refine ⟨fun ss => ?_, fun name ss => ?_⟩
  · obtain ⟨hfaults, hend, -⟩ := hin.play ss
    refine ⟨hfaults, hend.toMatches.refines, htimeline ss, fun n s e hstep => ?_⟩
    have hanswer := hend.apply n s
    rwa [hstep] at hanswer
  · have hrun := run_refines config name ss
    cases hq : Reference.applyAll config.window {} 1 ss with
    | ok q =>
        rw [hq] at hrun
        obtain ⟨r, hr, hend, hrun⟩ := hrun
        refine ⟨r, hr, hend.toMatches.refines, ?_, hrun⟩
        rw [← htimeline, play_of_applyAll hr]
    | error e =>
        rw [hq] at hrun
        exact hrun

end DetailPanel.Replay
