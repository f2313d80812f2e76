import DetailPanel.Proofs.Replay.Faults
import DetailPanel.Proofs.Replay.Timing

/-!
# What a replay counts

The counts in a summary are counts of steps of the reference machine: a render
is a step of its own, and the flags are recomputed when the selection changes,
at a render, and in a throttled run (`Reference.paints`).  The layout is mounted
by the first display and never again.

    (r.act n s).view? = r.view?, or one more render of it                  (view?_act)
    InStep window r q → r.act n s = .ok r' → r'.recomputes = … + q.paints s   (recomputes_act)
-/

namespace DetailPanel.Replay

/-- How often the flags of the panel have been recomputed. -/
def recomputes (r : Replay) : Nat := (r.tracker?.map (·.recomputes)).getD 0

/-- How often the flags are recomputed in a step. -/
def Reference.paints (q : Reference) : Step → Nat
  | .selectResult x => if q.current = some x then 0 else 1
  | .clearResult => if q.current = none then 0 else 1
  | .selectMetacard id title => if q.card = some (id, title) then 0 else 1
  | .clearMetacard => if q.card = none then 0 else 1
  | .advance ms => (q.dueBy (q.now + ms.toNat)).length
  | .render => 1
  | .addResult _ _ | .beginFetch _ | .completeFetch _ | .failFetch _ => 0

variable {window : Nat} {r r' : Replay} {q : Reference} {n : Nat} {s : Step} {t : Tracker}

/-! ## Renders and mounts -/

theorem view?_record (r : Replay) (n : Nat) (cause : Cause) :
    (r.record n cause).view? = r.view? := by
  unfold record
  split <;> rfl

theorem view?_runUntil (r : Replay) (n target : Nat) : (r.runUntil n target).view? = r.view? := by
  fun_induction r.runUntil n target with
  | case1 r d hd hle ih =>
      rw [ih]
      have hpoll : (r.setWorkspace ((r.workspace.advanceTo d).poll r.panel d).2).view? = r.view? :=
        congrArg (Table.get? r.panel) (Workspace.views_poll ..)
      unfold runAt
      dsimp only
      split
      · exact (view?_record ..).trans hpoll
      · exact hpoll
  | case2 | case3 => rfl

theorem view?_act (hact : r.act n s = .ok r') :
    r'.view? = if s = .render then r.view?.map fun v => { v with renders := v.renders + 1 }
      else r.view? := by
  have hselect : ∀ result, (r.select result).view? = r.view? := fun result =>
    congrArg (Table.get? r.panel)
      ((Workspace.views_deliverAll ..).trans (Workspace.views_selectResult ..))
  have hselectCard : ∀ card, (r.selectCard card).view? = r.view? := fun card =>
    congrArg (Table.get? r.panel)
      ((Workspace.views_deliverAll ..).trans (Workspace.views_selectCard ..))
  have hfetch : ∀ f id, (r.fetch f id).view? = r.view? := fun f id =>
    congrArg (Table.get? r.panel) (Workspace.views_deliverAll ..)
  cases s with
  | addResult x on =>
      simp only [act] at hact
      split at hact
      · cases hact
      · obtain rfl := Except.ok.inj hact
        rfl
  | selectResult x =>
      obtain ⟨id, -, rfl⟩ := withResult_eq_ok.1 hact
      exact hselect (some id)
  | beginFetch x | completeFetch x | failFetch x =>
      obtain ⟨id, -, rfl⟩ := withResult_eq_ok.1 hact
      exact hfetch _ id
  | clearResult =>
      obtain rfl := Except.ok.inj hact
      exact hselect none
  | selectMetacard id title =>
      obtain rfl := Except.ok.inj hact
      exact hselectCard (some { id, title })
  | clearMetacard =>
      obtain rfl := Except.ok.inj hact
      exact hselectCard none
  | advance ms =>
      obtain rfl := Except.ok.inj hact
      exact view?_runUntil r n _
  | render =>
      obtain rfl := Except.ok.inj hact
      rw [if_pos rfl]
      show (r.workspace.render r.panel).views.get? r.panel = _
      rw [Workspace.render, Workspace.views_resync]
      exact (Table.get?_modify ..).trans (if_pos rfl)

/-! ## Recomputes -/

theorem recomputes_of_solo (h : r.workspace.Solo r.panel t) : r.recomputes = t.recomputes := by
  simp [recomputes, tracker?, h.tracker]

theorem recomputes_setWorkspace {w : Workspace} (h : w.Solo r.panel t) :
    (r.setWorkspace w).recomputes = t.recomputes := by
  simp [recomputes, tracker?, setWorkspace, h.tracker]

theorem recomputes_record (r : Replay) (n : Nat) (cause : Cause) :
    (r.record n cause).recomputes = r.recomputes := by
  unfold record
  split <;> rfl

theorem recomputes_resynced (h : t.listening.isSome) (w : Workspace) :
    (t.resynced w).recomputes = t.recomputes + 1 := by
  rw [Tracker.resynced, if_pos h]
  rfl

theorem recomputes_armed (t : Tracker) (c : Clock) (generation : Nat) :
    (t.armed c generation).recomputes = t.recomputes := by
  unfold Tracker.armed Tracker.arm
  split
  · split <;> rfl
  · rfl

theorem recomputes_polled {live : Flags} {time : Nat} (h : (t.takeDue time).1 = true) :
    (t.polled live time).recomputes = t.recomputes + 1 := by
  have htake : (t.takeDue time).2.recomputes = t.recomputes := by
    unfold Tracker.takeDue
    split <;> rfl
  rw [Tracker.polled, if_pos h, ← htake]
  rfl

theorem Matches.recomputes_select (h : Matches window r q) (current : Option String)
    (hk : ∀ x, current = some x → (r.results.get? x).isSome) :
    (r.select (current.bind r.results.get?)).recomputes =
      r.recomputes + if q.current = current then 0 else 1 := by
  obtain ⟨t, hsolo, -⟩ := h.solo
  have hiff := h.agrees.result_eq_iff hk
  by_cases hcur : q.current = current
  · have hsame : r.workspace.selectResult (current.bind r.results.get?) = _ :=
      ((r.workspace.selectResult_spec _).resolve_right fun hne => hne.1 (hiff.2 hcur)).2
    rw [Replay.select, hsame, if_pos hcur]
    rfl
  · have hknown : ∀ id, current.bind r.results.get? = some id →
        (r.workspace.results.get? id).isSome := by
      intro id hid
      obtain ⟨x, -, hx⟩ := Option.bind_eq_some_iff.1 hid
      exact h.agrees.known x id hx
    obtain ⟨heq, hsolo'⟩ := hsolo.selectResult (fun hr => hcur (hiff.1 hr)) hknown
    rw [Replay.select, if_neg hcur, recomputes_of_solo hsolo]
    dsimp only
    rw [heq, recomputes_setWorkspace hsolo', recomputes_resynced hsolo.listening]

theorem Matches.recomputes_selectCard (h : Matches window r q)
    (card : Option (String × Option String)) :
    (r.selectCard (card.map fun c => { id := c.1, title := c.2 })).recomputes =
      r.recomputes + if q.card = card then 0 else 1 := by
  obtain ⟨t, hsolo, -⟩ := h.solo
  have hiff := h.agrees.sameCard_iff card
  by_cases hcard : q.card = card
  · have hsame : r.workspace.selectCard (card.map fun c => { id := c.1, title := c.2 }) = _ :=
      ((r.workspace.selectCard_spec _).resolve_right fun hne => by
        simp [hiff.2 hcard] at hne).2
    rw [Replay.selectCard, hsame, if_pos hcard]
    rfl
  · have hother : Workspace.sameCard r.workspace.card
        (card.map fun c => { id := c.1, title := c.2 }) = false :=
      Bool.eq_false_iff.2 fun hs => hcard (hiff.1 hs)
    obtain ⟨heq, hsolo'⟩ := hsolo.selectCard hother
    rw [Replay.selectCard, if_neg hcard, recomputes_of_solo hsolo]
    dsimp only
    rw [heq, recomputes_setWorkspace hsolo']
    rfl

theorem Matches.recomputes_fetch (h : Matches window r q) (f : Workspace.Fetch) (id : ResultId) :
    (r.fetch f id).recomputes = r.recomputes := by
  obtain ⟨t, hsolo, -⟩ := h.solo
  rw [Replay.fetch, recomputes_of_solo hsolo]
  dsimp only
  by_cases hbound : t.binding.map (·.result) = some id
  · obtain ⟨b, hb, rfl⟩ := Option.map_eq_some_iff.1 hbound
    obtain ⟨heq, hsolo'⟩ := hsolo.fetch_bound hb f
    rw [heq, recomputes_setWorkspace hsolo', recomputes_armed]
  · rw [hsolo.fetch_unbound hbound, recomputes_setWorkspace (hsolo.setSearching id f.searching)]

theorem Matches.recomputes_render (h : Matches window r q) :
    (r.setWorkspace (r.workspace.render r.panel)).recomputes = r.recomputes + 1 := by
  obtain ⟨t, hsolo, -⟩ := h.solo
  have hviews := Workspace.ViewsOnly.modifyView r.workspace r.panel
    fun v => { v with renders := v.renders + 1 }
  rw [recomputes_of_solo hsolo, Workspace.render,
    recomputes_setWorkspace (hsolo.scenery hviews).resync, recomputes_resynced hsolo.listening]

theorem Matches.recomputes_runAt (h : Matches window r q) {d : Nat} (hd : q.deadline = some d) :
    (r.runAt n d).recomputes = r.recomputes + 1 := by
  obtain ⟨hdue, -⟩ := h.pollAt hd
  obtain ⟨t, hsolo, hshows⟩ := h.solo
  have hpolled : (r.setWorkspace ((r.workspace.advanceTo d).poll r.panel d).2).recomputes = _ :=
    recomputes_setWorkspace ((hsolo.setClock (r.workspace.clock.advanceTo d)).poll d)
  have htake := (Tracker.takeDue_of_deadline (hshows.deadline_eq.trans hd) (Nat.le_refl d)).1
  rw [recomputes_polled htake, ← recomputes_of_solo hsolo] at hpolled
  simp only [Replay.runAt, hdue, if_true, recomputes_record]
  exact hpolled

theorem InStep.recomputes_advance (h : InStep window r q) (n ms : Nat) :
    (r.advance n ms).recomputes = r.recomputes + (q.dueBy (q.now + ms)).length := by
  rw [Replay.advance, h.agrees.now]
  show (r.runUntil n (q.now + ms)).recomputes = _
  unfold Reference.dueBy
  cases hd : q.deadline with
  | none =>
      rw [runUntil_of_not_due (by simp [h.deadline, hd])]
      rfl
  | some d =>
      by_cases hle : d ≤ q.now + ms
      · rw [runUntil_of_due (h.deadline.trans hd) hle, h.recomputes_runAt hd]
        simp [hle]
      · rw [runUntil_of_not_due (by simp [h.deadline, hd, hle])]
        simp [hle]

/-- The flags are recomputed when the machine says so. -/
theorem InStep.recomputes_act (h : InStep window r q) (hact : r.act n s = .ok r') :
    r'.recomputes = r.recomputes + q.paints s := by
  cases s with
  | addResult x on =>
      simp only [act] at hact
      split at hact
      · cases hact
      · obtain rfl := Except.ok.inj hact
        rfl
  | selectResult x =>
      obtain ⟨id, hid, rfl⟩ := withResult_eq_ok.1 hact
      have hselect := h.toMatches.recomputes_select (some x) (by simp [hid])
      rwa [Option.bind_some, hid] at hselect
  | beginFetch x | completeFetch x | failFetch x =>
      obtain ⟨id, -, rfl⟩ := withResult_eq_ok.1 hact
      exact h.toMatches.recomputes_fetch _ id
  | clearResult =>
      obtain rfl := Except.ok.inj hact
      exact h.toMatches.recomputes_select none (by simp)
  | selectMetacard id title =>
      obtain rfl := Except.ok.inj hact
      exact h.toMatches.recomputes_selectCard (some (id, title))
  | clearMetacard =>
      obtain rfl := Except.ok.inj hact
      exact h.toMatches.recomputes_selectCard none
  | advance ms =>
      obtain rfl := Except.ok.inj hact
      exact h.recomputes_advance n ms.toNat
  | render =>
      obtain rfl := Except.ok.inj hact
      exact h.toMatches.recomputes_render

/-! ## Steps -/

/-- A step that is accepted is carried out, recorded and counted. -/
theorem act_of_apply (happly : r.apply n s = (none, r')) : ∃ r₁, r.act n s = .ok r₁ ∧
    r' = (r₁.record n (.step s.kind)).withCount (r.steps + 1) := by
  rw [apply_eq] at happly
  cases hact : r.act n s with
  | error e => simp [hact] at happly
  | ok r₁ =>
      rw [hact] at happly
      exact ⟨r₁, rfl, (congrArg Prod.snd happly).symm⟩

theorem view?_apply (happly : r.apply n s = (none, r')) :
    r'.view? = if s = .render then r.view?.map fun v => { v with renders := v.renders + 1 }
      else r.view? := by
  obtain ⟨r₁, hact, rfl⟩ := act_of_apply happly
  exact (view?_record ..).trans (view?_act hact)

theorem InStep.recomputes_apply (h : InStep window r q) (happly : r.apply n s = (none, r')) :
    r'.recomputes = r.recomputes + q.paints s := by
  obtain ⟨r₁, hact, rfl⟩ := act_of_apply happly
  exact (recomputes_record ..).trans (h.recomputes_act hact)

end DetailPanel.Replay
