import DetailPanel.Proofs.Workspace.Generations

/-!
# One panel alone

Where one panel listens and nobody else does, an announcement comes to that
panel alone, so each change of the selection makes one thing of its tracker.

    w.Solo p t → w.result ≠ r → … (w.select r).Solo p (t.resynced …)      (Solo.selectResult)
    w.Solo p t → … (w.fetch r f).Solo p (t.armed …)                       (Solo.fetch_bound)
-/

namespace DetailPanel

/-! ## What a panel shows -/

/-- A panel that keeps the time of the clock is bound to a result, if to any, with
a window for its throttle, and shows flags until a deadline. -/
structure Tracker.Shows (t : Tracker) (window : Nat) (result : Option ResultId) (flags : Flags)
    (deadline : Option Nat) : Prop where
  window_eq : t.window = window
  wall : t.wall = false
  listening : t.listening.isSome
  bound : t.binding.map (·.result) = result
  throttle : ∀ b, t.binding = some b → b.throttle.window = window
  flags_eq : t.flags = flags
  deadline_eq : t.deadline = deadline

namespace Tracker.Shows

variable {t : Tracker} {w : Workspace} {window : Nat} {result : Option ResultId} {flags : Flags}
  {deadline : Option Nat}

theorem resynced (h : t.Shows window result flags deadline) :
    (t.resynced w).Shows window w.result w.liveFlags none := by
  obtain ⟨lis, hlis⟩ := Option.isSome_iff_exists.1 h.listening
  have hres : t.resynced w = (t.paint w.liveFlags).rebound w := by
    simp [Tracker.resynced, hlis]
  have hb : ((t.paint w.liveFlags).rebound w).binding = w.freshBinding (t.paint w.liveFlags) := by
    simp [rebound, Tracker.binding, Tracker.paint, hlis]
  rw [hres]
  refine ⟨h.window_eq, h.wall, ?_, ?_, fun b hbind => ?_, rfl, ?_⟩
  · simp [rebound, Tracker.paint, hlis]
  · rw [hb, Workspace.freshBinding, Option.map_map]
    exact Option.map_id'
  · rw [hb] at hbind
    obtain ⟨r, -, rfl⟩ := Option.map_eq_some_iff.1 hbind
    exact h.window_eq
  · rw [Tracker.deadline, hb, Workspace.freshBinding]
    cases w.result <;> rfl

theorem paint (h : t.Shows window result flags deadline) (live : Flags) :
    (t.paint live).Shows window result live deadline :=
  ⟨h.window_eq, h.wall, h.listening, h.bound, h.throttle, rfl, h.deadline_eq⟩

/-- The throttle is armed unless it is armed already. -/
theorem armed (h : t.Shows window result flags deadline) {b : Binding} (hb : t.binding = some b)
    (c : Clock) :
    (t.armed c b.generation).Shows window result flags
      (some (deadline.getD (c.now + window))) := by
  have htime : t.time c = c.now := by simp [time, h.wall]
  have harm : (t.armed c b.generation).binding =
      some { b with throttle := (b.throttle.trigger c.now).2 } := by
    rw [Tracker.armed, binding_arm, hb, htime]
    simp
  have hkeep : (t.armed c b.generation).window = t.window ∧
      (t.armed c b.generation).wall = t.wall := by
    rw [Tracker.armed, arm, hb]
    simp [setBinding]
  have hwindow := h.throttle b hb
  refine ⟨hkeep.1.trans h.window_eq, hkeep.2.trans h.wall, ?_, ?_, fun b' hb' => ?_, ?_, ?_⟩
  · simpa [Tracker.armed] using h.listening
  · rw [harm, ← h.bound, hb]
    rfl
  · rw [harm] at hb'
    obtain rfl := Option.some.inj hb'
    exact (b.same_trigger c.now).window.trans hwindow
  · rw [Tracker.armed, flags_arm, h.flags_eq]
  · rw [Tracker.deadline, harm, ← h.deadline_eq, Tracker.deadline, hb]
    simp only [Option.bind_some, Throttle.deadline, Throttle.trigger]
    cases b.throttle.armedAt with
    | none => simp [hwindow]
    | some since => simp

/-- At its deadline the panel is painted anew. -/
theorem polled {d time : Nat} (h : t.Shows window result flags (some d)) (hd : d ≤ time)
    (live : Flags) : (t.polled live time).Shows window result live none := by
  obtain ⟨hdue, hnone⟩ := takeDue_of_deadline h.deadline_eq hd
  have hkeep : (t.takeDue time).2.window = t.window ∧ (t.takeDue time).2.wall = t.wall := by
    unfold takeDue
    split <;> exact ⟨rfl, rfl⟩
  rw [Tracker.polled, if_pos hdue]
  refine ⟨hkeep.1.trans h.window_eq, hkeep.2.trans h.wall, ?_, ?_, fun b' hb' => ?_, rfl, hnone⟩
  · exact (t.isSome_listening_takeDue time).trans h.listening
  · show (t.takeDue time).2.binding.map (·.result) = result
    rw [binding_takeDue, Option.map_map]
    exact h.bound
  · have hb : (t.takeDue time).2.binding = some b' := hb'
    rw [binding_takeDue] at hb
    obtain ⟨b, hbt, rfl⟩ := Option.map_eq_some_iff.1 hb
    exact (b.continues_poll time).window.trans (h.throttle b hbt)

end Tracker.Shows

namespace Workspace

/-- One panel listens, and there is no other. -/
structure Solo (w : Workspace) (p : PanelId) (t : Tracker) : Prop where
  wired : w.Wired nobody
  tracker : w.trackers.get? p = some t
  only : ∀ q, (w.trackers.get? q).isSome → q = p
  listening : t.listening.isSome

namespace Solo

variable {w w' : Workspace} {p : PanelId} {t : Tracker} {l : Licence} {ds : List Delivery}

theorem modify (h : w.Solo p t) (hw : w'.Wired nobody) {f : Tracker → Tracker}
    (htr : w'.trackers = w.trackers.modify p f) (hl : (f t).listening.isSome) :
    w'.Solo p (f t) where
  wired := hw
  tracker := by simp [htr, Table.get?_modify, h.tracker]
  only q hq := h.only q (by rwa [htr, Table.isSome_get?_modify] at hq)
  listening := hl

theorem transport (h : w.Solo p t) (hw : w'.Wired nobody) (htr : w'.trackers = w.trackers) :
    w'.Solo p t where
  wired := hw
  tracker := by rw [htr, h.tracker]
  only q hq := h.only q (by rwa [htr] at hq)
  listening := h.listening

theorem scenery (h : w.Solo p t) (hv : ViewsOnly w w') : w'.Solo p t := by
  let l : Licence := ⟨False, fun _ => False, fun _ _ => False⟩
  exact h.transport (h.wired.move (Move.scenery (l := l) hv)) hv.trackers

theorem setClock (h : w.Solo p t) (clock : Clock) : { w with clock }.Solo p t :=
  h.transport (h.wired.setClock clock) rfl

theorem addResult (h : w.Solo p t) (label : String) (searching : Bool) :
    (w.addResult label searching).2.Solo p t :=
  h.transport (h.wired.addResult label searching) rfl

theorem setSearching (h : w.Solo p t) (r : ResultId) (on : Bool) :
    (w.setSearching r on).Solo p t := h.transport (h.wired.setSearching r on) rfl

theorem resync (h : w.Solo p t) : (w.resync p).Solo p (t.resynced w) := by
  refine h.modify (f := (·.resynced w)) (h.wired.resync p) (trackers_resync w p) ?_
  simp [Tracker.resynced, h.listening, Tracker.rebound, Tracker.paint]

theorem repaint (h : w.Solo p t) : (w.repaint p).Solo p (t.paint w.liveFlags) := by
  have hrepaint := h.modify (h.wired.repaint p) (trackers_repaint w p)
  simp only [h.listening, if_true] at hrepaint
  exact hrepaint h.listening

theorem arm (h : w.Solo p t) (generation : Nat) :
    (w.arm p generation).Solo p (t.armed w.clock generation) := by
  refine h.modify (h.wired.arm p generation) (trackers_arm w p generation) ?_
  simpa [Tracker.armed] using h.listening

theorem poll (h : w.Solo p t) (time : Nat) :
    (w.poll p time).2.Solo p (t.polled w.liveFlags time) := by
  refine h.modify (h.wired.poll p time) (trackers_poll w p time) ?_
  simpa using h.listening

/-! ## Who is told -/

/-- The registries hold what the panel has in them. -/
theorem mem_entries (h : w.Solo p t) (c : Channel) (e : Nat × Subscriber) :
    e ∈ (w.registry c).entries ↔ (c, e) ∈ t.entries p := by
  constructor
  · intro he
    rcases (h.wired.mem_entries c e).1 he with ⟨q, u, hu, hmem⟩ | hheld
    · obtain rfl := h.only q (by rw [hu]; rfl)
      obtain rfl := Option.some.inj (h.tracker.symm.trans hu)
      exact hmem
    · exact hheld.elim
  · exact h.wired.mem_of_entries h.tracker

theorem announce_of_entries (h : w.Solo p t) {c : Channel} {e : Nat × Subscriber}
    (he : ∀ e', (c, e') ∈ t.entries p ↔ e' = e) (n : Notice) : w.announce c n = [⟨e.2, n⟩] := by
  have hentries : (w.registry c).entries = [e] :=
    (h.wired.ascending c).entries_eq_singleton fun e' => (h.mem_entries c e').trans (he e')
  simp [announce, Registry.subscribers, hentries]

theorem announce_result (h : w.Solo p t) (n : Notice) :
    w.announce .result n = [⟨.resync p, n⟩] := by
  obtain ⟨lis, hlis⟩ := Option.isSome_iff_exists.1 h.listening
  exact h.announce_of_entries (e := (lis.onResult, .resync p))
    (fun e' => by simp [Tracker.entries, hlis]) n

theorem announce_card (h : w.Solo p t) (n : Notice) : w.announce .card n = [⟨.repaint p, n⟩] := by
  obtain ⟨lis, hlis⟩ := Option.isSome_iff_exists.1 h.listening
  exact h.announce_of_entries (e := (lis.onCard, .repaint p))
    (fun e' => by simp [Tracker.entries, hlis]) n

/-- A panel hears of the result that it is bound to. -/
theorem announce_bound (h : w.Solo p t) {b : Binding} (hb : t.binding = some b) (n : Notice) :
    w.announce (.lifecycle b.result) n = [⟨.arm p b.generation, n⟩] := by
  obtain ⟨lis, hlis, hlb⟩ := Option.bind_eq_some_iff.1 hb
  exact h.announce_of_entries (e := (b.subscription, .arm p b.generation))
    (fun e' => by simp [Tracker.entries, hlis, hlb]) n

/-- A panel hears of no other result. -/
theorem announce_unbound (h : w.Solo p t) {r : ResultId}
    (hr : t.binding.map (·.result) ≠ some r) (n : Notice) : w.announce (.lifecycle r) n = [] := by
  have hnone : (w.registry (.lifecycle r)).entries = [] := by
    refine List.eq_nil_iff_forall_not_mem.2 fun e he => hr ?_
    have hmem := (h.mem_entries (.lifecycle r) e).1 he
    unfold Tracker.entries at hmem
    split at hmem
    · cases hmem
    · rename_i lis hlis
      simp only [List.mem_cons, List.mem_map, Prod.mk.injEq, reduceCtorEq, false_and,
        false_or] at hmem
      obtain ⟨b, hb, hc, -⟩ := hmem
      have hlb : lis.binding = some b := by simpa using hb
      simpa [Tracker.binding, hlis, hlb] using Channel.lifecycle.inj hc
  simp [announce, Registry.subscribers, hnone]

/-! ## Changes of the selection -/

/-- Another result is selected: the panel handles the change. -/
theorem selectResult (h : w.Solo p t) {r : Option ResultId} (hr : w.result ≠ r)
    (hknown : ∀ r', r = some r' → (w.results.get? r').isSome) :
    (w.selectResult r).2.2.deliverAll (w.selectResult r).2.1 = { w with result := r }.resync p ∧
      ({ w with result := r }.resync p).Solo p (t.resynced { w with result := r }) := by
  have hselected : { w with result := r }.Solo p t := h.transport (h.wired.select hknown) rfl
  have heq := (w.selectResult_spec r).resolve_left fun hsame => hr hsame.1
  rw [heq.2, h.announce_result]
  exact ⟨rfl, hselected.resync⟩

/-- Another metacard is selected: the panel is painted anew. -/
theorem selectCard (h : w.Solo p t) {card : Option Metacard} (hc : sameCard w.card card = false) :
    (w.selectCard card).2.2.deliverAll (w.selectCard card).2.1 = { w with card }.repaint p ∧
      ({ w with card }.repaint p).Solo p (t.paint { w with card }.liveFlags) := by
  have hselected : { w with card }.Solo p t := h.transport (h.wired.selectCard card) rfl
  have heq := (w.selectCard_spec card).resolve_left fun hsame => by simp [hc] at hsame
  rw [heq.2, h.announce_card]
  exact ⟨rfl, hselected.repaint⟩

/-- A fetch of the result that the panel is bound to arms its throttle. -/
theorem fetch_bound (h : w.Solo p t) {b : Binding} (hb : t.binding = some b) (f : Fetch) :
    (w.fetch b.result f).2.deliverAll (w.fetch b.result f).1 =
        (w.setSearching b.result f.searching).arm p b.generation ∧
      ((w.setSearching b.result f.searching).arm p b.generation).Solo p
        (t.armed w.clock b.generation) := by
  have hset := h.setSearching b.result f.searching
  refine ⟨?_, hset.arm b.generation⟩
  rw [fetch, announceLifecycle, hset.announce_bound hb]
  rfl

/-- A fetch of any other result goes unheard. -/
theorem fetch_unbound (h : w.Solo p t) {r : ResultId} (hr : t.binding.map (·.result) ≠ some r)
    (f : Fetch) : (w.fetch r f).2.deliverAll (w.fetch r f).1 = w.setSearching r f.searching := by
  rw [fetch, announceLifecycle, (h.setSearching r f.searching).announce_unbound hr]
  rfl

end Solo

end Workspace

end DetailPanel
