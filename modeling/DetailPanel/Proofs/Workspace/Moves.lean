import DetailPanel.Proofs.Workspace.Wiring

/-!
# Moves

Whatever happens to a workspace is a series of moves: changes of the selection,
which announce themselves, steps of single panels, and observers that come and
go.  A licence says which of the moves that matter later may be among them.
What every move keeps is kept by every run.

    w.Wired held → Moves l held w ds held' w' → w'.Wired held'     (Wired.moves)
-/

namespace DetailPanel.Workspace

/-- The entries that are held outside the workspace. -/
abbrev Holdings := Channel → Nat × Subscriber → Prop

namespace Holdings

def add (held : Holdings) (c : Channel) (e : Nat × Subscriber) : Holdings :=
  fun c' e' => held c' e' ∨ c' = c ∧ e' = e

def remove (held : Holdings) (c : Channel) (e : Nat × Subscriber) : Holdings :=
  fun c' e' => held c' e' ∧ ¬ (c' = c ∧ e'.1 = e.1)

theorem add_remove (held : Holdings) {c c' : Channel} {e e' : Nat × Subscriber}
    (hne : ¬ (c = c' ∧ e.1 = e'.1)) :
    (held.add c e).remove c' e' = (held.remove c' e').add c e := by
  funext d x
  simp only [add, remove, or_and_right]
  refine propext (or_congr_right ⟨fun h => h.1, ?_⟩)
  rintro ⟨rfl, rfl⟩
  exact ⟨⟨rfl, rfl⟩, hne⟩

end Holdings

/-- Nobody outside holds an entry. -/
def nobody : Holdings := fun _ _ => False

theorem wired_empty : Wired nobody {} where
  result_known := by simp
  result_lt := by simp
  panel_lt := by simp
  ascending := by
    intro c
    cases c <;> exact Registry.ascending_empty
  mem_entries := by
    intro c e
    have hnone : e ∉ (({} : Workspace).registry c).entries := by
      cases c <;> exact List.not_mem_nil
    simp [hnone, nobody]
  held_outside := by simp [nobody]

/-- Nothing differs but the views and the effects noted so far. -/
def ViewsOnly (w w' : Workspace) : Prop := w' = { w with views := w'.views, effects := w'.effects }

namespace ViewsOnly

variable {w w' : Workspace}

theorem refl (w : Workspace) : ViewsOnly w w := rfl

theorem trans {u v w : Workspace} (h : ViewsOnly u v) (h' : ViewsOnly v w) : ViewsOnly u w := by
  unfold ViewsOnly at *
  rw [h', h]

theorem trackers (h : ViewsOnly w w') : w'.trackers = w.trackers := by
  rw [h]

theorem registry (h : ViewsOnly w w') (c : Channel) : w'.registry c = w.registry c := by
  rw [h]
  cases c <;> rfl

theorem panelsOnly (h : ViewsOnly w w') : PanelsOnly w w' := by
  rw [h]
  exact ⟨rfl, rfl, rfl, rfl, rfl, fun _ => rfl, fun _ => rfl⟩

theorem modifyView (w : Workspace) (p : PanelId) (f : View → View) :
    ViewsOnly w (w.modifyView p f) := rfl

theorem emit (w : Workspace) (es : List Effect) : ViewsOnly w (w.emit es) := rfl

theorem changeRegion (w : Workspace) (p : PanelId) (f : Region → List Region.Event × Region) :
    ViewsOnly w (w.changeRegion p f) := by
  unfold Workspace.changeRegion
  split <;> rfl

theorem beforeShow (w : Workspace) (p : PanelId) : ViewsOnly w (w.beforeShow p) := by
  unfold Workspace.beforeShow
  split
  · rfl
  · split
    · rfl
    · exact ((modifyView ..).trans (emit ..)).trans (changeRegion ..)

end ViewsOnly

/-- What moves may do. -/
structure Licence where
  /-- Say without an announcement that the current result is searching, or not. -/
  silence : Prop
  /-- Tell a panel that the current result has changed. -/
  resync : PanelId → Prop
  /-- Arm the throttle of a panel for the binding of a generation. -/
  arm : PanelId → Nat → Prop

/-- One change of a workspace, with what it announces. -/
inductive Move (l : Licence) :
    Holdings → Workspace → List Delivery → Holdings → Workspace → Prop
  | scenery {held : Holdings} {w w' : Workspace} (h : ViewsOnly w w') : Move l held w [] held w'
  | setClock {held : Holdings} {w : Workspace} (clock : Clock) (h : w.now ≤ clock.now) :
      Move l held w [] held { w with clock }
  | addResult {held : Holdings} {w : Workspace} (label : String) (searching : Bool) :
      Move l held w [] held (w.addResult label searching).2
  | setSearching {held : Holdings} {w : Workspace} (r : ResultId) (on : Bool)
      (h : w.result = some r → l.silence) : Move l held w [] held (w.setSearching r on)
  | select {held : Holdings} {w : Workspace} (r : Option ResultId)
      (h : ∀ r', r = some r' → (w.results.get? r').isSome) :
      Move l held w (w.selectResult r).2.1 held (w.selectResult r).2.2
  | selectCard {held : Holdings} {w : Workspace} (card : Option Metacard) :
      Move l held w (w.selectCard card).2.1 held (w.selectCard card).2.2
  | announce {held : Holdings} {w : Workspace} (r : ResultId) (e : LifecycleEvent) :
      Move l held w (w.announceLifecycle r e) held w
  | fetch {held : Holdings} {w : Workspace} (r : ResultId) (f : Fetch) :
      Move l held w (w.fetch r f).1 held (w.fetch r f).2
  | addTracker {held : Holdings} {w : Workspace} (name : String) (window : Nat) (wall : Bool) :
      Move l held w [] held (w.addTracker name window wall).2
  /-- Make a tracker that listens. -/
  | addListener {held : Holdings} {w : Workspace} (name : String) (window : Nat) (wall : Bool) :
      Move l held w [] held ((w.addTracker name window wall).2.bind w.nextPanel)
  | unbind {held : Holdings} {w : Workspace} (p : PanelId) : Move l held w [] held (w.unbind p)
  | resync {held : Holdings} {w : Workspace} (p : PanelId) (h : l.resync p) :
      Move l held w [] held (w.resync p)
  | repaint {held : Holdings} {w : Workspace} (p : PanelId) :
      Move l held w [] held (w.repaint p)
  | recompute {held : Holdings} {w : Workspace} (p : PanelId) :
      Move l held w [] held (w.recompute p)
  | arm {held : Holdings} {w : Workspace} (p : PanelId) (generation : Nat)
      (h : l.arm p generation) :
      Move l held w [] held (w.arm p generation)
  | poll {held : Holdings} {w : Workspace} (p : PanelId) (time : Nat) :
      Move l held w [] held (w.poll p time).2
  | forget {held : Holdings} {w : Workspace} (p : PanelId) (h : w.isListening p = false) :
      Move l held w [] held { w with trackers := w.trackers.erase p }
  | observe {held : Holdings} {w : Workspace} {c : Channel} (h : w.Known c) (k : Nat) :
      Move l held w [] (held.add c ((w.registry c).nextId, .observer k))
        (w.subscribe c (.observer k)).2
  | cancel {held : Holdings} {w : Workspace} {c : Channel} {e : Nat × Subscriber} (h : held c e) :
      Move l held w [] (held.remove c e) (w.cancel c e.1)

/-- Moves one after the other, with all that they announce. -/
inductive Moves (l : Licence) :
    Holdings → Workspace → List Delivery → Holdings → Workspace → Prop
  | nil {held : Holdings} {w : Workspace} : Moves l held w [] held w
  | cons {held held' held'' : Holdings} {w w' w'' : Workspace} {ds ds' : List Delivery}
      (m : Move l held w ds held' w') (ms : Moves l held' w' ds' held'' w'') :
      Moves l held w (ds ++ ds') held'' w''

variable {l : Licence} {held held' held'' : Holdings} {w w' w'' : Workspace}
  {ds ds' : List Delivery}

theorem Move.moves (m : Move l held w ds held' w') : Moves l held w ds held' w' := by
  have := Moves.cons m .nil
  rwa [List.append_nil] at this

/-- Two series of moves, the second of which announces nothing. -/
theorem Moves.trans (ms : Moves l held w ds held' w')
    (ms' : Moves l held' w' [] held'' w'') : Moves l held w ds held'' w'' := by
  induction ms with
  | nil => exact ms'
  | cons m _ ih => exact .cons m (ih ms')

theorem Moves.andThen (ms : Moves l held w ds held' w')
    (m : Move l held' w' [] held'' w'') : Moves l held w ds held'' w'' :=
  ms.trans m.moves

/-! ## What the setters of the selection do -/

theorem selectResult_spec (w : Workspace) (r : Option ResultId) :
    w.result = r ∧ w.selectResult r = (false, [], w) ∨
      w.result ≠ r ∧ w.selectResult r =
        (true, w.announce .result (.resultChanged w.result r), { w with result := r }) := by
  by_cases h : w.result = r
  · exact .inl ⟨h, by simp [selectResult, h]⟩
  · exact .inr ⟨h, by simp [selectResult, h, announce, registry]⟩

theorem selectCard_spec (w : Workspace) (card : Option Metacard) :
    sameCard w.card card ∧ w.selectCard card = (false, [], w) ∨
      sameCard w.card card = false ∧ w.selectCard card =
        (true, w.announce .card (.cardChanged (w.card.map (·.id)) (card.map (·.id))),
          { w with card }) := by
  cases h : sameCard w.card card with
  | true => exact .inl ⟨rfl, by simp [selectCard, h]⟩
  | false => exact .inr ⟨rfl, by simp [selectCard, h, announce, registry]⟩

theorem trackers_selectResult (w : Workspace) (r : Option ResultId) :
    (w.selectResult r).2.2.trackers = w.trackers := by
  rcases w.selectResult_spec r with ⟨-, heq⟩ | ⟨-, heq⟩ <;> rw [heq]

theorem trackers_selectCard (w : Workspace) (card : Option Metacard) :
    (w.selectCard card).2.2.trackers = w.trackers := by
  rcases w.selectCard_spec card with ⟨-, heq⟩ | ⟨-, heq⟩ <;> rw [heq]

/-! ## Wiring -/

theorem Wired.addListener (h : w.Wired held) (name : String) (window : Nat) (wall : Bool) :
    ((w.addTracker name window wall).2.bind w.nextPanel).Wired held := by
  have hget : (w.addTracker name window wall).2.trackers.get? w.nextPanel =
      some { name, window, wall } := (Table.get?_set ..).trans (if_pos rfl)
  exact (h.addTracker name window wall).bind hget

theorem Wired.move (h : w.Wired held) (m : Move l held w ds held' w') : w'.Wired held' := by
  cases m with
  | scenery hv =>
      refine h.transport (h.toNumbered.of_panelsOnly hv.panelsOnly fun p hp => ?_) hv.trackers
        hv.registry
      rwa [hv.trackers] at hp
  | setClock clock => exact h.setClock clock
  | addResult label searching => exact h.addResult label searching
  | setSearching r on => exact h.setSearching r on
  | select r hr =>
      rcases w.selectResult_spec r with ⟨-, heq⟩ | ⟨-, heq⟩
      · rwa [heq]
      · rw [heq]
        exact h.select hr
  | selectCard card =>
      rcases w.selectCard_spec card with ⟨-, heq⟩ | ⟨-, heq⟩
      · rwa [heq]
      · rw [heq]
        exact h.selectCard card
  | announce => exact h
  | fetch r f => exact h.setSearching r f.searching
  | addTracker name window wall => exact h.addTracker name window wall
  | addListener name window wall => exact h.addListener name window wall
  | unbind p => exact h.unbind p
  | resync p => exact h.resync p
  | repaint p => exact h.repaint p
  | recompute p => exact h.recompute p
  | arm p generation => exact h.arm p generation
  | poll p time => exact h.poll p time
  | forget p hl => exact h.forget hl
  | observe hc k => exact h.observe hc k
  | cancel he => exact h.cancel he

theorem Wired.moves (h : w.Wired held) (ms : Moves l held w ds held' w') : w'.Wired held' := by
  induction ms with
  | nil => exact h
  | cons m _ ih => exact ih (h.move m)

/-! ## What is there stays there -/

/-- No panel goes away. -/
def Retains (w w' : Workspace) : Prop :=
  ∀ q, (w.trackers.get? q).isSome → (w'.trackers.get? q).isSome

theorem Retains.of_eq {w w' : Workspace} (h : w'.trackers = w.trackers) : Retains w w' := by
  intro q hq
  rwa [h]

theorem Retains.of_modify {w w' : Workspace} {p : PanelId} {f : Tracker → Tracker}
    (h : w'.trackers = w.trackers.modify p f) : Retains w w' := by
  intro q hq
  rwa [h, Table.isSome_get?_modify]

theorem Retains.trans {u v w : Workspace} (h : Retains u v) (h' : Retains v w) : Retains u w :=
  fun q hq => h' q (h q hq)

theorem Move.known (m : Move l held w ds held' w') (r : ResultId)
    (hr : (w.results.get? r).isSome) : (w'.results.get? r).isSome := by
  cases m with
  | scenery h => rwa [h.panelsOnly.known]
  | addResult label searching =>
      have hget : (w.addResult label searching).2.results.get? r = _ := Table.get?_set ..
      rw [hget]
      split
      · rfl
      · exact hr
  | setSearching r' on =>
      have hget : ((w.setSearching r' on).results.get? r).isSome = _ :=
        Table.isSome_get?_modify ..
      rwa [hget]
  | fetch r' f =>
      have hget : ((w.setSearching r' f.searching).results.get? r).isSome = _ :=
        Table.isSome_get?_modify ..
      show ((w.setSearching r' f.searching).results.get? r).isSome
      rwa [hget]
  | select r' =>
      rcases w.selectResult_spec r' with ⟨-, heq⟩ | ⟨-, heq⟩ <;> simpa [heq] using hr
  | selectCard card =>
      rcases w.selectCard_spec card with ⟨-, heq⟩ | ⟨-, heq⟩ <;> simpa [heq] using hr
  | setClock | announce | addTracker | forget => exact hr
  | addListener name window wall =>
      rwa [(PanelsOnly.bind _ _).known]
  | unbind p => rwa [(PanelsOnly.unbind w p).known]
  | resync p => rwa [(PanelsOnly.resync w p).known]
  | repaint p => rwa [(PanelsOnly.repaint w p).known]
  | recompute p => rwa [(PanelsOnly.recompute w p).known]
  | arm p generation => rwa [(PanelsOnly.arm w p generation).known]
  | poll p time => rwa [(PanelsOnly.poll w p time).known]
  | observe _ k => rwa [(PanelsOnly.subscribe w _ _).known]
  | cancel _ => rwa [(PanelsOnly.cancel w _ _).known]

theorem Moves.known (ms : Moves l held w ds held' w') (r : ResultId)
    (hr : (w.results.get? r).isSome) : (w'.results.get? r).isSome := by
  induction ms with
  | nil => exact hr
  | cons m _ ih => exact ih (m.known r hr)

theorem Move.nextPanel_le (m : Move l held w ds held' w') : w.nextPanel ≤ w'.nextPanel := by
  cases m with
  | scenery h => exact Nat.le_of_eq h.panelsOnly.nextPanel.symm
  | setClock | addResult | setSearching | announce | fetch | forget => exact Nat.le_refl _
  | select r => rcases w.selectResult_spec r with ⟨-, heq⟩ | ⟨-, heq⟩ <;> simp [heq]
  | selectCard card => rcases w.selectCard_spec card with ⟨-, heq⟩ | ⟨-, heq⟩ <;> simp [heq]
  | addTracker => exact Nat.le_succ _
  | addListener =>
      rw [(PanelsOnly.bind _ _).nextPanel]
      exact Nat.le_succ _
  | unbind q => exact Nat.le_of_eq (PanelsOnly.unbind w q).nextPanel.symm
  | resync q => exact Nat.le_of_eq (PanelsOnly.resync w q).nextPanel.symm
  | repaint q => exact Nat.le_of_eq (PanelsOnly.repaint w q).nextPanel.symm
  | recompute q => exact Nat.le_of_eq (PanelsOnly.recompute w q).nextPanel.symm
  | arm q generation => exact Nat.le_of_eq (PanelsOnly.arm w q generation).nextPanel.symm
  | poll q time => exact Nat.le_of_eq (PanelsOnly.poll w q time).nextPanel.symm
  | observe _ k => exact Nat.le_of_eq (PanelsOnly.subscribe w _ _).nextPanel.symm
  | cancel => exact Nat.le_of_eq (PanelsOnly.cancel w _ _).nextPanel.symm

/-! ## Panels come and go -/

theorem get?_dropTracker (w : Workspace) (p q : PanelId) :
    (w.dropTracker p).trackers.get? q = if q = p then none else w.trackers.get? q := by
  have hget : (w.dropTracker p).trackers.get? q = _ := Table.get?_erase ..
  rw [hget]
  split
  · rfl
  · rename_i hne
    rw [trackers_unbind, Table.get?_modify, if_neg hne]

theorem get?_dropView (w : Workspace) (p q : PanelId) :
    (w.dropView p).trackers.get? q = if q = p then none else w.trackers.get? q := by
  have h := get?_dropTracker (w.changeRegion p Region.close) p q
  rwa [(ViewsOnly.changeRegion w p Region.close).trackers] at h

theorem moves_dropTracker (w : Workspace) (p : PanelId) :
    Moves l held w [] held (w.dropTracker p) :=
  (Move.unbind p).moves.andThen (.forget p (isListening_unbind_self w p))

theorem moves_dropView (w : Workspace) (p : PanelId) :
    Moves l held w [] held (w.dropView p) := by
  have hclose : Move l held w [] held (w.changeRegion p Region.close) :=
    .scenery (.changeRegion w p Region.close)
  exact (hclose.moves.trans (moves_dropTracker _ p)).andThen (.scenery rfl)

theorem moves_addView (w : Workspace) (name : String) (config : Config) (wall : Bool) :
    Moves l held w [] held (w.addView name config wall).2 :=
  (Move.addListener name config.window wall).moves.andThen (.scenery rfl)

theorem isSome_addTracker (w : Workspace) (name : String) (window : Nat) (wall : Bool)
    {q : PanelId} (hq : q = w.nextPanel ∨ (w.trackers.get? q).isSome) :
    ((w.addTracker name window wall).2.trackers.get? q).isSome := by
  have hget : (w.addTracker name window wall).2.trackers.get? q = _ := Table.get?_set ..
  rw [hget]
  split
  · rfl
  · rename_i hne
    exact hq.resolve_left hne

theorem isSome_addView (w : Workspace) (name : String) (config : Config) (wall : Bool)
    {q : PanelId} (hq : q = w.nextPanel ∨ (w.trackers.get? q).isSome) :
    ((w.addView name config wall).2.trackers.get? q).isSome :=
  Retains.of_modify (trackers_bind _ _) q (isSome_addTracker w name config.window wall hq)

end DetailPanel.Workspace
