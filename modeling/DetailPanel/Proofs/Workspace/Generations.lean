import DetailPanel.Proofs.Workspace.Moves

/-!
# Bindings and their generations

In one move a panel is left with its binding or with none, has the throttle of
its binding armed, or handles a change of result and takes the next generation
(`Turn`).  So bindings are only made by changes of result, and over any number of
moves a panel keeps its binding, or what it has is of a later generation
(`Ages`).

    Move l held w ds held' w' → w'.trackers.get? p = some t' →
      (∃ t, w.trackers.get? p = some t ∧ Turn l w p t t') ∨ …     (Move.turn)
    Moves l held w ds held' w' → w.Ages w'                        (Moves.ages)
-/

namespace DetailPanel

open Workspace

/-! ## Bindings -/

/-- A binding at two times: what it was made with is the same. -/
structure Binding.Same (b b' : Binding) : Prop where
  result : b'.result = b.result
  generation : b'.generation = b.generation
  subscription : b'.subscription = b.subscription
  window : b'.throttle.window = b.throttle.window

/-- A binding later on, when its throttle has not been armed. -/
structure Binding.Continues (b b' : Binding) : Prop extends b.Same b' where
  armed : ∀ time, b'.throttle.armedAt = some time → b.throttle.armedAt = some time

namespace Binding

variable {b b' b'' : Binding}

theorem Same.refl (b : Binding) : b.Same b := ⟨rfl, rfl, rfl, rfl⟩

theorem Same.symm (h : b.Same b') : b'.Same b :=
  ⟨h.result.symm, h.generation.symm, h.subscription.symm, h.window.symm⟩

theorem Same.trans (h : b.Same b') (h' : b'.Same b'') : b.Same b'' where
  result := h'.result.trans h.result
  generation := h'.generation.trans h.generation
  subscription := h'.subscription.trans h.subscription
  window := h'.window.trans h.window

theorem Continues.refl (b : Binding) : b.Continues b := ⟨.refl b, fun _ h => h⟩

theorem Continues.trans (h : b.Continues b') (h' : b'.Continues b'') : b.Continues b'' :=
  ⟨h.toSame.trans h'.toSame, fun time ht => h.armed time (h'.armed time ht)⟩

theorem same_trigger (b : Binding) (now : Nat) :
    b.Same { b with throttle := (b.throttle.trigger now).2 } := by
  refine ⟨rfl, rfl, rfl, ?_⟩
  unfold Throttle.trigger
  dsimp only
  split <;> rfl

theorem continues_poll (b : Binding) (time : Nat) :
    b.Continues { b with throttle := (b.throttle.poll time).2 } := by
  unfold Throttle.poll
  split
  · exact ⟨⟨rfl, rfl, rfl, rfl⟩, by simp⟩
  · exact .refl b

theorem Continues.deadline {d : Nat} (h : b.Continues b') (hd : b'.throttle.deadline = some d) :
    b.throttle.deadline = some d := by
  obtain ⟨time, htime, rfl⟩ := Option.map_eq_some_iff.1 hd
  rw [h.window]
  exact Option.map_eq_some_iff.2 ⟨time, h.armed time htime, rfl⟩

end Binding

/-! ## Trackers -/

namespace Tracker

/-- The generation is that of the binding, if there is one. -/
def Stamped (t : Tracker) : Prop := ∀ b, t.binding = some b → b.generation = t.generation

/-- What one move makes of the tracker of a panel. -/
inductive Turn (l : Licence) (w : Workspace) (p : PanelId) (t : Tracker) : Tracker → Prop
  | keep {t' : Tracker} (hg : t'.generation = t.generation)
      (hb : ∀ b', t'.binding = some b' → ∃ b, t.binding = some b ∧ b.Continues b') : Turn l w p t t'
  | armed (generation : Nat) (h : l.arm p generation) : Turn l w p t (t.armed w.clock generation)
  | resynced (h : l.resync p) : Turn l w p t (t.resynced w)

/-- What any number of moves make of the tracker of a panel. -/
structure Ages (t t' : Tracker) : Prop where
  generation : t.generation ≤ t'.generation
  binding : ∀ b', t'.binding = some b' →
    (∃ b, t.binding = some b ∧ b.Same b') ∨ t.generation < b'.generation
  stamped : t.Stamped → t'.Stamped

variable {l : Licence} {w : Workspace} {p : PanelId} {t t' t'' : Tracker}

theorem Turn.refl (t : Tracker) : Turn l w p t t := .keep rfl fun b hb => ⟨b, hb, .refl b⟩

/-- A tracker without a binding. -/
theorem Turn.of_none (hg : t'.generation = t.generation) (hb : t'.binding = none) :
    Turn l w p t t' := .keep hg fun b' hb' => by simp [hb] at hb'

theorem turn_polled (t : Tracker) (live : Flags) (time : Nat) : Turn l w p t (t.polled live time) := by
  have htake : (t.takeDue time).2.generation = t.generation := by
    unfold takeDue
    split <;> rfl
  refine .keep ?_ fun b' hb' => ?_
  · unfold polled
    split <;> exact htake
  · rw [binding_polled] at hb'
    obtain ⟨b, hb, rfl⟩ := Option.map_eq_some_iff.1 hb'
    exact ⟨b, hb, b.continues_poll time⟩

theorem generation_arm (t : Tracker) (generation now : Nat) :
    (t.arm generation now).generation = t.generation := by
  unfold arm
  split
  · split <;> rfl
  · rfl

theorem same_of_binding_armed {c : Clock} {generation : Nat} {b' : Binding}
    (h : (t.armed c generation).binding = some b') : ∃ b, t.binding = some b ∧ b.Same b' := by
  rw [armed, binding_arm] at h
  obtain ⟨b, hb, rfl⟩ := Option.map_eq_some_iff.1 h
  refine ⟨b, hb, ?_⟩
  split
  · exact b.same_trigger _
  · exact .refl b

theorem binding_of_resynced {b' : Binding} (h : (t.resynced w).binding = some b') :
    b'.generation = t.generation + 1 ∧ (t.resynced w).generation = t.generation + 1 ∧
      b'.throttle.armedAt = none := by
  cases hl : t.listening with
  | none => simp [resynced, binding, hl] at h
  | some lis =>
      simp only [resynced, hl, rebound, binding, paint, freshBinding, Option.isSome_some, if_true,
        Option.map_some, Option.bind_some] at h ⊢
      obtain ⟨r, -, rfl⟩ := Option.map_eq_some_iff.1 h
      exact ⟨rfl, trivial, rfl⟩

theorem Ages.refl (t : Tracker) : t.Ages t := ⟨Nat.le_refl _, fun b hb => .inl ⟨b, hb, .refl b⟩, id⟩

theorem Ages.trans (h : t.Ages t') (h' : t'.Ages t'') : t.Ages t'' where
  generation := Nat.le_trans h.generation h'.generation
  binding b'' hb'' := by
    rcases h'.binding b'' hb'' with ⟨b', hb', hsame'⟩ | hlt
    · rcases h.binding b' hb' with ⟨b, hb, hsame⟩ | hlt
      · exact .inl ⟨b, hb, hsame.trans hsame'⟩
      · exact .inr (hsame'.generation ▸ hlt)
    · exact .inr (Nat.lt_of_le_of_lt h.generation hlt)
  stamped hs := h'.stamped (h.stamped hs)

theorem Turn.ages (h : Turn l w p t t') : t.Ages t' := by
  cases h with
  | keep hg hb =>
      refine ⟨Nat.le_of_eq hg.symm, fun b' hb' => ?_, fun hs b' hb' => ?_⟩
      · obtain ⟨b, hb, hc⟩ := hb b' hb'
        exact .inl ⟨b, hb, hc.toSame⟩
      · obtain ⟨b, hb, hc⟩ := hb b' hb'
        rw [hc.generation, hs b hb, hg]
  | armed generation _ =>
      have hg : (t.armed w.clock generation).generation = t.generation := generation_arm ..
      refine ⟨Nat.le_of_eq hg.symm, fun b' hb' => .inl (same_of_binding_armed hb'), fun hs b' hb' => ?_⟩
      obtain ⟨b, hb, hsame⟩ := same_of_binding_armed hb'
      rw [hsame.generation, hs b hb, hg]
  | resynced _ =>
      refine ⟨?_, fun b' hb' => ?_, fun hs b' hb' => ?_⟩
      · unfold Tracker.resynced
        split
        · exact Nat.le_succ _
        · exact Nat.le_refl _
      · rw [(binding_of_resynced hb').1]
        exact .inr (Nat.lt_succ_self _)
      · rw [(binding_of_resynced hb').1, (binding_of_resynced hb').2.1]

/-- A move that neither arms a panel nor makes it bind leaves it with what it had. -/
theorem Turn.continues (h : Turn l w p t t') (hr : ¬ l.resync p) (ha : ∀ g, ¬ l.arm p g)
    {b' : Binding} (hb' : t'.binding = some b') : ∃ b, t.binding = some b ∧ b.Continues b' := by
  cases h with
  | keep _ hb => exact hb b' hb'
  | armed generation h => exact absurd h (ha generation)
  | resynced h => exact absurd h hr

end Tracker

namespace Workspace

variable {l : Licence} {held held' : Holdings} {w w' w'' : Workspace} {ds : List Delivery}
  {p : PanelId} {t' : Tracker}

/-! ## Moves -/

/-- The panel was there and has taken its turn, or it is new and has no binding. -/
def Turned (l : Licence) (w : Workspace) (p : PanelId) (t' : Tracker) : Prop :=
  (∃ t, w.trackers.get? p = some t ∧ t.Turn l w p t') ∨ w.nextPanel ≤ p ∧ t'.binding = none

theorem turned_of_get? (h : w.trackers.get? p = some t') : Turned l w p t' := .inl ⟨t', h, .refl t'⟩

theorem turned_of_eq (htr : w'.trackers = w.trackers) (h : w'.trackers.get? p = some t') :
    Turned l w p t' := turned_of_get? (htr ▸ h)

theorem turned_of_modify {q : PanelId} {f : Tracker → Tracker}
    (htr : w'.trackers = w.trackers.modify q f) (h : w'.trackers.get? p = some t')
    (hf : ∀ t : Tracker, q = p → t.Turn l w p (f t)) : Turned l w p t' := by
  rw [htr, Table.get?_modify] at h
  split at h
  · rename_i hq
    obtain ⟨t, ht, rfl⟩ := Option.map_eq_some_iff.1 h
    exact .inl ⟨t, ht, hf t hq.symm⟩
  · exact turned_of_get? h

/-- A new panel has no binding, whether it listens or not. -/
theorem turned_of_new {t₀ : Tracker} (hget : ∀ q, w'.trackers.get? q =
      if q = w.nextPanel then some t₀ else w.trackers.get? q) (ht₀ : t₀.binding = none)
    (h : w'.trackers.get? p = some t') : Turned l w p t' := by
  rw [hget] at h
  split at h
  · rename_i hp
    obtain rfl := Option.some.inj h
    exact .inr ⟨Nat.le_of_eq hp.symm, ht₀⟩
  · exact turned_of_get? h

theorem Move.turn (m : Move l held w ds held' w') (h : w'.trackers.get? p = some t') :
    Turned l w p t' := by
  cases m with
  | scenery hv => exact turned_of_eq hv.trackers h
  | setClock | addResult | setSearching | announce | fetch => exact turned_of_get? h
  | select r => exact turned_of_eq (trackers_selectResult w r) h
  | selectCard card => exact turned_of_eq (trackers_selectCard w card) h
  | addTracker name window wall => exact turned_of_new (fun q => Table.get?_set ..) rfl h
  | addListener name window wall =>
      have hadd : ∀ q, (w.addTracker name window wall).2.trackers.get? q = _ :=
        fun q => Table.get?_set ..
      rw [trackers_bind, Table.get?_modify] at h
      split at h
      · rename_i hp
        rw [hadd, if_pos hp] at h
        obtain rfl := Option.some.inj h
        exact .inr ⟨Nat.le_of_eq hp.symm, rfl⟩
      · exact turned_of_new hadd rfl h
  | unbind q =>
      exact turned_of_modify (trackers_unbind w q) h fun t _ => .of_none rfl rfl
  | resync q hq =>
      refine turned_of_modify (trackers_resync w q) h fun t hp => .resynced (hp ▸ hq)
  | repaint q =>
      refine turned_of_modify (trackers_repaint w q) h fun t _ => ?_
      split
      · exact .keep rfl fun b hb => ⟨b, hb, .refl b⟩
      · exact .refl t
  | recompute q =>
      exact turned_of_modify (trackers_recompute w q) h fun t _ =>
        .keep rfl fun b hb => ⟨b, hb, .refl b⟩
  | arm q generation hq =>
      exact turned_of_modify (trackers_arm w q generation) h fun t hp => .armed generation (hp ▸ hq)
  | poll q time =>
      exact turned_of_modify (trackers_poll w q time) h fun t _ => t.turn_polled w.liveFlags time
  | forget q _ =>
      have hget : (w.trackers.erase q).get? p = some t' := h
      rw [Table.get?_erase] at hget
      split at hget
      · cases hget
      · exact turned_of_get? hget
  | observe => exact turned_of_eq (trackers_subscribe ..) h
  | cancel => exact turned_of_eq (trackers_cancel ..) h

/-- A tracker that starts to listen is bound to nothing yet. -/
theorem turned_bind {q : PanelId} (h : (w.bind q).trackers.get? p = some t') : Turned l w p t' := by
  refine turned_of_modify (trackers_bind w q) h fun t _ => ?_
  split
  · exact .refl t
  · exact .of_none rfl rfl

/-! ## Progress -/

def binding (w : Workspace) (p : PanelId) : Option Binding := (w.trackers.get? p).bind (·.binding)

def Stamped (w : Workspace) : Prop := ∀ p t, w.trackers.get? p = some t → t.Stamped

/-- What any number of moves make of all panels. -/
structure Ages (w w' : Workspace) : Prop where
  nextPanel : w.nextPanel ≤ w'.nextPanel
  trackers : ∀ p t', p < w.nextPanel → w'.trackers.get? p = some t' →
    ∃ t, w.trackers.get? p = some t ∧ t.Ages t'
  stamped : w.Stamped → w'.Stamped

/-- What any number of moves under one licence make of all panels. -/
structure Progress (l : Licence) (w w' : Workspace) : Prop extends w.Ages w' where
  continues : ∀ p b', ¬ l.resync p → (∀ g, ¬ l.arm p g) → w'.binding p = some b' →
    ∃ b, w.binding p = some b ∧ b.Continues b'

theorem Ages.refl (w : Workspace) : w.Ages w :=
  ⟨Nat.le_refl _, fun _ t' _ h => ⟨t', h, .refl t'⟩, id⟩

theorem Ages.trans (h : w.Ages w') (h' : w'.Ages w'') : w.Ages w'' where
  nextPanel := Nat.le_trans h.nextPanel h'.nextPanel
  trackers p t'' hp ht'' := by
    obtain ⟨t', ht', ha'⟩ := h'.trackers p t'' (Nat.lt_of_lt_of_le hp h.nextPanel) ht''
    obtain ⟨t, ht, ha⟩ := h.trackers p t' hp ht'
    exact ⟨t, ht, ha.trans ha'⟩
  stamped hs := h'.stamped (h.stamped hs)

theorem Progress.refl (w : Workspace) : Progress l w w :=
  ⟨.refl w, fun _ b' _ _ hb' => ⟨b', hb', .refl b'⟩⟩

theorem Progress.trans (h : Progress l w w') (h' : Progress l w' w'') : Progress l w w'' := by
  refine ⟨h.toAges.trans h'.toAges, fun p b'' hr ha hb'' => ?_⟩
  obtain ⟨b', hb', hc'⟩ := h'.continues p b'' hr ha hb''
  obtain ⟨b, hb, hc⟩ := h.continues p b' hr ha hb'
  exact ⟨b, hb, hc.trans hc'⟩

theorem Progress.of_turned (hn : w.nextPanel ≤ w'.nextPanel)
    (h : ∀ p t', w'.trackers.get? p = some t' → Turned l w p t') : Progress l w w' where
  nextPanel := hn
  trackers p t' hp ht' := by
    rcases h p t' ht' with ⟨t, ht, hturn⟩ | ⟨hnew, -⟩
    · exact ⟨t, ht, hturn.ages⟩
    · exact absurd hp (Nat.not_lt_of_le hnew)
  stamped hs p t' ht' := by
    rcases h p t' ht' with ⟨t, ht, hturn⟩ | ⟨-, hnone⟩
    · exact hturn.ages.stamped (hs p t ht)
    · intro b hb
      simp [hnone] at hb
  continues p b' hr ha hb' := by
    obtain ⟨t', ht', htb⟩ := Option.bind_eq_some_iff.1 hb'
    rcases h p t' ht' with ⟨t, ht, hturn⟩ | ⟨-, hnone⟩
    · obtain ⟨b, hb, hc⟩ := hturn.continues hr ha htb
      exact ⟨b, by rw [binding, ht]; exact hb, hc⟩
    · simp [hnone] at htb

theorem Move.progress (m : Move l held w ds held' w') : Progress l w w' :=
  .of_turned m.nextPanel_le fun _ _ h => m.turn h

theorem Moves.progress (ms : Moves l held w ds held' w') : Progress l w w' := by
  induction ms with
  | nil => exact .refl _
  | cons m _ ih => exact m.progress.trans ih

theorem progress_bind (w : Workspace) (p : PanelId) : Progress l w (w.bind p) :=
  .of_turned (Nat.le_of_eq (PanelsOnly.bind w p).nextPanel.symm) fun _ _ h => turned_bind h

theorem ViewsOnly.binding (h : ViewsOnly w w') (p : PanelId) : w'.binding p = w.binding p := by
  rw [Workspace.binding, h.trackers]
  rfl

theorem ViewsOnly.progress (h : ViewsOnly w w') : Progress l w w' :=
  .of_turned (Nat.le_of_eq h.panelsOnly.nextPanel.symm) fun _ _ ht => turned_of_eq h.trackers ht

/-! ## Notices for a generation -/

/-- A notice for a generation that a panel is not bound in does nothing. -/
theorem arm_of_other_generation {g : Nat} (h : ∀ b, w.binding p = some b → b.generation ≠ g) :
    w.arm p g = w := by
  have hself : w.trackers.modify p (fun t => t.arm g (t.time w.clock)) = w.trackers := by
    refine Table.modify_eq_self fun t ht => ?_
    have hb : ∀ b, t.binding = some b → b.generation ≠ g := by
      intro b hb
      exact h b (by rw [binding, ht]; exact hb)
    unfold Tracker.arm
    split
    · rename_i b hb'
      rw [if_neg (hb b hb')]
    · rfl
  rw [arm, modifyTracker, hself]

/-- A panel that handles a change of result is bound in the next generation, with
a throttle that has not been armed. -/
theorem binding_resync {b' : Binding} (h : (w.resync p).binding p = some b') :
    ∃ t, w.trackers.get? p = some t ∧ b'.generation = t.generation + 1 ∧
      b'.throttle.deadline = none := by
  rw [binding, trackers_resync, Table.get?_modify, if_pos rfl, Option.bind_map] at h
  obtain ⟨t, ht, hb'⟩ := Option.bind_eq_some_iff.1 h
  obtain ⟨hg, -, hnone⟩ := Tracker.binding_of_resynced hb'
  exact ⟨t, ht, hg, by rw [Throttle.deadline, hnone]; rfl⟩

theorem same_of_binding_arm {b' : Binding} {g : Nat} (h : (w.arm p g).binding p = some b') :
    ∃ b, w.binding p = some b ∧ b.Same b' := by
  rw [binding, trackers_arm, Table.get?_modify, if_pos rfl, Option.bind_map] at h
  obtain ⟨t, ht, hb'⟩ := Option.bind_eq_some_iff.1 h
  obtain ⟨b, hb, hsame⟩ := Tracker.same_of_binding_armed hb'
  exact ⟨b, by rw [binding, ht]; exact hb, hsame⟩

/-- A notice arms the throttle of the binding of its generation, if it is not
armed yet, at the time that the panel reads. -/
theorem deadline_arm {b' : Binding} {g d : Nat} (h : (w.arm p g).binding p = some b')
    (hd : b'.throttle.deadline = some d) : ∃ b, w.binding p = some b ∧ b.Same b' ∧
      (b.throttle.deadline = some d ∨ b.generation = g ∧ w.timeOf p + b.throttle.window = d) := by
  obtain ⟨b₀, hb₀, hsame⟩ := same_of_binding_arm h
  refine ⟨b₀, hb₀, hsame, ?_⟩
  rw [binding, trackers_arm, Table.get?_modify, if_pos rfl, Option.bind_map] at h
  obtain ⟨t, ht, hb'⟩ := Option.bind_eq_some_iff.1 h
  rw [Function.comp_apply, Tracker.armed, Tracker.binding_arm] at hb'
  obtain ⟨b, hb, rfl⟩ := Option.map_eq_some_iff.1 hb'
  obtain rfl : b = b₀ := by
    rw [binding, ht] at hb₀
    exact Option.some.inj (hb.symm.trans hb₀)
  by_cases hg : b.generation = g
  · rw [if_pos hg] at hd
    cases harmed : b.throttle.armedAt with
    | some since =>
        left
        simpa [Throttle.trigger, Throttle.deadline, harmed] using hd
    | none =>
        right
        refine ⟨hg, ?_⟩
        simpa [Throttle.trigger, Throttle.deadline, harmed, timeOf, ht] using hd
  · rw [if_neg hg] at hd
    exact .inl hd

end Workspace

end DetailPanel
