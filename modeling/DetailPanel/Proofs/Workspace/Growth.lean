import DetailPanel.Proofs.Workspace.Halves

/-!
# Numbers are given out once

Whatever moves a workspace makes, the numbers of subscriptions and of results
only go up: who is listed on a channel of the selection was listed there before
or has a new number, and a result that is added is a new one.

    Moves l held w ds held' w' → Grown w w'                           (Moves.grown)
-/

namespace DetailPanel.Workspace

/-- The numbers that come next have not gone down, and only new ones have been given out. -/
structure Grown (w w' : Workspace) : Prop where
  nextResult_le : w.nextResult ≤ w'.nextResult
  registry : ∀ h : Half, (w.registry h.channel).Grows (w'.registry h.channel)

variable {l : Licence} {held held' : Holdings} {w w' : Workspace} {ds : List Delivery}

namespace Grown

theorem of_registry (hn : w'.nextResult = w.nextResult)
    (hreg : ∀ c, w'.registry c = w.registry c) : Grown w w' where
  nextResult_le := Nat.le_of_eq hn.symm
  registry h := hreg h.channel ▸ .refl _

theorem refl (w : Workspace) : Grown w w := .of_registry rfl fun _ => rfl

theorem trans {u v w : Workspace} (h : Grown u v) (h' : Grown v w) : Grown u w where
  nextResult_le := Nat.le_trans h.nextResult_le h'.nextResult_le
  registry g := (h.registry g).trans (h'.registry g)

theorem subscribe (w : Workspace) (c : Channel) (s : Subscriber) :
    Grown w (w.subscribe c s).2 := by
  by_cases hc : w.Known c
  · refine ⟨Nat.le_of_eq (PanelsOnly.subscribe w c s).nextResult.symm, fun h => ?_⟩
    rw [registry_subscribe hc]
    split
    · rename_i heq
      exact heq ▸ Registry.grows_subscribe _ s
    · exact .refl _
  · have hsame : (w.subscribe c s).2 = w := setRegistry_of_not_known hc _
    rw [hsame]
    exact .refl w

theorem cancel (w : Workspace) (c : Channel) (id : Nat) : Grown w (w.cancel c id) := by
  refine ⟨Nat.le_of_eq (PanelsOnly.cancel w c id).nextResult.symm, fun h => ?_⟩
  rw [registry_cancel]
  split
  · rename_i heq
    exact heq ▸ Registry.grows_cancel _ id
  · exact .refl _

theorem modifyTracker (w : Workspace) (p : PanelId) (f : Tracker → Tracker) :
    Grown w (w.modifyTracker p f) := .of_registry rfl (registry_modifyTracker w p f)

theorem recompute (w : Workspace) (p : PanelId) : Grown w (w.recompute p) :=
  .of_registry (PanelsOnly.recompute w p).nextResult (registry_recompute w p)

theorem release (w : Workspace) (p : PanelId) : Grown w (w.release p) := by
  unfold Workspace.release
  split
  · exact refl w
  · exact (cancel ..).trans (modifyTracker ..)

theorem bindTo (w : Workspace) (p : PanelId) (r : ResultId) (generation window : Nat) :
    Grown w (w.bindTo p r generation window) := (subscribe ..).trans (modifyTracker ..)

theorem rebind (w : Workspace) (p : PanelId) : Grown w (w.rebind p) := by
  unfold Workspace.rebind
  split
  · exact refl w
  · dsimp only
    split
    · exact (release w p).trans (modifyTracker ..)
    · exact ((release w p).trans (modifyTracker ..)).trans (bindTo ..)

theorem resync (w : Workspace) (p : PanelId) : Grown w (w.resync p) := by
  unfold Workspace.resync
  split
  · exact (recompute ..).trans (rebind ..)
  · exact refl w

theorem bind (w : Workspace) (p : PanelId) : Grown w (w.bind p) := by
  unfold Workspace.bind
  split
  · exact refl w
  · have h := subscribe w .result (.resync p)
    exact (h.trans (subscribe _ .card (.repaint p))).trans (modifyTracker _ p _)

theorem unbind (w : Workspace) (p : PanelId) : Grown w (w.unbind p) := by
  unfold Workspace.unbind
  split
  · exact refl w
  · exact (((cancel ..).trans (cancel ..)).trans (release ..)).trans (modifyTracker ..)

theorem assign (w : Workspace) (h : Half) (v : Option h.Value) : Grown w (w.assign h v) := by
  cases h <;> exact .of_registry rfl fun c => by cases c <;> rfl

theorem setHalf (w : Workspace) (h : Half) (v : Option h.Value) :
    Grown w (w.setHalf h v).2.2 := by
  rcases w.setHalf_spec h v with ⟨-, heq⟩ | ⟨-, heq⟩ <;> rw [heq]
  · exact refl w
  · exact assign w h v

end Grown

theorem ViewsOnly.grown (h : ViewsOnly w w') : Grown w w' :=
  .of_registry h.panelsOnly.nextResult h.registry

theorem Move.grown (m : Move l held w ds held' w') : Grown w w' := by
  cases m with
  | scenery h => exact h.grown
  | setClock | addTracker | forget => exact .of_registry rfl fun c => by cases c <;> rfl
  | addResult label searching =>
      exact ⟨Nat.le_succ _, fun h => by cases h <;> exact .refl _⟩
  | setSearching r on => exact .of_registry rfl (registry_setSearching w r on)
  | fetch r f => exact .of_registry rfl (registry_setSearching w r f.searching)
  | select r => exact .setHalf w .result r
  | selectCard card => exact .setHalf w .card card
  | announce => exact .refl w
  | addListener name window wall =>
      have hmade : Grown w (w.addTracker name window wall).2 :=
        .of_registry rfl fun c => by cases c <;> rfl
      exact hmade.trans (.bind _ _)
  | unbind p => exact .unbind w p
  | resync p => exact .resync w p
  | repaint p => exact .of_registry (PanelsOnly.repaint w p).nextResult (registry_repaint w p)
  | recompute p => exact .recompute w p
  | arm p generation => exact .of_registry rfl (registry_arm w p generation)
  | poll p time => exact .of_registry (PanelsOnly.poll w p time).nextResult (registry_poll w p time)
  | observe _ k => exact .subscribe w _ _
  | cancel => exact .cancel w _ _

theorem Moves.grown (ms : Moves l held w ds held' w') : Grown w w' := by
  induction ms with
  | nil => exact .refl _
  | cons m _ ih => exact m.grown.trans ih

end DetailPanel.Workspace
