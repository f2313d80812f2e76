import DetailPanel.Proofs.Session.Soundness
import DetailPanel.Proofs.Workspace.Portrait

/-!
# The faces of panels

The face of a panel is its name and what it shows.  A job leaves the face of every
panel as it is or paints the flags that are live then; no job paints other flags, or
paints them without counting the recompute.  A new panel has a bare face.

    (perform j s) has t' at p → s has t at p, and t'.face = t.face
      or t'.face = t.face.paint live, or the job made p       (repaints_perform, face_made)
-/

namespace DetailPanel

open Workspace

/-- What a panel is called and what it shows. -/
structure Face where
  name : String
  root : ClassList := {}
  flags : Flags := {}
  recomputes : Nat := 0
  deriving DecidableEq, Repr

def Face.paint (x : Face) (live : Flags) : Face :=
  { x with root := live.applyTo x.root, flags := live, recomputes := x.recomputes + 1 }

namespace Tracker

def face (t : Tracker) : Face := ⟨t.name, t.root, t.flags, t.recomputes⟩

theorem face_paint (t : Tracker) (live : Flags) : (t.paint live).face = t.face.paint live := rfl

@[simp] theorem face_setBinding (t : Tracker) (b : Option Binding) :
    (t.setBinding b).face = t.face := rfl

theorem face_armed (t : Tracker) (c : Clock) (generation : Nat) :
    (t.armed c generation).face = t.face := by
  unfold armed arm
  split
  · split
    · exact t.face_setBinding _
    · rfl
  · rfl

theorem face_takeDue (t : Tracker) (time : Nat) : (t.takeDue time).2.face = t.face := by
  unfold takeDue
  split
  · exact t.face_setBinding _
  · rfl

/-- The face stays, or the flags are painted on it. -/
def Paints (live : Flags) (t t' : Tracker) : Prop :=
  t'.face = t.face ∨ t'.face = t.face.paint live

variable {live : Flags} {t : Tracker}

theorem Paints.of_eq {t' : Tracker} (h : t'.face = t.face) : t.Paints live t' := .inl h

theorem paints_resynced (t : Tracker) (w : Workspace) : t.Paints w.liveFlags (t.resynced w) := by
  unfold resynced
  split
  · exact .inr rfl
  · exact .inl rfl

theorem paints_polled (t : Tracker) (live : Flags) (time : Nat) :
    t.Paints live (t.polled live time) := by
  unfold polled
  split
  · refine .inr ?_
    rw [face_paint, face_takeDue]
  · exact .inl (t.face_takeDue time)

theorem paints_repainted (t : Tracker) (live : Flags) :
    t.Paints live (if t.listening.isSome then t.paint live else t) := by
  split
  · exact .inr rfl
  · exact .inl rfl

end Tracker

/-! ## Workspaces -/

namespace Workspace

variable {w w' w'' : Workspace} {p q : PanelId}

/-- The panel is there only if it was before, and its face stays or is painted with the
flags that are live before and after. -/
def Repaints (p : PanelId) (w w' : Workspace) : Prop :=
  ∀ t', w'.trackers.get? p = some t' → ∃ t, w.trackers.get? p = some t ∧
    (t'.face = t.face ∨ t'.face = t.face.paint w.liveFlags ∧ w'.liveFlags = w.liveFlags)

theorem Repaints.of_get? (h : w'.trackers.get? p = w.trackers.get? p) : Repaints p w w' :=
  fun t' ht' => ⟨t', h ▸ ht', .inl rfl⟩

theorem Repaints.of_eq (h : w'.trackers = w.trackers) : Repaints p w w' := .of_get? (by rw [h])

theorem Repaints.of_modify (hw : PanelsOnly w w') {f : Tracker → Tracker}
    (htr : w'.trackers = w.trackers.modify q f) (hf : ∀ t : Tracker, t.Paints w.liveFlags (f t)) :
    Repaints p w w' := by
  intro t' ht'
  rw [htr, Table.get?_modify] at ht'
  split at ht'
  · obtain ⟨t, ht, rfl⟩ := Option.map_eq_some_iff.1 ht'
    exact ⟨t, ht, (hf t).imp_right fun h => ⟨h, hw.liveFlags⟩⟩
  · exact ⟨t', ht', .inl rfl⟩

theorem Repaints.viewsOnly (h : Repaints p w w') (hv : ViewsOnly w' w'') : Repaints p w w'' := by
  intro t' ht'
  rw [hv.trackers] at ht'
  obtain ⟨t, ht, hface⟩ := h t' ht'
  exact ⟨t, ht, hface.imp_right fun hpainted => ⟨hpainted.1, hv.panelsOnly.liveFlags.trans hpainted.2⟩⟩

/-- At most, the panel goes away. -/
theorem Repaints.of_erased (h : ∀ t', w'.trackers.get? p = some t' → w.trackers.get? p = some t') :
    Repaints p w w' := fun t' ht' => ⟨t', h t' ht', .inl rfl⟩

theorem repaints_recompute (w : Workspace) (p q : PanelId) : Repaints p w (w.recompute q) :=
  .of_modify (.recompute w q) (trackers_recompute w q) fun _ => .inr rfl

theorem repaints_resync (w : Workspace) (p q : PanelId) : Repaints p w (w.resync q) :=
  .of_modify (.resync w q) (trackers_resync w q) fun t => t.paints_resynced w

theorem repaints_repaint (w : Workspace) (p q : PanelId) : Repaints p w (w.repaint q) :=
  .of_modify (.repaint w q) (trackers_repaint w q) fun t => t.paints_repainted w.liveFlags

theorem repaints_arm (w : Workspace) (p q : PanelId) (generation : Nat) :
    Repaints p w (w.arm q generation) :=
  .of_modify (.arm w q generation) (trackers_arm w q generation) fun t =>
    .of_eq (t.face_armed w.clock generation)

theorem repaints_poll (w : Workspace) (p q : PanelId) (time : Nat) : Repaints p w (w.poll q time).2 :=
  .of_modify (.poll w q time) (trackers_poll w q time) fun t => t.paints_polled w.liveFlags time

theorem repaints_bind (w : Workspace) (p q : PanelId) : Repaints p w (w.bind q) := by
  refine .of_modify (.bind w q) (trackers_bind w q) fun t => .of_eq ?_
  split <;> rfl

theorem repaints_unbind (w : Workspace) (p q : PanelId) : Repaints p w (w.unbind q) :=
  .of_modify (.unbind w q) (trackers_unbind w q) fun _ => .of_eq rfl

theorem repaints_render (w : Workspace) (p q : PanelId) : Repaints p w (w.render q) :=
  repaints_resync (w.modifyView q fun v => { v with renders := v.renders + 1 }) p q

theorem repaints_showView (w : Workspace) (p q : PanelId) : Repaints p w (w.showView q) :=
  (repaints_render w p q).viewsOnly (.beforeShow _ q)

theorem repaints_teardown (w : Workspace) (p q : PanelId) : Repaints p w (w.teardown q) :=
  (repaints_unbind w p q).viewsOnly (.changeRegion _ q Region.close)

theorem repaints_update (w : Workspace) (p q : PanelId) (message : Message) :
    Repaints p w (w.update q message).2 := by
  cases message with
  | showView => exact repaints_showView w p q
  | render => exact repaints_render w p q
  | tick => exact repaints_poll w p q _
  | teardown => exact repaints_teardown w p q

theorem repaints_deliver (w : Workspace) (p : PanelId) (d : Delivery) :
    Repaints p w (w.deliver d) := by
  obtain ⟨subscriber, n⟩ := d
  cases subscriber with
  | resync q => exact repaints_resync w p q
  | repaint q => exact repaints_repaint w p q
  | arm q generation => exact repaints_arm w p q generation
  | observer k => exact .of_eq rfl

theorem get?_of_dropTracker {t : Tracker} (h : (w.dropTracker q).trackers.get? p = some t) :
    w.trackers.get? p = some t := by
  rw [get?_dropTracker] at h
  split at h
  · cases h
  · exact h

theorem get?_of_dropView {t : Tracker} (h : (w.dropView q).trackers.get? p = some t) :
    w.trackers.get? p = some t := by
  rw [get?_dropView] at h
  split at h
  · cases h
  · exact h

/-- What a name stood for before is dropped. -/
theorem get?_of_getD {o : Option PanelId} {drop : PanelId → Workspace} {t : Tracker}
    (hdrop : ∀ q, (drop q).trackers.get? p = some t → w.trackers.get? p = some t)
    (h : ((o.map drop).getD w).trackers.get? p = some t) : w.trackers.get? p = some t := by
  cases o with
  | none => exact h
  | some q => exact hdrop q h

theorem face_addTracker (w : Workspace) (name : String) (window : Nat) (wall : Bool) :
    ((w.addTracker name window wall).2.trackers.get? w.nextPanel).map Tracker.face =
      some { name } := by
  have hget : (w.addTracker name window wall).2.trackers.get? w.nextPanel = _ := Table.get?_set ..
  rw [hget, if_pos rfl]
  rfl

theorem face_bind (w : Workspace) (p q : PanelId) :
    ((w.bind q).trackers.get? p).map Tracker.face = (w.trackers.get? p).map Tracker.face := by
  rw [trackers_bind, Table.get?_modify]
  split
  · cases w.trackers.get? p with
    | none => rfl
    | some t =>
        simp only [Option.map_some]
        split <;> rfl
  · rfl

end Workspace

/-! ## Jobs -/

namespace Session

variable {s : Session} {held : Holdings} {p : PanelId} {name : String}

/-- The panel that a job makes, and its name. -/
def made? (s : Session) : Job → Option (PanelId × String)
  | .step (.view name ..) | .step (.tracker name _) => some (s.workspace.nextPanel, name)
  | _ => none

theorem repaints_withResult {key : String} {f : ResultId → Result}
    (hf : ∀ r, (f r).2.2.workspace.trackers = s.workspace.trackers) :
    Repaints p s.workspace (s.withResult key f).2.2.workspace :=
  .of_eq (kept_withResult (fun s => s.workspace.trackers) hf)

theorem repaints_withView {f : PanelId → Answer × Workspace}
    (hf : ∀ q, Repaints p s.workspace (f q).2) :
    Repaints p s.workspace (s.withView name f).2.2.workspace := by
  unfold withView
  split
  · exact hf _
  · exact .of_eq rfl

theorem repaints_withTracker {f : PanelId → Answer × Workspace}
    (hf : ∀ q, Repaints p s.workspace (f q).2) :
    Repaints p s.workspace (s.withTracker name f).2.2.workspace := by
  unfold withTracker
  split
  · exact hf _
  · exact .of_eq rfl

theorem repaints_addView (hp : p ≠ s.workspace.nextPanel) (config : Config) (wall : Bool) :
    Repaints p s.workspace (s.addView name config wall).workspace := by
  refine .of_erased fun t' ht' => ?_
  have hmade : (s.workspace.addView name config wall).2.trackers.get? p = some t' :=
    get?_of_getD (fun q => get?_of_dropView) ht'
  have hbind : (s.workspace.addView name config wall).2.trackers = _ :=
    trackers_bind (s.workspace.addTracker name config.window wall).2 s.workspace.nextPanel
  have hadded : (s.workspace.addTracker name config.window wall).2.trackers.get? p = _ :=
    Table.get?_set ..
  rwa [hbind, Table.get?_modify, if_neg hp, hadded, if_neg hp] at hmade

theorem repaints_addTracker (hp : p ≠ s.workspace.nextPanel) (window : Nat) :
    Repaints p s.workspace (s.addTracker name window).workspace := by
  refine .of_erased fun t' ht' => ?_
  have hadded : (s.workspace.addTracker name window false).2.trackers.get? p = some t' :=
    get?_of_getD (fun q => get?_of_dropTracker) ht'
  have hget : (s.workspace.addTracker name window false).2.trackers.get? p = _ := Table.get?_set ..
  rwa [hget, if_neg hp] at hadded

/-- What a step makes of a panel that it does not make. -/
theorem repaints_begin {t : Step} (hp : ∀ name, s.made? (.step t) ≠ some (p, name)) :
    Repaints p s.workspace (s.begin t).2.2.workspace := by
  cases t with
  | setSearching | fetch | announce => exact repaints_withResult fun _ => rfl
  | select key =>
      cases key with
      | none => exact .of_eq (trackers_selectResult ..)
      | some key => exact repaints_withResult fun r => trackers_selectResult ..
  | selectCard card => exact .of_eq (trackers_selectCard ..)
  | view name config wall => exact repaints_addView (fun heq => hp name (by rw [heq]; rfl)) config wall
  | tracker name window => exact repaints_addTracker (fun heq => hp name (by rw [heq]; rfl)) window
  | dropView name =>
      simp only [begin, dropView]
      split
      · exact .of_erased fun _ => get?_of_dropView
      · exact .of_eq rfl
  | dropTracker name =>
      simp only [begin, dropTracker]
      split
      · exact .of_erased fun _ => get?_of_dropTracker
      · exact .of_eq rfl
  | showView name => exact repaints_withView fun q => repaints_showView _ p q
  | render name => exact repaints_withView fun q => repaints_render _ p q
  | beforeShow name => exact repaints_withView fun q => .of_eq (ViewsOnly.beforeShow _ q).trackers
  | teardown name => exact repaints_withView fun q => repaints_teardown _ p q
  | tick name time => exact repaints_withView fun q => repaints_poll _ p q _
  | update name message => exact repaints_withView fun q => repaints_update _ p q message
  | bind name => exact repaints_withTracker fun q => repaints_bind _ p q
  | unbind name => exact repaints_withTracker fun q => repaints_unbind _ p q
  | resync name => exact repaints_withTracker fun q => repaints_resync _ p q
  | recompute name => exact repaints_withTracker fun q => repaints_recompute _ p q
  | poll name time => exact repaints_withTracker fun q => repaints_poll _ p q _
  | observe name topic script =>
      simp only [begin]
      split
      · exact .of_eq ((kept_getD (fun w => w.trackers) fun _ _ => trackers_cancel ..).trans
          (trackers_subscribe ..))
      · exact .of_eq rfl
  | unobserve name =>
      simp only [begin, unobserve]
      split
      · exact .of_eq (trackers_cancel ..)
      · exact .of_eq rfl
  | addResult | advance | advanceTo | passWall | snapshot | reflect => exact .of_eq rfl

/-- What a job makes of a panel that it does not make. -/
theorem repaints_perform {j : Job} (hp : ∀ name, s.made? j ≠ some (p, name)) :
    Repaints p s.workspace (perform j s).2.workspace := by
  cases j with
  | step t => exact (repaints_begin hp).viewsOnly (viewsOnly_settle _)
  | deliver d => exact (repaints_deliver s.workspace p d).viewsOnly (viewsOnly_deliver s d)

/-- A panel that is made shows nothing yet. -/
theorem face_made (hs : s.Sound held) {j : Job} (hj : s.made? j = some (p, name)) :
    p = s.workspace.nextPanel ∧
      ((perform j s).2.workspace.trackers.get? p).map Tracker.face = some { name } := by
  have hold : ∀ k n q, (s.panels k).get? n = some q → s.workspace.nextPanel ≠ q := fun k n q hq =>
    (Nat.ne_of_lt (hs.wired.panel_lt q (hs.named.live k n q hq))).symm
  unfold made? at hj
  split at hj
  · rename_i n config wall
    obtain ⟨rfl, rfl⟩ := Prod.mk.inj (Option.some.inj hj)
    refine ⟨rfl, ?_⟩
    have hkept : (s.addView n config wall).workspace.trackers.get? s.workspace.nextPanel =
        (s.workspace.addView n config wall).2.trackers.get? s.workspace.nextPanel :=
      kept_getD (fun w => w.trackers.get? s.workspace.nextPanel) fun old hq =>
        (get?_dropView ..).trans (if_neg (hold .view n old hq))
    show ((s.addView n config wall).workspace.trackers.get? _).map Tracker.face = _
    rw [hkept]
    exact (face_bind ..).trans (face_addTracker ..)
  · rename_i n window
    obtain ⟨rfl, rfl⟩ := Prod.mk.inj (Option.some.inj hj)
    refine ⟨rfl, ?_⟩
    have hkept : (s.addTracker n window).workspace.trackers.get? s.workspace.nextPanel =
        (s.workspace.addTracker n window false).2.trackers.get? s.workspace.nextPanel :=
      kept_getD (fun w => w.trackers.get? s.workspace.nextPanel) fun old hq =>
        (get?_dropTracker ..).trans (if_neg (hold .tracker n old hq))
    show ((s.addTracker n window).workspace.trackers.get? _).map Tracker.face = _
    rw [hkept]
    exact face_addTracker ..
  · cases hj

end Session

end DetailPanel
