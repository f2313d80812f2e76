import DetailPanel.Proofs.Flags
import DetailPanel.Proofs.Session.Deliveries

/-!
# The conduct of views

What a job makes of a view that keeps its name is one of few things.  A view that
does not listen stays as it is, whatever is done to it; one that listens goes on
listening unless the job tears it down (`tornDown?`).  Its window is that of its
configuration, and its root shows the flags and nothing else.

    (perform j s).2.views.get? name = some p → the view evolved or was made   (evolves_or_made)
    Reachable m → the view of a name fits its configuration and listens,
      unless it was torn down                                                  (Reachable.fitted)
-/

namespace DetailPanel

open Workspace

/-! ## Trackers -/

namespace Tracker

/-- The root shows the flags and nothing else. -/
def Painted (t : Tracker) : Prop := t.root = t.flags.applyTo {}

/-- What a job may make of the tracker of a view; `torn` says whether the job tears the
view down. -/
structure Evolves (torn : Prop) (t t' : Tracker) : Prop where
  window : t'.window = t.window
  painted : t.Painted → t'.Painted
  unbound : t.listening = none → t' = t
  listening : ¬ torn → t.listening.isSome → t'.listening.isSome

variable {torn : Prop} {t t' t'' : Tracker}

theorem Painted.paint (h : t.Painted) (f : Flags) : (t.paint f).Painted := by
  show f.applyTo t.root = f.applyTo {}
  rw [h, Flags.applyTo_shown ClassList.ascending_empty]

theorem Evolves.refl (t : Tracker) : t.Evolves torn t := ⟨rfl, id, fun _ => rfl, fun _ => id⟩

theorem Evolves.trans (h : t.Evolves torn t') (h' : t'.Evolves torn t'') : t.Evolves torn t'' where
  window := h'.window.trans h.window
  painted ht := h'.painted (h.painted ht)
  unbound ht := by
    obtain rfl := h.unbound ht
    exact h'.unbound ht
  listening hn ht := h'.listening hn (h.listening hn ht)

/-- A tracker that listens may change as long as it goes on listening. -/
theorem Evolves.of_listening (hl : t.listening.isSome) (hl' : t'.listening.isSome)
    (hwindow : t'.window = t.window) (hpainted : t.Painted → t'.Painted) : t.Evolves torn t' :=
  ⟨hwindow, hpainted, fun hnone => by simp [hnone] at hl, fun _ _ => hl'⟩

theorem evolves_followed (t : Tracker) (c : Scene) : t.Evolves torn (t.followed c) := by
  unfold followed
  split
  · rename_i hl
    exact .of_listening hl (by simpa using hl) rfl fun h => h.paint c.live
  · exact .refl t

theorem evolves_repainted (t : Tracker) (live : Flags) : t.Evolves torn (t.repainted live) := by
  unfold repainted
  split
  · rename_i hl
    exact .of_listening hl hl rfl fun h => h.paint live
  · exact .refl t

theorem evolves_setBinding (h : t.listening.isSome) (b : Option Binding) :
    t.Evolves torn (t.setBinding b) :=
  .of_listening h (by simpa [setBinding] using h) rfl id

theorem evolves_armed (t : Tracker) (c : Clock) (generation : Nat) :
    t.Evolves torn (t.armed c generation) := by
  unfold armed arm
  split
  · rename_i b hb
    split
    · exact evolves_setBinding (isSome_listening_of_binding hb) _
    · exact .refl t
  · exact .refl t

theorem evolves_polled (t : Tracker) (live : Flags) (time : Nat) :
    t.Evolves torn (t.polled live time) := by
  unfold polled takeDue
  cases hb : t.binding with
  | none => exact .refl t
  | some b =>
      have hl := isSome_listening_of_binding hb
      have hset : t.Evolves torn (t.setBinding (some { b with throttle := (b.throttle.poll time).2 })) :=
        evolves_setBinding hl _
      dsimp only
      split
      · exact .of_listening hl (by simpa [setBinding, paint] using hl) rfl
          fun h => (hset.painted h).paint live
      · exact hset

theorem evolves_silenced (htorn : torn) (t : Tracker) : t.Evolves torn t.silenced where
  window := rfl
  painted := id
  unbound h := by
    obtain ⟨name, window, wall, root, flags, recomputes, generation, listening⟩ := t
    obtain rfl : listening = none := h
    rfl
  listening hn := absurd htorn hn

theorem Evolves.bare (h : t.Evolves torn t') : t.bare.Evolves torn t'.bare where
  window := h.window
  painted := h.painted
  unbound hnone := congrArg Tracker.bare (h.unbound (Option.map_eq_none_iff.1 hnone))
  listening hn hl := by
    rw [isSome_listening_bare] at hl ⊢
    exact h.listening hn hl

end Tracker

/-! ## Portraits -/

/-- What a job may make of a view that keeps its name. -/
structure Portrait.Evolves (torn : Prop) (v v' : Portrait) : Prop where
  tracker : ∀ t, v.tracker = some t → ∃ t', v'.tracker = some t' ∧ t.Evolves torn t'
  config : v'.view.map (·.config) = v.view.map (·.config)

namespace Portrait

variable {torn : Prop} {v v' v'' : Portrait}

theorem Evolves.refl (v : Portrait) : v.Evolves torn v := ⟨fun t ht => ⟨t, ht, .refl t⟩, rfl⟩

theorem Evolves.trans (h : v.Evolves torn v') (h' : v'.Evolves torn v'') : v.Evolves torn v'' where
  tracker t ht := by
    obtain ⟨t', ht', he⟩ := h.tracker t ht
    obtain ⟨t'', ht'', he'⟩ := h'.tracker t' ht'
    exact ⟨t'', ht'', he.trans he'⟩
  config := h'.config.trans h.config

theorem evolves_mapTracker (v : Portrait) {f : Tracker → Tracker}
    (hf : ∀ t : Tracker, t.Evolves torn (f t)) : v.Evolves torn (v.mapTracker f) :=
  ⟨fun t ht => ⟨f t, congrArg (Option.map f) ht, hf t⟩, rfl⟩

theorem evolves_mapView (v : Portrait) {f : View → View} (hf : ∀ x, (f x).config = x.config) :
    v.Evolves torn (v.mapView f) where
  tracker t ht := ⟨t, ht, .refl t⟩
  config := by
    show (v.view.map f).map (·.config) = _
    rw [Option.map_map]
    exact congrArg (Option.map · v.view) (funext hf)

theorem evolves_rendered (v : Portrait) (c : Scene) : v.Evolves torn (v.rendered c) := by
  have hcounted : v.Evolves torn (v.mapView fun u => { u with renders := u.renders + 1 }) :=
    v.evolves_mapView fun _ => rfl
  exact hcounted.trans (evolves_mapTracker _ (·.evolves_followed c))

theorem evolves_mounted (v : Portrait) : v.Evolves torn (v.mapView View.mounted) := by
  refine v.evolves_mapView fun x => ?_
  unfold View.mounted
  split <;> rfl

theorem evolves_shown (v : Portrait) (c : Scene) : v.Evolves torn (v.shown c) :=
  (v.evolves_rendered c).trans (evolves_mounted _)

theorem evolves_tornDown (htorn : torn) (v : Portrait) : v.Evolves torn v.tornDown := by
  have hsilenced : v.Evolves torn (v.mapTracker Tracker.silenced) :=
    v.evolves_mapTracker (Tracker.evolves_silenced htorn)
  exact hsilenced.trans (evolves_mapView _ fun _ => rfl)

theorem evolves_polled (v : Portrait) (c : Scene) (time : Nat) : v.Evolves torn (v.polled c time) :=
  v.evolves_mapTracker (·.evolves_polled c.live time)

end Portrait

namespace Workspace

variable {w w' : Workspace} {p q : PanelId}

/-- What is done to another panel. -/
theorem portrait_of_modify_of_ne {f : Tracker → Tracker}
    (htr : w'.trackers = w.trackers.modify q f) (hv : w'.views = w.views) (hpq : p ≠ q) :
    w'.portrait p = w.portrait p := by
  rw [portrait, portrait, htr, hv, Table.get?_modify, if_neg hpq]

theorem portrait_dropTracker_of_ne (w : Workspace) (hpq : p ≠ q) :
    (w.dropTracker q).portrait p = w.portrait p := by
  have hviews : (w.dropTracker q).views = w.views := views_unbind w q
  rw [portrait, portrait, hviews, get?_dropTracker, if_neg hpq]

/-- A delivery tears no view down. -/
theorem evolves_deliver (w : Workspace) (d : Delivery) (p : PanelId) {torn : Prop} :
    (w.portrait p).Evolves torn ((w.deliver d).portrait p) := by
  have hcase : ∀ {q : PanelId} {v : Portrait}, (w.portrait p).Evolves torn v →
      (w.portrait p).Evolves torn (if p = q then v else w.portrait p) := by
    intro q v h
    split
    · exact h
    · exact .refl _
  obtain ⟨subscriber, n⟩ := d
  cases subscriber with
  | resync q =>
      show (w.portrait p).Evolves torn ((w.resync q).portrait p)
      rw [portrait_resync]
      exact hcase ((w.portrait p).evolves_mapTracker (·.evolves_followed w.scene))
  | repaint q =>
      show (w.portrait p).Evolves torn ((w.repaint q).portrait p)
      rw [portrait_repaint]
      exact hcase ((w.portrait p).evolves_mapTracker (·.evolves_repainted w.scene.live))
  | arm q generation =>
      by_cases hpq : p = q
      · subst hpq
        refine ⟨fun t ht => ?_, rfl⟩
        obtain ⟨u, hu, rfl⟩ := Option.map_eq_some_iff.1 ht
        refine ⟨(u.armed w.clock generation).bare, ?_, (u.evolves_armed w.clock generation).bare⟩
        show ((w.arm p generation).trackers.get? p).map Tracker.bare = _
        rw [trackers_arm, Table.get?_modify, if_pos rfl, hu]
        rfl
      · have hother : (w.arm q generation).portrait p = w.portrait p :=
          portrait_of_modify_of_ne (trackers_arm w q generation) rfl hpq
        show (w.portrait p).Evolves torn ((w.arm q generation).portrait p)
        rw [hother]
        exact .refl _
  | observer k => exact .refl _

end Workspace

/-! ## Steps -/

namespace Session

variable {held : Holdings} {s : Session} {name : String} {p : PanelId} {torn : Prop}

/-- The view that a job tears down. -/
def tornDown? (s : Session) : Job → Option PanelId
  | .step (.teardown name) | .step (.update name .teardown) => s.views.get? name
  | _ => none

theorem Sound.view_lt (hs : s.Sound held) (hv : s.views.get? name = some p) :
    p < s.workspace.nextPanel :=
  hs.wired.panel_lt p (hs.named.live .view name p hv)

/-- A panel has one name. -/
theorem Sound.view_ne (hs : s.Sound held) (hv : s.views.get? name = some p) {n : String}
    (hn : n ≠ name) {q : PanelId} (hq : s.views.get? n = some q) : p ≠ q := by
  rintro rfl
  exact hn (hs.named.inj .view .view _ _ _ hq hv).2

/-- A view is no tracker that goes by a name of its own. -/
theorem Sound.view_ne_tracker (hs : s.Sound held) (hv : s.views.get? name = some p) {n : String}
    {q : PanelId} (hq : s.trackers.get? n = some q) : p ≠ q := by
  rintro rfl
  cases (hs.named.inj .view .tracker _ _ _ hv hq).1

theorem evolves_withView {n : String} {f : PanelId → Answer × Workspace} {g : Portrait → Portrait}
    (hf : ∀ q, (f q).2.portrait p =
      if p = q then g (s.workspace.portrait p) else s.workspace.portrait p)
    (hg : s.views.get? n = some p →
      (s.workspace.portrait p).Evolves torn (g (s.workspace.portrait p))) :
    (s.workspace.portrait p).Evolves torn ((s.withView n f).2.2.workspace.portrait p) := by
  unfold withView
  cases hn : s.views.get? n with
  | none => exact .refl _
  | some q =>
      show (s.workspace.portrait p).Evolves torn ((f q).2.portrait p)
      rw [hf]
      split
      · rename_i hpq
        exact hg (hpq ▸ hn)
      · exact .refl _

theorem evolves_withTracker (hs : s.Sound held) (hv : s.views.get? name = some p) {n : String}
    {f : PanelId → Answer × Workspace}
    (hf : ∀ q, p ≠ q → (f q).2.portrait p = s.workspace.portrait p) :
    (s.workspace.portrait p).Evolves torn ((s.withTracker n f).2.2.workspace.portrait p) := by
  unfold withTracker
  cases hn : s.trackers.get? n with
  | none => exact .refl _
  | some q =>
      show (s.workspace.portrait p).Evolves torn ((f q).2.portrait p)
      rw [hf q (hs.view_ne_tracker hv hn)]
      exact .refl _

theorem portrait_addView_of_named (hs : s.Sound held) (hv : s.views.get? name = some p) {n : String}
    (hn : n ≠ name) (config : Config) (wall : Bool) :
    (s.addView n config wall).workspace.portrait p = s.workspace.portrait p := by
  have hmade : (s.workspace.addView n config wall).2.portrait p = s.workspace.portrait p :=
    (portrait_addView ..).trans (if_neg (Nat.ne_of_lt (hs.view_lt hv)))
  exact (kept_getD (·.portrait p) fun old hold =>
    portrait_dropView _ old (hs.view_ne hv hn hold)).trans hmade

theorem portrait_addTracker_of_named (hs : s.Sound held) (hv : s.views.get? name = some p)
    (n : String) (window : Nat) :
    (s.addTracker n window).workspace.portrait p = s.workspace.portrait p := by
  have hadded : (s.workspace.addTracker n window false).2.portrait p = s.workspace.portrait p := by
    have hset : (s.workspace.addTracker n window false).2.trackers.get? p = _ := Table.get?_set ..
    rw [portrait, portrait, hset, if_neg (Nat.ne_of_lt (hs.view_lt hv))]
    rfl
  exact (kept_getD (·.portrait p) fun old hold =>
    portrait_dropTracker_of_ne _ (hs.view_ne_tracker hv hold)).trans hadded

theorem portrait_observe (s : Session) (n : String) (c : Channel) (script : Script Step) :
    (s.observe n c script).2.workspace.portrait = s.workspace.portrait :=
  (kept_getD portrait fun _ _ => portrait_cancel ..).trans (portrait_subscribe ..)

/-- What a step makes of a view that keeps its name. -/
theorem evolves_begin (hs : s.Sound held) {t : Step} (hv : s.views.get? name = some p)
    (hv' : (s.begin t).2.2.views.get? name = some p) :
    (s.workspace.portrait p).Evolves (s.tornDown? (.step t) = some p)
      ((s.begin t).2.2.workspace.portrait p) := by
  have hsame : ∀ {w : Workspace}, w.portrait p = s.workspace.portrait p →
      (s.workspace.portrait p).Evolves (s.tornDown? (.step t) = some p) (w.portrait p) := by
    intro w hw
    rw [hw]
    exact .refl _
  have hkept : ∀ {key : String} {f : ResultId → Result},
      (∀ r, (f r).2.2.workspace.portrait p = s.workspace.portrait p) →
      (s.workspace.portrait p).Evolves (s.tornDown? (.step t) = some p)
        ((s.withResult key f).2.2.workspace.portrait p) := fun hf =>
    hsame (kept_withResult (fun s => s.workspace.portrait p) hf)
  have hselect : ∀ r, (s.selectResult r).2.2.workspace.portrait p = s.workspace.portrait p := by
    intro r
    show (s.workspace.selectResult r).2.2.portrait p = _
    rw [portrait, portrait, trackers_selectResult, views_selectResult]
  cases t with
  | setSearching key on => exact hkept fun r => rfl
  | fetch key move => exact hkept fun r => rfl
  | announce key event => exact hkept fun r => rfl
  | select key =>
      cases key with
      | none => exact hsame (hselect none)
      | some key => exact hkept fun r => hselect (some r)
  | selectCard card =>
      refine hsame ?_
      show (s.workspace.selectCard card).2.2.portrait p = _
      rw [portrait, portrait, trackers_selectCard, views_selectCard]
  | view n config wall =>
      have hn : n ≠ name := by
        rintro rfl
        have hget : (s.views.set n s.workspace.nextPanel).get? n = some p := hv'
        rw [Table.get?_set, if_pos rfl] at hget
        exact absurd (Option.some.inj hget).symm (Nat.ne_of_lt (hs.view_lt hv))
      exact hsame (portrait_addView_of_named hs hv hn config wall)
  | dropView n =>
      simp only [begin, dropView] at hv' ⊢
      cases hq : s.views.get? n with
      | none => exact .refl _
      | some q =>
          rw [hq] at hv'
          have hn : n ≠ name := by
            rintro rfl
            have hget : (s.views.erase n).get? n = some p := hv'
            rw [Table.get?_erase, if_pos rfl] at hget
            cases hget
          exact hsame (portrait_dropView _ q (hs.view_ne hv hn hq))
  | showView n =>
      exact evolves_withView (g := (·.shown s.workspace.scene))
        (fun q => portrait_showView _ q p) fun _ => Portrait.evolves_shown _ _
  | render n =>
      exact evolves_withView (g := (·.rendered s.workspace.scene))
        (fun q => portrait_render _ q p) fun _ => Portrait.evolves_rendered _ _
  | beforeShow n =>
      exact evolves_withView (g := (·.mapView View.mounted))
        (fun q => portrait_beforeShow _ q p) fun _ => Portrait.evolves_mounted _
  | teardown n =>
      exact evolves_withView (g := Portrait.tornDown)
        (fun q => portrait_teardown _ q p) fun hq => Portrait.evolves_tornDown hq _
  | tick n time =>
      exact evolves_withView
        (g := (·.polled s.workspace.scene (time.getD s.workspace.now)))
        (fun q => portrait_poll _ q _ p) fun _ => Portrait.evolves_polled _ _ _
  | update n message =>
      refine evolves_withView (g := fun v => (v.update s.workspace.scene message).2)
        (fun q => portrait_update _ q message p) fun hq => ?_
      cases message with
      | showView => exact Portrait.evolves_shown _ _
      | render => exact Portrait.evolves_rendered _ _
      | tick => exact Portrait.evolves_polled _ _ _
      | teardown => exact Portrait.evolves_tornDown hq _
  | tracker n window => exact hsame (portrait_addTracker_of_named hs hv n window)
  | dropTracker n =>
      simp only [begin, dropTracker]
      cases hq : s.trackers.get? n with
      | none => exact .refl _
      | some q => exact hsame (portrait_dropTracker_of_ne _ (hs.view_ne_tracker hv hq))
  | bind n =>
      exact evolves_withTracker hs hv fun q hq =>
        portrait_of_modify_of_ne (trackers_bind _ q) (views_bind _ q) hq
  | unbind n =>
      exact evolves_withTracker hs hv fun q hq =>
        portrait_of_modify_of_ne (trackers_unbind _ q) (views_unbind _ q) hq
  | resync n =>
      exact evolves_withTracker hs hv fun q hq =>
        portrait_of_modify_of_ne (trackers_resync _ q) (views_resync _ q) hq
  | recompute n =>
      exact evolves_withTracker hs hv fun q hq =>
        portrait_of_modify_of_ne (trackers_recompute _ q) (views_recompute _ q) hq
  | poll n time =>
      exact evolves_withTracker hs hv fun q hq =>
        portrait_of_modify_of_ne (trackers_poll _ q _) (views_poll _ q _) hq
  | observe n topic script =>
      simp only [begin]
      split
      · exact hsame (congrFun (portrait_observe ..) p)
      · exact .refl _
  | unobserve n =>
      simp only [begin, unobserve]
      split
      · exact hsame (congrFun (portrait_cancel ..) p)
      · exact .refl _
  | addResult | advance | advanceTo | passWall | snapshot | reflect => exact .refl _

/-- The names of views change where one is made or dropped. -/
theorem views_begin (s : Session) (t : Step) :
    (s.begin t).2.2.views = s.views ∨
      (∃ n config wall, t = .view n config wall) ∨ ∃ n, t = .dropView n := by
  cases t with
  | view n config wall => exact .inr (.inl ⟨n, config, wall, rfl⟩)
  | dropView n => exact .inr (.inr ⟨n, rfl⟩)
  | dropTracker n =>
      simp only [begin, dropTracker]
      split <;> exact .inl rfl
  | observe n topic script =>
      simp only [begin]
      split <;> exact .inl rfl
  | unobserve n =>
      simp only [begin, unobserve]
      split <;> exact .inl rfl
  | addResult | tracker | snapshot | reflect => exact .inl rfl
  | _ => exact .inl (kept_begin views (fun _ => rfl) rfl)

theorem views_addView (s : Session) (n : String) (config : Config) (wall : Bool) (name : String) :
    (s.addView n config wall).views.get? name =
      if name = n then some s.workspace.nextPanel else s.views.get? name := Table.get?_set ..

theorem views_dropView (s : Session) (n name : String) :
    (s.dropView n).2.2.views.get? name = if name = n then none else s.views.get? name := by
  unfold dropView
  cases hn : s.views.get? n with
  | some q => exact Table.get?_erase ..
  | none =>
      dsimp only
      split
      · rename_i heq
        rw [heq, hn]
      · rfl

/-- A view comes into being where its name is given to it. -/
theorem portrait_addView_self (hs : s.Sound held) (n : String) (config : Config) (wall : Bool) :
    (s.addView n config wall).workspace.portrait s.workspace.nextPanel = .made n config wall := by
  have hmade : (s.workspace.addView n config wall).2.portrait s.workspace.nextPanel =
      .made n config wall := (portrait_addView ..).trans (if_pos rfl)
  exact (kept_getD (·.portrait s.workspace.nextPanel) fun old hold =>
    portrait_dropView _ old (Nat.ne_of_gt (hs.view_lt hold))).trans hmade

/-- A view goes where its name is taken from it. -/
theorem get?_of_unnamed {t : Step} (hv : s.views.get? name = some p)
    (hv' : (s.begin t).2.2.views.get? name ≠ some p) :
    (s.begin t).2.2.workspace.trackers.get? p = none := by
  rcases views_begin s t with heq | ⟨n, config, wall, rfl⟩ | ⟨n, rfl⟩
  · exact absurd (heq ▸ hv) hv'
  · have hn : name = n := by
      by_contra hne
      exact hv' ((views_addView ..).trans ((if_neg hne).trans hv))
    subst hn
    show ((((s.views.get? name).map (s.workspace.addView name config wall).2.dropView).getD
      (s.workspace.addView name config wall).2).trackers.get? p) = none
    rw [hv]
    exact (get?_dropView ..).trans (if_pos rfl)
  · have hn : name = n := by
      by_contra hne
      exact hv' ((views_dropView ..).trans ((if_neg hne).trans hv))
    subst hn
    simp only [begin, dropView, hv]
    exact (get?_dropView ..).trans (if_pos rfl)

/-! ## Jobs -/

theorem kept_tell (s : Session) (observer : Nat) (n : Notice) :
    (s.tell observer n).2.views = s.views ∧ (s.tell observer n).2.workspace = s.workspace := by
  unfold tell
  split <;> exact ⟨rfl, rfl⟩

/-- A delivery is made in the workspace, and the names stay. -/
theorem deliver_spec (s : Session) (d : Delivery) : (s.deliver d).2.views = s.views ∧
    (s.deliver d).2.workspace.portrait = (s.workspace.deliver d).portrait ∧
    (s.deliver d).2.workspace.trackers = (s.workspace.deliver d).trackers := by
  obtain ⟨subscriber, n⟩ := d
  cases subscriber with
  | resync | repaint | arm => exact ⟨rfl, rfl, rfl⟩
  | observer k =>
      obtain ⟨hviews, hw⟩ := s.kept_tell k n
      exact ⟨hviews, congrArg Workspace.portrait hw, congrArg Workspace.trackers hw⟩

/-- What a job makes of the view of a name: it evolves if it had the name before, or
was made. -/
theorem evolves_or_made (hs : s.Sound held) {j : Job}
    (hv' : (perform j s).2.views.get? name = some p) :
    s.views.get? name = some p ∧
        (s.workspace.portrait p).Evolves (s.tornDown? j = some p)
          ((perform j s).2.workspace.portrait p) ∨
      p = s.workspace.nextPanel ∧
        ∃ config wall, (perform j s).2.workspace.portrait p = .made name config wall := by
  cases j with
  | deliver d =>
      obtain ⟨hviews, hportrait, -⟩ := s.deliver_spec d
      have hv : s.views.get? name = some p := hviews ▸ hv'
      refine .inl ⟨hv, ?_⟩
      show (s.workspace.portrait p).Evolves _ ((s.deliver d).2.workspace.portrait p)
      rw [hportrait]
      exact evolves_deliver s.workspace d p
  | step t =>
      have hv' : (s.begin t).2.2.views.get? name = some p := hv'
      by_cases hv : s.views.get? name = some p
      · exact .inl ⟨hv, evolves_begin hs hv hv'⟩
      · rcases views_begin s t with heq | ⟨n, config, wall, rfl⟩ | ⟨n, rfl⟩
        · exact absurd (heq ▸ hv') hv
        · have hget := (views_addView s n config wall name).symm.trans hv'
          split at hget
          · rename_i hn
            obtain rfl := Option.some.inj hget
            exact .inr ⟨rfl, config, wall, hn ▸ portrait_addView_self hs n config wall⟩
          · exact absurd hget hv
        · have hget := (views_dropView s n name).symm.trans hv'
          split at hget
          · cases hget
          · exact absurd hget hv

/-- A view that loses its name in a job is gone. -/
theorem get?_perform_of_unnamed {j : Job} (hv : s.views.get? name = some p)
    (hv' : (perform j s).2.views.get? name ≠ some p) :
    (perform j s).2.workspace.trackers.get? p = none := by
  cases j with
  | deliver d => exact absurd ((s.deliver_spec d).1 ▸ hv) hv'
  | step t => exact get?_of_unnamed hv hv'

end Session

end DetailPanel
