import DetailPanel.Proofs.Workspace.Moves

/-!
# Portraits of panels

The panels of a workspace share its registries, and what they keep of these are
numbers: of their subscriptions, and of the generation of a binding.  A portrait
of a panel leaves the numbers out (`Tracker.bare`).  What an operation makes of
the portrait of its panel depends on nothing but that portrait and the scene,
which is the selection, the results and the clock; every other portrait stays.

    (w.resync p).portrait p = (w.portrait p).mapTracker (·.followed w.scene)   (portrait_resync)
    (w.poll p time).2.portrait p = (w.portrait p).polled w.scene time          (portrait_poll)
    q ≠ p → (w.teardown p).portrait q = w.portrait q                           (portrait_teardown)
-/

namespace DetailPanel

/-- What the panels of a workspace have in common. -/
structure Scene where
  clock : Clock
  result : Option ResultId
  card : Option Metacard
  searching : ResultId → Bool
  nextResult : ResultId

def Scene.now (c : Scene) : Nat := c.clock.now

/-- The flags that the selection calls for. -/
def Scene.live (c : Scene) : Flags where
  notFound := c.card.isNone
  isSearching := c.result.any c.searching

/-! ## Trackers without numbers -/

def Binding.bare (b : Binding) : Binding := { b with generation := 0, subscription := 0 }

def Listening.bare (l : Listening) : Listening where
  onResult := 0
  onCard := 0
  binding := l.binding.map Binding.bare

namespace Tracker

/-- A tracker without the numbers of its subscriptions and its generation. -/
def bare (t : Tracker) : Tracker :=
  { t with generation := 0, listening := t.listening.map Listening.bare }

/-- A change of the current result is followed by a tracker that listens. -/
def followed (t : Tracker) (c : Scene) : Tracker :=
  if t.listening.isSome then
    { t.paint c.live with
      listening := t.listening.map fun l =>
        { l with
          binding := c.result.map fun r =>
            { result := r, generation := 0, throttle := { window := t.window }, subscription := 0 } } }
  else t

/-- A change of the metacard is shown by a tracker that listens. -/
def repainted (t : Tracker) (live : Flags) : Tracker :=
  if t.listening.isSome then t.paint live else t

/-- What a result announces arms the throttle of a tracker that is bound to it. -/
def notified (t : Tracker) (r : ResultId) (c : Clock) : Tracker :=
  match t.binding with
  | some b =>
      if b.result = r then
        t.setBinding (some { b with throttle := (b.throttle.trigger (t.time c)).2 })
      else t
  | none => t

/-- A tracker that listens no more. -/
def silenced (t : Tracker) : Tracker := { t with listening := none }

variable {t : Tracker}

theorem isSome_listening_bare (t : Tracker) : t.bare.listening.isSome = t.listening.isSome := by
  simp [bare]

theorem binding_bare (t : Tracker) : t.bare.binding = t.binding.map Binding.bare := by
  cases h : t.listening <;> simp [bare, binding, Listening.bare, h]

theorem state_bare (t : Tracker) : t.bare.state = t.state := by
  cases h : t.listening with
  | none => simp [bare, state, h]
  | some l => cases hb : l.binding <;> simp [bare, state, Listening.bare, Binding.bare, h, hb]

theorem deadline_bare (t : Tracker) : t.bare.deadline = t.deadline := by
  rw [deadline, binding_bare, deadline]
  cases t.binding <;> rfl

theorem setBinding_bare (t : Tracker) (b : Option Binding) :
    (t.setBinding b).bare = t.bare.setBinding (b.map Binding.bare) := by
  cases h : t.listening <;> simp [bare, setBinding, Listening.bare, h]

theorem bare_resynced (t : Tracker) {c : Scene} {w : Workspace} (hlive : w.liveFlags = c.live)
    (hresult : w.result = c.result) : (t.resynced w).bare = t.bare.followed c := by
  cases h : t.listening with
  | none => simp [resynced, followed, bare, h]
  | some l =>
      simp only [resynced, followed, h, Option.isSome_some, if_true, hlive, rebound,
        Workspace.freshBinding, hresult, bare, paint, Option.map_some, Listening.bare,
        Option.map_map]
      rfl

theorem bare_repainted (t : Tracker) (live : Flags) :
    (t.repainted live).bare = t.bare.repainted live := by
  unfold repainted
  rw [isSome_listening_bare]
  split <;> rfl

theorem bare_armed {b : Binding} (hb : t.binding = some b) (c : Clock) :
    (t.armed c b.generation).bare = t.bare.notified b.result c := by
  rw [armed, arm, hb]
  dsimp only
  rw [if_pos rfl, setBinding_bare, notified, binding_bare, hb]
  exact (if_pos rfl).symm

/-- A tracker that is not bound to a result takes no notice of it. -/
theorem notified_of_unbound {r : ResultId} (h : t.binding.map (·.result) ≠ some r) (c : Clock) :
    t.notified r c = t := by
  unfold notified
  split
  · rename_i b hb
    rw [if_neg]
    rintro rfl
    exact h (by rw [hb]; rfl)
  · rfl

theorem takeDue_bare (t : Tracker) (time : Nat) :
    t.bare.takeDue time = ((t.takeDue time).1, (t.takeDue time).2.bare) := by
  unfold takeDue
  rw [binding_bare]
  cases t.binding with
  | none => rfl
  | some b =>
      dsimp only
      rw [setBinding_bare]
      show ((b.throttle.poll time).1, _) = ((b.throttle.poll time).1, _)
      rfl

theorem bare_polled (t : Tracker) (live : Flags) (time : Nat) :
    (t.polled live time).bare = t.bare.polled live time := by
  unfold polled
  rw [takeDue_bare]
  dsimp only
  split <;> rfl

end Tracker

/-! ## Portraits -/

/-- The view once its layout has been made and mounted. -/
def View.mounted (v : View) : View :=
  if v.shown then v else { v with shown := true, region := (v.region.mount v.config.layout).2 }

/-- What can be told of a panel without the numbers that it has. -/
structure Portrait where
  tracker : Option Tracker
  view : Option View

namespace Portrait

def mapTracker (v : Portrait) (f : Tracker → Tracker) : Portrait :=
  { v with tracker := v.tracker.map f }

def mapView (v : Portrait) (f : View → View) : Portrait := { v with view := v.view.map f }

/-- A view that was just made. -/
def made (name : String) (config : Config) (wall : Bool) : Portrait where
  tracker := some
    { name, window := config.window, wall, listening := some { onResult := 0, onCard := 0 } }
  view := some { config, region := { name := config.region } }

def rendered (v : Portrait) (c : Scene) : Portrait :=
  (v.mapView fun u => { u with renders := u.renders + 1 }).mapTracker (·.followed c)

def shown (v : Portrait) (c : Scene) : Portrait := (v.rendered c).mapView View.mounted

def tornDown (v : Portrait) : Portrait :=
  (v.mapTracker Tracker.silenced).mapView fun u => { u with region := u.region.close.2 }

/-- Whether the throttled recompute is due. -/
def isDue (v : Portrait) (time : Nat) : Bool := v.tracker.any fun t => (t.takeDue time).1

def polled (v : Portrait) (c : Scene) (time : Nat) : Portrait :=
  v.mapTracker (·.polled c.live time)

/-- The time that the panel reads. -/
def time (v : Portrait) (c : Scene) : Nat := (v.tracker.map (·.time c.clock)).getD c.now

def update (v : Portrait) (c : Scene) : Workspace.Message → Bool × Portrait
  | .showView => (true, v.shown c)
  | .render => (true, v.rendered c)
  | .tick => (v.isDue (v.time c), v.polled c (v.time c))
  | .teardown => (true, v.tornDown)

end Portrait

namespace Workspace

def scene (w : Workspace) : Scene where
  clock := w.clock
  result := w.result
  card := w.card
  searching := w.isSearching
  nextResult := w.nextResult

def portrait (w : Workspace) (p : PanelId) : Portrait where
  tracker := (w.trackers.get? p).map Tracker.bare
  view := w.views.get? p

variable {w w' : Workspace} {p : PanelId}

theorem PanelsOnly.scene (h : PanelsOnly w w') : w'.scene = w.scene := by
  have hs : w'.isSearching = w.isSearching := funext h.searching
  simp only [Workspace.scene, h.clock, h.result, h.card, h.nextResult, hs]

theorem portrait_of_modify {f g : Tracker → Tracker}
    (htr : w'.trackers = w.trackers.modify p f) (hv : w'.views = w.views)
    (hfg : ∀ t, w.trackers.get? p = some t → (f t).bare = g t.bare) (q : PanelId) :
    w'.portrait q = if q = p then (w.portrait q).mapTracker g else w.portrait q := by
  unfold portrait
  rw [htr, hv, Table.get?_modify]
  split
  · rename_i hq
    obtain rfl : q = p := hq
    cases ht : w.trackers.get? q with
    | none => rfl
    | some t => simp [Portrait.mapTracker, hfg t ht]
  · rfl

theorem portrait_of_modifyView {f : View → View} (htr : w'.trackers = w.trackers)
    (hv : w'.views = w.views.modify p f) (q : PanelId) :
    w'.portrait q = if q = p then (w.portrait q).mapView f else w.portrait q := by
  unfold portrait
  rw [htr, hv, Table.get?_modify]
  split <;> rfl

/-! ## What the operations make of the portraits -/

theorem portrait_resync (w : Workspace) (p q : PanelId) : (w.resync p).portrait q =
    if q = p then (w.portrait q).mapTracker (·.followed w.scene) else w.portrait q :=
  portrait_of_modify (trackers_resync w p) (views_resync w p)
    (fun t _ => t.bare_resynced rfl rfl) q

theorem portrait_repaint (w : Workspace) (p q : PanelId) : (w.repaint p).portrait q =
    if q = p then (w.portrait q).mapTracker (·.repainted w.scene.live) else w.portrait q :=
  portrait_of_modify (g := (·.repainted w.scene.live)) (trackers_repaint w p) (views_repaint w p)
    (fun t _ => t.bare_repainted w.liveFlags) q

theorem portrait_arm {t : Tracker} {b : Binding} (ht : w.trackers.get? p = some t)
    (hb : t.binding = some b) (q : PanelId) : (w.arm p b.generation).portrait q =
      if q = p then (w.portrait q).mapTracker (·.notified b.result w.clock) else w.portrait q := by
  refine portrait_of_modify (trackers_arm w p b.generation) rfl (fun u hu => ?_) q
  obtain rfl := Option.some.inj (ht.symm.trans hu)
  exact Tracker.bare_armed hb w.clock

theorem portrait_poll (w : Workspace) (p : PanelId) (time : Nat) (q : PanelId) :
    (w.poll p time).2.portrait q =
      if q = p then (w.portrait q).polled w.scene time else w.portrait q :=
  portrait_of_modify (trackers_poll w p time) (views_poll w p time)
    (fun t _ => t.bare_polled w.liveFlags time) q

theorem poll_eq_isDue (w : Workspace) (p : PanelId) (time : Nat) :
    (w.poll p time).1 = (w.portrait p).isDue time := by
  unfold poll portrait Portrait.isDue
  cases w.trackers.get? p with
  | none => rfl
  | some t => simp [Tracker.takeDue_bare]

theorem timeOf_eq_time (w : Workspace) (p : PanelId) :
    w.timeOf p = (w.portrait p).time w.scene := by
  unfold timeOf portrait Portrait.time
  cases w.trackers.get? p <;> rfl

theorem portrait_render (w : Workspace) (p q : PanelId) : (w.render p).portrait q =
    if q = p then (w.portrait q).rendered w.scene else w.portrait q := by
  let count (v : View) : View := { v with renders := v.renders + 1 }
  have hcounted : (w.modifyView p count).portrait q =
      if q = p then (w.portrait q).mapView count else w.portrait q :=
    portrait_of_modifyView (show (w.modifyView p count).trackers = w.trackers from rfl) rfl q
  have hscene : (w.modifyView p count).scene = w.scene := rfl
  show ((w.modifyView p count).resync p).portrait q = _
  rw [portrait_resync, hcounted, hscene]
  split <;> rfl

theorem views_changeRegion (w : Workspace) (p : PanelId)
    (f : Region → List Region.Event × Region) : (w.changeRegion p f).views =
      w.views.modify p fun v => { v with region := (f v.region).2 } := by
  unfold changeRegion
  split
  · rename_i h
    exact (Table.modify_of_none _ h).symm
  · rename_i v hv
    exact Table.modify_congr_of_get? hv rfl

theorem portrait_beforeShow (w : Workspace) (p q : PanelId) : (w.beforeShow p).portrait q =
    if q = p then (w.portrait q).mapView View.mounted else w.portrait q := by
  refine portrait_of_modifyView (ViewsOnly.beforeShow w p).trackers ?_ q
  unfold beforeShow
  split
  · rename_i h
    exact (Table.modify_of_none _ h).symm
  · rename_i v hv
    split
    · rename_i hshown
      refine (Table.modify_eq_self fun u hu => ?_).symm
      obtain rfl := Option.some.inj (hv.symm.trans hu)
      exact if_pos hshown
    · rename_i hshown
      rw [views_changeRegion]
      show Table.modify p _ (Table.modify p _ w.views) = _
      rw [Table.modify_modify]
      refine Table.modify_congr_of_get? hv ?_
      rw [View.mounted, if_neg hshown]

theorem portrait_showView (w : Workspace) (p q : PanelId) : (w.showView p).portrait q =
    if q = p then (w.portrait q).shown w.scene else w.portrait q := by
  rw [showView, portrait_beforeShow, portrait_render]
  split <;> rfl

theorem views_unbind (w : Workspace) (p : PanelId) : (w.unbind p).views = w.views := by
  unfold unbind
  split
  · rfl
  · exact (views_release ..).trans ((views_setRegistry ..).trans (views_setRegistry ..))

theorem portrait_teardown (w : Workspace) (p q : PanelId) : (w.teardown p).portrait q =
    if q = p then (w.portrait q).tornDown else w.portrait q := by
  have hunbound : (w.unbind p).portrait q = _ :=
    portrait_of_modify (g := Tracker.silenced) (trackers_unbind w p) (views_unbind w p)
      (fun _ _ => rfl) q
  have hclosed : (w.teardown p).portrait q = _ :=
    portrait_of_modifyView (ViewsOnly.changeRegion (w.unbind p) p Region.close).trackers
      (views_changeRegion (w.unbind p) p Region.close) q
  rw [hclosed, hunbound]
  split <;> rfl

theorem portrait_update (w : Workspace) (p : PanelId) (m : Message) (q : PanelId) :
    (w.update p m).2.portrait q =
      if q = p then ((w.portrait q).update w.scene m).2 else w.portrait q := by
  cases m with
  | showView => exact w.portrait_showView p q
  | render => exact w.portrait_render p q
  | tick =>
      have hpolled : (w.update p .tick).2.portrait q = _ := w.portrait_poll p (w.timeOf p) q
      rw [hpolled]
      split
      · rename_i hq
        rw [timeOf_eq_time, hq]
        rfl
      · rfl
  | teardown => exact w.portrait_teardown p q

theorem update_eq_portrait (w : Workspace) (p : PanelId) (m : Message) :
    (w.update p m).1 = ((w.portrait p).update w.scene m).1 := by
  cases m with
  | showView | render | teardown => rfl
  | tick =>
      show (w.poll p (w.timeOf p)).1 = _
      rw [poll_eq_isDue, timeOf_eq_time]
      rfl

/-- A view is made beside the others. -/
theorem portrait_addView (w : Workspace) (name : String) (config : Config) (wall : Bool)
    (q : PanelId) : (w.addView name config wall).2.portrait q =
      if q = w.nextPanel then .made name config wall else w.portrait q := by
  have htr : (w.addView name config wall).2.trackers =
      (w.trackers.set w.nextPanel { name, window := config.window, wall }).modify w.nextPanel _ :=
    trackers_bind _ w.nextPanel
  have hbound : ((w.addTracker name config.window wall).2.bind w.nextPanel).views = w.views :=
    views_bind ..
  have hviews : (w.addView name config wall).2.views =
      w.views.set w.nextPanel { config, region := { name := config.region } } :=
    congrArg _ hbound
  unfold portrait
  rw [htr, hviews, Table.get?_modify, Table.get?_set, Table.get?_set]
  split <;> rfl

/-- A view goes, and the others stay. -/
theorem portrait_dropView (w : Workspace) (p : PanelId) {q : PanelId} (hq : q ≠ p) :
    (w.dropView p).portrait q = w.portrait q := by
  have hviews : (w.dropView p).views.get? q = w.views.get? q := by
    have herase : (w.dropView p).views.get? q = _ := Table.get?_erase ..
    rw [herase, if_neg hq]
    show ((w.changeRegion p Region.close).unbind p).views.get? q = _
    rw [views_unbind, views_changeRegion, Table.get?_modify, if_neg hq]
  unfold portrait
  rw [hviews, get?_dropView, if_neg hq]

theorem portrait_cancel (w : Workspace) (c : Channel) (id : Nat) :
    (w.cancel c id).portrait = w.portrait := by
  funext p
  rw [portrait, portrait, trackers_cancel]
  exact congrArg _ (congrArg (Table.get? p) (views_setRegistry ..))

theorem portrait_subscribe (w : Workspace) (c : Channel) (x : Subscriber) :
    (w.subscribe c x).2.portrait = w.portrait := by
  funext p
  rw [portrait, portrait, trackers_subscribe]
  exact congrArg _ (congrArg (Table.get? p) (views_setRegistry ..))

/-! ## Views leave the scene as it is -/

theorem PanelsOnly.render (w : Workspace) (p : PanelId) : PanelsOnly w (w.render p) :=
  (ViewsOnly.modifyView w p fun v => { v with renders := v.renders + 1 }).panelsOnly.trans
    (.resync _ p)

theorem PanelsOnly.showView (w : Workspace) (p : PanelId) : PanelsOnly w (w.showView p) :=
  (PanelsOnly.render w p).trans (ViewsOnly.beforeShow _ p).panelsOnly

theorem PanelsOnly.teardown (w : Workspace) (p : PanelId) : PanelsOnly w (w.teardown p) :=
  (PanelsOnly.unbind w p).trans (ViewsOnly.changeRegion _ p Region.close).panelsOnly

theorem PanelsOnly.update (w : Workspace) (p : PanelId) (m : Message) :
    PanelsOnly w (w.update p m).2 := by
  cases m with
  | showView => exact .showView w p
  | render => exact .render w p
  | tick => exact .poll w p _
  | teardown => exact .teardown w p

theorem scene_addView (w : Workspace) (name : String) (config : Config) (wall : Bool) :
    (w.addView name config wall).2.scene = w.scene :=
  (PanelsOnly.bind (w.addTracker name config.window wall).2 w.nextPanel).scene

theorem PanelsOnly.dropTracker (w : Workspace) (p : PanelId) : PanelsOnly w (w.dropTracker p) :=
  (PanelsOnly.unbind w p).trans ⟨rfl, rfl, rfl, rfl, rfl, fun _ => rfl, fun _ => rfl⟩

theorem PanelsOnly.dropView (w : Workspace) (p : PanelId) : PanelsOnly w (w.dropView p) := by
  have hclosed := (ViewsOnly.changeRegion w p Region.close).panelsOnly
  exact (hclosed.trans (.dropTracker _ p)).trans
    ⟨rfl, rfl, rfl, rfl, rfl, fun _ => rfl, fun _ => rfl⟩

end Workspace

end DetailPanel
