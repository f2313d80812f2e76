import DetailPanel.Proofs.Workspace.Portrait

/-!
# Stages

The stage of a view is what concerns its layout: the configuration that names it, whether
it was asked for, and the region that it is mounted in.  A call to the view makes of the
stage what `Stage.respond` says, with these effects; nothing else that happens in a
workspace moves the stage or has an effect that concerns a layout.

    x.respond name c = (effects, stage)
    Played name p c w w' : the call c was made to the view p between w and w'
-/

namespace DetailPanel

/-- Whether an effect concerns the layout of a view. -/
def Effect.ofLayout (name : String) : Effect → Bool
  | .toggled .. => false
  | .created panel _ => panel == name
  | .region panel _ => panel == name

/-- What may be asked of a view. -/
inductive Call where
  | showView
  | beforeShow
  | render
  | tick
  | teardown
  | drop
  deriving DecidableEq, Repr

namespace Call

/-- Whether a call has the layout mounted. -/
def mounts : Call → Bool
  | .showView | .beforeShow => true
  | _ => false

/-- Whether a call has the layout closed. -/
def closes : Call → Bool
  | .teardown | .drop => true
  | _ => false

end Call

structure Stage where
  config : Config
  shown : Bool
  region : Region

namespace Stage

/-- Make and mount the layout, the first time only. -/
def mount (x : Stage) (name : String) : List Effect × Stage :=
  if x.shown then ([], x)
  else
    let (events, region) := x.region.mount x.config.layout
    (.created name x.config.layout :: events.map (.region name), { x with shown := true, region })

def close (x : Stage) (name : String) : List Effect × Stage :=
  (x.region.close.1.map (.region name), { x with region := x.region.close.2 })

/-- The effects of a call to the view of a name, and the stage afterwards. -/
def respond (x : Stage) (name : String) : Option Call → List Effect × Stage
  | some .showView | some .beforeShow => x.mount name
  | some .teardown | some .drop => x.close name
  | some .render | some .tick | none => ([], x)

theorem config_respond (x : Stage) (name : String) (c : Option Call) :
    (x.respond name c).2.config = x.config := by
  cases c with
  | none => rfl
  | some c =>
      cases c with
      | showView | beforeShow =>
          show (x.mount name).2.config = x.config
          unfold mount
          split <;> rfl
      | render | tick | teardown | drop => rfl

end Stage

def View.stage (v : View) : Stage := ⟨v.config, v.shown, v.region⟩

theorem View.stage_mounted (v : View) (name : String) :
    v.mounted.stage = (v.stage.mount name).2 := by
  unfold View.mounted Stage.mount
  by_cases hshown : v.shown <;> simp [View.stage, hshown]

namespace Workspace

variable {w w' w'' : Workspace} {p q : PanelId} {name : String}

def stage? (w : Workspace) (p : PanelId) : Option Stage := (w.views.get? p).map View.stage

/-- The effects so far that concern the layout of the view of a name. -/
def staged (w : Workspace) (name : String) : List Effect := w.effects.filter (·.ofLayout name)

theorem stage?_of_portrait (h : w'.portrait p = w.portrait p) : w'.stage? p = w.stage? p :=
  congrArg (fun x : Portrait => x.view.map View.stage) h

theorem stage?_of_mapView {f : View → View} (h : w'.portrait p = (w.portrait p).mapView f) :
    w'.stage? p = (w.views.get? p).map fun v => (f v).stage := by
  have hview : w'.views.get? p = (w.views.get? p).map f := congrArg Portrait.view h
  rw [stage?, hview, Option.map_map]
  rfl

/-! ## What does not concern the layout -/

@[simp] theorem staged_setRegistry (w : Workspace) (c : Channel) (g : Registry Subscriber) :
    (w.setRegistry c g).staged name = w.staged name := by
  cases c <;> rfl

@[simp] theorem staged_cancel (w : Workspace) (c : Channel) (id : Nat) :
    (w.cancel c id).staged name = w.staged name := staged_setRegistry ..

@[simp] theorem staged_subscribe (w : Workspace) (c : Channel) (x : Subscriber) :
    (w.subscribe c x).2.staged name = w.staged name := staged_setRegistry ..

@[simp] theorem staged_modifyTracker (w : Workspace) (p : PanelId) (f : Tracker → Tracker) :
    (w.modifyTracker p f).staged name = w.staged name := rfl

theorem staged_emit (w : Workspace) (es : List Effect) :
    (w.emit es).staged name = w.staged name ++ es.filter (·.ofLayout name) := List.filter_append ..

@[simp] theorem staged_recompute (w : Workspace) (p : PanelId) :
    (w.recompute p).staged name = w.staged name := by
  unfold recompute
  split
  · rfl
  · rename_i t ht
    have htoggles : ∀ es : List (String × Bool),
        (es.map fun c => Effect.toggled t.name c.1 c.2).filter (·.ofLayout name) = [] := by
      intro es
      refine List.filter_eq_nil_iff.2 fun e he => ?_
      obtain ⟨x, -, rfl⟩ := List.mem_map.1 he
      simp [Effect.ofLayout]
    dsimp only
    rw [staged_emit, staged_modifyTracker]
    split
    · exact List.append_nil _
    · rw [htoggles, List.append_nil]

@[simp] theorem staged_release (w : Workspace) (p : PanelId) :
    (w.release p).staged name = w.staged name := by
  unfold release
  split
  · rfl
  · exact staged_cancel ..

@[simp] theorem staged_rebind (w : Workspace) (p : PanelId) :
    (w.rebind p).staged name = w.staged name := by
  unfold rebind
  split
  · rfl
  · dsimp only
    split
    · exact staged_release w p
    · exact (staged_subscribe ..).trans (staged_release w p)

@[simp] theorem staged_resync (w : Workspace) (p : PanelId) :
    (w.resync p).staged name = w.staged name := by
  unfold resync
  split <;> simp

@[simp] theorem staged_repaint (w : Workspace) (p : PanelId) :
    (w.repaint p).staged name = w.staged name := by
  unfold repaint
  split <;> simp

@[simp] theorem staged_poll (w : Workspace) (p : PanelId) (time : Nat) :
    (w.poll p time).2.staged name = w.staged name := by
  unfold poll
  split
  · rfl
  · dsimp only
    split <;> simp

@[simp] theorem staged_bind (w : Workspace) (p : PanelId) :
    (w.bind p).staged name = w.staged name := by
  unfold bind
  split
  · rfl
  · exact (staged_subscribe ..).trans (staged_subscribe ..)

@[simp] theorem staged_unbind (w : Workspace) (p : PanelId) :
    (w.unbind p).staged name = w.staged name := by
  unfold unbind
  split
  · rfl
  · exact (staged_release ..).trans ((staged_cancel ..).trans (staged_cancel ..))

@[simp] theorem staged_render (w : Workspace) (p : PanelId) :
    (w.render p).staged name = w.staged name := staged_resync ..

theorem staged_deliver (w : Workspace) (d : Delivery) :
    (w.deliver d).staged name = w.staged name := by
  obtain ⟨subscriber, n⟩ := d
  cases subscriber with
  | resync q => exact staged_resync w q
  | repaint q => exact staged_repaint w q
  | arm q generation => rfl
  | observer k => rfl

/-! ## The names of panels -/

theorem panelName_of_modify {f : Tracker → Tracker} (htr : w'.trackers = w.trackers.modify q f)
    (hf : ∀ t, (f t).name = t.name) : w'.panelName p = w.panelName p := by
  unfold panelName
  rw [htr, Table.get?_modify]
  split
  · cases w.trackers.get? p with
    | none => rfl
    | some t => exact hf t
  · rfl

theorem panelName_render (w : Workspace) (p q : PanelId) :
    (w.render q).panelName p = w.panelName p := by
  refine panelName_of_modify
    (trackers_resync (w.modifyView q fun v => { v with renders := v.renders + 1 }) q) fun t => ?_
  unfold Tracker.resynced
  split <;> rfl

theorem panelName_unbind (w : Workspace) (p q : PanelId) :
    (w.unbind q).panelName p = w.panelName p :=
  panelName_of_modify (trackers_unbind w q) fun _ => rfl

/-! ## Effects on regions -/

theorem filter_region (name : String) (events : List Region.Event) :
    (events.map (Effect.region name)).filter (·.ofLayout name) = events.map (.region name) := by
  refine List.filter_eq_self.2 fun e he => ?_
  obtain ⟨x, -, rfl⟩ := List.mem_map.1 he
  simp [Effect.ofLayout]

theorem filter_region_of_ne {n : String} (hn : n ≠ name) (events : List Region.Event) :
    (events.map (Effect.region n)).filter (·.ofLayout name) = [] := by
  refine List.filter_eq_nil_iff.2 fun e he => ?_
  obtain ⟨x, -, rfl⟩ := List.mem_map.1 he
  simpa [Effect.ofLayout] using hn

theorem staged_changeRegion_of_ne (hq : w.panelName q ≠ name)
    (f : Region → List Region.Event × Region) :
    (w.changeRegion q f).staged name = w.staged name := by
  unfold changeRegion
  split
  · rfl
  · dsimp only
    rw [staged_emit, filter_region_of_ne hq, List.append_nil]
    rfl

theorem staged_changeRegion (hp : w.panelName p = name) {v : View} (hv : w.views.get? p = some v)
    (f : Region → List Region.Event × Region) :
    (w.changeRegion p f).staged name = w.staged name ++ (f v.region).1.map (.region name) := by
  simp only [changeRegion, hv, hp]
  rw [staged_emit, filter_region]
  rfl

theorem staged_beforeShow_of_ne (hq : w.panelName q ≠ name) :
    (w.beforeShow q).staged name = w.staged name := by
  unfold beforeShow
  split
  · rfl
  · split
    · rfl
    · rename_i v hv hshown
      have hcreated : [Effect.created (w.panelName q) v.config.layout].filter (·.ofLayout name) = [] := by
        simpa [Effect.ofLayout] using hq
      have hq' : ((w.modifyView q fun v => { v with shown := true }).emit
        [.created (w.panelName q) v.config.layout]).panelName q ≠ name := hq
      refine (staged_changeRegion_of_ne hq' _).trans ((staged_emit ..).trans ?_)
      show w.staged name ++ [Effect.created (w.panelName q) v.config.layout].filter _ = _
      rw [hcreated, List.append_nil]

theorem staged_beforeShow (hp : w.panelName p = name) {v : View} (hv : w.views.get? p = some v) :
    (w.beforeShow p).staged name = w.staged name ++ (v.stage.mount name).1 := by
  unfold beforeShow Stage.mount
  simp only [hv]
  by_cases hshown : v.shown
  · simp [hshown, View.stage]
  · have hview : ((w.modifyView p fun v => { v with shown := true }).emit
        [.created (w.panelName p) v.config.layout]).views.get? p = some { v with shown := true } := by
      have hget : (w.views.modify p fun v => { v with shown := true }).get? p = _ :=
        Table.get?_modify ..
      rw [if_pos rfl, hv] at hget
      exact hget
    have hp' : ((w.modifyView p fun v => { v with shown := true }).emit
        [.created (w.panelName p) v.config.layout]).panelName p = name := hp
    rw [if_neg hshown]
    refine (staged_changeRegion hp' hview _).trans ?_
    rw [staged_emit]
    show (w.staged name ++ [Effect.created (w.panelName p) v.config.layout].filter _) ++ _ = _
    rw [hp]
    simp [hshown, View.stage, Effect.ofLayout]

/-! ## Calls -/

/-- The call was made to a view; when it is dropped, only its effects are left. -/
def Played (name : String) (p : PanelId) (c : Option Call) (w w' : Workspace) : Prop :=
  ∀ x, w.stage? p = some x → w'.staged name = w.staged name ++ (x.respond name c).1 ∧
    (c ≠ some .drop → w'.stage? p = some (x.respond name c).2)

theorem played_none (hstaged : w'.staged name = w.staged name) (hstage : w'.stage? p = w.stage? p) :
    Played name p none w w' := fun _ hx => ⟨by simpa [Stage.respond] using hstaged, fun _ => hstage.trans hx⟩

/-- A call that does nothing to the layout. -/
theorem Played.of_none {c : Option Call} (h : Played name p none w w')
    (hc : ∀ x : Stage, x.respond name c = ([], x)) : Played name p c w w' := by
  intro x hx
  obtain ⟨hstaged, hstage⟩ := h x hx
  rw [hc]
  exact ⟨hstaged, fun _ => hstage nofun⟩

theorem Played.after_none {c : Option Call} (h : Played name p none w w')
    (h' : Played name p c w' w'') : Played name p c w w'' := by
  intro x hx
  obtain ⟨hstaged, hstage⟩ := h x hx
  obtain ⟨hstaged', hstage'⟩ := h' x (hstage nofun)
  refine ⟨?_, hstage'⟩
  rw [hstaged', hstaged]
  simp [Stage.respond]

theorem stage?_render (w : Workspace) (p q : PanelId) : (w.render q).stage? p = w.stage? p := by
  have hviews : (w.render q).views = w.views.modify q fun v => { v with renders := v.renders + 1 } :=
    views_resync ..
  rw [stage?, stage?, hviews, Table.get?_modify]
  split
  · cases w.views.get? p <;> rfl
  · rfl

theorem played_render (w : Workspace) (p q : PanelId) : Played name p none w (w.render q) :=
  played_none (staged_render w q) (stage?_render w p q)

theorem played_poll (w : Workspace) (p q : PanelId) (time : Nat) :
    Played name p none w (w.poll q time).2 :=
  played_none (staged_poll w q time) (by rw [stage?, stage?, views_poll])

theorem played_unbind (w : Workspace) (p q : PanelId) : Played name p none w (w.unbind q) :=
  played_none (staged_unbind w q) (by rw [stage?, stage?, views_unbind])

theorem played_beforeShow (hp : w.panelName p = name) {c : Option Call}
    (hc : ∀ x : Stage, x.respond name c = x.mount name) : Played name p c w (w.beforeShow p) := by
  intro x hx
  obtain ⟨v, hv, rfl⟩ := Option.map_eq_some_iff.1 hx
  rw [hc]
  refine ⟨staged_beforeShow hp hv, fun _ => ?_⟩
  rw [stage?_of_mapView ((portrait_beforeShow w p p).trans (if_pos rfl)), hv]
  exact congrArg some (v.stage_mounted name)

theorem played_showView (hp : w.panelName p = name) :
    Played name p (some .showView) w (w.showView p) := by
  have hrendered : (w.render p).panelName p = name := (panelName_render w p p).trans hp
  exact (played_render w p p).after_none (played_beforeShow hrendered fun _ => rfl)

theorem played_close (hp : w.panelName p = name) {c : Option Call}
    (hc : ∀ x : Stage, x.respond name c = x.close name) :
    Played name p c w (w.changeRegion p Region.close) := by
  intro x hx
  obtain ⟨v, hv, rfl⟩ := Option.map_eq_some_iff.1 hx
  rw [hc]
  refine ⟨staged_changeRegion hp hv Region.close, fun _ => ?_⟩
  rw [stage?, views_changeRegion, Table.get?_modify, if_pos rfl, hv]
  rfl

theorem played_teardown (hp : w.panelName p = name) :
    Played name p (some .teardown) w (w.teardown p) := by
  have hunbound : (w.unbind p).panelName p = name := (panelName_unbind w p p).trans hp
  exact (played_unbind w p p).after_none (played_close hunbound fun _ => rfl)

theorem staged_dropTracker (w : Workspace) (p : PanelId) :
    (w.dropTracker p).staged name = w.staged name := staged_unbind w p

theorem played_dropView (hp : w.panelName p = name) :
    Played name p (some .drop) w (w.dropView p) := by
  intro x hx
  have hclosed : Played name p (some .drop) w (w.changeRegion p Region.close) :=
    played_close hp fun _ => rfl
  exact ⟨(staged_dropTracker ..).trans (hclosed x hx).1, fun hne => absurd rfl hne⟩

/-! ### Calls to another view -/

theorem played_beforeShow_of_ne (hq : w.panelName q ≠ name) (hne : p ≠ q) :
    Played name p none w (w.beforeShow q) :=
  played_none (staged_beforeShow_of_ne hq)
    (stage?_of_portrait ((portrait_beforeShow w q p).trans (if_neg hne)))

theorem played_showView_of_ne (hq : w.panelName q ≠ name) (hne : p ≠ q) :
    Played name p none w (w.showView q) := by
  have hrendered : (w.render q).panelName q ≠ name := by rwa [panelName_render]
  exact (played_render w p q).after_none (played_beforeShow_of_ne hrendered hne)

theorem played_teardown_of_ne (hq : w.panelName q ≠ name) (hne : p ≠ q) :
    Played name p none w (w.teardown q) := by
  have hunbound : (w.unbind q).panelName q ≠ name := by rwa [panelName_unbind]
  exact played_none ((staged_changeRegion_of_ne hunbound _).trans (staged_unbind w q))
    (stage?_of_portrait ((portrait_teardown w q p).trans (if_neg hne)))

theorem played_dropView_of_ne (hq : w.panelName q ≠ name) (hne : p ≠ q) :
    Played name p none w (w.dropView q) :=
  played_none ((staged_dropTracker ..).trans (staged_changeRegion_of_ne hq _))
    (stage?_of_portrait (portrait_dropView w q hne))

/-! ### Views that are made -/

theorem played_addView (hp : p ≠ w.nextPanel) (n : String) (config : Config) (wall : Bool) :
    Played name p none w (w.addView n config wall).2 :=
  played_none (staged_bind (w.addTracker n config.window wall).2 w.nextPanel)
    (stage?_of_portrait ((portrait_addView ..).trans (if_neg hp)))

theorem panelName_addView (hp : p ≠ w.nextPanel) (n : String) (config : Config) (wall : Bool) :
    (w.addView n config wall).2.panelName p = w.panelName p := by
  have hadded : (w.addTracker n config.window wall).2.trackers.get? p = _ := Table.get?_set ..
  have hbound : (w.addView n config wall).2.panelName p =
      (w.addTracker n config.window wall).2.panelName p :=
    panelName_of_modify (trackers_bind (w.addTracker n config.window wall).2 w.nextPanel) fun t => by
      split <;> rfl
  rw [hbound, panelName, hadded, if_neg hp, panelName]

/-- A view that was made has not been shown. -/
theorem stage?_of_made {n : String} {config : Config} {wall : Bool}
    (h : w.portrait p = .made n config wall) :
    w.stage? p = some ⟨config, false, { name := config.region }⟩ :=
  congrArg (fun x : Portrait => x.view.map View.stage) h

end Workspace

end DetailPanel
