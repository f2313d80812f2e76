import DetailPanel.Proofs.Session.Conduct
import DetailPanel.Proofs.Session.Faces
import DetailPanel.Proofs.Session.Settings
import DetailPanel.Proofs.Workspace.Courses

/-!
# The life of a layout

The life of a view lasts from the job that makes it to the job that drops it, among
whatever other jobs.  At all times its course is one of the three, and what the region
holds is what the course says.

    Life p name config m es → Course name config.layout es current mounts    (layout_life)
-/

namespace DetailPanel

open Workspace

namespace Session

variable {s : Session} {held : Holdings} {p : PanelId} {name : String}

/-- The name of the view that a step calls, and the call. -/
def Step.called? : Step → Option (String × Call)
  | .showView n | .update n .showView => some (n, .showView)
  | .beforeShow n => some (n, .beforeShow)
  | .render n | .update n .render => some (n, .render)
  | .tick n _ | .update n .tick => some (n, .tick)
  | .teardown n | .update n .teardown => some (n, .teardown)
  | .dropView n | .view n .. => some (n, .drop)
  | _ => none

/-- The call that a job makes to a view. -/
def call? (s : Session) (p : PanelId) : Job → Option Call
  | .step t => t.called?.bind fun c => if s.views.get? c.1 = some p then some c.2 else none
  | .deliver _ => none

/-- The name of a view is also what its effects say. -/
def Titled (s : Session) : Prop :=
  ∀ name p, s.views.get? name = some p → s.workspace.panelName p = name

theorem titled_empty : Titled {} := nofun

theorem panelName_of_face {w : Workspace} {t : Tracker} (ht : w.trackers.get? p = some t) :
    w.panelName p = t.face.name := by
  rw [panelName, ht]
  rfl

theorem Titled.perform (ht : s.Titled) (hs : s.Sound held) (j : Job) : (perform j s).2.Titled := by
  intro name p hv'
  rcases evolves_or_made hs hv' with ⟨hv, -⟩ | ⟨-, config, wall, hmade⟩
  · obtain ⟨held', hs'⟩ := hs.perform j
    obtain ⟨t', ht'⟩ := Option.isSome_iff_exists.1 (hs'.named.live .view name p hv')
    have hold : ∀ n, s.made? j ≠ some (p, n) := fun n hn =>
      Nat.ne_of_lt (hs.view_lt hv) (face_made hs hn).1
    obtain ⟨t, hget, hface⟩ := repaints_perform hold t' ht'
    have hname : t'.face.name = t.face.name := by
      rcases hface with heq | ⟨heq, -⟩ <;> rw [heq]
      rfl
    rw [panelName_of_face ht', hname, ← panelName_of_face hget]
    exact ht name p hv
  · obtain ⟨t, hget, hbare⟩ := Option.map_eq_some_iff.1 (congrArg Portrait.tracker hmade)
    have hname : t.bare.name = name := congrArg Tracker.name hbare
    rw [panelName_of_face hget]
    exact hname

/-! ## Steps -/

theorem played_of_views {w w' : Workspace} (hstaged : w'.staged name = w.staged name)
    (hviews : w'.views = w.views) : Played name p none w w' :=
  played_none hstaged (by rw [stage?, stage?, hviews])

theorem played_withResult {key : String} {f : ResultId → Result}
    (hf : ∀ r, (f r).2.2.workspace.staged name = s.workspace.staged name ∧
      (f r).2.2.workspace.views = s.workspace.views) :
    Played name p none s.workspace (s.withResult key f).2.2.workspace :=
  played_of_views (kept_withResult (fun s => s.workspace.staged name) fun r => (hf r).1)
    (kept_withResult (fun s => s.workspace.views) fun r => (hf r).2)

theorem played_withTracker {n : String} {f : PanelId → Answer × Workspace}
    (hf : ∀ q, Played name p none s.workspace (f q).2) :
    Played name p none s.workspace (s.withTracker n f).2.2.workspace := by
  unfold withTracker
  split
  · exact hf _
  · exact played_of_views rfl rfl

theorem played_withView {n : String} {c : Call} {f : PanelId → Answer × Workspace}
    (hself : s.views.get? n = some p → Played name p (some c) s.workspace (f p).2)
    (hother : ∀ q, s.views.get? n = some q → p ≠ q → Played name p none s.workspace (f q).2) :
    Played name p (if s.views.get? n = some p then some c else none) s.workspace
      (s.withView n f).2.2.workspace := by
  unfold withView
  cases hn : s.views.get? n with
  | none => exact played_of_views rfl rfl
  | some q =>
      by_cases hq : p = q
      · subst hq
        rw [if_pos rfl]
        exact hself hn
      · rw [if_neg fun heq => hq (Option.some.inj heq).symm]
        exact hother q hn hq

theorem staged_selectResult (w : Workspace) (r : Option ResultId) :
    (w.selectResult r).2.2.staged name = w.staged name := by
  rcases w.selectResult_spec r with ⟨-, heq⟩ | ⟨-, heq⟩
  · rw [heq]
  · rw [heq]
    rfl

theorem staged_selectCard (w : Workspace) (card : Option Metacard) :
    (w.selectCard card).2.2.staged name = w.staged name := by
  rcases w.selectCard_spec card with ⟨-, heq⟩ | ⟨-, heq⟩
  · rw [heq]
  · rw [heq]
    rfl

theorem played_make (hs : s.Sound held) (ht : s.Titled) (hv : s.views.get? name = some p)
    (n : String) (config : Config) (wall : Bool) :
    Played name p (if s.views.get? n = some p then some .drop else none) s.workspace
      (s.addView n config wall).workspace := by
  have hp : p ≠ s.workspace.nextPanel := Nat.ne_of_lt (hs.view_lt hv)
  have hmade : Played name p none s.workspace (s.workspace.addView n config wall).2 :=
    played_addView hp n config wall
  have hnamed : ∀ q, p ≠ q → s.views.get? n = some q →
      (s.workspace.addView n config wall).2.panelName q ≠ name := by
    intro q hne hq heq
    rw [panelName_addView (Nat.ne_of_lt (hs.view_lt hq)), ht n q hq] at heq
    exact hne (Option.some.inj ((hv.symm.trans (heq ▸ rfl)).trans hq))
  show Played name p _ s.workspace (((s.views.get? n).map _).getD _)
  cases hn : s.views.get? n with
  | none => exact hmade
  | some q =>
      by_cases hq : p = q
      · subst hq
        rw [if_pos rfl]
        refine hmade.after_none (played_dropView ?_)
        rw [panelName_addView hp]
        exact ht name p hv
      · rw [if_neg fun heq => hq (Option.some.inj heq).symm]
        exact hmade.after_none (played_dropView_of_ne (hnamed q hq hn) hq)

/-- A step does to the layout of a view what the call that it makes does. -/
theorem played_begin (hs : s.Sound held) (ht : s.Titled) (hv : s.views.get? name = some p)
    (t : Step) : Played name p (s.call? p (.step t)) s.workspace (s.begin t).2.2.workspace := by
  have hself : s.workspace.panelName p = name := ht name p hv
  have hother : ∀ {n q}, s.views.get? n = some q → p ≠ q → s.workspace.panelName q ≠ name := by
    intro n q hq hne heq
    rw [ht n q hq] at heq
    subst heq
    exact hne (Option.some.inj (hv.symm.trans hq))
  have hidle : ∀ {c : Call} {n : String} {f : PanelId → Answer × Workspace},
      (∀ x : Stage, x.respond name (some c) = ([], x)) →
      (∀ q, Played name p none s.workspace (f q).2) →
      Played name p (if s.views.get? n = some p then some c else none) s.workspace
        (s.withView n f).2.2.workspace := fun hc hf =>
    played_withView (fun _ => (hf p).of_none hc) fun q _ _ => hf q
  cases t with
  | setSearching | fetch | announce => exact played_withResult fun _ => ⟨rfl, rfl⟩
  | select key =>
      cases key with
      | none => exact played_of_views (staged_selectResult ..) (views_selectResult ..)
      | some key =>
          exact played_withResult fun r => ⟨staged_selectResult .., views_selectResult ..⟩
  | selectCard card => exact played_of_views (staged_selectCard ..) (views_selectCard ..)
  | view n config wall => exact played_make hs ht hv n config wall
  | dropView n =>
      simp only [begin, dropView, call?, Step.called?, Option.bind_some]
      cases hn : s.views.get? n with
      | none => exact played_of_views rfl rfl
      | some q =>
          by_cases hq : p = q
          · subst hq
            rw [if_pos rfl]
            exact played_dropView hself
          · rw [if_neg fun heq => hq (Option.some.inj heq).symm]
            exact played_dropView_of_ne (hother hn hq) hq
  | showView n =>
      exact played_withView (fun _ => played_showView hself) fun q hq hne =>
        played_showView_of_ne (hother hq hne) hne
  | render n => exact hidle (fun _ => rfl) fun q => played_render _ p q
  | beforeShow n =>
      exact played_withView (fun _ => played_beforeShow hself fun _ => rfl) fun q hq hne =>
        played_beforeShow_of_ne (hother hq hne) hne
  | teardown n =>
      exact played_withView (fun _ => played_teardown hself) fun q hq hne =>
        played_teardown_of_ne (hother hq hne) hne
  | tick n time => exact hidle (fun _ => rfl) fun q => played_poll _ p q _
  | update n message =>
      cases message with
      | showView =>
          exact played_withView (fun _ => played_showView hself) fun q hq hne =>
            played_showView_of_ne (hother hq hne) hne
      | render => exact hidle (fun _ => rfl) fun q => played_render _ p q
      | tick => exact hidle (fun _ => rfl) fun q => played_poll _ p q _
      | teardown =>
          exact played_withView (fun _ => played_teardown hself) fun q hq hne =>
            played_teardown_of_ne (hother hq hne) hne
  | tracker n window =>
      exact played_of_views
        (kept_getD (fun w => w.staged name) fun old _ => staged_dropTracker _ old)
        (kept_getD (fun w => w.views) fun old _ => views_unbind _ old)
  | dropTracker n =>
      simp only [begin, dropTracker]
      split
      · exact played_of_views (staged_dropTracker ..) (views_unbind ..)
      · exact played_of_views rfl rfl
  | bind n =>
      exact played_withTracker fun q => played_of_views (staged_bind _ q) (views_bind _ q)
  | unbind n => exact played_withTracker fun q => played_unbind _ p q
  | resync n =>
      exact played_withTracker fun q => played_of_views (staged_resync _ q) (views_resync _ q)
  | recompute n =>
      exact played_withTracker fun q => played_of_views (staged_recompute _ q) (views_recompute _ q)
  | poll n time => exact played_withTracker fun q => played_poll _ p q _
  | observe n topic script =>
      simp only [begin]
      split
      · exact played_of_views
          ((kept_getD (fun w => w.staged name) fun _ _ => staged_cancel ..).trans (staged_subscribe ..))
          ((kept_getD (fun w => w.views) fun _ _ => views_setRegistry ..).trans (views_setRegistry ..))
      · exact played_of_views rfl rfl
  | unobserve n =>
      simp only [begin, unobserve]
      split
      · exact played_of_views (staged_cancel ..) (views_setRegistry ..)
      · exact played_of_views rfl rfl
  | addResult | advance | advanceTo | passWall | snapshot | reflect => exact played_of_views rfl rfl

/-! ## What the log says -/

/-- The effect in a note, if it concerns the layout of the view of a name. -/
def Note.layout? (name : String) : Note → Option Effect
  | .effect e => if e.ofLayout name then some e else none
  | .saw .. => none

/-- The effects that a job adds to the log and that concern the layout of the view of a
name. -/
def layoutEffects (s : Session) (name : String) (j : Job) : List Effect :=
  ((perform j s).2.log.drop s.log.length).filterMap (Note.layout? name)

theorem log_begin (s : Session) (t : Step) : (s.begin t).2.2.log = s.log := by
  cases t with
  | dropView | dropTracker | unobserve =>
      simp only [begin, dropView, dropTracker, unobserve]
      split <;> rfl
  | observe =>
      simp only [begin]
      split <;> rfl
  | addResult | view | tracker | snapshot | reflect => rfl
  | _ => exact kept_begin log (fun _ => rfl) rfl

theorem filterMap_layout? (name : String) (es : List Effect) :
    (es.map Note.effect).filterMap (Note.layout? name) = es.filter (·.ofLayout name) := by
  rw [List.filterMap_map]
  show es.filterMap (Option.guard (·.ofLayout name)) = _
  rw [List.filterMap_eq_filter]

theorem layoutEffects_step (s : Session) (name : String) (t : Step) :
    s.layoutEffects name (.step t) = (s.begin t).2.2.workspace.staged name := by
  have hlog : (perform (.step t) s).2.log =
      s.log ++ (s.begin t).2.2.workspace.effects.map Note.effect := by
    show (s.begin t).2.2.log ++ _ = _
    rw [log_begin]
  rw [layoutEffects, hlog, List.drop_left]
  exact filterMap_layout? ..

theorem layoutEffects_deliver (hset : s.workspace.effects = []) (name : String) (d : Delivery) :
    s.layoutEffects name (.deliver d) = (s.workspace.deliver d).staged name := by
  obtain ⟨subscriber, n⟩ := d
  cases subscriber with
  | resync q | repaint q | arm q generation =>
      refine (congrArg (List.filterMap (Note.layout? name)) List.drop_left).trans ?_
      exact filterMap_layout? ..
  | observer k =>
      have hnone : s.workspace.staged name = [] := by
        rw [staged, hset]
        rfl
      show ((s.tell k n).2.log.drop s.log.length).filterMap (Note.layout? name) = _
      unfold tell
      split
      · rw [List.drop_length]
        exact hnone.symm
      · rw [List.drop_left]
        exact hnone.symm

/-- A job does to the layout of a view what the call that it makes does. -/
theorem layout_perform (hs : s.Sound held) (ht : s.Titled) (hset : s.workspace.effects = [])
    (hv : s.views.get? name = some p) {x : Stage} (hx : s.workspace.stage? p = some x) (j : Job) :
    s.layoutEffects name j = (x.respond name (s.call? p j)).1 ∧
      (s.call? p j ≠ some .drop →
        (perform j s).2.workspace.stage? p = some (x.respond name (s.call? p j)).2) := by
  have hnone : s.workspace.staged name = [] := by
    rw [staged, hset]
    rfl
  cases j with
  | step t =>
      obtain ⟨hstaged, hstage⟩ := played_begin hs ht hv t x hx
      rw [layoutEffects_step, hstaged, hnone]
      exact ⟨List.nil_append _, hstage⟩
  | deliver d =>
      rw [layoutEffects_deliver hset, staged_deliver, hnone]
      refine ⟨rfl, fun _ => ?_⟩
      obtain ⟨-, hportrait, -⟩ := s.deliver_spec d
      have hviews : (s.workspace.deliver d).views = s.workspace.views := views_deliver ..
      have hsame : (perform (.deliver d) s).2.workspace.stage? p = (s.workspace.deliver d).stage? p :=
        congrArg (fun x : Portrait => x.view.map View.stage) (congrFun hportrait p)
      rw [hsame, stage?, hviews]
      exact hx

theorem called?_eq_drop {t : Step} {n : String} (h : t.called? = some (n, .drop)) :
    t = .dropView n ∨ ∃ config wall, t = .view n config wall := by
  cases t with
  | dropView n' =>
      obtain rfl := congrArg Prod.fst (Option.some.inj h)
      exact .inl rfl
  | view n' config wall =>
      obtain rfl := congrArg Prod.fst (Option.some.inj h)
      exact .inr ⟨config, wall, rfl⟩
  | update n' message => cases message <;> cases h
  | _ => cases h

/-- A view loses its name in the job that drops it, and in no other. -/
theorem named_perform (hs : s.Sound held) (hv : s.views.get? name = some p) (j : Job) :
    (perform j s).2.views.get? name = some p ↔ s.call? p j ≠ some .drop := by
  cases j with
  | deliver d =>
      refine ⟨fun _ => nofun, fun _ => ?_⟩
      rw [perform, (s.deliver_spec d).1]
      exact hv
  | step t =>
      show (s.begin t).2.2.views.get? name = some p ↔ _
      constructor
      · intro hv' hdrop
        obtain ⟨⟨n, c⟩, hcalled, hc⟩ := Option.bind_eq_some_iff.1 hdrop
        split at hc
        · rename_i hn
          obtain rfl : c = .drop := Option.some.inj hc
          obtain rfl : n = name := (hs.named.inj .view .view _ _ p hn hv).2
          rcases called?_eq_drop hcalled with rfl | ⟨config, wall, rfl⟩
          · rw [begin, views_dropView, if_pos rfl] at hv'
            cases hv'
          · have hnew := (views_addView s n config wall n).symm.trans hv'
            rw [if_pos rfl] at hnew
            exact absurd (Option.some.inj hnew).symm (Nat.ne_of_lt (hs.view_lt hv))
        · cases hc
      · intro hdrop
        rcases views_begin s t with heq | ⟨n, config, wall, rfl⟩ | ⟨n, rfl⟩
        · rw [heq]
          exact hv
        · refine (views_addView s n config wall name).trans ?_
          split
          · rename_i hn
            subst hn
            exact absurd (if_pos hv) hdrop
          · exact hv
        · refine (views_dropView s n name).trans ?_
          split
          · rename_i hn
            subst hn
            exact absurd (if_pos hv) hdrop
          · exact hv

end Session

/-! ## Lives -/

namespace Moment

open Session

variable {m m' : Moment} {p : PanelId} {name : String} {config : Config} {es : List Episode}

/-- The life so far of the view that was made as the panel `p`, in episodes. -/
inductive Life (p : PanelId) (name : String) (config : Config) : Moment → List Episode → Prop
  | made {wall : Bool} {js : List Job} {s : Session}
      (hr : Reachable ⟨.step (.view name config wall) :: js, s⟩) (hp : p = s.workspace.nextPanel) :
      Life p name config (after ⟨.step (.view name config wall) :: js, s⟩) []
  | perform {j : Job} {js : List Job} {s : Session} {es : List Episode}
      (h : Life p name config ⟨j :: js, s⟩ es) (hv : s.views.get? name = some p) :
      Life p name config (after ⟨j :: js, s⟩) (es ++ [⟨s.call? p j, s.layoutEffects name j⟩])
  | idle {s : Session} {m' : Moment} {es : List Episode} (h : Life p name config ⟨[], s⟩ es)
      (hn : Next ⟨[], s⟩ m') : Life p name config m' es

/-- A step is called for and carried out. -/
theorem Life.call (h : Life p name config m es) (hm : m.agenda = [])
    (hv : m.session.views.get? name = some p) (t : Session.Step) :
    Life p name config (after ⟨[.step t], m.session⟩)
      (es ++ [⟨m.session.call? p (.step t), m.session.layoutEffects name (.step t)⟩]) := by
  obtain ⟨agenda, s⟩ := m
  obtain rfl : agenda = [] := hm
  exact (h.idle (.call t s)).perform hv

theorem Life.reachable (h : Life p name config m es) : Reachable m := by
  induction h with
  | made hr => exact hr.after
  | perform _ _ ih => exact ih.after
  | idle _ hn ih => exact ih.next hn

theorem Reachable.titled (hr : Reachable m) : m.session.Titled := by
  induction hr with
  | refl => exact titled_empty
  | @tail m m' hr hn ih =>
      obtain ⟨held, hs⟩ := Reachable.sound hr
      cases hn with
      | call | takeLog => exact ih
      | perform j js s => exact ih.perform hs j

theorem Reachable.settled (hr : Reachable m) : m.session.workspace.effects = [] := by
  induction hr with
  | refl => rfl
  | tail _ hn ih =>
      cases hn with
      | call | takeLog => exact ih
      | perform j js s => exact settled_perform ih j

/-- A view lives on, or was dropped in the last episode. -/
inductive Lives (p : PanelId) (name : String) (config : Config) (s : Session)
    (es : List Episode) : Prop
  | on (x : Stage) (hv : s.views.get? name = some p) (hx : s.workspace.stage? p = some x)
      (hconfig : x.config = config) (h : x.Follows name es)
  | gone (e : Episode) (mounts : Nat) (hv : s.views.get? name ≠ some p)
      (hlast : es.getLast? = some e) (hdrop : e.call = some .drop)
      (h : Course name config.layout es none mounts)

theorem Life.lives (h : Life p name config m es) : Lives p name config m.session es := by
  induction h with
  | @made wall js s hr hp =>
      obtain ⟨held, hs⟩ := hr.sound
      subst hp
      refine .on _ ((views_addView s name config wall name).trans (if_pos rfl)) ?_ rfl
        (Stage.follows_made config name)
      exact stage?_of_made (portrait_addView_self hs name config wall)
  | @perform j js s es hlife hv ih =>
      have hr := hlife.reachable
      obtain ⟨held, hs⟩ := hr.sound
      cases ih with
      | gone e mounts hnot => exact absurd hv hnot
      | on x _ hx hconfig hfollows =>
          obtain ⟨heffects, hstage⟩ := layout_perform hs hr.titled hr.settled hv hx j
          have hnamed := named_perform hs hv j
          have hafter := hfollows.respond (s.call? p j)
          rw [← heffects] at hafter
          by_cases hdrop : s.call? p j = some .drop
          · have hcourse := hafter.course
            rw [hdrop] at hcourse
            refine .gone _ x.region.mounts (fun hv' => hnamed.1 hv' hdrop) List.getLast?_concat hdrop ?_
            rw [hdrop, ← hconfig]
            exact hcourse
          · exact .on _ (hnamed.2 hdrop) (hstage hdrop) ((x.config_respond ..).trans hconfig) hafter
  | @idle s m' es hlife hn ih =>
      cases hn with
      | call | takeLog =>
          cases ih with
          | on x hv hx hconfig h => exact .on x hv hx hconfig h
          | gone e mounts hv hlast hdrop h => exact .gone e mounts hv hlast hdrop h

/-- At every moment the life of a view has taken one of the courses: the layout that its
configuration names was made once, by the first call to show the view, if there was one,
was mounted from then until the first call to tear the view down or to drop it, and
was closed by that call.  What the region holds, and how often it was mounted, is as the
course says; when the view has been dropped, nothing is mounted any more. -/
theorem layout_life (h : Life p name config m es) :
    ∃ current mounts, Course name config.layout es current mounts ∧ mounts = timesCreated es ∧
      (m.session.views.get? name = some p → ∃ v, m.session.workspace.views.get? p = some v ∧
        v.config = config ∧ v.region.current = current ∧ v.region.mounts = mounts) ∧
      (m.session.views.get? name ≠ some p → current = none ∧
        ∃ e, es.getLast? = some e ∧ e.call = some .drop) := by
  cases h.lives with
  | on x hv hx hconfig hfollows =>
      obtain ⟨v, hview, rfl⟩ := Option.map_eq_some_iff.1 hx
      have hcourse := hfollows.course
      rw [hconfig] at hcourse
      exact ⟨_, _, hcourse, hcourse.mounts_eq, fun _ => ⟨v, hview, hconfig, rfl, rfl⟩,
        fun hnot => absurd hv hnot⟩
  | gone e mounts hv hlast hdrop hcourse =>
      exact ⟨_, _, hcourse, hcourse.mounts_eq, fun hv' => absurd hv' hv,
        fun _ => ⟨rfl, e, hlast, hdrop⟩⟩

/-- A view is torn down before it is shown, shown and torn down, shown once more, and
dropped. -/
def droppedView : Moment :=
  let calls : List Session.Step := [.view "v" { layout := "card" } false, .teardown "v",
    .update "v" .showView, .tick "v" none, .teardown "v", .showView "v", .dropView "v"]
  calls.foldl (fun m t => after ⟨[.step t], m.session⟩) ⟨[], {}⟩

/-- Its life: one layout was mounted, and closed before the view was dropped. -/
def droppedEpisodes : List Episode :=
  [⟨some .teardown, []⟩,
    ⟨some .showView, [.created "v" "card", .region "v" (.shown "card")]⟩,
    ⟨some .tick, []⟩,
    ⟨some .teardown, [.region "v" (.closed "card")]⟩,
    ⟨some .showView, []⟩,
    ⟨some .drop, []⟩]

theorem droppedView_life :
    Life 0 "v" { layout := "card" } droppedView droppedEpisodes ∧
      droppedView.session.views.get? "v" ≠ some 0 ∧
      ∃ current mounts, Course "v" "card" droppedEpisodes current mounts ∧
        mounts = timesCreated droppedEpisodes ∧
        (droppedView.session.views.get? "v" = some 0 → ∃ v,
          droppedView.session.workspace.views.get? 0 = some v ∧ v.config = { layout := "card" } ∧
          v.region.current = current ∧ v.region.mounts = mounts) ∧
        (droppedView.session.views.get? "v" ≠ some 0 → current = none ∧
          ∃ e, droppedEpisodes.getLast? = some e ∧ e.call = some .drop) := by
  have hmade : Life 0 "v" { layout := "card" } _ [] :=
    .made (reachable_empty.call rfl (.view "v" { layout := "card" } false)) rfl
  have htorn := hmade.call rfl rfl (.teardown "v")
  have hshown := htorn.call rfl rfl (.update "v" .showView)
  have hticked := hshown.call rfl rfl (.tick "v" none)
  have hclosed := hticked.call rfl rfl (.teardown "v")
  have hagain := hclosed.call rfl rfl (.showView "v")
  have hlife : Life 0 "v" { layout := "card" } droppedView droppedEpisodes :=
    hagain.call rfl rfl (.dropView "v")
  exact ⟨hlife, nofun, layout_life hlife⟩

end Moment

end DetailPanel
