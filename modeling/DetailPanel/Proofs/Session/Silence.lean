import DetailPanel.Proofs.Session.Conduct
import DetailPanel.Proofs.Session.Staleness

/-!
# Silence after teardown

A view listens from its making until it is torn down, and once it was torn down
nothing reaches it: neither the notices that were under way to it, nor what is
done to the selection, its results or the clock, nor the steps for the view
itself.  It makes no difference from where it was torn down: the next job of any
moment may do it, in the middle of an announcement too.

    Reachable m → the view of a name listens or was torn down          (Reachable.fitted)
    Reachable m → (u.state = .unbound ↔ m.TornDown p)                  (Reachable.unbound_iff)
    m.tornDown? = some p → Later m.after m' → the view is silent at m'  (teardown_silences)
-/

namespace DetailPanel

open Workspace Session

/-! ## Views that were not torn down -/

/-- A view is set up as its configuration says and shows its flags on its root; it
listens, or there is a reason that it does not. -/
def Portrait.Fitted (v : Portrait) (reason : Prop) : Prop :=
  ∃ t x, v.tracker = some t ∧ v.view = some x ∧ t.window = x.config.window ∧ t.Painted ∧
    (t.listening.isSome ∨ reason)

theorem Portrait.Fitted.imp {v : Portrait} {a b : Prop} (h : v.Fitted a) (hab : a → b) :
    v.Fitted b := by
  obtain ⟨t, x, ht, hx, hwindow, hpainted, hl⟩ := h
  exact ⟨t, x, ht, hx, hwindow, hpainted, hl.imp_right hab⟩

theorem Portrait.fitted_made (name : String) (config : Config) (wall : Bool) (reason : Prop) :
    (made name config wall).Fitted reason := ⟨_, _, rfl, rfl, rfl, rfl, .inl rfl⟩

theorem Portrait.Evolves.fitted {v v' : Portrait} {torn reason : Prop} (h : v.Evolves torn v')
    (hv : v.Fitted reason) : v'.Fitted (torn ∨ reason) := by
  obtain ⟨t, x, ht, hx, hwindow, hpainted, hl⟩ := hv
  obtain ⟨t', ht', he⟩ := h.tracker t ht
  have hconfig := h.config
  rw [hx] at hconfig
  obtain ⟨x', hx', hsame⟩ := Option.map_eq_some_iff.1 hconfig
  refine ⟨t', x', ht', hx', ?_, he.painted hpainted, ?_⟩
  · rw [he.window, hwindow, hsame]
  · by_cases htorn : torn
    · exact .inr (.inl htorn)
    · exact hl.imp (he.listening htorn) .inr

namespace Moment

variable {m m' : Moment} {p : PanelId} {name : String}

/-- The view that the next job tears down. -/
def tornDown? (m : Moment) : Option PanelId := m.agenda.head?.bind m.session.tornDown?

/-- The view was torn down in the run so far. -/
def TornDown (m : Moment) (p : PanelId) : Prop :=
  ∃ m₀, Reachable m₀ ∧ m₀.tornDown? = some p ∧ Later m₀.after m

theorem TornDown.next (h : m.TornDown p) (hn : Next m m') : m'.TornDown p := by
  obtain ⟨m₀, hr, htorn, hl⟩ := h
  exact ⟨m₀, hr, htorn, hl.tail hn⟩

/-- A view listens unless it was torn down. -/
theorem Reachable.fitted (hr : Reachable m) (hv : m.session.views.get? name = some p) :
    (m.session.workspace.portrait p).Fitted (m.TornDown p) := by
  induction hr generalizing name with
  | refl => cases hv
  | @tail m m' hr hn ih =>
      have hr : Reachable m := hr
      cases hn with
      | call t s => exact (ih hv).imp fun h => h.next (.call t s)
      | takeLog s => exact (ih hv).imp fun h => h.next (.takeLog s)
      | perform j js s =>
          obtain ⟨held, hs⟩ := hr.sound
          rcases evolves_or_made hs hv with ⟨hold, he⟩ | ⟨-, config, wall, hmade⟩
          · refine (he.fitted (ih hold)).imp ?_
            rintro (htorn | hbefore)
            · exact ⟨⟨j :: js, s⟩, hr, htorn, .refl⟩
            · exact hbefore.next (.perform j js s)
          · show ((perform j s).2.workspace.portrait p).Fitted _
            rw [hmade]
            exact Portrait.fitted_made ..

/-! ## Views that do not listen -/

/-- A panel is gone, or is a view with this tracker. -/
def Rests (t : Tracker) (p : PanelId) (s : Session) : Prop :=
  p < s.workspace.nextPanel ∧
    (s.workspace.trackers.get? p = none ∨
      (∃ name, s.views.get? name = some p) ∧ (s.workspace.portrait p).tracker = some t)

/-- A view that does not listen rests. -/
theorem rests_perform {t : Tracker} {held : Holdings} {s : Session} (hl : t.listening = none)
    (hs : s.Sound held) (h : Rests t p s) (j : Job) : Rests t p (perform j s).2 := by
  obtain ⟨hp, h⟩ := h
  have hages := (progress_perform hs j).toAges
  refine ⟨Nat.lt_of_lt_of_le hp hages.nextPanel, ?_⟩
  rcases h with hgone | ⟨⟨name, hv⟩, ht⟩
  · refine .inl (Option.eq_none_iff_forall_ne_some.2 fun u hu => ?_)
    obtain ⟨t, ht, -⟩ := hages.trackers p u hp hu
    rw [hgone] at ht
    cases ht
  · by_cases hv' : (perform j s).2.views.get? name = some p
    · rcases evolves_or_made hs hv' with ⟨-, he⟩ | ⟨hnew, -⟩
      · obtain ⟨t', ht', he'⟩ := he.tracker t ht
        exact .inr ⟨⟨name, hv'⟩, by rw [ht', he'.unbound hl]⟩
      · exact absurd hnew (Nat.ne_of_lt hp)
    · exact .inl (get?_perform_of_unnamed hv hv')

theorem Reachable.rests {t : Tracker} (hl : t.listening = none) (hr : Reachable m)
    (h : Rests t p m.session) (hlater : Later m m') : Rests t p m'.session := by
  induction hlater with
  | refl => exact h
  | @tail m₁ m₂ hlater hn ih =>
      cases hn with
      | call t s => exact ih
      | takeLog s => exact ih
      | perform j js s =>
          obtain ⟨held, hs⟩ := (hr.later hlater).sound
          exact rests_perform hl hs ih j

/-! ## Silence -/

/-- Nothing is heard or seen any more of a view that had this tracker. -/
structure Silenced (t : Tracker) (p : PanelId) (s : Session) : Prop where
  /-- As long as the view is there, it shows what it showed. -/
  shown : ∀ name, s.views.get? name = some p → ∃ u, s.workspace.trackers.get? p = some u ∧
    u.flags = t.flags ∧ u.root = t.root ∧ u.recomputes = t.recomputes ∧ u.state = .unbound ∧
      u.deadline = none
  /-- Whatever time it is given, a tick does nothing. -/
  tick : ∀ name time, s.views.get? name = some p → (s.begin (.tick name time)).1 = .bool false
  update_tick : ∀ name, s.views.get? name = some p →
    (s.begin (.update name .tick)).1 = .bool false
  /-- No channel has an entry of the view. -/
  entries : ∀ c, ∀ e ∈ (s.workspace.registry c).entries, e.2.panel? ≠ some p

theorem Rests.silenced {t : Tracker} {held : Holdings} {s : Session} (hs : s.Sound held)
    (h : Rests t.bare.silenced p s) : Silenced t p s := by
  have htracker : ∀ u, s.workspace.trackers.get? p = some u → u.bare = t.bare.silenced := by
    intro u hu
    rcases h.2 with hgone | ⟨-, ht⟩
    · rw [hgone] at hu
      cases hu
    · have hbare : (s.workspace.portrait p).tracker = some u.bare :=
        congrArg (Option.map Tracker.bare) hu
      exact Option.some.inj (hbare.symm.trans ht)
  have hunbound : ∀ u, s.workspace.trackers.get? p = some u → u.listening = none := fun u hu =>
    Option.map_eq_none_iff.1 (congrArg Tracker.listening (htracker u hu))
  have hidle : ∀ time, (s.workspace.poll p time).1 = false := by
    intro time
    unfold Workspace.poll
    split
    · rfl
    · rename_i u hu
      simp [Tracker.takeDue, Tracker.binding, hunbound u hu]
  refine ⟨fun name hv => ?_, fun name time hv => ?_, fun name hv => ?_, fun c e he hp => ?_⟩
  · obtain ⟨u, hu⟩ := Option.isSome_iff_exists.1 (hs.named.live .view name p hv)
    have hbare := htracker u hu
    refine ⟨u, hu, (congrArg Tracker.flags hbare :), (congrArg Tracker.root hbare :),
      (congrArg Tracker.recomputes hbare :), ?_, ?_⟩
    · rw [Tracker.state, hunbound u hu]
    · rw [Tracker.deadline, Tracker.binding, hunbound u hu]
      rfl
  · show (s.withView name (s.pollAt time)).1 = _
    rw [withView, hv]
    exact congrArg Answer.bool (hidle _)
  · show (s.withView name fun p => ((s.workspace.update p .tick).map Answer.bool id)).1 = _
    rw [withView, hv]
    exact congrArg Answer.bool (hidle _)
  · obtain ⟨u, hu, hmem⟩ := hs.wired.entries_of_mem he hp
    simp [Tracker.entries, hunbound u hu] at hmem

/-- The job that tears a view down leaves it resting. -/
theorem rests_of_tornDown {held : Holdings} {s : Session} {j : Job} (hs : s.Sound held)
    (h : s.tornDown? j = some p) : ∃ t, s.workspace.trackers.get? p = some t ∧
      Rests t.bare.silenced p (perform j s).2 := by
  have hnext := (progress_perform hs j).toAges.nextPanel
  have htear : ∀ {name}, s.views.get? name = some p → (perform j s).2.views = s.views →
      (perform j s).2.workspace.portrait p = (s.workspace.teardown p).portrait p →
      ∃ t, s.workspace.trackers.get? p = some t ∧ Rests t.bare.silenced p (perform j s).2 := by
    intro name hv hviews hportrait
    obtain ⟨t, ht⟩ := Option.isSome_iff_exists.1 (hs.named.live .view name p hv)
    refine ⟨t, ht, Nat.lt_of_lt_of_le (hs.view_lt hv) hnext, .inr ⟨⟨name, hviews ▸ hv⟩, ?_⟩⟩
    rw [hportrait, portrait_teardown, if_pos rfl]
    show ((s.workspace.trackers.get? p).map Tracker.bare).map Tracker.silenced = _
    rw [ht]
    rfl
  unfold Session.tornDown? at h
  split at h
  · refine htear h (kept_withView views fun _ => rfl) ?_
    simp only [perform, begin, withView, h]
    rfl
  · refine htear h (kept_withView views fun _ => rfl) ?_
    simp only [perform, begin, withView, h]
    rfl
  · cases h

theorem rests_later (hr : Reachable m) (h : m.tornDown? = some p) (hl : Later m.after m') :
    ∃ t, m.session.workspace.trackers.get? p = some t ∧ Rests t.bare.silenced p m'.session := by
  obtain ⟨agenda, s⟩ := m
  cases agenda with
  | nil => cases h
  | cons j js =>
      obtain ⟨held, hs⟩ := hr.sound
      obtain ⟨t, ht, hrests⟩ := rests_of_tornDown hs h
      exact ⟨t, ht, hr.after.rests (t := t.bare.silenced) rfl hrests hl⟩

/-- A view does not listen if, and only if, it was torn down. -/
theorem Reachable.unbound_iff {u : Tracker} (hr : Reachable m)
    (hv : m.session.views.get? name = some p) (hu : m.session.workspace.trackers.get? p = some u) :
    u.state = .unbound ↔ m.TornDown p := by
  constructor
  · intro hstate
    obtain ⟨t, x, ht, -, -, -, hl⟩ := hr.fitted hv
    obtain rfl := Option.some.inj (ht.symm.trans (congrArg (Option.map Tracker.bare) hu))
    refine hl.resolve_left fun hlistens => ?_
    rw [u.isSome_listening_bare] at hlistens
    obtain ⟨l, hl⟩ := Option.isSome_iff_exists.1 hlistens
    cases hb : l.binding <;> simp [Tracker.state, hl, hb] at hstate
  · rintro ⟨m₀, hr₀, htorn, hlater⟩
    obtain ⟨held, hs⟩ := hr.sound
    obtain ⟨t, -, hrests⟩ := rests_later hr₀ htorn hlater
    obtain ⟨u', hu', -, -, -, hstate, -⟩ := (hrests.silenced hs).shown name hv
    obtain rfl := Option.some.inj (hu.symm.trans hu')
    exact hstate

/-- Once a view was torn down, at whatever moment, it is silent at all later ones. -/
theorem teardown_silences (hr : Reachable m) (h : m.tornDown? = some p) (hl : Later m.after m') :
    ∃ t, m.session.workspace.trackers.get? p = some t ∧ Silenced t p m'.session := by
  obtain ⟨t, ht, hrests⟩ := rests_later hr h hl
  obtain ⟨held, hs⟩ := (hr.after.later hl).sound
  exact ⟨t, ht, hrests.silenced hs⟩

/-- An observer, told that nothing is selected any more, tears a view down that has a
recompute pending and is to be told next. -/
def interruptedView : Moment :=
  let added := after ⟨[.step (.addResult "a" "A" true)], {}⟩
  let script : Script Session.Step := .phase 1 [] (.onFirst 1 [.teardown "v"])
  let observed := after ⟨[.step (.observe "o" .result script)], added.session⟩
  let made := after ⟨[.step (.view "v" {} false)], observed.session⟩
  let selected := after^[3] ⟨[.step (.select (some "a"))], made.session⟩
  let armed := after^[2] ⟨[.step (.fetch "a" .complete)], selected.session⟩
  after^[2] ⟨[.step (.select none)], armed.session⟩

/-- The announcement is finished, the view is rendered, and the clock passes the deadline. -/
def tickedView : Moment :=
  let told := after^[2] interruptedView
  let rendered := after ⟨[.step (.render "v")], told.session⟩
  let advanced := after ⟨[.step (.advance 1000)], rendered.session⟩
  ⟨[.step (.tick "v" none)], advanced.session⟩

theorem tickedView_silenced :
    Reachable interruptedView ∧ interruptedView.tornDown? = some 0 ∧
      interruptedView.pending = [⟨.resync 0, .resultChanged (some 1) none⟩] ∧
      interruptedView.session.workspace.deadline 0 = some 60 ∧
      Later interruptedView.after tickedView ∧
      ∃ t, interruptedView.session.workspace.trackers.get? 0 = some t ∧
        Silenced t 0 tickedView.session := by
  have hadded := (reachable_empty.call rfl (.addResult "a" "A" true)).after
  have hobserved := (hadded.call rfl (.observe "o" .result
    (.phase 1 [] (.onFirst 1 [.teardown "v"])))).after
  have hmade := (hobserved.call rfl (.view "v" {} false)).after
  have hselected := (hmade.call rfl (.select (some "a"))).after.after.after
  have harmed := (hselected.call rfl (.fetch "a" .complete)).after.after
  have hcut : Reachable interruptedView := (harmed.call rfl (.select none)).after.after
  have htold : Later interruptedView.after (after^[2] interruptedView) := later_after _
  have hrendered := (htold.trans (later_call rfl (.render "v"))).trans (later_after _)
  have hadvanced := (hrendered.trans (later_call rfl (.advance 1000))).trans (later_after _)
  have hlater : Later interruptedView.after tickedView :=
    hadvanced.trans (later_call rfl (.tick "v" none))
  exact ⟨hcut, rfl, rfl, rfl, hlater, teardown_silences hcut rfl hlater⟩

end Moment

end DetailPanel
