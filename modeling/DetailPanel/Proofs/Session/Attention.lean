import DetailPanel.Proofs.Session.Moments
import DetailPanel.Proofs.Workspace.UpToDate
import Mathlib.Logic.Function.Iterate

/-!
# No update is lost

A panel is attentive once it has handled a change of result, for as long as it
then listens and nobody says behind its back that the current result is
searching, or that it is not.  At every moment an attentive panel is up to date
but for what is owed to it, however deep the notices are nested; so when no
delivery is under way, it is up to date.

    Attentive p m → m.session.workspace.UpToDate p m.pending     (Attentive.upToDate)
-/

namespace DetailPanel

open Workspace

namespace Moment

open Session

/-- A panel has handled a change of result, has listened since then, and nobody
has said anything about the current result without an announcement. -/
inductive Attentive (p : PanelId) : Moment → Prop
  | resync {m : Moment} (hr : Reachable m) (hj : m.resynced? = some p)
      (hl : m.after.session.workspace.isListening p) : Attentive p m.after
  | next {m m' : Moment} (h : Attentive p m) (hn : Next m m') (hs : m.silences = false)
      (hl : m'.session.workspace.isListening p) : Attentive p m'

variable {p : PanelId} {m m' : Moment}

theorem Attentive.reachable (h : Attentive p m) : Reachable m := by
  induction h with
  | resync hr => exact hr.after
  | next _ hn _ _ ih => exact ih.next hn

theorem Attentive.after (h : Attentive p m) (hs : m.silences = false)
    (hl : m.after.session.workspace.isListening p) : Attentive p m.after := by
  obtain ⟨agenda, s⟩ := m
  cases agenda with
  | nil => exact h
  | cons j js => exact h.next (.perform j js s) hs hl

theorem upToDate_of_resynced {s : Session} {j : Job} (hj : s.resynced? j = some p)
    (hl : (perform j s).2.workspace.isListening p) (ds : List Delivery) :
    (perform j s).2.workspace.UpToDate p ds := by
  obtain ⟨w, -, hw⟩ := perform_of_resynced hj
  rw [isListening_congr (congrArg _ hw.trackers), isListening_modify (trackers_resync w p)] at hl
  · exact (upToDate_resync hl).panelsOnly hw.panelsOnly (congrArg _ hw.trackers)
  · intro t
    exact t.isSome_listening_resynced ..

/-- A job keeps up to date whoever listens before and after, but for what is owed. -/
theorem upToDate_perform {s : Session} {held : Holdings} (hs : s.Sound held) {j : Job}
    {js : List Job} (h : s.workspace.UpToDate p (deliveries (j :: js)))
    (hj : s.silences j = false) (hl : (perform j s).2.workspace.isListening p) :
    (perform j s).2.workspace.UpToDate p (deliveries ((perform j s).1 ++ js)) := by
  rw [deliveries_append]
  cases j with
  | deliver d =>
      rw [perform, deliveries_deliver]
      rw [deliveries_cons_deliver] at h
      have hviews := viewsOnly_deliver s d
      exact h.deliver.panelsOnly hviews.panelsOnly (congrArg _ hviews.trackers)
  | step t =>
      rcases bind_or_advances hs (.step t) with ⟨name, ⟨⟩⟩ | ⟨held', ms, -⟩
      · obtain ⟨hnil, w, hw, hviews⟩ := perform_bind s name
        rw [hnil]
        refine UpToDate.panelsOnly ?_ hviews.panelsOnly (congrArg _ hviews.trackers)
        obtain rfl | ⟨q, rfl⟩ := hw
        · exact h
        · -- a panel that listens is left as it is
          refine h.modify (.bind _ q) (trackers_bind _ q) fun t _ hu => ?_
          rwa [if_pos hu.listening]
      · exact h.moves hs.wired ms (by simp [licence, hj]) hl

theorem Attentive.upToDate (h : Attentive p m) : m.session.workspace.UpToDate p m.pending := by
  induction h with
  | @resync m hr hj hl =>
      obtain ⟨agenda, s⟩ := m
      cases agenda with
      | nil => cases hj
      | cons j js => exact upToDate_of_resynced hj hl _
  | next h hn hs hl ih =>
      cases hn with
      | call t s => exact ih
      | takeLog s => exact ih
      | perform j js s =>
          obtain ⟨held, hsound⟩ := h.reachable.sound
          exact upToDate_perform hsound ih hs hl

theorem Attentive.call (h : Attentive p m) (hm : m.agenda = []) (t : Session.Step) :
    Attentive p ⟨[.step t], m.session⟩ := by
  have hl := h.upToDate.isListening
  obtain ⟨agenda, s⟩ := m
  obtain rfl : agenda = [] := hm
  exact h.next (.call t s) rfl hl

/-- When no delivery is under way, an attentive panel is bound to the current
result if there is one, shows whether there is a metacard, and shows all flags
that the selection calls for unless a throttled recompute is pending. -/
theorem attentive_follows_selection (h : Attentive p m) (hm : m.pending = []) :
    ∃ t, m.session.workspace.trackers.get? p = some t ∧
      t.state = m.session.workspace.result.elim .idle .watching ∧
      t.flags.notFound = m.session.workspace.card.isNone ∧
      (t.deadline.isSome ∨ t.flags = m.session.workspace.liveFlags) := by
  have howed : ∀ s, ¬ Owed m.pending s := by
    rintro s ⟨n, hn⟩
    simp [hm] at hn
  obtain ⟨t, ht, hu⟩ := h.upToDate
  refine ⟨t, ht, ?_, ?_, ?_⟩
  · have hresult := hu.watching.resolve_right (howed _)
    obtain ⟨l, hl⟩ := Option.isSome_iff_exists.1 hu.listening
    rw [← hresult, Tracker.state, Tracker.binding, hl]
    cases hb : l.binding <;> simp [hb]
  · exact hu.notFound.resolve_right (not_or.2 ⟨howed _, howed _⟩)
  · rcases hu.flags with hlive | hdeadline | ho | ho | ⟨b, -, ho⟩
    · exact .inr hlive
    · exact .inl hdeadline
    · exact absurd ho (howed _)
    · exact absurd ho (howed _)
    · exact absurd ho (howed _)

/-- A view is shown; then a result is selected, and an observer that hears of it
clears the selection from inside the announcement. -/
def clearedInside : Moment :=
  let setup : List Session.Step := [.addResult "a" "A" true, .view "v" {} false,
    .observe "o" .result (.onFirst 1 [.select none]), .showView "v"]
  let shown := setup.foldl (fun m t => after ⟨[.step t], m.session⟩) ⟨[], {}⟩
  after^[7] ⟨[.step (.select (some "a"))], shown.session⟩

theorem clearedInside_follows_selection :
    Attentive 0 clearedInside ∧ clearedInside.pending = [] ∧
      ∃ t, clearedInside.session.workspace.trackers.get? 0 = some t ∧
        t.state = clearedInside.session.workspace.result.elim .idle .watching ∧
        t.flags.notFound = clearedInside.session.workspace.card.isNone ∧
        (t.deadline.isSome ∨ t.flags = clearedInside.session.workspace.liveFlags) := by
  have hadded := (reachable_empty.call rfl (.addResult "a" "A" true)).after
  have hmade := (hadded.call rfl (.view "v" {} false)).after
  have hobserved := (hmade.call rfl (.observe "o" .result (.onFirst 1 [.select none]))).after
  have hshown : Attentive 0 _ := .resync (hobserved.call rfl (.showView "v")) rfl rfl
  have hselected := (hshown.call rfl (.select (some "a"))).after rfl rfl
  have htold := (hselected.after rfl rfl).after rfl rfl
  have hcleared := ((htold.after rfl rfl).after rfl rfl).after rfl rfl
  have hdone : Attentive 0 clearedInside := hcleared.after rfl rfl
  exact ⟨hdone, rfl, attentive_follows_selection hdone rfl⟩

end Moment

end DetailPanel
