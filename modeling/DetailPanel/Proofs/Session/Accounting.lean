import DetailPanel.Proofs.Session.Moments
import DetailPanel.Proofs.Table
import Mathlib.Logic.Function.Iterate

/-!
# Every subscription is accounted for

A channel lists each panel that listens on it once, each observer that is
subscribed to it once, and nobody else (`Accounted`).  So the length of the list
is the number of those panels and observers, however often trackers were bound,
rebound, unbound and dropped, and however deep the notices are nested.

    s.Sound held → s.Tabled → s.Accounted                 (Sound.accounted)
    Reachable m → m.session.Accounted                     (subscriptions_accounted)
-/

namespace DetailPanel

open Workspace

/-! ## What a tracker has on a channel -/

namespace Tracker

variable {t : Tracker} {p : PanelId} {c : Channel} {e e' : Nat × Subscriber}

/-- A tracker that is bound listens on both channels of the selection, and on that of the
result that it watches. -/
def listensOn (t : Tracker) : Channel → Bool
  | .result | .card => t.listening.isSome
  | .lifecycle r => t.state = .watching r

theorem entries_of_listening {l : Listening} (hl : t.listening = some l) (p : PanelId) :
    t.entries p = (.result, l.onResult, .resync p) :: (.card, l.onCard, .repaint p) ::
      l.binding.toList.map fun b => (.lifecycle b.result, b.subscription, .arm p b.generation) := by
  simp [entries, hl]

theorem listensOn_iff : t.listensOn c ↔ ∃ e, (c, e) ∈ t.entries p := by
  cases hl : t.listening with
  | none => cases c <;> simp [listensOn, entries, state, hl]
  | some l =>
      rw [entries_of_listening hl]
      cases c with
      | result | card => simp [listensOn, hl]
      | lifecycle r => cases hb : l.binding <;> simp [listensOn, state, hl, hb, eq_comm]

/-- A tracker has one entry on a channel at most. -/
theorem entry_unique (h : (c, e) ∈ t.entries p) (h' : (c, e') ∈ t.entries p) : e = e' := by
  cases hl : t.listening with
  | none => simp [entries, hl] at h
  | some l =>
      rw [entries_of_listening hl] at h h'
      cases c with
      | result | card => simp_all
      | lifecycle r => cases hb : l.binding <;> simp_all

end Tracker

/-! ## Trackers and observers are listed once -/

namespace Workspace

variable {l : Licence} {held held' : Holdings} {w w' : Workspace} {ds : List Delivery}

theorem distinct_of_modify {p : PanelId} {f : Tracker → Tracker} (h : w.trackers.Distinct)
    (htr : w'.trackers = w.trackers.modify p f) : w'.trackers.Distinct := by
  rw [htr]
  exact h.modify p f

theorem Move.distinct (m : Move l held w ds held' w') (h : w.trackers.Distinct) :
    w'.trackers.Distinct := by
  cases m with
  | scenery hv => rwa [hv.trackers]
  | setClock | addResult | setSearching | announce | fetch => exact h
  | select r => rwa [trackers_selectResult]
  | selectCard card => rwa [trackers_selectCard]
  | addTracker => exact h.set _ _
  | addListener name window wall =>
      have hadd : (w.addTracker name window wall).2.trackers.Distinct := h.set _ _
      exact distinct_of_modify hadd (trackers_bind _ _)
  | unbind p => exact distinct_of_modify h (trackers_unbind w p)
  | resync p => exact distinct_of_modify h (trackers_resync w p)
  | repaint p => exact distinct_of_modify h (trackers_repaint w p)
  | recompute p => exact distinct_of_modify h (trackers_recompute w p)
  | arm p generation => exact distinct_of_modify h (trackers_arm w p generation)
  | poll p time => exact distinct_of_modify h (trackers_poll w p time)
  | forget p => exact h.erase p
  | observe => rwa [trackers_subscribe]
  | cancel => rwa [trackers_cancel]

theorem Moves.distinct (ms : Moves l held w ds held' w') (h : w.trackers.Distinct) :
    w'.trackers.Distinct := by
  induction ms with
  | nil => exact h
  | cons m _ ih => exact ih (m.distinct h)

end Workspace

namespace Session

variable {held : Holdings} {s : Session}

/-- Every tracker and every observer is listed once. -/
structure Tabled (s : Session) : Prop where
  trackers : s.workspace.trackers.Distinct
  observers : s.observers.Distinct

/-- Observers come by a step that observes, and go by one that does not any more. -/
theorem observers_begin (s : Session) (t : Step) :
    (∃ name topic script c, t = .observe name topic script ∧ s.channel? topic = some c) ∨
      (s.begin t).2.2.callbacks = s.callbacks ∧
        ((s.begin t).2.2.observers = s.observers ∨
          ∃ name, (s.begin t).2.2.observers = s.observers.erase name) := by
  have hkept : ∀ {s' : Session}, (s'.callbacks, s'.observers) = (s.callbacks, s.observers) →
      s'.callbacks = s.callbacks ∧
        (s'.observers = s.observers ∨ ∃ name, s'.observers = s.observers.erase name) :=
    fun heq => ⟨congrArg Prod.fst heq, .inl (congrArg Prod.snd heq)⟩
  cases t with
  | observe name topic script =>
      simp only [begin]
      split
      · rename_i c hc
        exact .inl ⟨name, topic, script, c, rfl, hc⟩
      · exact .inr (hkept rfl)
  | unobserve name =>
      simp only [begin, unobserve]
      split
      · exact .inr ⟨rfl, .inr ⟨name, rfl⟩⟩
      · exact .inr (hkept rfl)
  | dropView name =>
      simp only [begin, dropView]
      split <;> exact .inr (hkept rfl)
  | dropTracker name =>
      simp only [begin, dropTracker]
      split <;> exact .inr (hkept rfl)
  | addResult | view | tracker | snapshot | reflect => exact .inr (hkept rfl)
  | _ => exact .inr (hkept (kept_begin (fun s => (s.callbacks, s.observers)) (fun _ => rfl) rfl))

theorem observers_perform (s : Session) (j : Job) :
    (∃ name topic script c, j = .step (.observe name topic script) ∧ s.channel? topic = some c) ∨
      (perform j s).2.callbacks.length = s.callbacks.length ∧
        ((perform j s).2.observers = s.observers ∨
          ∃ name, (perform j s).2.observers = s.observers.erase name) := by
  cases j with
  | step t =>
      rcases s.observers_begin t with ⟨name, topic, script, c, rfl, hc⟩ | ⟨hcallbacks, hobs⟩
      · exact .inl ⟨name, topic, script, c, rfl, hc⟩
      · exact .inr ⟨congrArg List.length hcallbacks, hobs⟩
  | deliver d =>
      simp only [perform, deliver]
      split
      · unfold tell
        split
        · exact .inr ⟨rfl, .inl rfl⟩
        · exact .inr ⟨List.length_set, .inl rfl⟩
      · exact .inr ⟨rfl, .inl rfl⟩

theorem distinct_observers_perform (h : s.observers.Distinct) (j : Job) :
    (perform j s).2.observers.Distinct := by
  rcases s.observers_perform j with ⟨name, topic, script, c, rfl, hc⟩ | ⟨-, hobs | ⟨name, hobs⟩⟩
  · show (s.begin (.observe name topic script)).2.2.observers.Distinct
    simp only [begin, hc]
    exact h.set _ _
  · rwa [hobs]
  · rw [hobs]
    exact h.erase name

theorem Tabled.perform (h : s.Tabled) (hs : s.Sound held) (j : Job) : (perform j s).2.Tabled where
  trackers := by
    rcases bind_or_advances hs j with ⟨name, rfl⟩ | ⟨held', ms, -⟩
    · obtain ⟨-, w, rfl | ⟨p, rfl⟩, hviews⟩ := perform_bind s name
      · rw [hviews.trackers]
        exact h.trackers
      · rw [hviews.trackers]
        exact distinct_of_modify h.trackers (trackers_bind _ p)
    · exact ms.distinct h.trackers
  observers := distinct_observers_perform h.observers j

end Session

theorem Moment.Reachable.tabled {m : Moment} (hr : Reachable m) : m.session.Tabled := by
  induction hr with
  | refl => exact ⟨Table.distinct_nil, Table.distinct_nil⟩
  | tail hr hn ih =>
      cases hn with
      | call | takeLog => exact ⟨ih.trackers, ih.observers⟩
      | perform j js s =>
          obtain ⟨held, hs⟩ := Reachable.sound hr
          exact ih.perform hs j

/-! ## Who is listed on a channel -/

namespace Registry

variable {κ β : Type}

/-- The entries that are filed under something, and the others. -/
theorem size_eq_filed (r : Registry κ) (f : κ → Option β) :
    r.size = (r.subscribers.filterMap f).length +
      (r.entries.filter fun e => (f e.2).isNone).length := by
  rw [size, subscribers, List.length_filterMap_eq_countP, List.countP_map,
    ← List.countP_eq_length_filter, List.length_eq_countP_add_countP fun e => (f e.2).isSome]
  refine congrArg _ (List.countP_congr fun e _ => ?_)
  simp

end Registry

namespace Session

variable {held : Holdings} {s : Session}

/-- Who listens on a channel, one entry each. -/
structure Accounted (s : Session) : Prop extends s.Tabled where
  /-- The panels with an entry are those that listen, each with one. -/
  panels : ∀ c, ((s.workspace.registry c).subscribers.filterMap Subscriber.panel?).Perm
    ((s.workspace.trackers.filter (·.2.listensOn c)).map (·.1))
  /-- The other entries are those that observers hold, each by one handle. -/
  outside : ∀ c, (((s.workspace.registry c).entries.filter (·.2.panel?.isNone)).map (·.1)).Perm
    ((s.observers.filter (·.2.channel = c)).map (·.2.id))
  result : s.workspace.onResult.size = s.workspace.trackers.countP (·.2.listening.isSome) +
    s.observers.countP (·.2.channel = .result)
  card : s.workspace.onCard.size = s.workspace.trackers.countP (·.2.listening.isSome) +
    s.observers.countP (·.2.channel = .card)
  lifecycle : ∀ r h, s.workspace.results.get? r = some h →
    h.listeners.size = s.workspace.trackers.countP (·.2.state = .watching r) +
      s.observers.countP (·.2.channel = .lifecycle r)

theorem Sound.panels_perm (hs : s.Sound held) (ht : s.Tabled) (c : Channel) :
    ((s.workspace.registry c).subscribers.filterMap Subscriber.panel?).Perm
      ((s.workspace.trackers.filter (·.2.listensOn c)).map (·.1)) := by
  refine (List.perm_ext_iff_of_nodup ?_ ?_).2 fun p => ?_
  · -- two entries of one panel are one entry
    rw [Registry.subscribers, List.filterMap_map]
    refine List.Pairwise.filterMap _ (fun a b hab p hp q hq => ?_)
      ((hs.wired.ascending c).ordered.imp_of_mem fun ha hb hab => (⟨ha, hb, hab⟩ : _ ∧ _ ∧ _))
    rintro rfl
    obtain ⟨ha, hb, hlt⟩ := hab
    obtain ⟨t, ht, hat⟩ := hs.wired.entries_of_mem ha hp
    obtain ⟨u, hu, hbu⟩ := hs.wired.entries_of_mem hb hq
    obtain rfl := Option.some.inj (ht.symm.trans hu)
    rw [Tracker.entry_unique hat hbu] at hlt
    exact Nat.lt_irrefl _ hlt
  · exact ht.trackers.sublist (List.filter_sublist.map _)
  · simp only [Registry.subscribers, List.mem_filterMap, List.mem_map, List.mem_filter]
    constructor
    · rintro ⟨_, ⟨e, he, rfl⟩, hp⟩
      obtain ⟨t, hget, hmem⟩ := hs.wired.entries_of_mem he hp
      exact ⟨(p, t), ⟨ht.trackers.mem_iff.2 hget, Tracker.listensOn_iff.2 ⟨e, hmem⟩⟩, rfl⟩
    · rintro ⟨⟨p, t⟩, ⟨hmem, hl⟩, rfl⟩
      obtain ⟨e, he⟩ := (Tracker.listensOn_iff (p := p)).1 hl
      exact ⟨e.2, ⟨e, hs.wired.mem_of_entries (ht.trackers.mem_iff.1 hmem) he, rfl⟩,
        Tracker.panel_of_mem_entries he⟩

theorem Sound.outside_perm (hs : s.Sound held) (ht : s.Tabled) (c : Channel) :
    (((s.workspace.registry c).entries.filter (·.2.panel?.isNone)).map (·.1)).Perm
      ((s.observers.filter (·.2.channel = c)).map (·.2.id)) := by
  refine (List.perm_ext_iff_of_nodup ?_ ?_).2 fun id => ?_
  · exact List.pairwise_map.2
      (((hs.wired.ascending c).ordered.filter _).imp fun hlt => Nat.ne_of_lt hlt)
  · -- one handle goes by one name
    refine List.pairwise_map.2 ((((List.pairwise_map.1 ht.observers).filter _).imp_of_mem ?_))
    rintro ⟨n, h⟩ ⟨n', h'⟩ hmem hmem' hne hid
    obtain ⟨hn, hc⟩ := List.mem_filter.1 hmem
    obtain ⟨hn', hc'⟩ := List.mem_filter.1 hmem'
    obtain ⟨c₁, id₁⟩ := h
    obtain ⟨c₂, id₂⟩ := h'
    obtain rfl : c₁ = c := by simpa using hc
    obtain rfl : c₂ = c₁ := by simpa using hc'
    obtain rfl : id₁ = id₂ := hid
    exact hne (hs.observed.inj n n' _ (ht.observers.mem_iff.1 hn) (ht.observers.mem_iff.1 hn'))
  · simp only [List.mem_map, List.mem_filter, Option.isNone_iff_eq_none, decide_eq_true_eq]
    constructor
    · rintro ⟨e, ⟨he, hout⟩, rfl⟩
      rcases (hs.wired.mem_entries c e).1 he with ⟨p, t, -, hmine⟩ | hheld
      · rw [Tracker.panel_of_mem_entries hmine] at hout
        cases hout
      · obtain ⟨name, hname⟩ := hs.observed.named c e hheld
        exact ⟨(name, ⟨c, e.1⟩), ⟨ht.observers.mem_iff.2 hname, rfl⟩, rfl⟩
    · rintro ⟨⟨name, h⟩, ⟨hmem, rfl⟩, rfl⟩
      obtain ⟨k, hk⟩ := hs.observed.entry name h (ht.observers.mem_iff.1 hmem)
      exact ⟨_, ⟨(hs.wired.mem_entries _ _).2 (.inr hk), rfl⟩, rfl⟩

theorem Sound.size_eq (hs : s.Sound held) (ht : s.Tabled) (c : Channel) :
    (s.workspace.registry c).size = s.workspace.trackers.countP (·.2.listensOn c) +
      s.observers.countP (·.2.channel = c) := by
  have hpanels := (hs.panels_perm ht c).length_eq
  have houtside := (hs.outside_perm ht c).length_eq
  rw [List.length_map, List.length_map] at houtside
  rw [List.length_map] at hpanels
  rw [Registry.size_eq_filed _ Subscriber.panel?, hpanels, houtside,
    List.countP_eq_length_filter, List.countP_eq_length_filter]

theorem Sound.accounted (hs : s.Sound held) (ht : s.Tabled) : s.Accounted where
  toTabled := ht
  panels := hs.panels_perm ht
  outside := hs.outside_perm ht
  result := hs.size_eq ht .result
  card := hs.size_eq ht .card
  lifecycle r h hr := by
    have hreg : s.workspace.registry (.lifecycle r) = h.listeners := by simp [registry, hr]
    rw [← hreg]
    exact hs.size_eq ht (.lifecycle r)

end Session

namespace Moment

open Session

/-- At every moment, also in the middle of announcements, each channel has one entry
for each panel that listens on it and one for each observer subscribed to it. -/
theorem subscriptions_accounted {m : Moment} (hr : Reachable m) : m.session.Accounted := by
  obtain ⟨held, hs⟩ := hr.sound
  exact hs.accounted hr.tabled

/-- A tracker and a view follow a result; an observer that hears of it unbinds the
tracker and binds it again, and is about to drop the view. -/
def reboundInside : Moment :=
  let setup : List Session.Step := [.addResult "a" "A" false, .tracker "t" 60, .bind "t",
    .view "v" {} false, .observe "l" (.lifecycle "a") .silent,
    .observe "o" .result (.onFirst 1 [.unbind "t", .bind "t", .dropView "v"])]
  let ready := setup.foldl (fun m t => after ⟨[.step t], m.session⟩) ⟨[], {}⟩
  after^[6] ⟨[.step (.select (some "a"))], ready.session⟩

theorem reboundInside_accounted :
    Reachable reboundInside ∧ reboundInside.agenda.length = 1 ∧
      reboundInside.session.workspace.listenerCount = 3 + 2 ∧
      (reboundInside.session.workspace.registry (.lifecycle 1)).size = 1 + 1 ∧
      reboundInside.session.Accounted := by
  have hadded := (reachable_empty.call rfl (.addResult "a" "A" false)).after
  have hmade := (hadded.call rfl (.tracker "t" 60)).after
  have hbound := (hmade.call rfl (.bind "t")).after
  have hviewed := (hbound.call rfl (.view "v" {} false)).after
  have hlistening := (hviewed.call rfl (.observe "l" (.lifecycle "a") .silent)).after
  have hready := (hlistening.call rfl
    (.observe "o" .result (.onFirst 1 [.unbind "t", .bind "t", .dropView "v"]))).after
  have htold := (hready.call rfl (.select (some "a"))).after.after.after.after
  have hdone : Reachable reboundInside := htold.after.after
  exact ⟨hdone, rfl, rfl, rfl, subscriptions_accounted hdone⟩

end Moment

end DetailPanel
