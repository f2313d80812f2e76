import DetailPanel.Proofs.Session.Accounting
import DetailPanel.Proofs.Workspace.Portrait

/-!
# Announcements to panels

Where the observers only look on, an announcement comes to each panel that
listens on its channel once, and a panel that is told changes nothing of another
one.  So it makes no difference who else is told, and in which order: every panel
makes of its own portrait what it would make of it alone.

    Told s ds (machine.run (ds.map .deliver) s)                          (told_run)
    (machine.run ((s.workspace.announce c n).map .deliver) s).workspace.portrait p =
      (s.workspace.portrait p).heard s.workspace.scene c                 (portrait_announce)
-/

namespace DetailPanel

open Workspace

/-! ## What a panel makes of an announcement -/

namespace Tracker

/-- What a tracker makes of an announcement on a channel that it listens on. -/
def heard (t : Tracker) (c : Scene) : Channel → Tracker
  | .result => t.followed c
  | .card => t.repainted c.live
  | .lifecycle r => t.notified r c.clock

theorem listensOn_bare (t : Tracker) (c : Channel) : t.bare.listensOn c = t.listensOn c := by
  cases c with
  | result | card => exact isSome_listening_bare t
  | lifecycle r => simp only [listensOn, state_bare]

/-- A tracker that does not listen on the channel takes no notice. -/
theorem heard_of_not_listensOn {t : Tracker} {c : Channel} (h : ¬ t.listensOn c) (x : Scene) :
    t.heard x c = t := by
  cases c with
  | result => exact if_neg h
  | card => exact if_neg h
  | lifecycle r =>
      refine notified_of_unbound (fun hr => h ?_) _
      obtain ⟨b, hb, rfl⟩ := Option.map_eq_some_iff.1 hr
      obtain ⟨l, hl, hlb⟩ := Option.bind_eq_some_iff.1 hb
      simp [listensOn, state, hl, hlb]

end Tracker

def Portrait.heard (v : Portrait) (x : Scene) (c : Channel) : Portrait :=
  v.mapTracker (·.heard x c)

namespace Workspace

variable {held : Holdings} {w : Workspace} {c : Channel} {p : PanelId} {t : Tracker}

/-- A delivery changes no panel but the one that it is for. -/
theorem get?_deliver_of_ne {d : Delivery} (h : d.subscriber.panel? ≠ some p) :
    (w.deliver d).trackers.get? p = w.trackers.get? p := by
  have hother : ∀ {q : PanelId} {f : Tracker → Tracker}, some q ≠ some p →
      (w.trackers.modify q f).get? p = w.trackers.get? p := by
    intro q f hne
    rw [Table.get?_modify, if_neg]
    rintro rfl
    exact hne rfl
  obtain ⟨subscriber, n⟩ := d
  cases subscriber with
  | resync q =>
      show (w.resync q).trackers.get? p = _
      rw [trackers_resync]
      exact hother h
  | repaint q =>
      show (w.repaint q).trackers.get? p = _
      rw [trackers_repaint]
      exact hother h
  | arm q generation => exact hother h
  | observer k => rfl

theorem PanelsOnly.deliver (w : Workspace) (d : Delivery) : PanelsOnly w (w.deliver d) := by
  obtain ⟨subscriber, n⟩ := d
  cases subscriber with
  | resync q => exact .resync w q
  | repaint q => exact .repaint w q
  | arm q generation => exact .arm w q generation
  | observer k => exact .refl w

/-- What comes to a panel by its entry on a channel. -/
theorem portrait_deliver {e : Nat × Subscriber} (ht : w.trackers.get? p = some t)
    (he : (c, e) ∈ t.entries p) (n : Notice) :
    (w.deliver ⟨e.2, n⟩).portrait p = (w.portrait p).heard w.scene c := by
  obtain ⟨l, hl⟩ : ∃ l, t.listening = some l := by
    refine Option.ne_none_iff_exists'.1 fun hnone => ?_
    simp [Tracker.entries, hnone] at he
  rw [Tracker.entries_of_listening hl] at he
  rcases List.mem_cons.1 he with ⟨rfl, rfl⟩ | he
  · exact (w.portrait_resync p p).trans (if_pos rfl)
  rcases List.mem_cons.1 he with ⟨rfl, rfl⟩ | he
  · exact (w.portrait_repaint p p).trans (if_pos rfl)
  · obtain ⟨b, hb, heq⟩ := List.mem_map.1 he
    obtain ⟨rfl, rfl⟩ := Prod.mk.inj heq
    have hbinding : t.binding = some b := by
      rw [Tracker.binding, hl]
      exact Option.mem_toList.1 hb
    exact (portrait_arm ht hbinding p).trans (if_pos rfl)

/-- Each panel is told once. -/
theorem Wired.pairwise_announce (h : w.Wired held) (c : Channel) (n : Notice) :
    (w.announce c n).Pairwise fun d e => ∀ p, d.subscriber.panel? = some p →
      e.subscriber.panel? ≠ some p := by
  refine List.pairwise_map.2 (List.pairwise_map.2 ?_)
  refine (h.ascending c).ordered.imp_of_mem fun {a b} ha hb hlt p hp hq => ?_
  obtain ⟨t, ht, hat⟩ := h.entries_of_mem ha hp
  obtain ⟨u, hu, hbu⟩ := h.entries_of_mem hb hq
  obtain rfl := Option.some.inj (ht.symm.trans hu)
  rw [Tracker.entry_unique hat hbu] at hlt
  exact Nat.lt_irrefl _ hlt

end Workspace

/-! ## Who is told what -/

namespace Session

variable {held : Holdings} {s s' : Session} {ds : List Delivery}

/-- No observer does anything when it is told. -/
def Silent (s : Session) : Prop := ∀ c ∈ s.callbacks, c.script = .silent

/-- Nothing changes but the workspace and the log. -/
def Kept (s s' : Session) : Prop := ∃ log, s' = { s with workspace := s'.workspace, log }

theorem Kept.trans {s'' : Session} (h : Kept s s') (h' : Kept s' s'') : Kept s s'' := by
  obtain ⟨log, h⟩ := h
  obtain ⟨log', h'⟩ := h'
  refine ⟨log', h'.trans ?_⟩
  rw [h]

/-- Deliveries have been made: a panel that got one was, up to then, as it had been
at first, and the others still are. -/
structure Told (s : Session) (ds : List Delivery) (s' : Session) : Prop where
  panels : PanelsOnly s.workspace s'.workspace
  views : s'.workspace.views = s.workspace.views
  trackers : ∀ p,
    (∀ d ∈ ds, d.subscriber.panel? ≠ some p) ∧
        s'.workspace.trackers.get? p = s.workspace.trackers.get? p ∨
      ∃ d ∈ ds, d.subscriber.panel? = some p ∧ ∃ w, PanelsOnly s.workspace w ∧
        w.views = s.workspace.views ∧ w.trackers.get? p = s.workspace.trackers.get? p ∧
        s'.workspace.trackers.get? p = (w.deliver d).trackers.get? p

/-- Silent observers leave it at the delivery itself. -/
theorem Silent.deliver (h : s.Silent) (d : Delivery) :
    ∃ s', s.deliver d = ([], s') ∧ Kept s s' ∧
      ViewsOnly (s.workspace.deliver d) s'.workspace ∧
      s'.workspace.views = (s.workspace.deliver d).views := by
  obtain ⟨subscriber, n⟩ := d
  cases subscriber with
  | resync p | repaint p | arm p generation => exact ⟨_, rfl, ⟨_, rfl⟩, viewsOnly_settle _, rfl⟩
  | observer k =>
      show ∃ s', s.tell k n = ([], s') ∧ _
      unfold tell
      split
      · exact ⟨s, rfl, ⟨s.log, rfl⟩, .refl _, rfl⟩
      · rename_i f hf
        have hscript : f.script = .silent := h f (List.mem_of_getElem? hf)
        have hnext : f.script.next = ([], .silent) := by rw [hscript]; rfl
        have hsame : s.callbacks.set k { f with script := .silent } = s.callbacks := by
          obtain ⟨hk, rfl⟩ := List.getElem?_eq_some_iff.1 hf
          rw [← hscript]
          exact List.set_getElem_self hk
        rw [hnext]
        dsimp only
        rw [hsame]
        exact ⟨_, rfl, ⟨_, rfl⟩, .refl _, rfl⟩

theorem Kept.silent (h : Kept s s') (hsilent : s.Silent) : s'.Silent := by
  obtain ⟨log, h⟩ := h
  rw [h]
  exact hsilent

theorem Silent.kept_run (h : s.Silent) (ds : List Delivery) :
    Kept s (machine.run (ds.map .deliver) s) := by
  induction ds generalizing s with
  | nil =>
      rw [List.map_nil, Machine.run_nil]
      exact ⟨s.log, rfl⟩
  | cons d ds ih =>
      obtain ⟨next, hperform, hkept, -⟩ := h.deliver d
      have hperform : machine.perform (.deliver d) s = ([], next) := hperform
      rw [List.map_cons, Machine.run_cons, hperform, List.nil_append]
      exact hkept.trans (ih (hkept.silent h))

theorem told_run (hsilent : s.Silent)
    (honce : ds.Pairwise fun d e => ∀ p, d.subscriber.panel? = some p →
      e.subscriber.panel? ≠ some p) :
    Told s ds (machine.run (ds.map .deliver) s) := by
  induction ds generalizing s with
  | nil =>
      rw [List.map_nil, Machine.run_nil]
      exact ⟨.refl _, rfl, fun p => .inl ⟨by simp, rfl⟩⟩
  | cons d ds ih =>
      obtain ⟨next, hperform, hkept, honly, hviews⟩ := hsilent.deliver d
      have hperform : machine.perform (.deliver d) s = ([], next) := hperform
      obtain ⟨hd, hrest⟩ := List.pairwise_cons.1 honce
      obtain ⟨hpanels, hviews', htrackers⟩ := ih (hkept.silent hsilent) hrest
      have hbefore : PanelsOnly s.workspace next.workspace :=
        (PanelsOnly.deliver s.workspace d).trans honly.panelsOnly
      have hbviews := hviews.trans (views_deliver s.workspace d)
      rw [List.map_cons, Machine.run_cons, hperform, List.nil_append]
      refine ⟨hbefore.trans hpanels, hviews'.trans hbviews, fun p => ?_⟩
      by_cases hp : d.subscriber.panel? = some p
      · -- the panel has had its delivery, and the rest is for others
        refine .inr ⟨d, by simp, hp, s.workspace, .refl _, rfl, rfl, ?_⟩
        rcases htrackers p with ⟨-, hsame⟩ | ⟨e, he, hep, -⟩
        · rw [hsame, honly.trackers]
        · exact absurd hep (hd e he p hp)
      · have hsame : next.workspace.trackers.get? p = s.workspace.trackers.get? p := by
          rw [honly.trackers, get?_deliver_of_ne hp]
        rcases htrackers p with ⟨hnone, hkeep⟩ | ⟨e, he, hep, w, hw, hwv, hwt, hend⟩
        · refine .inl ⟨fun e he => ?_, hkeep.trans hsame⟩
          rcases List.mem_cons.1 he with rfl | he
          · exact hp
          · exact hnone e he
        · exact .inr ⟨e, List.mem_cons_of_mem _ he, hep, w, hbefore.trans hw, hwv.trans hbviews,
            hwt.trans hsame, hend⟩

/-- What an announcement makes of the panels. -/
theorem portrait_announce (hs : s.Sound held) (hsilent : s.Silent) (c : Channel) (n : Notice)
    (p : PanelId) :
    (machine.run ((s.workspace.announce c n).map .deliver) s).workspace.portrait p =
      (s.workspace.portrait p).heard s.workspace.scene c := by
  obtain ⟨-, hviews, htrackers⟩ := told_run hsilent (hs.wired.pairwise_announce c n)
  have hportrait : ∀ {w w' : Workspace}, w'.views = w.views →
      w'.trackers.get? p = w.trackers.get? p → w'.portrait p = w.portrait p := by
    intro w w' hv ht
    rw [portrait, portrait, hv, ht]
  rcases htrackers p with ⟨hnone, hsame⟩ | ⟨d, hd, hdp, w, hw, hwv, hwt, hend⟩
  · -- nobody was told for the panel, so it does not listen
    rw [hportrait hviews hsame]
    cases ht : s.workspace.trackers.get? p with
    | none => simp [portrait, Portrait.heard, Portrait.mapTracker, ht]
    | some t =>
        have hdeaf : ¬ t.bare.listensOn c := by
          rw [Tracker.listensOn_bare, Tracker.listensOn_iff (p := p)]
          rintro ⟨e, he⟩
          have hmem := hs.wired.mem_of_entries ht he
          exact hnone ⟨e.2, n⟩ (List.mem_map_of_mem (List.mem_map_of_mem hmem))
            (Tracker.panel_of_mem_entries he)
        simp [portrait, Portrait.heard, Portrait.mapTracker, ht,
          Tracker.heard_of_not_listensOn hdeaf]
  · obtain ⟨x, hx, rfl⟩ := List.mem_map.1 hd
    obtain ⟨e, he, rfl⟩ := List.mem_map.1 hx
    obtain ⟨t, ht, hmine⟩ := hs.wired.entries_of_mem he hdp
    rw [hportrait ((hviews.trans hwv.symm).trans (views_deliver w _).symm) hend,
      portrait_deliver (hwt.trans ht) hmine, hportrait hwv hwt, hw.scene]

end Session

end DetailPanel
