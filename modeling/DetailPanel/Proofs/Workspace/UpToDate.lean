import DetailPanel.Proofs.Workspace.Moves

/-!
# Panels that are up to date

While notices are under way, what a panel shows may be old.  Whatever is old is
owed: a delivery that is still to come puts it right, or opens the throttle
after which a poll does (`Tracker.UpToDate`).  Moves keep this for as long as the
panel listens, and so does every delivery once it is made.

    w.Wired held → w.UpToDate p owed → Moves l held w ds held' w' →
      w'.isListening p → w'.UpToDate p (ds ++ owed)                   (UpToDate.moves)
    w.UpToDate p (d :: ds) → (w.deliver d).UpToDate p ds              (UpToDate.deliver)
-/

namespace DetailPanel

open Workspace

/-- A delivery to the subscriber is still to come. -/
def Owed (ds : List Delivery) (s : Subscriber) : Prop := ∃ n, ⟨s, n⟩ ∈ ds

theorem Owed.mono {ds ds' : List Delivery} {s : Subscriber} (h : Owed ds s) (hds : ds ⊆ ds') :
    Owed ds' s := by
  obtain ⟨n, hn⟩ := h
  exact ⟨n, hds hn⟩

theorem owed_cons {d : Delivery} {ds : List Delivery} {s : Subscriber} :
    Owed (d :: ds) s ↔ d.subscriber = s ∨ Owed ds s := by
  obtain ⟨s', n'⟩ := d
  simp only [Owed, List.mem_cons, Delivery.mk.injEq, exists_or]
  refine or_congr_left ⟨?_, ?_⟩
  · rintro ⟨n, rfl, -⟩
    rfl
  · rintro rfl
    exact ⟨n', rfl, rfl⟩

theorem owed_announce {w : Workspace} {c : Channel} {n : Notice} {e : Nat × Subscriber}
    (he : e ∈ (w.registry c).entries) (ds : List Delivery) : Owed (w.announce c n ++ ds) e.2 :=
  ⟨n, List.mem_append_left _ <|
    List.mem_map.2 ⟨e.2, Registry.mem_subscribers.2 ⟨e.1, he⟩, rfl⟩⟩

namespace Tracker

/-- The tracker of a panel follows the selection, but for what is owed to it. -/
structure UpToDate (t : Tracker) (p : PanelId) (ds : List Delivery) (w : Workspace) : Prop where
  listening : t.listening.isSome
  watching : t.binding.map (·.result) = w.result ∨ Owed ds (.resync p)
  notFound : t.flags.notFound = w.card.isNone ∨ Owed ds (.resync p) ∨ Owed ds (.repaint p)
  flags : t.flags = w.liveFlags ∨ t.deadline.isSome ∨ Owed ds (.resync p) ∨ Owed ds (.repaint p) ∨
    ∃ b, t.binding = some b ∧ Owed ds (.arm p b.generation)

variable {t : Tracker} {p : PanelId} {ds ds' : List Delivery} {d : Delivery} {w w' : Workspace}

theorem UpToDate.mono (h : t.UpToDate p ds w) (hds : ds ⊆ ds') : t.UpToDate p ds' w where
  listening := h.listening
  watching := h.watching.imp_right (·.mono hds)
  notFound := h.notFound.imp_right (·.imp (·.mono hds) (·.mono hds))
  flags := h.flags.imp_right fun h => h.imp_right fun h =>
    h.imp (·.mono hds) fun h => h.imp (·.mono hds) fun ⟨b, hb, ho⟩ => ⟨b, hb, ho.mono hds⟩

/-- What the selection says is the same. -/
theorem UpToDate.transport (h : t.UpToDate p ds w) (hr : w'.result = w.result)
    (hc : w'.card = w.card) (hl : w'.liveFlags = w.liveFlags) : t.UpToDate p ds w' where
  listening := h.listening
  watching := by
    rw [hr]
    exact h.watching
  notFound := by
    rw [hc]
    exact h.notFound
  flags := by
    rw [hl]
    exact h.flags

/-- A change of result is owed, and puts everything right. -/
theorem upToDate_of_resync (hl : t.listening.isSome) (h : Owed ds (.resync p)) :
    t.UpToDate p ds w := ⟨hl, .inr h, .inr (.inl h), .inr (.inr (.inl h))⟩

/-- A delivery that is another panel's is not owed to this one. -/
theorem UpToDate.tail (h : t.UpToDate p (d :: ds) w) (hd : d.subscriber.panel? ≠ some p) :
    t.UpToDate p ds w := by
  have howed : ∀ s : Subscriber, s.panel? = some p → Owed (d :: ds) s → Owed ds s := by
    rintro s hs ho
    rcases owed_cons.1 ho with rfl | ho
    · exact absurd hs hd
    · exact ho
  exact ⟨h.listening, h.watching.imp_right (howed _ rfl),
    h.notFound.imp_right (·.imp (howed _ rfl) (howed _ rfl)),
    h.flags.imp_right fun h => h.imp_right fun h => h.imp (howed _ rfl) fun h =>
      h.imp (howed _ rfl) fun ⟨b, hb, ho⟩ => ⟨b, hb, howed _ rfl ho⟩⟩

/-! ## Deliveries to the panel -/

theorem binding_resynced (hl : t.listening.isSome) : (t.resynced w).binding = w.freshBinding t := by
  obtain ⟨l, hl⟩ := Option.isSome_iff_exists.1 hl
  simp [resynced, hl, rebound, binding, paint, freshBinding]

theorem upToDate_resynced (hl : t.listening.isSome) : (t.resynced w).UpToDate p ds w := by
  have hflags : (t.resynced w).flags = w.liveFlags := by
    simp [resynced, hl, rebound, paint]
  refine ⟨?_, .inl ?_, .inl ?_, .inl hflags⟩
  · rwa [isSome_listening_resynced]
  · rw [binding_resynced hl, freshBinding, Option.map_map]
    exact Option.map_id'
  · rw [hflags]
    rfl

theorem UpToDate.paint (hl : t.listening.isSome)
    (hw : t.binding.map (·.result) = w.result ∨ Owed ds (.resync p)) :
    (t.paint w.liveFlags).UpToDate p ds w := ⟨hl, hw, .inl rfl, .inl rfl⟩

theorem deadline_trigger (th : Throttle) (now : Nat) : (th.trigger now).2.deadline.isSome := by
  unfold Throttle.trigger
  split
  · rename_i h
    simp [Throttle.deadline, h]
  · rfl

theorem UpToDate.armed {generation : Nat} {n : Notice} (c : Clock)
    (h : t.UpToDate p (⟨.arm p generation, n⟩ :: ds) w) :
    (t.armed c generation).UpToDate p ds w := by
  have hother : ∀ s, s ≠ .arm p generation → Owed (⟨.arm p generation, n⟩ :: ds) s → Owed ds s := by
    intro s hs ho
    exact (owed_cons.1 ho).resolve_left (Ne.symm hs)
  have hbinding := t.binding_arm generation (t.time c)
  have harmed : ∀ b, t.binding = some b → b.generation = generation →
      (t.armed c generation).deadline.isSome := by
    intro b hb hg
    rw [Tracker.armed, deadline, hbinding, hb]
    simpa [hg] using deadline_trigger b.throttle _
  refine ⟨by simpa [Tracker.armed] using h.listening, ?_, ?_, ?_⟩
  · refine h.watching.imp (fun hw => ?_) (hother _ (by simp))
    rw [← hw, Tracker.armed, hbinding, Option.map_map]
    refine congrArg (Option.map · t.binding) (funext fun b => ?_)
    simp only [Function.comp_apply]
    split <;> rfl
  · rw [Tracker.armed, flags_arm]
    exact h.notFound.imp_right (·.imp (hother _ (by simp)) (hother _ (by simp)))
  · rw [Tracker.armed, flags_arm]
    rcases h.flags with hlive | hdeadline | ho | ho | ⟨b, hb, ho⟩
    · exact .inl hlive
    · refine .inr (.inl ?_)
      obtain ⟨b, hb, hbd⟩ := Option.bind_eq_some_iff.1 (Option.some_get hdeadline).symm
      by_cases hg : b.generation = generation
      · exact harmed b hb hg
      · rw [deadline, hbinding, hb]
        simpa [hg, hbd] using hdeadline
    · exact .inr (.inr (.inl (hother _ (by simp) ho)))
    · exact .inr (.inr (.inr (.inl (hother _ (by simp) ho))))
    · by_cases hg : b.generation = generation
      · exact .inr (.inl (harmed b hb hg))
      · refine .inr (.inr (.inr (.inr ⟨b, ?_, hother _ (by simp [hg]) ho⟩)))
        rw [hbinding, hb]
        simp [hg]

theorem UpToDate.polled (h : t.UpToDate p ds w) (time : Nat) :
    (t.polled w.liveFlags time).UpToDate p ds w := by
  unfold Tracker.polled
  split
  · refine .paint (by simpa using h.listening) (h.watching.imp_left fun hw => ?_)
    rw [← hw, binding_takeDue, Option.map_map]
    rfl
  · rename_i hdue
    rwa [takeDue_of_not_due (by simpa using hdue)]

end Tracker

namespace Workspace

/-- A panel listens and is up to date, but for what is owed to it. -/
def UpToDate (w : Workspace) (p : PanelId) (ds : List Delivery) : Prop :=
  ∃ t, w.trackers.get? p = some t ∧ t.UpToDate p ds w

variable {w w' : Workspace} {p : PanelId} {ds ds' owed : List Delivery} {d : Delivery}
  {l : Licence} {held held' : Holdings}

theorem UpToDate.mono (h : w.UpToDate p ds) (hds : ds ⊆ ds') : w.UpToDate p ds' := by
  obtain ⟨t, ht, hu⟩ := h
  exact ⟨t, ht, hu.mono hds⟩

theorem UpToDate.panel_lt (h : w.UpToDate p ds) (hw : w.Wired held) : p < w.nextPanel := by
  obtain ⟨t, ht, -⟩ := h
  exact hw.panel_lt p (by rw [ht]; rfl)

theorem UpToDate.isListening (h : w.UpToDate p ds) : w.isListening p := by
  obtain ⟨t, ht, hu⟩ := h
  exact (isListening_of_get? ht).trans hu.listening

theorem exists_of_isListening (h : w.isListening p) :
    ∃ t, w.trackers.get? p = some t ∧ t.listening.isSome := by
  simpa [Workspace.isListening, Option.any_eq_true] using h

/-- Neither the panel nor what the selection says changes. -/
theorem UpToDate.transport (h : w.UpToDate p ds)
    (htr : w'.trackers.get? p = w.trackers.get? p) (hr : w'.result = w.result)
    (hc : w'.card = w.card) (hl : w'.liveFlags = w.liveFlags) : w'.UpToDate p ds := by
  obtain ⟨t, ht, hu⟩ := h
  exact ⟨t, htr.trans ht, hu.transport hr hc hl⟩

theorem UpToDate.panelsOnly (h : w.UpToDate p ds) (hw : PanelsOnly w w')
    (htr : w'.trackers.get? p = w.trackers.get? p) : w'.UpToDate p ds :=
  h.transport htr hw.result hw.card hw.liveFlags

/-- A panel changes; if it is this one, then into one that is up to date. -/
theorem UpToDate.modify (h : w.UpToDate p ds) (hw : PanelsOnly w w') {q : PanelId}
    {f : Tracker → Tracker} (htr : w'.trackers = w.trackers.modify q f)
    (hf : ∀ t, q = p → t.UpToDate p ds w → (f t).UpToDate p ds w) : w'.UpToDate p ds := by
  by_cases hq : q = p
  · obtain ⟨t, ht, hu⟩ := h
    refine ⟨f t, ?_, (hf t hq hu).transport hw.result hw.card hw.liveFlags⟩
    simp [htr, Table.get?_modify, hq, ht]
  · refine h.panelsOnly hw ?_
    rw [htr, Table.get?_modify, if_neg (Ne.symm hq)]

/-- The panel has handled a change of result. -/
theorem upToDate_resync (hl : w.isListening p) : (w.resync p).UpToDate p ds := by
  obtain ⟨t, ht, htl⟩ := exists_of_isListening hl
  have hw := PanelsOnly.resync w p
  refine ⟨t.resynced w, ?_, (Tracker.upToDate_resynced htl).transport hw.result hw.card hw.liveFlags⟩
  simp [trackers_resync, Table.get?_modify, ht]

/-- A delivery that has been made is owed no longer. -/
theorem UpToDate.deliver (h : w.UpToDate p (d :: ds)) : (w.deliver d).UpToDate p ds := by
  by_cases hd : d.subscriber.panel? = some p
  · obtain ⟨t, ht, hu⟩ := h
    obtain ⟨s, n⟩ := d
    cases s with
    | observer => cases hd
    | resync q =>
        obtain rfl : q = p := Option.some.inj hd
        exact upToDate_resync ((isListening_of_get? ht).trans hu.listening)
    | repaint q =>
        obtain rfl : q = p := Option.some.inj hd
        have hw := PanelsOnly.repaint w q
        have hwatching := hu.watching.imp_right fun ho => (owed_cons.1 ho).resolve_left (by simp)
        refine ⟨t.paint w.liveFlags, ?_,
          (Tracker.UpToDate.paint hu.listening hwatching).transport hw.result hw.card hw.liveFlags⟩
        simp [Workspace.deliver, trackers_repaint, Table.get?_modify, ht, hu.listening]
    | arm q generation =>
        obtain rfl : q = p := Option.some.inj hd
        have hw := PanelsOnly.arm w q generation
        refine ⟨t.armed w.clock generation, ?_,
          (hu.armed w.clock).transport hw.result hw.card hw.liveFlags⟩
        simp [Workspace.deliver, trackers_arm, Table.get?_modify, ht]
  · have hother : w.UpToDate p ds := by
      obtain ⟨t, ht, hu⟩ := h
      exact ⟨t, ht, hu.tail hd⟩
    obtain ⟨s, n⟩ := d
    have hne : ∀ q, s.panel? = some q → q ≠ p := by
      rintro q hq rfl
      exact hd hq
    cases s with
    | observer => exact hother
    | resync q =>
        exact hother.modify (.resync w q) (trackers_resync w q) fun _ hq => absurd hq (hne q rfl)
    | repaint q =>
        exact hother.modify (.repaint w q) (trackers_repaint w q) fun _ hq => absurd hq (hne q rfl)
    | arm q generation =>
        exact hother.modify (.arm w q generation) (trackers_arm w q generation) fun _ hq =>
          absurd hq (hne q rfl)

/-- The same as a move: what is owed may stay owed. -/
theorem UpToDate.deliver_mono (h : w.UpToDate p ds) (d : Delivery) : (w.deliver d).UpToDate p ds :=
  (h.mono (List.subset_cons_self d ds)).deliver

/-! ## Moves -/

theorem isListening_congr (h : w'.trackers.get? p = w.trackers.get? p) :
    w'.isListening p = w.isListening p := by
  rw [Workspace.isListening, h]
  rfl

theorem get?_addTracker {q : PanelId} (hq : q < w.nextPanel) (name : String) (window : Nat)
    (wall : Bool) : (w.addTracker name window wall).2.trackers.get? q = w.trackers.get? q :=
  (Table.get?_set ..).trans (if_neg (Nat.ne_of_lt hq))

theorem get?_addListener {q : PanelId} (hq : q < w.nextPanel) (name : String) (window : Nat)
    (wall : Bool) :
    ((w.addTracker name window wall).2.bind w.nextPanel).trackers.get? q = w.trackers.get? q := by
  rw [trackers_bind, Table.get?_modify, if_neg (Nat.ne_of_lt hq)]
  exact get?_addTracker hq name window wall

/-- No panel that is there starts to listen by a move. -/
theorem Move.isListening_of (m : Move l held w ds held' w') (hp : p < w.nextPanel)
    (h : w'.isListening p) : w.isListening p := by
  cases m with
  | scenery hv => rwa [isListening_congr (congrArg _ hv.trackers)] at h
  | setClock | addResult | setSearching | announce | fetch => exact h
  | select r => rwa [isListening_congr (congrArg _ (trackers_selectResult w r))] at h
  | selectCard card => rwa [isListening_congr (congrArg _ (trackers_selectCard w card))] at h
  | addTracker name window wall => rwa [isListening_congr (get?_addTracker hp ..)] at h
  | addListener name window wall => rwa [isListening_congr (get?_addListener hp ..)] at h
  | unbind q =>
      by_cases hq : p = q
      · rw [hq, isListening_unbind_self] at h
        cases h
      · rwa [isListening_congr] at h
        rw [trackers_unbind, Table.get?_modify, if_neg hq]
  | resync q =>
      rwa [isListening_modify (trackers_resync w q)] at h
      intro t
      exact t.isSome_listening_resynced ..
  | repaint q =>
      rwa [isListening_modify (trackers_repaint w q)] at h
      intro t
      split <;> rfl
  | recompute q => rwa [isListening_recompute] at h
  | arm q generation =>
      rwa [isListening_modify (trackers_arm w q generation)] at h
      intro t
      exact t.isSome_listening_arm ..
  | poll q time =>
      rwa [isListening_modify (trackers_poll w q time)] at h
      intro t
      exact t.isSome_listening_polled ..
  | forget q _ =>
      obtain ⟨t, ht, htl⟩ := exists_of_isListening h
      have hget : (w.trackers.erase q).get? p = some t := ht
      rw [Table.get?_erase] at hget
      split at hget
      · cases hget
      · exact (isListening_of_get? hget).trans htl
  | observe _ k => rwa [isListening_congr (congrArg _ (trackers_subscribe ..))] at h
  | cancel => rwa [isListening_congr (congrArg _ (trackers_cancel ..))] at h

theorem liveFlags_congr (hr : w'.result = w.result) (hc : w'.card = w.card)
    (hs : ∀ r, w.result = some r → w'.isSearching r = w.isSearching r) :
    w'.liveFlags = w.liveFlags := by
  simp only [liveFlags, flagsOf, hr, hc]
  cases hres : w.result with
  | none => rfl
  | some r => simp [hs r hres]

/-- A result that is not the current one says nothing to the flags. -/
theorem UpToDate.setSearching (h : w.UpToDate p owed) {r : ResultId} (hr : w.result ≠ some r)
    (on : Bool) : (w.setSearching r on).UpToDate p owed := by
  refine h.transport rfl rfl rfl (liveFlags_congr rfl rfl fun r' hr' => ?_)
  refine isSearching_setSearching ?_ on
  rintro rfl
  exact hr hr'

/-- A panel that is bound to a result hears what happens to it. -/
theorem UpToDate.fetch (hw : w.Wired held) (h : w.UpToDate p owed) (r : ResultId) (f : Fetch) :
    (w.fetch r f).2.UpToDate p ((w.fetch r f).1 ++ owed) := by
  have happ : owed ⊆ (w.fetch r f).1 ++ owed := List.subset_append_right ..
  by_cases hr : w.result = some r
  · obtain ⟨t, ht, hu⟩ := h
    have hu' := hu.mono happ
    refine ⟨t, ht, hu.listening, hu'.watching, hu'.notFound, ?_⟩
    rcases hu.watching with hb | ho
    · obtain ⟨b, hb, hbr⟩ := Option.map_eq_some_iff.1 (hb.trans hr)
      obtain ⟨lis, hlis, hlb⟩ := Option.bind_eq_some_iff.1 hb
      have hmine : (b.subscription, .arm p b.generation) ∈ (w.registry (.lifecycle r)).entries :=
        hw.mem_of_entries ht (by simp [Tracker.entries, hlis, hlb, hbr])
      rw [← registry_setSearching w r f.searching] at hmine
      exact .inr (.inr (.inr (.inr ⟨b, hb, owed_announce hmine owed⟩)))
    · exact .inr (.inr (.inl (ho.mono happ)))
  · exact (h.setSearching hr f.searching).mono happ

theorem UpToDate.select (hw : w.Wired held) (h : w.UpToDate p owed) (r : Option ResultId) :
    (w.selectResult r).2.2.UpToDate p ((w.selectResult r).2.1 ++ owed) := by
  rcases w.selectResult_spec r with ⟨-, heq⟩ | ⟨-, heq⟩
  · rwa [heq]
  · obtain ⟨t, ht, hu⟩ := h
    obtain ⟨lis, hlis⟩ := Option.isSome_iff_exists.1 hu.listening
    have hmine : (lis.onResult, .resync p) ∈ (w.registry .result).entries :=
      hw.mem_of_entries ht (by simp [Tracker.entries, hlis])
    rw [heq]
    exact ⟨t, ht, t.upToDate_of_resync hu.listening (owed_announce hmine owed)⟩

theorem UpToDate.selectCard (hw : w.Wired held) (h : w.UpToDate p owed) (card : Option Metacard) :
    (w.selectCard card).2.2.UpToDate p ((w.selectCard card).2.1 ++ owed) := by
  rcases w.selectCard_spec card with ⟨-, heq⟩ | ⟨-, heq⟩
  · rwa [heq]
  · obtain ⟨t, ht, hu⟩ := h
    obtain ⟨lis, hlis⟩ := Option.isSome_iff_exists.1 hu.listening
    have hmine : (lis.onCard, .repaint p) ∈ (w.registry .card).entries :=
      hw.mem_of_entries ht (by simp [Tracker.entries, hlis])
    rw [heq]
    have howed := owed_announce (n := .cardChanged (w.card.map (·.id)) (card.map (·.id))) hmine owed
    exact ⟨t, ht, hu.listening, hu.watching.imp_right (·.mono (List.subset_append_right ..)),
      .inr (.inr howed), .inr (.inr (.inr (.inl howed)))⟩

/-- Whatever a move makes old, it owes. -/
theorem UpToDate.move (hw : w.Wired held) (h : w.UpToDate p owed) (m : Move l held w ds held' w')
    (hs : ¬ l.silence) (hl : w'.isListening p) : w'.UpToDate p (ds ++ owed) := by
  have hp := h.panel_lt hw
  cases m with
  | scenery hv => exact h.panelsOnly hv.panelsOnly (congrArg _ hv.trackers)
  | setClock clock => exact h.transport rfl rfl rfl rfl
  | addResult label searching =>
      refine h.transport rfl rfl rfl (liveFlags_congr rfl rfl fun r hr => ?_)
      have hne : r ≠ w.nextResult := Nat.ne_of_lt (hw.result_lt r (hw.result_known r hr))
      have hget : (w.addResult label searching).2.results.get? r = _ := Table.get?_set ..
      rw [isSearching, hget, if_neg hne]
      rfl
  | setSearching r on hsil => exact h.setSearching (fun hr => hs (hsil hr)) on
  | select r => exact h.select hw r
  | selectCard card => exact h.selectCard hw card
  | announce r e => exact h.mono (List.subset_append_right ..)
  | fetch r f => exact h.fetch hw r f
  | addTracker name window wall => exact h.transport (get?_addTracker hp ..) rfl rfl rfl
  | addListener name window wall =>
      have hb := PanelsOnly.bind (w.addTracker name window wall).2 w.nextPanel
      exact h.transport (get?_addListener hp ..) hb.result hb.card hb.liveFlags
  | unbind q =>
      refine h.modify (.unbind w q) (trackers_unbind w q) fun t hq _ => ?_
      rw [← hq, isListening_unbind_self] at hl
      cases hl
  | resync q => exact h.deliver_mono ⟨.resync q, .resultChanged none none⟩
  | repaint q => exact h.deliver_mono ⟨.repaint q, .resultChanged none none⟩
  | recompute q =>
      exact h.modify (.recompute w q) (trackers_recompute w q) fun t _ hu =>
        .paint hu.listening hu.watching
  | arm q generation => exact h.deliver_mono ⟨.arm q generation, .resultChanged none none⟩
  | poll q time =>
      exact h.modify (.poll w q time) (trackers_poll w q time) fun t _ hu => hu.polled time
  | forget q hq =>
      refine h.transport ?_ rfl rfl rfl
      have hget : (w.trackers.erase q).get? p = _ := Table.get?_erase ..
      refine hget.trans (if_neg ?_)
      rintro rfl
      rw [h.isListening] at hq
      cases hq
  | observe _ k => exact h.panelsOnly (.subscribe w _ _) (congrArg _ (trackers_subscribe ..))
  | cancel => exact h.panelsOnly (.cancel w _ _) (congrArg _ (trackers_cancel ..))

theorem Moves.isListening_of (ms : Moves l held w ds held' w') (hp : p < w.nextPanel)
    (h : w'.isListening p) : w.isListening p := by
  induction ms with
  | nil => exact h
  | cons m _ ih => exact m.isListening_of hp (ih (Nat.lt_of_lt_of_le hp m.nextPanel_le) h)

theorem UpToDate.moves (hw : w.Wired held) (h : w.UpToDate p owed)
    (ms : Moves l held w ds held' w') (hs : ¬ l.silence) (hl : w'.isListening p) :
    w'.UpToDate p (ds ++ owed) := by
  induction ms generalizing owed with
  | nil => exact h
  | @cons held held₁ held₂ w w₁ w₂ ds₁ ds₂ m ms ih =>
      have hp := Nat.lt_of_lt_of_le (h.panel_lt hw) m.nextPanel_le
      have h₁ := h.move hw m hs (ms.isListening_of hp hl)
      refine (ih (hw.move m) h₁ hl).mono ?_
      rw [List.append_assoc]
      exact List.append_subset.2 ⟨by simp, by simp⟩

end Workspace

end DetailPanel
