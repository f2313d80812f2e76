import DetailPanel.Proofs.Session.Deliveries
import DetailPanel.Proofs.Workspace.Growth

/-!
# Settings of the selection

A step that sets a half of the selection does that and nothing else, and no
other step changes what is selected.  Whoever is told of a change has subscribed
to its channel, each observer under a number of its own (`Enrolled`).

    s.setting? h t = none → (s.begin t) leaves the half as it is       (stored_begin)
    s.setting? h t = some v → refused, or stored and announced         (perform_of_setting)
    s.Enrolled → (perform j s).2.Enrolled                              (Enrolled.perform)
-/

namespace DetailPanel

open Workspace

namespace Session

variable {held held' : Holdings} {s s' : Session} {t : Step} {h : Half} {v : Option h.Value}

/-! ## Steps that set the selection -/

/-- What a step sets a half of the selection to, if it sets it at all. -/
def setting? (s : Session) : (h : Half) → Step → Option (Option h.Value)
  | .result, .select none => some none
  | .result, .select (some key) => (s.results.get? key).map some
  | .card, .selectCard card => some card
  | _, _ => none

theorem begin_of_setting (hv : s.setting? h t = some v) :
    s.begin t = (.bool (s.workspace.setHalf h v).1, (s.workspace.setHalf h v).2.1,
      s.setWorkspace (s.workspace.setHalf h v).2.2) := by
  cases h with
  | result =>
      cases t with
      | select key =>
          cases key with
          | none =>
              obtain rfl := Option.some.inj hv
              rfl
          | some key =>
              obtain ⟨r, hr, rfl⟩ := Option.map_eq_some_iff.1 hv
              simp only [begin, withResult, hr]
              rfl
      | _ => cases hv
  | card =>
      cases t with
      | selectCard card =>
          obtain rfl := Option.some.inj hv
          rfl
      | _ => cases hv

/-- A step that selects a result sets it, unless the result is not there. -/
theorem setting?_select (s : Session) (key : Option String) :
    (∃ r, s.setting? .result (.select key) = some r) ∨
      s.begin (.select key) = (.absent .result, [], s) := by
  cases key with
  | none => exact .inl ⟨none, rfl⟩
  | some key =>
      cases hr : s.results.get? key with
      | some r => exact .inl ⟨some r, by simp [setting?, hr]⟩
      | none => exact .inr (by simp [begin, withResult, hr])

theorem stored_setHalf_of_ne {w : Workspace} {g : Half} (hne : g ≠ h) (v : Option h.Value) :
    (w.setHalf h v).2.2.stored g = w.stored g := by
  rcases w.setHalf_spec h v with ⟨-, heq⟩ | ⟨-, heq⟩ <;> rw [heq]
  exact stored_assign_of_ne hne v

/-- Only a step that sets a half of the selection changes it. -/
theorem stored_begin (hn : s.setting? h t = none) :
    (s.begin t).2.2.workspace.stored h = s.workspace.stored h := by
  have hview : ∀ {name : String} {f : PanelId → Answer × Workspace},
      (∀ p, PanelsOnly s.workspace (f p).2) →
      (s.withView name f).2.2.workspace.stored h = s.workspace.stored h :=
    fun hf => kept_withView (·.workspace.stored h) fun p => (hf p).stored h
  have htracker : ∀ {name : String} {f : PanelId → Answer × Workspace},
      (∀ p, PanelsOnly s.workspace (f p).2) →
      (s.withTracker name f).2.2.workspace.stored h = s.workspace.stored h :=
    fun hf => kept_withTracker (·.workspace.stored h) fun p => (hf p).stored h
  cases t with
  | select key =>
      rcases s.setting?_select key with ⟨r, hr⟩ | habsent
      · have hne : h ≠ .result := by
          rintro rfl
          rw [hr] at hn
          cases hn
        rw [begin_of_setting hr]
        exact stored_setHalf_of_ne hne r
      · rw [habsent]
  | selectCard card =>
      have hne : h ≠ .card := by
        rintro rfl
        cases hn
      exact stored_setHalf_of_ne hne card
  | setSearching | fetch | announce =>
      exact kept_withResult (·.workspace.stored h) fun _ => by cases h <;> rfl
  | showView name => exact hview (.showView s.workspace)
  | render name => exact hview (.render s.workspace)
  | beforeShow name => exact hview fun p => (ViewsOnly.beforeShow s.workspace p).panelsOnly
  | teardown name => exact hview (.teardown s.workspace)
  | tick name time => exact hview fun p => .poll s.workspace p _
  | update name message => exact hview fun p => .update s.workspace p message
  | bind name => exact htracker (.bind s.workspace)
  | unbind name => exact htracker (.unbind s.workspace)
  | resync name => exact htracker (.resync s.workspace)
  | recompute name => exact htracker (.recompute s.workspace)
  | poll name time => exact htracker fun p => .poll s.workspace p _
  | view name config wall =>
      have hmade : (s.workspace.addView name config wall).2.stored h = s.workspace.stored h :=
        (PanelsOnly.bind (s.workspace.addTracker name config.window wall).2 _).stored h |>.trans
          (by cases h <;> rfl)
      exact (kept_getD (stored · h) fun old _ => (PanelsOnly.dropView _ old).stored h).trans hmade
  | dropView name =>
      simp only [begin, dropView]
      split
      · exact (PanelsOnly.dropView ..).stored h
      · rfl
  | tracker name window =>
      have hmade : (s.workspace.addTracker name window false).2.stored h = s.workspace.stored h := by
        cases h <;> rfl
      exact (kept_getD (stored · h) fun old _ => (PanelsOnly.dropTracker _ old).stored h).trans hmade
  | dropTracker name =>
      simp only [begin, dropTracker]
      split
      · exact (PanelsOnly.dropTracker ..).stored h
      · rfl
  | observe name topic script =>
      simp only [begin]
      split
      · exact (kept_getD (stored · h) fun _ _ => (PanelsOnly.cancel ..).stored h).trans
          ((PanelsOnly.subscribe ..).stored h)
      · rfl
  | unobserve name =>
      simp only [begin, unobserve]
      split
      · exact (PanelsOnly.cancel ..).stored h
      · rfl
  | addResult | advance | advanceTo | passWall | snapshot | reflect => cases h <;> rfl

/-! ## Jobs that set the selection -/

theorem settle_of_settled (hs : s.workspace.effects = []) : s.settle = s := by
  obtain ⟨w, _, _, _, _, _, _, _, _, log⟩ := s
  obtain ⟨_, _, _, _, _, _, _, _, _, _, effects⟩ := w
  obtain rfl : effects = [] := hs
  simp [settle]

/-- No effects are left in the workspace once they are in the log. -/
theorem settled_perform (hs : s.workspace.effects = []) (j : Job) :
    (perform j s).2.workspace.effects = [] := by
  cases j with
  | step t => rfl
  | deliver d =>
      obtain ⟨subscriber, n⟩ := d
      cases subscriber with
      | observer k =>
          show (s.tell k n).2.workspace.effects = []
          unfold tell
          split <;> exact hs
      | resync | repaint | arm => rfl

/-- To set a half of the selection to what it is changes nothing and sets nothing off;
to set it to something else stores that, and tells all who listen then. -/
theorem perform_of_setting (hs : s.workspace.effects = []) (hv : s.setting? h t = some v) :
    ¬ h.Differ (s.workspace.stored h) v ∧ (s.begin t).1 = .bool false ∧
        perform (.step t) s = ([], s) ∨
      h.Differ (s.workspace.stored h) v ∧ (s.begin t).1 = .bool true ∧
        perform (.step t) s =
          ((s.workspace.announce h.channel
              (h.notice (s.workspace.storedId h) (v.map h.id))).map .deliver,
            s.setWorkspace (s.workspace.assign h v)) := by
  have hbegin := begin_of_setting hv
  rcases s.workspace.setHalf_spec h v with ⟨hsame, heq⟩ | ⟨hdiffer, heq⟩ <;> rw [heq] at hbegin
  · refine .inl ⟨hsame, congrArg Prod.fst hbegin, ?_⟩
    rw [perform, hbegin]
    exact congrArg _ (settle_of_settled (s := s.setWorkspace s.workspace) hs)
  · have hassign : (s.setWorkspace (s.workspace.assign h v)).workspace.effects = [] := by
      cases h <;> exact hs
    refine .inr ⟨hdiffer, congrArg Prod.fst hbegin, ?_⟩
    rw [perform, hbegin]
    exact congrArg _ (settle_of_settled hassign)

theorem stored_deliver (s : Session) (d : Delivery) (h : Half) :
    (s.deliver d).2.workspace.stored h = s.workspace.stored h :=
  ((viewsOnly_deliver s d).panelsOnly.stored h).trans ((PanelsOnly.deliver ..).stored h)

/-! ## What a step announces -/

/-- The result of which a job announces a lifecycle event, and the event. -/
def announced? (s : Session) : Job → Option (ResultId × LifecycleEvent)
  | .step (.announce key event) => (s.results.get? key).map (·, event)
  | .step (.fetch key move) => (s.results.get? key).map (·, move.event)
  | _ => none

theorem deliveries_withView (s : Session) (name : String) (f : PanelId → Answer × Workspace) :
    (s.withView name f).2.1 = [] := by
  unfold withView
  split <;> rfl

theorem deliveries_withTracker (s : Session) (name : String) (f : PanelId → Answer × Workspace) :
    (s.withTracker name f).2.1 = [] := by
  unfold withTracker
  split <;> rfl

/-- A step announces nothing, or a lifecycle event, or what a setting announces. -/
theorem deliveries_begin (s : Session) (t : Step) :
    (s.begin t).2.1 = [] ∨
      (∃ r e, s.announced? (.step t) = some (r, e) ∧
        (s.begin t).2.1 = s.workspace.announceLifecycle r e) ∨
      ∃ h v, s.setting? h t = some v ∧ (s.begin t).2.1 = (s.workspace.setHalf h v).2.1 := by
  cases t with
  | announce key event =>
      cases hr : s.results.get? key with
      | some r =>
          refine .inr (.inl ⟨r, event, ?_, ?_⟩)
          · simp [announced?, hr]
          · simp [begin, withResult, hr]
      | none => exact .inl (by simp [begin, withResult, hr])
  | fetch key move =>
      cases hr : s.results.get? key with
      | some r =>
          refine .inr (.inl ⟨r, move.event, ?_, ?_⟩)
          · simp [announced?, hr]
          · -- whether the result is searching makes no difference to who listens
            simp [begin, withResult, hr, Session.fetch, Workspace.fetch, announceLifecycle,
              Workspace.announce, registry_setSearching]
      | none => exact .inl (by simp [begin, withResult, hr])
  | select key =>
      rcases s.setting?_select key with ⟨r, hr⟩ | habsent
      · exact .inr (.inr ⟨.result, r, hr, congrArg (·.2.1) (begin_of_setting hr)⟩)
      · exact .inl (congrArg (·.2.1) habsent)
  | selectCard card => exact .inr (.inr ⟨.card, card, rfl, rfl⟩)
  | setSearching key on =>
      simp only [begin, withResult]
      split <;> exact .inl rfl
  | showView | render | beforeShow | teardown | tick | update =>
      exact .inl (deliveries_withView ..)
  | bind | unbind | resync | recompute | poll => exact .inl (deliveries_withTracker ..)
  | dropView name =>
      simp only [begin, dropView]
      split <;> exact .inl rfl
  | dropTracker name =>
      simp only [begin, dropTracker]
      split <;> exact .inl rfl
  | observe name topic script =>
      simp only [begin]
      split <;> exact .inl rfl
  | unobserve name =>
      simp only [begin, unobserve]
      split <;> exact .inl rfl
  | addResult | advance | advanceTo | passWall | view | tracker | snapshot | reflect => exact .inl rfl

theorem subscriber_of_mem_announce {w : Workspace} {c : Channel} {n : Notice} {d : Delivery}
    (h : d ∈ w.announce c n) : d.subscriber ∈ (w.registry c).subscribers ∧ d.notice = n := by
  obtain ⟨x, hx, rfl⟩ := List.mem_map.1 h
  exact ⟨hx, rfl⟩

/-- A setting that is announced has changed something. -/
theorem subscriber_of_mem_setHalf {w : Workspace} {d : Delivery}
    (hd : d ∈ (w.setHalf h v).2.1) : d.subscriber ∈ (w.registry h.channel).subscribers ∧
      d.notice = h.notice (w.storedId h) (v.map h.id) ∧ (w.setHalf h v).1 = true := by
  rcases w.setHalf_spec h v with ⟨-, heq⟩ | ⟨-, heq⟩ <;> rw [heq] at hd ⊢
  · cases hd
  · obtain ⟨hsub, hn⟩ := subscriber_of_mem_announce hd
    exact ⟨hsub, hn, rfl⟩

/-- Who is told of a change is told by a step that made it. -/
theorem setting_of_mem_perform {j : Job} {x : Subscriber} {a b : Option h.Id}
    (hd : .deliver ⟨x, h.notice a b⟩ ∈ (perform j s).1) :
    ∃ t v, j = .step t ∧ s.setting? h t = some v ∧ (s.begin t).1 = .bool true ∧
      x ∈ (s.workspace.registry h.channel).subscribers ∧
      a = s.workspace.storedId h ∧ b = v.map h.id := by
  cases j with
  | deliver d =>
      have hnone := mem_deliveries.2 hd
      rw [perform, deliveries_deliver] at hnone
      cases hnone
  | step t =>
      have hmem : ⟨x, h.notice a b⟩ ∈ (s.begin t).2.1 := by
        obtain ⟨d, hmem, hdeq⟩ := List.mem_map.1 hd
        exact Job.deliver.inj hdeq ▸ hmem
      rcases s.deliveries_begin t with hnone | ⟨r, e, -, hds⟩ | ⟨g, v, hv, hds⟩
      · rw [hnone] at hmem
        cases hmem
      · rw [hds] at hmem
        exact absurd (subscriber_of_mem_announce hmem).2.symm Half.lifecycle_ne_notice
      · rw [hds] at hmem
        obtain ⟨hsub, hn, hchanged⟩ := subscriber_of_mem_setHalf hmem
        obtain rfl : h = g := Half.notice_inj hn
        have hpair := congrArg h.change? hn
        simp only [Half.change?_notice, Option.some.injEq, Prod.mk.injEq] at hpair
        refine ⟨t, v, rfl, hv, ?_, hsub, hpair.1, hpair.2⟩
        rw [begin_of_setting hv, hchanged]

/-! ## Who is told -/

theorem grown_perform (hs : s.Sound held) (j : Job) :
    Grown s.workspace (perform j s).2.workspace := by
  rcases bind_or_advances hs j with ⟨name, rfl⟩ | ⟨held', ms, -⟩
  · obtain ⟨-, w, rfl | ⟨p, rfl⟩, hviews⟩ := perform_bind s name
    · exact hviews.grown
    · exact (Grown.bind _ p).trans hviews.grown
  · exact ms.grown

/-- An observer listens to the selection under one number, which is its own. -/
structure Enrolled (s : Session) : Prop where
  lt : ∀ (h : Half) id k, (id, .observer k) ∈ (s.workspace.registry h.channel).entries →
    k < s.callbacks.length
  inj : ∀ (h : Half) i j k, (i, .observer k) ∈ (s.workspace.registry h.channel).entries →
    (j, .observer k) ∈ (s.workspace.registry h.channel).entries → i = j

theorem enrolled_empty : Enrolled {} where
  lt := by intro h; cases h <;> exact nofun
  inj := by intro h; cases h <;> exact nofun

/-- Where no name is given to an observer, nobody observes who did not before. -/
theorem Sound.mem_of_observer (hs : s.Sound held) (hs' : s'.Sound held')
    (hgrown : Grown s.workspace s'.workspace)
    (hobs : ∀ n x, s'.observers.get? n = some x → s.observers.get? n = some x) {id k : Nat}
    (he : (id, .observer k) ∈ (s'.workspace.registry h.channel).entries) :
    (id, .observer k) ∈ (s.workspace.registry h.channel).entries := by
  rcases (hs'.wired.mem_entries _ _).1 he with ⟨p, t, -, hmine⟩ | hheld
  · cases Tracker.panel_of_mem_entries hmine
  · obtain ⟨name, hname⟩ := hs'.observed.named _ _ hheld
    obtain ⟨k', hk'⟩ := hs.observed.entry name _ (hobs name _ hname)
    have hold : (id, .observer k') ∈ (s.workspace.registry h.channel).entries :=
      (hs.wired.mem_entries _ _).2 (.inr hk')
    have hlt : id < (s.workspace.registry h.channel).nextId :=
      (hs.wired.ascending h.channel).below _ hold
    exact (hgrown.registry h).mem_of_lt he hlt

/-- A new observer comes under the next number, and is the next of the callbacks. -/
theorem mem_entries_observe {c c' : Channel} {e : Nat × Subscriber} (hc : s.workspace.Known c)
    (name : String) (script : Script Step)
    (he : e ∈ ((s.observe name c script).2.workspace.registry c').entries) :
    e ∈ (s.workspace.registry c').entries ∨
      c' = c ∧ e = ((s.workspace.registry c).nextId, .observer s.callbacks.length) := by
  have hsubscribed : ∀ e ∈ ((s.workspace.subscribe c
      (.observer s.callbacks.length)).2.registry c').entries,
      e ∈ (s.workspace.registry c').entries ∨
        c' = c ∧ e = ((s.workspace.registry c).nextId, .observer s.callbacks.length) := by
    intro e he
    rw [registry_subscribe hc] at he
    split at he
    · rename_i heq
      rcases Registry.mem_entries_subscribe.1 he with hold | rfl
      · exact .inl (heq ▸ hold)
      · exact .inr ⟨heq, rfl⟩
    · exact .inl he
  refine hsubscribed e ?_
  have he : e ∈ ((((s.observers.get? name).map fun x => (s.workspace.subscribe c
    (.observer s.callbacks.length)).2.cancel x.channel x.id).getD _).registry c').entries := he
  cases hname : s.observers.get? name with
  | none => rwa [hname] at he
  | some x =>
      rw [hname, Option.map_some, Option.getD_some, registry_cancel] at he
      split at he
      · rename_i heq
        exact heq ▸ (Registry.mem_entries_cancel.1 he).1
      · exact he

theorem Enrolled.perform (hen : s.Enrolled) (hs : s.Sound held) (j : Job) :
    (perform j s).2.Enrolled := by
  obtain ⟨held', hs'⟩ := hs.perform j
  rcases s.observers_perform j with ⟨name, topic, script, c, rfl, hc⟩ | ⟨hlen, hobs⟩
  · have hbegin : (s.begin (.observe name topic script)).2.2 = (s.observe name c script).2 := by
      simp [begin, hc]
    have hentry : ∀ {h : Half} {e : Nat × Subscriber},
        e ∈ ((Session.perform (.step (.observe name topic script)) s).2.workspace.registry
          h.channel).entries → e ∈ (s.workspace.registry h.channel).entries ∨
        h.channel = c ∧ e = ((s.workspace.registry c).nextId, .observer s.callbacks.length) := by
      intro h e he
      refine mem_entries_observe (known_channel? hs hc) name script ?_
      rw [← hbegin, ← (viewsOnly_settle _).registry]
      exact he
    have hlen : (Session.perform (.step (.observe name topic script)) s).2.callbacks.length =
        s.callbacks.length + 1 := by
      show (s.begin (.observe name topic script)).2.2.callbacks.length = _
      rw [hbegin]
      simp [observe]
    refine ⟨fun h id k he => ?_, fun h i j k hi hj => ?_⟩
    · rw [hlen]
      rcases hentry he with hold | ⟨-, heq⟩
      · exact Nat.lt_succ_of_lt (hen.lt h id k hold)
      · obtain ⟨-, hk⟩ := Prod.mk.inj heq
        obtain rfl := Subscriber.observer.inj hk
        exact Nat.lt_succ_self _
    · rcases hentry hi with hold | ⟨-, heq⟩ <;> rcases hentry hj with hold' | ⟨-, heq'⟩
      · exact hen.inj h i j k hold hold'
      · obtain rfl := Subscriber.observer.inj (Prod.mk.inj heq').2
        exact absurd (hen.lt h i _ hold) (Nat.lt_irrefl _)
      · obtain rfl := Subscriber.observer.inj (Prod.mk.inj heq).2
        exact absurd (hen.lt h j _ hold') (Nat.lt_irrefl _)
      · exact congrArg Prod.fst (heq.trans heq'.symm)
  · have hobs : ∀ n x, (Session.perform j s).2.observers.get? n = some x →
        s.observers.get? n = some x := by
      intro n x hn
      rcases hobs with hsame | ⟨name, herase⟩
      · rwa [hsame] at hn
      · rw [herase, Table.get?_erase] at hn
        split at hn
        · cases hn
        · exact hn
    have hold : ∀ {h : Half} {id k : Nat},
        (id, .observer k) ∈ ((Session.perform j s).2.workspace.registry h.channel).entries →
        (id, .observer k) ∈ (s.workspace.registry h.channel).entries :=
      fun he => hs.mem_of_observer hs' (grown_perform hs j) hobs he
    refine ⟨fun h id k he => ?_, fun h i j k hi hj => ?_⟩
    · rw [hlen]
      exact hen.lt h id k (hold he)
    · exact hen.inj h i j k (hold hi) (hold hj)

/-- Everybody who listens to a half of the selection is listed once. -/
theorem Enrolled.nodup_subscribers (hen : s.Enrolled) (hs : s.Sound held) (h : Half) :
    (s.workspace.registry h.channel).subscribers.Nodup := by
  refine List.pairwise_map.2 ((hs.wired.ascending h.channel).ordered.imp_of_mem ?_)
  rintro ⟨i, x⟩ ⟨j, y⟩ ha hb hlt heq
  obtain rfl : x = y := heq
  refine Nat.ne_of_lt hlt ?_
  cases hx : x.panel? with
  | some p =>
      obtain ⟨t, ht, hat⟩ := hs.wired.entries_of_mem ha hx
      obtain ⟨u, hu, hbu⟩ := hs.wired.entries_of_mem hb hx
      obtain rfl := Option.some.inj (ht.symm.trans hu)
      exact congrArg Prod.fst (Tracker.entry_unique hat hbu)
  | none =>
      cases x with
      | observer k => exact hen.inj h i j k ha hb
      | resync | repaint | arm => cases hx

end Session

end DetailPanel
