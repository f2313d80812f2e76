import DetailPanel.Proofs.Session.Settings
import DetailPanel.Proofs.Workspace.Generations

/-!
# Stale notices

Every binding of a panel has a generation of its own, and a notice for another
generation does nothing.  So of a panel's throttle being armed there is one
explanation only: an event of the result that the panel is bound to, announced
while the panel was bound to it already (`Dispatch`).

    Later m m' → m.session.workspace.Ages m'.session.workspace        (Reachable.ages)
    Reachable m → every arming notice under way has its dispatch      (Reachable.dispatched)
-/

namespace DetailPanel

open Workspace

namespace Session

variable {s : Session} {held : Holdings} {j : Job} {p : PanelId}

/-! ## Jobs -/

theorem progress_perform (hs : s.Sound held) (j : Job) :
    Progress (s.licence j) s.workspace (perform j s).2.workspace := by
  rcases bind_or_advances hs j with ⟨name, rfl⟩ | ⟨held', ms, -⟩
  · obtain ⟨-, w, rfl | ⟨p, rfl⟩, hviews⟩ := perform_bind s name
    · exact hviews.progress
    · exact (progress_bind _ p).trans hviews.progress
  · exact ms.progress

theorem exists_of_armed {g : Nat} (h : armed? j = some (p, g)) :
    ∃ n, j = .deliver ⟨.arm p g, n⟩ := by
  unfold armed? at h
  split at h
  · obtain ⟨rfl, rfl⟩ := Prod.mk.inj (Option.some.inj h)
    exact ⟨_, rfl⟩
  · cases h

/-- A step delivers to subscribers of one channel; on the channel of a result it
delivers the event that it announces. -/
theorem channel_of_mem_begin {t : Step} {d : Delivery} (h : d ∈ (s.begin t).2.1) :
    ∃ c, d.subscriber ∈ (s.workspace.registry c).subscribers ∧
      ∀ r, c = .lifecycle r → ∃ e, s.announced? (.step t) = some (r, e) ∧ d.notice = .lifecycle e := by
  rcases s.deliveries_begin t with hnone | ⟨r, e, he, hds⟩ | ⟨g, v, -, hds⟩
  · rw [hnone] at h
    cases h
  · rw [hds] at h
    obtain ⟨hsub, hn⟩ := subscriber_of_mem_announce h
    refine ⟨.lifecycle r, hsub, ?_⟩
    rintro _ ⟨⟩
    exact ⟨e, he, hn⟩
  · rw [hds] at h
    obtain ⟨hsub, -⟩ := subscriber_of_mem_setHalf h
    refine ⟨g.channel, hsub, fun r hr => ?_⟩
    cases g <;> cases hr

/-- A notice that arms a panel is set off by an event of the result that the panel
is bound to at that time. -/
theorem announced_of_arm (hs : s.Sound held) {g : Nat} {n : Notice}
    (h : .deliver ⟨.arm p g, n⟩ ∈ (perform j s).1) :
    ∃ b e, s.workspace.binding p = some b ∧ b.generation = g ∧
      s.announced? j = some (b.result, e) ∧ n = .lifecycle e := by
  cases j with
  | deliver d =>
      have hd := mem_deliveries.2 h
      rw [perform, deliveries_deliver] at hd
      cases hd
  | step t =>
      obtain ⟨d, hd, hdeq⟩ := List.mem_map.1 h
      obtain rfl := Job.deliver.inj hdeq
      obtain ⟨c, hsub, hann⟩ := channel_of_mem_begin hd
      obtain ⟨id, hid⟩ := Registry.mem_subscribers.1 hsub
      obtain ⟨t, ht, hmem⟩ := hs.wired.entries_of_mem hid rfl
      unfold Tracker.entries at hmem
      split at hmem
      · cases hmem
      · rename_i l hl
        simp only [List.mem_cons, List.mem_map, Prod.mk.injEq, reduceCtorEq, and_false,
          false_or] at hmem
        obtain ⟨b, hb, hc, -, harm⟩ := hmem
        obtain ⟨e, he, hn⟩ := hann b.result hc.symm
        refine ⟨b, e, ?_, ?_, he, hn⟩
        · rw [binding, ht]
          simpa [Tracker.binding, hl] using hb
        · simpa using harm

end Session

namespace Moment

open Session

variable {m m' m'' : Moment} {p : PanelId} {b b' : Binding}

/-- The binding of a panel. -/
def binding (m : Moment) (p : PanelId) : Option Binding := m.session.workspace.binding p

/-! ## Generations -/

theorem ages_next (hr : Reachable m) (hn : Next m m') :
    m.session.workspace.Ages m'.session.workspace := by
  cases hn with
  | call t s => exact .refl _
  | takeLog s => exact .refl _
  | perform j js s =>
      obtain ⟨held, hs⟩ := hr.sound
      exact (progress_perform hs j).toAges

theorem Reachable.ages (hr : Reachable m) (hl : Later m m') :
    m.session.workspace.Ages m'.session.workspace := by
  induction hl with
  | refl => exact .refl _
  | tail hl hn ih => exact ih.trans (ages_next (hr.later hl) hn)

theorem Reachable.stamped (hr : Reachable m) : m.session.workspace.Stamped :=
  (reachable_empty.ages hr).stamped fun p t ht => by cases ht

/-- The tracker of a panel that has a binding. -/
theorem Reachable.tracker (hr : Reachable m) (hb : m.binding p = some b) :
    ∃ t, m.session.workspace.trackers.get? p = some t ∧ t.binding = some b ∧
      b.generation = t.generation ∧ p < m.session.workspace.nextPanel := by
  obtain ⟨t, ht, htb⟩ := Option.bind_eq_some_iff.1 hb
  obtain ⟨held, hs⟩ := hr.sound
  exact ⟨t, ht, htb, hr.stamped p t ht b htb, hs.wired.panel_lt p (by rw [ht]; rfl)⟩

/-- Later on a panel has the same binding, or one of a later generation. -/
theorem Reachable.same_or_lt (hr : Reachable m) (hl : Later m m') (hb : m.binding p = some b)
    (hb' : m'.binding p = some b') : b.Same b' ∨ b.generation < b'.generation := by
  obtain ⟨t, ht, htb, hg, hp⟩ := hr.tracker hb
  obtain ⟨t', ht', htb', -⟩ := (hr.later hl).tracker hb'
  obtain ⟨t₀, ht₀, hages⟩ := (hr.ages hl).trackers p t' hp ht'
  obtain rfl := Option.some.inj (ht.symm.trans ht₀)
  rcases hages.binding b' htb' with ⟨b₀, hb₀, hsame⟩ | hlt
  · obtain rfl := Option.some.inj (htb.symm.trans hb₀)
    exact .inl hsame
  · exact .inr (hg ▸ hlt)

/-- The job that comes next, if it makes a panel handle a change of result. -/
theorem exists_of_resynced (h : m.resynced? = some p) :
    ∃ j js s, m = ⟨j :: js, s⟩ ∧ s.resynced? j = some p := by
  obtain ⟨agenda, s⟩ := m
  cases agenda with
  | nil => cases h
  | cons j js => exact ⟨j, js, s, rfl, h⟩

theorem binding_after_resync {j : Job} {js : List Job} {s : Session} (hj : s.resynced? j = some p)
    (hb' : (after ⟨j :: js, s⟩).binding p = some b') :
    ∃ t, s.workspace.trackers.get? p = some t ∧ b'.generation = t.generation + 1 ∧
      b'.throttle.deadline = none := by
  obtain ⟨w, hw, hviews⟩ := perform_of_resynced hj
  have hbound : (w.resync p).binding p = some b' := (hviews.binding p).symm.trans hb'
  obtain ⟨t, ht, hg, hd⟩ := binding_resync hbound
  exact ⟨t, by rwa [hw.trackers] at ht, hg, hd⟩

/-- By handling a change of result a panel takes a generation that it never had. -/
theorem Reachable.lt_of_resynced (hr : Reachable m) (hl : Later m m') (hb : m.binding p = some b)
    (hj : m'.resynced? = some p) (hb' : m'.after.binding p = some b') :
    b.generation < b'.generation := by
  obtain ⟨j, js, s, rfl, hj⟩ := exists_of_resynced hj
  obtain ⟨t, ht, -, hg, hp⟩ := hr.tracker hb
  obtain ⟨t', ht', hg', -⟩ := binding_after_resync hj hb'
  obtain ⟨t₀, ht₀, hages⟩ := (hr.ages hl).trackers p t' hp ht'
  obtain rfl := Option.some.inj (ht.symm.trans ht₀)
  have := hages.generation
  omega

/-- Once a panel has given a binding up, its generation does not come back. -/
theorem Reachable.generation_ne (hr : Reachable m) (hb : m.binding p = some b) (hl : Later m m')
    (hgone : ∀ b', m'.binding p = some b' → ¬ b.Same b') (hl' : Later m' m'')
    (hb'' : m''.binding p = some b') : b'.generation ≠ b.generation := by
  intro heq
  rcases hr.same_or_lt (hl.trans hl') hb hb'' with hsame | hlt
  · obtain ⟨t, ht, htb, hg, hp⟩ := hr.tracker hb
    obtain ⟨t'', ht'', htb'', -⟩ := (hr.later (hl.trans hl')).tracker hb''
    have hp' := Nat.lt_of_lt_of_le hp (hr.ages hl).nextPanel
    obtain ⟨t', ht', hages'⟩ := ((hr.later hl).ages hl').trackers p t'' hp' ht''
    obtain ⟨t₀, ht₀, hages⟩ := (hr.ages hl).trackers p t' hp ht'
    obtain rfl := Option.some.inj (ht.symm.trans ht₀)
    -- the binding that comes back was there all the time, or is of a later generation
    rcases hages'.binding b' htb'' with ⟨b₁, hb₁, hsame₁⟩ | hlt
    · refine hgone b₁ (by rw [binding, Workspace.binding, ht']; exact hb₁) ?_
      exact hsame.trans hsame₁.symm
    · have := hages.generation
      omega
  · omega

/-- The next job binds the panel: it has a binding then which it did not have before. -/
def Binds (m : Moment) (p : PanelId) (b : Binding) : Prop :=
  m.after.binding p = some b ∧ ∀ b₀, m.binding p = some b₀ → ¬ b₀.Same b

/-- Only the handling of a change of result binds a panel. -/
theorem Reachable.resynced_of_binds (hr : Reachable m) (h : Binds m p b) :
    m.resynced? = some p := by
  obtain ⟨agenda, s⟩ := m
  obtain ⟨hb, hnew⟩ := h
  cases agenda with
  | nil => exact absurd (.refl b) (hnew b hb)
  | cons j js =>
      obtain ⟨held, hs⟩ := hr.sound
      refine Decidable.byContradiction fun hres => ?_
      have hkept : ∃ b₀, s.workspace.binding p = some b₀ ∧ b₀.Same b := by
        by_cases harm : ∃ g, armed? j = some (p, g)
        · obtain ⟨g, hg⟩ := harm
          obtain ⟨n, rfl⟩ := exists_of_armed hg
          have hbound : (s.workspace.arm p g).binding p = some b :=
            ((viewsOnly_deliver s ⟨.arm p g, n⟩).binding p).symm.trans hb
          exact same_of_binding_arm hbound
        · obtain ⟨b₀, hb₀, hc⟩ := (progress_perform hs j).continues p b hres
            (fun g hg => harm ⟨g, hg⟩) hb
          exact ⟨b₀, hb₀, hc.toSame⟩
      obtain ⟨b₀, hb₀, hsame⟩ := hkept
      exact hnew b₀ hb₀ hsame

/-- A notice through the subscription of a binding that the panel has given up
does nothing. -/
theorem Reachable.deliver_of_given_up (hr : Reachable m) (hb : m.binding p = some b)
    {s : Subscriber}
    (hs : (b.subscription, s) ∈ (m.session.workspace.registry (.lifecycle b.result)).entries)
    (hl : Later m m') (hgone : ∀ b', m'.binding p = some b' → ¬ b.Same b') (hl' : Later m' m'')
    (n : Notice) : m''.session.workspace.deliver ⟨s, n⟩ = m''.session.workspace := by
  obtain ⟨t, ht, htb, -⟩ := hr.tracker hb
  obtain ⟨lis, hlis, hlb⟩ := Option.bind_eq_some_iff.1 htb
  obtain ⟨held, hsound⟩ := hr.sound
  have hmine : (b.subscription, .arm p b.generation) ∈
      (m.session.workspace.registry (.lifecycle b.result)).entries :=
    hsound.wired.mem_of_entries ht (by simp [Tracker.entries, hlis, hlb])
  obtain rfl : s = .arm p b.generation :=
    congrArg Prod.snd ((hsound.wired.ascending _).eq_of_id hs hmine rfl)
  exact arm_of_other_generation fun b' hb' => hr.generation_ne hb hl hgone hl' hb'

/-! ## Where arming notices come from -/

/-- An announcement of an event of the result that a panel is bound to, among
whose deliveries is one to the panel. -/
structure Dispatch (p : PanelId) where
  session : Session
  /-- The job that announces the event, and what was to be done after it. -/
  job : Job
  waiting : List Job
  binding : Binding
  event : LifecycleEvent
  /-- The deliveries in front of the panel's, and those behind it. -/
  front : List Job
  behind : List Job
  reachable : Reachable ⟨job :: waiting, session⟩
  bound : session.workspace.binding p = some binding
  announced : session.announced? job = some (binding.result, event)
  jobs : (perform job session).1 =
    front ++ .deliver ⟨.arm p binding.generation, .lifecycle event⟩ :: behind

namespace Dispatch

variable (o : Dispatch p)

def delivery : Delivery := ⟨.arm p o.binding.generation, .lifecycle o.event⟩

/-- What is left to do when the delivery has been made. -/
def rest : List Job := o.behind ++ o.waiting

/-- The moment when the announcement begins. -/
def start : Moment := ⟨o.job :: o.waiting, o.session⟩

/-- The session when the deliveries in front have been made, with all they set off. -/
def sessionAtDelivery : Session := machine.run o.front (perform o.job o.session).2

/-- The moment when the delivery is next. -/
def due : Moment := ⟨.deliver o.delivery :: o.rest, o.sessionAtDelivery⟩

end Dispatch

/-- Every arming notice under way belongs to a dispatch, which has come to it when
the jobs in front are worked off. -/
def Dispatched (m : Moment) : Prop :=
  ∀ front rest p g n, m.agenda = front ++ .deliver ⟨.arm p g, n⟩ :: rest →
    ∃ o : Dispatch p, o.delivery = ⟨.arm p g, n⟩ ∧ o.rest = rest ∧
      o.sessionAtDelivery = machine.run front m.session ∧ Later o.start m

theorem dispatched_of_nil {s : Session} : Dispatched ⟨[], s⟩ := by
  intro front rest p g n h
  cases front <;> cases h

theorem dispatched_perform {j : Job} {js : List Job} {s : Session} (hr : Reachable ⟨j :: js, s⟩)
    (h : Dispatched ⟨j :: js, s⟩) : Dispatched (after ⟨j :: js, s⟩) := by
  intro front rest p g n hagenda
  have hlater : Later ⟨j :: js, s⟩ (after ⟨j :: js, s⟩) := .single (.perform j js s)
  rcases List.append_eq_append_iff.1 (show (perform j s).1 ++ js = _ from hagenda) with
    ⟨middle, rfl, hjs⟩ | ⟨behind, hnew, hrest⟩
  · -- the notice was under way before
    obtain ⟨o, hdel, hrest, hrun, hl⟩ := h (j :: middle) rest p g n (by rw [hjs]; rfl)
    refine ⟨o, hdel, hrest, ?_, hl.trans hlater⟩
    rw [hrun]
    exact machine.run_cons j middle s
  · cases behind with
    | nil =>
        obtain ⟨o, hdel, hrest, hrun, hl⟩ := h [j] rest p g n (by simpa using hrest.symm)
        refine ⟨o, hdel, hrest, ?_, hl.trans hlater⟩
        rw [hrun, show front = (perform j s).1 by simpa using hnew.symm]
        refine (machine.run_cons j [] s).trans ?_
        rw [List.append_nil]
        rfl
    | cons d behind =>
        obtain ⟨rfl, rfl⟩ := List.cons.inj hrest
        obtain ⟨held, hs⟩ := hr.sound
        obtain ⟨b, e, hb, rfl, hann, rfl⟩ := announced_of_arm hs (j := j) (p := p) (g := g) (n := n)
          (by rw [hnew]; simp)
        exact ⟨⟨s, j, js, b, e, front, behind, hr, hb, hann, hnew⟩, rfl, rfl, rfl, hlater⟩

theorem Reachable.dispatched (hr : Reachable m) : Dispatched m := by
  induction hr with
  | refl => exact dispatched_of_nil
  | @tail m m' hr hn ih =>
      cases hn with
      | call t s =>
          intro front rest p g n h
          obtain _ | ⟨_, _ | _⟩ := front <;> cases h
      | takeLog s => exact dispatched_of_nil
      | perform j js s => exact dispatched_perform hr ih

/-- The panel was armed for a deadline by the delivery of a dispatch. -/
def ArmedBy (m : Moment) (p : PanelId) (b : Binding) (d : Nat) : Prop :=
  ∃ o : Dispatch p, o.binding.Same b ∧
    o.sessionAtDelivery.workspace.timeOf p + b.throttle.window = d ∧ Later o.due m

theorem ArmedBy.later {d : Nat} (h : ArmedBy m p b d) (hb : b.Same b') (hl : Later m m') :
    ArmedBy m' p b' d := by
  obtain ⟨o, hsame, htime, hdue⟩ := h
  exact ⟨o, hsame.trans hb, hb.window ▸ htime, hdue.trans hl⟩

/-- A notice that arms a throttle for its first deadline is the delivery of a dispatch. -/
theorem armedBy_of_due {g d : Nat} {n : Notice} {js : List Job} {s : Session}
    (hr : Reachable ⟨.deliver ⟨.arm p g, n⟩ :: js, s⟩) (hb : s.workspace.binding p = some b)
    (hg : b.generation = g) (hd : s.workspace.timeOf p + b.throttle.window = d) :
    ArmedBy ⟨.deliver ⟨.arm p g, n⟩ :: js, s⟩ p b d := by
  obtain ⟨o, hdel, hrest, hrun, hl⟩ := hr.dispatched [] js p g n rfl
  rw [machine.run_nil] at hrun
  refine ⟨o, ?_, by rw [hrun, hd], ?_⟩
  · have hog : o.binding.generation = g := by
      simpa [Dispatch.delivery] using congrArg Delivery.subscriber hdel
    refine (o.reachable.same_or_lt hl o.bound hb).resolve_right ?_
    omega
  · rw [Dispatch.due, hdel, hrest, hrun]

theorem armedBy_perform {j : Job} {js : List Job} {s : Session} (hr : Reachable ⟨j :: js, s⟩)
    (ih : ∀ b d, s.workspace.binding p = some b → b.throttle.deadline = some d →
      ArmedBy ⟨j :: js, s⟩ p b d) {d : Nat}
    (hb : (after ⟨j :: js, s⟩).binding p = some b) (hd : b.throttle.deadline = some d) :
    ArmedBy (after ⟨j :: js, s⟩) p b d := by
  have hnext : Later ⟨j :: js, s⟩ (after ⟨j :: js, s⟩) := .single (.perform j js s)
  by_cases hres : s.resynced? j = some p
  · -- the throttle is new
    obtain ⟨t, -, -, hnone⟩ := binding_after_resync hres hb
    rw [hnone] at hd
    cases hd
  · by_cases harm : ∃ g, armed? j = some (p, g)
    · obtain ⟨g, hg⟩ := harm
      obtain ⟨n, rfl⟩ := exists_of_armed hg
      have hbound : (s.workspace.arm p g).binding p = some b :=
        ((viewsOnly_deliver s ⟨.arm p g, n⟩).binding p).symm.trans hb
      obtain ⟨b₀, hb₀, hsame, hd₀ | ⟨hgen, htime⟩⟩ := deadline_arm hbound hd
      · exact (ih b₀ d hb₀ hd₀).later hsame hnext
      · exact (armedBy_of_due hr hb₀ hgen htime).later hsame hnext
    · obtain ⟨held, hs⟩ := hr.sound
      obtain ⟨b₀, hb₀, hc⟩ := (progress_perform hs j).continues p b hres
        (fun g hg => harm ⟨g, hg⟩) hb
      exact (ih b₀ d hb₀ (hc.deadline hd)).later hc.toSame hnext

/-- A throttle that is armed was armed by the delivery of a dispatch. -/
theorem Reachable.armedBy (hr : Reachable m) {d : Nat} (hb : m.binding p = some b)
    (hd : b.throttle.deadline = some d) : ArmedBy m p b d := by
  induction hr generalizing b d with
  | refl => cases hb
  | tail hr hn ih =>
      cases hn with
      | call t s => exact (ih hb hd).later (.refl b) (.single (.call t s))
      | takeLog s => exact (ih hb hd).later (.refl b) (.single (.takeLog s))
      | perform j js s => exact armedBy_perform hr (fun b d => ih) hb hd

/-! ## Bindings are told apart -/

/-- What its generation does for a binding that a panel has at a moment. -/
structure ToldApart (m : Moment) (p : PanelId) (b : Binding) : Prop where
  /-- Whatever binding the panel takes from then on is of a later generation. -/
  fresh : ∀ m' b', Later m m' → Binds m' p b' → b.generation < b'.generation
  /-- It takes one whenever it handles a change of result, the same result or not. -/
  resynced : ∀ m' b', Later m m' → m'.resynced? = some p → m'.after.binding p = some b' →
    b.generation < b'.generation
  /-- Once the panel has given the binding up, nothing that is delivered through its
  subscription does anything. -/
  inert : ∀ s, (b.subscription, s) ∈ (m.session.workspace.registry (.lifecycle b.result)).entries →
    ∀ m' m'', Later m m' → (∀ b', m'.binding p = some b' → ¬ b.Same b') → Later m' m'' →
      ∀ n, m''.session.workspace.deliver ⟨s, n⟩ = m''.session.workspace
  /-- If the throttle is armed, then by an event of the result of the binding. -/
  armed : ∀ d, b.throttle.deadline = some d → ArmedBy m p b d

/-- At every moment each binding is told apart from all that its panel takes later.
Generations do not wrap here. -/
theorem bindings_told_apart (hr : Reachable m) (hb : m.binding p = some b) : ToldApart m p b where
  fresh _ _ hl hbinds := hr.lt_of_resynced hl hb ((hr.later hl).resynced_of_binds hbinds) hbinds.1
  resynced _ _ hl hj hb' := hr.lt_of_resynced hl hb hj hb'
  inert _ hs _ _ hl hgone hl' n := hr.deliver_of_given_up hb hs hl hgone hl' n
  armed _ hd := hr.armedBy hb hd

/-- A view that is shown follows a result, and a fetch of the result begins. -/
def armedView : Moment :=
  let setup : List Session.Step := [.addResult "a" "A" false, .select (some "a"), .view "v" {} false,
    .showView "v", .fetch "a" .begin]
  after (setup.foldl (fun m t => after ⟨[.step t], m.session⟩) ⟨[], {}⟩)

def armedBinding : Binding :=
  { result := 1, generation := 1, throttle := { window := 60, armedAt := some 0 }, subscription := 1 }

theorem armedView_told_apart :
    Reachable armedView ∧ armedView.binding 0 = some armedBinding ∧
      ToldApart armedView 0 armedBinding := by
  have hadded := (reachable_empty.call rfl (.addResult "a" "A" false)).after
  have hselected := (hadded.call rfl (.select (some "a"))).after
  have hmade := (hselected.call rfl (.view "v" {} false)).after
  have hshown := (hmade.call rfl (.showView "v")).after
  have harmed : Reachable armedView := (hshown.call rfl (.fetch "a" .begin)).after.after
  exact ⟨harmed, rfl, bindings_told_apart harmed rfl⟩

end Moment

end DetailPanel
