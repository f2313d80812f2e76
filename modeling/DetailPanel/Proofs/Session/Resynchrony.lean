import DetailPanel.Proofs.Session.Silence
import DetailPanel.Proofs.Session.TopLevel

/-!
# A render forgets the past

A view that listens is, once it was rendered, in the state of a view that was just
made and shown: only its name and its count of recomputes tell them apart, and
what happens to a panel depends on neither (`Tracker.Blind`).  So the two stay
alike and count alike from then on, as long as all that happens is at the top level.

    Blind f → t.Twins a b t' → (f t).Twins a b (f t')                    (Twins.map)
    d.Fits v f → g.Paired v f a b → (g.run (d.steps v f)).Paired v f a b  (paired_deed)
    a view not torn down keeps step with a fresh one once it is rendered  (render_resynchronises)

All steps are at the top level where the observers only look on (`Silent.topLevel`).
Elsewhere the two may part: an observer that stands between the two views in a registry
and starts a fetch from inside its notice finds one of them bound to the new result
and the other still to the old one.
-/

namespace DetailPanel

open Workspace

/-! ## Twins -/

namespace Tracker

/-- Two trackers that differ by name and count only, and the counts have grown by as
much since they were `a` and `b`. -/
def Twins (a b : Nat) (t t' : Tracker) : Prop :=
  ∃ name k, t.recomputes = a + k ∧ t' = { t with name, recomputes := b + k }

/-- What looks neither at the name nor at the count, and may add to the count. -/
def Blind (f : Tracker → Tracker) : Prop :=
  ∀ t name n, ∃ k, (f t).recomputes = t.recomputes + k ∧
    f { t with name, recomputes := n } = { f t with name, recomputes := n + k }

variable {a b : Nat} {t t' : Tracker} {f : Tracker → Tracker}

theorem Twins.map (h : t.Twins a b t') (hf : Blind f) : (f t).Twins a b (f t') := by
  obtain ⟨name, k, hk, rfl⟩ := h
  obtain ⟨i, hi, heq⟩ := hf t name (b + k)
  exact ⟨name, k + i, by rw [hi, hk, Nat.add_assoc], by rw [heq, Nat.add_assoc]⟩

theorem Twins.symm (h : t.Twins a b t') : t'.Twins b a t := by
  obtain ⟨name, k, hk, rfl⟩ := h
  exact ⟨t.name, k, rfl, by rw [← hk]⟩

/-- The counts may be taken from where they are. -/
theorem Twins.rebase (h : t.Twins a b t') : t.Twins t.recomputes t'.recomputes t' := by
  obtain ⟨name, k, -, rfl⟩ := h
  exact ⟨name, 0, rfl, rfl⟩

theorem blind_followed (c : Scene) : Blind (·.followed c) := by
  intro t name n
  by_cases hl : t.listening.isSome
  · exact ⟨1, by simp [followed, hl, paint], by simp [followed, hl, paint]⟩
  · exact ⟨0, by simp [followed, hl], by simp [followed, hl]⟩

theorem blind_repainted (live : Flags) : Blind (·.repainted live) := by
  intro t name n
  by_cases hl : t.listening.isSome
  · exact ⟨1, by simp [repainted, hl, paint], by simp [repainted, hl, paint]⟩
  · exact ⟨0, by simp [repainted, hl], by simp [repainted, hl]⟩

theorem binding_renamed (t : Tracker) (name : String) (n : Nat) :
    binding { t with name, recomputes := n } = t.binding := rfl

theorem blind_notified (r : ResultId) (c : Clock) : Blind (·.notified r c) := by
  intro t name n
  refine ⟨0, ?_, ?_⟩
  · simp only [notified]
    split
    · split <;> rfl
    · rfl
  · simp only [notified, binding_renamed]
    split
    · split <;> rfl
    · rfl

theorem blind_heard (x : Scene) (c : Channel) : Blind (·.heard x c) := by
  cases c with
  | result => exact blind_followed x
  | card => exact blind_repainted x.live
  | lifecycle r => exact blind_notified r x.clock

theorem takeDue_renamed (t : Tracker) (name : String) (n time : Nat) :
    takeDue { t with name, recomputes := n } time =
      ((t.takeDue time).1, { (t.takeDue time).2 with name, recomputes := n }) := by
  simp only [takeDue, binding_renamed]
  split <;> rfl

theorem recomputes_takeDue (t : Tracker) (time : Nat) :
    (t.takeDue time).2.recomputes = t.recomputes := by
  unfold takeDue
  split <;> rfl

theorem blind_polled (live : Flags) (time : Nat) : Blind (·.polled live time) := by
  intro t name n
  by_cases hdue : (t.takeDue time).1
  · refine ⟨1, ?_, ?_⟩
    · simp [polled, hdue, paint, recomputes_takeDue]
    · simp [polled, takeDue_renamed, hdue, paint]
  · refine ⟨0, ?_, ?_⟩
    · simp [polled, hdue, recomputes_takeDue]
    · simp [polled, takeDue_renamed, hdue]

theorem blind_silenced : Blind silenced := fun _ _ _ => ⟨0, rfl, rfl⟩

end Tracker

namespace Portrait

/-- Two views with twin trackers. -/
def Twins (a b : Nat) (v v' : Portrait) : Prop :=
  ∃ t t', v.tracker = some t ∧ v'.tracker = some t' ∧ t.Twins a b t'

variable {a b : Nat} {v v' : Portrait}

theorem Twins.symm (h : v.Twins a b v') : v'.Twins b a v := by
  obtain ⟨t, t', ht, ht', htwins⟩ := h
  exact ⟨t', t, ht', ht, htwins.symm⟩

theorem Twins.mapTracker (h : v.Twins a b v') {f : Tracker → Tracker} (hf : Tracker.Blind f) :
    (v.mapTracker f).Twins a b (v'.mapTracker f) := by
  obtain ⟨t, t', ht, ht', htwins⟩ := h
  exact ⟨f t, f t', congrArg (Option.map f) ht, congrArg (Option.map f) ht', htwins.map hf⟩

theorem Twins.polled (h : v.Twins a b v') (x : Scene) (time : Nat) :
    (v.polled x time).Twins a b (v'.polled x time) := h.mapTracker (Tracker.blind_polled x.live time)

theorem Twins.isDue (h : v.Twins a b v') (time : Nat) : v.isDue time = v'.isDue time := by
  obtain ⟨t, t', ht, ht', name, k, -, rfl⟩ := h
  rw [Portrait.isDue, Portrait.isDue, ht, ht']
  simp [Tracker.takeDue_renamed]

theorem Twins.time (h : v.Twins a b v') (x : Scene) : v.time x = v'.time x := by
  obtain ⟨t, t', ht, ht', name, k, -, rfl⟩ := h
  rw [Portrait.time, Portrait.time, ht, ht']
  rfl

/-- Twins answer a message in the same manner, and it makes twins of them. -/
theorem Twins.update (h : v.Twins a b v') (x : Scene) (m : Message) :
    (v.update x m).1 = (v'.update x m).1 ∧ (v.update x m).2.Twins a b (v'.update x m).2 := by
  cases m with
  | showView => exact ⟨rfl, h.mapTracker (Tracker.blind_followed x)⟩
  | render => exact ⟨rfl, h.mapTracker (Tracker.blind_followed x)⟩
  | tick =>
      have htime := h.time x
      refine ⟨?_, ?_⟩
      · show v.isDue (v.time x) = v'.isDue (v'.time x)
        rw [htime, h.isDue]
      · show (v.polled x (v.time x)).Twins a b (v'.polled x (v'.time x))
        rw [htime]
        exact h.polled x _
  | teardown => exact ⟨rfl, h.mapTracker Tracker.blind_silenced⟩

end Portrait

/-! ## Views that keep step -/

namespace Session

/-- What can be sent to a view that is there. -/
inductive Call where
  | update (message : Message)
  | tick (time : Option Nat)
  deriving DecidableEq, Repr

namespace Call

def step (name : String) : Call → Step
  | .update message => .update name message
  | .tick time => .tick name time

/-- What comes of a call: the answer and the view. -/
def act (x : Scene) (v : Portrait) : Call → Answer × Portrait
  | .update message => (v.update x message).map Answer.bool id
  | .tick time => pollPortrait v x time

end Call

/-- What may be done while two views are to keep step: something that is for neither of
them, or the same for both, be it for the one or the other first. -/
inductive Deed where
  | other (t : Step)
  | both (c : Call) (swapped : Bool)

namespace Deed

def steps (v f : String) : Deed → List Step
  | .other t => [t]
  | .both c false => [c.step v, c.step f]
  | .both c true => [c.step f, c.step v]

def Fits (v f : String) : Deed → Prop
  | .other t => t.OnViews ∧ t.view? ≠ some v ∧ t.view? ≠ some f
  | .both .. => True

theorem Fits.onViews {d : Deed} {v f : String} (h : d.Fits v f) : ∀ t ∈ d.steps v f, t.OnViews := by
  have hcall : ∀ (c : Call) name, (c.step name).OnViews := by
    intro c name
    cases c <;> exact trivial
  cases d with
  | other t =>
      intro t' ht'
      obtain rfl := List.mem_singleton.1 ht'
      exact h.1
  | both c swapped => cases swapped <;> simp [steps, hcall]

end Deed

namespace Panorama

/-- Two views are twins. -/
def Paired (g : Panorama) (v f : String) (a b : Nat) : Prop :=
  ∃ x y, g.views v = some x ∧ g.views f = some y ∧ x.Twins a b y

variable {g : Panorama} {v f : String} {a b : Nat}

theorem step_call (g : Panorama) (c : Call) (name : String) :
    g.step (c.step name) = g.place name (present (g.views name) fun x => c.act g.scene x) := by
  cases c <;> rfl

/-- A call changes the view that it is for. -/
theorem views_call (g : Panorama) (c : Call) (name n : String) :
    (g.step (c.step name)).2.views n =
      if n = name then (g.views n).map fun x => (c.act g.scene x).2 else g.views n := by
  rw [step_call]
  show Function.update g.views name _ n = _
  rw [Function.update_apply]
  split
  · rename_i hn
    rw [hn]
    cases g.views name <;> rfl
  · rfl

theorem scene_call (g : Panorama) (c : Call) (name : String) :
    (g.step (c.step name)).2.scene = g.scene := by
  rw [step_call]
  rfl

theorem answer_call {x : Portrait} {name : String} (hx : g.views name = some x) (c : Call) :
    (g.step (c.step name)).1 = (c.act g.scene x).1 := by
  rw [step_call, hx]
  rfl

theorem act_twins {x y : Portrait} (h : x.Twins a b y) (z : Scene) (c : Call) :
    (c.act z x).1 = (c.act z y).1 ∧ (c.act z x).2.Twins a b (c.act z y).2 := by
  cases c with
  | update message =>
      obtain ⟨hanswer, htwins⟩ := h.update z message
      exact ⟨congrArg Answer.bool hanswer, htwins⟩
  | tick time => exact ⟨congrArg Answer.bool (h.isDue _), h.polled z _⟩

theorem Paired.symm (h : g.Paired v f a b) : g.Paired f v b a := by
  obtain ⟨x, y, hx, hy, htwins⟩ := h
  exact ⟨y, x, hy, hx, htwins.symm⟩

/-- The same call answers the same in both views, and the calls leave them twins. -/
theorem paired_call (h : g.Paired v f a b) (hne : f ≠ v) (c : Call) :
    (g.step (c.step v)).1 = ((g.step (c.step v)).2.step (c.step f)).1 ∧
      ((g.step (c.step v)).2.step (c.step f)).2.Paired v f a b := by
  obtain ⟨x, y, hx, hy, htwins⟩ := h
  obtain ⟨hanswer, htwins'⟩ := act_twins htwins g.scene c
  have hfresh : (g.step (c.step v)).2.views f = some y := by
    rw [views_call, if_neg hne, hy]
  refine ⟨?_, (c.act g.scene x).2, (c.act g.scene y).2, ?_, ?_, htwins'⟩
  · rw [answer_call hx, answer_call hfresh, scene_call, hanswer]
  · rw [views_call, if_neg hne.symm, views_call, if_pos rfl, hx]
    rfl
  · rw [views_call, if_pos rfl, hfresh, scene_call]
    rfl

/-- What is for no view is heard of by all views, or by none. -/
theorem change_step (b : Backdrop) (t : Step) :
    (b.step t).change = id ∨ ∃ x c, (b.step t).change = (·.heard x c) := by
  have hresult : ∀ {key : String} {f : ResultId → Turn},
      (∀ r, (f r).change = id ∨ ∃ x c, (f r).change = (·.heard x c)) →
      (b.withResult key f).change = id ∨ ∃ x c, (b.withResult key f).change = (·.heard x c) := by
    intro key f hf
    unfold Backdrop.withResult
    split
    · exact hf _
    · exact .inl rfl
  have hselect : ∀ r, (b.selectResult r).change = id ∨
      ∃ x c, (b.selectResult r).change = (·.heard x c) := by
    intro r
    unfold Backdrop.selectResult
    split
    · exact .inl rfl
    · exact .inr ⟨_, _, rfl⟩
  cases t with
  | setSearching key on => exact hresult fun _ => .inl rfl
  | fetch key move => exact hresult fun _ => .inr ⟨_, _, rfl⟩
  | announce key event => exact hresult fun _ => .inr ⟨_, _, rfl⟩
  | select key =>
      cases key with
      | none => exact hselect none
      | some key => exact hresult fun r => hselect (some r)
  | selectCard card =>
      simp only [Backdrop.step, Backdrop.selectCard]
      split
      · exact .inl rfl
      · exact .inr ⟨_, _, rfl⟩
  | observe name topic script =>
      cases topic with
      | result | card => exact .inl rfl
      | lifecycle key => exact hresult fun _ => .inl rfl
  | _ => exact .inl rfl

theorem paired_other {t : Step} (h : g.Paired v f a b) (hv : t.view? ≠ some v)
    (hf : t.view? ≠ some f) : (g.step t).2.Paired v f a b := by
  obtain ⟨x, y, hx, hy, htwins⟩ := h
  unfold step
  cases hname : t.view? with
  | none =>
      have hviews : ∀ n, (g.turn (g.toBackdrop.step t)).2.views n =
          (g.views n).map (g.toBackdrop.step t).change := fun _ => rfl
      refine ⟨(g.toBackdrop.step t).change x, (g.toBackdrop.step t).change y, ?_, ?_, ?_⟩
      · rw [hviews, hx, Option.map_some]
      · rw [hviews, hy, Option.map_some]
      · rcases change_step g.toBackdrop t with hid | ⟨z, c, hheard⟩
        · rw [hid]
          exact htwins
        · rw [hheard]
          exact htwins.mapTracker (Tracker.blind_heard z c)
  | some name =>
      have hkept : ∀ n ≠ name, (g.place name (actOn g.scene (g.views name) t)).2.views n =
          g.views n := fun n hn => Function.update_of_ne hn _ _
      refine ⟨x, y, ?_, ?_, htwins⟩
      · rw [hkept v fun heq => hv (heq ▸ hname), hx]
      · rw [hkept f fun heq => hf (heq ▸ hname), hy]

theorem paired_deed {d : Deed} (h : g.Paired v f a b) (hne : f ≠ v) (hd : d.Fits v f) :
    (g.run (d.steps v f)).Paired v f a b := by
  cases d with
  | other t => exact paired_other h hd.2.1 hd.2.2
  | both c swapped =>
      cases swapped with
      | false => exact (paired_call h hne c).2
      | true => exact (paired_call h.symm hne.symm c).2.symm

/-- Twins stay twins. -/
theorem paired_run {ds : List Deed} (h : g.Paired v f a b) (hne : f ≠ v)
    (hds : ∀ d ∈ ds, d.Fits v f) : (g.run (ds.flatMap (·.steps v f))).Paired v f a b := by
  induction ds generalizing g with
  | nil => exact h
  | cons d ds ih =>
      have hrun : g.run ((d :: ds).flatMap (·.steps v f)) =
          (g.run (d.steps v f)).run (ds.flatMap (·.steps v f)) := List.foldl_append
      rw [hrun]
      exact ih (paired_deed h hne (hds d (by simp))) fun e he => hds e (List.mem_cons_of_mem _ he)

end Panorama

/-- Two views show the same. -/
structure Alike (x y : Sight) : Prop where
  flags : x.flags = y.flags
  root : x.root = y.root
  state : x.state = y.state
  deadline : x.deadline = y.deadline

/-- Two views keep step from when they looked like `x` and `y`. -/
structure KeepStep (v f : String) (x y : Sight) (s : Session) : Prop where
  /-- They show the same, and their counts have grown by as much. -/
  shown : ∃ x' y', s.sight? v = some x' ∧ s.sight? f = some y' ∧ Alike x' y' ∧
    ∃ k, x'.recomputes = x.recomputes.map (· + k) ∧ y'.recomputes = y.recomputes.map (· + k)
  /-- They answer the same, whichever is called first. -/
  answers : ∀ c : Call, (s.apply (c.step v)).1 = ((s.apply (c.step v)).2.apply (c.step f)).1 ∧
    (s.apply (c.step f)).1 = ((s.apply (c.step f)).2.apply (c.step v)).1

variable {s : Session} {held : Holdings} {v f : String} {a b : Nat}

theorem deliveries_call (s : Session) (c : Call) (name : String) :
    (s.begin (c.step name)).2.1 = [] := by
  cases c <;> exact deliveries_withView ..

theorem unnumbered_call (s : Session) (c : Call) (name : String) :
    (s.apply (c.step name)).1.unnumbered = (s.apply (c.step name)).1 := by
  have hview : ∀ {w : PanelId → Answer × Workspace}, (∀ p, (w p).1.unnumbered = (w p).1) →
      (s.withView name w).1.unnumbered = (s.withView name w).1 := by
    intro w hw
    unfold withView
    split
    · exact hw _
    · rfl
  cases c with
  | update message =>
      exact hview (w := fun p => (s.workspace.update p message).map Answer.bool id) fun _ => rfl
  | tick time => exact hview (w := s.pollAt time) fun _ => rfl

theorem panorama_call (hs : s.Sound held) (c : Call) (name : String) :
    (s.apply (c.step name)).1 = (s.panorama.step (c.step name)).1 ∧
      (s.apply (c.step name)).2.panorama = (s.panorama.step (c.step name)).2 := by
  have hviews : (c.step name).OnViews := by cases c <;> exact trivial
  have hquiet : (s.begin (c.step name)).2.2.settle.undisturbed (s.begin (c.step name)).2.1 := by
    rw [deliveries_call]
    rfl
  have hstep := panorama_of_undisturbed hs hviews hquiet
  rw [unnumbered_call] at hstep
  exact ⟨congrArg Prod.fst hstep, congrArg Prod.snd hstep⟩

/-- In a sound session twins answer the same. -/
theorem answer_of_paired (hs : s.Sound held) (h : s.panorama.Paired v f a b) (hne : f ≠ v)
    (c : Call) : (s.apply (c.step v)).1 = ((s.apply (c.step v)).2.apply (c.step f)).1 := by
  obtain ⟨held', hs'⟩ := sound_apply hs (c.step v)
  obtain ⟨hanswer, hpanorama⟩ := panorama_call hs c v
  rw [hanswer, (panorama_call hs' c f).1, hpanorama]
  exact (Panorama.paired_call h hne c).1

theorem sights_of_paired (h : s.panorama.Paired v f a b) : ∃ x y, s.sight? v = some x ∧
    s.sight? f = some y ∧ Alike x y ∧ ∃ k, x.recomputes = some (a + k) ∧
      y.recomputes = some (b + k) := by
  obtain ⟨x, y, hx, hy, t, t', ht, ht', name, k, hk, rfl⟩ := h
  refine ⟨x.sight, y.sight, ?_, ?_, ?_, k, ?_, ?_⟩
  · rw [sight?_eq, hx, Option.map_some]
  · rw [sight?_eq, hy, Option.map_some]
  · constructor <;> simp only [Portrait.sight, ht, ht'] <;> rfl
  · show x.tracker.map (·.recomputes) = _
    rw [ht, Option.map_some, hk]
  · show y.tracker.map (·.recomputes) = _
    rw [ht', Option.map_some]

/-- Twins keep step through whatever is done at the top level. -/
theorem keepStep_of_paired (hs : s.Sound held) (h : s.panorama.Paired v f a b) (hne : f ≠ v) :
    ∃ y z, s.sight? v = some y ∧ s.sight? f = some z ∧ Alike y z ∧
      ∀ ds : List Deed, (∀ d ∈ ds, d.Fits v f) → s.topLevel (ds.flatMap (·.steps v f)) →
        KeepStep v f y z (s.applyAll (ds.flatMap (·.steps v f))) := by
  obtain ⟨x, x', hx, hx', t, t', ht, ht', htwins⟩ := h
  have hbase : s.panorama.Paired v f t.recomputes t'.recomputes :=
    ⟨x, x', hx, hx', t, t', ht, ht', htwins.rebase⟩
  have hcount : x.sight.recomputes = some t.recomputes := congrArg (Option.map Tracker.recomputes) ht
  have hcount' : x'.sight.recomputes = some t'.recomputes :=
    congrArg (Option.map Tracker.recomputes) ht'
  have hy : s.sight? v = some x.sight := by rw [sight?_eq, hx, Option.map_some]
  have hz : s.sight? f = some x'.sight := by rw [sight?_eq, hx', Option.map_some]
  refine ⟨x.sight, x'.sight, hy, hz, ?_, fun ds hds htop => ?_⟩
  · obtain ⟨y, z, hy', hz', halike, -⟩ := sights_of_paired hbase
    obtain rfl := Option.some.inj (hy.symm.trans hy')
    obtain rfl := Option.some.inj (hz.symm.trans hz')
    exact halike
  · have hviews : ∀ t ∈ ds.flatMap (·.steps v f), t.OnViews := by
      intro t ht
      obtain ⟨d, hd, htd⟩ := List.mem_flatMap.1 ht
      exact (hds d hd).onViews t htd
    obtain ⟨held', hs'⟩ := sound_applyAll hs (ds.flatMap (·.steps v f))
    have hpaired := Panorama.paired_run hbase hne hds
    rw [← panorama_of_topLevel hs hviews htop] at hpaired
    obtain ⟨y, z, hy', hz', halike, k, hyk, hzk⟩ := sights_of_paired hpaired
    refine ⟨⟨y, z, hy', hz', halike, k, ?_, ?_⟩, fun c => ⟨answer_of_paired hs' hpaired hne c,
      answer_of_paired hs' hpaired.symm hne.symm c⟩⟩
    · rw [hyk, hcount, Option.map_some]
    · rw [hzk, hcount', Option.map_some]

/-! ## A view that is rendered and a view that is new -/

/-- A tracker that follows the selection has nothing pending. -/
theorem deadline_followed {t : Tracker} (h : t.listening.isSome) (c : Scene) :
    (t.followed c).deadline = none := by
  obtain ⟨l, hl⟩ := Option.isSome_iff_exists.1 h
  cases hc : c.result <;> simp [Tracker.followed, hl, hc, Tracker.deadline, Tracker.binding,
    Throttle.deadline]

/-- A view that listens is after a render like one that was just made and shown. -/
theorem rendered_twins_made {y : Portrait} {u : Tracker} {x : View} (hy : y.tracker = some u.bare)
    (hlistens : u.listening.isSome) (hpainted : u.Painted) (hwindow : u.window = x.config.window)
    (c : Scene) (f : String) : (y.rendered c).Twins (u.recomputes + 1) 1
      ((Portrait.made f x.config u.wall).shown c) := by
  obtain ⟨l, hl⟩ := Option.isSome_iff_exists.1 hlistens
  have hroot : c.live.applyTo u.root = c.live.applyTo {} := by
    rw [hpainted, Flags.applyTo_shown ClassList.ascending_empty]
  refine ⟨u.bare.followed c, _, congrArg (Option.map fun t : Tracker => t.followed c) hy, rfl, f, 0, ?_, ?_⟩
  · simp [Tracker.followed, Tracker.bare, hl, Tracker.paint]
  · simp [Tracker.followed, Tracker.bare, hl, Tracker.paint, Listening.bare, hroot, hwindow]

theorem topLevel_of_quiet {ts : List Step} (h : ∀ t ∈ ts, ∀ s : Session, (s.begin t).2.1 = []) :
    s.topLevel ts := by
  induction ts generalizing s with
  | nil => rfl
  | cons t ts ih =>
      have hquiet : (s.begin t).2.2.settle.undisturbed (s.begin t).2.1 := by
        rw [h t (by simp)]
        rfl
      exact Bool.and_eq_true_iff.2 ⟨hquiet, ih fun u hu => h u (List.mem_cons_of_mem _ hu)⟩

/-- What is seen of a view that is rendered, and then of a new one that is shown. -/
theorem views_render_view_show (g : Panorama) {y : Portrait} (hy : g.views v = some y) (hne : f ≠ v)
    (config : Config) (wall : Bool) :
    (g.run [.render v, .view f config wall, .showView f]).views v = some (y.rendered g.scene) ∧
      (g.run [.render v, .view f config wall, .showView f]).views f =
        some ((Portrait.made f config wall).shown g.scene) := by
  have hrendered : (g.step (.render v)).2.views v = some (y.rendered g.scene) := by
    show Function.update g.views v (present (g.views v) _).2 v = _
    rw [Function.update_self, hy]
    rfl
  let made : Panorama := ((g.step (.render v)).2.step (.view f config wall)).2
  have hmade : made.views f = some (.made f config wall) := Function.update_self ..
  have hkept : made.views v = (g.step (.render v)).2.views v :=
    Function.update_of_ne hne.symm _ _
  constructor
  · show Function.update made.views f _ v = _
    rw [Function.update_of_ne hne.symm, hkept, hrendered]
  · show Function.update made.views f (present (made.views f) _).2 f = _
    rw [Function.update_self, hmade]
    rfl

end Session

namespace Moment

open Session

/-- A view on the clock that has not been torn down is rendered, and a view of the same
configuration is made on the clock and shown.  Then the two show the same and have nothing
pending, and they keep step through whatever is done at the top level. -/
theorem render_resynchronises {m : Moment} {v f : String} {p : PanelId} {u : Tracker} {x : View}
    (hr : Reachable m) (hv : m.session.views.get? v = some p)
    (hu : m.session.workspace.trackers.get? p = some u) (hclock : u.wall = false)
    (hx : m.session.workspace.views.get? p = some x) (htorn : ¬ m.TornDown p) (hne : f ≠ v) :
    let s := m.session.applyAll [.render v, .view f x.config false, .showView f]
    ∃ y z, s.sight? v = some y ∧ s.sight? f = some z ∧ Alike y z ∧ y.deadline = none ∧
      ∀ ds : List Deed, (∀ d ∈ ds, d.Fits v f) → s.topLevel (ds.flatMap (·.steps v f)) →
        KeepStep v f y z (s.applyAll (ds.flatMap (·.steps v f))) := by
  intro s
  obtain ⟨held, hs⟩ := hr.sound
  have hview : m.session.panorama.views v = some (m.session.workspace.portrait p) :=
    congrArg (Option.map m.session.workspace.portrait) hv
  have htracker : (m.session.workspace.portrait p).tracker = some u.bare :=
    congrArg (Option.map Tracker.bare) hu
  obtain ⟨hlistens, hpainted, hwindow⟩ : u.listening.isSome ∧ u.Painted ∧
      u.window = x.config.window := by
    obtain ⟨t, x', ht, hx', hwindow, hpainted, hl⟩ := hr.fitted hv
    obtain rfl := Option.some.inj (htracker.symm.trans ht)
    obtain rfl := Option.some.inj (hx.symm.trans hx')
    exact ⟨u.isSome_listening_bare ▸ hl.resolve_right htorn, hpainted, hwindow⟩
  have hquiet : m.session.topLevel [.render v, .view f x.config false, .showView f] :=
    topLevel_of_quiet (by simp [begin, deliveries_withView])
  have hpanorama := panorama_of_topLevel hs (by simp [Step.OnViews]) hquiet
  obtain ⟨hold, hnew⟩ := views_render_view_show m.session.panorama hview hne x.config false
  rw [← hpanorama] at hold hnew
  let c : Scene := m.session.workspace.scene
  have hpaired : s.panorama.Paired v f (u.recomputes + 1) 1 :=
    ⟨_, _, hold, hnew, hclock ▸ rendered_twins_made htracker hlistens hpainted hwindow c f⟩
  obtain ⟨held', hs'⟩ := sound_applyAll hs [.render v, .view f x.config false, .showView f]
  obtain ⟨y, z, hy, hz, halike, hkeep⟩ := keepStep_of_paired hs' hpaired hne
  refine ⟨y, z, hy, hz, halike, ?_, hkeep⟩
  have hsight : s.sight? v = some ((m.session.workspace.portrait p).rendered c).sight := by
    rw [sight?_eq, hold]
    rfl
  obtain rfl := Option.some.inj (hy.symm.trans hsight)
  show ((m.session.workspace.portrait p).tracker.map (·.followed c)).bind (·.deadline) = none
  rw [htracker]
  exact deadline_followed (u.isSome_listening_bare ▸ hlistens) c

/-- A view has followed a change made from inside another one, and has a recompute pending. -/
def bygone : List Session.Step :=
  [.addResult "a" "A" true, .addResult "b" "B" true, .view "v" {} false,
    .observe "o" .result (.onFirst 1 [.select (some "b"), .fetch "b" .complete]), .showView "v",
    .select (some "a"), .fetch "b" .begin, .advance 20]

def bygoneTracker : Tracker where
  name := "v"
  window := 60
  root := ⟨["is-searching", "not-found"]⟩
  flags := { notFound := true, isSearching := true }
  recomputes := 3
  generation := 3
  listening := some {
    onResult := 1
    onCard := 1
    binding := some { result := 2, generation := 3, throttle := ⟨60, some 0, 1⟩, subscription := 1 } }

def bygoneView : View where
  config := {}
  region := { name := "details-tabular", current := some "goldenLayoutMetacard", mounts := 1 }
  shown := true
  renders := 1

/-- What both views go through then: a throttled recompute, another result, and the end. -/
def sequel : List Deed :=
  [.other (.fetch "b" .complete), .other (.advance 100), .both (.update .tick) false,
    .other (.select (some "a")), .both (.tick (some 500)) true, .both (.update .teardown) false,
    .other (.select none)]

theorem bygone_resynchronises :
    let m : Moment := ⟨[], applyAll {} bygone⟩
    let s := m.session.applyAll [.render "v", .view "w" {} false, .showView "w"]
    Reachable m ∧ m.session.views.get? "v" = some 0 ∧
      m.session.workspace.trackers.get? 0 = some bygoneTracker ∧ bygoneTracker.wall = false ∧
      m.session.workspace.views.get? 0 = some bygoneView ∧ ¬ m.TornDown 0 ∧
      (∀ d ∈ sequel, d.Fits "v" "w") ∧ s.topLevel (sequel.flatMap (·.steps "v" "w")) ∧
      ∃ y z, s.sight? "v" = some y ∧ s.sight? "w" = some z ∧ Alike y z ∧ y.deadline = none ∧
        KeepStep "v" "w" y z (s.applyAll (sequel.flatMap (·.steps "v" "w"))) := by
  intro m s
  have hr : Reachable m := reachable_applyAll reachable_empty bygone
  have hv : m.session.views.get? "v" = some 0 := by cbv
  have hu : m.session.workspace.trackers.get? 0 = some bygoneTracker := by cbv
  have hx : m.session.workspace.views.get? 0 = some bygoneView := by cbv
  have htorn : ¬ m.TornDown 0 := by
    rw [← hr.unbound_iff hv hu]
    decide
  have hfits : ∀ d ∈ sequel, d.Fits "v" "w" := by
    simp [sequel, Deed.Fits, Step.OnViews, Step.view?]
  have htop : ((applyAll {} bygone).applyAll [.render "v", .view "w" {} false,
      .showView "w"]).topLevel (sequel.flatMap (·.steps "v" "w")) = true := by cbv
  obtain ⟨y, z, hy, hz, halike, hnone, hkeep⟩ :=
    render_resynchronises (f := "w") hr hv hu rfl hx htorn (by decide)
  exact ⟨hr, hv, hu, rfl, hx, htorn, hfits, htop, y, z, hy, hz, halike, hnone, hkeep sequel hfits htop⟩

/-- An observer between the two starts a fetch when it is told of another result: the view
before it is bound to this result by then, and the one after it is not. -/
example :
    let ready : List Session.Step := [.addResult "a" "A" true, .view "v" {} false,
      .observe "o" .result (.onFirst 1 [.fetch "a" .begin]), .render "v", .view "w" {} false,
      .showView "w"]
    let s := ((applyAll {} ready).apply (.select (some "a"))).2
    (s.sight? "v").map (·.deadline) = some (some 60) ∧
      (s.sight? "w").map (·.deadline) = some none := by
  constructor <;> cbv

end Moment

end DetailPanel
