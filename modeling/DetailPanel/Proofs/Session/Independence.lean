import Mathlib
import DetailPanel.Proofs.Session.Panorama

/-!
# Views do not interfere

The views of a session share the selection, the results and the clock, and they
take turns in the registries of these.  Still no view can tell whether there is
another: without the steps for one view, every other step is answered as before
and leaves the other views, the selection and the results as before.

    t.view? ≠ some name → (g.without name).step t =
      ((g.step t).1, (g.step t).2.without name)                          (step_without)
    (s.applyAll (others name ts)).panorama = (s.applyAll ts).panorama.without name
                                                                 (panorama_others)
-/

namespace DetailPanel

open Workspace

/-! ## What can be read off a view -/

structure Sight where
  flags : Option Flags
  root : Option ClassList
  state : Option Tracker.State
  deadline : Option Nat
  recomputes : Option Nat
  renders : Option Nat
  layout : Option (Option String)
  mounts : Option Nat
  deriving DecidableEq, Repr

def Workspace.sight (w : Workspace) (p : PanelId) : Sight where
  flags := (w.trackers.get? p).map (·.flags)
  root := (w.trackers.get? p).map (·.root)
  state := (w.trackers.get? p).map (·.state)
  deadline := w.deadline p
  recomputes := (w.trackers.get? p).map (·.recomputes)
  renders := (w.views.get? p).map (·.renders)
  layout := (w.views.get? p).map (·.region.current)
  mounts := (w.views.get? p).map (·.region.mounts)

def Portrait.sight (v : Portrait) : Sight where
  flags := v.tracker.map (·.flags)
  root := v.tracker.map (·.root)
  state := v.tracker.map (·.state)
  deadline := v.tracker.bind (·.deadline)
  recomputes := v.tracker.map (·.recomputes)
  renders := v.view.map (·.renders)
  layout := v.view.map (·.region.current)
  mounts := v.view.map (·.region.mounts)

theorem Workspace.sight_portrait (w : Workspace) (p : PanelId) : (w.portrait p).sight = w.sight p := by
  unfold Portrait.sight sight portrait deadline
  cases w.trackers.get? p with
  | none => rfl
  | some t =>
      simp only [Option.map_some, Option.bind_some, Tracker.state_bare, Tracker.deadline_bare]
      rfl

namespace Session

/-- What can be read off the view of a name. -/
def sight? (s : Session) (name : String) : Option Sight :=
  (s.views.get? name).map s.workspace.sight

theorem sight?_eq (s : Session) (name : String) :
    s.sight? name = (s.panorama.views name).map Portrait.sight := by
  show _ = ((s.views.get? name).map s.workspace.portrait).map Portrait.sight
  rw [Option.map_map]
  exact congrArg (Option.map · _) (funext fun p => (s.workspace.sight_portrait p).symm)

/-- Two sessions show the same, but for one view. -/
structure AlikeBut (name : String) (s s' : Session) : Prop where
  now : s'.workspace.now = s.workspace.now
  result : s'.workspace.result = s.workspace.result
  card : s'.workspace.card = s.workspace.card
  searching : ∀ r, s'.workspace.isSearching r = s.workspace.isSearching r
  results : s'.results = s.results
  classes : s'.classes = s.classes
  views : ∀ n ≠ name, s'.sight? n = s.sight? n

/-! ## Panoramas without a view -/

/-- The steps that are not for a view. -/
def others (name : String) (ts : List Step) : List Step := ts.filter (·.view? ≠ some name)

namespace Panorama

def without (g : Panorama) (name : String) : Panorama :=
  { g with views := Function.update g.views name none }

def run (g : Panorama) (ts : List Step) : Panorama := ts.foldl (fun g t => (g.step t).2) g

variable {g : Panorama} {name : String} {t : Step}

@[simp] theorem without_without (g : Panorama) (name : String) :
    (g.without name).without name = g.without name :=
  Panorama.ext rfl rfl rfl rfl (Function.update_idem ..)

/-- A step for others is answered without the view as with it, and what it changes is
the same. -/
theorem step_without (h : t.view? ≠ some name) :
    (g.without name).step t = ((g.step t).1, (g.step t).2.without name) := by
  unfold step
  cases hv : t.view? with
  | none =>
      refine Prod.ext rfl (Panorama.ext rfl rfl rfl rfl (funext fun n => ?_))
      show (Function.update g.views name none n).map (g.toBackdrop.step t).change =
        Function.update (fun n => (g.views n).map (g.toBackdrop.step t).change) name none n
      rw [Function.update_apply, Function.update_apply]
      split <;> rfl
  | some other =>
      have hne : other ≠ name := by
        rintro rfl
        exact h hv
      have hother : (g.without name).views other = g.views other := Function.update_of_ne hne _ _
      dsimp only
      rw [hother]
      exact Prod.ext rfl (Panorama.ext rfl rfl rfl rfl (Function.update_comm hne.symm _ _ _))

/-- A step for the view makes a difference to it alone. -/
theorem without_step (h : t.view? = some name) :
    (g.step t).2.without name = g.without name := by
  rw [step, h]
  exact Panorama.ext rfl rfl rfl rfl (Function.update_idem ..)

/-- Without the steps for a view, a run makes the same of the others. -/
theorem run_others (g : Panorama) (name : String) (ts : List Step) :
    (g.without name).run (others name ts) = (g.run ts).without name := by
  induction ts generalizing g with
  | nil => rfl
  | cons t ts ih =>
      by_cases h : t.view? = some name
      · have hleft : others name (t :: ts) = others name ts := List.filter_cons_of_neg (by simp [h])
        rw [hleft, ← without_step h]
        exact ih (g.step t).2
      · have hkept : others name (t :: ts) = t :: others name ts :=
          List.filter_cons_of_pos (by simp [h])
        rw [hkept]
        show (((g.without name).step t).2).run (others name ts) = ((g.step t).2.run ts).without name
        rw [step_without h]
        exact ih (g.step t).2

end Panorama

/-! ## Sessions with views -/

/-- Carry out steps, each with all that it sets off. -/
def applyAll (s : Session) (ts : List Step) : Session := ts.foldl (fun s t => (s.apply t).2) s

theorem reachable_applyAll {s : Session} (h : Moment.Reachable ⟨[], s⟩) (ts : List Step) :
    Moment.Reachable ⟨[], s.applyAll ts⟩ := by
  induction ts generalizing s with
  | nil => exact h
  | cons t ts ih => exact ih (h.apply t)

/-- A session that can be reached, whose observers only look on. -/
structure Plain (s : Session) : Prop where
  reachable : Moment.Reachable ⟨[], s⟩
  silent : s.Silent

variable {s s' : Session} {t : Step} {ts : List Step}

theorem plain_empty : Plain {} := ⟨Moment.reachable_empty, by simp [Silent]⟩

theorem silent_begin (h : s.Silent) (ht : t.OnViews) : (s.begin t).2.2.Silent := by
  rcases s.observers_begin t with ⟨name, topic, script, c, rfl, hc⟩ | ⟨hcallbacks, -⟩
  · simp only [begin, hc]
    intro f hf
    rcases List.mem_append.1 hf with hf | hf
    · exact h f hf
    · obtain rfl := List.mem_singleton.1 hf
      exact ht
  · intro f hf
    exact h f (hcallbacks ▸ hf)

theorem Silent.apply (h : s.Silent) (ht : t.OnViews) : (s.apply t).2.Silent := by
  have hbegun : (s.begin t).2.2.settle.Silent := silent_begin h ht
  exact (hbegun.kept_run (s.begin t).2.1).silent hbegun

theorem Plain.apply (h : s.Plain) (ht : t.OnViews) : (s.apply t).2.Plain where
  reachable := h.reachable.apply t
  silent := h.silent.apply ht

theorem Plain.applyAll (h : s.Plain) (hts : ∀ t ∈ ts, t.OnViews) : (s.applyAll ts).Plain := by
  induction ts generalizing s with
  | nil => exact h
  | cons t ts ih =>
      exact ih (h.apply (hts t (by simp))) fun u hu => hts u (List.mem_cons_of_mem _ hu)

theorem Plain.panorama_apply (h : s.Plain) (ht : t.OnViews) :
    ((s.apply t).1.unnumbered, (s.apply t).2.panorama) = s.panorama.step t := by
  obtain ⟨held, hs⟩ := h.reachable.sound
  exact seen_begin hs h.silent ht

theorem Plain.panorama_applyAll (h : s.Plain) (hts : ∀ t ∈ ts, t.OnViews) :
    (s.applyAll ts).panorama = s.panorama.run ts := by
  induction ts generalizing s with
  | nil => rfl
  | cons t ts ih =>
      have ht := hts t (by simp)
      have hstep := congrArg Prod.snd (h.panorama_apply ht)
      have hrest := ih (h.apply ht) fun u hu => hts u (List.mem_cons_of_mem _ hu)
      exact hrest.trans (congrArg (Panorama.run · ts) hstep)

/-- Without the steps for a view, the same comes of all the others. -/
theorem panorama_others (name : String) (hts : ∀ t ∈ ts, t.OnViews) :
    (applyAll {} (others name ts)).panorama = (applyAll {} ts).panorama.without name := by
  have hothers : ∀ t ∈ others name ts, t.OnViews := fun t ht => hts t (List.mem_filter.1 ht).1
  have hempty : (panorama {}).without name = panorama {} :=
    Panorama.ext rfl rfl rfl rfl (Function.update_eq_self_iff.2 rfl)
  rw [plain_empty.panorama_applyAll hothers, plain_empty.panorama_applyAll hts,
    ← Panorama.run_others, hempty]

theorem AlikeBut.of_panorama {name : String}
    (h : s'.panorama.without name = s.panorama.without name) : AlikeBut name s s' := by
  have hscene : s'.workspace.scene = s.workspace.scene := congrArg (·.scene) h
  refine ⟨congrArg Scene.now hscene, congrArg Scene.result hscene, congrArg Scene.card hscene,
    congrFun (congrArg Scene.searching hscene), congrArg (·.results) h, congrArg (·.classes) h,
    fun n hn => ?_⟩
  have hview : (s'.panorama.without name).views n = (s.panorama.without name).views n := by rw [h]
  have hkept : ∀ g : Panorama, (g.without name).views n = g.views n := fun g =>
    Function.update_of_ne hn _ _
  rw [hkept, hkept] at hview
  rw [sight?_eq, sight?_eq, hview]

/-- Without the steps for one view, every other step is answered as before, and the
other views, the selection and the results are as before. -/
theorem views_independent (name : String) (hts : ∀ t ∈ ts, t.OnViews) (ht : t.OnViews)
    (hother : t.view? ≠ some name) :
    let s := applyAll {} ts
    let s' := applyAll {} (others name ts)
    (s'.apply t).1.unnumbered = (s.apply t).1.unnumbered ∧
      AlikeBut name (s.apply t).2 (s'.apply t).2 := by
  intro s s'
  have hothers : ∀ t ∈ others name ts, t.OnViews := fun t ht => hts t (List.mem_filter.1 ht).1
  have hs : s.Plain := plain_empty.applyAll hts
  have hs' : s'.Plain := plain_empty.applyAll hothers
  have hstep := (hs'.panorama_apply ht).trans (congrArg (Panorama.step · t) (panorama_others name hts))
  rw [Panorama.step_without hother, ← hs.panorama_apply ht] at hstep
  obtain ⟨hanswer, hpanorama⟩ := Prod.mk.inj hstep
  exact ⟨hanswer, .of_panorama (by rw [hpanorama, Panorama.without_without])⟩

/-- A view is made before another, and is dropped while this one has a recompute pending. -/
def neighbours : List Step :=
  [.addResult "a" "A" true, .view "w" {} false, .view "v" {} false, .select (some "a"),
    .showView "v", .dropView "w", .fetch "a" .complete, .advance 1000]

theorem views_independent_neighbours :
    others "w" neighbours = [.addResult "a" "A" true, .view "v" {} false, .select (some "a"),
        .showView "v", .fetch "a" .complete, .advance 1000] ∧
      ((applyAll {} neighbours).apply (.tick "v" none)).1 = .bool true ∧
      ((applyAll {} neighbours).apply (.tick "v" none)).2.sight? "v" = some {
        flags := some { notFound := true, isSearching := false }
        root := some ⟨["not-found"]⟩, state := some (.watching 1), deadline := none
        recomputes := some 3, renders := some 1, layout := some (some "goldenLayoutMetacard")
        mounts := some 1 } ∧
      ((applyAll {} (others "w" neighbours)).apply (.tick "v" none)).1.unnumbered =
        ((applyAll {} neighbours).apply (.tick "v" none)).1.unnumbered ∧
      AlikeBut "w" ((applyAll {} neighbours).apply (.tick "v" none)).2
        ((applyAll {} (others "w" neighbours)).apply (.tick "v" none)).2 := by
  have hsteps : ∀ t ∈ neighbours, t.OnViews := by simp [neighbours, Step.OnViews]
  exact ⟨rfl, by cbv, by cbv, views_independent (t := .tick "v" none) "w" hsteps trivial (by decide)⟩

end Session

end DetailPanel
