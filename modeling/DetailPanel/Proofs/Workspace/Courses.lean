import DetailPanel.Proofs.Workspace.Stages

/-!
# Courses

The life of a view is told by its episodes: the call, if any, that each job makes to the
view, and the effects of the job that concern its layout.  A life takes one of three
courses, whatever is called and however often.

    nothing was mounted so far                                      (Course.unmounted)
    the first show made and mounted the layout                      (Course.mounted)
    and the first teardown or drop after it closed the layout       (Course.closed)
-/

namespace DetailPanel

/-- What a job had to do with the layout of a view. -/
structure Episode where
  call : Option Call
  effects : List Effect

namespace Episode

def mounts (e : Episode) : Bool := e.call.any Call.mounts

def closes (e : Episode) : Bool := e.call.any Call.closes

end Episode

/-- How often a layout was made. -/
def timesCreated (es : List Episode) : Nat :=
  (es.flatMap (·.effects)).countP fun e => e matches .created ..

/-- The course of a life so far, with what is mounted now and how often something was. -/
inductive Course (name layout : String) : List Episode → Option String → Nat → Prop
  /-- Nothing was shown so far. -/
  | unmounted {es : List Episode} (hes : ∀ e ∈ es, e.mounts = false ∧ e.effects = []) :
      Course name layout es none 0
  /-- The layout was made and mounted by the first call to show it. -/
  | mounted {before since : List Episode} {c : Call}
      (hbefore : ∀ e ∈ before, e.mounts = false ∧ e.effects = []) (hc : c.mounts)
      (hsince : ∀ e ∈ since, e.closes = false ∧ e.effects = []) :
      Course name layout
        (before ++ ⟨some c, [.created name layout, .region name (.shown layout)]⟩ :: since)
        (some layout) 1
  /-- It was closed by the first call after that to tear the view down or to drop it. -/
  | closed {before since later : List Episode} {c d : Call}
      (hbefore : ∀ e ∈ before, e.mounts = false ∧ e.effects = []) (hc : c.mounts)
      (hsince : ∀ e ∈ since, e.closes = false ∧ e.effects = []) (hd : d.closes)
      (hlater : ∀ e ∈ later, e.effects = []) :
      Course name layout
        (before ++ ⟨some c, [.created name layout, .region name (.shown layout)]⟩ :: since ++
          ⟨some d, [.region name (.closed layout)]⟩ :: later)
        none 1

section Courses

variable {name layout : String} {es : List Episode} {current : Option String} {mounts : Nat}

theorem forall_mem_concat {P : Episode → Prop} {e : Episode} (hes : ∀ e ∈ es, P e) (he : P e) :
    ∀ x ∈ es ++ [e], P x := by
  intro x hx
  rcases List.mem_append.1 hx with hx | hx
  · exact hes x hx
  · exact List.mem_singleton.1 hx ▸ he

theorem timesCreated_append (es es' : List Episode) :
    timesCreated (es ++ es') = timesCreated es + timesCreated es' := by
  simp [timesCreated]

theorem timesCreated_cons (e : Episode) (es : List Episode) :
    timesCreated (e :: es) = timesCreated [e] + timesCreated es := timesCreated_append [e] es

theorem timesCreated_of_quiet (h : ∀ e ∈ es, e.effects = []) : timesCreated es = 0 := by
  have hnone : es.flatMap (·.effects) = [] := List.flatMap_eq_nil_iff.2 h
  rw [timesCreated, hnone]
  rfl

/-- As often as a layout was mounted, one was made. -/
theorem Course.mounts_eq (h : Course name layout es current mounts) : mounts = timesCreated es := by
  cases h with
  | unmounted hes => exact (timesCreated_of_quiet fun e he => (hes e he).2).symm
  | mounted hbefore hc hsince =>
      rw [timesCreated_append, timesCreated_cons, timesCreated_of_quiet fun e he => (hbefore e he).2,
        timesCreated_of_quiet fun e he => (hsince e he).2]
      rfl
  | @closed before since later c d hbefore hc hsince hd hlater =>
      rw [timesCreated_append, timesCreated_append, timesCreated_cons _ since,
        timesCreated_cons _ later, timesCreated_of_quiet fun e he => (hbefore e he).2,
        timesCreated_of_quiet fun e he => (hsince e he).2, timesCreated_of_quiet hlater]
      rfl

/-- The course that a life has taken is that of the stage. -/
structure Stage.Follows (x : Stage) (name : String) (es : List Episode) : Prop where
  course : Course name x.config.layout es x.region.current x.region.mounts
  shown : x.shown = (x.region.mounts != 0)

theorem Stage.follows_made (config : Config) (name : String) :
    Stage.Follows ⟨config, false, { name := config.region }⟩ name [] where
  course := .unmounted nofun
  shown := rfl

/-- A job that does not call the view, or asks nothing of its layout. -/
theorem Course.quiet (h : Course name layout es current mounts) {e : Episode}
    (hmounts : e.mounts = false) (hcloses : e.closes = false) (he : e.effects = []) :
    Course name layout (es ++ [e]) current mounts := by
  cases h with
  | unmounted hes => exact .unmounted (forall_mem_concat hes ⟨hmounts, he⟩)
  | mounted hbefore hc hsince =>
      rw [List.append_assoc, List.cons_append]
      exact .mounted hbefore hc (forall_mem_concat hsince ⟨hcloses, he⟩)
  | closed hbefore hc hsince hd hlater =>
      rw [List.append_assoc, List.cons_append]
      exact .closed hbefore hc hsince hd (forall_mem_concat hlater he)

/-- A call to show a view that was shown before. -/
theorem Course.again (h : Course name layout es current mounts) (hm : mounts ≠ 0) {c : Call}
    (hc : c.mounts) : Course name layout (es ++ [⟨some c, []⟩]) current mounts := by
  have hcloses : (⟨some c, []⟩ : Episode).closes = false := by
    cases c with
    | showView | beforeShow => rfl
    | render | tick | teardown | drop => cases hc
  cases h with
  | unmounted => exact absurd rfl hm
  | mounted hbefore hc' hsince =>
      rw [List.append_assoc, List.cons_append]
      exact .mounted hbefore hc' (forall_mem_concat hsince ⟨hcloses, rfl⟩)
  | closed hbefore hc' hsince hd hlater =>
      rw [List.append_assoc, List.cons_append]
      exact .closed hbefore hc' hsince hd (forall_mem_concat hlater rfl)

/-- The first call to show a view. -/
theorem Course.first (h : Course name layout es current 0) {c : Call} (hc : c.mounts) :
    current = none ∧ Course name layout
      (es ++ [⟨some c, [.created name layout, .region name (.shown layout)]⟩]) (some layout) 1 := by
  cases h with
  | unmounted hes => exact ⟨rfl, .mounted hes hc nofun⟩

/-- A call to close the layout closes it if it is mounted. -/
theorem Course.close (h : Course name layout es current mounts) {c : Call} (hc : c.closes) :
    Course name layout
      (es ++ [⟨some c, current.toList.map fun l => .region name (.closed l)⟩]) none mounts := by
  cases h with
  | unmounted hes =>
      refine .unmounted (forall_mem_concat hes ⟨?_, rfl⟩)
      cases c with
      | teardown | drop => rfl
      | showView | beforeShow | render | tick => cases hc
  | mounted hbefore hc' hsince => exact .closed hbefore hc' hsince hc nofun
  | closed hbefore hc' hsince hd hlater =>
      rw [List.append_assoc, List.cons_append]
      exact .closed hbefore hc' hsince hd (forall_mem_concat hlater rfl)

theorem Stage.Follows.mount {x : Stage} (h : x.Follows name es) {c : Call} (hc : c.mounts) :
    (x.mount name).2.Follows name (es ++ [⟨some c, (x.mount name).1⟩]) := by
  obtain ⟨config, shown, rname, current, mounts⟩ := x
  obtain ⟨hcourse, hshown⟩ := h
  simp only at hcourse hshown
  subst hshown
  by_cases hm : mounts = 0
  · subst hm
    obtain ⟨rfl, hfirst⟩ := hcourse.first hc
    exact ⟨hfirst, rfl⟩
  · have hshown : (mounts != 0) = true := by simpa using hm
    simp only [Stage.mount, hshown, if_true]
    exact ⟨hcourse.again hm hc, by simpa using hm⟩

theorem Stage.Follows.close {x : Stage} (h : x.Follows name es) {c : Call} (hc : c.closes) :
    (x.close name).2.Follows name (es ++ [⟨some c, (x.close name).1⟩]) := by
  refine ⟨?_, h.shown⟩
  have hevents : (x.close name).1 = x.region.current.toList.map fun l => .region name (.closed l) :=
    List.map_map ..
  rw [hevents]
  exact h.course.close hc

/-- What a job makes of the stage and what it adds to the life go together. -/
theorem Stage.Follows.respond {x : Stage} (h : x.Follows name es) (c : Option Call) :
    (x.respond name c).2.Follows name (es ++ [⟨c, (x.respond name c).1⟩]) := by
  cases c with
  | none => exact ⟨h.course.quiet rfl rfl rfl, h.shown⟩
  | some c =>
      cases c with
      | showView | beforeShow => exact h.mount rfl
      | render | tick => exact ⟨h.course.quiet rfl rfl rfl, h.shown⟩
      | teardown | drop => exact h.close rfl

end Courses

end DetailPanel
