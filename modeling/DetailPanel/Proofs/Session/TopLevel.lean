import DetailPanel.Proofs.Session.Independence

/-!
# Top-level operations

A step stays at the top level if none of the observers that are told of it does
anything.  Then it might as well be that the observers only look on (`mute`), and
the step is seen as a step of the panorama, whatever they may do another time.

    s.Silent → s.topLevel ts                                            (Silent.topLevel)
    s.undisturbed ds → machine.run (ds.map .deliver) s.mute =
      (machine.run (ds.map .deliver) s).mute                              (mute_run)
    s.topLevel ts → (s.applyAll ts).panorama = s.panorama.run ts          (panorama_of_topLevel)
-/

namespace DetailPanel.Session

open Workspace

/-! ## Definitions -/

/-- None of the deliveries makes an observer do anything. -/
def undisturbed (s : Session) : List Delivery → Bool
  | [] => true
  | d :: ds => (s.deliver d).1.isEmpty && (s.deliver d).2.undisturbed ds

/-- None of the steps is followed by what an observer does about it. -/
def topLevel (s : Session) : List Step → Bool
  | [] => true
  | t :: ts => (s.begin t).2.2.settle.undisturbed (s.begin t).2.1 && (s.apply t).2.topLevel ts

def Callback.mute (c : Callback) : Callback := { c with script := .silent }

/-- The session with observers that only look on. -/
def mute (s : Session) : Session := { s with callbacks := s.callbacks.map Callback.mute }

def Result.mute (r : Result) : Result := (r.1, r.2.1, r.2.2.mute)

variable {held : Holdings} {s : Session} {t : Step} {ts : List Step} {ds : List Delivery}

/-! ## Observers that only look on -/

theorem Silent.undisturbed (h : s.Silent) (ds : List Delivery) : s.undisturbed ds := by
  induction ds generalizing s with
  | nil => rfl
  | cons d ds ih =>
      obtain ⟨next, hdeliver, hkept, -⟩ := h.deliver d
      rw [Session.undisturbed, hdeliver]
      exact ih (hkept.silent h)

/-- Where no observer does anything when it is told, all steps are at the top level. -/
theorem Silent.topLevel (h : s.Silent) (hts : ∀ t ∈ ts, t.OnViews) : s.topLevel ts := by
  induction ts generalizing s with
  | nil => rfl
  | cons t ts ih =>
      have ht : t.OnViews := hts t (by simp)
      have hbegun : (s.begin t).2.2.settle.Silent := silent_begin h ht
      have hrest := ih (h.apply ht) fun u hu => hts u (List.mem_cons_of_mem _ hu)
      exact Bool.and_eq_true_iff.2 ⟨hbegun.undisturbed _, hrest⟩

/-! ## Observers that do nothing might as well be mute -/

theorem silent_mute (s : Session) : s.mute.Silent := by
  intro c hc
  obtain ⟨c', -, rfl⟩ := List.mem_map.1 hc
  rfl

theorem Sound.mute (hs : s.Sound held) : s.mute.Sound held :=
  hs.congr rfl rfl (fun k => by cases k <;> rfl) rfl

theorem mute_withResult (s : Session) (key : String) (f g : ResultId → Result)
    (h : ∀ r, g r = (f r).mute) : s.mute.withResult key g = (s.withResult key f).mute := by
  have hresults : s.mute.results.get? key = s.results.get? key := rfl
  simp only [withResult, hresults]
  cases s.results.get? key with
  | some r => exact h r
  | none => rfl

theorem mute_withView (s : Session) (name : String) (f : PanelId → Answer × Workspace) :
    s.mute.withView name f = (s.withView name f).mute := by
  have hviews : s.mute.views.get? name = s.views.get? name := rfl
  simp only [withView, hviews]
  cases s.views.get? name <;> rfl

theorem mute_observe (s : Session) (name : String) (c : Channel) :
    s.mute.observe name c .silent =
      ((s.observe name c .silent).1, (s.observe name c .silent).2.mute) := by
  have hlength : s.mute.callbacks.length = s.callbacks.length := List.length_map ..
  have hcallbacks : s.mute.callbacks ++ [⟨name, .silent⟩] =
      List.map Callback.mute (s.callbacks ++ [⟨name, .silent⟩]) := by
    rw [List.map_append]
    rfl
  unfold observe
  rw [hlength, hcallbacks]
  rfl

/-- A step does the same, and begins the same deliveries. -/
theorem mute_begin (s : Session) (ht : t.OnViews) : s.mute.begin t = (s.begin t).mute := by
  cases t with
  | setSearching key on => exact s.mute_withResult key _ _ fun _ => rfl
  | fetch key move => exact s.mute_withResult key _ _ fun _ => rfl
  | announce key event => exact s.mute_withResult key _ _ fun _ => rfl
  | select key =>
      cases key with
      | none => rfl
      | some key => exact s.mute_withResult key _ _ fun _ => rfl
  | showView name => exact s.mute_withView name fun p => (.nothing, s.workspace.showView p)
  | render name => exact s.mute_withView name fun p => (.nothing, s.workspace.render p)
  | beforeShow name => exact s.mute_withView name fun p => (.nothing, s.workspace.beforeShow p)
  | teardown name => exact s.mute_withView name fun p => (.nothing, s.workspace.teardown p)
  | tick name time => exact s.mute_withView name (s.pollAt time)
  | update name message =>
      exact s.mute_withView name fun p => (s.workspace.update p message).map Answer.bool id
  | dropView name =>
      have hviews : s.mute.views.get? name = s.views.get? name := rfl
      simp only [begin, dropView, hviews]
      cases s.views.get? name <;> rfl
  | observe name topic script =>
      obtain rfl : script = .silent := ht
      have hchannel : s.mute.channel? topic = s.channel? topic := rfl
      simp only [begin, hchannel]
      cases s.channel? topic with
      | none => rfl
      | some c =>
          dsimp only
          rw [mute_observe]
          rfl
  | unobserve name =>
      have hobservers : s.mute.observers.get? name = s.observers.get? name := rfl
      simp only [begin, unobserve, hobservers]
      cases s.observers.get? name <;> rfl
  | tracker | dropTracker | bind | unbind | resync | recompute | poll => exact ht.elim
  | addResult | selectCard | advance | advanceTo | passWall | view | snapshot | reflect => rfl

/-- A mute observer notes the same and leaves it at that. -/
theorem mute_tell (s : Session) (k : Nat) (n : Notice) :
    s.mute.tell k n = ([], (s.tell k n).2.mute) := by
  have hget : s.mute.callbacks[k]? = (s.callbacks[k]?).map Callback.mute := List.getElem?_map ..
  unfold tell
  rw [hget]
  cases hc : s.callbacks[k]? with
  | none => rfl
  | some c =>
      have hset : (s.callbacks.set k { c with script := c.script.next.2 }).map Callback.mute =
          (s.callbacks.map Callback.mute).set k c.mute := List.map_set
      exact Prod.ext rfl (congrArg (fun cs : List Callback =>
        { s with callbacks := cs, log := s.log ++ [Note.saw c.name n s.panelFlags] }) hset.symm)

theorem mute_deliver (s : Session) (d : Delivery) :
    s.mute.deliver d = ([], (s.deliver d).2.mute) := by
  obtain ⟨subscriber, n⟩ := d
  cases subscriber with
  | resync | repaint | arm => rfl
  | observer k => exact s.mute_tell k n

theorem mute_run (h : s.undisturbed ds) :
    machine.run (ds.map .deliver) s.mute = (machine.run (ds.map .deliver) s).mute := by
  induction ds generalizing s with
  | nil => rw [List.map_nil, Machine.run_nil, Machine.run_nil]
  | cons d ds ih =>
      obtain ⟨hempty, hrest⟩ := Bool.and_eq_true_iff.1 h
      have hnone : (s.deliver d).1 = [] := List.isEmpty_iff.1 hempty
      have hmute : machine.perform (.deliver d) s.mute = ([], (s.deliver d).2.mute) :=
        s.mute_deliver d
      have hperform : machine.perform (.deliver d) s = ([], (s.deliver d).2) :=
        Prod.ext hnone rfl
      rw [List.map_cons, Machine.run_cons, Machine.run_cons, hmute, hperform]
      exact ih hrest

/-! ## What is seen at the top level -/

/-- A step that stays at the top level is seen as a step of the panorama. -/
theorem panorama_of_undisturbed (hs : s.Sound held) (ht : t.OnViews)
    (h : (s.begin t).2.2.settle.undisturbed (s.begin t).2.1) :
    ((s.apply t).1.unnumbered, (s.apply t).2.panorama) = s.panorama.step t := by
  have hseen := seen_begin hs.mute s.silent_mute ht
  rw [mute_begin s ht] at hseen
  have hrun : (machine.run ((s.begin t).2.1.map .deliver) (s.begin t).2.2.settle.mute).panorama =
      (machine.run ((s.begin t).2.1.map .deliver) (s.begin t).2.2.settle).panorama :=
    (congrArg panorama (mute_run h) :)
  have hmuted : ((s.begin t).1.unnumbered, (machine.run ((s.begin t).2.1.map .deliver)
      (s.begin t).2.2.settle.mute).panorama) = s.panorama.step t := hseen
  rw [hrun] at hmuted
  exact hmuted

theorem sound_apply (hs : s.Sound held) (t : Step) : ∃ held', (s.apply t).2.Sound held' := by
  have hbegun := hs.perform (.step t)
  exact machine.run_preserves (P := fun s => ∃ held, s.Sound held)
    (fun j _ hs => hs.elim fun _ hs => hs.perform j) _ _ hbegun

theorem sound_applyAll (hs : s.Sound held) (ts : List Step) :
    ∃ held', (s.applyAll ts).Sound held' := by
  induction ts generalizing held s with
  | nil => exact ⟨held, hs⟩
  | cons t ts ih =>
      obtain ⟨held', hs'⟩ := sound_apply hs t
      exact ih hs'

theorem panorama_of_topLevel (hs : s.Sound held) (hts : ∀ t ∈ ts, t.OnViews)
    (h : s.topLevel ts) : (s.applyAll ts).panorama = s.panorama.run ts := by
  induction ts generalizing held s with
  | nil => rfl
  | cons t ts ih =>
      obtain ⟨hquiet, hrest⟩ := Bool.and_eq_true_iff.1 h
      obtain ⟨held', hs'⟩ := sound_apply hs t
      have hstep := congrArg Prod.snd (panorama_of_undisturbed hs (hts t (by simp)) hquiet)
      have htail := ih hs' (fun u hu => hts u (List.mem_cons_of_mem _ hu)) hrest
      exact htail.trans (congrArg (Panorama.run · ts) hstep)

end DetailPanel.Session
