import DetailPanel.Proofs.Registry
import DetailPanel.Workspace.Deadlines
import DetailPanel.Workspace.Selection
import DetailPanel.Workspace.Viewing

/-!
# What the operations do to a workspace

Each operation on a panel is described by three statements: what it makes of
the table of trackers, what it makes of the registries, and that it leaves the
selection, the results and the clock alone (`PanelsOnly`).

    (w.recompute p).trackers = w.trackers.modify p (·.paint w.liveFlags)
    (w.resync p).trackers    = w.trackers.modify p (·.resynced w)
    (w.arm p g).trackers     = w.trackers.modify p (·.armed w.clock g)
    (w.poll p at).trackers   = w.trackers.modify p (·.polled w.liveFlags at)
-/

namespace DetailPanel

namespace Table

variable {κ α : Type} [DecidableEq κ]

theorem modify_congr {k : κ} {f g : α → α} {t : Table κ α}
    (h : ∀ v, get? k t = some v → f v = g v) : modify k f t = modify k g t := by
  induction t with
  | nil => rfl
  | cons e t ih =>
      obtain ⟨k', v⟩ := e
      by_cases hk : k = k'
      · have hv : f v = g v := h v (by simp [get?, hk])
        simp [modify, hk, hv]
      · simp only [modify, hk, if_false]
        rw [ih fun v hv => h v (by simpa [get?, hk] using hv)]

theorem modify_id (k : κ) (t : Table κ α) : modify k (fun v => v) t = t := by
  induction t with
  | nil => rfl
  | cons e t ih =>
      obtain ⟨k', v⟩ := e
      by_cases hk : k = k' <;> simp [modify, hk, ih]

theorem modify_eq_self {k : κ} {f : α → α} {t : Table κ α}
    (h : ∀ v, get? k t = some v → f v = v) : modify k f t = t :=
  (modify_congr h).trans (modify_id k t)

theorem modify_of_none {k : κ} {t : Table κ α} (f : α → α) (h : get? k t = none) :
    modify k f t = t := modify_eq_self fun v hv => by simp [h] at hv

theorem modify_congr_of_get? {k : κ} {f g : α → α} {t : Table κ α} {v : α}
    (hv : get? k t = some v) (h : f v = g v) : modify k f t = modify k g t := by
  refine modify_congr fun v' hv' => ?_
  obtain rfl := Option.some.inj (hv.symm.trans hv')
  exact h

theorem modify_modify (k : κ) (f g : α → α) (t : Table κ α) :
    modify k f (modify k g t) = modify k (fun v => f (g v)) t := by
  induction t with
  | nil => rfl
  | cons e t ih =>
      obtain ⟨k', v⟩ := e
      by_cases hk : k = k' <;> simp [modify, hk, ih]

theorem isSome_get?_modify (j k : κ) (f : α → α) (t : Table κ α) :
    (get? j (modify k f t)).isSome = (get? j t).isSome := by
  rw [get?_modify]
  split <;> simp

end Table

namespace Workspace

/-! ## Registries -/

@[simp] theorem trackers_setRegistry (w : Workspace) (c : Channel) (g : Registry Subscriber) :
    (w.setRegistry c g).trackers = w.trackers := by
  cases c <;> rfl

/-- Whether a channel belongs to the workspace. -/
def Known (w : Workspace) : Channel → Prop
  | .result | .card => True
  | .lifecycle r => (w.results.get? r).isSome

theorem known_result (w : Workspace) : w.Known .result := trivial

theorem known_card (w : Workspace) : w.Known .card := trivial

theorem registry_setRegistry {w : Workspace} {c : Channel} (h : w.Known c)
    (g : Registry Subscriber) (c' : Channel) :
    (w.setRegistry c g).registry c' = if c' = c then g else w.registry c' := by
  cases c with
  | result => cases c' <;> simp [setRegistry, registry]
  | card => cases c' <;> simp [setRegistry, registry]
  | lifecycle r =>
      cases c' with
      | result => rfl
      | card => rfl
      | lifecycle r' =>
          obtain ⟨o, ho⟩ := Option.isSome_iff_exists.1 h
          by_cases hr : r' = r
          · subst hr
            simp [setRegistry, registry, modifyResult, Table.get?_modify, ho]
          · simp [setRegistry, registry, modifyResult, Table.get?_modify, hr]

theorem setRegistry_of_not_known {w : Workspace} {c : Channel} (h : ¬ w.Known c)
    (g : Registry Subscriber) : w.setRegistry c g = w := by
  cases c with
  | result | card => exact absurd trivial h
  | lifecycle r =>
      have hr : w.results.get? r = none := Option.not_isSome_iff_eq_none.1 h
      simp only [setRegistry, modifyResult]
      rw [Table.modify_of_none _ hr]

theorem registry_subscribe {w : Workspace} {c : Channel} (h : w.Known c) (s : Subscriber)
    (c' : Channel) :
    (w.subscribe c s).2.registry c' =
      if c' = c then ((w.registry c).subscribe s).2 else w.registry c' :=
  registry_setRegistry h _ c'

theorem registry_cancel (w : Workspace) (c : Channel) (id : Nat) (c' : Channel) :
    (w.cancel c id).registry c' =
      if c' = c then (w.registry c).cancel id else w.registry c' := by
  by_cases h : w.Known c
  · exact registry_setRegistry h _ c'
  · rw [cancel, setRegistry_of_not_known h]
    by_cases hc : c' = c
    · subst hc
      cases c' with
      | result | card => exact absurd trivial h
      | lifecycle r =>
          have hr : w.results.get? r = none := Option.not_isSome_iff_eq_none.1 h
          simp [registry, hr, Registry.cancel]
    · simp [hc]

@[simp] theorem registry_modifyTracker (w : Workspace) (p : PanelId) (f : Tracker → Tracker)
    (c : Channel) : (w.modifyTracker p f).registry c = w.registry c := by
  cases c <;> rfl

@[simp] theorem registry_recompute (w : Workspace) (p : PanelId) (c : Channel) :
    (w.recompute p).registry c = w.registry c := by
  unfold recompute
  split
  · rfl
  · cases c <;> rfl

theorem registry_release (w : Workspace) (p : PanelId) (c : Channel) :
    (w.release p).registry c =
      match (w.trackers.get? p).bind Tracker.binding with
      | none => w.registry c
      | some b =>
          if c = .lifecycle b.result then (w.registry c).cancel b.subscription
          else w.registry c := by
  unfold release
  cases (w.trackers.get? p).bind Tracker.binding with
  | none => rfl
  | some b =>
      simp only [registry_modifyTracker, registry_cancel]
      split
      · rename_i h
        rw [h]
      · rfl

@[simp] theorem registry_repaint (w : Workspace) (p : PanelId) (c : Channel) :
    (w.repaint p).registry c = w.registry c := by
  unfold repaint
  split <;> simp

@[simp] theorem registry_arm (w : Workspace) (p : PanelId) (generation : Nat) (c : Channel) :
    (w.arm p generation).registry c = w.registry c := registry_modifyTracker ..

@[simp] theorem registry_poll (w : Workspace) (p : PanelId) (time : Nat) (c : Channel) :
    (w.poll p time).2.registry c = w.registry c := by
  unfold poll
  split
  · rfl
  · dsimp only
    split <;> simp

theorem isSearching_setSearching {w : Workspace} {r r' : ResultId} (hr : r' ≠ r) (on : Bool) :
    (w.setSearching r on).isSearching r' = w.isSearching r' := by
  simp [isSearching, setSearching, modifyResult, Table.get?_modify, hr]

theorem registry_setSearching (w : Workspace) (r : ResultId) (on : Bool) (c : Channel) :
    (w.setSearching r on).registry c = w.registry c := by
  cases c with
  | result | card => rfl
  | lifecycle r' =>
      simp only [registry, setSearching, modifyResult, Table.get?_modify]
      split
      · simp [Function.comp_def]
      · rfl

/-! ## What is not a panel's -/

/-- Nothing differs but panels and who listens. -/
structure PanelsOnly (w w' : Workspace) : Prop where
  result : w'.result = w.result
  card : w'.card = w.card
  clock : w'.clock = w.clock
  nextResult : w'.nextResult = w.nextResult
  nextPanel : w'.nextPanel = w.nextPanel
  known : ∀ r, (w'.results.get? r).isSome = (w.results.get? r).isSome
  searching : ∀ r, w'.isSearching r = w.isSearching r

namespace PanelsOnly

theorem refl (w : Workspace) : PanelsOnly w w := ⟨rfl, rfl, rfl, rfl, rfl, fun _ => rfl, fun _ => rfl⟩

theorem trans {u v w : Workspace} (h : PanelsOnly u v) (h' : PanelsOnly v w) : PanelsOnly u w where
  result := h'.result.trans h.result
  card := h'.card.trans h.card
  clock := h'.clock.trans h.clock
  nextResult := h'.nextResult.trans h.nextResult
  nextPanel := h'.nextPanel.trans h.nextPanel
  known r := (h'.known r).trans (h.known r)
  searching r := (h'.searching r).trans (h.searching r)

theorem now {w w' : Workspace} (h : PanelsOnly w w') : w'.now = w.now := congrArg Clock.now h.clock

theorem liveFlags {w w' : Workspace} (h : PanelsOnly w w') : w'.liveFlags = w.liveFlags := by
  have hs : w'.isSearching = w.isSearching := funext h.searching
  simp only [Workspace.liveFlags, flagsOf, h.result, h.card, hs]

theorem modifyTracker (w : Workspace) (p : PanelId) (f : Tracker → Tracker) :
    PanelsOnly w (w.modifyTracker p f) :=
  ⟨rfl, rfl, rfl, rfl, rfl, fun _ => rfl, fun _ => rfl⟩

theorem emit (w : Workspace) (es : List Effect) : PanelsOnly w (w.emit es) :=
  ⟨rfl, rfl, rfl, rfl, rfl, fun _ => rfl, fun _ => rfl⟩

theorem setRegistry (w : Workspace) (c : Channel) (g : Registry Subscriber) :
    PanelsOnly w (w.setRegistry c g) := by
  cases c with
  | result | card => exact ⟨rfl, rfl, rfl, rfl, rfl, fun _ => rfl, fun _ => rfl⟩
  | lifecycle r =>
      refine ⟨rfl, rfl, rfl, rfl, rfl, fun r' => ?_, fun r' => ?_⟩
      · simp only [Workspace.setRegistry, modifyResult, Table.get?_modify]
        split <;> simp
      · simp only [isSearching, Workspace.setRegistry, modifyResult, Table.get?_modify]
        split
        · cases w.results.get? r' <;> rfl
        · rfl

theorem cancel (w : Workspace) (c : Channel) (id : Nat) : PanelsOnly w (w.cancel c id) :=
  setRegistry ..

theorem subscribe (w : Workspace) (c : Channel) (s : Subscriber) :
    PanelsOnly w (w.subscribe c s).2 := setRegistry ..

theorem recompute (w : Workspace) (p : PanelId) : PanelsOnly w (w.recompute p) := by
  unfold Workspace.recompute
  split
  · exact refl w
  · exact (modifyTracker ..).trans (emit ..)

theorem release (w : Workspace) (p : PanelId) : PanelsOnly w (w.release p) := by
  unfold Workspace.release
  split
  · exact refl w
  · exact (cancel ..).trans (modifyTracker ..)

theorem bindTo (w : Workspace) (p : PanelId) (r : ResultId) (generation window : Nat) :
    PanelsOnly w (w.bindTo p r generation window) := (subscribe ..).trans (modifyTracker ..)

theorem rebind (w : Workspace) (p : PanelId) : PanelsOnly w (w.rebind p) := by
  unfold Workspace.rebind
  split
  · exact refl w
  · dsimp only
    split
    · exact (release w p).trans (modifyTracker ..)
    · exact ((release w p).trans (modifyTracker ..)).trans (bindTo ..)

theorem resync (w : Workspace) (p : PanelId) : PanelsOnly w (w.resync p) := by
  unfold Workspace.resync
  split
  · exact (recompute ..).trans (rebind ..)
  · exact refl w

theorem repaint (w : Workspace) (p : PanelId) : PanelsOnly w (w.repaint p) := by
  unfold Workspace.repaint
  split
  · exact recompute ..
  · exact refl w

theorem arm (w : Workspace) (p : PanelId) (generation : Nat) :
    PanelsOnly w (w.arm p generation) := modifyTracker ..

theorem poll (w : Workspace) (p : PanelId) (time : Nat) : PanelsOnly w (w.poll p time).2 := by
  unfold Workspace.poll
  split
  · exact refl w
  · dsimp only
    split
    · exact (modifyTracker ..).trans (recompute ..)
    · exact modifyTracker ..

theorem bind (w : Workspace) (p : PanelId) : PanelsOnly w (w.bind p) := by
  unfold Workspace.bind
  split
  · exact refl w
  · have h := subscribe w .result (.resync p)
    exact (h.trans (subscribe _ .card (.repaint p))).trans (modifyTracker _ p _)

theorem unbind (w : Workspace) (p : PanelId) : PanelsOnly w (w.unbind p) := by
  unfold Workspace.unbind
  split
  · exact refl w
  · exact (((cancel ..).trans (cancel ..)).trans (release ..)).trans (modifyTracker ..)

end PanelsOnly

/-! ## What becomes of the trackers -/

/-- The binding that a tracker makes now: to the current result, if there is one. -/
def freshBinding (w : Workspace) (t : Tracker) : Option Binding :=
  w.result.map fun r =>
    { result := r, generation := t.generation + 1, throttle := { window := t.window }
      subscription := (w.registry (.lifecycle r)).nextId }

end Workspace

namespace Tracker

@[simp] theorem isSome_listening_setBinding (t : Tracker) (b : Option Binding) :
    (t.setBinding b).listening.isSome = t.listening.isSome := by
  simp [setBinding]

theorem isSome_listening_of_binding {t : Tracker} {b : Binding} (h : t.binding = some b) :
    t.listening.isSome := by
  obtain ⟨l, hl, -⟩ := Option.bind_eq_some_iff.1 h
  rw [hl]
  rfl

/-- A tracker of the next generation, bound to the current result. -/
def rebound (t : Tracker) (w : Workspace) : Tracker :=
  { t with
    generation := t.generation + 1
    listening := t.listening.map fun l => { l with binding := w.freshBinding t } }

/-- What a change of result makes of a tracker. -/
def resynced (t : Tracker) (w : Workspace) : Tracker :=
  if t.listening.isSome then (t.paint w.liveFlags).rebound w else t

/-- What a lifecycle notice makes of a tracker at the time that it reads. -/
def armed (t : Tracker) (c : Clock) (generation : Nat) : Tracker := t.arm generation (t.time c)

/-- What a poll makes of a tracker while the selection calls for `live`. -/
def polled (t : Tracker) (live : Flags) (time : Nat) : Tracker :=
  if (t.takeDue time).1 then (t.takeDue time).2.paint live else (t.takeDue time).2

@[simp] theorem isSome_listening_resynced (t : Tracker) (w : Workspace) :
    (t.resynced w).listening.isSome = t.listening.isSome := by
  unfold resynced
  split <;> simp [rebound, paint]

@[simp] theorem binding_setBinding (t : Tracker) (b : Option Binding) :
    (t.setBinding b).binding = if t.listening.isSome then b else none := by
  cases h : t.listening <;> simp [setBinding, binding, h]

theorem binding_arm (t : Tracker) (generation now : Nat) :
    (t.arm generation now).binding = t.binding.map fun b =>
      if b.generation = generation then { b with throttle := (b.throttle.trigger now).2 } else b := by
  unfold arm
  split
  · rename_i b hb
    split
    · rename_i hg
      simp [hb, hg, isSome_listening_of_binding hb]
    · rename_i hg
      simp [hb, hg]
  · rename_i hb
    simp [hb]

@[simp] theorem flags_arm (t : Tracker) (generation now : Nat) :
    (t.arm generation now).flags = t.flags := by
  unfold arm
  split
  · split <;> rfl
  · rfl

@[simp] theorem isSome_listening_arm (t : Tracker) (generation now : Nat) :
    (t.arm generation now).listening.isSome = t.listening.isSome := by
  unfold arm
  split
  · split <;> simp
  · rfl

theorem binding_takeDue (t : Tracker) (time : Nat) :
    (t.takeDue time).2.binding =
      t.binding.map fun b => { b with throttle := (b.throttle.poll time).2 } := by
  unfold takeDue
  split
  · rename_i b hb
    simp [hb, isSome_listening_of_binding hb]
  · rename_i hb
    simp [hb]

@[simp] theorem isSome_listening_takeDue (t : Tracker) (time : Nat) :
    (t.takeDue time).2.listening.isSome = t.listening.isSome := by
  unfold takeDue
  split <;> simp

theorem binding_polled (t : Tracker) (live : Flags) (time : Nat) :
    (t.polled live time).binding =
      t.binding.map fun b => { b with throttle := (b.throttle.poll time).2 } := by
  rw [← binding_takeDue]
  unfold polled
  split <;> rfl

@[simp] theorem isSome_listening_polled (t : Tracker) (live : Flags) (time : Nat) :
    (t.polled live time).listening.isSome = t.listening.isSome := by
  rw [← isSome_listening_takeDue t time]
  unfold polled
  split <;> rfl

/-- A poll that is not due leaves the tracker as it is. -/
theorem takeDue_of_not_due {t : Tracker} {time : Nat} (h : (t.takeDue time).1 = false) :
    (t.takeDue time).2 = t := by
  obtain ⟨name, window, wall, root, flags, recomputes, generation, listening⟩ := t
  cases listening with
  | none => rfl
  | some l =>
      obtain ⟨onResult, onCard, binding⟩ := l
      cases binding with
      | none => rfl
      | some b =>
          have hdue : b.throttle.isDue time = false := by
            simp only [takeDue, Tracker.binding, Option.bind_some, Throttle.poll] at h
            split at h
            · cases h
            · rename_i hdue
              simpa using hdue
          simp [takeDue, Tracker.binding, Throttle.poll, hdue, setBinding]

theorem setBinding_eq_self {t : Tracker} (h : t.binding = none) : t.setBinding none = t := by
  obtain ⟨name, window, wall, root, flags, recomputes, generation, listening⟩ := t
  cases listening with
  | none => rfl
  | some l =>
      obtain ⟨onResult, onCard, b⟩ := l
      obtain rfl : b = none := h
      rfl

end Tracker

namespace Workspace

theorem isListening_of_get? {w : Workspace} {p : PanelId} {t : Tracker}
    (ht : w.trackers.get? p = some t) : w.isListening p = t.listening.isSome := by
  simp [isListening, ht]

theorem trackers_recompute (w : Workspace) (p : PanelId) :
    (w.recompute p).trackers = w.trackers.modify p (·.paint w.liveFlags) := by
  unfold recompute
  split
  · rename_i h
    exact (Table.modify_of_none _ h).symm
  · rfl

@[simp] theorem trackers_cancel (w : Workspace) (c : Channel) (id : Nat) :
    (w.cancel c id).trackers = w.trackers := trackers_setRegistry ..

@[simp] theorem trackers_subscribe (w : Workspace) (c : Channel) (s : Subscriber) :
    (w.subscribe c s).2.trackers = w.trackers := trackers_setRegistry ..

theorem trackers_release (w : Workspace) (p : PanelId) :
    (w.release p).trackers = w.trackers.modify p (·.setBinding none) := by
  unfold release
  split
  · rename_i h
    refine (Table.modify_eq_self fun t ht => Tracker.setBinding_eq_self ?_).symm
    simpa [ht] using h
  · simp [modifyTracker]

theorem registry_release_nextId (w : Workspace) (p : PanelId) (c : Channel) :
    ((w.release p).registry c).nextId = (w.registry c).nextId := by
  rw [registry_release]
  split
  · rfl
  · split <;> rfl

theorem trackers_rebind (w : Workspace) (p : PanelId) :
    (w.rebind p).trackers = w.trackers.modify p (·.rebound w) := by
  unfold rebind
  split
  · rename_i h
    exact (Table.modify_of_none _ h).symm
  · rename_i t ht
    have hresult : (w.release p).result = w.result := (PanelsOnly.release w p).result
    dsimp only
    split
    · rename_i h
      have hnone : w.result = none := hresult.symm.trans h
      simp only [modifyTracker, trackers_release, Table.modify_modify]
      refine Table.modify_congr_of_get? ht ?_
      simp [Tracker.rebound, Tracker.setBinding, freshBinding, hnone]
    · rename_i r h
      have hsome : w.result = some r := hresult.symm.trans h
      have hid := registry_release_nextId w p (.lifecycle r)
      simp only [bindTo, modifyTracker, trackers_subscribe, trackers_release, Table.modify_modify]
      refine Table.modify_congr_of_get? ht ?_
      simp only [Tracker.rebound, Tracker.setBinding, freshBinding, hsome, Option.map_map,
        Option.map_some]
      rw [← hid]
      rfl

theorem isListening_modify {w w' : Workspace} {p : PanelId} {f : Tracker → Tracker}
    (h : w'.trackers = w.trackers.modify p f)
    (hf : ∀ t, (f t).listening.isSome = t.listening.isSome) (q : PanelId) :
    w'.isListening q = w.isListening q := by
  rw [isListening, h, Table.get?_modify]
  split
  · simp only [Option.any_map, hf]
    rfl
  · rfl

theorem isListening_recompute (w : Workspace) (p q : PanelId) :
    (w.recompute p).isListening q = w.isListening q :=
  isListening_modify (trackers_recompute w p) (fun _ => rfl) q

theorem trackers_resync (w : Workspace) (p : PanelId) :
    (w.resync p).trackers = w.trackers.modify p (·.resynced w) := by
  unfold resync
  split
  · rename_i h
    rw [trackers_rebind, trackers_recompute, Table.modify_modify]
    refine Table.modify_congr fun t ht => ?_
    have hl : t.listening.isSome := (isListening_of_get? ht).symm.trans h
    have hfresh : (w.recompute p).freshBinding = w.freshBinding := by
      funext t
      simp only [freshBinding, (PanelsOnly.recompute w p).result, registry_recompute]
    simp [Tracker.resynced, hl, Tracker.rebound, hfresh]
  · rename_i h
    refine (Table.modify_eq_self fun t ht => ?_).symm
    have hl : t.listening = none := by simpa [isListening_of_get? ht] using h
    simp [Tracker.resynced, hl]

theorem trackers_arm (w : Workspace) (p : PanelId) (generation : Nat) :
    (w.arm p generation).trackers = w.trackers.modify p (·.armed w.clock generation) := rfl

theorem trackers_poll (w : Workspace) (p : PanelId) (time : Nat) :
    (w.poll p time).2.trackers = w.trackers.modify p (·.polled w.liveFlags time) := by
  unfold poll
  split
  · rename_i h
    exact (Table.modify_of_none _ h).symm
  · rename_i t ht
    dsimp only
    split
    · rename_i hdue
      rw [trackers_recompute]
      simp only [modifyTracker, Table.modify_modify]
      refine Table.modify_congr_of_get? ht ?_
      rw [Tracker.polled, if_pos hdue]
      rfl
    · rename_i hdue
      refine Table.modify_congr_of_get? ht ?_
      rw [Tracker.polled, if_neg hdue]

theorem trackers_repaint (w : Workspace) (p : PanelId) :
    (w.repaint p).trackers =
      w.trackers.modify p fun t => if t.listening.isSome then t.paint w.liveFlags else t := by
  unfold repaint
  split
  · rename_i h
    rw [trackers_recompute]
    refine Table.modify_congr fun t ht => ?_
    have hl : t.listening.isSome := (isListening_of_get? ht).symm.trans h
    simp [hl]
  · rename_i h
    refine (Table.modify_eq_self fun t ht => ?_).symm
    have hl : t.listening = none := by simpa [isListening_of_get? ht] using h
    simp [hl]

theorem trackers_bind (w : Workspace) (p : PanelId) :
    (w.bind p).trackers = w.trackers.modify p fun t =>
      if t.listening.isSome then t
      else { t with
        listening := some
          { onResult := (w.registry .result).nextId, onCard := (w.registry .card).nextId } } := by
  unfold bind
  split
  · rename_i h
    refine (Table.modify_eq_self fun t ht => ?_).symm
    have hl : t.listening.isSome := (isListening_of_get? ht).symm.trans h
    simp [hl]
  · rename_i h
    simp only [modifyTracker, trackers_subscribe]
    refine Table.modify_congr fun t ht => ?_
    have hl : t.listening = none := by simpa [isListening_of_get? ht] using h
    simp only [hl]
    rfl

theorem trackers_unbind (w : Workspace) (p : PanelId) :
    (w.unbind p).trackers = w.trackers.modify p fun t => { t with listening := none } := by
  unfold unbind
  split
  · rename_i h
    refine (Table.modify_eq_self fun t ht => ?_).symm
    have hl : t.listening = none := by simpa [ht] using h
    obtain ⟨name, window, wall, root, flags, recomputes, generation, listening⟩ := t
    obtain rfl : listening = none := hl
    rfl
  · simp only [modifyTracker, trackers_release, trackers_cancel, Table.modify_modify]
    rfl

theorem isListening_unbind_self (w : Workspace) (p : PanelId) :
    (w.unbind p).isListening p = false := by
  rw [isListening, trackers_unbind, Table.get?_modify, if_pos rfl]
  cases w.trackers.get? p <;> rfl

/-! ## The views are left alone -/

@[simp] theorem views_setRegistry (w : Workspace) (c : Channel) (g : Registry Subscriber) :
    (w.setRegistry c g).views = w.views := by
  cases c <;> rfl

@[simp] theorem views_recompute (w : Workspace) (p : PanelId) :
    (w.recompute p).views = w.views := by
  unfold recompute
  split <;> rfl

@[simp] theorem views_release (w : Workspace) (p : PanelId) : (w.release p).views = w.views := by
  unfold release
  split
  · rfl
  · exact views_setRegistry ..

@[simp] theorem views_rebind (w : Workspace) (p : PanelId) : (w.rebind p).views = w.views := by
  unfold rebind
  split
  · rfl
  · dsimp only
    split
    · exact views_release w p
    · exact (views_setRegistry ..).trans (views_release w p)

@[simp] theorem views_bind (w : Workspace) (p : PanelId) : (w.bind p).views = w.views := by
  unfold bind
  split
  · rfl
  · exact (views_setRegistry ..).trans (views_setRegistry ..)

@[simp] theorem views_resync (w : Workspace) (p : PanelId) : (w.resync p).views = w.views := by
  unfold resync
  split <;> simp

@[simp] theorem views_repaint (w : Workspace) (p : PanelId) : (w.repaint p).views = w.views := by
  unfold repaint
  split <;> simp

@[simp] theorem views_poll (w : Workspace) (p : PanelId) (time : Nat) :
    (w.poll p time).2.views = w.views := by
  unfold poll
  split
  · rfl
  · dsimp only
    split
    · exact views_recompute ..
    · rfl

@[simp] theorem views_deliver (w : Workspace) (d : Delivery) : (w.deliver d).views = w.views := by
  unfold deliver
  split
  · exact views_resync ..
  · exact views_repaint ..
  · rfl
  · rfl

@[simp] theorem views_deliverAll (w : Workspace) (ds : List Delivery) :
    (w.deliverAll ds).views = w.views := by
  induction ds generalizing w with
  | nil => rfl
  | cons d ds ih => exact (ih (w.deliver d)).trans (views_deliver w d)

@[simp] theorem views_selectResult (w : Workspace) (r : Option ResultId) :
    (w.selectResult r).2.2.views = w.views := by
  unfold selectResult
  split <;> rfl

@[simp] theorem views_selectCard (w : Workspace) (card : Option Metacard) :
    (w.selectCard card).2.2.views = w.views := by
  unfold selectCard
  split <;> rfl

end Workspace

end DetailPanel
