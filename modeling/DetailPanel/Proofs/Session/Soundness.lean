import DetailPanel.Proofs.Workspace.Moves
import DetailPanel.Session.Machine

/-!
# Sessions by moves

In a session everything goes by name.  A session is sound if its names stand
for what is there: results and panels of the workspace, one panel for each
name, and for each observer its own entry in a registry.  Every job but the
binding of a tracker takes a sound session to a sound one by moves.

    s.Sound held → Advances l held s (s.begin t).2.1 (s.begin t).2.2     (advances_begin)
-/

namespace DetailPanel

open Workspace

namespace Session

/-- What a name of a panel may stand for. -/
inductive PanelKind where
  | view
  | tracker
  deriving DecidableEq

def panels (s : Session) : PanelKind → Table String PanelId
  | .view => s.views
  | .tracker => s.trackers

/-- Every name stands for a panel of its own. -/
structure Named (s : Session) : Prop where
  live : ∀ k name p, (s.panels k).get? name = some p → (s.workspace.trackers.get? p).isSome
  inj : ∀ k k' name name' p, (s.panels k).get? name = some p →
    (s.panels k').get? name' = some p → k = k' ∧ name = name'

theorem Named.retain {s s' : Session} (h : s.Named) (hp : ∀ k, s'.panels k = s.panels k)
    (hret : Retains s.workspace s'.workspace) : s'.Named where
  live k name p hlive := hret p (h.live k name p (by rwa [hp] at hlive))
  inj k k' name name' p hk hk' := h.inj k k' name name' p (by rwa [hp] at hk) (by rwa [hp] at hk')

/-- What is held outside the workspace is held by observers, each by one name. -/
structure Observed (held : Holdings) (s : Session) : Prop where
  named : ∀ c e, held c e → ∃ name, s.observers.get? name = some ⟨c, e.1⟩
  entry : ∀ name h, s.observers.get? name = some h → ∃ k, held h.channel (h.id, .observer k)
  inj : ∀ name name' h, s.observers.get? name = some h → s.observers.get? name' = some h →
    name = name'

theorem Observed.congr {held : Holdings} {s s' : Session} (h : s.Observed held)
    (hobs : s'.observers = s.observers) : s'.Observed held := by
  obtain ⟨hnamed, hentry, hinj⟩ := h
  exact ⟨by rwa [hobs], by rwa [hobs], by rwa [hobs]⟩

structure Sound (held : Holdings) (s : Session) : Prop where
  wired : s.workspace.Wired held
  results : ∀ key r, s.results.get? key = some r → (s.workspace.results.get? r).isSome
  named : s.Named
  observed : s.Observed held

theorem sound_empty : Sound nobody {} where
  wired := wired_empty
  results := by simp
  named := ⟨by intro k; cases k <;> simp [panels], by intro k; cases k <;> simp [panels]⟩
  observed := ⟨by simp [nobody], by simp, by simp⟩

/-- A job gets from one session to the other by moves, and the other is sound. -/
def Advances (l : Licence) (held : Holdings) (s : Session) (ds : List Delivery)
    (s' : Session) : Prop :=
  ∃ held', Moves l held s.workspace ds held' s'.workspace ∧ s'.Sound held'

variable {l : Licence} {held : Holdings} {s s' s'' : Session} {w' : Workspace} {ds : List Delivery}

theorem Advances.refl (hs : s.Sound held) : Advances l held s [] s := ⟨held, .nil, hs⟩

/-- What a sound session is made of, with another workspace in it. -/
theorem Sound.setWorkspace (hs : s.Sound held) (hw : w'.Wired held)
    (hknown : ∀ r, (s.workspace.results.get? r).isSome → (w'.results.get? r).isSome)
    (hret : Retains s.workspace w') : (s.setWorkspace w').Sound held where
  wired := hw
  results key r hr := hknown r (hs.results key r hr)
  named := hs.named.retain (fun k => by cases k <;> rfl) hret
  observed := hs.observed.congr rfl

/-- Neither the workspace changes nor what the names stand for. -/
theorem Sound.congr (hs : s.Sound held) (hw : s'.workspace = s.workspace)
    (hresults : s'.results = s.results) (hpanels : ∀ k, s'.panels k = s.panels k)
    (hobs : s'.observers = s.observers) : s'.Sound held where
  wired := hw ▸ hs.wired
  results key r hr := by
    rw [hresults] at hr
    rw [hw]
    exact hs.results key r hr
  named := hs.named.retain hpanels (.of_eq (congrArg Workspace.trackers hw))
  observed := hs.observed.congr hobs

/-- A series of moves that keeps what observers hold, and all panels. -/
theorem Advances.of_moves (hs : s.Sound held) (ms : Moves l held s.workspace ds held w')
    (hret : Retains s.workspace w') : Advances l held s ds (s.setWorkspace w') :=
  ⟨held, ms, hs.setWorkspace (hs.wired.moves ms) (fun r hr => ms.known r hr) hret⟩

theorem Advances.of_move (hs : s.Sound held) (m : Move l held s.workspace ds held w')
    (hret : Retains s.workspace w') : Advances l held s ds (s.setWorkspace w') :=
  .of_moves hs m.moves hret

theorem Advances.trans (h : Advances l held s ds s')
    (h' : ∀ held', s'.Sound held' → Advances l held' s' [] s'') :
    Advances l held s ds s'' := by
  obtain ⟨held', ms, hs'⟩ := h
  obtain ⟨held'', ms', hs''⟩ := h' held' hs'
  exact ⟨held'', ms.trans ms', hs''⟩

/-! ## Steps on what has a name -/

theorem kept_withResult {α : Type} (g : Session → α) {key : String} {f : ResultId → Result}
    (hf : ∀ r, g (f r).2.2 = g s) : g (s.withResult key f).2.2 = g s := by
  unfold withResult
  split
  · exact hf _
  · rfl

theorem kept_withView {α : Type} (g : Session → α) {name : String} {f : PanelId → Answer × Workspace}
    (hf : ∀ p, g (s.setWorkspace (f p).2) = g s) : g (s.withView name f).2.2 = g s := by
  unfold withView
  split
  · exact hf _
  · rfl

theorem kept_withTracker {α : Type} (g : Session → α) {name : String}
    {f : PanelId → Answer × Workspace} (hf : ∀ p, g (s.setWorkspace (f p).2) = g s) :
    g (s.withTracker name f).2.2 = g s := by
  unfold withTracker
  split
  · exact hf _
  · rfl

/-- What a name stood for is given up when the new one is there. -/
theorem kept_getD {α β : Type} (g : Workspace → α) {o : Option β} {f : β → Workspace}
    {w : Workspace} (hf : ∀ x, o = some x → g (f x) = g w) : g ((o.map f).getD w) = g w := by
  cases o with
  | none => rfl
  | some x => exact hf x rfl

/-- Whether a step changes more of a session than its workspace. -/
def Step.rewires : Step → Bool
  | .addResult .. | .view .. | .dropView _ | .tracker .. | .dropTracker _ | .observe ..
  | .unobserve _ | .snapshot _ | .reflect => true
  | _ => false

theorem kept_begin {α : Type} (g : Session → α) (hg : ∀ w, g (s.setWorkspace w) = g s)
    {t : Step} (ht : t.rewires = false) : g (s.begin t).2.2 = g s := by
  cases t with
  | setSearching | fetch => exact kept_withResult g fun _ => hg _
  | announce => exact kept_withResult g fun _ => rfl
  | select key =>
      cases key with
      | none => exact hg _
      | some key => exact kept_withResult g fun _ => hg _
  | selectCard | advance | advanceTo | passWall => exact hg _
  | showView | render | beforeShow | teardown | tick | update => exact kept_withView g fun _ => hg _
  | bind | unbind | resync | recompute | poll => exact kept_withTracker g fun _ => hg _
  | addResult | view | dropView | tracker | dropTracker | observe | unobserve | snapshot
  | reflect => cases ht

theorem advances_withResult (hs : s.Sound held) {key : String} {f : ResultId → Result}
    (hf : ∀ r, s.results.get? key = some r → Advances l held s (f r).2.1 (f r).2.2) :
    Advances l held s (s.withResult key f).2.1 (s.withResult key f).2.2 := by
  unfold withResult
  split
  · rename_i r hr
    exact hf r hr
  · exact .refl hs

theorem advances_withView (hs : s.Sound held) {name : String} {f : PanelId → Answer × Workspace}
    (ms : ∀ p, s.views.get? name = some p → Moves l held s.workspace [] held (f p).2)
    (hret : ∀ p, Retains s.workspace (f p).2) :
    Advances l held s (s.withView name f).2.1 (s.withView name f).2.2 := by
  unfold withView
  split
  · rename_i p hp
    exact .of_moves hs (ms p hp) (hret p)
  · exact .refl hs

theorem advances_withTracker (hs : s.Sound held) {name : String}
    {f : PanelId → Answer × Workspace}
    (m : ∀ p, s.trackers.get? name = some p → Move l held s.workspace [] held (f p).2)
    (hret : ∀ p, Retains s.workspace (f p).2) :
    Advances l held s (s.withTracker name f).2.1 (s.withTracker name f).2.2 := by
  unfold withTracker
  split
  · rename_i p hp
    exact .of_move hs (m p hp) (hret p)
  · exact .refl hs

theorem advances_selectResult (hs : s.Sound held) {r : Option ResultId}
    (hr : ∀ r', r = some r' → (s.workspace.results.get? r').isSome) :
    Advances l held s (s.selectResult r).2.1 (s.selectResult r).2.2 :=
  .of_move hs (.select r hr) (.of_eq (trackers_selectResult ..))

theorem advances_selectCard (hs : s.Sound held) (card : Option Metacard) :
    Advances l held s (s.selectCard card).2.1 (s.selectCard card).2.2 :=
  .of_move hs (.selectCard card) (.of_eq (trackers_selectCard ..))

theorem advances_addResult (hs : s.Sound held) (key label : String) (searching : Bool) :
    Advances l held s [] (s.addResult key label searching) := by
  have m : Move l held s.workspace [] held (s.workspace.addResult label searching).2 :=
    .addResult label searching
  refine ⟨held, m.moves, ?_⟩
  refine ⟨hs.wired.move m, fun key' r hr => ?_,
    hs.named.retain (fun k => by cases k <;> rfl) (.of_eq rfl), hs.observed.congr rfl⟩
  have hget : (s.addResult key label searching).results.get? key' = _ := Table.get?_set ..
  rw [hget] at hr
  split at hr
  · obtain rfl := Option.some.inj hr
    have hnew : (s.workspace.addResult label searching).2.results.get? s.workspace.nextResult = _ :=
      Table.get?_set ..
    show ((s.workspace.addResult label searching).2.results.get? s.workspace.nextResult).isSome
    rw [hnew, if_pos rfl]
    rfl
  · exact m.known r (hs.results key' r hr)

/-! ## Panels come and go -/

/-- A name is given to a new panel; the panel that had it may go. -/
theorem Named.set (h : s.Named) {k : PanelKind} {name : String} {p : PanelId}
    (hnew : s.workspace.trackers.get? p = none)
    (htab : ∀ k' n, (s'.panels k').get? n =
      if k' = k ∧ n = name then some p else (s.panels k').get? n)
    (hp : (s'.workspace.trackers.get? p).isSome)
    (hret : ∀ q, (s.workspace.trackers.get? q).isSome → (s.panels k).get? name ≠ some q →
      (s'.workspace.trackers.get? q).isSome) : s'.Named where
  live k' n q hq := by
    rw [htab] at hq
    split at hq
    · obtain rfl := Option.some.inj hq
      exact hp
    · rename_i hne
      exact hret q (h.live k' n q hq) fun hold => hne (h.inj k' k n name q hq hold)
  inj k₁ k₂ n₁ n₂ q h₁ h₂ := by
    have hold : ∀ k n, (s.panels k).get? n ≠ some p := by
      intro k n hkn
      have := h.live k n p hkn
      simp [hnew] at this
    rw [htab] at h₁ h₂
    split at h₁ <;> split at h₂
    · rename_i e₁ e₂
      exact ⟨e₁.1.trans e₂.1.symm, e₁.2.trans e₂.2.symm⟩
    · exact absurd (h₂.trans h₁.symm) (hold k₂ n₂)
    · exact absurd (h₁.trans h₂.symm) (hold k₁ n₁)
    · exact h.inj k₁ k₂ n₁ n₂ q h₁ h₂

/-- A name is given up, and its panel goes. -/
theorem Named.erase (h : s.Named) {k : PanelKind} {name : String}
    (htab : ∀ k' n, (s'.panels k').get? n =
      if k' = k ∧ n = name then none else (s.panels k').get? n)
    (hret : ∀ q, (s.workspace.trackers.get? q).isSome → (s.panels k).get? name ≠ some q →
      (s'.workspace.trackers.get? q).isSome) : s'.Named where
  live k' n q hq := by
    rw [htab] at hq
    split at hq
    · cases hq
    · rename_i hne
      exact hret q (h.live k' n q hq) fun hold => hne (h.inj k' k n name q hq hold)
  inj k₁ k₂ n₁ n₂ q h₁ h₂ := by
    rw [htab] at h₁ h₂
    split at h₁ <;> split at h₂
    · cases h₁
    · cases h₁
    · cases h₂
    · exact h.inj k₁ k₂ n₁ n₂ q h₁ h₂

/-- A panel is made under a name, and the one that had the name is dropped. -/
theorem Advances.of_make (hs : s.Sound held) {k : PanelKind} {name : String} {made : Workspace}
    {drop : PanelId → Workspace} (ms : Moves l held s.workspace [] held made)
    (hmade : ∀ q, q = s.workspace.nextPanel ∨ (s.workspace.trackers.get? q).isSome →
      (made.trackers.get? q).isSome)
    (msdrop : ∀ old, Moves l held made [] held (drop old))
    (hdrop : ∀ old q, q ≠ old → (made.trackers.get? q).isSome → ((drop old).trackers.get? q).isSome)
    (hw : s'.workspace = (((s.panels k).get? name).map drop).getD made)
    (htab : ∀ k' n, (s'.panels k').get? n =
      if k' = k ∧ n = name then some s.workspace.nextPanel else (s.panels k').get? n)
    (hresults : s'.results = s.results) (hobs : s'.observers = s.observers) :
    Advances l held s [] s' := by
  have msall : Moves l held s.workspace [] held s'.workspace := by
    rw [hw]
    cases (s.panels k).get? name with
    | none => exact ms
    | some old => exact ms.trans (msdrop old)
  have hret : ∀ q, q = s.workspace.nextPanel ∨ (s.workspace.trackers.get? q).isSome →
      (s.panels k).get? name ≠ some q → (s'.workspace.trackers.get? q).isSome := by
    intro q hq hold
    rw [hw]
    cases hv : (s.panels k).get? name with
    | none => exact hmade q hq
    | some old => exact hdrop old q (fun he => hold (by rw [hv, he])) (hmade q hq)
  refine ⟨held, msall, hs.wired.moves msall, fun key r hr => ?_, ?_, ?_⟩
  · rw [hresults] at hr
    exact msall.known r (hs.results key r hr)
  · have hnone := hs.wired.new_panel
    refine hs.named.set hnone htab (hret _ (.inl rfl) fun hold => ?_) fun q hq => hret q (.inr hq)
    have := hs.named.live k name _ hold
    simp [hnone] at this
  · exact hs.observed.congr hobs

/-- The panel of a name is dropped. -/
theorem Advances.of_drop (hs : s.Sound held) {k : PanelKind} {name : String} {p : PanelId}
    (hp : (s.panels k).get? name = some p)
    (ms : Moves l held s.workspace [] held s'.workspace)
    (hdrop : ∀ q, q ≠ p → (s.workspace.trackers.get? q).isSome →
      (s'.workspace.trackers.get? q).isSome)
    (htab : ∀ k' n, (s'.panels k').get? n =
      if k' = k ∧ n = name then none else (s.panels k').get? n)
    (hresults : s'.results = s.results) (hobs : s'.observers = s.observers) :
    Advances l held s [] s' := by
  refine ⟨held, ms, hs.wired.moves ms, fun key r hr => ?_, ?_, ?_⟩
  · rw [hresults] at hr
    exact ms.known r (hs.results key r hr)
  · exact hs.named.erase htab fun q hq hold => hdrop q (fun he => hold (by rw [hp, he])) hq
  · exact hs.observed.congr hobs

theorem advances_addView (hs : s.Sound held) (name : String) (config : Config) (wall : Bool) :
    Advances l held s [] (s.addView name config wall) := by
  refine .of_make hs (k := .view) (moves_addView _ name config wall)
    (fun q => isSome_addView _ name config wall) (fun old => moves_dropView _ old)
    (fun old q hq hlive => ?_) rfl (fun k n => ?_) rfl rfl
  · rwa [get?_dropView, if_neg hq]
  · cases k with
    | view =>
        show Table.get? n (s.views.set name s.workspace.nextPanel) = _
        simp [Table.get?_set, panels]
    | tracker => simp [panels, addView]

theorem advances_addTracker (hs : s.Sound held) (name : String) (window : Nat) :
    Advances l held s [] (s.addTracker name window) := by
  refine .of_make hs (k := .tracker) (Move.addTracker name window false).moves
    (fun q => isSome_addTracker _ name window false) (fun old => moves_dropTracker _ old)
    (fun old q hq hlive => ?_) rfl (fun k n => ?_) rfl rfl
  · rwa [get?_dropTracker, if_neg hq]
  · cases k with
    | view => simp [panels, addTracker]
    | tracker =>
        show Table.get? n (s.trackers.set name s.workspace.nextPanel) = _
        simp [Table.get?_set, panels]

theorem advances_dropView (hs : s.Sound held) (name : String) :
    Advances l held s (s.dropView name).2.1 (s.dropView name).2.2 := by
  unfold dropView
  split
  · rename_i p hp
    refine .of_drop hs (k := .view) hp (moves_dropView _ p) (fun q hq hlive => ?_)
      (fun k n => ?_) rfl rfl
    · rwa [get?_dropView, if_neg hq]
    · cases k with
      | view =>
          show Table.get? n (s.views.erase name) = _
          simp [Table.get?_erase, panels]
      | tracker => simp [panels]
  · exact .refl hs

theorem advances_dropTracker (hs : s.Sound held) (name : String) :
    Advances l held s (s.dropTracker name).2.1 (s.dropTracker name).2.2 := by
  unfold dropTracker
  split
  · rename_i p hp
    refine .of_drop hs (k := .tracker) hp (moves_dropTracker _ p) (fun q hq hlive => ?_)
      (fun k n => ?_) rfl rfl
    · rwa [get?_dropTracker, if_neg hq]
    · cases k with
      | view => simp [panels]
      | tracker =>
          show Table.get? n (s.trackers.erase name) = _
          simp [Table.get?_erase, panels]
  · exact .refl hs

/-! ## Observers come and go -/

/-- The number that a channel gives out next is no observer's yet. -/
theorem Sound.handle_new (hs : s.Sound held) (name : String) (c : Channel) :
    s.observers.get? name ≠ some ⟨c, (s.workspace.registry c).nextId⟩ := by
  intro h
  obtain ⟨k, hk⟩ := hs.observed.entry name _ h
  exact (hs.wired.ascending c).nextId_notMem _ ((hs.wired.mem_entries c _).2 (.inr hk))

/-- A name that nobody has is given to a new entry. -/
theorem Observed.add (hs : s.Observed held) {name : String} {c : Channel} {id : Nat} (k : Nat)
    (hname : s.observers.get? name = none) (hnew : ∀ n, s.observers.get? n ≠ some ⟨c, id⟩)
    (hget : ∀ n, s'.observers.get? n = if n = name then some ⟨c, id⟩ else s.observers.get? n) :
    s'.Observed (held.add c (id, .observer k)) := by
  refine ⟨?_, ?_, ?_⟩
  · rintro c' e (hheld | ⟨rfl, rfl⟩)
    · obtain ⟨n, hn⟩ := hs.named c' e hheld
      refine ⟨n, ?_⟩
      rw [hget, if_neg ?_]
      · exact hn
      · rintro rfl
        simp [hname] at hn
    · exact ⟨name, by rw [hget, if_pos rfl]⟩
  · intro n h hn
    rw [hget] at hn
    split at hn
    · obtain rfl := Option.some.inj hn
      exact ⟨k, .inr ⟨rfl, rfl⟩⟩
    · obtain ⟨k', hk'⟩ := hs.entry n h hn
      exact ⟨k', .inl hk'⟩
  · intro n₁ n₂ h h₁ h₂
    rw [hget] at h₁ h₂
    split at h₁ <;> split at h₂
    · rename_i e₁ e₂
      exact e₁.trans e₂.symm
    · exact absurd (h₂.trans h₁.symm) (hnew n₂)
    · exact absurd (h₁.trans h₂.symm) (hnew n₁)
    · exact hs.inj n₁ n₂ h h₁ h₂

/-- A name and its entry are given up. -/
theorem Observed.remove (hs : s.Observed held) {name : String} {h : Handle} {k : Nat}
    (hname : s.observers.get? name = some h)
    (hget : ∀ n, s'.observers.get? n = if n = name then none else s.observers.get? n) :
    s'.Observed (held.remove h.channel (h.id, .observer k)) := by
  refine ⟨?_, ?_, ?_⟩
  · rintro c e ⟨hheld, hne⟩
    obtain ⟨n, hn⟩ := hs.named c e hheld
    refine ⟨n, ?_⟩
    rw [hget, if_neg ?_]
    · exact hn
    · rintro rfl
      obtain rfl := Option.some.inj (hname.symm.trans hn)
      exact hne ⟨rfl, rfl⟩
  · intro n h' hn
    rw [hget] at hn
    split at hn
    · cases hn
    · rename_i hne
      obtain ⟨k', hk'⟩ := hs.entry n h' hn
      refine ⟨k', hk', ?_⟩
      rintro ⟨hc, hid⟩
      have heq : h' = h := by
        obtain ⟨c', id'⟩ := h'
        obtain ⟨c, id⟩ := h
        obtain rfl : c' = c := hc
        obtain rfl : id' = id := hid
        rfl
      exact hne (hs.inj n name h (heq ▸ hn) hname)
  · intro n₁ n₂ h' h₁ h₂
    rw [hget] at h₁ h₂
    split at h₁ <;> split at h₂
    · cases h₁
    · cases h₁
    · cases h₂
    · exact hs.inj n₁ n₂ h' h₁ h₂

/-- Nothing changes but who observes. -/
theorem Advances.of_observed (hs : s.Sound held) {held' : Holdings}
    (ms : Moves l held s.workspace [] held' s'.workspace)
    (htr : s'.workspace.trackers = s.workspace.trackers) (hpanels : ∀ k, s'.panels k = s.panels k)
    (hresults : s'.results = s.results) (hobs : s'.Observed held') : Advances l held s [] s' := by
  refine ⟨held', ms, hs.wired.moves ms, fun key r hr => ?_, hs.named.retain hpanels (.of_eq htr), hobs⟩
  rw [hresults] at hr
  exact ms.known r (hs.results key r hr)

theorem advances_unobserve (hs : s.Sound held) (name : String) :
    Advances l held s (s.unobserve name).2.1 (s.unobserve name).2.2 := by
  unfold unobserve
  split
  · rename_i h hh
    obtain ⟨k, hk⟩ := hs.observed.entry name h hh
    exact .of_observed hs (Move.cancel hk).moves (trackers_cancel ..) (fun k => by cases k <;> rfl)
      rfl (hs.observed.remove hh fun n => Table.get?_erase ..)
  · exact .refl hs

theorem advances_observe (hs : s.Sound held) (name : String) {c : Channel}
    (hc : s.workspace.Known c) (script : Script Step) :
    Advances l held s [] (s.observe name c script).2 := by
  have m : Move l held s.workspace [] _ _ := .observe hc s.callbacks.length
  have hset : ∀ n, (s.observe name c script).2.observers.get? n =
      if n = name then some ⟨c, (s.workspace.registry c).nextId⟩ else s.observers.get? n :=
    fun n => Table.get?_set ..
  have hpanels : ∀ k, (s.observe name c script).2.panels k = s.panels k := by
    intro k
    cases k <;> rfl
  cases hname : s.observers.get? name with
  | none =>
      have hw : (s.observe name c script).2.workspace =
          (s.workspace.subscribe c (.observer s.callbacks.length)).2 := by
        simp [observe, hname]
      refine .of_observed hs (hw ▸ m.moves) (by rw [hw, trackers_subscribe]) hpanels rfl ?_
      exact hs.observed.add _ hname (fun n => hs.handle_new n c) hset
  | some h =>
      obtain ⟨k, hk⟩ := hs.observed.entry name h hname
      have hw : (s.observe name c script).2.workspace =
          (s.workspace.subscribe c (.observer s.callbacks.length)).2.cancel h.channel h.id := by
        simp [observe, hname]
      have m' : Move l (held.add c ((s.workspace.registry c).nextId,
          .observer s.callbacks.length)) _ [] _
          ((s.workspace.subscribe c (.observer s.callbacks.length)).2.cancel h.channel h.id) :=
        .cancel (e := (h.id, .observer k)) (.inl hk)
      refine .of_observed hs (hw ▸ m.moves.andThen m')
        (by rw [hw, trackers_cancel, trackers_subscribe]) hpanels rfl ?_
      -- the old entry is another one, so it may as well have been given up first
      rw [Holdings.add_remove]
      · let left : Session := { s with observers := s.observers.erase name }
        have hleft : ∀ n, left.observers.get? n = if n = name then none else s.observers.get? n :=
          fun n => Table.get?_erase ..
        have hfree := hs.observed.remove (k := k) hname hleft
        refine hfree.add _ (by rw [hleft, if_pos rfl]) (fun n => ?_) fun n => ?_
        · rw [hleft]
          split
          · simp
          · exact hs.handle_new n c
        · rw [hset, hleft]
          split <;> rfl
      · rintro ⟨rfl, hid⟩
        have hmem := (hs.wired.mem_entries h.channel _).2 (.inr hk)
        have := (hs.wired.ascending h.channel).below _ hmem
        simp only at hid this
        omega

/-! ## Steps -/

/-- The panel that a job makes handle a change of the current result. -/
def resynced? (s : Session) : Job → Option PanelId
  | .step (.resync name) => s.trackers.get? name
  | .step (.showView name) | .step (.render name) => s.views.get? name
  | .step (.update name .showView) | .step (.update name .render) => s.views.get? name
  | .deliver ⟨.resync p, _⟩ => some p
  | _ => none

/-- Whether a job says without an announcement that the current result is
searching, or that it is not. -/
def silences (s : Session) : Job → Bool
  | .step (.setSearching key _) => (s.results.get? key).any fun r => s.workspace.result = some r
  | _ => false

/-- The panel whose throttle a job arms, and the generation for which it does. -/
def armed? : Job → Option (PanelId × Nat)
  | .deliver ⟨.arm p generation, _⟩ => some (p, generation)
  | _ => none

/-- What the moves of a job may do. -/
def licence (s : Session) (j : Job) : Licence where
  silence := s.silences j
  resync p := s.resynced? j = some p
  arm p generation := armed? j = some (p, generation)

theorem moves_render {w : Workspace} {p : PanelId} (h : l.resync p) :
    Moves l held w [] held (w.render p) :=
  (Move.scenery (.modifyView w p fun v => { v with renders := v.renders + 1 })).moves.andThen
    (.resync p h)

theorem moves_showView {w : Workspace} {p : PanelId} (h : l.resync p) :
    Moves l held w [] held (w.showView p) :=
  (moves_render h).andThen (.scenery (.beforeShow _ p))

theorem moves_teardown (w : Workspace) (p : PanelId) : Moves l held w [] held (w.teardown p) :=
  (Move.unbind p).moves.andThen (.scenery (.changeRegion _ p Region.close))

theorem retains_render (w : Workspace) (p : PanelId) : Retains w (w.render p) :=
  .of_modify (trackers_resync (w.modifyView p fun v => { v with renders := v.renders + 1 }) p)

theorem retains_showView (w : Workspace) (p : PanelId) : Retains w (w.showView p) :=
  (retains_render w p).trans (.of_eq (ViewsOnly.beforeShow _ p).trackers)

theorem retains_teardown (w : Workspace) (p : PanelId) : Retains w (w.teardown p) :=
  (Retains.of_modify (trackers_unbind w p)).trans (.of_eq (ViewsOnly.changeRegion _ p _).trackers)

theorem advances_update (hs : s.Sound held) (name : String) (message : Message) :
    Advances (s.licence (.step (.update name message))) held s
      (s.begin (.update name message)).2.1 (s.begin (.update name message)).2.2 := by
  cases message with
  | showView =>
      exact advances_withView hs (fun p hp => moves_showView hp) fun p => retains_showView _ p
  | render => exact advances_withView hs (fun p hp => moves_render hp) fun p => retains_render _ p
  | tick =>
      exact advances_withView hs (fun p _ => (Move.poll p _).moves) fun p =>
        .of_modify (trackers_poll ..)
  | teardown =>
      exact advances_withView hs (fun p _ => moves_teardown _ p) fun p => retains_teardown _ p

theorem known_channel? (hs : s.Sound held) {topic : Topic} {c : Channel}
    (h : s.channel? topic = some c) : s.workspace.Known c := by
  cases topic with
  | result | card =>
      obtain rfl := Option.some.inj h
      exact trivial
  | lifecycle key =>
      obtain ⟨r, hr, rfl⟩ := Option.map_eq_some_iff.1 h
      exact hs.results key r hr

/-- Every step but the binding of a tracker goes by moves. -/
theorem advances_begin (hs : s.Sound held) (t : Step) (ht : ∀ name, t ≠ .bind name) :
    Advances (s.licence (.step t)) held s (s.begin t).2.1 (s.begin t).2.2 := by
  cases t with
  | addResult key label searching => exact advances_addResult hs key label searching
  | setSearching key on =>
      exact advances_withResult hs fun r hr =>
        .of_move hs (.setSearching r on fun hcur => by simp [licence, silences, hr, hcur]) (.of_eq rfl)
  | fetch key move =>
      exact advances_withResult hs fun r _ => .of_move hs (.fetch r move) (.of_eq rfl)
  | announce key event =>
      exact advances_withResult hs fun r _ => .of_move hs (.announce r event) (.of_eq rfl)
  | select key =>
      cases key with
      | none => exact advances_selectResult hs (by simp)
      | some key =>
          refine advances_withResult hs fun r hr => advances_selectResult hs ?_
          rintro r' ⟨⟩
          exact hs.results key r hr
  | selectCard card => exact advances_selectCard hs card
  | advance ms =>
      exact .of_move hs (.setClock (s.workspace.clock.advance ms) (Nat.le_add_right ..)) (.of_eq rfl)
  | advanceTo target =>
      exact .of_move hs (.setClock (s.workspace.clock.advanceTo target)
        (Clock.now_le_advanceTo ..)) (.of_eq rfl)
  | passWall ms =>
      exact .of_move hs (.setClock (s.workspace.clock.pass ms) (Nat.le_refl _)) (.of_eq rfl)
  | view name config wall => exact advances_addView hs name config wall
  | dropView name => exact advances_dropView hs name
  | showView name =>
      exact advances_withView hs (fun p hp => moves_showView hp) fun p => retains_showView _ p
  | render name =>
      exact advances_withView hs (fun p hp => moves_render hp) fun p => retains_render _ p
  | beforeShow name =>
      exact advances_withView hs (fun p _ => (Move.scenery (.beforeShow _ p)).moves) fun p =>
        .of_eq (ViewsOnly.beforeShow _ p).trackers
  | teardown name =>
      exact advances_withView hs (fun p _ => moves_teardown _ p) fun p => retains_teardown _ p
  | tick name time =>
      exact advances_withView hs (fun p _ => (Move.poll p _).moves) fun p =>
        .of_modify (trackers_poll ..)
  | update name message => exact advances_update hs name message
  | tracker name window => exact advances_addTracker hs name window
  | dropTracker name => exact advances_dropTracker hs name
  | bind name => exact absurd rfl (ht name)
  | unbind name =>
      exact advances_withTracker hs (fun p _ => .unbind p) fun p => .of_modify (trackers_unbind ..)
  | resync name =>
      exact advances_withTracker hs (fun p hp => .resync p hp) fun p =>
        .of_modify (trackers_resync ..)
  | recompute name =>
      exact advances_withTracker hs (fun p _ => .recompute p) fun p =>
        .of_modify (trackers_recompute ..)
  | poll name time =>
      exact advances_withTracker hs (fun p _ => .poll p _) fun p => .of_modify (trackers_poll ..)
  | observe name topic script =>
      simp only [begin]
      split
      · rename_i c hc
        exact advances_observe hs name (known_channel? hs hc) script
      · exact .refl hs
  | unobserve name => exact advances_unobserve hs name
  | snapshot | reflect =>
      exact ⟨held, .nil, hs.congr rfl rfl (fun k => by cases k <;> rfl) rfl⟩

/-- The binding of a tracker. -/
theorem begin_bind (s : Session) (name : String) :
    s.begin (.bind name) = s.withTracker name fun p => (.nothing, s.workspace.bind p) := rfl

theorem sound_bind (hs : s.Sound held) (name : String) : (s.begin (.bind name)).2.2.Sound held := by
  rw [begin_bind, withTracker]
  split
  · rename_i p hp
    obtain ⟨t, ht⟩ := Option.isSome_iff_exists.1 (hs.named.live .tracker name p hp)
    exact hs.setWorkspace (hs.wired.bind ht) (fun r hr => by rwa [(PanelsOnly.bind _ p).known])
      (.of_modify (trackers_bind _ p))
  · exact hs

/-! ## Jobs -/

theorem viewsOnly_settle (s : Session) : ViewsOnly s.workspace s.settle.workspace := rfl

theorem Sound.settle (hs : s.Sound held) : s.settle.Sound held where
  wired := hs.wired.move (l := s.licence (.step .reflect)) (.scenery (viewsOnly_settle s))
  results := hs.results
  named := hs.named.retain (fun k => by cases k <;> rfl) (.of_eq rfl)
  observed := hs.observed.congr rfl

theorem Advances.settle (h : Advances l held s ds s') : Advances l held s ds s'.settle :=
  h.trans fun _ hs' => ⟨_, (Move.scenery (viewsOnly_settle s')).moves, hs'.settle⟩

theorem advances_tell (hs : s.Sound held) (observer : Nat) (n : Notice) :
    Advances l held s [] (s.tell observer n).2 := by
  unfold tell
  split
  · exact .refl hs
  · exact ⟨held, .nil, hs.congr rfl rfl (fun k => by cases k <;> rfl) rfl⟩

theorem advances_deliver (hs : s.Sound held) (d : Delivery) :
    Advances (s.licence (.deliver d)) held s [] (s.deliver d).2 := by
  obtain ⟨subscriber, n⟩ := d
  cases subscriber with
  | observer k => exact advances_tell hs k n
  | resync p =>
      exact (Advances.of_move hs (.resync p rfl) (.of_modify (trackers_resync ..))).settle
  | repaint p =>
      exact (Advances.of_move hs (.repaint p) (.of_modify (trackers_repaint ..))).settle
  | arm p generation =>
      exact (Advances.of_move hs (.arm p generation rfl) (.of_modify (trackers_arm ..))).settle

theorem perform_bind (s : Session) (name : String) :
    (perform (.step (.bind name)) s).1 = [] ∧
      ∃ w, (w = s.workspace ∨ ∃ p, w = s.workspace.bind p) ∧
        ViewsOnly w (perform (.step (.bind name)) s).2.workspace := by
  cases hp : s.trackers.get? name with
  | none =>
      simp only [perform, begin_bind, withTracker, hp]
      exact ⟨rfl, s.workspace, .inl rfl, viewsOnly_settle s⟩
  | some p =>
      simp only [perform, begin_bind, withTracker, hp]
      exact ⟨rfl, s.workspace.bind p, .inr ⟨p, rfl⟩, viewsOnly_settle _⟩

theorem viewsOnly_deliver (s : Session) (d : Delivery) :
    ViewsOnly (s.workspace.deliver d) (s.deliver d).2.workspace := by
  obtain ⟨subscriber, n⟩ := d
  cases subscriber with
  | observer k =>
      show ViewsOnly s.workspace (s.tell k n).2.workspace
      unfold tell
      split <;> exact .refl _
  | resync p => exact viewsOnly_settle (s.setWorkspace (s.workspace.resync p))
  | repaint p => exact viewsOnly_settle (s.setWorkspace (s.workspace.repaint p))
  | arm p generation => exact viewsOnly_settle (s.setWorkspace (s.workspace.arm p generation))

/-- A job by which a panel handles a change of result changes nothing else but views. -/
theorem perform_of_resynced {j : Job} {p : PanelId} (h : s.resynced? j = some p) :
    ∃ w, ViewsOnly s.workspace w ∧ ViewsOnly (w.resync p) (perform j s).2.workspace := by
  have hcount := ViewsOnly.modifyView s.workspace p fun v => { v with renders := v.renders + 1 }
  unfold resynced? at h
  split at h
  · refine ⟨_, .refl _, ?_⟩
    simp only [perform, begin, withTracker, h]
    exact viewsOnly_settle _
  · refine ⟨_, hcount, ?_⟩
    simp only [perform, begin, withView, h]
    exact (ViewsOnly.beforeShow _ p).trans (viewsOnly_settle _)
  · refine ⟨_, hcount, ?_⟩
    simp only [perform, begin, withView, h]
    exact viewsOnly_settle _
  · refine ⟨_, hcount, ?_⟩
    simp only [perform, begin, withView, h]
    exact (ViewsOnly.beforeShow _ p).trans (viewsOnly_settle _)
  · refine ⟨_, hcount, ?_⟩
    simp only [perform, begin, withView, h]
    exact viewsOnly_settle _
  · obtain rfl := Option.some.inj h
    exact ⟨_, .refl _, viewsOnly_deliver s _⟩
  · cases h

end Session

end DetailPanel
