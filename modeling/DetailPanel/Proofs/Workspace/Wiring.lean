import DetailPanel.Proofs.Workspace.Effects

/-!
# Who listens where

A panel that listens has one entry on each of the two channels of the
selection, and one on the channel of the result that it is bound to
(`Tracker.entries`).  A workspace is wired if the registries hold these
entries, those that somebody outside holds, and nothing else.

    w.Wired held → (w.release p).Wired held                 (Wired.release)
    w.Wired held → (w.resync p).Wired held                  (Wired.resync)
    w.Wired held → (w.bind p).Wired held                    (Wired.bind)
    w.Wired held → (w.unbind p).Wired held                  (Wired.unbind)
-/

namespace DetailPanel

/-- The panel behind a subscriber. -/
def Subscriber.panel? : Subscriber → Option PanelId
  | .resync p | .repaint p | .arm p _ => some p
  | .observer _ => none

/-- What a panel has in the registries, channel by channel. -/
def Tracker.entries (p : PanelId) (t : Tracker) : List (Channel × Nat × Subscriber) :=
  match t.listening with
  | none => []
  | some l =>
      (.result, l.onResult, .resync p) :: (.card, l.onCard, .repaint p) ::
        l.binding.toList.map fun b => (.lifecycle b.result, b.subscription, .arm p b.generation)

theorem Tracker.panel_of_mem_entries {t : Tracker} {p : PanelId} {c : Channel}
    {e : Nat × Subscriber} (h : (c, e) ∈ t.entries p) : e.2.panel? = some p := by
  unfold Tracker.entries at h
  split at h
  · simp at h
  · simp only [List.mem_cons, List.mem_map, Prod.mk.injEq] at h
    obtain ⟨-, rfl⟩ | ⟨-, rfl⟩ | ⟨b, -, -, rfl⟩ := h <;> rfl

namespace Workspace

/-- The current result is one of the workspace, and the numbers that come next
for results and panels are new. -/
structure Numbered (w : Workspace) : Prop where
  result_known : ∀ r, w.result = some r → (w.results.get? r).isSome
  result_lt : ∀ r, (w.results.get? r).isSome → r < w.nextResult
  panel_lt : ∀ p, (w.trackers.get? p).isSome → p < w.nextPanel

theorem Numbered.new_result {w : Workspace} (h : w.Numbered) :
    w.results.get? w.nextResult = none := by
  cases hr : w.results.get? w.nextResult with
  | none => rfl
  | some o => exact absurd (h.result_lt w.nextResult (by simp [hr])) (Nat.lt_irrefl _)

theorem Numbered.new_panel {w : Workspace} (h : w.Numbered) :
    w.trackers.get? w.nextPanel = none := by
  cases hp : w.trackers.get? w.nextPanel with
  | none => rfl
  | some t => exact absurd (h.panel_lt w.nextPanel (by simp [hp])) (Nat.lt_irrefl _)

theorem Numbered.of_panelsOnly {w w' : Workspace} (h : w.Numbered) (hw : PanelsOnly w w')
    (hp : ∀ p, (w'.trackers.get? p).isSome → (w.trackers.get? p).isSome) : w'.Numbered where
  result_known r hr := by
    rw [hw.known]
    exact h.result_known r (hw.result.symm.trans hr)
  result_lt r hr := by
    rw [hw.nextResult]
    exact h.result_lt r (by rwa [hw.known] at hr)
  panel_lt p hq := by
    rw [hw.nextPanel]
    exact h.panel_lt p (hp p hq)

/-- The registries hold the entries of the panels and the `held` ones. -/
structure Wired (held : Channel → Nat × Subscriber → Prop) (w : Workspace) : Prop
    extends Numbered w where
  ascending : ∀ c, (w.registry c).Ascending
  mem_entries : ∀ c e, e ∈ (w.registry c).entries ↔
    (∃ p t, w.trackers.get? p = some t ∧ (c, e) ∈ t.entries p) ∨ held c e
  held_outside : ∀ c e, held c e → e.2.panel? = none

namespace Wired

variable {held : Channel → Nat × Subscriber → Prop} {w w' : Workspace} {p : PanelId} {t : Tracker}

theorem mem_of_entries (h : w.Wired held) (ht : w.trackers.get? p = some t) {c : Channel}
    {e : Nat × Subscriber} (he : (c, e) ∈ t.entries p) : e ∈ (w.registry c).entries :=
  (h.mem_entries c e).2 (.inl ⟨p, t, ht, he⟩)

/-- An entry that names a panel is that panel's. -/
theorem entries_of_mem (h : w.Wired held) {c : Channel} {e : Nat × Subscriber}
    (he : e ∈ (w.registry c).entries) (hp : e.2.panel? = some p) :
    ∃ t, w.trackers.get? p = some t ∧ (c, e) ∈ t.entries p := by
  rcases (h.mem_entries c e).1 he with ⟨q, t, ht, hmem⟩ | hheld
  · have hq := Tracker.panel_of_mem_entries hmem
    obtain rfl : q = p := Option.some.inj (hq.symm.trans hp)
    exact ⟨t, ht, hmem⟩
  · simp [h.held_outside c e hheld] at hp

/-- A panel exchanges its entries for others. -/
theorem exchange (h : w.Wired held) (hw : PanelsOnly w w') (ht : w.trackers.get? p = some t)
    {f : Tracker → Tracker} (htr : w'.trackers = w.trackers.modify p f)
    (hasc : ∀ c, (w'.registry c).Ascending)
    (hent : ∀ c e, e ∈ (w'.registry c).entries ↔
      e ∈ (w.registry c).entries ∧ (c, e) ∉ t.entries p ∨ (c, e) ∈ (f t).entries p) :
    w'.Wired held where
  ascending := hasc
  mem_entries c e := by
    have hp : w'.trackers.get? p = some (f t) := by simp [htr, Table.get?_modify, ht]
    have hother : ∀ q, q ≠ p → w'.trackers.get? q = w.trackers.get? q := by
      intro q hq
      simp [htr, Table.get?_modify, hq]
    rw [hent]
    constructor
    · rintro (⟨hold, hno⟩ | hnew)
      · rcases (h.mem_entries c e).1 hold with ⟨q, u, hu, hmem⟩ | hheld
        · by_cases hq : q = p
          · subst hq
            obtain rfl : t = u := Option.some.inj (ht.symm.trans hu)
            exact absurd hmem hno
          · exact .inl ⟨q, u, (hother q hq).trans hu, hmem⟩
        · exact .inr hheld
      · exact .inl ⟨p, f t, hp, hnew⟩
    · rintro (⟨q, u, hu, hmem⟩ | hheld)
      · by_cases hq : q = p
        · subst hq
          obtain rfl : f t = u := Option.some.inj (hp.symm.trans hu)
          exact .inr hmem
        · refine .inl ⟨h.mem_of_entries ((hother q hq).symm.trans hu) hmem, fun hmine => hq ?_⟩
          have := Tracker.panel_of_mem_entries hmem
          rw [Tracker.panel_of_mem_entries hmine] at this
          exact (Option.some.inj this).symm
      · refine .inl ⟨(h.mem_entries c e).2 (.inr hheld), fun hmine => ?_⟩
        have := h.held_outside c e hheld
        rw [Tracker.panel_of_mem_entries hmine] at this
        cases this
  held_outside := h.held_outside
  toNumbered := by
    refine h.toNumbered.of_panelsOnly hw fun q hq => ?_
    rw [htr, Table.get?_modify] at hq
    split at hq <;> simpa using hq

/-- Neither trackers nor registries change. -/
theorem transport (h : w.Wired held) (hn : w'.Numbered) (htr : w'.trackers = w.trackers)
    (hreg : ∀ c, w'.registry c = w.registry c) : w'.Wired held where
  toNumbered := hn
  ascending c := by rw [hreg]; exact h.ascending c
  mem_entries c e := by rw [hreg, htr]; exact h.mem_entries c e
  held_outside := h.held_outside

/-- The entries of a channel on which a panel keeps what it has. -/
theorem mem_kept (h : w.Wired held) (ht : w.trackers.get? p = some t) {c : Channel}
    {es : List (Channel × Nat × Subscriber)} (hes : ∀ e, (c, e) ∈ es ↔ (c, e) ∈ t.entries p)
    (e : Nat × Subscriber) :
    e ∈ (w.registry c).entries ↔
      e ∈ (w.registry c).entries ∧ (c, e) ∉ t.entries p ∨ (c, e) ∈ es := by
  rw [hes]
  constructor
  · intro he
    by_cases hmine : (c, e) ∈ t.entries p
    · exact .inr hmine
    · exact .inl ⟨he, hmine⟩
  · rintro (⟨he, -⟩ | hmine)
    · exact he
    · exact h.mem_of_entries ht hmine

/-- A change of a tracker that is none of its subscriptions. -/
theorem keep (h : w.Wired held) (hw : PanelsOnly w w') {f : Tracker → Tracker}
    (htr : w'.trackers = w.trackers.modify p f) (hreg : ∀ c, w'.registry c = w.registry c)
    (hf : ∀ t, (f t).entries p = t.entries p) : w'.Wired held := by
  cases ht : w.trackers.get? p with
  | none =>
      have hsame : w'.trackers = w.trackers :=
        htr.trans (Table.modify_of_none _ ht)
      exact h.transport (h.toNumbered.of_panelsOnly hw fun q hq => by rwa [hsame] at hq) hsame hreg
  | some t =>
      refine h.exchange hw ht htr (fun c => by rw [hreg]; exact h.ascending c) fun c e => ?_
      rw [hreg]
      exact h.mem_kept ht (fun e => by rw [hf t]) e

end Wired

end Workspace

/-! ## Changes that are no subscriptions -/

namespace Tracker

@[simp] theorem entries_paint (t : Tracker) (p : PanelId) (f : Flags) :
    (t.paint f).entries p = t.entries p := rfl

/-- A binding that differs in its throttle only has the same entry. -/
theorem entries_setBinding {t : Tracker} {p : PanelId} {b b' : Binding} (hb : t.binding = some b)
    (hr : b'.result = b.result) (hs : b'.subscription = b.subscription)
    (hg : b'.generation = b.generation) : (t.setBinding (some b')).entries p = t.entries p := by
  obtain ⟨l, hl, hlb⟩ := Option.bind_eq_some_iff.1 hb
  simp [entries, setBinding, hl, hlb, hr, hs, hg]

@[simp] theorem entries_arm (t : Tracker) (p : PanelId) (generation now : Nat) :
    (t.arm generation now).entries p = t.entries p := by
  unfold arm
  split
  · rename_i b hb
    split
    · exact entries_setBinding hb rfl rfl rfl
    · rfl
  · rfl

@[simp] theorem entries_takeDue (t : Tracker) (p : PanelId) (time : Nat) :
    (t.takeDue time).2.entries p = t.entries p := by
  unfold takeDue
  split
  · rename_i b hb
    exact entries_setBinding hb rfl rfl rfl
  · rfl

@[simp] theorem entries_polled (t : Tracker) (p : PanelId) (live : Flags) (time : Nat) :
    (t.polled live time).entries p = t.entries p := by
  unfold polled
  split <;> simp

end Tracker

namespace Workspace.Wired

variable {held : Channel → Nat × Subscriber → Prop} {w w' : Workspace} {p : PanelId} {t : Tracker}

theorem recompute (h : w.Wired held) (p : PanelId) : (w.recompute p).Wired held :=
  h.keep (.recompute w p) (trackers_recompute w p) (registry_recompute w p) fun _ => rfl

theorem repaint (h : w.Wired held) (p : PanelId) : (w.repaint p).Wired held := by
  refine h.keep (.repaint w p) (trackers_repaint w p) (registry_repaint w p) fun t => ?_
  split <;> rfl

theorem arm (h : w.Wired held) (p : PanelId) (generation : Nat) : (w.arm p generation).Wired held :=
  h.keep (.arm w p generation) (trackers_arm w p generation) (registry_arm w p generation)
    fun t => t.entries_arm p _ _

theorem poll (h : w.Wired held) (p : PanelId) (time : Nat) : (w.poll p time).2.Wired held :=
  h.keep (.poll w p time) (trackers_poll w p time) (registry_poll w p time)
    fun t => t.entries_polled p _ _

/-! ## Subscribing and cancelling -/

theorem ascending_cancel (h : ∀ c, (w.registry c).Ascending) (c : Channel) (id : Nat) (c' : Channel) :
    ((w.cancel c id).registry c').Ascending := by
  rw [registry_cancel]
  split
  · exact (h c).cancel id
  · exact h c'

theorem ascending_subscribe (h : ∀ c, (w.registry c).Ascending) {c : Channel} (hc : w.Known c)
    (s : Subscriber) (c' : Channel) : ((w.subscribe c s).2.registry c').Ascending := by
  rw [registry_subscribe hc]
  split
  · exact (h c).subscribe s
  · exact h c'

theorem ascending_release (h : ∀ c, (w.registry c).Ascending) (p : PanelId) (c : Channel) :
    ((w.release p).registry c).Ascending := by
  rw [registry_release]
  split
  · exact h c
  · split
    · exact (h c).cancel _
    · exact h c

theorem release (h : w.Wired held) (p : PanelId) : (w.release p).Wired held := by
  cases hb : (w.trackers.get? p).bind Tracker.binding with
  | none =>
      have hsame : w.release p = w := by simp [Workspace.release, hb]
      rwa [hsame]
  | some b =>
      obtain ⟨t, ht, htb⟩ := Option.bind_eq_some_iff.1 hb
      obtain ⟨l, hl, hlb⟩ := Option.bind_eq_some_iff.1 htb
      have hmine := h.mem_of_entries ht (c := .lifecycle b.result)
        (e := (b.subscription, .arm p b.generation)) (by simp [Tracker.entries, hl, hlb])
      refine h.exchange (.release w p) ht (trackers_release w p) (ascending_release h.ascending p)
        fun c e => ?_
      rw [registry_release, hb]
      by_cases hc : c = .lifecycle b.result
      · subst hc
        simpa [Tracker.entries, Tracker.setBinding, hl, hlb] using
          (h.ascending (.lifecycle b.result)).mem_cancel hmine
      · simp only [hc, if_false]
        exact h.mem_kept ht (by simp [Tracker.entries, Tracker.setBinding, hl, hlb, hc]) e

/-- A panel that listens, bound to nothing, binds to a result of the workspace. -/
theorem bindTo (h : w.Wired held) {r : ResultId} (hr : (w.results.get? r).isSome)
    (ht : w.trackers.get? p = some t) (hl : t.listening.isSome) (hb : t.binding = none)
    (generation window : Nat) : (w.bindTo p r generation window).Wired held := by
  obtain ⟨l, hl⟩ := Option.isSome_iff_exists.1 hl
  have hlb : l.binding = none := by simpa [Tracker.binding, hl] using hb
  have hknown : w.Known (.lifecycle r) := hr
  have hreg : ∀ c, (w.bindTo p r generation window).registry c =
      (w.subscribe (.lifecycle r) (.arm p generation)).2.registry c := registry_modifyTracker _ _ _
  refine h.exchange (.bindTo w p r generation window) ht
    (congrArg (Table.modify p _) (trackers_subscribe w (.lifecycle r) (.arm p generation)))
    (fun c => ?_) fun c e => ?_
  · rw [hreg]
    exact ascending_subscribe h.ascending hknown _ c
  · rw [hreg, registry_subscribe hknown]
    by_cases hc : c = .lifecycle r
    · subst hc
      simp [Tracker.entries, Tracker.setBinding, hl, hlb, Registry.subscribe]
    · simp only [hc, if_false]
      refine h.mem_kept ht (fun e => ?_) e
      simp [Tracker.entries, Tracker.setBinding, hl, hlb, hc]

theorem rebind (h : w.Wired held) (hl : w.isListening p) : (w.rebind p).Wired held := by
  unfold Workspace.rebind
  split
  · exact h
  · rename_i t ht
    have htl : t.listening.isSome := (isListening_of_get? ht).symm.trans hl
    have hrel := h.release p
    have hbump := hrel.keep (.modifyTracker _ p fun u => { u with generation := t.generation + 1 })
      rfl (registry_modifyTracker _ _ _) fun u => rfl
    dsimp only
    split
    · exact hbump
    · rename_i r hr
      refine hbump.bindTo (hbump.result_known r hr)
        (t := { t.setBinding none with generation := t.generation + 1 }) ?_ ?_ ?_ _ _
      · simp [modifyTracker, trackers_release, Table.get?_modify, ht]
      · simpa [Tracker.setBinding] using htl
      · simp [Tracker.binding, Tracker.setBinding]

theorem resync (h : w.Wired held) (p : PanelId) : (w.resync p).Wired held := by
  unfold Workspace.resync
  split
  · rename_i hl
    refine (h.recompute p).rebind ?_
    rwa [isListening_recompute]
  · exact h

theorem bind (h : w.Wired held) (ht : w.trackers.get? p = some t) : (w.bind p).Wired held := by
  by_cases hl : w.isListening p
  · simpa [Workspace.bind, hl] using h
  · have htl : t.listening = none := by simpa [isListening_of_get? ht] using hl
    have hreg : ∀ c, (w.bind p).registry c =
        ((w.subscribe .result (.resync p)).2.subscribe .card (.repaint p)).2.registry c := by
      intro c
      simp only [Workspace.bind, hl]
      exact registry_modifyTracker _ _ _ c
    refine h.exchange (.bind w p) ht (trackers_bind w p) (fun c => ?_) fun c e => ?_
    · rw [hreg]
      exact ascending_subscribe (ascending_subscribe h.ascending (known_result _) _) (known_card _) _ c
    · rw [hreg, registry_subscribe (known_card _), registry_subscribe (known_result _),
        registry_subscribe (known_result _)]
      cases c <;> simp [Tracker.entries, htl, Registry.mem_entries_subscribe]

theorem unbind (h : w.Wired held) (p : PanelId) : (w.unbind p).Wired held := by
  cases hb : (w.trackers.get? p).bind (·.listening) with
  | none =>
      have hsame : w.unbind p = w := by simp [Workspace.unbind, hb]
      rwa [hsame]
  | some l =>
      obtain ⟨t, ht, hl⟩ := Option.bind_eq_some_iff.1 hb
      have hreg : ∀ c, (w.unbind p).registry c =
          (((w.cancel .result l.onResult).cancel .card l.onCard).release p).registry c := by
        intro c
        simp only [Workspace.unbind, hb]
        exact registry_modifyTracker _ _ _ c
      refine h.exchange (.unbind w p) ht (trackers_unbind w p) (fun c => ?_) fun c e => ?_
      · rw [hreg]
        refine ascending_release (fun c => ?_) p c
        exact ascending_cancel (ascending_cancel h.ascending _ _) _ _ c
      · have hmine := fun x hx =>
          (h.ascending c).mem_cancel (e := e) (h.mem_of_entries (e := x) ht hx)
        rw [hreg, registry_release]
        simp only [trackers_cancel, ht, registry_cancel]
        cases c with
        | result | card =>
            cases hlb : l.binding <;> simpa [Tracker.entries, Tracker.binding, hl, hlb] using hmine
        | lifecycle r =>
            cases hlb : l.binding with
            | none => simp [Tracker.entries, Tracker.binding, hl, hlb]
            | some b =>
                by_cases hr : r = b.result
                · simpa [Tracker.entries, Tracker.binding, hl, hlb, hr] using hmine
                · simp [Tracker.entries, Tracker.binding, hl, hlb, hr]

/-! ## Making and forgetting trackers -/

/-- A tracker without entries comes or goes. -/
theorem replace (h : w.Wired held) (hn : w'.Numbered) (hreg : ∀ c, w'.registry c = w.registry c)
    (hother : ∀ q, q ≠ p → w'.trackers.get? q = w.trackers.get? q)
    (hold : ∀ t, w.trackers.get? p = some t → t.entries p = [])
    (hnew : ∀ t, w'.trackers.get? p = some t → t.entries p = []) : w'.Wired held where
  toNumbered := hn
  ascending c := by
    rw [hreg]
    exact h.ascending c
  mem_entries c e := by
    rw [hreg]
    refine (h.mem_entries c e).trans (or_congr_left ?_)
    constructor
    · rintro ⟨q, t, ht, hmem⟩
      refine ⟨q, t, (hother q ?_).trans ht, hmem⟩
      rintro rfl
      simp [hold t ht] at hmem
    · rintro ⟨q, t, ht, hmem⟩
      refine ⟨q, t, (hother q ?_).symm.trans ht, hmem⟩
      rintro rfl
      simp [hnew t ht] at hmem
  held_outside := h.held_outside

theorem addTracker (h : w.Wired held) (name : String) (window : Nat) (wall : Bool) :
    (w.addTracker name window wall).2.Wired held := by
  have hget : ∀ q, (w.addTracker name window wall).2.trackers.get? q =
      if q = w.nextPanel then some { name, window, wall } else w.trackers.get? q :=
    fun q => Table.get?_set ..
  refine h.replace (p := w.nextPanel) { h with panel_lt := fun q hq => ?_ } (fun c => ?_)
    (fun q hq => ?_) (fun t ht => ?_) fun t ht => ?_
  · rw [hget] at hq
    split at hq
    · rename_i heq
      rw [heq]
      exact Nat.lt_succ_self _
    · exact Nat.lt_succ_of_lt (h.panel_lt q hq)
  · cases c <;> rfl
  · rw [hget, if_neg hq]
  · simp [h.new_panel] at ht
  · rw [hget, if_pos rfl] at ht
    obtain rfl := Option.some.inj ht
    rfl

/-- A tracker that listens to nothing leaves no entry behind. -/
theorem forget (h : w.Wired held) (hl : w.isListening p = false) :
    { w with trackers := w.trackers.erase p }.Wired held := by
  have hget : ∀ q, (w.trackers.erase p).get? q = if q = p then none else w.trackers.get? q :=
    fun q => Table.get?_erase ..
  refine h.replace (p := p) { h with panel_lt := fun q hq => h.panel_lt q ?_ } (fun c => ?_)
    (fun q hq => (hget q).trans (if_neg hq)) (fun t ht => ?_) fun t ht => ?_
  · change ((w.trackers.erase p).get? q).isSome at hq
    rw [hget] at hq
    split at hq
    · cases hq
    · exact hq
  · cases c <;> rfl
  · have htl : t.listening = none := by simpa [isListening_of_get? ht] using hl
    simp [Tracker.entries, htl]
  · cases ((hget p).trans (if_pos rfl)).symm.trans ht

/-! ## The selection and its results -/

theorem addResult (h : w.Wired held) (label : String) (searching : Bool) :
    (w.addResult label searching).2.Wired held := by
  have hget : ∀ r, (w.addResult label searching).2.results.get? r =
      if r = w.nextResult then some { label, searching } else w.results.get? r :=
    fun r => Table.get?_set ..
  refine h.transport ⟨fun r hr => ?_, fun r hr => ?_, h.panel_lt⟩ rfl fun c => ?_
  · rw [hget]
    split
    · rfl
    · exact h.result_known r hr
  · rw [hget] at hr
    split at hr
    · rename_i heq
      rw [heq]
      exact Nat.lt_succ_self _
    · exact Nat.lt_succ_of_lt (h.result_lt r hr)
  · cases c with
    | result | card => rfl
    | lifecycle r =>
        simp only [registry, hget]
        split
        · rename_i heq
          simp [heq, h.new_result]
        · rfl

theorem setSearching (h : w.Wired held) (r : ResultId) (on : Bool) :
    (w.setSearching r on).Wired held := by
  have hsome : ∀ r', ((w.setSearching r on).results.get? r').isSome = (w.results.get? r').isSome :=
    fun r' => Table.isSome_get?_modify ..
  refine h.transport ⟨fun r' hr => ?_, fun r' hr => ?_, h.panel_lt⟩ rfl
    (registry_setSearching w r on)
  · rw [hsome]
    exact h.result_known r' hr
  · exact h.result_lt r' (by rwa [hsome] at hr)

theorem select (h : w.Wired held) {r : Option ResultId}
    (hr : ∀ r', r = some r' → (w.results.get? r').isSome) : { w with result := r }.Wired held :=
  h.transport ⟨hr, h.result_lt, h.panel_lt⟩ rfl fun c => by cases c <;> rfl

theorem selectCard (h : w.Wired held) (card : Option Metacard) : { w with card }.Wired held :=
  h.transport ⟨h.result_known, h.result_lt, h.panel_lt⟩ rfl fun c => by cases c <;> rfl

theorem setClock (h : w.Wired held) (clock : Clock) : { w with clock }.Wired held :=
  h.transport ⟨h.result_known, h.result_lt, h.panel_lt⟩ rfl fun c => by cases c <;> rfl

/-! ## Observers -/

theorem observe (h : w.Wired held) {c : Channel} (hc : w.Known c) (k : Nat) :
    (w.subscribe c (.observer k)).2.Wired fun c' e =>
      held c' e ∨ c' = c ∧ e = ((w.registry c).nextId, .observer k) where
  ascending := ascending_subscribe h.ascending hc _
  mem_entries c' e := by
    rw [registry_subscribe hc, trackers_subscribe, ← or_assoc, ← h.mem_entries]
    split
    · rename_i heq
      subst heq
      simp [Registry.mem_entries_subscribe]
    · rename_i hne
      simp [hne]
  held_outside c' e := by
    rintro (hheld | ⟨-, rfl⟩)
    · exact h.held_outside c' e hheld
    · rfl
  toNumbered := h.toNumbered.of_panelsOnly (.subscribe w c _) fun q hq => by
    rwa [trackers_subscribe] at hq

/-- Whoever holds an entry can cancel it and no other. -/
theorem cancel (h : w.Wired held) {c : Channel} {e : Nat × Subscriber} (he : held c e) :
    (w.cancel c e.1).Wired fun c' e' => held c' e' ∧ ¬ (c' = c ∧ e'.1 = e.1) where
  ascending := ascending_cancel h.ascending c e.1
  mem_entries c' e' := by
    have hmem : e ∈ (w.registry c).entries := (h.mem_entries c e).2 (.inr he)
    rw [registry_cancel, trackers_cancel]
    split
    · rename_i heq
      subst heq
      rw [Registry.mem_entries_cancel]
      constructor
      · rintro ⟨hold, hne⟩
        exact ((h.mem_entries c' e').1 hold).imp_right fun hheld => ⟨hheld, fun hid => hne hid.2⟩
      · rintro (⟨p, t, ht, hmine⟩ | ⟨hheld, hne⟩)
        · have hold := h.mem_of_entries ht hmine
          refine ⟨hold, fun hid => ?_⟩
          obtain rfl := (h.ascending c').eq_of_id hold hmem hid
          have := h.held_outside c' e' he
          rw [Tracker.panel_of_mem_entries hmine] at this
          cases this
        · exact ⟨(h.mem_entries c' e').2 (.inr hheld), fun hid => hne ⟨rfl, hid⟩⟩
    · rename_i hne
      rw [h.mem_entries]
      simp [hne]
  held_outside c' e' hheld := h.held_outside c' e' hheld.1
  toNumbered := h.toNumbered.of_panelsOnly (.cancel w c _) fun q hq => by
    rwa [trackers_cancel] at hq

end Workspace.Wired

end DetailPanel
