import DetailPanel.Proofs.Replay.Timing
import Mathlib.Data.List.Chain
import Mathlib.Data.List.Induction

/-!
# The timeline is a change log

After the first display the timeline has an entry for each step that changed the
flags, and no other: it tells the step, the time on the clock when they changed,
and the flags from then on (`ChangeLog`).  Lifecycle notices change nothing at
once, so such an entry is made by a change of the selection, by a render, or by
the one throttled run of an advance.

    InStep window r q → r.apply n s = (none, r') →
      no entry is made and the flags stay, or one entry tells of the step    (InStep.told)
    ChangeLog config ss r.timeline → … (ss ++ [s]) r'.timeline                (ChangeLog.concat)
    run config ⟨name, ss⟩ = .ok o → ChangeLog config ss o.timeline       (run_logs_changes)
-/

namespace DetailPanel

/-- The labels of the steps that may change the flags when they are carried out. -/
def paintingLabels : List String :=
  ["select_result", "clear_result", "select_metacard", "clear_metacard", "render"]

/-- An entry tells of a step that is applied to a replay: at the time `t` on the
clock, which in an advance is the time of its one throttled run. -/
structure Entry.Tells (e : Entry) (r : Replay) (s : Step) (t : Nat) : Prop where
  atMs : e.atMs = writtenTime t
  from_start : r.workspace.now ≤ t
  to_end : t ≤ r.workspace.now + s.duration
  ran : ∀ ms, s = .advance ms → r.runTimes e.step (r.workspace.now + ms.toNat) = [t]
  throttle : e.cause.text = "throttle" ↔ ∃ ms, s = .advance ms
  label : e.cause.text ≠ "throttle" → e.cause.text = s.label ∧ s.label ∈ paintingLabels

namespace Replay

/-- The replay of the steps `ss` has this timeline. -/
structure ChangeLog (config : Config) (ss : List Step) (timeline : List Entry) : Prop where
  first : timeline.head? = some ⟨0, 0, .shown, { notFound := true, isSearching := false }⟩
  steps : timeline.Pairwise fun d e => d.step < e.step
  changes : timeline.IsChain fun d e => d.flags ≠ e.flags
  /-- Every other entry tells of the step that it names. -/
  told : ∀ e ∈ timeline, e.step ≠ 0 → ∃ r s t,
    (new config).applyAll 1 (ss.take (e.step - 1)) = .ok r ∧ ss[e.step - 1]? = some s ∧
      e.Tells r s t ∧ r.workspace.now = elapsed (ss.take (e.step - 1))
  /-- After each step the last entry so far has the flags that are shown. -/
  shown : ∀ i ≤ ss.length, ∃ r, (new config).applyAll 1 (ss.take i) = .ok r ∧
    (timeline.filter (·.step ≤ i)).getLast?.map (·.flags) = some r.flags

variable {window : Nat} {r r' : Replay} {q q' : Reference} {n : Nat} {s : Step} {ss : List Step}

/-! ## One step -/

namespace Reference

/-- Adding a result or fetching one changes no flags. -/
theorem flags_step_of_notice (h : q.step window n s = .ok q')
    (hs : s.label ∉ paintingLabels) (hadv : ∀ ms, s ≠ .advance ms) : q'.flags = q.flags := by
  have hfetch : ∀ (x : String) (on : Bool), (q.fetch window x on).flags = q.flags := by
    intro x on
    unfold fetch
    split <;> rfl
  cases s with
  | addResult x on =>
      simp only [step] at h
      split at h
      · cases h
      · obtain rfl := Except.ok.inj h
        rfl
  | beginFetch x =>
      simp only [step, withResult] at h
      split at h
      · obtain rfl := Except.ok.inj h
        exact hfetch x true
      · cases h
  | completeFetch x | failFetch x =>
      simp only [step, withResult] at h
      split at h
      · obtain rfl := Except.ok.inj h
        exact hfetch x false
      · cases h
  | advance ms => exact absurd rfl (hadv ms)
  | selectResult | clearResult | selectMetacard | clearMetacard | render =>
      exact absurd (by simp [paintingLabels, Step.label, Step.kind, Step.Kind.label]) hs

/-- An advance that changes the flags runs what was due. -/
theorem due_of_flags_advance {ms : Nat} (h : (q.advance ms).flags ≠ q.flags) :
    ∃ d, q.deadline = some d ∧ d ≤ q.now + ms := by
  unfold advance at h
  split at h
  · rename_i hdue
    obtain ⟨d, hd, hle⟩ := (Option.any_eq_true ..).1 hdue
    exact ⟨d, hd, by simpa using hle⟩
  · exact absurd rfl h

end Reference

/-- Where an advance changes the flags, its entry tells of its throttled run. -/
theorem InStep.tells_advance (h : InStep window r q) {ms : UInt64} {flags : Flags}
    (hflags : (q.advance ms.toNat).flags ≠ q.flags) :
    ∃ t, q.deadline = some t ∧
      (⟨n, writtenTime t, .throttle, flags⟩ : Entry).Tells r (.advance ms) t := by
  obtain ⟨t, ht, hle⟩ := q.due_of_flags_advance hflags
  have hnow : r.workspace.now = q.now := h.agrees.now
  refine ⟨t, ht, rfl, ?_, ?_, ?_, by simp [Cause.text], by simp [Cause.text]⟩
  · rw [hnow]
    exact h.due t ht
  · rw [hnow]
    exact hle
  · rintro ms' ⟨⟩
    rw [h.runTimes, hnow, Reference.dueBy, ht]
    exact if_pos hle

/-- Any other step that changes the flags takes no time, and its entry has its label. -/
theorem InStep.tells_step (h : InStep window r q) (n : Nat) (flags : Flags)
    (hs : s.label ∈ paintingLabels) (hadv : ∀ ms, s ≠ .advance ms) :
    (⟨n, writtenTime q.now, .step s.kind, flags⟩ : Entry).Tells r s q.now := by
  have hnow : r.workspace.now = q.now := h.agrees.now
  have hne : (Cause.step s.kind).text ≠ "throttle" := by
    show s.label ≠ "throttle"
    intro heq
    simp [heq, paintingLabels] at hs
  refine ⟨rfl, by rw [hnow], by omega, fun ms heq => absurd heq (hadv ms), ?_, fun _ => ⟨rfl, hs⟩⟩
  exact ⟨fun heq => absurd heq hne, fun ⟨ms, heq⟩ => absurd heq (hadv ms)⟩

/-- A step that is accepted leaves the flags and the timeline as they are, or it
changes the flags and adds one entry, which tells of it. -/
theorem InStep.told (h : InStep window r q) (happly : r.apply n s = (none, r')) :
    r'.timeline = r.timeline ∧ r'.flags = r.flags ∨
      ∃ e t, r'.timeline = r.timeline ++ [e] ∧ e.step = n ∧ e.flags = r'.flags ∧
        r'.flags ≠ r.flags ∧ e.Tells r s t := by
  obtain ⟨q', hstep, hin, htimeline⟩ := h.of_apply happly
  rw [hin.toMatches.flags, h.toMatches.flags, htimeline]
  unfold Reference.entries
  by_cases hflags : q'.flags = q.flags
  · left
    simp [hflags]
  · right
    rw [if_neg hflags]
    by_cases hadv : ∃ ms, s = .advance ms
    · obtain ⟨ms, rfl⟩ := hadv
      obtain rfl : q.advance ms.toNat = q' := Except.ok.inj hstep
      obtain ⟨t, ht, htells⟩ := h.tells_advance hflags
      refine ⟨_, t, rfl, rfl, rfl, hflags, ?_⟩
      rw [ht]
      exact htells
    · have hadv : ∀ ms, s ≠ .advance ms := fun ms hs => hadv ⟨ms, hs⟩
      have hs : s.label ∈ paintingLabels := by
        by_contra hs
        exact hflags (Reference.flags_step_of_notice hstep hs hadv)
      have htells := h.tells_step n q'.flags hs hadv
      refine ⟨_, q.now, ?_, rfl, rfl, hflags, htells⟩
      cases s with
      | advance ms => exact absurd rfl (hadv ms)
      | _ => rfl

/-! ## All steps -/

variable {config : Config} {timeline : List Entry}

theorem ChangeLog.step_le (h : ChangeLog config ss timeline) {e : Entry} (he : e ∈ timeline) :
    e.step ≤ ss.length := by
  by_cases hz : e.step = 0
  · omega
  · obtain ⟨-, s, -, -, hs, -⟩ := h.told e he hz
    have := (List.getElem?_eq_some_iff.1 hs).1
    omega

theorem ChangeLog.getLast_flags (h : ChangeLog config ss timeline)
    (hr : (new config).applyAll 1 ss = .ok r) :
    timeline.getLast?.map (·.flags) = some r.flags := by
  obtain ⟨r₁, hr₁, hlast⟩ := h.shown ss.length (Nat.le_refl _)
  rw [List.take_length, hr] at hr₁
  obtain rfl := Except.ok.inj hr₁
  rwa [List.filter_eq_self.2 fun e he => decide_eq_true (h.step_le he)] at hlast

theorem changeLog_new (config : Config) : ChangeLog config [] (new config).timeline := by
  rw [(inStep_new config).2]
  refine ⟨rfl, List.pairwise_singleton .., .singleton _, ?_, ?_⟩
  · intro e he hz
    obtain rfl := List.mem_singleton.1 he
    exact absurd rfl hz
  · intro i _
    refine ⟨new config, by simp [applyAll], ?_⟩
    rw [(inStep_new config).1.toMatches.flags]
    rfl

/-- What was told of the steps so far is told of more steps. -/
theorem ChangeLog.told_concat (h : ChangeLog config ss timeline) (s : Step) {e : Entry}
    (he : e ∈ timeline) (hz : e.step ≠ 0) : ∃ r s' t,
      (new config).applyAll 1 ((ss ++ [s]).take (e.step - 1)) = .ok r ∧
        (ss ++ [s])[e.step - 1]? = some s' ∧ e.Tells r s' t ∧
        r.workspace.now = elapsed ((ss ++ [s]).take (e.step - 1)) := by
  have hle := h.step_le he
  rw [List.take_append_of_le_length (by omega), List.getElem?_append_left (by omega)]
  exact h.told e he hz

/-- The flags that were shown after the steps so far are told by what comes first. -/
theorem ChangeLog.shown_concat (h : ChangeLog config ss timeline) (s : Step) (es : List Entry)
    (hes : ∀ e ∈ es, e.step = ss.length + 1) {i : Nat} (hi : i ≤ ss.length) :
    ∃ r, (new config).applyAll 1 ((ss ++ [s]).take i) = .ok r ∧
      ((timeline ++ es).filter (·.step ≤ i)).getLast?.map (·.flags) = some r.flags := by
  have hnone : es.filter (·.step ≤ i) = [] := by
    refine List.filter_eq_nil_iff.2 fun e he => ?_
    simp [hes e he]
    omega
  rw [List.take_append_of_le_length hi, List.filter_append, hnone, List.append_nil]
  exact h.shown i hi

theorem ChangeLog.concat (h : ChangeLog config ss r.timeline)
    (hr : (new config).applyAll 1 ss = .ok r) (hin : InStep config.window r q)
    (hnow : r.workspace.now = elapsed ss) (happly : r.apply (1 + ss.length) s = (none, r')) :
    ChangeLog config (ss ++ [s]) r'.timeline := by
  have hlength : (ss ++ [s]).length = ss.length + 1 := by simp
  have hr' : (new config).applyAll 1 (ss ++ [s]) = .ok r' :=
    applyAll_concat_eq_ok.2 ⟨r, hr, happly⟩
  have hlast := h.getLast_flags hr
  have hall : r.timeline.filter (·.step ≤ ss.length + 1) = r.timeline :=
    List.filter_eq_self.2 fun e he => decide_eq_true (Nat.le_succ_of_le (h.step_le he))
  rcases hin.told happly with ⟨htimeline, hflags⟩ | ⟨e, t, htimeline, hstep, heflags, hne, htells⟩
  · rw [htimeline]
    refine ⟨h.first, h.steps, h.changes, fun d hd hz => h.told_concat s hd hz, fun i hi => ?_⟩
    rcases Nat.lt_or_ge ss.length i with hlt | hle
    · obtain rfl : i = ss.length + 1 := by omega
      refine ⟨r', ?_, ?_⟩
      · rw [← hlength, List.take_length, hr']
      · rw [hall, hlast, hflags]
    · simpa using h.shown_concat s [] (by simp) hle
  · rw [htimeline]
    have hstep : e.step = ss.length + 1 := by omega
    refine ⟨?_, ?_, ?_, fun d hd hz => ?_, fun i hi => ?_⟩
    · rw [List.head?_append, h.first]
      rfl
    · refine List.pairwise_append.2 ⟨h.steps, List.pairwise_singleton .., fun d hd x hx => ?_⟩
      obtain rfl := List.mem_singleton.1 hx
      have := h.step_le hd
      omega
    · refine List.isChain_append.2 ⟨h.changes, .singleton _, fun d hd x hx => ?_⟩
      obtain rfl : e = x := by simpa using hx
      have hd : r.timeline.getLast? = some d := hd
      rw [hd] at hlast
      obtain hlast : d.flags = r.flags := Option.some.inj hlast
      rw [hlast, heflags]
      exact hne.symm
    · rcases List.mem_append.1 hd with hd | hd
      · exact h.told_concat s hd hz
      · obtain rfl := List.mem_singleton.1 hd
        refine ⟨r, s, t, ?_, ?_, htells, ?_⟩
        · simpa [hstep] using hr
        · simp [hstep]
        · simpa [hstep] using hnow
    · rcases Nat.lt_or_ge ss.length i with hlt | hle
      · obtain rfl : i = ss.length + 1 := by omega
        refine ⟨r', ?_, ?_⟩
        · rw [← hlength, List.take_length, hr']
        · have hone : [e].filter (·.step ≤ ss.length + 1) = [e] := by simp [hstep]
          rw [List.filter_append, hall, hone, List.getLast?_concat, Option.map_some, heflags]
      · exact h.shown_concat s [e] (by simpa using hstep) hle

/-! ## Runs -/

theorem elapsed_concat (ss : List Step) (s : Step) :
    elapsed (ss ++ [s]) = elapsed ss + s.duration := by simp [elapsed]

theorem elapsed_take_le (ss : List Step) {i j : Nat} (h : i ≤ j) :
    elapsed (ss.take i) ≤ elapsed (ss.take j) := by
  obtain ⟨k, rfl⟩ := Nat.exists_eq_add_of_le h
  rw [List.take_add, elapsed, elapsed, total_append]
  exact Nat.le_add_right ..

theorem writtenTime_le {t u : Nat} (h : t ≤ u) (hu : u < UInt64.size) :
    writtenTime t ≤ writtenTime u := by
  have hmod : ∀ {v : Nat}, v < UInt64.size → (writtenTime v).toNat = v := fun hv =>
    UInt64.toNat_ofNat_of_lt' hv
  rw [UInt64.le_iff_toNat_le, hmod hu, hmod (Nat.lt_of_le_of_lt h hu)]
  exact h

/-- A replay that has accepted some steps shows the time that they take, and its
timeline is their change log. -/
theorem changeLog_of_applyAll (hr : (new config).applyAll 1 ss = .ok r) :
    (∃ q, InStep config.window r q) ∧ r.workspace.now = elapsed ss ∧
      ChangeLog config ss r.timeline := by
  induction ss using List.reverseRecOn generalizing r with
  | nil =>
      obtain rfl := Except.ok.inj hr
      exact ⟨⟨_, (inStep_new config).1⟩, (inStep_new config).1.agrees.now, changeLog_new config⟩
  | append_singleton ss s ih =>
      obtain ⟨r₁, hr₁, happly⟩ := applyAll_concat_eq_ok.1 hr
      obtain ⟨⟨q, hin⟩, hnow, hlog⟩ := ih hr₁
      have hafter := hin.after (1 + ss.length) s
      have htime := (q.now_after config.window (1 + ss.length) s)
      rw [happly] at hafter
      refine ⟨⟨_, hafter⟩, ?_, hlog.concat hr₁ hin hnow happly⟩
      rw [hafter.agrees.now, htime, ← hin.agrees.now, hnow, elapsed_concat]

/-- The only entry of step zero is the first one. -/
theorem ChangeLog.eq_first (h : ChangeLog config ss timeline) {e : Entry} (he : e ∈ timeline)
    (hz : e.step = 0) : e = ⟨0, 0, .shown, { notFound := true, isSearching := false }⟩ := by
  obtain ⟨rest, rfl⟩ := List.head?_eq_some_iff.1 h.first
  rcases List.mem_cons.1 he with rfl | he
  · rfl
  · have hlt := (List.pairwise_cons.1 h.steps).1 e he
    simp [hz] at hlt

/-- An entry is made while its step is carried out. -/
theorem ChangeLog.time (h : ChangeLog config ss timeline) {e : Entry} (he : e ∈ timeline) :
    ∃ t, e.atMs = writtenTime t ∧ elapsed (ss.take (e.step - 1)) ≤ t ∧
      t ≤ elapsed (ss.take e.step) := by
  by_cases hz : e.step = 0
  · obtain rfl := h.eq_first he hz
    exact ⟨0, rfl, Nat.le_refl 0, Nat.le_refl 0⟩
  · obtain ⟨r, s, t, -, hs, htells, hnow⟩ := h.told e he hz
    have htake : ss.take e.step = ss.take (e.step - 1) ++ [s] := by
      obtain ⟨i, hi⟩ := Nat.exists_eq_succ_of_ne_zero hz
      rw [hi] at hs ⊢
      rw [List.take_add_one, Nat.succ_sub_one, show ss[i]? = some s from hs]
      rfl
    refine ⟨t, htells.atMs, by rw [← hnow]; exact htells.from_start, ?_⟩
    rw [htake, elapsed_concat, ← hnow]
    exact htells.to_end

/-- Where the time that all steps take can be written down, so can that of every
entry, and the entries are in the order of their times. -/
theorem ChangeLog.pairwise_atMs (h : ChangeLog config ss timeline)
    (hsize : elapsed ss < UInt64.size) : timeline.Pairwise fun d e => d.atMs ≤ e.atMs := by
  refine h.steps.imp_of_mem fun {d e} hd he hlt => ?_
  obtain ⟨t, ht, -, hle⟩ := h.time hd
  obtain ⟨u, hu, hge, hend⟩ := h.time he
  have hbefore : elapsed (ss.take d.step) ≤ elapsed (ss.take (e.step - 1)) :=
    elapsed_take_le ss (by omega)
  have hbound : elapsed (ss.take e.step) ≤ elapsed (ss.take ss.length) :=
    elapsed_take_le ss (h.step_le he)
  rw [List.take_length] at hbound
  rw [ht, hu]
  exact writtenTime_le (by omega) (by omega)

/-- No entry is put down to an advance as a whole. -/
theorem ChangeLog.text_ne_advance (h : ChangeLog config ss timeline) {e : Entry}
    (he : e ∈ timeline) : e.cause.text ≠ "advance_ms" := by
  by_cases hz : e.step = 0
  · obtain rfl := h.eq_first he hz
    decide
  · obtain ⟨r, s, t, -, -, htells, -⟩ := h.told e he hz
    intro heq
    obtain ⟨hlabel, hpaints⟩ := htells.label (by rw [heq]; decide)
    rw [← hlabel, heq] at hpaints
    exact absurd hpaints (by decide)

/-- The timeline of a run is the change log of its steps, in the order of the
times as long as these can be written down, and ends with the final flags. -/
theorem run_logs_changes {name : Option String} {o : Outcome}
    (h : run config ⟨name, ss⟩ = .ok o) :
    ChangeLog config ss o.timeline ∧
      o.timeline.getLast?.map (·.flags) = some o.summary.finalFlags ∧
      (elapsed ss < UInt64.size → o.timeline.Pairwise fun d e => d.atMs ≤ e.atMs) ∧
      ∀ e ∈ o.timeline, e.cause.text ≠ "advance_ms" := by
  obtain ⟨r, hr, rfl⟩ := exists_of_run h
  obtain ⟨-, -, hlog⟩ := changeLog_of_applyAll hr
  exact ⟨hlog, hlog.getLast_flags hr, hlog.pairwise_atMs, fun e he => hlog.text_ne_advance he⟩

/-- A fetch that was not shown at once comes to light with the metacard, and what
came after it in the throttled run. -/
theorem run_logs_changes_metacard :
    let ss : List Step := [.addResult "a" false, .selectResult "a", .beginFetch "a",
      .selectMetacard "m" none, .completeFetch "a", .advance 100]
    ∃ o, run {} ⟨none, ss⟩ = .ok o ∧
      o.timeline = [⟨0, 0, .shown, ⟨true, false⟩⟩,
        ⟨4, 0, .step .selectMetacard, ⟨false, true⟩⟩, ⟨6, 60, .throttle, ⟨false, false⟩⟩] ∧
      ChangeLog {} ss o.timeline ∧ o.summary.finalFlags = ⟨false, false⟩ ∧
      o.timeline.Pairwise fun d e => d.atMs ≤ e.atMs := by
  intro ss
  obtain ⟨q, hq⟩ : ∃ q, Reference.applyAll (Config.window {}) {} 1 ss = .ok q := ⟨_, rfl⟩
  obtain ⟨o, hrun⟩ := run_accepted hq none
  obtain ⟨hlog, hlast, hordered, -⟩ := run_logs_changes hrun
  obtain ⟨r, hr, rfl⟩ := exists_of_run hrun
  obtain ⟨-, -, htimeline⟩ := (inStep_new {}).1.play (numbered 1 ss)
  rw [play_of_applyAll hr, (inStep_new {}).2] at htimeline
  have hshown : (r.finish none).timeline = _ := htimeline
  rw [hshown] at hlast
  exact ⟨_, hrun, htimeline, hlog, (Option.some.inj hlast).symm, hordered (by decide)⟩

end Replay

end DetailPanel
