import DetailPanel.Proofs.Replay.Refinement

/-!
# Replays settle

The flags that are shown may be old, but then a deadline is pending that is at
most one window away (`Timely`).  So when the clock has moved on by a window, the
flags are those that the last steps on the selection call for (`reading`),
whatever the window was.

    q.Timely window → q.step window n s = .ok q' → q'.Timely window        (Timely.step)
    q.Timely window → window ≤ ms → (q.advance ms).flags = q.live          (Timely.settle)
-/

namespace DetailPanel.Replay

/-! ## What the steps say last -/

/-- The last value that a step gives. -/
def lastOf {α : Type} (f : Step → Option α) (ss : List Step) : Option α := ss.reverse.findSome? f

theorem lastOf_cons {α : Type} (f : Step → Option α) (s : Step) (ss : List Step) :
    lastOf f (s :: ss) = (lastOf f ss).or (f s) := by
  simp [lastOf, List.findSome?_append]

/-- Whether a step selects a metacard or clears it. -/
def selectsCard : Step → Option Bool
  | .selectMetacard _ _ => some true
  | .clearMetacard => some false
  | _ => none

/-- The name that a step selects, or none if it clears the selection. -/
def selectsResult : Step → Option (Option String)
  | .selectResult x => some (some x)
  | .clearResult => some none
  | _ => none

/-- Whether a step leaves the result of a name searching. -/
def setsSearching (x : String) : Step → Option Bool
  | .addResult y on => if x = y then some on else none
  | .beginFetch y => if x = y then some true else none
  | .completeFetch y | .failFetch y => if x = y then some false else none
  | _ => none

/-- The flags by the last steps on the selection, without regard to time. -/
def reading (ss : List Step) : Flags where
  notFound := lastOf selectsCard ss ≠ some true
  isSearching := (lastOf selectsResult ss).join.any fun x => lastOf (setsSearching x) ss = some true

namespace Reference

variable {window : Nat} {q q' : Reference} {n : Nat} {s : Step} {ss : List Step}

/-! ## What a step makes of the selection -/

theorem withResult_eq_ok {x : String} {q'' : Reference} :
    q.withResult n x q' = .ok q'' ↔ q.searching.contains x ∧ q' = q'' := by
  unfold withResult
  split <;> simp [*]

theorem selection_select (q : Reference) (current : Option String) :
    (q.select current).searching = q.searching ∧ (q.select current).current = current ∧
      (q.select current).card = q.card := by
  unfold select
  split
  · rename_i h
    exact ⟨rfl, h, rfl⟩
  · exact ⟨rfl, rfl, rfl⟩

theorem selection_selectCard (q : Reference) (card : Option (String × Option String)) :
    (q.selectCard card).searching = q.searching ∧ (q.selectCard card).current = q.current ∧
      (q.selectCard card).card = card := by
  unfold selectCard
  split
  · rename_i h
    exact ⟨rfl, rfl, h⟩
  · exact ⟨rfl, rfl, rfl⟩

theorem selection_fetch (q : Reference) (window : Nat) (x : String) (on : Bool) :
    (q.fetch window x on).searching = q.searching.set x on ∧
      (q.fetch window x on).current = q.current ∧ (q.fetch window x on).card = q.card := by
  unfold fetch
  split <;> exact ⟨rfl, rfl, rfl⟩

theorem selection_advance (q : Reference) (ms : Nat) :
    (q.advance ms).searching = q.searching ∧ (q.advance ms).current = q.current ∧
      (q.advance ms).card = q.card := by
  unfold advance
  split <;> exact ⟨rfl, rfl, rfl⟩

/-- A step changes the selection as it says, and whether a result is searching. -/
theorem reads_step (h : q.step window n s = .ok q') :
    q'.card.isSome = (selectsCard s).getD q.card.isSome ∧
      q'.current = (selectsResult s).getD q.current ∧
      ∀ x, q'.searching.get? x = (setsSearching x s).or (q.searching.get? x) := by
  have hset : ∀ (y : String) (on : Bool) (x : String), (q.searching.set y on).get? x =
      (if x = y then some on else none).or (q.searching.get? x) := by
    intro y on x
    rw [Table.get?_set]
    split <;> rfl
  have hfetch : ∀ (y : String) (on : Bool), q.fetch window y on = q' →
      q'.card.isSome = q.card.isSome ∧ q'.current = q.current ∧
        ∀ x, q'.searching.get? x = (if x = y then some on else none).or (q.searching.get? x) := by
    rintro y on rfl
    obtain ⟨hs, hc, hm⟩ := q.selection_fetch window y on
    exact ⟨by rw [hm], hc, fun x => by rw [hs]; exact hset y on x⟩
  cases s with
  | addResult y on =>
      simp only [step] at h
      split at h
      · cases h
      · obtain rfl := Except.ok.inj h
        exact ⟨rfl, rfl, hset y on⟩
  | selectResult y =>
      obtain ⟨-, rfl⟩ := withResult_eq_ok.1 h
      obtain ⟨hs, hc, hm⟩ := q.selection_select (some y)
      exact ⟨by rw [hm]; rfl, hc, fun x => by rw [hs]; rfl⟩
  | clearResult =>
      obtain rfl := Except.ok.inj h
      obtain ⟨hs, hc, hm⟩ := q.selection_select none
      exact ⟨by rw [hm]; rfl, hc, fun x => by rw [hs]; rfl⟩
  | selectMetacard id title =>
      obtain rfl := Except.ok.inj h
      obtain ⟨hs, hc, hm⟩ := q.selection_selectCard (some (id, title))
      exact ⟨by rw [hm]; rfl, hc, fun x => by rw [hs]; rfl⟩
  | clearMetacard =>
      obtain rfl := Except.ok.inj h
      obtain ⟨hs, hc, hm⟩ := q.selection_selectCard none
      exact ⟨by rw [hm]; rfl, hc, fun x => by rw [hs]; rfl⟩
  | beginFetch y => exact hfetch y true (withResult_eq_ok.1 h).2
  | completeFetch y => exact hfetch y false (withResult_eq_ok.1 h).2
  | failFetch y => exact hfetch y false (withResult_eq_ok.1 h).2
  | advance ms =>
      obtain rfl := Except.ok.inj h
      obtain ⟨hs, hc, hm⟩ := q.selection_advance ms.toNat
      exact ⟨by rw [hm]; rfl, hc, fun x => by rw [hs]; rfl⟩
  | render =>
      obtain rfl := Except.ok.inj h
      exact ⟨rfl, rfl, fun _ => rfl⟩

/-- All steps together change the selection as they say last. -/
theorem reads_applyAll (h : q.applyAll window n ss = .ok q') :
    q'.card.isSome = (lastOf selectsCard ss).getD q.card.isSome ∧
      q'.current = (lastOf selectsResult ss).getD q.current ∧
      ∀ x, q'.searching.get? x = (lastOf (setsSearching x) ss).or (q.searching.get? x) := by
  induction ss generalizing q n with
  | nil =>
      obtain rfl := Except.ok.inj h
      exact ⟨rfl, rfl, fun _ => rfl⟩
  | cons s ss ih =>
      rw [applyAll] at h
      split at h
      · rename_i q₁ hstep
        obtain ⟨hm₁, hc₁, hs₁⟩ := reads_step hstep
        obtain ⟨hm, hc, hs⟩ := ih h
        simp only [lastOf_cons]
        refine ⟨?_, ?_, fun x => ?_⟩
        · rw [hm, hm₁]
          cases lastOf selectsCard ss <;> rfl
        · rw [hc, hc₁]
          cases lastOf selectsResult ss <;> rfl
        · rw [hs, hs₁, Option.or_assoc]
      · cases h

/-- The live flags at the end are those that the steps call for. -/
theorem live_applyAll (h : applyAll window {} n ss = .ok q') : q'.live = reading ss := by
  obtain ⟨hm, hc, hs⟩ := reads_applyAll h
  have hcard : q'.card.isNone = decide (lastOf selectsCard ss ≠ some true) := by
    have hnone : q'.card.isNone = !q'.card.isSome := by cases q'.card <;> rfl
    rw [hnone, hm]
    cases lastOf selectsCard ss with
    | none => rfl
    | some b => cases b <;> rfl
  have hcurrent : q'.current = (lastOf selectsResult ss).join := by
    rw [hc]
    cases lastOf selectsResult ss <;> rfl
  have hsearching : ∀ x, q'.searching.get? x = lastOf (setsSearching x) ss := by
    intro x
    rw [hs]
    exact Option.or_none
  simp only [live, reading, hcard, hcurrent, hsearching]

/-! ## Which steps are accepted -/

theorem contains_step (h : q.step window n s = .ok q') (x : String) :
    q'.searching.contains x = ((setsSearching x s).isSome || q.searching.contains x) := by
  rw [Table.contains, (reads_step h).2.2 x, Table.contains]
  cases setsSearching x s <;> rfl

/-- Whether a step fails depends on which results there are, and not on the window. -/
theorem step_of_contains {window' : Nat} {q₀ q₀' : Reference}
    (hs : ∀ x, q₀.searching.contains x = q.searching.contains x)
    (h : q₀.step window' n s = .ok q₀') : ∃ q', q.step window n s = .ok q' := by
  have hnamed : ∀ {x q₁} (q₂ : Reference), q₀.withResult n x q₁ = .ok q₀' →
      ∃ q', q.withResult n x q₂ = .ok q' := by
    intro x q₁ q₂ hx
    have hcontains := (withResult_eq_ok.1 hx).1
    rw [hs] at hcontains
    exact ⟨q₂, withResult_eq_ok.2 ⟨hcontains, rfl⟩⟩
  cases s with
  | addResult x on =>
      simp only [step, hs] at h ⊢
      split at h
      · cases h
      · rename_i hnew
        exact ⟨_, if_neg hnew⟩
  | selectResult | beginFetch | completeFetch | failFetch => exact hnamed _ h
  | clearResult | selectMetacard | clearMetacard | advance | render => exact ⟨_, rfl⟩

theorem applyAll_of_contains {window' : Nat} {q₀ q₀' : Reference}
    (hs : ∀ x, q₀.searching.contains x = q.searching.contains x)
    (h : q₀.applyAll window' n ss = .ok q₀') : ∃ q', q.applyAll window n ss = .ok q' := by
  induction ss generalizing q q₀ n with
  | nil => exact ⟨q, rfl⟩
  | cons s ss ih =>
      rw [applyAll] at h
      split at h
      · rename_i q₁ hstep
        obtain ⟨q₂, hstep₂⟩ : ∃ q₂, q.step window n s = .ok q₂ := step_of_contains hs hstep
        have hs₂ : ∀ x, q₁.searching.contains x = q₂.searching.contains x := by
          intro x
          rw [contains_step hstep, contains_step hstep₂, hs]
        rw [applyAll, hstep₂]
        exact ih hs₂ h
      · cases h

theorem applyAll_concat (h : q.applyAll window n ss = .ok q') (ms : UInt64) :
    q.applyAll window n (ss ++ [.advance ms]) = .ok (q'.advance ms.toNat) := by
  induction ss generalizing q n with
  | nil =>
      obtain rfl := Except.ok.inj h
      rfl
  | cons s ss ih =>
      rw [applyAll] at h
      rw [List.cons_append, applyAll]
      split at h
      · exact ih h
      · cases h

/-! ## Staleness -/

/-- The flags are live, or a deadline is pending that is a window away at most. -/
structure Timely (window : Nat) (q : Reference) : Prop where
  known : ∀ x, q.current = some x → q.searching.contains x
  fresh : q.flags = q.live ∨ q.deadline.isSome
  soon : ∀ d, q.deadline = some d → d ≤ q.now + window

theorem timely_empty (window : Nat) : Timely window {} := ⟨by simp, .inl rfl, by simp⟩

theorem Timely.render (h : q.Timely window) : q.render.Timely window :=
  ⟨h.known, .inl rfl, by simp [Reference.render]⟩

theorem Timely.select (h : q.Timely window) {current : Option String}
    (hk : ∀ x, current = some x → q.searching.contains x) : (q.select current).Timely window := by
  unfold Reference.select
  split
  · exact h
  · exact ⟨hk, .inl rfl, by simp [Reference.render]⟩

theorem Timely.selectCard (h : q.Timely window) (card : Option (String × Option String)) :
    (q.selectCard card).Timely window := by
  unfold Reference.selectCard
  split
  · exact h
  · exact ⟨h.known, .inl rfl, h.soon⟩

theorem contains_setSearching (q : Reference) (x : String) (on : Bool) {y : String}
    (h : q.searching.contains y) : (q.setSearching x on).searching.contains y := by
  have hset : (q.setSearching x on).searching.get? y = _ := Table.get?_set ..
  rw [Table.contains, hset]
  split
  · rfl
  · exact h

/-- A result that is not the current one says nothing to the flags. -/
theorem live_setSearching {x : String} (hx : q.current ≠ some x) (on : Bool) :
    (q.setSearching x on).live = q.live := by
  simp only [live, setSearching]
  cases hc : q.current with
  | none => rfl
  | some y =>
      have hne : y ≠ x := by
        rintro rfl
        exact hx hc
      simp [Table.get?_set, hne]

theorem Timely.setSearching (h : q.Timely window) {x : String} (hx : q.current ≠ some x)
    (on : Bool) : (q.setSearching x on).Timely window where
  known y hy := q.contains_setSearching x on (h.known y hy)
  fresh := by
    rw [live_setSearching hx]
    exact h.fresh
  soon := h.soon

/-- A fetch of the current result makes the flags old, and leaves a deadline. -/
theorem Timely.fetch (h : q.Timely window) (x : String) (on : Bool) :
    (q.fetch window x on).Timely window := by
  by_cases hx : q.current = some x
  · rw [fetch_current hx]
    refine ⟨fun y hy => q.contains_setSearching x on (h.known y hy), .inr rfl, fun d hd => ?_⟩
    obtain rfl := Option.some.inj hd
    show q.deadline.getD (q.now + window) ≤ q.now + window
    cases hq : q.deadline with
    | none => exact Nat.le_refl _
    | some d => exact h.soon d hq
  · rw [Reference.fetch, if_neg fun hidle => hx hidle.1]
    exact h.setSearching hx on

theorem Timely.elapse (h : q.Timely window) (ms : Nat) :
    { q with now := q.now + ms }.Timely window where
  known := h.known
  fresh := h.fresh
  soon d hd := by
    have := h.soon d hd
    show d ≤ q.now + ms + window
    omega

theorem Timely.advance (h : q.Timely window) (ms : Nat) : (q.advance ms).Timely window := by
  unfold Reference.advance
  split
  · exact h.render.elapse ms
  · exact h.elapse ms

theorem Timely.step (h : q.Timely window) (hstep : q.step window n s = .ok q') :
    q'.Timely window := by
  cases s with
  | addResult x on =>
      simp only [Reference.step] at hstep
      split at hstep
      · cases hstep
      · rename_i hnew
        obtain rfl := Except.ok.inj hstep
        exact h.setSearching (fun hx => hnew (h.known x hx)) on
  | selectResult x =>
      obtain ⟨hx, rfl⟩ := withResult_eq_ok.1 hstep
      exact h.select fun y hy => Option.some.inj hy ▸ hx
  | clearResult =>
      obtain rfl := Except.ok.inj hstep
      exact h.select (by simp)
  | selectMetacard id title =>
      obtain rfl := Except.ok.inj hstep
      exact h.selectCard _
  | clearMetacard =>
      obtain rfl := Except.ok.inj hstep
      exact h.selectCard _
  | beginFetch x =>
      obtain ⟨-, rfl⟩ := withResult_eq_ok.1 hstep
      exact h.fetch x true
  | completeFetch x | failFetch x =>
      obtain ⟨-, rfl⟩ := withResult_eq_ok.1 hstep
      exact h.fetch x false
  | advance ms =>
      obtain rfl := Except.ok.inj hstep
      exact h.advance ms.toNat
  | render =>
      obtain rfl := Except.ok.inj hstep
      exact h.render

theorem Timely.applyAll (h : q.Timely window) (hall : q.applyAll window n ss = .ok q') :
    q'.Timely window := by
  induction ss generalizing q n with
  | nil =>
      obtain rfl := Except.ok.inj hall
      exact h
  | cons s ss ih =>
      rw [Reference.applyAll] at hall
      split at hall
      · rename_i q₁ hstep
        exact ih (h.step hstep) hall
      · cases hall

/-- A window later the flags are live, and no deadline is left. -/
theorem Timely.settle (h : q.Timely window) {ms : Nat} (hms : window ≤ ms) :
    (q.advance ms).deadline = none ∧ (q.advance ms).flags = q.live := by
  cases hd : q.deadline with
  | none =>
      have hadvance : q.advance ms = { q with now := q.now + ms } := by
        simp [Reference.advance, hd]
      rw [hadvance]
      exact ⟨hd, h.fresh.resolve_right (by simp [hd])⟩
  | some d =>
      have hle : d ≤ q.now + ms := Nat.le_trans (h.soon d hd) (by omega)
      have hadvance : q.advance ms = { q.render with now := q.now + ms } := by
        simp [Reference.advance, hd, hle]
      rw [hadvance]
      exact ⟨rfl, rfl⟩

end Reference

/-! ## The end of a run -/

/-- A scenario that is accepted with some configuration ends, when the clock moves
on by at least the window, with no deadline pending and with the flags that its
last steps call for; so it ends with the same flags whatever the window is. -/
theorem run_settles {config₀ : Config} {name : Option String} {ss : List Step} {o : Outcome}
    (haccept : run config₀ ⟨name, ss⟩ = .ok o) :
    (∀ (config : Config) (ms : UInt64), config.throttleMs ≤ ms →
      ∃ r, (new config).applyAll 1 (ss ++ [.advance ms]) = .ok r ∧ r.deadline = none ∧
        run config ⟨name, ss ++ [.advance ms]⟩ = .ok (r.finish name) ∧
        (r.finish name).summary.finalFlags = reading ss) ∧
      ∀ (config config' : Config) (ms : UInt64), config.throttleMs ≤ ms → config'.throttleMs ≤ ms →
        ∃ o o', run config ⟨name, ss ++ [.advance ms]⟩ = .ok o ∧
          run config' ⟨name, ss ++ [.advance ms]⟩ = .ok o' ∧
          o.summary.finalFlags = o'.summary.finalFlags := by
  have hsettle : ∀ (config : Config) (ms : UInt64), config.throttleMs ≤ ms →
      ∃ r, (new config).applyAll 1 (ss ++ [.advance ms]) = .ok r ∧ r.deadline = none ∧
        run config ⟨name, ss ++ [.advance ms]⟩ = .ok (r.finish name) ∧
        (r.finish name).summary.finalFlags = reading ss := by
    intro config ms hms
    have hrun₀ := run_refines config₀ name ss
    cases hq₀ : Reference.applyAll config₀.window {} 1 ss with
    | error e =>
        rw [hq₀] at hrun₀
        cases haccept.symm.trans hrun₀
    | ok q₀ =>
        obtain ⟨q, hq⟩ : ∃ q, Reference.applyAll config.window {} 1 ss = .ok q :=
          Reference.applyAll_of_contains (fun _ => rfl) hq₀
        have hrun := run_refines config name (ss ++ [.advance ms])
        rw [Reference.applyAll_concat hq] at hrun
        obtain ⟨r, hr, hin, hrun⟩ := hrun
        have htimely := (Reference.timely_empty config.window).applyAll hq
        obtain ⟨hnone, hflags⟩ := htimely.settle (UInt64.le_iff_toNat_le.1 hms)
        refine ⟨r, hr, hin.toMatches.deadline.trans hnone, hrun, ?_⟩
        show r.flags = reading ss
        rw [hin.toMatches.flags, hflags, Reference.live_applyAll hq]
  refine ⟨hsettle, fun config config' ms hms hms' => ?_⟩
  obtain ⟨r, -, -, hrun, hflags⟩ := hsettle config ms hms
  obtain ⟨r', -, -, hrun', hflags'⟩ := hsettle config' ms hms'
  exact ⟨_, _, hrun, hrun', hflags.trans hflags'.symm⟩

/-- A result that is being fetched when the scenario ends. -/
theorem run_settles_fetching :
    let ss : List Step := [.addResult "a" false, .selectResult "a", .selectMetacard "m" none,
      .beginFetch "a"]
    ∃ o, run {} ⟨none, ss⟩ = .ok o ∧
      ∀ (config : Config) (ms : UInt64), config.throttleMs ≤ ms →
        ∃ r, (new config).applyAll 1 (ss ++ [.advance ms]) = .ok r ∧ r.deadline = none ∧
          run config ⟨none, ss ++ [.advance ms]⟩ = .ok (r.finish none) ∧
          (r.finish none).summary.finalFlags = { notFound := false, isSearching := true } := by
  intro ss
  obtain ⟨o, haccept⟩ : ∃ o, run {} ⟨none, ss⟩ = .ok o := ⟨_, rfl⟩
  have hreading : reading ss = { notFound := false, isSearching := true } := by decide
  rw [← hreading]
  exact ⟨o, haccept, (run_settles haccept).1⟩

end DetailPanel.Replay
