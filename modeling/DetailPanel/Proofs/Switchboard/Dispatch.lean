import DetailPanel.Proofs.Agenda
import DetailPanel.Proofs.Switchboard.Registration

/-!
# The law of dispatch

A program runs on a new board, its callbacks run theirs, and the transcript
lists all that is done, task by task.

    an emission sets off one delivery for each callback registered when it
      began, in the order of their subscription              (Lawful.delivered)
    a callback receives an emission if and only if it had subscribed before,
      and its name was not given up in between                (Lawful.received)
    a delivery comes with all that it sets off before the next delivery of
      the same emission                                         (Lawful.nested)
-/

namespace DetailPanel.Switchboard

/-- A task of a program, with the board that it found. -/
abbrev Entry := Performed Switchboard Job

/-- The call that a task amounts to. -/
def callOf (E : Entry) : Option Call :=
  match E.task with
  | .step _ => none
  | .deliver k event => (E.before.nameOf k).map (⟨·, event⟩)

/-- The ledger of a program on a new board. -/
def programLedger (ss : List Step) : Ledger Switchboard Job := machine.ledger (ss.map .step) {}

/-- All that a program does on a new board, in order. -/
def transcript (ss : List Step) : List Entry := (programLedger ss).done

/-- The step `S` registers a callback under the name, in position `k`. -/
def Registers (S : Entry) (name : String) (k : Nat) : Prop :=
  (∃ script, S.task = .step (.subscribe name script)) ∧
    S.before.registry.isSome ∧ k = S.before.callbacks.length

/-- The law of dispatch, of a program `ss` and what it does. -/
structure Lawful (ss : List Step) (H : List Entry) : Prop where
  /-- The numbers are the places. -/
  numbered : H.map (·.number) = List.range' 1 H.length
  /-- What nothing else sets off are the steps of the program, in order. -/
  program : (H.filter (·.cause == 0)).map (·.task) = ss.map .step
  /-- The calls are those of the program when its steps are applied one by one. -/
  calls : (ss.foldl (fun b s => (b.apply s).2) ({} : Switchboard)).calls = H.filterMap callOf
  /-- An emission sets off one delivery for each callback registered when it
  began, with its event, in the order of their subscription. -/
  delivered : ∀ E ∈ H, ∀ event, E.task = .step (.emit event) →
    (H.filter (·.cause == E.number)).map (·.task) = E.before.registered.map (.deliver · event) ∧
      E.before.registered.Pairwise (· < ·)
  /-- Only emissions set off deliveries. -/
  emitted : ∀ D ∈ H, ∀ k event, D.task = .deliver k event →
    ∃ E ∈ H, E.number = D.cause ∧ E.number < D.number ∧ E.task = .step (.emit event)
  /-- A delivery finds its callback, registered or not by then, and runs its program. -/
  called : ∀ D ∈ H, ∀ k event, D.task = .deliver k event →
    ∃ c, D.before.callbacks[k]? = some c ∧ callOf D = some ⟨c.name, event⟩ ∧
      (H.filter (·.cause == D.number)).map (·.task) = c.script.next.1.map .step
  /-- A callback receives the emissions that begin after it subscribed and
  before its name is given up, and no others. -/
  received : ∀ S ∈ H, ∀ name k, Registers S name k →
    ∀ E ∈ H, ∀ event, E.task = .step (.emit event) →
      ((∃ D ∈ H, D.cause = E.number ∧ D.task = .deliver k event ∧
          callOf D = some ⟨name, event⟩) ↔
        S.number < E.number ∧
          ∀ G ∈ H, S.number < G.number → G.number < E.number → ¬ G.task.Ends name)
  /-- Of two deliveries of an emission, the first is over with all that it
  sets off before the second begins. -/
  nested : ∀ P ∈ H, ∀ Q ∈ H, P.cause = Q.cause → P.number < Q.number →
    ∀ R, Performed.SetsOff H P R → P.number < R.number ∧ R.number < Q.number

/-- Applying the steps one by one works them off as one agenda. -/
theorem foldl_apply (ss : List Step) (b : Switchboard) :
    ss.foldl (fun b s => (b.apply s).2) b = machine.run (ss.map .step) b := by
  induction ss generalizing b with
  | nil => simp
  | cons s ss ih =>
      rw [List.foldl_cons, ih, List.map_cons, Machine.run_cons, Machine.run_append]
      rfl

/-! ## The board and the record that led to it -/

variable {b : Switchboard} {j : Job} {k : Nat} {name event : String}

theorem calls_giveUp {release : Handle → Registry Nat → Registry Nat} :
    (b.giveUp name release).calls = b.calls := by
  unfold giveUp
  split <;> rfl

theorem calls_subscribe {script : Script Step} : (b.subscribe name script).2.calls = b.calls := by
  unfold subscribe
  split
  · rfl
  · exact calls_giveUp

theorem calls_perform (j : Job) (b : Switchboard) (n c : Nat) :
    (perform j b).2.calls = b.calls ++ (callOf ⟨n, c, j, b⟩).toList := by
  cases j with
  | deliver k event =>
      show (b.deliver k event).2.calls = _
      unfold deliver
      split <;> rename_i hk <;> simp [callOf, nameOf, hk]
  | step s =>
      cases s with
      | subscribe name script => simp [perform, begin, callOf, calls_subscribe]
      | unsubscribe name | drop name => simp [perform, begin, callOf, calls_giveUp]
      | emit | close => simp [perform, begin, callOf]

/-- Positions are never taken back. -/
theorem length_le_perform (j : Job) (b : Switchboard) :
    b.callbacks.length ≤ (perform j b).2.callbacks.length := by
  refine Nat.le_of_not_lt fun hlt => ?_
  have hk : b.nameOf (perform j b).2.callbacks.length =
      some (b.callbacks[(perform j b).2.callbacks.length]).name := by
    simp [nameOf, hlt]
  exact Nat.lt_irrefl _ (lt_of_nameOf (nameOf_perform hk))

/-- What holds of a board and the record that led to it: a callback is
registered if its name was not given up since it subscribed. -/
structure Kept (L : Ledger Switchboard Job) : Prop where
  sound : L.state.Sound
  calls : L.state.calls = L.done.filterMap callOf
  number_lt : ∀ R ∈ L.done, R.number < L.next
  length_le : ∀ S ∈ L.done, S.before.callbacks.length ≤ L.state.callbacks.length
  named : ∀ S ∈ L.done, ∀ name k, Registers S name k → L.state.nameOf k = some name
  registered : ∀ S ∈ L.done, ∀ name k, Registers S name k →
    (k ∈ L.state.registered ↔ ∀ G ∈ L.done, S.number < G.number → ¬ G.task.Ends name)

theorem kept_start : Kept { state := {} } where
  sound := sound_empty
  calls := rfl
  number_lt := by simp
  length_le := by simp
  named := by simp
  registered := by simp

/-- The callback that a step registers is registered after it. -/
theorem Registers.registered {E : Entry} (h : Registers E name k) (hb : E.before.Sound) :
    (perform E.task E.before).2.nameOf k = some name ∧
      k ∈ (perform E.task E.before).2.registered := by
  obtain ⟨⟨script, htask⟩, hopen, rfl⟩ := h
  obtain ⟨r, hr⟩ := Option.isSome_iff_exists.1 hopen
  rw [htask]
  show (E.before.subscribe name script).2.nameOf E.before.callbacks.length = some name ∧
    E.before.callbacks.length ∈ (E.before.subscribe name script).2.registered
  refine ⟨?_, ?_⟩
  · simp [nameOf, callbacks_subscribe hr]
  · simp [hb.registered_subscribe hr]

theorem Kept.perform {L : Ledger Switchboard Job} (h : Kept L) (e : Nat × Job) :
    Kept (machine.recorded.perform e L).2 where
  sound := h.sound.perform e.2
  calls := by
    show (Switchboard.perform e.2 L.state).2.calls = _
    rw [calls_perform e.2 L.state L.next e.1, h.calls, Machine.done_recorded,
      List.filterMap_append]
    cases hc : callOf ⟨L.next, e.1, e.2, L.state⟩ <;> simp [hc]
  number_lt := Machine.number_lt_recorded h.number_lt
  length_le := by
    intro S hS
    have hstep := length_le_perform e.2 L.state
    rcases List.mem_append.1 hS with hS | hS
    · exact Nat.le_trans (h.length_le S hS) hstep
    · obtain rfl := List.mem_singleton.1 hS
      exact hstep
  named := by
    intro S hS name k hreg
    rcases List.mem_append.1 hS with hS | hS
    · exact nameOf_perform (h.named S hS name k hreg)
    · obtain rfl := List.mem_singleton.1 hS
      exact (hreg.registered h.sound).1
  registered := by
    intro S hS name k hreg
    simp only [Machine.done_recorded, List.forall_mem_append, List.forall_mem_singleton]
    rcases List.mem_append.1 hS with hS | hS
    · have hk := h.named S hS name k hreg
      have hlt := h.number_lt S hS
      show k ∈ (Switchboard.perform e.2 L.state).2.registered ↔ _
      rw [h.sound.registered_perform hk, h.registered S hS name k hreg]
      simp [hlt]
    · obtain rfl := List.mem_singleton.1 hS
      refine iff_of_true (hreg.registered h.sound).2 ⟨fun G hG hlt => ?_, fun hlt => ?_⟩
      · exact absurd (h.number_lt G hG) (Nat.not_lt_of_gt hlt)
      · exact absurd hlt (Nat.lt_irrefl _)

/-! ## The law -/

theorem told (ss : List Step) : machine.Told [] (programLedger ss) := machine.told_ledger ..

theorem kept (ss : List Step) : Kept (programLedger ss) :=
  machine.recorded.run_preserves (fun e _ h => h.perform e) _ _ kept_start

theorem kept_upTo (ss : List Step) {E : Entry} (hE : E ∈ transcript ss) :
    Kept ((programLedger ss).upTo E) :=
  Machine.past_run (fun e _ h => h.perform e) _ _ kept_start E hE

variable {ss : List Step} {D E S : Entry}

theorem setOff_of_mem (hE : E ∈ transcript ss) :
    ((transcript ss).filter (·.cause == E.number)).map (·.task) =
      (perform E.task E.before).1 :=
  (told ss).setOff_eq hE

theorem mem_setOff (hE : E ∈ transcript ss) (hD : D ∈ transcript ss)
    (hcause : D.cause = E.number) : D.task ∈ (perform E.task E.before).1 :=
  (told ss).mem_setOff hE hD hcause

theorem delivered_of_mem (hE : E ∈ transcript ss) (htask : E.task = .step (.emit event)) :
    ((transcript ss).filter (·.cause == E.number)).map (·.task) =
      E.before.registered.map (.deliver · event) := by
  rw [setOff_of_mem hE, htask]
  rfl

/-- A delivery is one of those that an emission set off. -/
theorem exists_emission (hD : D ∈ transcript ss) (htask : D.task = .deliver k event) :
    ∃ E ∈ transcript ss, E.number = D.cause ∧ E.number < D.number ∧
      E.task = .step (.emit event) ∧ k ∈ E.before.registered := by
  have hnew : D.task ∉ ss.map Job.step := by simp [htask]
  obtain ⟨E, hE, hnumber, hlt, hmem⟩ := Machine.exists_cause_ledger hD hnew
  have hmem : .deliver k event ∈ (perform E.task E.before).1 := htask ▸ hmem
  refine ⟨E, hE, hnumber, hlt, ?_⟩
  -- among all tasks, emissions alone set deliveries off
  cases ht : E.task with
  | deliver i event' =>
      rw [ht] at hmem
      simp only [perform, deliver] at hmem
      split at hmem <;> simp at hmem
  | step s =>
      rw [ht] at hmem
      cases s with
      | emit event' =>
          obtain ⟨i, hi, heq⟩ := List.mem_map.1 hmem
          simp only [Job.deliver.injEq] at heq
          obtain ⟨rfl, rfl⟩ := heq
          exact ⟨rfl, hi⟩
      | subscribe | unsubscribe | drop | close => simp [perform, begin] at hmem

/-- A delivery finds its callback, whatever has become of the registration. -/
theorem exists_callback (hD : D ∈ transcript ss) (htask : D.task = .deliver k event) :
    ∃ c, D.before.callbacks[k]? = some c := by
  obtain ⟨E, hE, -, hlt, -, hk⟩ := exists_emission hD htask
  have hkE := (kept_upTo ss hE).sound.lt_of_registered hk
  have hED := (kept_upTo ss hD).length_le E (Ledger.mem_upTo.2 ⟨hE, hlt⟩)
  have hkD : k < D.before.callbacks.length := Nat.lt_of_lt_of_le hkE hED
  exact ⟨_, List.getElem?_eq_getElem hkD⟩

/-- A callback is registered from when it subscribes until its name is given up. -/
theorem registered_iff (hS : S ∈ transcript ss) (hreg : Registers S name k)
    (hE : E ∈ transcript ss) :
    k ∈ E.before.registered ↔ S.number < E.number ∧
      ∀ G ∈ transcript ss, S.number < G.number → G.number < E.number → ¬ G.task.Ends name := by
  by_cases hlt : S.number < E.number
  · have hiff := (kept_upTo ss hE).registered S (Ledger.mem_upTo.2 ⟨hS, hlt⟩) name k hreg
    show k ∈ ((programLedger ss).upTo E).state.registered ↔ _
    rw [hiff]
    constructor
    · intro h
      exact ⟨hlt, fun G hG hSG hGE => h G (Ledger.mem_upTo.2 ⟨hG, hGE⟩) hSG⟩
    · rintro ⟨-, h⟩ G hG hSG
      obtain ⟨hG, hGE⟩ := Ledger.mem_upTo.1 hG
      exact h G hG hSG hGE
  · -- its position is not taken yet
    refine iff_of_false (fun hk => ?_) (fun h => hlt h.1)
    have hkE := (kept_upTo ss hE).sound.lt_of_registered hk
    have hkS : k = S.before.callbacks.length := hreg.2.2
    have hle : E.before.callbacks.length ≤ S.before.callbacks.length := by
      rcases Nat.lt_or_ge E.number S.number with hES | hES
      · exact (kept_upTo ss hS).length_le E (Ledger.mem_upTo.2 ⟨hE, hES⟩)
      · obtain rfl : E = S := (told ss).eq_of_number hE hS (by omega)
        exact Nat.le_refl _
    have hkE : k < E.before.callbacks.length := hkE
    omega

theorem received_iff (hS : S ∈ transcript ss) (hreg : Registers S name k)
    (hE : E ∈ transcript ss) (htask : E.task = .step (.emit event)) :
    (∃ D ∈ transcript ss, D.cause = E.number ∧ D.task = .deliver k event ∧
        callOf D = some ⟨name, event⟩) ↔ k ∈ E.before.registered := by
  constructor
  · rintro ⟨D, hD, hcause, hdeliver, -⟩
    have hmem := mem_setOff hE hD hcause
    rw [htask, hdeliver] at hmem
    obtain ⟨i, hi, heq⟩ := List.mem_map.1 hmem
    simp only [Job.deliver.injEq, and_true] at heq
    exact heq ▸ hi
  · intro hk
    have hmem : Job.deliver k event ∈ E.before.registered.map (.deliver · event) :=
      List.mem_map.2 ⟨k, hk, rfl⟩
    rw [← delivered_of_mem hE htask] at hmem
    obtain ⟨D, hD, hdeliver⟩ := List.mem_map.1 hmem
    obtain ⟨hD, hcause⟩ := List.mem_filter.1 hD
    have hcause : D.cause = E.number := by simpa using hcause
    have hED := (told ss).cause_lt D hD
    have hSE := ((registered_iff hS hreg hE).1 hk).1
    have hname := (kept_upTo ss hD).named S (Ledger.mem_upTo.2 ⟨hS, by omega⟩) name k hreg
    refine ⟨D, hD, hcause, hdeliver, ?_⟩
    have hname : D.before.nameOf k = some name := hname
    simp [callOf, hdeliver, hname]

/-- Every program keeps the law of dispatch, whatever its callbacks do
meanwhile and however emissions nest. -/
theorem transcript_lawful (ss : List Step) : Lawful ss (transcript ss) where
  numbered := (told ss).numbered
  program := machine.program_ledger ..
  calls := by
    rw [foldl_apply, ← machine.state_ledger]
    exact (kept ss).calls
  delivered E hE event htask :=
    ⟨delivered_of_mem hE htask, (kept_upTo ss hE).sound.registered_ordered⟩
  emitted D hD k event htask := by
    obtain ⟨E, hE, hnumber, hlt, hemit, -⟩ := exists_emission hD htask
    exact ⟨E, hE, hnumber, hlt, hemit⟩
  called D hD k event htask := by
    obtain ⟨c, hc⟩ := exists_callback hD htask
    refine ⟨c, hc, ?_, ?_⟩
    · simp [callOf, htask, nameOf, hc]
    · rw [setOff_of_mem hD, htask]
      simp [perform, deliver, hc]
  received S hS name k hreg E hE event htask := by
    rw [received_iff hS hreg hE htask, registered_iff hS hreg hE]
  nested P hP Q hQ hcause hlt R hR := (told ss).before_sibling hP hQ hcause hlt hR

/-- An event emitted during a delivery goes to everybody before the delivery goes on. -/
example : (List.foldl (fun (b : Switchboard) s => (b.apply s).2) {}
      [.subscribe "a" (.onFirst 1 [.emit "y"]), .subscribe "b" .silent, .emit "x"]).calls =
    [⟨"a", "x"⟩, ⟨"a", "y"⟩, ⟨"b", "y"⟩, ⟨"b", "x"⟩] := by
  cbv

end DetailPanel.Switchboard
