import DetailPanel.Proofs.Agenda
import DetailPanel.Proofs.Session.Independence
import DetailPanel.Proofs.Session.Settings

/-!
# The law of announcements

Steps are carried out on a new session, observers run theirs when they are told,
also such that set the selection again, and the transcript lists all that is
done, task by task.

    a setting answers true if and only if the value differs        (Announced.answered)
    if so, everybody who listens then is told once, in order       (Announced.announced)
    if not, nothing changes and nobody is told                     (Announced.refused)
    nothing else changes what is selected                          (Announced.complete)
    each change begins with the id that the one before ended with  (Announced.chained)
    who listened before everybody else hears of the changes in
      the order in which they were made                            (Announced.leader)

The others may hear of them in another order: a change that is made by somebody
who is told of another one is announced before that other announcement goes on.
-/

namespace DetailPanel

open Workspace

/-- Each pair begins with what the one before it ends with. -/
def Chained {α : Type} : α → List (α × α) → α → Prop
  | a, [], b => a = b
  | a, c :: cs, b => c.1 = a ∧ Chained c.2 cs b

theorem chained_concat {α : Type} {a b c d : α} {cs : List (α × α)} :
    Chained a (cs ++ [(b, c)]) d ↔ Chained a cs b ∧ c = d := by
  induction cs generalizing a with
  | nil => simp [Chained, eq_comm]
  | cons x cs ih => simp [Chained, ih, and_assoc]

namespace Session

/-- A task of a run, with the session that it found. -/
abbrev Entry := Performed Session Job

/-- What a task sets a half of the selection to, if it does. -/
def settingOf (h : Half) (E : Entry) : Option (Option h.Value) :=
  match E.task with
  | .step t => E.before.setting? h t
  | .deliver _ => none

/-- The answer to a step. -/
def answerOf (E : Entry) : Option Answer :=
  match E.task with
  | .step t => some (E.before.begin t).1
  | .deliver _ => none

/-- The change of a half of the selection that a task makes: the ids before and after. -/
def changeOf (h : Half) (E : Entry) : Option (Option h.Id × Option h.Id) :=
  if answerOf E = some (.bool true) then
    (settingOf h E).map fun v => (E.before.workspace.storedId h, v.map h.id)
  else none

/-- The change of a half of the selection that a task tells a subscriber of. -/
def heardOf (h : Half) (x : Subscriber) (E : Entry) : Option (Option h.Id × Option h.Id) :=
  match E.task with
  | .step _ => none
  | .deliver d => if d.subscriber = x then h.change? d.notice else none

/-- Who listened to a half of the selection when a task began. -/
def listenersOf (h : Half) (E : Entry) : List (Nat × Subscriber) :=
  (E.before.workspace.registry h.channel).entries

/-- The ledger of steps on a new session. -/
def programLedger (ts : List Step) : Ledger Session Job := machine.ledger (ts.map .step) {}

/-- All that is done when steps are carried out on a new session, in order. -/
def transcript (ts : List Step) : List Entry := (programLedger ts).done

/-- The law of announcements, of steps `ts`, what they do, `H`, and the session `s` after it. -/
structure Announced (ts : List Step) (H : List Entry) (s : Session) : Prop where
  /-- The numbers are the places. -/
  numbered : H.map (·.number) = List.range' 1 H.length
  /-- What nothing else sets off are the steps, in order. -/
  program : (H.filter (·.cause == 0)).map (·.task) = ts.map .step
  /-- A result that is added is none that there has been, whatever their keys and labels. -/
  added : ∀ E ∈ H, ∀ key label searching, E.task = .step (.addResult key label searching) →
    (perform E.task E.before).2.results.get? key = some E.before.workspace.nextResult ∧
      ∀ G ∈ H, G.number ≤ E.number → G.before.workspace.result ≠ some E.before.workspace.nextResult ∧
        ∀ k, G.before.results.get? k ≠ some E.before.workspace.nextResult
  /-- A setting answers true if and only if the value differs from what is stored. -/
  answered : ∀ E ∈ H, ∀ h v, settingOf h E = some v → ∃ changed,
    answerOf E = some (.bool changed) ∧
      (changed = true ↔ h.Differ (E.before.workspace.stored h) v)
  /-- One that answers false changes nothing, and nobody is told. -/
  refused : ∀ E ∈ H, ∀ h v, settingOf h E = some v → answerOf E = some (.bool false) →
    perform E.task E.before = ([], E.before) ∧ ∀ D ∈ H, D.cause ≠ E.number
  /-- One that answers true stores the value; and everybody who listens on the
  channel then is told of this one change, once and in order. -/
  announced : ∀ E ∈ H, ∀ h v, settingOf h E = some v → answerOf E = some (.bool true) →
    (perform E.task E.before).2 = E.before.setWorkspace (E.before.workspace.assign h v) ∧
      (H.filter (·.cause == E.number)).map (·.task) =
        (listenersOf h E).map (fun e =>
          .deliver ⟨e.2, h.notice (E.before.workspace.storedId h) (v.map h.id)⟩) ∧
      ((listenersOf h E).map (·.2)).Nodup
  /-- Nothing else changes what is selected. -/
  complete : ∀ E ∈ H, ∀ h, changeOf h E = none →
    (perform E.task E.before).2.workspace.stored h = E.before.workspace.stored h
  /-- Nobody is told of a change that was not made. -/
  attributed : ∀ D ∈ H, ∀ h x c, heardOf h x D = some c →
    ∃ E ∈ H, E.number = D.cause ∧ changeOf h E = some c ∧ x ∈ (listenersOf h E).map (·.2)
  /-- An observer that is told of a change is called, once. -/
  called : ∀ D ∈ H, ∀ h k c, heardOf h (.observer k) D = some c →
    ∃ f, D.before.callbacks[k]? = some f ∧
      (perform D.task D.before).2.log =
        D.before.log ++ [.saw f.name (h.notice c.1 c.2) D.before.panelFlags]
  /-- The changes lead from nothing to what is selected at the end. -/
  chained : ∀ h, Chained none (H.filterMap (changeOf h)) (s.workspace.storedId h)
  /-- The changes up to a task lead to what is selected then. -/
  chained_before : ∀ h, ∀ E ∈ H, Chained none
    ((H.filter (·.number < E.number)).filterMap (changeOf h)) (E.before.workspace.storedId h)
  /-- Who is the first to listen hears of a change before anything else happens. -/
  foremost : ∀ E ∈ H, ∀ h c e, changeOf h E = some c → (listenersOf h E).head? = some e →
    ∃ D ∈ H, D.number = E.number + 1 ∧ D.cause = E.number ∧ heardOf h e.2 D = some c
  /-- Who subscribed before everybody else and still listens has listened since, and has
  heard of exactly the changes since, in the order in which they were made. -/
  leader : ∀ h e, e ∈ (s.workspace.registry h.channel).entries →
    (∀ E ∈ H, ∀ e' ∈ listenersOf h E, e.1 ≤ e'.1) →
    (∀ E ∈ H, ∀ F ∈ H, E.number ≤ F.number → e ∈ listenersOf h E → e ∈ listenersOf h F) ∧
      H.filterMap (heardOf h e.2) = (H.filter (e ∈ listenersOf h ·)).filterMap (changeOf h)

/-- Carrying steps out one by one works them off as one agenda. -/
theorem applyAll_eq_run (s : Session) (ts : List Step) :
    s.applyAll ts = machine.run (ts.map .step) s := by
  induction ts generalizing s with
  | nil => exact (Machine.run_nil ..).symm
  | cons t ts ih =>
      rw [List.map_cons, Machine.run_cons, Machine.run_append]
      exact ih (s.apply t).2

/-! ## The session and the record that led to it -/

variable {s : Session} {h : Half}

/-- What becomes of a half of the selection when a task is carried out. -/
theorem stored_perform (hs : s.workspace.effects = []) (n i : Nat) (j : Job) (h : Half) :
    (∃ v, changeOf h ⟨n, i, j, s⟩ = some (s.workspace.storedId h, v.map h.id) ∧
        (perform j s).2.workspace.stored h = v) ∨
      changeOf h ⟨n, i, j, s⟩ = none ∧
        (perform j s).2.workspace.stored h = s.workspace.stored h := by
  cases j with
  | deliver d => exact .inr ⟨if_neg nofun, stored_deliver s d h⟩
  | step t =>
      cases hv : s.setting? h t with
      | none => exact .inr ⟨by simp [changeOf, settingOf, hv], stored_begin hv⟩
      | some v =>
          rcases perform_of_setting hs hv with ⟨-, hanswer, heq⟩ | ⟨-, hanswer, heq⟩
          · exact .inr ⟨by simp [changeOf, answerOf, hanswer], by rw [heq]⟩
          · refine .inl ⟨v, by simp [changeOf, answerOf, settingOf, hanswer, hv], ?_⟩
            rw [heq]
            exact stored_assign ..

theorem length_callbacks_le (s : Session) (j : Job) :
    s.callbacks.length ≤ (perform j s).2.callbacks.length := by
  rcases s.observers_perform j with ⟨name, topic, script, c, rfl, hc⟩ | ⟨hlen, -⟩
  · show _ ≤ (s.begin (.observe name topic script)).2.2.callbacks.length
    simp [begin, hc, observe]
  · exact Nat.le_of_eq hlen.symm

/-- What holds of a session and the record that led to it. -/
structure Recorded (L : Ledger Session Job) : Prop where
  sound : ∃ held, L.state.Sound held
  settled : L.state.workspace.effects = []
  enrolled : L.state.Enrolled
  length_le : ∀ R ∈ L.done, R.before.callbacks.length ≤ L.state.callbacks.length
  grown : ∀ R ∈ L.done, Grown R.before.workspace L.state.workspace
  chained : ∀ h, Chained none (L.done.filterMap (changeOf h)) (L.state.workspace.storedId h)

theorem recorded_start : Recorded { state := {} } where
  sound := ⟨_, sound_empty⟩
  settled := rfl
  enrolled := enrolled_empty
  length_le := by simp
  grown := by simp
  chained h := by cases h <;> rfl

theorem Recorded.perform {L : Ledger Session Job} (hL : Recorded L) (e : Nat × Job) :
    Recorded (machine.recorded.perform e L).2 where
  sound := by
    obtain ⟨held, hs⟩ := hL.sound
    exact hs.perform e.2
  settled := settled_perform hL.settled e.2
  enrolled := by
    obtain ⟨held, hs⟩ := hL.sound
    exact hL.enrolled.perform hs e.2
  length_le := by
    intro R hR
    have hstep := L.state.length_callbacks_le e.2
    rcases List.mem_append.1 hR with hR | hR
    · exact Nat.le_trans (hL.length_le R hR) hstep
    · obtain rfl := List.mem_singleton.1 hR
      exact hstep
  grown := by
    intro R hR
    obtain ⟨held, hs⟩ := hL.sound
    have hstep := grown_perform hs e.2
    rcases List.mem_append.1 hR with hR | hR
    · exact (hL.grown R hR).trans hstep
    · obtain rfl := List.mem_singleton.1 hR
      exact hstep
  chained h := by
    have hchained := hL.chained h
    rw [Machine.done_recorded, List.filterMap_append]
    show Chained none _ (((Session.perform e.2 L.state).2.workspace.stored h).map h.id)
    rcases stored_perform hL.settled L.next e.1 e.2 h with ⟨v, hchange, hv⟩ | ⟨hnone, hsame⟩
    · simp only [List.filterMap_cons, hchange, List.filterMap_nil, hv]
      exact chained_concat.2 ⟨hchained, rfl⟩
    · simp only [List.filterMap_cons, hnone, List.filterMap_nil, List.append_nil, hsame]
      exact hchained

/-! ## The law -/

theorem told_program (ts : List Step) : machine.Told [] (programLedger ts) :=
  machine.told_ledger ..

theorem recorded_program (ts : List Step) : Recorded (programLedger ts) :=
  machine.recorded.run_preserves (fun e _ hL => hL.perform e) _ _ recorded_start

theorem recorded_upTo (ts : List Step) {E : Entry} (hE : E ∈ transcript ts) :
    Recorded ((programLedger ts).upTo E) :=
  Machine.past_run (fun e _ hL => hL.perform e) _ _ recorded_start E hE

theorem state_programLedger (ts : List Step) :
    (programLedger ts).state = ({} : Session).applyAll ts := by
  rw [applyAll_eq_run]
  exact machine.state_ledger ..

variable {ts : List Step} {D E F G : Entry} {x : Subscriber} {v : Option h.Value}
  {c : Option h.Id × Option h.Id}

theorem setOff_of_mem (hE : E ∈ transcript ts) :
    ((transcript ts).filter (·.cause == E.number)).map (·.task) = (perform E.task E.before).1 :=
  (told_program ts).setOff_eq hE

theorem grown_between (hE : E ∈ transcript ts) (hF : F ∈ transcript ts)
    (hle : E.number ≤ F.number) : Grown E.before.workspace F.before.workspace := by
  rcases Nat.eq_or_lt_of_le hle with heq | hlt
  · obtain rfl := (told_program ts).eq_of_number hE hF heq
    exact .refl _
  · exact (recorded_upTo ts hF).grown E (Ledger.mem_upTo.2 ⟨hE, hlt⟩)

/-- What a setting answers, and what becomes of it. -/
theorem setting_spec (hE : E ∈ transcript ts) (hv : settingOf h E = some v) :
    ¬ h.Differ (E.before.workspace.stored h) v ∧ answerOf E = some (.bool false) ∧
        perform E.task E.before = ([], E.before) ∨
      h.Differ (E.before.workspace.stored h) v ∧ answerOf E = some (.bool true) ∧
        perform E.task E.before =
          ((E.before.workspace.announce h.channel
              (h.notice (E.before.workspace.storedId h) (v.map h.id))).map .deliver,
            E.before.setWorkspace (E.before.workspace.assign h v)) := by
  have hsettled : E.before.workspace.effects = [] := (recorded_upTo ts hE).settled
  obtain ⟨n, i, j, s⟩ := E
  cases j with
  | deliver d => cases hv
  | step t =>
      rcases perform_of_setting hsettled hv with ⟨hsame, hanswer, heq⟩ | ⟨hdiffer, hanswer, heq⟩
      · exact .inl ⟨hsame, congrArg some hanswer, heq⟩
      · exact .inr ⟨hdiffer, congrArg some hanswer, heq⟩

theorem changeOf_eq_some : changeOf h E = some c ↔ answerOf E = some (.bool true) ∧
    ∃ v, settingOf h E = some v ∧ c = (E.before.workspace.storedId h, v.map h.id) := by
  unfold changeOf
  split
  · rename_i hanswer
    simp only [hanswer, true_and, Option.map_eq_some_iff]
    exact exists_congr fun v => and_congr_right fun _ => eq_comm
  · rename_i hanswer
    simp [hanswer]

theorem heardOf_eq_some :
    heardOf h x E = some c ↔ E.task = .deliver ⟨x, h.notice c.1 c.2⟩ := by
  obtain ⟨n, i, j, s⟩ := E
  cases j with
  | step t => simp [heardOf]
  | deliver d =>
      obtain ⟨y, notice⟩ := d
      simp only [heardOf, Job.deliver.injEq, Delivery.mk.injEq, Option.ite_none_right_eq_some,
        Half.change?_eq_some]

/-- Who hears of a change is told by the task that made it, and listened then. -/
theorem exists_change (hD : D ∈ transcript ts) (hheard : heardOf h x D = some c) :
    ∃ E ∈ transcript ts, E.number = D.cause ∧ changeOf h E = some c ∧
      x ∈ (listenersOf h E).map (·.2) := by
  have htask := heardOf_eq_some.1 hheard
  have hnew : D.task ∉ ts.map Job.step := by simp [htask]
  obtain ⟨E, hE, hnumber, -, hmem⟩ := Machine.exists_cause_ledger hD hnew
  rw [htask] at hmem
  obtain ⟨t, v, ht, hv, hanswer, hsub, ha, hb⟩ := setting_of_mem_perform hmem
  refine ⟨E, hE, hnumber, changeOf_eq_some.2 ⟨?_, v, ?_, Prod.ext ha hb⟩, hsub⟩
  · simp [answerOf, ht, hanswer]
  · simpa [settingOf, ht] using hv

/-- A change is delivered to all who listen, in order. -/
theorem setOff_of_change (hE : E ∈ transcript ts) (hc : changeOf h E = some c) :
    (perform E.task E.before).1 =
      (listenersOf h E).map fun e => .deliver ⟨e.2, h.notice c.1 c.2⟩ := by
  obtain ⟨hanswer, v, hv, rfl⟩ := changeOf_eq_some.1 hc
  rcases setting_spec hE hv with ⟨-, hfalse, -⟩ | ⟨-, -, heq⟩
  · rw [hanswer] at hfalse
    cases hfalse
  · rw [heq]
    simp [Workspace.announce, Registry.subscribers, listenersOf]

theorem exists_first_heard (hE : E ∈ transcript ts) (hc : changeOf h E = some c)
    {e : Nat × Subscriber} (he : (listenersOf h E).head? = some e) :
    ∃ D ∈ transcript ts, D.number = E.number + 1 ∧ D.cause = E.number ∧
      heardOf h e.2 D = some c := by
  obtain ⟨rest, hrest⟩ := List.head?_eq_some_iff.1 he
  have hoff := setOff_of_change hE hc
  rw [hrest, List.map_cons] at hoff
  obtain ⟨D, hD, hnumber, hcause, htask⟩ := (told_program ts).exists_next hE hoff
  exact ⟨D, hD, hnumber, hcause, heardOf_eq_some.2 htask⟩

theorem nodup_listeners (hE : E ∈ transcript ts) : ((listenersOf h E).map (·.2)).Nodup := by
  have hE := recorded_upTo ts hE
  obtain ⟨held, hs⟩ := hE.sound
  exact hE.enrolled.nodup_subscribers hs h

/-- A subscriber hears of a change once. -/
theorem eq_of_heard (hE : E ∈ transcript ts) (hc : changeOf h E = some c)
    (hD : D ∈ transcript ts) (hF : F ∈ transcript ts) (hDE : D.cause = E.number)
    (hFE : F.cause = E.number) (hheardD : heardOf h x D = some c)
    (hheardF : heardOf h x F = some c) : D = F := by
  have htasks : (((transcript ts).filter (·.cause == E.number)).map (·.task)).Nodup := by
    rw [setOff_of_mem hE, setOff_of_change hE hc]
    have hnodup := (nodup_listeners (h := h) hE).map (f := fun y => Job.deliver ⟨y, h.notice c.1 c.2⟩)
      fun y z hyz => congrArg Delivery.subscriber (Job.deliver.inj hyz)
    rwa [List.map_map] at hnodup
  refine List.inj_on_of_nodup_map htasks (List.mem_filter.2 ⟨hD, by simp [hDE]⟩)
    (List.mem_filter.2 ⟨hF, by simp [hFE]⟩) ?_
  rw [heardOf_eq_some.1 hheardD, heardOf_eq_some.1 hheardF]

/-! ## Who listened before everybody else -/

/-- An entry that is there at the end was there from when it was made. -/
theorem mem_listeners_of_lt {e : Nat × Subscriber}
    (hend : e ∈ ((programLedger ts).state.workspace.registry h.channel).entries)
    (hE : E ∈ transcript ts)
    (hlt : e.1 < (E.before.workspace.registry h.channel).nextId) : e ∈ listenersOf h E :=
  (((recorded_program ts).grown E hE).registry h).mem_of_lt hend hlt

theorem lt_nextId_of_mem {e : Nat × Subscriber} (hE : E ∈ transcript ts)
    (he : e ∈ listenersOf h E) : e.1 < (E.before.workspace.registry h.channel).nextId := by
  obtain ⟨held, hs⟩ := (recorded_upTo ts hE).sound
  exact (hs.wired.ascending h.channel).below e he

theorem listens_on {e : Nat × Subscriber}
    (hend : e ∈ ((programLedger ts).state.workspace.registry h.channel).entries)
    (hE : E ∈ transcript ts) (hF : F ∈ transcript ts) (hle : E.number ≤ F.number)
    (he : e ∈ listenersOf h E) : e ∈ listenersOf h F := by
  have hgrown := (grown_between hE hF hle).registry h
  exact mem_listeners_of_lt hend hF
    (Nat.lt_of_lt_of_le (lt_nextId_of_mem hE he) hgrown.nextId_le)

/-- The lowest number stands at the head of the list. -/
theorem head?_of_lowest {e : Nat × Subscriber} (hE : E ∈ transcript ts) (he : e ∈ listenersOf h E)
    (hlow : ∀ e' ∈ listenersOf h E, e.1 ≤ e'.1) : (listenersOf h E).head? = some e := by
  obtain ⟨held, hs⟩ := (recorded_upTo ts hE).sound
  have hordered : (listenersOf h E).Pairwise fun a b => a.1 < b.1 :=
    (hs.wired.ascending h.channel).ordered
  cases hlist : listenersOf h E with
  | nil => rw [hlist] at he; cases he
  | cons a rest =>
      rw [hlist] at he hordered hlow
      rcases List.mem_cons.1 he with rfl | he
      · rfl
      · have hbefore := (List.pairwise_cons.1 hordered).1 e he
        have hafter := hlow a List.mem_cons_self
        omega

/-- Who subscribed before everybody else hears of each change at once. -/
theorem filterMap_heard {e : Nat × Subscriber}
    (hend : e ∈ ((programLedger ts).state.workspace.registry h.channel).entries)
    (hlow : ∀ E ∈ transcript ts, ∀ e' ∈ listenersOf h E, e.1 ≤ e'.1) :
    (transcript ts).filterMap (heardOf h e.2) =
      ((transcript ts).filter (e ∈ listenersOf h ·)).filterMap (changeOf h) := by
  rw [List.filterMap_filter]
  refine (told_program ts).filterMap_next (fun E hE c hc => ?_) fun D hD c hheard => ?_
  · -- a change that was made while it listened
    obtain ⟨he, hc⟩ := Option.ite_none_right_eq_some.1 hc
    have he : e ∈ listenersOf h E := by simpa using he
    obtain ⟨D, hD, hnumber, -, hheard⟩ :=
      exists_first_heard hE hc (head?_of_lowest hE he (hlow E hE))
    exact ⟨D, hD, hnumber, hheard⟩
  · obtain ⟨E, hE, hnumber, hc, hlistens⟩ := exists_change hD hheard
    obtain ⟨e', he', hsub⟩ := List.mem_map.1 hlistens
    -- somebody listened already, so the lowest number had been given out
    have he : e ∈ listenersOf h E := mem_listeners_of_lt hend hE
      (Nat.lt_of_le_of_lt (hlow E hE e' he') (lt_nextId_of_mem hE he'))
    obtain ⟨D', hD', hnumber', hcause', hheard'⟩ :=
      exists_first_heard hE hc (head?_of_lowest hE he (hlow E hE))
    -- it is told of the change once, so this is the time
    obtain rfl := eq_of_heard hE hc hD hD' hnumber.symm hcause' hheard hheard'
    exact ⟨E, hE, hnumber', by simp [he, hc]⟩

/-- Whatever is carried out on a new session, and whatever observers set when they are
told, every change of the selection is announced, and each half's changes form a chain. -/
theorem changes_announced (ts : List Step) :
    Announced ts (transcript ts) (({} : Session).applyAll ts) where
  numbered := (told_program ts).numbered
  program := machine.program_ledger ..
  added E hE key label searching htask := by
    refine ⟨?_, fun G hG hle => ?_⟩
    · rw [htask]
      exact (Table.get?_set ..).trans (if_pos rfl)
    · obtain ⟨held, hs⟩ := (recorded_upTo ts hG).sound
      have hnext := (grown_between hG hE hle).nextResult_le
      have hfresh : ∀ r, (G.before.workspace.results.get? r).isSome →
          r ≠ E.before.workspace.nextResult := by
        rintro r hr rfl
        exact Nat.lt_irrefl _ (Nat.lt_of_lt_of_le (hs.wired.result_lt _ hr) hnext)
      exact ⟨fun hr => hfresh _ (hs.wired.result_known _ hr) rfl,
        fun k hk => hfresh _ (hs.results k _ hk) rfl⟩
  answered E hE h v hv := by
    rcases setting_spec hE hv with ⟨hsame, hanswer, -⟩ | ⟨hdiffer, hanswer, -⟩
    · exact ⟨false, hanswer, by simp [hsame]⟩
    · exact ⟨true, hanswer, by simp [hdiffer]⟩
  refused E hE h v hv hfalse := by
    rcases setting_spec hE hv with ⟨-, -, heq⟩ | ⟨-, htrue, -⟩
    · refine ⟨heq, fun D hD hcause => ?_⟩
      have hoff := setOff_of_mem hE
      rw [heq, List.map_eq_nil_iff, List.filter_eq_nil_iff] at hoff
      exact hoff D hD (by simpa using hcause)
    · rw [hfalse] at htrue
      cases htrue
  announced E hE h v hv htrue := by
    have hc : changeOf h E = some (E.before.workspace.storedId h, v.map h.id) :=
      changeOf_eq_some.2 ⟨htrue, v, hv, rfl⟩
    rcases setting_spec hE hv with ⟨-, hfalse, -⟩ | ⟨-, -, heq⟩
    · rw [htrue] at hfalse
      cases hfalse
    · exact ⟨by rw [heq], (setOff_of_mem hE).trans (setOff_of_change hE hc), nodup_listeners hE⟩
  complete E hE h hnone := by
    have hsettled : E.before.workspace.effects = [] := (recorded_upTo ts hE).settled
    rcases stored_perform hsettled E.number E.cause E.task h with ⟨v, hsome, -⟩ | ⟨-, hsame⟩
    · exact absurd (hsome.symm.trans hnone) nofun
    · exact hsame
  attributed D hD h x c hheard := exists_change hD hheard
  called D hD h k c hheard := by
    obtain ⟨E, hE, hnumber, -, hlistens⟩ := exists_change hD hheard
    obtain ⟨⟨id, y⟩, he, rfl⟩ := List.mem_map.1 hlistens
    have hlt := (recorded_upTo ts hE).enrolled.lt h id k he
    have hcause := (told_program ts).cause_lt D hD
    have hle := (recorded_upTo ts hD).length_le E (Ledger.mem_upTo.2 ⟨hE, by omega⟩)
    have hk : k < D.before.callbacks.length := Nat.lt_of_lt_of_le hlt hle
    refine ⟨_, List.getElem?_eq_getElem hk, ?_⟩
    rw [heardOf_eq_some.1 hheard]
    show (D.before.tell k _).2.log = _
    simp [tell, List.getElem?_eq_getElem hk]
  chained h := state_programLedger ts ▸ (recorded_program ts).chained h
  chained_before h E hE := (recorded_upTo ts hE).chained h
  foremost E hE h c e hc he := exists_first_heard hE hc he
  leader h e hend hlow := by
    rw [← state_programLedger] at hend
    exact ⟨fun E hE F hF hle he => listens_on hend hE hF hle he, filterMap_heard hend hlow⟩

/-- Of two observers the first takes back what it is told of; the second hears of that
before it hears of what was taken back. -/
example : [0, 1].map (fun k => (transcript [.addResult "r" "R" false,
      .observe "a" .result (.onFirst 1 [.select none]), .observe "b" .result .silent,
      .select (some "r")]).filterMap (heardOf .result (.observer k))) =
    [[(none, some 1), (some 1, none)], [(some 1, none), (none, some 1)]] := by
  cbv

end Session

end DetailPanel
