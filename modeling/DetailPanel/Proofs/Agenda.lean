import DetailPanel.Agenda
import Mathlib.Data.List.Chain
import Mathlib.Data.List.Nodup

/-!
# The record of a run

A machine that keeps a record works its agenda off like the machine itself and
notes each task with its number, with the number of the task that set it off,
and with the state that it found.

    recorded.run ends in the state of run                            (state_run)
    what R set off = those noted with R as their cause, in order     (Told.offspring)
    P before Q, both set off by the same: all that P sets off, and
      what that sets off in turn, comes before Q                     (Told.before_sibling)
    the first task that R sets off is the next to be performed       (Told.exists_next)
    P at the start, kept by every task → P of what each R found      (past_run)
-/

namespace DetailPanel

/-- A task as it was performed. -/
structure Performed (σ τ : Type) where
  /-- Its place in the record, from one on. -/
  number : Nat
  /-- The number of the task that set it off; zero if it was there from the start. -/
  cause : Nat
  task : τ
  before : σ

/-- A state together with the record of the tasks that led to it. -/
structure Ledger (σ τ : Type) where
  state : σ
  done : List (Performed σ τ) := []

/-- `P` set `R` off, directly or through others. -/
inductive Performed.SetsOff {σ τ : Type} (H : List (Performed σ τ)) (P : Performed σ τ) :
    Performed σ τ → Prop
  | directly {R : Performed σ τ} (hR : R ∈ H) (hc : R.cause = P.number) : SetsOff H P R
  | onward {Q R : Performed σ τ} (hQ : SetsOff H P Q) (hR : R ∈ H) (hc : R.cause = Q.number) :
      SetsOff H P R

namespace Ledger

variable {σ τ : Type}

/-- The number of the task that is performed next. -/
def next (L : Ledger σ τ) : Nat := L.done.length + 1

/-- The ledger that `R` was added to. -/
def upTo (L : Ledger σ τ) (R : Performed σ τ) : Ledger σ τ :=
  { state := R.before, done := L.done.filter (·.number < R.number) }

theorem mem_upTo {L : Ledger σ τ} {R G : Performed σ τ} :
    G ∈ (L.upTo R).done ↔ G ∈ L.done ∧ G.number < R.number := by
  simp [upTo]

/-- What the task of a number set off, performed or waiting in `ts`; for zero,
what was on the agenda from the start. -/
def setOff (L : Ledger σ τ) (n : Nat) (ts : List (Nat × τ)) : List τ :=
  (L.done.filter (·.cause == n)).map (·.task) ++ (ts.filter (·.1 == n)).map (·.2)

end Ledger

/-- If each element shows what the one before it has, what the elements have is what
they show, and what the last one has. -/
theorem filterMap_shift {α β : Type} {f g : α → Option β} {a : α} {l : List α}
    (h : (a :: l).IsChain fun x y => g y = f x) :
    (a :: l).filterMap f = l.filterMap g ++ (f ((a :: l).getLast (List.cons_ne_nil a l))).toList := by
  induction l generalizing a with
  | nil => cases hf : f a <;> simp [hf]
  | cons b l ih =>
      obtain ⟨hab, hbl⟩ := List.isChain_cons_cons.1 h
      rw [List.getLast_cons_cons, List.filterMap_cons, ih hbl, List.filterMap_cons (l := l), hab]
      cases f a <;> rfl

namespace Machine

variable {σ τ : Type}

/-- An agenda and a state that have a property, kept whenever the first task is
performed, still have it when the agenda is worked off. -/
theorem run_keeps (m : Machine σ τ) {P : List τ → σ → Prop}
    (h : ∀ t ts s, P (t :: ts) s → P ((m.perform t s).1 ++ ts) (m.perform t s).2)
    (ts : List τ) (s : σ) (hs : P ts s) : P [] (m.run ts s) := by
  fun_induction m.run ts s with
  | case1 s => exact hs
  | case2 t ts s ih => exact ih (h t ts s hs)

/-- The machine that keeps a record.  A task carries the number of its cause. -/
def recorded (m : Machine σ τ) : Machine (Ledger σ τ) (Nat × τ) where
  perform e L :=
    ((m.perform e.2 L.state).1.map (L.next, ·),
      { state := (m.perform e.2 L.state).2
        done := L.done ++ [⟨L.next, e.1, e.2, L.state⟩] })
  work e := m.work e.2
  store L := m.store L.state
  perform_work e L h := by
    simpa [total_map] using m.perform_work e.2 L.state h
  perform_workless e L h := by
    obtain ⟨hle, hall⟩ := m.perform_workless e.2 L.state h
    refine ⟨by simpa [total_map] using hle, ?_⟩
    intro u hu
    obtain ⟨t, ht, rfl⟩ := List.mem_map.1 hu
    exact hall t ht

/-- The ledger of an agenda worked off from a state, nothing having been noted before. -/
def ledger (m : Machine σ τ) (ts : List τ) (s : σ) : Ledger σ τ :=
  m.recorded.run (ts.map (0, ·)) { state := s }

variable {m : Machine σ τ} {L : Ledger σ τ} {e : Nat × τ}

@[simp] theorem done_recorded :
    (m.recorded.perform e L).2.done = L.done ++ [⟨L.next, e.1, e.2, L.state⟩] := rfl

@[simp] theorem next_recorded : (m.recorded.perform e L).2.next = L.next + 1 := by
  simp [Ledger.next]

theorem number_lt_recorded (h : ∀ R ∈ L.done, R.number < L.next) :
    ∀ R ∈ (m.recorded.perform e L).2.done, R.number < (m.recorded.perform e L).2.next := by
  intro R hR
  rw [next_recorded]
  rcases List.mem_append.1 hR with hR | hR
  · exact Nat.lt_succ_of_lt (h R hR)
  · obtain rfl := List.mem_singleton.1 hR
    exact Nat.lt_succ_self _

theorem map_snd_label (n : Nat) (ts : List τ) : (ts.map (n, ·)).map (·.2) = ts := by
  simp [Function.comp_def]

/-- Keeping a record changes nothing. -/
theorem state_run (ts : List (Nat × τ)) (L : Ledger σ τ) :
    (m.recorded.run ts L).state = m.run (ts.map (·.2)) L.state := by
  fun_induction m.recorded.run ts L with
  | case1 L => simp
  | case2 e ts L ih =>
      rw [ih, List.map_append, List.map_cons, run_cons]
      simp only [recorded, map_snd_label]

theorem state_ledger (ts : List τ) (s : σ) : (m.ledger ts s).state = m.run ts s := by
  rw [ledger, state_run, map_snd_label]

/-! ## What the ledgers on the way satisfied -/

theorem upTo_recorded {R : Performed σ τ} (hR : R.number < L.next) :
    (m.recorded.perform e L).2.upTo R = L.upTo R := by
  have hnew : ¬ L.next < R.number := by omega
  simp [Ledger.upTo, hnew]

theorem upTo_recorded_self (h : ∀ R ∈ L.done, R.number < L.next) :
    (m.recorded.perform e L).2.upTo ⟨L.next, e.1, e.2, L.state⟩ = L := by
  have hall : L.done.filter (·.number < L.next) = L.done := by simpa using h
  simp [Ledger.upTo, hall]

/-- A property of ledgers that every task keeps held of each ledger that a task was added to. -/
theorem past_run {P : Ledger σ τ → Prop} (h : ∀ e L, P L → P (m.recorded.perform e L).2)
    (ts : List τ) (s : σ) (hs : P { state := s }) :
    ∀ R ∈ (m.ledger ts s).done, P ((m.ledger ts s).upTo R) := by
  suffices hall : P (m.ledger ts s) ∧ (∀ R ∈ (m.ledger ts s).done, R.number < (m.ledger ts s).next) ∧
      ∀ R ∈ (m.ledger ts s).done, P ((m.ledger ts s).upTo R) from hall.2.2
  refine m.recorded.run_preserves
    (P := fun L => P L ∧ (∀ R ∈ L.done, R.number < L.next) ∧ ∀ R ∈ L.done, P (L.upTo R))
    ?_ _ _ ⟨hs, by simp, by simp⟩
  intro e L ⟨hL, hlt, hpast⟩
  refine ⟨h e L hL, number_lt_recorded hlt, fun R hR => ?_⟩
  rcases List.mem_append.1 hR with hR | hR
  · rw [upTo_recorded (hlt R hR)]
    exact hpast R hR
  · obtain rfl := List.mem_singleton.1 hR
    rw [upTo_recorded_self hlt]
    exact hL

/-! ## What the record tells -/

/-- A task that is performed moves from those waiting to those noted. -/
theorem setOff_perform {n : Nat} {ts : List (Nat × τ)} (hn : n ≠ L.next) :
    (m.recorded.perform e L).2.setOff n ((m.recorded.perform e L).1 ++ ts) =
      L.setOff n (e :: ts) := by
  have hkids : (m.recorded.perform e L).1.filter (·.1 == n) = [] := by
    refine List.filter_eq_nil_iff.2 fun a ha => ?_
    obtain ⟨t, -, rfl⟩ := List.mem_map.1 ha
    simpa using hn.symm
  simp only [Ledger.setOff, done_recorded, List.filter_append, hkids, List.nil_append]
  by_cases he : e.1 = n
  · simp [he]
  · simp [he]

theorem setOff_ledger (m : Machine σ τ) (ts : List τ) (s : σ) :
    (m.ledger ts s).setOff 0 [] = ts := by
  refine m.recorded.run_keeps (P := fun ts' L => L.setOff 0 ts' = ts) ?_ _ _ ?_
  · intro e ts' L h
    rwa [setOff_perform (by simp [Ledger.next])]
  · simp [Ledger.setOff, List.filter_map, Function.comp_def]

/-- What the record tells, while `ts` is waiting.  The numbers are the places, and
a cause comes before its effect; what a task set off has been performed or is
waiting, in order; and a task is performed before those that were waiting when
it was set off. -/
structure Told (m : Machine σ τ) (ts : List (Nat × τ)) (L : Ledger σ τ) : Prop where
  numbered : L.done.map (·.number) = List.range' 1 L.done.length
  cause_lt : ∀ R ∈ L.done, R.cause < R.number
  label_lt : ∀ e ∈ ts, e.1 < L.next
  stacked : ts.Pairwise fun a b => b.1 ≤ a.1
  offspring : ∀ R ∈ L.done, L.setOff R.number ts = (m.perform R.task R.before).1
  nested : ∀ Q ∈ L.done, ∀ R ∈ L.done,
    Q.number < R.number → R.cause < Q.number → R.cause ≤ Q.cause
  waiting : ∀ Q ∈ L.done, ∀ e ∈ ts, e.1 < Q.number → e.1 ≤ Q.cause

namespace Told

variable {ts : List (Nat × τ)}

theorem start (m : Machine σ τ) (ts : List τ) (s : σ) :
    m.Told (ts.map (0, ·)) { state := s } where
  numbered := rfl
  cause_lt := by simp
  label_lt := by simp [Ledger.next]
  stacked := List.pairwise_map.2 (List.pairwise_of_forall fun _ _ => Nat.le_refl 0)
  offspring := by simp
  nested := by simp
  waiting := by simp

theorem number_lt (h : m.Told ts L) : ∀ R ∈ L.done, R.number < L.next := by
  intro R hR
  have hmem : R.number ∈ L.done.map (·.number) := List.mem_map_of_mem hR
  rw [h.numbered, List.mem_range'_1] at hmem
  rw [Ledger.next]
  omega

/-- Nothing that is noted or waiting has been set off by the task to come. -/
theorem setOff_next (h : m.Told ts L) : L.setOff L.next ts = [] := by
  have hdone : ∀ R ∈ L.done, R.cause ≠ L.next := by
    intro R hR
    have hc := h.cause_lt R hR
    have hn := h.number_lt R hR
    omega
  have hts : ∀ a ∈ ts, a.1 ≠ L.next := fun a ha => Nat.ne_of_lt (h.label_lt a ha)
  have hdone : L.done.filter (·.cause == L.next) = [] := by simpa using hdone
  have hts : ts.filter (·.1 == L.next) = [] := by simpa using hts
  rw [Ledger.setOff, hdone, hts]
  rfl

theorem perform (h : m.Told (e :: ts) L) :
    m.Told ((m.recorded.perform e L).1 ++ ts) (m.recorded.perform e L).2 where
  numbered := by
    simp [h.numbered, List.range'_concat, Ledger.next, Nat.add_comm]
  cause_lt := by
    intro R hR
    rcases List.mem_append.1 hR with hR | hR
    · exact h.cause_lt R hR
    · obtain rfl := List.mem_singleton.1 hR
      exact h.label_lt e List.mem_cons_self
  label_lt := by
    intro a ha
    rw [next_recorded]
    rcases List.mem_append.1 ha with ha | ha
    · obtain ⟨t, -, rfl⟩ := List.mem_map.1 ha
      exact Nat.lt_succ_self _
    · exact Nat.lt_succ_of_lt (h.label_lt a (List.mem_cons_of_mem e ha))
  stacked := by
    refine List.pairwise_append.2 ⟨?_, (List.pairwise_cons.1 h.stacked).2, ?_⟩
    · exact List.pairwise_map.2 (List.pairwise_of_forall fun _ _ => Nat.le_refl _)
    · intro a ha b hb
      obtain ⟨t, -, rfl⟩ := List.mem_map.1 ha
      exact Nat.le_of_lt (h.label_lt b (List.mem_cons_of_mem e hb))
  offspring := by
    intro R hR
    rcases List.mem_append.1 hR with hR | hR
    · rw [setOff_perform (Nat.ne_of_lt (h.number_lt R hR))]
      exact h.offspring R hR
    · -- the new record: nobody else has set anything off under its number
      obtain rfl := List.mem_singleton.1 hR
      have hnext := h.setOff_next
      simp only [Ledger.setOff, List.append_eq_nil_iff, List.map_eq_nil_iff] at hnext
      obtain ⟨hdone, hts⟩ := hnext
      obtain ⟨hself, hts⟩ : e.1 ≠ L.next ∧ ts.filter (·.1 == L.next) = [] := by simpa using hts
      simp [Ledger.setOff, hdone, hts, hself, recorded, List.filter_map, Function.comp_def]
  nested := by
    intro Q hQ R hR hlt hcause
    rcases List.mem_append.1 hQ with hQ | hQ <;> rcases List.mem_append.1 hR with hR | hR
    · exact h.nested Q hQ R hR hlt hcause
    · obtain rfl := List.mem_singleton.1 hR
      exact h.waiting Q hQ e List.mem_cons_self hcause
    · obtain rfl := List.mem_singleton.1 hQ
      exact absurd (h.number_lt R hR) (Nat.not_lt_of_gt hlt)
    · obtain rfl := List.mem_singleton.1 hQ
      obtain rfl := List.mem_singleton.1 hR
      exact absurd hlt (Nat.lt_irrefl _)
  waiting := by
    intro Q hQ a ha hlt
    rcases List.mem_append.1 hQ with hQ | hQ <;> rcases List.mem_append.1 ha with ha | ha
    · obtain ⟨t, -, rfl⟩ := List.mem_map.1 ha
      exact absurd (h.number_lt Q hQ) (Nat.not_lt_of_gt hlt)
    · exact h.waiting Q hQ a (List.mem_cons_of_mem e ha) hlt
    · obtain ⟨t, -, rfl⟩ := List.mem_map.1 ha
      obtain rfl := List.mem_singleton.1 hQ
      exact absurd hlt (Nat.lt_irrefl _)
    · obtain rfl := List.mem_singleton.1 hQ
      exact (List.pairwise_cons.1 h.stacked).1 a ha

theorem run (h : m.Told ts L) : m.Told [] (m.recorded.run ts L) :=
  m.recorded.run_keeps (P := m.Told) (fun _ _ _ h => h.perform) ts L h

/-! ## Once everything is done -/

variable {P Q R : Performed σ τ}

theorem setOff_eq (h : m.Told [] L) (hR : R ∈ L.done) :
    (L.done.filter (·.cause == R.number)).map (·.task) = (m.perform R.task R.before).1 := by
  rw [← h.offspring R hR]
  simp [Ledger.setOff]

theorem mem_setOff (h : m.Told [] L) (hP : P ∈ L.done) (hR : R ∈ L.done)
    (hcause : R.cause = P.number) : R.task ∈ (m.perform P.task P.before).1 := by
  rw [← h.setOff_eq hP]
  exact List.mem_map_of_mem (List.mem_filter.2 ⟨hR, by simpa using hcause⟩)

/-- A number stands for one record. -/
theorem eq_of_number (h : m.Told ts L) (hQ : Q ∈ L.done) (hR : R ∈ L.done)
    (hn : Q.number = R.number) : Q = R := by
  have hnd : (L.done.map (·.number)).Nodup := by
    rw [h.numbered]
    exact List.nodup_range'
  exact List.inj_on_of_nodup_map hnd hQ hR hn

theorem pairwise_number (h : m.Told ts L) : L.done.Pairwise fun P Q => P.number < Q.number := by
  have hnumbers := List.pairwise_lt_range' (s := 1) (n := L.done.length) 1
  rw [← h.numbered] at hnumbers
  exact List.pairwise_map.1 hnumbers

/-- The numbers go up to that of the last task. -/
theorem exists_number (h : m.Told ts L) {n : Nat} (hpos : 0 < n) (hlt : n < L.next) :
    ∃ R ∈ L.done, R.number = n := by
  rw [Ledger.next] at hlt
  have hmem : n ∈ L.done.map (·.number) := by
    rw [h.numbered, List.mem_range'_1]
    omega
  exact List.mem_map.1 hmem

/-- Nothing comes of itself: what has a cause was set off by a task of the record. -/
theorem exists_cause (h : m.Told ts L) (hR : R ∈ L.done) (hc : R.cause ≠ 0) :
    ∃ Q ∈ L.done, Q.number = R.cause :=
  h.exists_number (Nat.pos_of_ne_zero hc) (Nat.lt_trans (h.cause_lt R hR) (h.number_lt R hR))

/-- What `P` set off in turn sets its own off before `Q`, if `Q` was waiting with `P`. -/
theorem effect_before (h : m.Told ts L) (hQ : Q ∈ L.done) (hR : R ∈ L.done)
    (hcause : Q.cause < R.cause) (hlt : R.cause < Q.number) : R.number < Q.number := by
  rcases Nat.lt_trichotomy R.number Q.number with hn | hn | hn
  · exact hn
  · obtain rfl := h.eq_of_number hR hQ hn
    exact absurd hcause (Nat.lt_irrefl _)
  · have := h.nested Q hQ R hR hn hlt
    omega

/-- Two tasks set off together are performed one after the other, each with
all that it sets off. -/
theorem before_sibling (h : m.Told ts L) (hP : P ∈ L.done) (hQ : Q ∈ L.done)
    (hcause : P.cause = Q.cause) (hlt : P.number < Q.number)
    (hR : Performed.SetsOff L.done P R) : P.number < R.number ∧ R.number < Q.number := by
  have hPc := h.cause_lt P hP
  induction hR with
  | directly hR hc =>
      have hRc := h.cause_lt _ hR
      exact ⟨by omega, h.effect_before hQ hR (by omega) (by omega)⟩
  | onward _ hR hc ih =>
      have hRc := h.cause_lt _ hR
      exact ⟨by omega, h.effect_before hQ hR (by omega) (by omega)⟩

/-- The first task that a task sets off is the next to be performed. -/
theorem exists_next (h : m.Told [] L) (hR : R ∈ L.done) {t : τ} {us : List τ}
    (ht : (m.perform R.task R.before).1 = t :: us) :
    ∃ D ∈ L.done, D.number = R.number + 1 ∧ D.cause = R.number ∧ D.task = t := by
  have hoff := h.setOff_eq hR
  rw [ht, List.map_eq_cons_iff] at hoff
  obtain ⟨D, Ds, hfilter, hD, -⟩ := hoff
  have hmem : D ∈ L.done.filter (·.cause == R.number) := by simp [hfilter]
  obtain ⟨hmem, hcause⟩ := List.mem_filter.1 hmem
  have hcause : D.cause = R.number := by simpa using hcause
  refine ⟨D, hmem, ?_, hcause, hD⟩
  have hlt := h.cause_lt D hmem
  -- were another task performed in between, it would not have been waiting before `D`
  by_contra hne
  obtain ⟨Q, hQ, hnumber⟩ := h.exists_number (n := R.number + 1) (Nat.succ_pos _)
    (Nat.lt_trans (by omega) (h.number_lt D hmem))
  have hQlt := h.cause_lt Q hQ
  rcases Nat.lt_or_ge Q.cause R.number with hbefore | hge
  · have := h.effect_before hQ hmem (by omega) (by omega)
    omega
  · have hQmem : Q ∈ D :: Ds := by
      rw [← hfilter]
      exact List.mem_filter.2 ⟨hQ, by simp; omega⟩
    have hsorted := h.pairwise_number.filter (·.cause == R.number)
    rw [hfilter] at hsorted
    rcases List.mem_cons.1 hQmem with rfl | hQmem
    · exact hne hnumber
    · have := (List.pairwise_cons.1 hsorted).1 Q hQmem
      omega

/-- What a record holds in one respect the next one holds in another: all together
they hold the same. -/
theorem filterMap_next (h : m.Told [] L) {β : Type} {f g : Performed σ τ → Option β}
    (hnext : ∀ R ∈ L.done, ∀ b, f R = some b →
      ∃ D ∈ L.done, D.number = R.number + 1 ∧ g D = some b)
    (hback : ∀ D ∈ L.done, ∀ b, g D = some b →
      ∃ R ∈ L.done, D.number = R.number + 1 ∧ f R = some b) :
    L.done.filterMap g = L.done.filterMap f := by
  have hchain : L.done.IsChain fun x y => g y = f x := by
    have hnumbers := List.isChain_range' 1 L.done.length 1
    rw [← h.numbered, List.isChain_map] at hnumbers
    refine hnumbers.imp_of_mem_imp fun x y hx hy hxy => Option.ext fun b => ⟨fun hb => ?_, fun hb => ?_⟩
    · obtain ⟨R, hR, hnumber, hfR⟩ := hback y hy b hb
      obtain rfl := h.eq_of_number hx hR (by omega)
      exact hfR
    · obtain ⟨D, hD, hnumber, hgD⟩ := hnext x hx b hb
      obtain rfl := h.eq_of_number hy hD (by omega)
      exact hgD
  have hsorted := h.pairwise_number
  cases hdone : L.done with
  | nil => rfl
  | cons a l =>
      rw [hdone] at hchain hsorted hnext hback
      have hfirst : g a = none := by
        refine Option.eq_none_iff_forall_ne_some.2 fun b hb => ?_
        obtain ⟨R, hR, hnumber, -⟩ := hback a List.mem_cons_self b hb
        rcases List.mem_cons.1 hR with rfl | hR
        · omega
        · have := (List.pairwise_cons.1 hsorted).1 R hR
          omega
      have hlast : f ((a :: l).getLast (List.cons_ne_nil a l)) = none := by
        refine Option.eq_none_iff_forall_ne_some.2 fun b hb => ?_
        obtain ⟨D, hD, hnumber, -⟩ := hnext _ (List.getLast_mem _) b hb
        have : Std.Refl fun P Q : Performed σ τ => P.number ≤ Q.number := ⟨fun _ => Nat.le_refl _⟩
        have := (hsorted.imp Nat.le_of_lt).rel_getLast hD
        omega
      rw [filterMap_shift hchain, hlast, List.filterMap_cons, hfirst, Option.toList_none,
        List.append_nil]

end Told

theorem told_ledger (m : Machine σ τ) (ts : List τ) (s : σ) : m.Told [] (m.ledger ts s) :=
  (Told.start m ts s).run

/-- What nothing else sets off was on the agenda from the start. -/
theorem program_ledger (m : Machine σ τ) (ts : List τ) (s : σ) :
    ((m.ledger ts s).done.filter (·.cause == 0)).map (·.task) = ts := by
  simpa [Ledger.setOff] using m.setOff_ledger ts s

/-- What was not on the agenda from the start was set off by a task of the record. -/
theorem exists_cause_ledger {ts : List τ} {s : σ} {R : Performed σ τ}
    (hR : R ∈ (m.ledger ts s).done) (hnew : R.task ∉ ts) :
    ∃ Q ∈ (m.ledger ts s).done, Q.number = R.cause ∧ Q.number < R.number ∧
      R.task ∈ (m.perform Q.task Q.before).1 := by
  have htold := m.told_ledger ts s
  have hroot : R.cause ≠ 0 := by
    intro hzero
    refine hnew ?_
    rw [← m.program_ledger ts s]
    exact List.mem_map_of_mem (List.mem_filter.2 ⟨hR, by simpa using hzero⟩)
  obtain ⟨Q, hQ, hnumber⟩ := htold.exists_cause hR hroot
  have hlt := htold.cause_lt R hR
  exact ⟨Q, hQ, hnumber, hnumber ▸ hlt, htold.mem_setOff hQ hR hnumber.symm⟩

end Machine

end DetailPanel
