import DetailPanel.Total

/-!
# Working off an agenda

A machine performs the tasks of an agenda from the front.  A task may bring
further tasks, which go before everything that was waiting: whatever a task
sets off is finished before the next task begins.

Tasks come in two kinds, told apart by their `work`.  A task with work uses
some of it up.  A task without work releases tasks with work that the state had
in store.  So the work in hand decreases, or it stays and the number of
workless tasks decreases, and every run ends.

    run (as ++ bs) s = run bs (run as s)                     (run_append)
    (∀ t s, P s → P (perform t s).2) → P s → P (run ts s)    (run_preserves)
-/

namespace DetailPanel

structure Machine (σ τ : Type) where
  /-- Carry a task out; the tasks it sets off come first. -/
  perform : τ → σ → List τ × σ
  work : τ → Nat
  /-- The work that the state has in store. -/
  store : σ → Nat
  perform_work : ∀ t s, 0 < work t →
    store (perform t s).2 + total work (perform t s).1 < store s + work t
  perform_workless : ∀ t s, work t = 0 →
    store (perform t s).2 + total work (perform t s).1 ≤ store s ∧
      ∀ u ∈ (perform t s).1, 0 < work u

namespace Machine

variable {σ τ : Type}

/-- The work of an agenda together with what the state has in store. -/
def inHand (m : Machine σ τ) (ts : List τ) (s : σ) : Nat := m.store s + total m.work ts

def workless (m : Machine σ τ) (ts : List τ) : Nat := (ts.filter fun t => m.work t == 0).length

theorem workless_append (m : Machine σ τ) (as bs : List τ) :
    m.workless (as ++ bs) = m.workless as + m.workless bs := by
  simp [workless]

theorem workless_eq_zero (m : Machine σ τ) {ts : List τ} (h : ∀ t ∈ ts, 0 < m.work t) :
    m.workless ts = 0 := by
  simp only [workless, List.length_eq_zero_iff, List.filter_eq_nil_iff, beq_iff_eq]
  intro t ht
  have := h t ht
  omega

theorem inHand_perform (m : Machine σ τ) (t : τ) (ts : List τ) (s : σ) (h : 0 < m.work t) :
    m.inHand ((m.perform t s).1 ++ ts) (m.perform t s).2 < m.inHand (t :: ts) s := by
  have := m.perform_work t s h
  simp only [inHand, total_append, total_cons]
  omega

theorem inHand_perform_workless (m : Machine σ τ) (t : τ) (ts : List τ) (s : σ)
    (h : m.work t = 0) :
    m.inHand ((m.perform t s).1 ++ ts) (m.perform t s).2 ≤ m.inHand (t :: ts) s := by
  have := (m.perform_workless t s h).1
  simp only [inHand, total_append, total_cons]
  omega

theorem workless_perform (m : Machine σ τ) (t : τ) (ts : List τ) (s : σ) (h : m.work t = 0) :
    m.workless ((m.perform t s).1 ++ ts) < m.workless (t :: ts) := by
  have hzero := m.workless_eq_zero (m.perform_workless t s h).2
  have hcons : m.workless (t :: ts) = m.workless ts + 1 := by simp [workless, h]
  rw [workless_append, hzero, hcons]
  omega

/-- Work the agenda off. -/
def run (m : Machine σ τ) : List τ → σ → σ
  | [], s => s
  | t :: ts, s => m.run ((m.perform t s).1 ++ ts) (m.perform t s).2
termination_by ts s => (m.inHand ts s, m.workless ts)
decreasing_by
  by_cases h : 0 < m.work t
  · exact Prod.Lex.left _ _ (m.inHand_perform t ts s h)
  · have h : m.work t = 0 := by omega
    rcases Nat.lt_or_ge (m.inHand ((m.perform t s).1 ++ ts) (m.perform t s).2)
      (m.inHand (t :: ts) s) with hlt | hge
    · exact Prod.Lex.left _ _ hlt
    · rw [Nat.le_antisymm (m.inHand_perform_workless t ts s h) hge]
      exact Prod.Lex.right _ (m.workless_perform t ts s h)

/-! ## Runs -/

@[simp] theorem run_nil (m : Machine σ τ) (s : σ) : m.run [] s = s := by
  rw [run]

theorem run_cons (m : Machine σ τ) (t : τ) (ts : List τ) (s : σ) :
    m.run (t :: ts) s = m.run ((m.perform t s).1 ++ ts) (m.perform t s).2 := by
  rw [run]

/-- What stands first on the agenda is finished, with all that it sets off,
before the rest begins. -/
theorem run_append (m : Machine σ τ) (as bs : List τ) (s : σ) :
    m.run (as ++ bs) s = m.run bs (m.run as s) := by
  fun_induction m.run as s with
  | case1 s => rfl
  | case2 t ts s ih => rw [List.cons_append, run_cons, ← List.append_assoc, ih]

theorem run_preserves (m : Machine σ τ) {P : σ → Prop}
    (h : ∀ t s, P s → P (m.perform t s).2) (ts : List τ) (s : σ) (hs : P s) : P (m.run ts s) := by
  fun_induction m.run ts s with
  | case1 s => exact hs
  | case2 t ts s ih => exact ih (h t s hs)

end Machine

end DetailPanel
