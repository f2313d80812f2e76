import DetailPanel.Region
import Mathlib.Data.List.Basic
import Mathlib.Data.List.Induction

/-!
# The log of a region

A new region is told to mount layouts and to close, in any order and as often as one
likes.  Its log alternates: the layouts are shown in the order in which they were
mounted, and each is closed before the next one is shown.  What keeps it so is that
closing the region now would always complete the alternation:

    log ++ (r.close).1 = alternating (mounted as)               (Told.completed)
-/

namespace DetailPanel.Region

/-- What a region is told to do. -/
inductive Action where
  | mount (layout : String)
  | close
  deriving DecidableEq, Repr

def act (r : Region) : Action → List Event × Region
  | .mount layout => r.mount layout
  | .close => r.close

/-- The log of a list of actions, and the region after them. -/
def run : List Action → Region → List Event × Region
  | [], r => ([], r)
  | a :: as, r => ((r.act a).1 ++ (run as (r.act a).2).1, (run as (r.act a).2).2)

def Event.layout : Event → String
  | .shown layout | .closed layout => layout

def Action.layout? : Action → Option String
  | .mount layout => some layout
  | .close => none

/-- The layouts that a list of actions mounts, in order. -/
def mounted (as : List Action) : List String := as.filterMap Action.layout?

/-- Each layout is shown and then closed, one layout after the other. -/
def alternating (ls : List String) : List Event := ls.flatMap fun l => [.shown l, .closed l]

variable {r : Region} {as : List Action} {ls : List String} {l name : String}

theorem alternating_concat :
    alternating (ls ++ [l]) = alternating ls ++ [.shown l] ++ [.closed l] := by
  simp [alternating]

theorem count_alternating (e : Event) : (alternating ls).count e = ls.count e.layout := by
  induction ls with
  | nil => rfl
  | cons l ls ih =>
      rw [alternating, List.flatMap_cons, List.count_append, ← alternating, ih]
      cases e with
      | shown k | closed k => by_cases hl : l = k <;> simp [Event.layout, hl, Nat.add_comm]

/-- An alternation that is complete ends with a layout being closed. -/
theorem getLast?_alternating (ls : List String) (l : String) :
    (alternating ls).getLast? ≠ some (.shown l) := by
  rcases List.eq_nil_or_concat' ls with rfl | ⟨ls, k, rfl⟩
  · simp [alternating]
  · simp [alternating_concat]

/-! ## Runs -/

theorem run_append (as bs : List Action) (r : Region) :
    run (as ++ bs) r =
      ((run as r).1 ++ (run bs (run as r).2).1, (run bs (run as r).2).2) := by
  induction as generalizing r with
  | nil => rfl
  | cons a as ih => simp [run, ih]

theorem run_concat (as : List Action) (a : Action) (r : Region) :
    run (as ++ [a]) r = ((run as r).1 ++ ((run as r).2.act a).1, ((run as r).2.act a).2) := by
  simp [run_append, run]

/-! ## What each action keeps -/

/-- What the log and the region after some actions have to do with each other. -/
structure Told (as : List Action) (log : List Event) (r : Region) : Prop where
  /-- Closing the region would complete the alternation. -/
  completed : log ++ r.close.1 = alternating (mounted as)
  mounts : r.mounts = (mounted as).length

theorem told_new (name : String) : Told [] [] { name } where
  completed := rfl
  mounts := rfl

theorem Told.act {log : List Event} (h : Told as log r) (a : Action) :
    Told (as ++ [a]) (log ++ (r.act a).1) (r.act a).2 := by
  cases a with
  | mount layout =>
      have hmounted : mounted (as ++ [.mount layout]) = mounted as ++ [layout] := by
        simp [mounted, Action.layout?]
      refine ⟨?_, ?_⟩
      · -- the layout before it is closed here, the new one stays open
        rw [hmounted, alternating_concat, ← h.completed]
        simp [Region.act, mount, close]
      · rw [hmounted, List.length_append, ← h.mounts]
        rfl
  | close =>
      have hmounted : mounted (as ++ [.close]) = mounted as := by
        simp [mounted, Action.layout?]
      refine ⟨?_, ?_⟩
      · rw [hmounted, ← h.completed]
        simp [Region.act, close]
      · rw [hmounted, ← h.mounts]
        rfl

theorem told_run (name : String) (as : List Action) :
    Told as (run as { name }).1 (run as { name }).2 := by
  induction as using List.reverseRecOn with
  | nil => exact told_new name
  | append_singleton as a ih =>
      rw [run_concat]
      exact ih.act a

namespace Told

variable {log : List Event}

theorem eq_alternating (h : Told as log r) (hr : r.current = none) :
    log = alternating (mounted as) := by
  simpa [close, hr] using h.completed

/-- Of the layout that is mounted only the closing is missing. -/
theorem exists_last (h : Told as log r) (hr : r.current = some l) :
    ∃ ls, mounted as = ls ++ [l] ∧ log = alternating ls ++ [.shown l] := by
  have hcompleted : log ++ [.closed l] = alternating (mounted as) := by
    simpa [close, hr] using h.completed
  rcases List.eq_nil_or_concat' (mounted as) with hnil | ⟨ls, k, hlast⟩
  · simp [hnil, alternating] at hcompleted
  · rw [hlast, alternating_concat] at hcompleted
    obtain ⟨hlog, hclosed⟩ := List.append_inj' hcompleted rfl
    obtain rfl : l = k := by simpa using hclosed
    exact ⟨ls, hlast, hlog⟩

theorem getLast?_eq (h : Told as log r) : log.getLast? = some (.shown l) ↔ r.current = some l := by
  cases hr : r.current with
  | none => simpa [h.eq_alternating hr] using getLast?_alternating (mounted as) l
  | some k =>
      obtain ⟨ls, -, rfl⟩ := h.exists_last hr
      simp

theorem count_add (h : Told as log r) (e : Event) :
    log.count e + r.close.1.count e = (mounted as).count e.layout := by
  rw [← List.count_append, h.completed, count_alternating]

theorem count_shown (h : Told as log r) (l : String) :
    log.count (.shown l) = (mounted as).count l := by
  have hnone : r.close.1.count (.shown l) = 0 := by
    simp [close, List.count_eq_zero]
  simpa [hnone, Event.layout] using h.count_add (.shown l)

theorem count_closed (h : Told as log r) (l : String) :
    log.count (.closed l) + (if r.current = some l then 1 else 0) = (mounted as).count l := by
  have hone : r.close.1.count (.closed l) = if r.current = some l then 1 else 0 := by
    cases hr : r.current with
    | none => simp [close, hr]
    | some k => by_cases hk : k = l <;> simp [close, hr, hk]
  simpa [hone, Event.layout] using h.count_add (.closed l)

end Told

/-! ## The life of a region -/

/-- Closing a region that is empty does nothing. -/
theorem close_of_none (hr : r.current = none) : r.close = ([], r) := by
  obtain ⟨name, current, mounts⟩ := r
  simp only at hr
  subst hr
  rfl

/-- The life of a new region: what is logged of some actions, and the region after them. -/
structure Life (name : String) (as : List Action) (log : List Event) (r : Region) : Prop where
  /-- If nothing is mounted, every layout was shown and closed before the next one was shown. -/
  vacant : r.current = none → log = alternating (mounted as)
  /-- If a layout is mounted, it is the last one, and it was shown after all others were closed. -/
  occupied : ∀ l, r.current = some l →
    ∃ ls, mounted as = ls ++ [l] ∧ log = alternating ls ++ [.shown l]
  last : ∀ l, log.getLast? = some (.shown l) ↔ r.current = some l
  /-- A layout is shown as often as it is mounted, … -/
  shown : ∀ l, log.count (.shown l) = (mounted as).count l
  /-- … and closed as often, once less if it still is mounted. -/
  closed : ∀ l, log.count (.closed l) + (if r.current = some l then 1 else 0) = (mounted as).count l
  mounts : r.mounts = (mounted as).length
  /-- Closing an empty region logs nothing. -/
  idle : ∀ before after, as = before ++ .close :: after →
    (run before { name }).2.current = none →
      run (before ++ [.close]) { name } = run before { name }

/-- Whatever a new region is told, its log alternates. -/
theorem run_alternates (name : String) (as : List Action) :
    Life name as (run as { name }).1 (run as { name }).2 := by
  have h := told_run name as
  refine ⟨h.eq_alternating, fun l => h.exists_last, fun l => h.getLast?_eq, h.count_shown,
    h.count_closed, h.mounts, ?_⟩
  intro before after _ hnone
  rw [run_concat]
  show ((run before { name }).1 ++ (run before { name }).2.close.1,
    (run before { name }).2.close.2) = _
  rw [close_of_none hnone, List.append_nil]

/-- A second layout closes the first, and closing twice is closing once. -/
example : (run [.close, .mount "a", .mount "b", .close, .close, .mount "c"] { name := "r" }).1 =
    [.shown "a", .closed "a", .shown "b", .closed "b", .shown "c"] := rfl

end DetailPanel.Region
