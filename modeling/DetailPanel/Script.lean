import DetailPanel.Total

/-!
# Scripts of callbacks

What a callback does may differ from call to call.  A script lists, in phases,
how many of the next calls run which program; after the last phase a call runs
nothing.
-/

namespace DetailPanel

inductive Script (α : Type) where
  | silent
  /-- The next `calls` calls run `program` each, those after them follow `rest`. -/
  | phase (calls : Nat) (program : List α) (rest : Script α)

namespace Script

variable {α : Type}

instance : Inhabited (Script α) := ⟨.silent⟩

/-- The program of the next call, and the script of the calls after it. -/
def next : Script α → List α × Script α
  | .silent => ([], .silent)
  | .phase 0 _ rest => next rest
  | .phase (n + 1) program rest => (program, .phase n program rest)

/-- Run one program on each of the first calls. -/
def onFirst (calls : Nat) (program : List α) : Script α := .phase calls program .silent

/-- The weight of all calls together, where `w` weighs one step. -/
def weight (w : α → Nat) : Script α → Nat
  | .silent => 0
  | .phase calls program rest => calls * total w program + weight w rest

/-- A call takes its program out of the script and nothing else. -/
theorem weight_next (w : α → Nat) (s : Script α) :
    s.next.2.weight w + total w s.next.1 = s.weight w := by
  fun_induction next s with
  | case1 => rfl
  | case2 program rest ih => simpa [weight] using ih
  | case3 n program rest =>
      simp only [weight, Nat.succ_mul]
      omega

end Script

end DetailPanel
