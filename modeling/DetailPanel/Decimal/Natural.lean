/-!
# Natural numbers in decimal

`digits n` writes a number with no leading zero, `value` reads a list of
digits.  Reading what was written gives the number back: `value_digits`.
-/

namespace DetailPanel.Decimal

def digitChar (d : Nat) : Char := Char.ofNat (48 + d)

def digitValue (c : Char) : Nat := c.toNat - 48

def digits (n : Nat) : List Char :=
  if n < 10 then [digitChar n] else digits (n / 10) ++ [digitChar (n % 10)]

/-- The number that digits write after a number `n`. -/
def valueFrom (n : Nat) (cs : List Char) : Nat := cs.foldl (fun v c => 10 * v + digitValue c) n

def value (cs : List Char) : Nat := valueFrom 0 cs

def text (n : Nat) : String := String.ofList (digits n)

/-! ## Reading back -/

theorem digitChar_cases : ∀ d, d < 10 →
    digitValue (digitChar d) = d ∧ (digitChar d).isDigit = true := by
  decide

theorem value_digits (n : Nat) : value (digits n) = n := by
  rw [digits]
  split
  · rename_i h
    simp [value, valueFrom, (digitChar_cases n h).1]
  · have ih := value_digits (n / 10)
    have hd := (digitChar_cases (n % 10) (Nat.mod_lt _ (by omega))).1
    simp only [value, valueFrom, List.foldl_append, List.foldl_cons, List.foldl_nil] at ih ⊢
    rw [ih, hd]
    omega
termination_by n
decreasing_by omega

theorem isDigit_of_mem_digits (n : Nat) : ∀ c ∈ digits n, c.isDigit = true := by
  rw [digits]
  split
  · rename_i h
    simpa using (digitChar_cases n h).2
  · intro c hc
    rcases List.mem_append.1 hc with hc | hc
    · exact isDigit_of_mem_digits (n / 10) c hc
    · obtain rfl := List.mem_singleton.1 hc
      exact (digitChar_cases (n % 10) (Nat.mod_lt _ (by omega))).2
termination_by n
decreasing_by omega

theorem digits_ne_nil (n : Nat) : digits n ≠ [] := by
  rw [digits]
  split <;> simp

end DetailPanel.Decimal
