import Mathlib.Algebra.Order.Ring.Int
import Mathlib.Order.Lattice.Nat

/-!
# Runs of a machine with inputs

A step takes an input and a state. `after` is the state behind the first `n` inputs of a
sequence.
-/

namespace Machine

variable {σ ι : Type} (step : ι → σ → σ)

def after (s : σ) (inputs : Nat → ι) : Nat → σ
  | 0 => s
  | n + 1 => step (inputs n) (after s inputs n)

/-- The inputs behind the first `n`. -/
def behind (inputs : Nat → ι) (n : Nat) : Nat → ι := fun k => inputs (n + k)

variable {s : σ} {inputs : Nat → ι}

theorem after_add (m n : Nat) :
    after step s inputs (m + n) = after step (after step s inputs m) (behind inputs m) n := by
  induction n with
  | zero => rfl
  | succ n ih =>
    rw [← Nat.add_assoc, after, ih]
    rfl

omit step in
theorem behind_zero : behind inputs 0 = inputs := by
  funext k
  unfold behind
  rw [Nat.zero_add]

omit step in
theorem behind_add (m n : Nat) : behind (behind inputs m) n = behind inputs (m + n) := by
  funext k
  unfold behind
  rw [Nat.add_assoc]

theorem after_one_add (n : Nat) :
    after step s inputs (n + 1) = after step (step (inputs 0) s) (behind inputs 1) n := by
  rw [Nat.add_comm]
  exact after_add step 1 n

/-- What holds in all states before `m` steps, and in all states before `n` more. -/
theorem all_add {P : σ → Prop} {m n : Nat} (h : ∀ k < m, P (after step s inputs k))
    (h' : ∀ k < n, P (after step (after step s inputs m) (behind inputs m) k)) :
    ∀ k < m + n, P (after step s inputs k) := by
  intro k hk
  by_cases hkm : k < m
  · exact h k hkm
  · obtain ⟨l, rfl⟩ := Nat.exists_eq_add_of_le (Nat.le_of_not_lt hkm)
    rw [after_add]
    exact h' l (Nat.lt_of_add_lt_add_left hk)

/-- An invariant that steps keep when they meet a condition. -/
theorem after_invariant {I : σ → Prop} {C : ι → σ → Prop} (hinit : I s)
    (hstep : ∀ i t, I t → C i t → I (step i t)) {n : Nat} (hC : ∀ m < n, C (inputs m) (after step s inputs m)) :
    I (after step s inputs n) := by
  induction n with
  | zero => exact hinit
  | succ n ih =>
    have hrest : ∀ m < n, C (inputs m) (after step s inputs m) := fun m hm => hC m (Nat.lt_succ_of_lt hm)
    exact hstep _ _ (ih hrest) (hC n (Nat.lt_succ_self n))

/-- An invariant of all steps. -/
theorem after_always {I : σ → Prop} (hinit : I s) (hstep : ∀ i t, I t → I (step i t)) (n : Nat) :
    I (after step s inputs n) :=
  after_invariant step (C := fun _ _ => True) hinit (fun i t h _ => hstep i t h) fun _ _ => trivial

end Machine
