import Mathlib.Algebra.Order.Ring.Int
import Mathlib.Order.Lattice.Nat
import Mathlib.Algebra.BigOperators.Group.List.Basic

/-!
# One's complement sums

Addition of `w`-bit numbers with an end-around carry. A sum is the sum of the numbers modulo
`2 ^ w - 1`, where a sum that is not zero has the representative `2 ^ w - 1` for 0.
-/

namespace OnesComplement

variable (w : Nat)

/-- The largest number of `w` bits. -/
def ones : Nat := 2 ^ w - 1

/-- A carry out of the top is added at the bottom. -/
def add (x y : Nat) : Nat := (x + y) % 2 ^ w + (x + y) / 2 ^ w

def sum (start : Nat) (xs : List Nat) : Nat := xs.foldl (add w) start

/-- The representative of `n` that a sum has. -/
def reduce (n : Nat) : Nat := if n = 0 then 0 else (n - 1) % ones w + 1

variable {w}

theorem ones_lt : ones w < 2 ^ w := by
  have := Nat.two_pow_pos w
  unfold ones
  omega

theorem toNat_le_ones (x : BitVec w) : x.toNat ≤ ones w := Nat.le_sub_one_of_lt x.isLt

theorem add_of_le {x y : Nat} (h : x + y ≤ ones w) : add w x y = x + y := by
  have := ones_lt (w := w)
  unfold add
  rw [Nat.mod_eq_of_lt (by omega), Nat.div_eq_of_lt (by omega), Nat.add_zero]

/-- The carry as a subtraction. -/
theorem add_of_lt {x y : Nat} (hx : x ≤ ones w) (hy : y ≤ ones w) (h : ones w < x + y) :
    add w x y = x + y - ones w := by
  have hpos := Nat.two_pow_pos w
  unfold ones at *
  obtain ⟨s, hs⟩ : ∃ s, x + y = s + 2 ^ w := ⟨x + y - 2 ^ w, by omega⟩
  unfold add
  rw [hs, Nat.add_mod_right, Nat.add_div_right s hpos, Nat.mod_eq_of_lt (by omega), Nat.div_eq_of_lt (by omega)]
  omega

theorem add_le {x y : Nat} (hx : x ≤ ones w) (hy : y ≤ ones w) : add w x y ≤ ones w := by
  by_cases h : x + y ≤ ones w
  · rw [add_of_le h]
    exact h
  · rw [add_of_lt hx hy (by omega)]
    omega

theorem sum_le {start : Nat} {xs : List Nat} (hs : start ≤ ones w) (hxs : ∀ x ∈ xs, x ≤ ones w) :
    sum w start xs ≤ ones w := by
  induction xs generalizing start with
  | nil => exact hs
  | cons x xs ih =>
    exact ih (add_le hs (hxs x List.mem_cons_self)) fun y hy => hxs y (List.mem_cons_of_mem x hy)

/-! ## The representative -/

theorem reduce_of_le {n : Nat} (h : n ≤ ones w) : reduce w n = n := by
  unfold reduce
  by_cases hn : n = 0
  · rw [if_pos hn, hn]
  · rw [if_neg hn, Nat.mod_eq_of_lt (by omega)]
    omega

theorem reduce_add_ones {n : Nat} (hn : n ≠ 0) : reduce w (n + ones w) = reduce w n := by
  unfold reduce
  rw [if_neg (by omega), if_neg hn, show n + ones w - 1 = n - 1 + ones w by omega, Nat.add_mod_right]

/-- A number and its representative differ by a multiple of `2 ^ w - 1`. -/
theorem reduce_spec (n : Nat) : ∃ k, n = reduce w n + ones w * k := by
  unfold reduce
  by_cases hn : n = 0
  · exact ⟨0, by rw [if_pos hn, hn, Nat.mul_zero]⟩
  · refine ⟨(n - 1) / ones w, ?_⟩
    have := Nat.mod_add_div (n - 1) (ones w)
    rw [if_neg hn]
    omega

theorem reduce_add_mul {n : Nat} (hn : n ≠ 0) (k : Nat) : reduce w (n + ones w * k) = reduce w n := by
  induction k with
  | zero => rfl
  | succ k ih => rw [Nat.mul_succ, ← Nat.add_assoc, reduce_add_ones (by omega), ih]

theorem add_eq_reduce {x y : Nat} (hx : x ≤ ones w) (hy : y ≤ ones w) : add w x y = reduce w (x + y) := by
  by_cases h : x + y ≤ ones w
  · rw [add_of_le h, reduce_of_le h]
  · have hlt : ones w < x + y := by omega
    obtain ⟨n, hn⟩ : ∃ n, x + y = n + ones w := ⟨x + y - ones w, by omega⟩
    rw [add_of_lt hx hy hlt, hn, reduce_add_ones (by omega), Nat.add_sub_cancel, reduce_of_le (by omega)]

theorem reduce_ne_zero {n : Nat} (hn : n ≠ 0) : reduce w n ≠ 0 := by
  unfold reduce
  rw [if_neg hn]
  exact Nat.succ_ne_zero _

theorem reduce_add_reduce (n x : Nat) : reduce w (reduce w n + x) = reduce w (n + x) := by
  by_cases hn : n = 0
  · subst hn
    rfl
  · obtain ⟨k, hk⟩ := reduce_spec (w := w) n
    have hne := reduce_ne_zero (w := w) hn
    have hsplit : n + x = reduce w n + x + ones w * k := by omega
    rw [hsplit, reduce_add_mul (by omega)]

/-- A sum depends on the sum of the numbers only. -/
theorem sum_eq_reduce {start : Nat} {xs : List Nat} (hs : start ≤ ones w) (hxs : ∀ x ∈ xs, x ≤ ones w) :
    sum w start xs = reduce w (start + xs.sum) := by
  induction xs generalizing start with
  | nil => exact (reduce_of_le hs).symm
  | cons x xs ih =>
    have hx : x ≤ ones w := hxs x List.mem_cons_self
    have hrest : ∀ y ∈ xs, y ≤ ones w := fun y hy => hxs y (List.mem_cons_of_mem x hy)
    calc sum w start (x :: xs) = sum w (add w start x) xs := rfl
      _ = reduce w (reduce w (start + x) + xs.sum) := by rw [ih (add_le hs hx) hrest, add_eq_reduce hs hx]
      _ = reduce w (start + (x :: xs).sum) := by rw [reduce_add_reduce, List.sum_cons, Nat.add_assoc]

/-- Together with its complement a sum is all ones. -/
theorem reduce_complement {n : Nat} (h : 0 < ones w) : reduce w (n + (ones w - reduce w n)) = ones w := by
  by_cases hn : n = 0
  · subst hn
    rw [reduce_of_le (Nat.zero_le _), Nat.sub_zero, Nat.zero_add, reduce_of_le (Nat.le_refl _)]
  · obtain ⟨k, hk⟩ := reduce_spec (w := w) n
    have hle : reduce w n ≤ ones w := by
      unfold reduce
      rw [if_neg hn]
      exact Nat.mod_lt _ h
    have hsplit : n + (ones w - reduce w n) = ones w + ones w * k := by omega
    rw [hsplit, reduce_add_mul (by omega), reduce_of_le (Nat.le_refl _)]

end OnesComplement
