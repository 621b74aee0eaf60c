import SocketApi.Lib.Traced
import Mathlib.Data.List.Basic

/-!
# Loops over the cells of an allocation

A loop that writes the cells from one index up to another, each as a function of what it held. A write
outside the allocation is a fault.
-/

namespace Cells

variable {α : Type}

/-- `n` turns, from cell `i` on. -/
def turns (f : Nat → α → α) : Nat → Nat → List α → Option (List α)
  | 0, _, cells => some cells
  | n + 1, i, cells => cells[i]?.bind fun old => turns f n (i + 1) (cells.set i (f i old))

/-- `for(i = lo; i < hi; i++) cells[i] = f(i, cells[i]);` -/
def forEach (lo hi : Nat) (f : Nat → α → α) (cells : List α) : Option (List α) :=
  turns f (hi - lo) lo cells

theorem turns_within (f : Nat → α → α) (n i : Nat) (cells : List α) (h : i + n ≤ cells.length) :
    ∃ cells', turns f n i cells = some cells' ∧ cells'.length = cells.length ∧
      ∀ j, cells'[j]? = if i ≤ j ∧ j < i + n then cells[j]?.map (f j) else cells[j]? := by
  induction n generalizing i cells with
  | zero =>
    refine ⟨cells, rfl, rfl, fun j => ?_⟩
    rw [if_neg (by omega)]
  | succ n ih =>
    have hi : i < cells.length := by omega
    obtain ⟨cells', hrun, hlen, hcells⟩ := ih (i + 1) (cells.set i (f i cells[i])) (by simp; omega)
    refine ⟨cells', ?_, by simpa using hlen, fun j => ?_⟩
    · unfold turns
      rw [List.getElem?_eq_getElem hi]
      exact hrun
    · rw [hcells j]
      by_cases hj : j = i
      · subst hj
        rw [if_neg (by omega), if_pos (by omega)]
        simp [hi]
      · rw [List.getElem?_set_ne (Ne.symm hj)]
        by_cases hin : i + 1 ≤ j ∧ j < i + 1 + n
        · rw [if_pos hin, if_pos (by omega)]
        · rw [if_neg hin, if_neg (by omega)]

/-- A loop that stays in the allocation writes the cells of its range and no other. -/
theorem forEach_within (lo hi : Nat) (f : Nat → α → α) (cells : List α) (h : hi ≤ cells.length) :
    ∃ cells', forEach lo hi f cells = some cells' ∧ cells'.length = cells.length ∧
      ∀ j, cells'[j]? = if lo ≤ j ∧ j < hi then cells[j]?.map (f j) else cells[j]? := by
  unfold forEach
  by_cases hlo : lo ≤ hi
  · obtain ⟨cells', hrun, hlen, hcells⟩ := turns_within f (hi - lo) lo cells (by omega)
    refine ⟨cells', hrun, hlen, fun j => ?_⟩
    rw [hcells j]
    congr 1
    simp only [eq_iff_iff]
    omega
  · refine ⟨cells, by rw [show hi - lo = 0 by omega]; rfl, rfl, fun j => ?_⟩
    rw [if_neg (by omega)]

/-! ## The accesses of a loop -/

open Effect

variable {V σ : Type}

/-- `turns` with the accesses of each turn recorded. -/
def tracedTurns (accesses : Nat → List V) (f : Nat → α → α) : Nat → Nat → List α → Traced V Unit σ (List α)
  | 0, _, cells => return cells
  | n + 1, i, cells => do
    emits (accesses i)
    match cells[i]? with
    | some old => tracedTurns accesses f n (i + 1) (cells.set i (f i old))
    | none => throw ()

def tracedEach (lo hi : Nat) (accesses : Nat → List V) (f : Nat → α → α) (cells : List α) :
    Traced V Unit σ (List α) :=
  tracedTurns accesses f (hi - lo) lo cells

/-- A value that may be missing, as a program. -/
def ofOption (x : Option α) : EStateM Unit σ α :=
  match x with
  | some a => pure a
  | none => throw ()

/-- The accesses of a loop that stays in the allocation. -/
theorem post_tracedTurns (accesses : Nat → List V) (f : Nat → α → α) (n i : Nat) (cells : List α)
    (h : i + n ≤ cells.length) (s : σ × List V) :
    Post (tracedTurns accesses f n i cells) s
      (fun cells' t => cells'.length = cells.length ∧ t = (s.1, s.2 ++ (List.range' i n).flatMap accesses))
      (fun _ _ => False) := by
  induction n generalizing i cells s with
  | zero =>
    refine ⟨rfl, ?_⟩
    simp
  | succ n ih =>
    have hi : i < cells.length := by omega
    unfold tracedTurns
    rw [post_bind, post_emits, List.getElem?_eq_getElem hi]
    apply (ih (i + 1) (cells.set i (f i cells[i])) (by simp; omega) _).imp
    intro cells' t ht
    refine ⟨by simpa using ht.1, ?_⟩
    rw [ht.2, List.range'_succ, List.flatMap_cons, List.append_assoc]

theorem post_tracedEach (lo hi : Nat) (accesses : Nat → List V) (f : Nat → α → α) (cells : List α)
    (h : hi ≤ cells.length) (s : σ × List V) :
    Post (tracedEach lo hi accesses f cells) s
      (fun cells' t => cells'.length = cells.length ∧ t = (s.1, s.2 ++ (List.range' lo (hi - lo)).flatMap accesses))
      (fun _ _ => False) := by
  unfold tracedEach
  by_cases hlo : lo ≤ hi
  · exact post_tracedTurns accesses f (hi - lo) lo cells (by omega) s
  · rw [show hi - lo = 0 by omega]
    refine ⟨rfl, ?_⟩
    simp

theorem forgets_tracedTurns (accesses : Nat → List V) (f : Nat → α → α) (n i : Nat) (cells : List α) :
    Forgets (tracedTurns accesses f n i cells : Traced V Unit σ (List α)) (ofOption (turns f n i cells)) := by
  induction n generalizing i cells with
  | zero => exact forgets_pure cells
  | succ n ih =>
    unfold tracedTurns turns
    apply (forgets_emits (accesses i)).pure_bind
    cases cells[i]? with
    | some old => exact ih (i + 1) (cells.set i (f i old))
    | none => exact forgets_throw ()

theorem forgets_tracedEach (lo hi : Nat) (accesses : Nat → List V) (f : Nat → α → α) (cells : List α) :
    Forgets (tracedEach lo hi accesses f cells : Traced V Unit σ (List α)) (ofOption (forEach lo hi f cells)) :=
  forgets_tracedTurns accesses f (hi - lo) lo cells

end Cells
