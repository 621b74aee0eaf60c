import SocketApi.Parameters
import Mathlib.Algebra.BigOperators.Group.Finset.Sigma
import Mathlib.Algebra.BigOperators.Group.Finset.Piecewise

/-!
# Sets of descriptors

`fd_set` and the three set arguments of `select`. The bits of three sets together are the
pairs of a set and a descriptor in it.
-/

namespace SocketApi

instance : Fintype UpdateConditionType := ⟨{.read, .write, .except}, by intro t; cases t <;> decide⟩

instance : NeZero MaxSockets := ⟨by decide⟩

/-- A descriptor number that `FD_SET` takes, below `FD_SETSIZE`. -/
abbrev Fd := Fin MaxSockets

abbrev FdSet := Finset Fd

/-- `readfds`, `writefds` and `exceptfds`; `none` is a null pointer. -/
abbrev FdSets := UpdateConditionType → Option FdSet

/-- A number as an index of a `fd_set`. -/
def fdOf (id : Int) : Option Fd :=
  if h : 0 ≤ id ∧ id < MaxSockets then some ⟨id.toNat, by omega⟩ else none

@[simp] theorem fdOf_eq_some {id : Int} {fd : Fd} : fdOf id = some fd ↔ id = fd := by
  unfold fdOf
  split
  · rename_i h
    simp only [Option.some.injEq, Fin.ext_iff]
    omega
  · have hfd := fd.isLt
    simp
    omega

@[simp] theorem fdOf_val (fd : Fd) : fdOf (fd : Nat) = some fd := fdOf_eq_some.mpr rfl

/-- The descriptors a loop from 0 to `n` meets. -/
def descriptorsBelow (n : Nat) : List Fd :=
  (List.finRange (min n MaxSockets)).map (Fin.castLE (Nat.min_le_right n MaxSockets))

@[simp] theorem mem_descriptorsBelow {n : Nat} {i : Fd} : i ∈ descriptorsBelow n ↔ (i : Nat) < n := by
  have hi := i.isLt
  simp only [descriptorsBelow, List.mem_map, List.mem_finRange, true_and]
  constructor
  · rintro ⟨j, rfl⟩
    have hj := j.isLt
    simp only [Fin.val_castLE]
    omega
  · intro h
    exact ⟨⟨i, by omega⟩, Fin.ext rfl⟩

theorem nodup_descriptorsBelow (n : Nat) : (descriptorsBelow n).Nodup :=
  (List.nodup_finRange _).map (Fin.castLE_injective _)

namespace FdSets

variable (sets : FdSets)

/-- The descriptors for which `SAFE_FD_ISSET` holds. -/
def members (t : UpdateConditionType) : FdSet := (sets t).getD ∅

/-- A descriptor is in one of the sets. -/
def Requested (i : Fd) : Prop := ∃ t, i ∈ sets.members t

instance (i : Fd) : Decidable (sets.Requested i) := inferInstanceAs (Decidable (∃ t, i ∈ sets.members t))

/-- The number of bits that are set. -/
def bits : Nat := ∑ t, (sets.members t).card

/-- `FD_SET` in one of the sets, if its pointer is not null. -/
def mark (t : UpdateConditionType) (i : Fd) : FdSets :=
  fun t' => if t' = t then (sets t').map (insert i) else sets t'

/-- `FD_SET` without a look at the pointer; `none` is undefined behaviour. -/
def set (t : UpdateConditionType) (i : Fd) : Option FdSets :=
  if (sets t).isSome then some (sets.mark t i) else none

/-- `FD_CLR` in each of the sets. -/
def clear (i : Fd) : FdSets := fun t => (sets t).map (·.erase i)

/-- The bits as pairs. -/
def pairs : Finset (Σ _ : UpdateConditionType, Fd) := Finset.univ.sigma sets.members

/-- `FD_SET` for each pair. -/
def markAll (list : List (Σ _ : UpdateConditionType, Fd)) : FdSets := list.foldl (fun s p => s.mark p.1 p.2) sets

/-- `FD_CLR` for each descriptor. -/
def clearAll (list : List Fd) : FdSets := list.foldl clear sets

variable {sets}

theorem mem_members {t : UpdateConditionType} {i : Fd} : i ∈ sets.members t ↔ ∃ s, sets t = some s ∧ i ∈ s := by
  unfold members
  cases sets t <;> simp

theorem isSome_of_mem {t : UpdateConditionType} {i : Fd} (h : i ∈ sets.members t) : (sets t).isSome := by
  obtain ⟨s, hs, -⟩ := mem_members.mp h
  simp [hs]

@[simp] theorem isSome_mark (t t' : UpdateConditionType) (i : Fd) : (sets.mark t i t').isSome = (sets t').isSome := by
  unfold mark
  split <;> simp

theorem mem_mark {t t' : UpdateConditionType} {i j : Fd} :
    j ∈ (sets.mark t i).members t' ↔ j ∈ sets.members t' ∨ t' = t ∧ j = i ∧ (sets t').isSome := by
  unfold members mark
  by_cases ht : t' = t
  · cases sets t' with
    | none => simp [ht]
    | some s => simp [ht, or_comm]
  · simp [ht]

@[simp] theorem isSome_clear (t : UpdateConditionType) (i : Fd) : (sets.clear i t).isSome = (sets t).isSome := by
  simp [clear]

@[simp] theorem mem_clear {t : UpdateConditionType} {i j : Fd} :
    j ∈ (sets.clear i).members t ↔ j ≠ i ∧ j ∈ sets.members t := by
  unfold members clear
  cases sets t <;> simp

@[simp] theorem isSome_markAll (list : List (Σ _ : UpdateConditionType, Fd)) (t : UpdateConditionType) :
    (sets.markAll list t).isSome = (sets t).isSome := by
  unfold markAll
  induction list generalizing sets with
  | nil => rfl
  | cons p list ih => rw [List.foldl_cons, ih, isSome_mark]

theorem mem_markAll {list : List (Σ _ : UpdateConditionType, Fd)} {t : UpdateConditionType} {j : Fd} :
    j ∈ (sets.markAll list).members t ↔ j ∈ sets.members t ∨ ⟨t, j⟩ ∈ list ∧ (sets t).isSome := by
  unfold markAll
  induction list generalizing sets with
  | nil => simp
  | cons p list ih =>
    rw [List.foldl_cons, ih, mem_mark, isSome_mark, List.mem_cons, or_assoc]
    refine or_congr Iff.rfl ?_
    rw [or_and_right]
    refine or_congr ⟨?_, ?_⟩ Iff.rfl
    · rintro ⟨rfl, rfl, hsome⟩
      exact ⟨rfl, hsome⟩
    · rintro ⟨rfl, hsome⟩
      exact ⟨rfl, rfl, hsome⟩

@[simp] theorem isSome_clearAll (list : List Fd) (t : UpdateConditionType) :
    (sets.clearAll list t).isSome = (sets t).isSome := by
  unfold clearAll
  induction list generalizing sets with
  | nil => rfl
  | cons i list ih => rw [List.foldl_cons, ih, isSome_clear]

@[simp] theorem mem_clearAll {list : List Fd} {t : UpdateConditionType} {j : Fd} :
    j ∈ (sets.clearAll list).members t ↔ j ∉ list ∧ j ∈ sets.members t := by
  unfold clearAll
  induction list generalizing sets with
  | nil => simp
  | cons i list ih =>
    rw [List.foldl_cons, ih, mem_clear, List.mem_cons]
    tauto

@[simp] theorem mem_pairs {p : Σ _ : UpdateConditionType, Fd} : p ∈ sets.pairs ↔ p.2 ∈ sets.members p.1 := by
  simp [pairs]

theorem bits_eq_card : sets.bits = sets.pairs.card := (Finset.card_sigma _ _).symm

end FdSets

end SocketApi
