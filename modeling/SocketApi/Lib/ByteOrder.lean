import Mathlib.Algebra.Order.Ring.Int
import Mathlib.Order.Lattice.Nat

/-!
# Byte order

Words of two octets in memory, and the conversion between the order of the host and that of
the network.
-/

inductive ByteOrder where
  | little | big
  deriving DecidableEq, Repr

namespace ByteOrder

variable (B : ByteOrder)

/-- A word read from two octets in memory. -/
def load (first second : BitVec 8) : BitVec 16 :=
  match B with
  | little => second ++ first
  | big => first ++ second

/-- `htons`, which is `ntohs` as well. -/
def htons (x : BitVec 16) : BitVec 16 :=
  match B with
  | little => x.extractLsb' 0 8 ++ x.extractLsb' 8 8
  | big => x

theorem append_extract (high low : BitVec 8) :
    (high ++ low).extractLsb' 8 8 = high ∧ (high ++ low).extractLsb' 0 8 = low := by
  constructor
  · ext i hi
    have h : ¬8 + i < 8 := by omega
    rw [BitVec.getElem_extractLsb', BitVec.getLsbD_append]
    simp [h, hi]
  · ext i hi
    rw [BitVec.getElem_extractLsb', BitVec.getLsbD_append]
    simp [hi]

theorem extract_append (x : BitVec 16) : x.extractLsb' 8 8 ++ x.extractLsb' 0 8 = x := by
  have h : (8 : Nat) = 0 + 8 := rfl
  rw [BitVec.extractLsb'_append_extractLsb'_eq_extractLsb' h]
  exact BitVec.extractLsb'_eq_self

@[simp]
theorem htons_htons (x : BitVec 16) : B.htons (B.htons x) = x := by
  cases B with
  | little =>
    have h := append_extract (x.extractLsb' 0 8) (x.extractLsb' 8 8)
    unfold htons
    rw [h.1, h.2]
    exact extract_append x
  | big => rfl

theorem htons_inj {x y : BitVec 16} : B.htons x = B.htons y ↔ x = y := by
  constructor
  · intro h
    rw [← B.htons_htons x, h, B.htons_htons]
  · intro h
    rw [h]

/-- In the order of the network the first octet is the high one. -/
theorem htons_load (first second : BitVec 8) : B.htons (B.load first second) = first ++ second := by
  cases B with
  | little =>
    have h := append_extract second first
    unfold htons load
    rw [h.1, h.2]
  | big => rfl

end ByteOrder
