import Mathlib.Data.List.Basic
import Mathlib.Order.Lattice

/-!
# Ordered multimaps

A `std::multimap` as the list of its entries in iteration order: ascending keys, entries
of one key in the order of their insertion.
-/

abbrev Multimap (κ α : Type) := List (κ × α)

namespace Multimap

variable {κ α : Type} [LinearOrder κ]

/-- `insert`: behind the entries whose key is at most `k`. -/
def insert (m : Multimap κ α) (k : κ) (a : α) : Multimap κ α :=
  match m with
  | [] => [(k, a)]
  | e :: m => if e.1 ≤ k then e :: insert m k a else (k, a) :: e :: m

/-- `find`: the first entry of key `k`. -/
def find (m : Multimap κ α) (k : κ) : Option α :=
  (List.find? (fun e => e.1 == k) m).map (·.2)

/-- `erase(find(k))`: without the first entry of key `k`. -/
def eraseKey (m : Multimap κ α) (k : κ) : Multimap κ α := List.eraseP (fun e => e.1 == k) m

/-- `erase` of the iterator at value `a`. -/
def eraseValue [DecidableEq α] (m : Multimap κ α) (a : α) : Multimap κ α := List.eraseP (fun e => e.2 == a) m

/-- The value behind the iterator that follows the one at value `a`. -/
def next [DecidableEq α] (m : Multimap κ α) (a : α) : Option α :=
  ((List.dropWhile (fun e => !(e.2 == a)) m).tail.head?).map (·.2)

/-- The values in iteration order. -/
def values (m : Multimap κ α) : List α := List.map (·.2) m

theorem insert_perm (m : Multimap κ α) (k : κ) (a : α) : (m.insert k a).Perm ((k, a) :: m) := by
  induction m with
  | nil => exact List.Perm.refl _
  | cons e m ih =>
    unfold insert
    split
    · exact (List.Perm.cons e ih).trans (List.Perm.swap _ _ _)
    · exact List.Perm.refl _

@[simp] theorem mem_insert (m : Multimap κ α) (k : κ) (a : α) (e : κ × α) :
    e ∈ m.insert k a ↔ e = (k, a) ∨ e ∈ m := by
  rw [(insert_perm m k a).mem_iff, List.mem_cons]

theorem find_eq_some_mem {m : Multimap κ α} {k : κ} {a : α} (h : m.find k = some a) : (k, a) ∈ m := by
  unfold find at h
  obtain ⟨e, he, rfl⟩ := Option.map_eq_some_iff.mp h
  have hk : e.1 = k := by simpa using List.find?_some he
  have := List.mem_of_find?_eq_some he
  rwa [← hk]

theorem mem_of_mem_eraseKey {m : Multimap κ α} {k : κ} {e : κ × α} (h : e ∈ m.eraseKey k) : e ∈ m :=
  List.mem_of_mem_eraseP h

end Multimap
