import Mathlib.Data.Set.Insert
import Mathlib.Order.BooleanAlgebra.Set
import Mathlib.Logic.Function.Basic
import Mathlib.Logic.Relation

/-!
# Objects that are shared by handles

Handles refer to objects without a count of the references: whoever closes a handle looks whether another one
refers to the object, and destroys it if there is none. The search may leave out handles; what is lost then is
what those refer to.
-/

namespace Handles

variable {ι κ : Type}

structure Table (ι κ : Type) where
  refers : ι → Option κ
  alive : Set κ

/-- No handle that is looked at refers to the object, but for the handle `i`. -/
def Last (watched : Set ι) (t : Table ι κ) (i : ι) (k : κ) : Prop := ∀ j ∈ watched, j ≠ i → t.refers j ≠ some k

/-- What a close of the handle `i` destroys. -/
def Destroyed (watched : Set ι) (t : Table ι κ) (i : ι) : Set κ := {k | t.refers i = some k ∧ Last watched t i k}

/-- Every handle that is looked at refers to an object that is alive, and every object that is alive has a handle. -/
structure Sound (watched : Set ι) (t : Table ι κ) : Prop where
  alive : ∀ i ∈ watched, ∀ k, t.refers i = some k → k ∈ t.alive
  owned : ∀ k ∈ t.alive, ∃ i, t.refers i = some k

variable [DecidableEq ι]

def Table.close (watched : Set ι) (t : Table ι κ) (i : ι) : Table ι κ :=
  ⟨Function.update t.refers i none, t.alive \ Destroyed watched t i⟩

/-- A new object with its handle, or one more handle for an object. -/
inductive Opening : Table ι κ → Table ι κ → Prop
  | create {t i k} (hi : t.refers i = none) (hk : k ∉ t.alive) (hnew : ∀ j, t.refers j ≠ some k) :
    Opening t ⟨Function.update t.refers i (some k), insert k t.alive⟩
  | share {t i k} (j : ι) (hi : t.refers i = none) (hj : t.refers j = some k) (hk : k ∈ t.alive) :
    Opening t ⟨Function.update t.refers i (some k), t.alive⟩

inductive Step (watched : Set ι) : Table ι κ → Table ι κ → Prop
  | opening {t u} (h : Opening t u) : Step watched t u
  | close {t} (i : ι) : Step watched t (t.close watched i)

abbrev Run (watched : Set ι) : Table ι κ → Table ι κ → Prop := Relation.ReflTransGen (Step watched)

variable {watched : Set ι} {t u : Table ι κ}

theorem Opening.alive (h : Opening t u) : t.alive ⊆ u.alive := by
  cases h with
  | create => exact Set.subset_insert _ _
  | share => exact subset_rfl

theorem close_unused {i : ι} (hi : t.refers i = none) : t.close watched i = t := by
  have hnothing : Destroyed watched t i = ∅ := by
    ext k
    simp [Destroyed, hi]
  have hrefers : Function.update t.refers i none = t.refers := by rw [← hi, Function.update_eq_self]
  rw [Table.close, hnothing, hrefers, Set.sdiff_empty]

theorem Sound.create {i : ι} {k : κ} (h : Sound watched t) (hi : t.refers i = none) :
    Sound watched ⟨Function.update t.refers i (some k), insert k t.alive⟩ := by
  constructor
  · intro j hj k' hk'
    by_cases hji : j = i
    · simp only [hji, Function.update_self, Option.some.injEq] at hk'
      simp [hk']
    · simp only [Function.update_of_ne hji] at hk'
      exact Set.mem_insert_of_mem k (h.alive j hj k' hk')
  · intro k' hk'
    rcases Set.mem_insert_iff.mp hk' with rfl | hk'
    · exact ⟨i, by simp⟩
    · obtain ⟨j, hj⟩ := h.owned k' hk'
      have hji : j ≠ i := by
        intro hji
        simp [hji, hi] at hj
      exact ⟨j, by simp [hji, hj]⟩

theorem Sound.opening (h : Sound watched t) (hopening : Opening t u) : Sound watched u := by
  cases hopening with
  | create hi => exact h.create hi
  | @share i k j hi hj hk =>
    have hcreate := h.create (k := k) hi
    rwa [Set.insert_eq_of_mem hk] at hcreate

theorem Sound.close (h : Sound watched t) (i : ι) : Sound watched (t.close watched i) := by
  unfold Table.close
  constructor
  · intro j hj k hk
    by_cases hji : j = i
    · simp [hji] at hk
    · simp only [Function.update_of_ne hji] at hk
      refine ⟨h.alive j hj k hk, ?_⟩
      intro hdestroyed
      exact hdestroyed.2 j hj hji hk
  · intro k hk
    obtain ⟨j, hj⟩ := h.owned k hk.1
    by_cases hji : j = i
    -- Its handle is closed, so that the search has found another one.
    · have hlast : ¬Last watched t i k := fun hlast => hk.2 ⟨hji ▸ hj, hlast⟩
      simp only [Last, not_forall, not_not] at hlast
      obtain ⟨j', -, hne, hj'⟩ := hlast
      exact ⟨j', by simp [hne, hj']⟩
    · exact ⟨j, by simp [hji, hj]⟩

theorem Sound.run (h : Sound watched t) (hrun : Run watched t u) : Sound watched u := by
  induction hrun with
  | refl => exact h
  | tail _ hstep ih =>
    cases hstep with
    | opening hopening => exact ih.opening hopening
    | close i => exact ih.close i

end Handles
