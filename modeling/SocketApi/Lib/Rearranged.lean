import Mathlib.Algebra.Order.Archimedean.Basic
import Mathlib.Algebra.Group.End

/-!
# Rearrangements inside a set of positions

The elements stand at positions, and some of them change places. What holds of all elements of a set of
positions is kept when they are rearranged inside the set. Two sorted parts that a pivot separates are
sorted together.
-/

namespace Rearranged

variable {ι α : Type}

/-- `g` is `f` with the elements at the positions inside moved among these, and all others in their places. -/
def Moves (inside : Set ι) (f g : ι → α) : Prop :=
  ∃ σ : Equiv.Perm ι, (∀ k, k ∉ inside → σ k = k) ∧ ∀ k, g k = f (σ k)

namespace Moves

variable {s t : Set ι} {f g h : ι → α}

theorem refl (s : Set ι) (f : ι → α) : Moves s f f := ⟨1, fun _ _ => rfl, fun _ => rfl⟩

theorem trans (hfg : Moves s f g) (hgh : Moves s g h) : Moves s f h := by
  obtain ⟨σ, hσ, hg⟩ := hfg
  obtain ⟨τ, hτ, hh⟩ := hgh
  refine ⟨σ * τ, fun k hk => ?_, fun k => ?_⟩
  · rw [Equiv.Perm.mul_apply, hτ k hk, hσ k hk]
  · rw [hh k, hg (τ k), Equiv.Perm.mul_apply]

theorem mono (hfg : Moves s f g) (hst : s ⊆ t) : Moves t f g := by
  obtain ⟨σ, hσ, hg⟩ := hfg
  exact ⟨σ, fun k hk => hσ k fun hs => hk (hst hs), hg⟩

/-- An exchange of two elements. -/
theorem swap [DecidableEq ι] {i j : ι} (hi : i ∈ s) (hj : j ∈ s)
    (hg : ∀ k, g k = if k = i then f j else if k = j then f i else f k) : Moves s f g := by
  refine ⟨Equiv.swap i j, fun k hk => ?_, fun k => ?_⟩
  · apply Equiv.swap_apply_of_ne_of_ne
    · intro h
      exact hk (h ▸ hi)
    · intro h
      exact hk (h ▸ hj)
  · rw [hg k, Equiv.swap_apply_def]
    by_cases hki : k = i
    · rw [if_pos hki, if_pos hki]
    · rw [if_neg hki, if_neg hki]
      by_cases hkj : k = j
      · rw [if_pos hkj, if_pos hkj]
      · rw [if_neg hkj, if_neg hkj]

theorem outside (hfg : Moves s f g) {k : ι} (hk : k ∉ s) : g k = f k := by
  obtain ⟨σ, hσ, hg⟩ := hfg
  rw [hg k, hσ k hk]

/-- What stands inside has come from inside. -/
theorem inside (hfg : Moves s f g) {k : ι} (hk : k ∈ s) : ∃ l ∈ s, g k = f l := by
  obtain ⟨σ, hσ, hg⟩ := hfg
  refine ⟨σ k, ?_, hg k⟩
  by_contra h
  have hfix : σ k = k := σ.injective (hσ (σ k) h)
  exact h (hfix.symm ▸ hk)

end Moves

/-! ## What holds of all elements of a part -/

/-- Every element that stands at a position of the set. -/
def All (P : α → Prop) (s : Set ι) (f : ι → Option α) : Prop := ∀ k ∈ s, ∀ x ∈ f k, P x

namespace All

variable {P : α → Prop} {s t : Set ι} {f g : ι → Option α}

theorem moved (h : All P s f) (hfg : Moves t f g) (hts : t ⊆ s) : All P s g := by
  intro k hk x hx
  by_cases hkt : k ∈ t
  · obtain ⟨l, hl, hgl⟩ := hfg.inside hkt
    exact h l (hts hl) x (hgl ▸ hx)
  · exact h k hk x (hfg.outside hkt ▸ hx)

theorem apart (h : All P s f) (hfg : Moves t f g) (hst : ∀ k ∈ s, k ∉ t) : All P s g := by
  intro k hk x hx
  exact h k hk x (hfg.outside (hst k hk) ▸ hx)

end All

/-! ## Sorted parts -/

/-- Of two elements of a part, the earlier one comes first. -/
def Ordered [LT ι] (before : α → α → Prop) (s : Set ι) (f : ι → Option α) : Prop :=
  ∀ k ∈ s, ∀ l ∈ s, k < l → ∀ x ∈ f k, ∀ y ∈ f l, before x y

section

variable [LinearOrder ι] {before : α → α → Prop} {s t : Set ι} {f g : ι → Option α}

theorem Ordered.apart (h : Ordered before s f) (hfg : Moves t f g) (hst : ∀ k ∈ s, k ∉ t) : Ordered before s g := by
  intro k hk l hl hkl x hx y hy
  exact h k hk l hl hkl x (hfg.outside (hst k hk) ▸ hx) y (hfg.outside (hst l hl) ▸ hy)

theorem ordered_of_le {lo hi : ι} (h : hi ≤ lo) : Ordered before (Set.Icc lo hi) f := by
  intro k hk l hl hkl
  exact absurd hkl (not_lt.mpr ((hl.2.trans h).trans hk.1))

/-- The parts on either side of a pivot `v`, with what lies between them on both of its sides. -/
theorem Ordered.join {lo hi i j : ι} {v : α} (htrans : ∀ x y, before x v → before v y → before x y)
    (hlow : All (before · v) (Set.Ico lo i) f) (hhigh : All (before v) (Set.Ioc j hi) f)
    (hleft : Ordered before (Set.Icc lo j) f) (hright : Ordered before (Set.Icc i hi) f) :
    Ordered before (Set.Icc lo hi) f := by
  intro k hk l hl hkl x hx y hy
  by_cases hlj : l ≤ j
  · exact hleft k ⟨hk.1, hkl.le.trans hlj⟩ l ⟨hl.1, hlj⟩ hkl x hx y hy
  by_cases hik : i ≤ k
  · exact hright k ⟨hik, hk.2⟩ l ⟨hik.trans hkl.le, hl.2⟩ hkl x hx y hy
  have hx' : before x v := hlow k ⟨hk.1, not_le.mp hik⟩ x hx
  have hy' : before v y := hhigh l ⟨not_le.mp hlj, hl.2⟩ y hy
  exact htrans x y hx' hy'

end

/-! ## Strict weak orders -/

/-- To be not less is transitive. -/
theorem not_less_trans (lt : α → α → Prop) [IsStrictWeakOrder α lt] {a b c : α} (hab : ¬ lt a b) (hbc : ¬ lt b c) :
    ¬ lt a c := by
  intro hac
  have hba : ¬ lt b a := fun h => hbc (IsTrans.trans _ _ _ h hac)
  have hcb : ¬ lt c b := fun h => hab (IsTrans.trans _ _ _ hac h)
  exact (IsStrictWeakOrder.incomp_trans a b c ⟨hab, hba⟩ ⟨hbc, hcb⟩).1 hac

/-- To compare elements by a key is a strict weak order. -/
theorem strictWeakOrder_key {β : Type} [LinearOrder β] (key : α → β) :
    IsStrictWeakOrder α (fun a b => key a < key b) where
  irrefl := fun a => lt_irrefl (key a)
  trans := fun _ _ _ hab hbc => lt_trans hab hbc
  incomp_trans := by
    intro a b c hab hbc
    have hba : key a = key b := le_antisymm (not_lt.mp hab.2) (not_lt.mp hab.1)
    rw [hba]
    exact hbc

end Rearranged
