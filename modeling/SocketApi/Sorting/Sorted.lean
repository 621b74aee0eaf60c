import SocketApi.Sorting.QuickSort

/-!
# Quick sort sorts

The two indices of a partition have left only elements that are not greater than the pivot below them, and
only elements that are not less above them. The recursion is on ranges that this makes shorter.
-/

namespace SocketApi.Sorting

open Effect

section

variable {T : Type} {lt gt : T → T → Bool} {s : List T × List Int} {start stop i j : Int} {v : T}
  {f : Int → Option T}

/-! ## The partition -/

/-- What the indices have passed: no element below `i` is greater than the pivot, none above `j` is less. -/
structure Parted (lt : T → T → Bool) (v : T) (start stop i j : Int) (f : Int → Option T) : Prop where
  low : Rearranged.All (fun x => ¬ lt v x) (Set.Ico start i) f
  high : Rearranged.All (fun x => ¬ lt x v) (Set.Ioc j stop) f

/-- The state before a round. In the first one the pivot is still ahead of both indices. -/
structure Round (lt : T → T → Bool) (v : T) (start stop i j : Int) (f : Int → Option T) : Prop
    extends Parted lt v start stop i j f where
  lower : start ≤ i
  upper : j ≤ stop
  begun : start < i ∧ j < stop ∨ ∃ k, i ≤ k ∧ k ≤ j ∧ ∃ x ∈ f k, ¬ lt x v ∧ ¬ lt v x

theorem Round.ahead (h : Round lt v start stop i j f) (hf : ∀ k ∈ Set.Icc start stop, ∃ x, f k = some x)
    (hij : i ≤ j) : ∃ k, i ≤ k ∧ k ≤ stop ∧ k ≤ j + 1 ∧ ∃ x ∈ f k, ¬ lt x v := by
  have hlower := h.lower
  have hupper := h.upper
  obtain ⟨-, hj⟩ | ⟨k, hik, hkj, x, hx, hnot, -⟩ := h.begun
  · obtain ⟨x, hx⟩ := hf (j + 1) ⟨by omega, by omega⟩
    exact ⟨j + 1, by omega, by omega, le_rfl, x, hx, h.high (j + 1) ⟨by omega, by omega⟩ x hx⟩
  · exact ⟨k, hik, by omega, by omega, x, hx, hnot⟩

theorem Round.behind (h : Round lt v start stop i j f) (hf : ∀ k ∈ Set.Icc start stop, ∃ x, f k = some x)
    (hij : i ≤ j) : ∃ k, k ≤ j ∧ start ≤ k ∧ i - 1 ≤ k ∧ ∃ x ∈ f k, ¬ lt v x := by
  have hlower := h.lower
  have hupper := h.upper
  obtain ⟨hi, -⟩ | ⟨k, hik, hkj, x, hx, -, hnot⟩ := h.begun
  · obtain ⟨x, hx⟩ := hf (i - 1) ⟨by omega, by omega⟩
    exact ⟨i - 1, by omega, by omega, le_rfl, x, hx, h.low (i - 1) ⟨by omega, by omega⟩ x hx⟩
  · exact ⟨k, hkj, by omega, by omega, x, hx, hnot⟩

/-- The scans pass elements on the right side of the pivot only. -/
theorem Round.scanned {i' j' : Int} (h : Round lt v start stop i j f) (hasymm : ∀ x y, lt x y → ¬ lt y x)
    (hi : i ≤ i') (hj : j' ≤ j) (hup : Rearranged.All (fun x => lt x v = true) (Set.Ico i i') f)
    (hdown : Rearranged.All (fun x => lt v x = true) (Set.Ioc j' j) f) : Round lt v start stop i' j' f where
  low := by
    intro k hk x hx
    by_cases hki : k < i
    · exact h.low k ⟨hk.1, hki⟩ x hx
    · exact hasymm x v (hup k ⟨not_lt.mp hki, hk.2⟩ x hx)
  high := by
    intro k hk x hx
    by_cases hkj : j < k
    · exact h.high k ⟨hkj, hk.2⟩ x hx
    · exact hasymm v x (hdown k ⟨hk.1, not_lt.mp hkj⟩ x hx)
  lower := h.lower.trans hi
  upper := hj.trans h.upper
  begun := by
    obtain ⟨hlow, hhigh⟩ | ⟨k, hik, hkj, x, hx, hless, hgreater⟩ := h.begun
    · exact .inl ⟨hlow.trans_le hi, hj.trans_lt hhigh⟩
    · refine .inr ⟨k, ?_, ?_, x, hx, hless, hgreater⟩
      · by_contra hk
        exact hless (hup k ⟨hik, not_le.mp hk⟩ x hx)
      · by_contra hk
        exact hgreater (hdown k ⟨not_le.mp hk, hkj⟩ x hx)

/-- The exchange brings each element to its side. -/
theorem Round.exchanged {g : Int → Option T} {x y : T} (h : Round lt v start stop i j f) (hij : i ≤ j)
    (hx : ¬ lt x v) (hy : ¬ lt v y)
    (hg : ∀ k, g k = if k = i then some y else if k = j then some x else f k) (hsame : i = j → x = y) :
    Round lt v start stop (i + 1) (j - 1) g where
  low := by
    intro k hk z hz
    have hlow := hk.1
    have hhigh := hk.2
    rw [hg k] at hz
    by_cases hki : k = i
    · rw [if_pos hki] at hz
      exact Option.some.inj hz ▸ hy
    · rw [if_neg hki, if_neg (by omega)] at hz
      exact h.low k ⟨by omega, by omega⟩ z hz
  high := by
    intro k hk z hz
    have hlow := hk.1
    have hhigh := hk.2
    rw [hg k] at hz
    by_cases hkj : k = j
    · by_cases hki : k = i
      · rw [if_pos hki] at hz
        obtain rfl := Option.some.inj hz
        exact hsame (hki.symm.trans hkj) ▸ hx
      · rw [if_neg hki, if_pos hkj] at hz
        exact Option.some.inj hz ▸ hx
    · rw [if_neg (by omega), if_neg hkj] at hz
      exact h.high k ⟨by omega, by omega⟩ z hz
  lower := by
    have := h.lower
    omega
  upper := by
    have := h.upper
    omega
  begun := by
    have := h.lower
    have := h.upper
    exact .inl ⟨by omega, by omega⟩

theorem Round.ends (h : Round lt v start stop i j f) (hcross : j < i) : start < i ∧ j < stop := by
  obtain hends | ⟨k, hik, hkj, -⟩ := h.begun
  · exact hends
  · exact absurd hcross (not_lt.mpr (hik.trans hkj))

/-- How a partition leaves the array and its indices. -/
structure PartitionEnds (lt : T → T → Bool) (v : T) (start stop : Int) (s : List T × List Int) (r : Int × Int)
    (t : List T × List Int) : Prop extends Parted lt v start stop r.1 r.2 (cellAt t.1) where
  within : Within start stop s t
  crossed : r.2 < r.1
  lower : start < r.1
  upper : r.2 < stop

theorem partition_ends (hasymm : ∀ x y, lt x y → ¬ lt y x) (hgt : ∀ x y, gt x y = lt y x) (fuel : Nat)
    (hs : Span s.1 start stop) (h : Round lt v start stop i j (cellAt s.1)) (hij : i ≤ j) (hfuel : j - i + 2 < fuel) :
    Post (partition lt gt v fuel i j) s (PartitionEnds lt v start stop s) (fun _ _ => False) := by
  induction fuel generalizing s i j with
  | zero => omega
  | succ fuel ih =>
    have hlower := h.lower
    have hupper := h.upper
    obtain ⟨k, hik, hkstop, hkj, x, hx, hless⟩ := h.ahead (fun k hk => hs.cell hk) hij
    unfold partition
    apply (scan_up (fun x => lt x v) hs hlower hik hkstop ⟨x, hx, by simpa using hless⟩ (by omega)).bind
    intro i' s₁ hi'
    obtain ⟨hcells₁, hwithin₁, hii', hi'k, hpassed, xi, hxi, hstopi⟩ := hi'
    obtain ⟨m, hmj, hmstart, him, y, hy, hgreater⟩ := h.behind (fun k hk => hs.cell hk) hij
    have hy₁ : ∃ y ∈ cellAt s₁.1 m, gt y v = false := ⟨y, hcells₁ ▸ hy, by simpa [hgt] using hgreater⟩
    apply (scan_down (fun x => gt x v) (hs.after hwithin₁) hupper hmj hmstart hy₁ (by omega)).bind
    intro j' s₂ hj'
    obtain ⟨hcells₂, hwithin₂, hmj', hj'j, hpassed', yj, hyj, hstopj⟩ := hj'
    have hcells : s₂.1 = s.1 := hcells₂.trans hcells₁
    have hwithin : Within start stop s s₂ := hwithin₁.trans hwithin₂
    have hspan : Span s₂.1 start stop := hs.after hwithin
    rw [hcells₁] at hpassed' hyj
    simp only [hgt] at hpassed' hstopj
    have hround := h.scanned hasymm hii' hj'j hpassed hpassed'
    rw [← hcells] at hround hxi hyj
    by_cases hcross : i' ≤ j'
    · apply (exchange_swaps hspan hround.lower hcross hround.upper hxi hyj).bind
      intro r s₃ hr
      obtain ⟨rfl, hwithin₃, hswapped⟩ := hr
      have hsame : i' = j' → xi = yj := by
        intro heq
        rw [heq] at hxi
        exact Option.some.inj (hxi.symm.trans hyj)
      have hnext := hround.exchanged hcross (by simpa using hstopi) (by simpa using hstopj) hswapped hsame
      have hwithin' : Within start stop s s₃ := hwithin.trans hwithin₃
      dsimp only
      by_cases hagain : j' - 1 ≥ i' + 1
      · rw [if_pos hagain]
        apply (ih (hs.after hwithin') hnext hagain (by omega)).imp
        intro r t hr
        exact { hr with within := hwithin'.trans hr.within }
      · rw [if_neg hagain, post_pure]
        have hcrossed : j' - 1 < i' + 1 := by omega
        exact { hnext.toParted with
          within := hwithin', crossed := hcrossed, lower := (hnext.ends hcrossed).1, upper := (hnext.ends hcrossed).2 }
    · have hcrossed : j' < i' := not_le.mp hcross
      rw [exchange_crossed hcrossed, pure_bind]
      dsimp only
      rw [if_neg (by omega), post_pure]
      exact { hround.toParted with
        within := hwithin, crossed := hcrossed, lower := (hround.ends hcrossed).1, upper := (hround.ends hcrossed).2 }

/-! ## The recursion -/

/-- The range is sorted, and only elements inside it have been touched and moved. -/
structure SortedRange (lt : T → T → Bool) (start stop : Int) (s t : List T × List Int) : Prop
    extends Within start stop s t where
  ordered : Rearranged.Ordered (fun x y => ¬ lt y x) (Set.Icc start stop) (cellAt t.1)

/-- The first round finds the pivot ahead of both indices. -/
theorem Round.first (hirrefl : ∀ x, ¬ lt x x) (hlow : start ≤ i) (hhigh : i ≤ stop) (hv : f i = some v) :
    Round lt v start stop start stop f where
  low := fun _ hk => absurd hk.1 (not_le.mpr hk.2)
  high := fun _ hk => absurd hk.2 (not_le.mpr hk.1)
  lower := le_rfl
  upper := le_rfl
  begun := .inr ⟨i, hlow, hhigh, v, hv, hirrefl v, hirrefl v⟩

theorem SortedRange.of_le (h : j ≤ i) : SortedRange lt i j s s :=
  { Within.refl i j s with ordered := Rearranged.ordered_of_le h }

/-- The two parts of a partition, sorted one after the other. -/
theorem sorted_of_parts [IsStrictWeakOrder T (fun x y => lt x y = true)] {s₀ s₁ s₂ t : List T × List Int}
    (hr : PartitionEnds lt v start stop s₀ (i, j) s₁) (hs : Within start stop s s₀) (hleft : SortedRange lt start j s₁ s₂)
    (hright : SortedRange lt i stop s₂ t) : SortedRange lt start stop s t := by
  have hcross : j < i := hr.crossed
  have hi : start < i := hr.lower
  have hj : j < stop := hr.upper
  have hlow : Rearranged.All (fun x => ¬ lt v x) (Set.Ico start i) (cellAt t.1) := by
    apply (hr.low.moved hleft.moves fun k hk => ⟨hk.1, hk.2.trans_lt hcross⟩).apart hright.moves
    intro k hk hin
    exact absurd hk.2 (not_lt.mpr hin.1)
  have hhigh : Rearranged.All (fun x => ¬ lt x v) (Set.Ioc j stop) (cellAt t.1) := by
    apply (hr.high.apart hleft.moves fun k hk hin => absurd hk.1 (not_lt.mpr hin.2)).moved hright.moves
    intro k hk
    exact ⟨hcross.trans_le hk.1, hk.2⟩
  have hkept : Rearranged.Ordered (fun x y => ¬ lt y x) (Set.Icc start j) (cellAt t.1) := by
    apply hleft.ordered.apart hright.moves
    intro k hk hin
    exact absurd (hk.2.trans_lt hcross) (not_lt.mpr hin.1)
  have hjoin : Rearranged.Ordered (fun x y => ¬ lt y x) (Set.Icc start stop) (cellAt t.1) := by
    apply Rearranged.Ordered.join _ hlow hhigh hkept hright.ordered
    intro x y hx hy
    exact Rearranged.not_less_trans (fun x y => lt x y = true) hy hx
  have hwithin := ((hs.trans hr.within).trans (hleft.mono le_rfl hj.le)).trans (hright.mono hi.le le_rfl)
  exact { hwithin with ordered := hjoin }

theorem quickSortBy_sorts [IsStrictWeakOrder T (fun x y => lt x y = true)] (hgt : ∀ x y, gt x y = lt y x) (fuel : Nat)
    (hs : Span s.1 start stop) (hrange : start ≤ stop) (hfuel : stop - start + 3 < fuel) :
    Post (quickSortBy lt gt fuel start stop) s (fun _ t => SortedRange lt start stop s t) (fun _ _ => False) := by
  have hirrefl : ∀ x, ¬ lt x x = true := irrefl_of (fun x y => lt x y = true)
  have hasymm : ∀ x y, lt x y = true → ¬ lt y x = true := fun x y => asymm_of (fun x y => lt x y = true)
  induction fuel generalizing s start stop with
  | zero => omega
  | succ fuel ih =>
    have hlower := hs.lower
    have hsmall := hs.small
    have hmiddle : start ≤ (start + stop).tdiv 2 ∧ (start + stop).tdiv 2 ≤ stop := by
      rw [Int.tdiv_eq_ediv_of_nonneg (by omega)]
      omega
    obtain ⟨v, hv⟩ := hs.cell ⟨hmiddle.1, hmiddle.2⟩
    unfold quickSortBy
    rw [post_bind, post_integer (by omega) (by omega), post_bind, post_readCell hv]
    have hread : Within start stop s (s.1, s.2 ++ [(start + stop).tdiv 2]) := .read ⟨hmiddle.1, hmiddle.2⟩
    apply (partition_ends hasymm hgt fuel (hs.after hread) (Round.first hirrefl hmiddle.1 hmiddle.2 hv) hrange
      (by omega)).bind
    intro r s₁ hr
    obtain ⟨i, j⟩ := r
    have hi : start < i := hr.lower
    have hj : j < stop := hr.upper
    have hcross : j < i := hr.crossed
    have hfinish : ∀ s₂, SortedRange lt start j s₁ s₂ →
        Post (if i < stop then quickSortBy lt gt fuel i stop else pure ()) s₂
          (fun _ t => SortedRange lt start stop s t) (fun _ _ => False) := by
      intro s₂ hleft
      have hwithin : Within start stop s s₂ := (hread.trans hr.within).trans (hleft.mono le_rfl hj.le)
      have hspan : Span s₂.1 i stop := (hs.after hwithin).sub hi.le le_rfl
      by_cases hright : i < stop
      · rw [if_pos hright]
        apply (ih hspan hright.le (by omega)).imp
        intro _ t ht
        exact sorted_of_parts hr hread hleft ht
      · rw [if_neg hright, post_pure]
        exact sorted_of_parts hr hread hleft (.of_le (not_lt.mp hright))
    have hspan : Span s₁.1 start j := (hs.after (hread.trans hr.within)).sub le_rfl hj.le
    by_cases hleft : start < j
    · dsimp only
      rw [if_pos hleft]
      exact (ih hspan hleft.le (by omega)).bind fun _ => hfinish
    · dsimp only
      rw [if_neg hleft]
      exact hfinish s₁ (.of_le (not_lt.mp hleft))

end

/-! ## What the functions promise -/

/-- A sort ends, sorts each range by moving its elements, and touches no other index. -/
def Sorts {T : Type} (lt : T → T → Bool) (sort : Nat → Int → Int → ArrayProgram T Unit) : Prop :=
  ∀ (cells : List T) (start stop : Int), 0 ≤ start → start ≤ stop → stop < cells.length → stop < 2 ^ 30 →
    ∃ enough, ∀ fuel ≥ enough, Post (sort fuel start stop) (cells, [])
      (fun _ t => SortedRange lt start stop (cells, []) t) (fun _ _ => False)

theorem quickSort_sorts (T : Type) :
    (∀ lt gt : T → T → Bool, IsStrictWeakOrder T (fun a b => lt a b = true) → (∀ a b, gt a b = lt b a) →
      Sorts lt fun fuel start stop => quickSortPtr fuel start stop lt gt) ∧
    ∀ [LT T] [DecidableLT T], IsStrictWeakOrder T (fun a b => a < b) →
      Sorts (fun a b : T => decide (a < b)) quickSort := by
  constructor
  · intro lt gt hlt hgt cells start stop hlow hrange hhigh hsmall
    refine ⟨(stop - start + 4).toNat, fun fuel hfuel => ?_⟩
    exact quickSortBy_sorts hgt fuel ⟨hlow, hhigh, hsmall⟩ hrange (by omega)
  · intro _ _ hlt cells start stop hlow hrange hhigh hsmall
    refine ⟨(stop - start + 4).toNat, fun fuel hfuel => ?_⟩
    have hbool : IsStrictWeakOrder T (fun a b => decide (a < b) = true) := by simpa using hlt
    exact quickSortBy_sorts (fun _ _ => rfl) fuel ⟨hlow, hhigh, hsmall⟩ hrange (by omega)

/-- Records that are compared by one of their parts. -/
def keyLess (a b : Int × Int) : Bool := decide (a.1 < b.1)

theorem quickSort_sorts_keys :
    Sorts keyLess (fun fuel start stop => quickSortPtr fuel start stop keyLess fun a b => keyLess b a) ∧
      Sorts (fun a b : Int => decide (a < b)) quickSort := by
  have hkey : IsStrictWeakOrder (Int × Int) (fun a b => keyLess a b = true) := by
    simpa [keyLess] using Rearranged.strictWeakOrder_key fun a : Int × Int => a.1
  have hint : IsStrictWeakOrder Int (fun a b => a < b) := Rearranged.strictWeakOrder_key fun a : Int => a
  exact ⟨(quickSort_sorts (Int × Int)).1 keyLess _ hkey fun _ _ => rfl, (quickSort_sorts Int).2 hint⟩

end SocketApi.Sorting
