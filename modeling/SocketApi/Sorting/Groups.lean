import SocketApi.Sorting.QuickSort
import SocketApi.Lib.Keeps

/-!
# Quick sort for groups

`quickSortGroupPtr` sorts the runs of elements that `geq` finds equal. Its look-ahead leaves the loop one past
the range, and the element there is compared with the last group to decide whether the group is sorted. A
range of two elements is not looked at.
-/

namespace SocketApi.Sorting

open Effect

variable {T : Type}

/-! ## The source -/

/-- The `for` loop, with the begin of the group and the index it ends with. -/
def groupLoop (lt gt geq : T → T → Bool) (stop : Int) : Nat → Int → Int → ArrayProgram T (Int × Int)
  | 0, _, _ => throw .unfinished
  | fuel + 1, s, i => do
    if i ≤ stop then
      let mut s := s
      if !geq (← readCell s) (← readCell i) then
        quickSortPtr fuel s (← integer (i - 1)) lt gt
        s := i
      groupLoop lt gt geq stop fuel s (← integer (i + 1))
    else
      return (s, i)

def quickSortGroupPtr (fuel : Nat) (start stop : Int) (lt gt geq : T → T → Bool) : ArrayProgram T Unit := do
  if (← integer (stop - start)) > 1 then
    let (s, i) ← groupLoop lt gt geq stop fuel start (← integer (start + 1))
    if !geq (← readCell s) (← readCell i) then
      quickSortPtr fuel s (← integer (i - 1)) lt gt

/-! ## What it is meant to do -/

/-- A maximal run of equal elements inside a range. -/
structure GroupRun (geq : T → T → Bool) (start stop p q : Int) (f : Int → Option T) : Prop where
  lower : start ≤ p
  upper : q ≤ stop
  equal : ∀ k ∈ Set.Icc p q, ∀ l ∈ Set.Icc p q, ∀ x ∈ f k, ∀ y ∈ f l, geq x y
  first : p = start ∨ ∀ x ∈ f (p - 1), ∀ y ∈ f p, ¬ geq x y
  last : q = stop ∨ ∀ x ∈ f q, ∀ y ∈ f (q + 1), ¬ geq x y

/-- Elements are moved inside their runs only, which are sorted, and no index outside the range is touched. -/
structure GroupsSorted (lt geq : T → T → Bool) (start stop : Int) (s t : List T × List Int) : Prop where
  length : t.1.length = s.1.length
  moves : ∃ σ : Equiv.Perm Int, (∀ k, k ∉ Set.Icc start stop → σ k = k) ∧
    (∀ p q, GroupRun geq start stop p q (cellAt s.1) → ∀ k ∈ Set.Icc p q, σ k ∈ Set.Icc p q) ∧
    ∀ k, cellAt t.1 k = cellAt s.1 (σ k)
  ordered : ∀ p q, GroupRun geq start stop p q (cellAt s.1) →
    Rearranged.Ordered (fun x y => ¬ lt y x) (Set.Icc p q) (cellAt t.1)
  touches : ∀ k ∈ t.2, k ∈ s.2 ∨ k ∈ Set.Icc start stop

def SortsGroups (lt gt geq : T → T → Bool) (cells : List T) (start stop : Int) : Prop :=
  ∃ enough, ∀ fuel ≥ enough, Post (quickSortGroupPtr fuel start stop lt gt geq) (cells, [])
    (fun _ t => GroupsSorted lt geq start stop (cells, []) t) (fun _ _ => False)

/-! ## The look-ahead -/

section

variable {lt gt geq : T → T → Bool} {start stop : Int} {s : List T × List Int}

/-- What has been touched stays recorded. -/
def Recorded (s t : List T × List Int) : Prop := s.2 ⊆ t.2

instance : Steps (Recorded (T := T)) (fun (_ : SortFault) _ _ => True) where
  refl := fun s => List.Subset.refl s.2
  trans := fun h h' => List.Subset.trans h h'
  absorb := fun _ h => h

/-- A program that keeps the record, however it ends. -/
abbrev Records {α : Type} (x : ArrayProgram T α) : Prop :=
  Keeps Recorded (fun (_ : SortFault) _ _ => True) x

instance records_throw {α : Type} (e : SortFault) : Records (throw e : ArrayProgram T α) where
  post := fun _ => trivial

instance records_readCell (i : Int) : Records (readCell i : ArrayProgram T T) where
  post := by
    intro s
    unfold readCell
    rw [post_bind, post_emit, post_bind, post_get]
    cases cellAt s.1 i with
    | none => trivial
    | some x => exact List.subset_append_left s.2 [i]

instance records_writeCell (i : Int) (x : T) : Records (writeCell i x) where
  post := by
    intro s
    unfold writeCell
    rw [post_bind, post_emit, post_bind, post_get]
    cases cellAt s.1 i with
    | none => trivial
    | some y => exact List.subset_append_left s.2 [i]

instance records_integer (i : Int) : Records (integer i : ArrayProgram T Int) := by
  unfold integer
  infer_instance

theorem records_scan (stays : T → Bool) (d : Int) (fuel : Nat) (i : Int) : Records (scan stays d fuel i) := by
  induction fuel generalizing i with
  | zero => exact records_throw _
  | succ fuel ih =>
    unfold scan
    infer_instance

instance records_exchange (i j : Int) : Records (exchange i j : ArrayProgram T (Int × Int)) := by
  unfold exchange
  infer_instance

theorem records_partition (lt gt : T → T → Bool) (v : T) (fuel : Nat) (i j : Int) :
    Records (partition lt gt v fuel i j) := by
  induction fuel generalizing i j with
  | zero => exact records_throw _
  | succ fuel ih =>
    have hscan := records_scan (T := T)
    unfold partition
    infer_instance

theorem records_quickSortBy (lt gt : T → T → Bool) (fuel : Nat) (start stop : Int) :
    Records (quickSortBy lt gt fuel start stop) := by
  induction fuel generalizing start stop with
  | zero => exact records_throw _
  | succ fuel ih =>
    have hpartition := records_partition lt gt
    unfold quickSortBy
    infer_instance

instance records_quickSortPtr (fuel : Nat) (start stop : Int) : Records (quickSortPtr fuel start stop lt gt) :=
  records_quickSortBy lt gt fuel start stop

theorem records_read (i : Int) :
    Post (readCell i : ArrayProgram T T) s (fun _ t => i ∈ t.2) (fun _ _ => True) := by
  unfold readCell
  rw [post_bind, post_emit, post_bind, post_get]
  cases cellAt s.1 i with
  | none => trivial
  | some x => exact List.mem_append_right s.2 (List.mem_singleton_self i)

theorem integer_value (i : Int) :
    Post (integer i : ArrayProgram T Int) s (fun r _ => r = i) (fun _ _ => True) := by
  unfold integer
  by_cases hfits : -2 ^ 31 ≤ i ∧ i < 2 ^ 31
  · rw [if_pos hfits, post_pure]
  · rw [if_neg hfits]
    trivial

/-- The loop is left one past the range. -/
theorem groupLoop_ends (fuel : Nat) (g i : Int) (hi : i ≤ stop + 1) :
    Post (groupLoop lt gt geq stop fuel g i) s (fun r _ => r.2 = stop + 1) (fun _ _ => True) := by
  induction fuel generalizing s g i with
  | zero => trivial
  | succ fuel ih =>
    unfold groupLoop
    by_cases hin : i ≤ stop
    · have hnext : ∀ (g : Int) (t : List T × List Int),
          Post (integer (i + 1) >>= fun j => groupLoop lt gt geq stop fuel g j) t (fun r _ => r.2 = stop + 1)
            (fun _ _ => True) := by
        intro g t
        apply (integer_value (i + 1)).bind
        intro j t hj
        exact ih g j (by omega)
      rw [if_pos hin]
      apply post_true.bind
      intro x t _
      apply post_true.bind
      intro y t _
      by_cases hgroup : (!geq x y) = true
      · rw [if_pos hgroup]
        apply post_true.bind
        intro k t _
        apply post_true.bind
        intro _ t _
        exact hnext i t
      · rw [if_neg hgroup]
        exact hnext g t
    · rw [if_neg hin, post_pure]
      show i = stop + 1
      omega

/-- With three elements or more, the one behind the range is read. -/
theorem group_reads_behind (fuel : Nat) (h : start + 1 < stop) :
    Post (quickSortGroupPtr fuel start stop lt gt geq) s (fun _ t => stop + 1 ∈ t.2) (fun _ _ => True) := by
  unfold quickSortGroupPtr
  apply (integer_value (stop - start)).bind
  intro d t hd
  rw [if_pos (by omega)]
  apply (integer_value (start + 1)).bind
  intro i t hi
  apply (groupLoop_ends fuel start i (by omega)).bind
  intro r t hr
  obtain ⟨g, i⟩ := r
  obtain rfl : i = stop + 1 := hr
  apply post_true.bind
  intro x t _
  apply (records_read (stop + 1)).bind
  intro y t hread
  by_cases hgroup : (!geq x y) = true
  · rw [if_pos hgroup]
    have hsort : Records (integer (stop + 1 - 1) >>= fun j => quickSortPtr fuel g j lt gt) := inferInstance
    exact (hsort.post t).imp fun _ _ hkept => hkept hread
  · rw [if_neg hgroup]
    exact hread

theorem group_not_sorted {cells : List T} {fuel : Nat} (h : start + 1 < stop)
    (hrun : Post (quickSortGroupPtr fuel start stop lt gt geq) (cells, [])
      (fun _ t => GroupsSorted lt geq start stop (cells, []) t) (fun _ _ => False)) : False := by
  obtain ⟨_, t, hok, hsorted⟩ := hrun.exists_ok
  have hread : stop + 1 ∈ t.2 := (group_reads_behind fuel h).of_ok hok
  cases hsorted.touches _ hread with
  | inl hnone => exact absurd hnone List.not_mem_nil
  | inr hin => exact absurd hin.2 (by omega)

/-- Ranges of one and of two elements are left as they are. -/
theorem group_untouched (fuel : Nat) (hlow : start ≤ stop) (hhigh : stop ≤ start + 1) :
    (quickSortGroupPtr fuel start stop lt gt geq : ArrayProgram T Unit) = pure () := by
  unfold quickSortGroupPtr integer
  rw [if_pos (by omega), pure_bind, if_neg (by omega)]

/-! ## When the groups are sorted -/

/-- Runs of one element have nothing to sort, and two elements of one run may stand as they do. -/
def AlreadySorted (lt geq : T → T → Bool) (cells : List T) (start stop : Int) : Prop :=
  start = stop ∨ stop = start + 1 ∧
    ∀ x ∈ cellAt cells start, ∀ y ∈ cellAt cells stop, geq x y → ¬ lt y x

theorem groupsSorted_refl {cells : List T} {l : List Int} (h : AlreadySorted lt geq cells start stop) :
    GroupsSorted lt geq start stop (cells, l) (cells, l) where
  length := rfl
  moves := ⟨1, fun _ _ => rfl, fun _ _ _ _ hk => hk, fun _ => rfl⟩
  ordered := by
    intro p q hrun k hk m hm hkm x hx y hy
    have hlower := hrun.lower.trans hk.1
    have hupper := hm.2.trans hrun.upper
    obtain rfl | ⟨hstop, hsorted⟩ := h
    · omega
    · obtain rfl : k = start := by omega
      obtain rfl : m = stop := by omega
      exact hsorted x hx y hy (hrun.equal k hk m hm x hx y hy)
  touches := fun _ hk => .inl hk

theorem two_sorted {cells : List T} {l : List Int} (hrefl : ∀ x, geq x x) (hsymm : ∀ x y, geq x y → geq y x)
    (hstop : stop = start + 1) (h : GroupsSorted lt geq start stop (cells, l) (cells, l)) :
    AlreadySorted lt geq cells start stop := by
  refine .inr ⟨hstop, fun x hx y hy heq => ?_⟩
  have hone : ∀ k ∈ Set.Icc start stop, ∀ z ∈ cellAt cells k, z = x ∨ z = y := by
    intro k hk z hz
    have hlow := hk.1
    have hhigh := hk.2
    by_cases hkstart : k = start
    · subst hkstart
      exact .inl (Option.some.inj (hz.symm.trans hx))
    · obtain rfl : k = stop := by omega
      exact .inr (Option.some.inj (hz.symm.trans hy))
  have hrun : GroupRun geq start stop start stop (cellAt cells) := by
    refine ⟨le_rfl, le_rfl, fun k hk m hm z hz w hw => ?_, .inl rfl, .inl rfl⟩
    cases hone k hk z hz with
    | inl hzx =>
      cases hone m hm w hw with
      | inl hwx => exact hzx ▸ hwx ▸ hrefl x
      | inr hwy => exact hzx ▸ hwy ▸ heq
    | inr hzy =>
      cases hone m hm w hw with
      | inl hwx => exact hzy ▸ hwx ▸ hsymm x y heq
      | inr hwy => exact hzy ▸ hwy ▸ hrefl y
  exact h.ordered start stop hrun start ⟨le_rfl, by omega⟩ stop ⟨by omega, le_rfl⟩ (by omega) x hx y hy

theorem sortsGroups_iff (lt gt geq : T → T → Bool) (cells : List T) (start stop : Int) (hrange : start ≤ stop)
    (hgeq : Equivalence fun x y => geq x y = true) :
    SortsGroups lt gt geq cells start stop ↔ AlreadySorted lt geq cells start stop := by
  constructor
  · intro h
    obtain ⟨enough, hsorts⟩ := h
    have hrun := hsorts enough le_rfl
    by_cases hlong : start + 1 < stop
    · exact (group_not_sorted hlong hrun).elim
    · rw [group_untouched enough hrange (by omega), post_pure] at hrun
      by_cases hone : start = stop
      · exact .inl hone
      · exact two_sorted hgeq.refl (fun _ _ => hgeq.symm) (by omega) hrun
  · intro h
    refine ⟨0, fun fuel _ => ?_⟩
    have hshort : stop ≤ start + 1 := by
      obtain hone | htwo := h
      · omega
      · omega
    rw [group_untouched fuel hrange hshort, post_pure]
    exact groupsSorted_refl h

end

def intLess (a b : Int) : Bool := decide (a < b)

def oneGroup : Int → Int → Bool := fun _ _ => true

theorem sortsGroups_iff_pair :
    SortsGroups intLess (fun a b => intLess b a) oneGroup [2, 1] 0 1 ↔ AlreadySorted intLess oneGroup [2, 1] 0 1 :=
  sortsGroups_iff _ _ _ _ _ _ (by decide) ⟨fun _ => rfl, fun _ => rfl, fun _ _ => rfl⟩

/-- Three elements of one group are left unsorted, because the element behind them is of their group, too. -/
theorem groups_left_unsorted :
    IsStrictWeakOrder Int (fun a b => intLess a b = true) ∧ Equivalence (fun a b => oneGroup a b = true) ∧
      (quickSortGroupPtr 10 0 2 intLess (fun a b => intLess b a) oneGroup ([3, 2, 1, 1], []) =
        .ok () ([3, 2, 1, 1], [0, 1, 0, 2, 0, 3])) ∧
      ¬ SortsGroups intLess (fun a b => intLess b a) oneGroup [3, 2, 1, 1] 0 2 := by
  refine ⟨?_, ⟨fun _ => rfl, fun _ => rfl, fun _ _ => rfl⟩, rfl, ?_⟩
  · simpa [intLess] using Rearranged.strictWeakOrder_key fun a : Int => a
  · intro h
    obtain ⟨enough, hsorts⟩ := h
    exact group_not_sorted (by decide) (hsorts enough le_rfl)

end SocketApi.Sorting
