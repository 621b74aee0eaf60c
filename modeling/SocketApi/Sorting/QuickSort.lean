import SocketApi.Lib.Rearranged
import SocketApi.Lib.Traced
import Mathlib.Data.Int.ConditionallyCompleteOrder

/-!
# Quick sort

`quickSort` and `quickSortPtr` of `tools.icc`. The indices are 32-bit integers, and an index that is touched
is recorded. The scans have no guards of their own: each one is stopped by an element that is known to be
ahead of it, the pivot in the first round and an exchanged element in the later ones.
-/

namespace SocketApi.Sorting

open Effect

/-! ## Arrays in memory -/

/-- What ends a program that does not return: an access outside the array, a 32-bit overflow, or no end. -/
inductive SortFault
  | outside
  | overflow
  | unfinished
  deriving DecidableEq, Repr

/-- A program over an array that records the indices it touches. -/
abbrev ArrayProgram (T α : Type) := Traced Int SortFault (List T) α

variable {T : Type}

def cellAt (cells : List T) (i : Int) : Option T := if i < 0 then none else cells[i.toNat]?

def readCell (i : Int) : ArrayProgram T T := do
  emit i
  match cellAt (← get).1 i with
  | some x => return x
  | none => throw .outside

def writeCell (i : Int) (x : T) : ArrayProgram T Unit := do
  emit i
  match cellAt (← get).1 i with
  | some _ => modify fun s => (s.1.set i.toNat x, s.2)
  | none => throw .outside

/-- The result of an operation on `integer`. -/
def integer (i : Int) : ArrayProgram T Int :=
  if -2 ^ 31 ≤ i ∧ i < 2 ^ 31 then return i else throw .overflow

/-! ## The source -/

/-- `while(stays(array[i])) i += step;` -/
def scan (stays : T → Bool) (step : Int) : Nat → Int → ArrayProgram T Int
  | 0, _ => throw .unfinished
  | fuel + 1, i => do
    if stays (← readCell i) then
      scan stays step fuel (← integer (i + step))
    else
      return i

/-- The exchange at the end of a round, with the steps past the two elements. -/
def exchange (i j : Int) : ArrayProgram T (Int × Int) := do
  if i ≤ j then
    let temp ← readCell i
    writeCell i (← readCell j)
    writeCell j temp
    return (← integer (i + 1), ← integer (j - 1))
  else
    return (i, j)

/-- The `do` loop, with the pivot `v`. -/
def partition (lt gt : T → T → Bool) (v : T) : Nat → Int → Int → ArrayProgram T (Int × Int)
  | 0, _, _ => throw .unfinished
  | fuel + 1, i, j => do
    let i ← scan (fun x => lt x v) 1 fuel i
    let j ← scan (fun x => gt x v) (-1) fuel j
    let (i, j) ← exchange i j
    if j ≥ i then partition lt gt v fuel i j else return (i, j)

/-- The two functions differ in how elements are compared. -/
def quickSortBy (lt gt : T → T → Bool) : Nat → Int → Int → ArrayProgram T Unit
  | 0, _, _ => throw .unfinished
  | fuel + 1, start, stop => do
    let v ← readCell ((← integer (start + stop)).tdiv 2)
    let (i, j) ← partition lt gt v fuel start stop
    if start < j then quickSortBy lt gt fuel start j
    if i < stop then quickSortBy lt gt fuel i stop

def quickSortPtr (fuel : Nat) (start stop : Int) (lt gt : T → T → Bool) : ArrayProgram T Unit :=
  quickSortBy lt gt fuel start stop

def quickSort [LT T] [DecidableLT T] (fuel : Nat) (start stop : Int) : ArrayProgram T Unit :=
  quickSortBy (fun a b => decide (a < b)) (fun a b => decide (a > b)) fuel start stop

/-! ## Cells -/

section

variable {cells : List T} {l : List Int} {s t u : List T × List Int} {start stop i j : Int} {x y : T}

theorem exists_cellAt (hlow : 0 ≤ i) (hhigh : i < cells.length) : ∃ x, cellAt cells i = some x := by
  refine ⟨cells.get ⟨i.toNat, by omega⟩, ?_⟩
  unfold cellAt
  rw [if_neg (by omega)]
  exact List.getElem?_eq_getElem _

theorem cellAt_set (h : cellAt cells i = some y) (k : Int) :
    cellAt (cells.set i.toNat x) k = if k = i then some x else cellAt cells k := by
  unfold cellAt at *
  by_cases hi : i < 0
  · rw [if_pos hi] at h
    cases h
  rw [if_neg hi] at h
  obtain ⟨hlen, -⟩ := List.getElem?_eq_some_iff.mp h
  by_cases hk : k = i
  · subst hk
    rw [if_neg hi, if_pos rfl, List.getElem?_set_self hlen]
  · rw [if_neg hk]
    by_cases hk0 : k < 0
    · rw [if_pos hk0, if_pos hk0]
    · rw [if_neg hk0, if_neg hk0, List.getElem?_set_ne (by omega)]

theorem post_readCell {Q : T → List T × List Int → Prop} {H : SortFault → List T × List Int → Prop}
    (h : cellAt cells i = some x) : Post (readCell i) (cells, l) Q H ↔ Q x (cells, l ++ [i]) := by
  unfold readCell
  simp only [post_bind, post_emit, post_get, h, post_pure]

theorem post_writeCell {Q : Unit → List T × List Int → Prop} {H : SortFault → List T × List Int → Prop}
    (h : cellAt cells i = some y) :
    Post (writeCell i x) (cells, l) Q H ↔ Q () (cells.set i.toNat x, l ++ [i]) := by
  unfold writeCell
  simp only [post_bind, post_emit, post_get, h, post_modify]

theorem post_integer {Q : Int → List T × List Int → Prop} {H : SortFault → List T × List Int → Prop}
    (hlow : -2 ^ 31 ≤ i) (hhigh : i < 2 ^ 31) : Post (integer i) s Q H ↔ Q i s := by
  unfold integer
  rw [if_pos ⟨hlow, hhigh⟩, post_pure]

/-! ## What a program leaves as it was -/

/-- Between the two states elements are moved inside the range, and no index outside it is touched. -/
structure Within (start stop : Int) (s t : List T × List Int) : Prop where
  length : t.1.length = s.1.length
  moves : Rearranged.Moves (Set.Icc start stop) (cellAt s.1) (cellAt t.1)
  touches : ∀ k ∈ t.2, k ∈ s.2 ∨ k ∈ Set.Icc start stop

namespace Within

theorem refl (start stop : Int) (s : List T × List Int) : Within start stop s s :=
  ⟨rfl, .refl _ _, fun _ hk => .inl hk⟩

theorem trans (h : Within start stop s t) (h' : Within start stop t u) : Within start stop s u where
  length := h'.length.trans h.length
  moves := h.moves.trans h'.moves
  touches := by
    intro k hk
    cases h'.touches k hk with
    | inl hk => exact h.touches k hk
    | inr hk => exact .inr hk

theorem mono (h : Within i j s t) (hlow : start ≤ i) (hhigh : j ≤ stop) : Within start stop s t where
  length := h.length
  moves := h.moves.mono (Set.Icc_subset_Icc hlow hhigh)
  touches := fun k hk => (h.touches k hk).imp_right fun hin => Set.Icc_subset_Icc hlow hhigh hin

theorem read (h : i ∈ Set.Icc start stop) : Within start stop s (s.1, s.2 ++ [i]) where
  length := rfl
  moves := .refl _ _
  touches := by
    intro k hk
    cases List.mem_append.mp hk with
    | inl hk => exact .inl hk
    | inr hk => exact .inr (List.mem_singleton.mp hk ▸ h)

end Within

/-- A range of an array whose indices can be added without an overflow. -/
structure Span (cells : List T) (start stop : Int) : Prop where
  lower : 0 ≤ start
  upper : stop < cells.length
  small : stop < 2 ^ 30

theorem Span.cell (h : Span cells start stop) (hi : i ∈ Set.Icc start stop) : ∃ x, cellAt cells i = some x :=
  exists_cellAt (h.lower.trans hi.1) (hi.2.trans_lt h.upper)

theorem Span.sub (h : Span cells start stop) (hlow : start ≤ i) (hhigh : j ≤ stop) : Span cells i j :=
  ⟨h.lower.trans hlow, hhigh.trans_lt h.upper, hhigh.trans_lt h.small⟩

theorem Span.after (h : Span s.1 start stop) (hst : Within i j s t) : Span t.1 start stop :=
  ⟨h.lower, hst.length ▸ h.upper, h.small⟩

/-! ## The scans -/

/-- A scan ends at the first element that does not stay, when there is one in the range. -/
theorem scan_stops (stays : T → Bool) (d : Int) (n fuel : Nat) (i : Int) (hfuel : n < fuel) (hs : Span s.1 start stop)
    (hin : ∀ m ≤ n, i + d * (m : Nat) ∈ Set.Icc start stop)
    (hsentinel : ∃ x ∈ cellAt s.1 (i + d * n), stays x = false) :
    Post (scan stays d fuel i) s
      (fun i' t => t.1 = s.1 ∧ Within start stop s t ∧ ∃ m ≤ n, i' = i + d * m ∧
        (∀ l < m, ∀ x ∈ cellAt s.1 (i + d * (l : Nat)), stays x = true) ∧ ∃ x ∈ cellAt s.1 i', stays x = false)
      (fun _ _ => False) := by
  induction n generalizing fuel i s with
  | zero =>
    obtain ⟨x, hx, hstays⟩ := hsentinel
    cases fuel with
    | zero => omega
    | succ fuel =>
      have hi : i ∈ Set.Icc start stop := by simpa using hin 0 le_rfl
      have hx : cellAt s.1 i = some x := by simpa using hx
      unfold scan
      rw [post_bind, post_readCell hx, hstays, if_neg Bool.false_ne_true, post_pure]
      exact ⟨rfl, .read hi, 0, le_rfl, by simp, fun l hl => absurd hl (by omega), x, hx, hstays⟩
  | succ n ih =>
    cases fuel with
    | zero => omega
    | succ fuel =>
      have hi : i ∈ Set.Icc start stop := by simpa using hin 0 (by omega)
      have hpos : ∀ m : Nat, (i + d) + d * m = i + d * (m + 1 : Nat) := by
        intro m
        rw [Nat.cast_succ, mul_add, mul_one, add_comm (d * (m : Int)) d, add_assoc]
      obtain ⟨x, hx⟩ := hs.cell hi
      unfold scan
      rw [post_bind, post_readCell hx]
      by_cases hstays : stays x = true
      · have hnext : i + d ∈ Set.Icc start stop := by simpa using hin 1 (by omega)
        have hlower := hs.lower
        have hsmall := hs.small
        have hfits : -2 ^ 31 ≤ i + d ∧ i + d < 2 ^ 31 := ⟨by have := hnext.1; omega, by have := hnext.2; omega⟩
        rw [if_pos hstays, post_bind, post_integer hfits.1 hfits.2]
        have hrest := ih (s := (s.1, s.2 ++ [i])) fuel (i + d) (by omega) hs
          (fun m hm => hpos m ▸ hin (m + 1) (by omega)) (hpos n ▸ hsentinel)
        apply hrest.imp
        intro i' t h
        obtain ⟨hcells, hwithin, m, hm, hi', hall, hend⟩ := h
        refine ⟨hcells, (Within.read hi).trans hwithin, m + 1, by omega, hi'.trans (hpos m), fun l hl => ?_, hend⟩
        cases l with
        | zero =>
          intro y hy
          obtain rfl : x = y := by simpa [hx] using hy
          exact hstays
        | succ l =>
          rw [← hpos l]
          exact hall l (by omega)
      · rw [if_neg hstays, post_pure]
        exact ⟨rfl, .read hi, 0, by omega, by simp, fun l hl => absurd hl (by omega), x, hx, by simpa using hstays⟩

/-- A scan upwards, with an element at `k` that it does not pass. -/
theorem scan_up (stays : T → Bool) {fuel : Nat} {k : Int} (hs : Span s.1 start stop) (hstart : start ≤ i) (hik : i ≤ k)
    (hstop : k ≤ stop) (hsentinel : ∃ x ∈ cellAt s.1 k, stays x = false) (hfuel : k - i < fuel) :
    Post (scan stays 1 fuel i) s
      (fun i' t => t.1 = s.1 ∧ Within start stop s t ∧ i ≤ i' ∧ i' ≤ k ∧
        Rearranged.All (fun x => stays x = true) (Set.Ico i i') (cellAt s.1) ∧ ∃ x ∈ cellAt s.1 i', stays x = false)
      (fun _ _ => False) := by
  have hk : i + 1 * ((k - i).toNat : Int) = k := by omega
  have hscan := scan_stops (s := s) stays 1 (k - i).toNat fuel i (by omega) hs
    (fun m hm => ⟨by omega, by omega⟩) (hk.symm ▸ hsentinel)
  apply hscan.imp
  intro i' t h
  obtain ⟨hcells, hwithin, m, hm, rfl, hall, hend⟩ := h
  refine ⟨hcells, hwithin, by omega, by omega, fun l hl => ?_, hend⟩
  have hlow := hl.1
  have hhigh := hl.2
  have hpos : i + 1 * ((l - i).toNat : Int) = l := by omega
  exact hpos ▸ hall (l - i).toNat (by omega)

/-- A scan downwards. -/
theorem scan_down (stays : T → Bool) {fuel : Nat} {k : Int} (hs : Span s.1 start stop) (hstop : j ≤ stop) (hkj : k ≤ j)
    (hstart : start ≤ k) (hsentinel : ∃ x ∈ cellAt s.1 k, stays x = false) (hfuel : j - k < fuel) :
    Post (scan stays (-1) fuel j) s
      (fun j' t => t.1 = s.1 ∧ Within start stop s t ∧ k ≤ j' ∧ j' ≤ j ∧
        Rearranged.All (fun x => stays x = true) (Set.Ioc j' j) (cellAt s.1) ∧ ∃ x ∈ cellAt s.1 j', stays x = false)
      (fun _ _ => False) := by
  have hk : j + -1 * ((j - k).toNat : Int) = k := by omega
  have hscan := scan_stops (s := s) stays (-1) (j - k).toNat fuel j (by omega) hs
    (fun m hm => ⟨by omega, by omega⟩) (hk.symm ▸ hsentinel)
  apply hscan.imp
  intro j' t h
  obtain ⟨hcells, hwithin, m, hm, rfl, hall, hend⟩ := h
  refine ⟨hcells, hwithin, by omega, by omega, fun l hl => ?_, hend⟩
  have hlow := hl.1
  have hhigh := hl.2
  have hpos : j + -1 * ((j - l).toNat : Int) = l := by omega
  exact hpos ▸ hall (j - l).toNat (by omega)

/-! ## The exchange -/

theorem exchange_crossed (h : j < i) : (exchange i j : ArrayProgram T (Int × Int)) = pure (i, j) := by
  unfold exchange
  rw [if_neg (by omega)]

theorem exchange_swaps (hs : Span s.1 start stop) (hi : start ≤ i) (hij : i ≤ j) (hj : j ≤ stop)
    (hx : cellAt s.1 i = some x) (hy : cellAt s.1 j = some y) :
    Post (exchange i j) s
      (fun r t => r = (i + 1, j - 1) ∧ Within start stop s t ∧
        ∀ k, cellAt t.1 k = if k = i then some y else if k = j then some x else cellAt s.1 k)
      (fun _ _ => False) := by
  have hlower := hs.lower
  have hsmall := hs.small
  have hset : cellAt (s.1.set i.toNat y) j = some y := by
    rw [cellAt_set hx]
    split
    · rfl
    · exact hy
  have hcells : ∀ k, cellAt ((s.1.set i.toNat y).set j.toNat x) k =
      if k = i then some y else if k = j then some x else cellAt s.1 k := by
    intro k
    rw [cellAt_set hset, cellAt_set hx]
    by_cases hkj : k = j
    · by_cases hki : k = i
      · have heq : some x = some y := by rw [← hx, ← hy, ← hki, ← hkj]
        rw [if_pos hkj, if_pos hki, heq]
      · rw [if_pos hkj, if_neg hki, if_pos hkj]
    · rw [if_neg hkj, if_neg hkj]
  unfold exchange
  rw [if_pos hij]
  rw [post_bind, post_readCell hx, post_bind, post_readCell hy, post_bind, post_writeCell hx, post_bind,
    post_writeCell hset, post_bind, post_integer (by omega) (by omega), post_bind,
    post_integer (by omega) (by omega), post_pure]
  refine ⟨rfl, ⟨by simp, ?_, fun k hk => ?_⟩, hcells⟩
  · have hiin : i ∈ Set.Icc start stop := ⟨hi, hij.trans hj⟩
    have hjin : j ∈ Set.Icc start stop := ⟨hi.trans hij, hj⟩
    apply Rearranged.Moves.swap hiin hjin
    intro k
    rw [hcells k, hx, hy]
  · simp only [List.append_assoc, List.mem_append, List.mem_singleton] at hk
    obtain hk | rfl | rfl | rfl | rfl := hk
    · exact .inl hk
    all_goals exact .inr ⟨by omega, by omega⟩

end

end SocketApi.Sorting
