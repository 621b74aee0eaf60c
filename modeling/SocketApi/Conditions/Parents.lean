import SocketApi.Conditions.Locking

/-!
# Parents are fired

A thread that fires a condition fires its parents before it gives the lock back, and they fire theirs.
-/

namespace SocketApi

open Monitor

namespace Threads.Condition

variable {ι : Type} [DecidableEq ι] {s t : State ι ConditionPtr Access (Conditions ι)} {allowed : Call → Prop}
  {ls : List (Label ι ConditionPtr Access Call)} {c p q : ConditionPtr}

/-- `p` is a parent of `c`, and no thread removes it during the run. -/
def Linked (s : State ι ConditionPtr Access (Conditions ι)) (ls : List (Label ι ConditionPtr Access Call))
    (c p : ConditionPtr) : Prop :=
  p ∈ s.data.parentSet c ∧ ∀ j, .run j (.access (.eraseParent c p)) ∉ ls

theorem mem_insertSorted_of_mem {set : List ConditionPtr} (h : p ∈ set) : p ∈ insertSorted q set := by
  unfold insertSorted
  split
  · exact h
  · simpa using Or.inr h

theorem exec_parentSet {i : ι} {a : Access} {d : Conditions ι} (ha : a ≠ .eraseParent c p) (h : p ∈ d.parentSet c) :
    p ∈ (exec i a d).1.parentSet c := by
  cases a with
  | insertParent c' q =>
    unfold exec
    dsimp only
    by_cases hc : c = c'
    · subst hc
      rw [Function.update_self]
      exact mem_insertSorted_of_mem h
    · rwa [Function.update_of_ne hc]
  | eraseParent c' q =>
    unfold exec
    dsimp only
    by_cases hc : c = c'
    · subst hc
      rw [Function.update_self]
      refine (List.mem_erase_of_ne ?_).mpr h
      rintro rfl
      exact ha rfl
    · rwa [Function.update_of_ne hc]
  | broadcastIfFired | setFired | fireParents | readFired | resetFired | testFired | takeFired | timedOut | testAgain
  | waitAgain => exact h

theorem Linked.step {l : Label ι ConditionPtr Access Call} (h : Linked s (l :: ls) c p) (hstep : Step (machine ι) s l t) :
    Linked t ls c p := by
  obtain ⟨hp, hkept⟩ := h
  refine ⟨?_, fun j hj => hkept j (List.mem_cons_of_mem l hj)⟩
  cases hstep with
  | @access i a k hc =>
    refine exec_parentSet (i := i) (fun ha => hkept i ?_) hp
    rw [ha]
    exact List.mem_cons_self ..
  | call | lock | unlock | wait | woken | late | interrupted | signal | broadcast => exact hp

theorem Linked.trace {ls₁ ls₂ : List (Label ι ConditionPtr Access Call)} (h : Linked s (ls₁ ++ ls₂) c p)
    (hrun : Trace (machine ι) allowed s ls₁ t) : Linked t ls₂ c p := by
  induction hrun with
  | nil => exact h
  | cons hstep _ _ ih => exact ih (Linked.step h hstep)

theorem fires_linked {links : ConditionPtr → ConditionPtr → Prop} {i : ι} {all : Bool} {x k : Steps}
    (hrun : Trace (machine ι) allowed s ls t) (hs : s.code i = x ++ (fire all c ++ k))
    (ht : (t.code i).length ≤ k.length) (hlinks : ∀ c p, links c p → Linked s ls c p)
    (hq : Relation.ReflTransGen links c q) : .run i (.access (.setFired q)) ∈ ls := by
  induction hq using Relation.ReflTransGen.head_induction_on generalizing s ls x k with
  | refl =>
    have hset : s.code i = (x ++ [.lock q]) ++ .access (.setFired q) ::
        ((if all then .broadcast q else .signal q) :: .access (.fireParents all q) :: .unlock q :: k) := by
      rw [hs]
      simp [fire]
    obtain ⟨ls₁, ls₂, u, u', rfl, -⟩ := hrun.access hset (by simp; omega)
    exact List.mem_append_right _ (List.mem_cons_self ..)
  | @head c p hcp _ ih =>
    have hparents : s.code i = (x ++ [.lock c, .access (.setFired c), if all then .broadcast c else .signal c]) ++
        .access (.fireParents all c) :: .unlock c :: k := by
      rw [hs]
      simp [fire]
    obtain ⟨ls₁, ls₂, u, u', rfl, hfirst, -, hstep, hu', hrest⟩ := hrun.access hparents (by simp; omega)
    have hlinked (c' p' : ConditionPtr) (h : links c' p') := (hlinks c' p' h).trace hfirst
    have hp : p ∈ u.data.parentSet c := (hlinked c p hcp).1
    obtain ⟨before, after, hsplit⟩ := List.append_of_mem hp
    have hcode : u'.code i = before.flatMap (fire all) ++
        (fire all p ++ (after.flatMap (fire all) ++ .unlock c :: k)) := by
      rw [hu']
      change (u.data.parentSet c).flatMap (fire all) ++ .unlock c :: k = _
      rw [hsplit]
      simp
    have hmem := ih hrest hcode (by simp; omega) fun c' p' h => (hlinked c' p' h).step hstep
    exact List.mem_append_right _ (List.mem_cons_of_mem _ hmem)

/-- One thread, which fires the condition 1 below the condition 2. -/
def climbing : State Unit ConditionPtr Access (Conditions Unit) where
  data := { parentSet := fun c => if c = 1 then [2] else [] }
  held _ := unlocked
  code _ := fire true 1

def climb : List (Label Unit ConditionPtr Access Call) := [
  .run () (.lock 1), .run () (.access (.setFired 1)), .run () (.broadcast 1), .run () (.access (.fireParents true 1)),
  .run () (.lock 2), .run () (.access (.setFired 2)), .run () (.broadcast 2), .run () (.access (.fireParents true 2)),
  .run () (.unlock 2), .run () (.unlock 1)]

theorem run_climbing : ∃ t, Trace (machine Unit) (fun _ => True) climbing climb t ∧ t.code () = [] := by
  have hrun (c : Command ConditionPtr Access) (i : Unit) (op : Call) (h : .run () c = Label.call i op) : True := trivial
  refine ⟨_, .cons (.lock rfl fun _ h => absurd rfl h) (hrun _) <| .cons (.access rfl) (hrun _) <|
    .cons (.broadcast rfl) (hrun _) <| .cons (.access rfl) (hrun _) <|
    .cons (.lock rfl fun _ h => absurd rfl h) (hrun _) <| .cons (.access rfl) (hrun _) <|
    .cons (.broadcast rfl) (hrun _) <| .cons (.access rfl) (hrun _) <|
    .cons (.unlock rfl Nat.one_pos) (hrun _) <| .cons (.unlock rfl Nat.one_pos) (hrun _) (.nil _), rfl⟩

end Threads.Condition

end SocketApi
