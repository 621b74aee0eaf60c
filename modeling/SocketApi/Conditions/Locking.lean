import SocketApi.Conditions.Condition

/-!
# The locks of conditions

Every call takes the locks it needs and gives them back. So no two threads use a condition at the same
time, whatever the order of their steps; and if the parents of all conditions are above them in some
order, threads that use conditions never lock each other out.
-/

namespace SocketApi

open Monitor

namespace Threads.Condition

variable {ι : Type} [DecidableEq ι] {below : ConditionPtr → ConditionPtr → Prop} {h : ConditionPtr → Nat} {k : Steps}
  {c p : ConditionPtr}

theorem last_bump (hc : ∀ m, 0 < h m → below m c) : Last below c (bump h c) := by
  refine ⟨by simp, fun m hm => ?_⟩
  by_cases hmc : m = c
  · exact .inl hmc
  · rw [bump_of_ne hmc] at hm
    exact .inr (hc m hm)

theorem last_bump_unlocked : Last below c (bump unlocked c) := last_bump fun _ hm => absurd hm (Nat.lt_irrefl 0)

theorem fits_fire {all : Bool} (hc : ∀ m, 0 < h m → below m c) (hk : Fits (rules below) h k) :
    Fits (rules below) h (fire all c ++ k) := by
  have hpos : 0 < bump h c c := by simp
  have hrest : Fits (rules below) (bump h c) (.access (.fireParents all c) :: .unlock c :: k) :=
    .access (last_bump hc) (.unlock hpos (by simpa using hk))
  cases all with
  | false => exact .lock hc (.access ⟨hpos, _, .inl rfl⟩ (.signal hpos hrest))
  | true => exact .lock hc (.access ⟨hpos, _, .inr rfl⟩ (.broadcast hpos hrest))

/-- The parents of the last condition are fired behind it. -/
theorem fits_parents [IsTrans ConditionPtr below] {all : Bool} (hlast : Last below c h) {parents : List ConditionPtr}
    (hparents : ∀ p ∈ parents, below c p) (hk : Fits (rules below) h k) :
    Fits (rules below) h (parents.flatMap (fire all) ++ k) := by
  induction parents with
  | nil => exact hk
  | cons p parents ih =>
    rw [List.flatMap_cons, List.append_assoc]
    refine fits_fire (fun m hm => ?_) (ih fun q hq => hparents q (List.mem_cons_of_mem p hq))
    have hp : below c p := hparents p (List.mem_cons_self ..)
    rcases hlast.2 m hm with rfl | hmc
    · exact hp
    · exact IsTrans.trans _ _ _ hmc hp

theorem fits_timedWait (hk : Fits (rules below) unlocked k) : Fits (rules below) unlocked (timedWait c ++ k) := by
  have hc : (rules below).admits unlocked c := fun _ hm => absurd hm (Nat.lt_irrefl 0)
  exact .lock hc (.access rfl (.unlock (by simp) (by simpa using hk)))

theorem fits_wait (hk : Fits (rules below) unlocked k) : Fits (rules below) unlocked (wait c ++ k) := by
  unfold wait
  rw [List.append_assoc]
  exact fits_timedWait (.access rfl hk)

theorem fits_call {call : Call} (hcall : call.Upward below) : Fits (rules below) unlocked call.code := by
  have hlock (c : ConditionPtr) : (rules below).admits unlocked c := fun _ hm => absurd hm (Nat.lt_irrefl 0)
  have hpos (c : ConditionPtr) : 0 < bump unlocked c c := by simp
  have hend (c : ConditionPtr) : Fits (rules below) (bump unlocked c) [.unlock c] := .unlock (hpos c) (by simpa using .nil)
  cases call with
  | addParent c p =>
    cases p with
    | none => exact .nil
    | some p => exact .lock (hlock c) (.access ⟨hpos c, hcall⟩ (.access ⟨last_bump_unlocked, hcall⟩ (hend c)))
  | removeParent c p =>
    cases p with
    | none => exact .nil
    | some p => exact .lock (hlock c) (.access (hpos c) (hend c))
  | signal c => simpa [Call.code] using fits_fire (hlock c) (Fits.nil (R := rules below))
  | broadcast c => simpa [Call.code] using fits_fire (hlock c) (Fits.nil (R := rules below))
  | fired c => exact .lock (hlock c) (.access (hpos c) (.access (hpos c) (hend c)))
  | peekFired c => exact .lock (hlock c) (.access (hpos c) (hend c))
  | timedWait c => simpa [Call.code] using fits_timedWait (c := c) (Fits.nil (R := rules below))
  | wait c => simpa [Call.code] using fits_wait (c := c) (Fits.nil (R := rules below))

theorem mem_insertSorted {q : ConditionPtr} {set : List ConditionPtr} (h : q ∈ insertSorted p set) : q = p ∨ q ∈ set := by
  unfold insertSorted at h
  split at h
  · exact .inr h
  · simpa using h

theorem obeys [IsTrans ConditionPtr below] {allowed : Call → Prop} (hallowed : ∀ call, allowed call → call.Upward below) :
    Obeys (machine ι) (rules below) (Ordered below) allowed where
  idle _ _ hm := absurd hm (Nat.lt_irrefl 0)
  program call hcall := fits_call (hallowed call hcall)
  exec i a d h k hd ha hk := by
    change Fits (rules below) h ((exec i a d).2 ++ k)
    cases a with
    | broadcastIfFired c p =>
      obtain ⟨hlast, hp⟩ := ha
      unfold exec
      dsimp only
      split
      · have hparents : ∀ q ∈ [p], below c q := by simpa using hp
        exact fits_parents hlast hparents hk
      · exact hk
    | fireParents all c => exact fits_parents ha (hd c) hk
    | testFired c =>
      obtain rfl : h = bump unlocked c := ha
      unfold exec
      dsimp only
      split
      · exact .access (by simp [rules]) hk
      · exact .wait (by simp [rules]) trivial rfl hk
    | testAgain c =>
      obtain rfl : h = bump unlocked c := ha
      refine .unlock (by simp) ?_
      rw [drop_bump]
      exact .lock (fun _ hm => absurd hm (Nat.lt_irrefl 0)) (.access rfl hk)
    | waitAgain c =>
      obtain rfl : h = unlocked := ha
      unfold exec
      dsimp only
      split
      · exact hk
      · exact fits_wait hk
    | insertParent | eraseParent | setFired | readFired | resetFired | takeFired | timedOut => exact hk
  kept i a d h k hd ha := by
    change Ordered below (exec i a d).1
    cases a with
    | insertParent c p =>
      intro c' q hq
      by_cases hc : c' = c
      · subst hc
        unfold exec at hq
        dsimp only at hq
        rw [Function.update_self] at hq
        rcases mem_insertSorted hq with rfl | hq
        · exact ha.2
        · exact hd c' q hq
      · unfold exec at hq
        dsimp only at hq
        rw [Function.update_of_ne hc] at hq
        exact hd c' q hq
    | eraseParent c p =>
      intro c' q hq
      by_cases hc : c' = c
      · subst hc
        unfold exec at hq
        dsimp only at hq
        rw [Function.update_self] at hq
        exact hd c' q (List.mem_of_mem_erase hq)
      · unfold exec at hq
        dsimp only at hq
        rw [Function.update_of_ne hc] at hq
        exact hd c' q hq
    | broadcastIfFired | setFired | fireParents | readFired | resetFired | testFired | takeFired | timedOut | testAgain
    | waitAgain => exact hd

omit [DecidableEq ι] in
theorem good_initial : Good (rules below) (Ordered below) (initial ι) where
  data _ _ hp := absurd hp List.not_mem_nil
  fits _ := .nil
  exclusive _ _ _ hi := absurd hi (Nat.lt_irrefl 0)

/-! ## One thread at a time -/

/-- The condition whose fired state or parents an access uses. -/
def Access.condition : Access → Option ConditionPtr
  | .insertParent c _ | .broadcastIfFired c _ | .eraseParent c _ | .setFired c | .fireParents _ c | .readFired c
  | .resetFired c | .testFired c | .takeFired c => some c
  | .timedOut _ | .testAgain _ | .waitAgain _ => none

theorem held_of_needs {a : Access} (ha : (rules below).needs a h k) (hc : a.condition = some c) : 0 < h c := by
  cases a with
  | insertParent | setFired | fireParents =>
    obtain rfl := Option.some.inj hc
    exact ha.1
  | broadcastIfFired =>
    obtain rfl := Option.some.inj hc
    exact ha.1.1
  | eraseParent | readFired | resetFired | takeFired =>
    obtain rfl := Option.some.inj hc
    exact ha
  | testFired =>
    obtain rfl := Option.some.inj hc
    obtain rfl := ha
    simp
  | timedOut | testAgain | waitAgain => cases hc

/-- All conditions in one order. -/
abbrev Anyhow (_ _ : ConditionPtr) : Prop := True

instance : IsTrans ConditionPtr Anyhow := ⟨fun _ _ _ _ _ => trivial⟩

theorem Call.upward_anyhow (call : Call) : call.Upward Anyhow := by
  cases call with
  | addParent c p => cases p <;> trivial
  | removeParent | signal | broadcast | fired | peekFired | timedWait | wait => trivial

/-- Whatever threads call in whatever order, also around a circle of parents: an access to a condition
is made by the thread that has locked it, which is the only one, and so is `unsynchronized`. -/
theorem conditions_exclusive {ls : List (Label ι ConditionPtr Access Call)}
    {s : State ι ConditionPtr Access (Conditions ι)}
    (hrun : Trace (machine ι) (fun _ => True) (initial ι) ls s) :
    (∀ i a c k, s.code i = .access a :: k → a.condition = some c → 0 < s.held i c) ∧
    (∀ i c k, s.code i = .unlock c :: k → 0 < s.held i c) ∧
    ∀ c i j, 0 < s.held i c → 0 < s.held j c → i = j := by
  have hgood := good_initial.trace (obeys fun call _ => call.upward_anyhow) hrun
  refine ⟨fun i a c k hcode hc => ?_, fun i c k hcode => ?_, hgood.exclusive⟩
  · have hfits := hgood.fits i
    rw [hcode] at hfits
    exact held_of_needs hfits.of_access.1 hc
  · have hfits := hgood.fits i
    rw [hcode] at hfits
    exact hfits.of_unlock.1

/-- One thread has locked the condition 1 to fire it, and another one is about to lock it. -/
def firing : State Bool ConditionPtr Access (Conditions Bool) :=
  ((((initial Bool).goto true (fire true 1)).hold true (bump unlocked 1)).goto true (fire true 1).tail).goto false (fired 1)

theorem run_firing {allowed : Call → Prop} (hbroadcast : allowed (.broadcast 1)) (hfired : allowed (.fired 1)) :
    Trace (machine Bool) allowed (initial Bool)
      [.call true (.broadcast 1), .run true (.lock 1), .call false (.fired 1)] firing := by
  refine .cons (.call _ rfl) (fun _ _ h => ?_) (.cons (.lock rfl fun _ _ => rfl) (fun _ _ h => ?_)
    (.cons (.call _ rfl) (fun _ _ h => ?_) (.nil _)))
  · cases h
    exact hbroadcast
  · cases h
  · cases h
    exact hfired

theorem conditions_exclusive_firing : ∃ k, firing.code true = .access (.setFired 1) :: k ∧ 0 < firing.held true 1 ∧
    ¬0 < firing.held false 1 := by
  obtain ⟨haccess, -, hexclusive⟩ := conditions_exclusive (run_firing trivial trivial)
  have hheld := haccess true _ 1 _ rfl rfl
  exact ⟨_, rfl, hheld, fun h => Bool.noConfusion (hexclusive 1 _ _ hheld h)⟩

/-! ## No deadlock -/

/-- If a condition is only ever added to parents of higher rank, then some thread can go on as long as one
has something to do and does not sleep. -/
theorem conditions_progress [Finite ι] {rank : ConditionPtr → Nat} {ls : List (Label ι ConditionPtr Access Call)}
    {s : State ι ConditionPtr Access (Conditions ι)}
    (hrun : Trace (machine ι) (Call.Upward fun c p => rank c < rank p) (initial ι) ls s) {i : ι} (hi : Awake s i) :
    ∃ j c t, Awake s j ∧ Step (machine ι) s (.run j c) t := by
  have : IsTrans ConditionPtr fun c p => rank c < rank p := ⟨fun _ _ _ h h' => h.trans h'⟩
  have hranked : Ranked (rules fun c p => rank c < rank p) rank := fun _ _ hadmits => .inr hadmits
  exact (good_initial.trace (obeys fun _ h => h) hrun).progress hranked hi

/-- The thread that is about to lock the condition is awake. -/
theorem conditions_progress_firing : ∃ j c t, Awake firing j ∧ Step (machine Bool) firing (.run j c) t := by
  have hawake : Awake firing false := ⟨.lock 1, _, rfl, fun _ _ _ _ h => by cases h⟩
  exact @conditions_progress Bool _ _ id _ _ (run_firing trivial trivial) _ hawake

end Threads.Condition

end SocketApi
