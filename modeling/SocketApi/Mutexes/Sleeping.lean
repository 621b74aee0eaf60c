import SocketApi.Mutexes.Synchronizable
import Mathlib.Algebra.BigOperators.Group.Finset.Basic
import Mathlib.Algebra.Order.BigOperators.Group.Finset

/-!
# Waiting without recursive mutexes

`Condition::timedWait` gives the mutex of the condition to `pthread_cond_timedwait`, which unlocks it
and knows nothing of `Owner` and `RecursionLevel`. The level keeps the block of the thread that sleeps,
so that no other thread comes down to zero.
-/

namespace SocketApi

namespace Synchronizable

open Finset

variable {ι : Type} [DecidableEq ι]

/-- The steps, with those of `pthread_cond_timedwait`: a thread in a block goes to sleep, and wakes up when it can
lock the mutex again. -/
inductive WaitStep : State ι → State ι → Prop
  | step {s e t} (h : Step s e t) : WaitStep s t
  | wait {s i} (h : s.place i = .idle) (hdepth : 0 < s.depth i) :
    WaitStep s ({ s with mutex := none }.goto i .asleep)
  | wake {s i} (h : s.place i = .asleep) (hfree : s.mutex = none) :
    WaitStep s ({ s with mutex := some i }.goto i .idle)

/-- The blocks of a thread that the level counts. -/
def blocks (s : State ι) (k : ι) : Nat :=
  match s.place k with
  | .testZero | .clearingOwner | .unlocking => s.depth k - 1
  | _ => s.depth k

/-- Behind the lock of the mutex, in a call. -/
def Beyond (p : Place) : Prop :=
  p ≠ .idle ∧ p ≠ .testOwner ∧ p ≠ .locking ∧ p ≠ .tryOwner ∧ p ≠ .tryLocking ∧ p ≠ .asleep ∧ p ≠ .aborted

/-- In `unsynchronized`, before the level is known to be zero. -/
def Ending (p : Place) : Prop := p = .testLevel ∨ p = .testOwned ∨ p = .lowering ∨ p = .testZero

instance (p : Place) : Decidable (Beyond p) := by unfold Beyond; infer_instance
instance (p : Place) : Decidable (Ending p) := by unfold Ending; infer_instance

/-- What holds of one thread. -/
structure Account (s : State ι) (k : ι) : Prop where
  beyond : Beyond (s.place k) → s.mutex = some k
  owner : s.owner = some k → s.mutex = some k ∨ s.place k = .asleep
  depth : 0 < s.depth k → s.mutex = some k ∨ s.place k = .asleep
  asleep : s.place k = .asleep → 0 < s.depth k
  ending : Ending (s.place k) → 0 < s.depth k
  zero : s.place k = .clearingOwner ∨ s.place k = .unlocking → s.recursionLevel = 0
  cleared : s.place k = .unlocking → s.owner = none

structure Accounted [Fintype ι] (s : State ι) : Prop where
  each : ∀ k, Account s k
  level : s.recursionLevel = ∑ k, blocks s k

section

variable {s t : State ι} {i : ι}

omit [DecidableEq ι] in
theorem blocks_other (h : Apart i s t) {j : ι} (hj : j ≠ i) : blocks t j = blocks s j := by
  unfold blocks
  rw [h.place j hj, h.depth j hj]

omit [DecidableEq ι] in
/-- One thread does not see the step of another. -/
theorem Account.other (h : Apart i s t) (howner : ∀ j, j ≠ i → t.owner = some j → s.owner = some j) {j : ι}
    (hj : j ≠ i) (hs : Account s j) : Account t j := by
  have hplace := h.place j hj
  have hdepth := h.depth j hj
  have hmutex := h.mutex j hj
  refine ⟨?_, ?_, ?_, ?_, ?_, ?_, ?_⟩
  · rw [hplace, hmutex]
    exact hs.beyond
  · rw [hplace, hmutex]
    exact fun hown => hs.owner (howner j hj hown)
  · rw [hplace, hmutex, hdepth]
    exact hs.depth
  · rw [hplace, hdepth]
    exact hs.asleep
  · rw [hplace, hdepth]
    exact hs.ending
  · rw [hplace]
    intro hzero
    have hm := hs.beyond (by rcases hzero with hp | hp <;> rw [hp] <;> decide)
    rw [(h.data j hj hm).2]
    exact hs.zero hzero
  · rw [hplace]
    intro hcleared
    have hm := hs.beyond (by rw [hcleared]; decide)
    rw [(h.data j hj hm).1]
    exact hs.cleared hcleared

variable [Fintype ι]

theorem sum_blocks (h : Apart i s t) {m n : Nat} (hi : blocks t i + m = blocks s i + n) :
    ∑ k, blocks t k + m = ∑ k, blocks s k + n := by
  have hrest : ∑ k ∈ univ.erase i, blocks t k = ∑ k ∈ univ.erase i, blocks s k :=
    sum_congr rfl fun j hj => blocks_other h (ne_of_mem_erase hj)
  rw [← add_sum_erase univ (blocks t) (mem_univ i), ← add_sum_erase univ (blocks s) (mem_univ i), hrest]
  omega

omit [DecidableEq ι] in
theorem Accounted.blocks_le (hs : Accounted s) (k : ι) : blocks s k ≤ s.recursionLevel := by
  rw [hs.level]
  exact single_le_sum (fun _ _ => Nat.zero_le _) (mem_univ k)

theorem Accounted.next (hs : Accounted s) (h : Apart i s t)
    (howner : ∀ j, j ≠ i → t.owner = some j → s.owner = some j) (hi : Account t i) {m n : Nat}
    (hblocks : blocks t i + m = blocks s i + n) (hlevel : t.recursionLevel + m = s.recursionLevel + n) :
    Accounted t where
  each j := by
    by_cases hj : j = i
    · exact hj ▸ hi
    · exact (hs.each j).other h howner hj
  level := by
    have hsum := sum_blocks h hblocks
    have hstart := hs.level
    omega

/-- A step of the thread that has locked the mutex. -/
theorem Accounted.held (hs : Accounted s) (hm : s.mutex = some i) (ht : t.mutex = some i)
    (hplace : ∀ j, j ≠ i → t.place j = s.place j) (hdepth : ∀ j, j ≠ i → t.depth j = s.depth j)
    (howner : ∀ j, j ≠ i → t.owner = some j → s.owner = some j) (hasleep : t.place i ≠ .asleep)
    (hending : Ending (t.place i) → 0 < t.depth i)
    (hzero : t.place i = .clearingOwner ∨ t.place i = .unlocking → t.recursionLevel = 0)
    (hcleared : t.place i = .unlocking → t.owner = none) {m n : Nat} (hblocks : blocks t i + m = blocks s i + n)
    (hlevel : t.recursionLevel + m = s.recursionLevel + n) : Accounted t := by
  have hother {j : ι} (hj : j ≠ i) : s.mutex ≠ some j := fun h => hj (Option.some.inj (h.symm.trans hm))
  have hapart : Apart i s t := ⟨hplace, hdepth, fun j _ => by rw [ht, hm], fun j hj h => absurd h (hother hj)⟩
  exact hs.next hapart howner
    ⟨fun _ => ht, fun _ => .inl ht, fun _ => .inl ht, fun h => absurd h hasleep, hending, hzero, hcleared⟩ hblocks hlevel

omit [DecidableEq ι] [Fintype ι] in
theorem blocks_of_not_beyond {k : ι} (h : ¬ Beyond (s.place k)) : blocks s k = s.depth k := by
  unfold blocks
  split
  · rename_i hp
    exact absurd (by rw [hp]; decide) h
  · rename_i hp
    exact absurd (by rw [hp]; decide) h
  · rename_i hp
    exact absurd (by rw [hp]; decide) h
  · rfl

theorem Ending.beyond {p : Place} (h : Ending p) : Beyond p := by
  rcases h with rfl | rfl | rfl | rfl <;> decide

/-- A thread that need not have locked the mutex goes on. -/
theorem Accounted.goto (hs : Accounted s) {p : Place} (hp : ¬ Beyond p) (hawake : p ≠ .asleep)
    (hasleep : s.place i ≠ .asleep) (hplace : ¬ Beyond (s.place i)) : Accounted (s.goto i p) := by
  have hi := hs.each i
  refine hs.next (m := 0) (n := 0) (apart_goto p) (fun _ _ h => h) ⟨?_, ?_, ?_, ?_, ?_, ?_, ?_⟩ ?_ rfl
  · exact fun h => absurd (goto_place (s := s) p ▸ h) hp
  · exact fun h => .inl ((hi.owner h).resolve_right hasleep)
  · exact fun h => .inl ((hi.depth h).resolve_right hasleep)
  · exact fun h => absurd (goto_place (s := s) p ▸ h) hawake
  · exact fun h => absurd (goto_place (s := s) p ▸ h).beyond hp
  · rw [goto_place]
    rintro (rfl | rfl)
    · exact absurd (by decide) hp
    · exact absurd (by decide) hp
  · rw [goto_place]
    rintro rfl
    exact absurd (by decide) hp
  · rw [blocks_of_not_beyond hplace, blocks_of_not_beyond (by rw [goto_place]; exact hp)]
    rfl

/-- A thread locks the mutex. -/
theorem Accounted.locked (hs : Accounted s) (hm : s.mutex = none) {p : Place} (hplace : ¬ Beyond (s.place i))
    (hp : p = .settingOwner ∨ p = .idle) : Accounted ({ s with mutex := some i }.goto i p) := by
  have hi := hs.each i
  have hout (j : ι) : s.mutex ≠ some j := by
    rw [hm]
    exact (Option.some_ne_none j).symm
  have hapart : Apart i s ({ s with mutex := some i }.goto i p) := by
    refine ⟨fun j hj => Function.update_of_ne hj .., fun _ _ => rfl, fun j hj => ?_, fun j _ h => absurd h (hout j)⟩
    exact ⟨fun h => absurd (Option.some.inj h).symm hj, fun h => absurd h (hout j)⟩
  refine hs.next (m := 0) (n := 0) hapart (fun _ _ h => h)
    ⟨fun _ => rfl, fun _ => .inl rfl, fun _ => .inl rfl, ?_, ?_, ?_, ?_⟩ ?_ rfl
  · rcases hp with rfl | rfl <;> simp
  · rcases hp with rfl | rfl <;> simp [Ending]
  · rcases hp with rfl | rfl <;> simp
  · rcases hp with rfl | rfl <;> simp
  · rw [blocks_of_not_beyond hplace]
    rcases hp with rfl | rfl <;> simp [blocks]

/-- A thread that is in a block goes to sleep. -/
theorem Accounted.wait (hs : Accounted s) (hp : s.place i = .idle) (hdepth : 0 < s.depth i) :
    Accounted ({ s with mutex := none }.goto i .asleep) := by
  have hm := ((hs.each i).depth hdepth).resolve_right (by rw [hp]; decide)
  have hother {j : ι} (hj : j ≠ i) : s.mutex ≠ some j := fun h => hj (Option.some.inj (h.symm.trans hm))
  have hapart : Apart i s ({ s with mutex := none }.goto i .asleep) := by
    refine ⟨fun j hj => Function.update_of_ne hj .., fun _ _ => rfl, fun j hj => ?_, fun j hj h => absurd h (hother hj)⟩
    exact ⟨fun h => (Option.some_ne_none j h.symm).elim, fun h => absurd h (hother hj)⟩
  refine hs.next (m := 0) (n := 0) hapart (fun _ _ h => h)
    ⟨?_, fun _ => .inr (goto_place _), fun _ => .inr (goto_place _), fun _ => hdepth, ?_, ?_, ?_⟩ ?_ rfl
  · rw [goto_place]
    intro h
    exact absurd h (by decide)
  · rw [goto_place]
    intro h
    exact absurd h (by decide)
  · simp
  · simp
  · simp [blocks, hp]

/-- A step of the thread that has locked the mutex and only goes on. -/
theorem Accounted.inside_goto (hs : Accounted s) (hm : s.mutex = some i) {p : Place} (hawake : p ≠ .asleep)
    (hending : Ending p → 0 < s.depth i)
    (hzero : p = .clearingOwner ∨ p = .unlocking → s.recursionLevel = 0) (hcleared : p = .unlocking → s.owner = none)
    (hblocks : blocks (s.goto i p) i = blocks s i) : Accounted (s.goto i p) := by
  refine hs.held (m := 0) (n := 0) hm hm (fun j hj => Function.update_of_ne hj ..) (fun _ _ => rfl) (fun _ _ h => h)
    ?_ ?_ ?_ ?_ hblocks rfl
  · rwa [goto_place]
  · rwa [goto_place]
  · rwa [goto_place]
  · rwa [goto_place]

/-- The object is asked for its owner. -/
theorem Accounted.asked (hs : Accounted s) {q : Place}
    (h : s.place i = .testOwner ∧ q = .locking ∨ s.place i = .tryOwner ∧ q = .tryLocking) :
    Accounted (s.goto i (if s.owner = some i then .raising else q)) := by
  by_cases howner : s.owner = some i
  · rw [if_pos howner]
    have hm : s.mutex = some i := by
      refine ((hs.each i).owner howner).resolve_right ?_
      rcases h with ⟨hp, -⟩ | ⟨hp, -⟩ <;> rw [hp] <;> decide
    refine hs.inside_goto hm (by decide) (fun h => absurd h (by decide)) (by simp) (by simp) ?_
    rcases h with ⟨hp, -⟩ | ⟨hp, -⟩ <;> simp [blocks, hp]
  · rw [if_neg howner]
    rcases h with ⟨hp, rfl⟩ | ⟨hp, rfl⟩
    · exact hs.goto (by decide) (by decide) (by rw [hp]; decide) (by rw [hp]; decide)
    · exact hs.goto (by decide) (by decide) (by rw [hp]; decide) (by rw [hp]; decide)

theorem Accounted.raised (hs : Accounted s) (hm : s.mutex = some i) (hp : s.place i = .raising) :
    Accounted ({ s with recursionLevel := s.recursionLevel + 1 }.return' i (s.depth i + 1)) := by
  refine hs.held (m := 0) (n := 1) hm hm (fun j hj => Function.update_of_ne hj ..)
    (fun j hj => Function.update_of_ne hj ..) (fun _ _ h => h) ?_ ?_ ?_ ?_ ?_ rfl
  · simp
  · simp [Ending]
  · simp
  · simp
  · simp [blocks, hp]

theorem Accounted.lowered (hs : Accounted s) (hm : s.mutex = some i) (hp : s.place i = .lowering) :
    Accounted ({ s with recursionLevel := s.recursionLevel - 1 }.goto i .testZero) := by
  have hdepth := (hs.each i).ending (by rw [hp]; decide)
  have hle : s.depth i ≤ s.recursionLevel := by simpa [blocks, hp] using hs.blocks_le i
  refine hs.held (m := 1) (n := 0) hm hm (fun j hj => Function.update_of_ne hj ..) (fun _ _ => rfl) (fun _ _ h => h)
    ?_ ?_ ?_ ?_ ?_ ?_
  · simp
  · exact fun _ => hdepth
  · simp
  · simp
  · simp only [blocks, goto_place, goto_depth, hp]
    omega
  · rw [goto_recursionLevel]
    dsimp only
    omega

theorem Accounted.tested (hs : Accounted s) (hm : s.mutex = some i) (hp : s.place i = .testZero) :
    Accounted (if s.recursionLevel = 0 then s.goto i .clearingOwner else s.return' i (s.depth i - 1)) := by
  split
  · rename_i hlevel
    exact hs.inside_goto hm (by decide) (fun h => absurd h (by decide)) (fun _ => hlevel) (by simp) (by simp [blocks, hp])
  · refine hs.held (m := 0) (n := 0) hm hm (fun j hj => Function.update_of_ne hj ..)
      (fun j hj => Function.update_of_ne hj ..) (fun _ _ h => h) ?_ ?_ ?_ ?_ ?_ rfl
    · simp
    · simp [Ending]
    · simp
    · simp
    · simp [blocks, hp]

/-- The level is zero, so the thread that unlocks the mutex is in no block any more. -/
theorem Accounted.unlocked (hs : Accounted s) (hm : s.mutex = some i) (hp : s.place i = .unlocking) :
    Accounted ({ s with mutex := none }.return' i (s.depth i - 1)) := by
  have hzero := (hs.each i).zero (.inr hp)
  have howner := (hs.each i).cleared hp
  have hle : s.depth i - 1 ≤ s.recursionLevel := by simpa [blocks, hp] using hs.blocks_le i
  have hother {j : ι} (hj : j ≠ i) : s.mutex ≠ some j := fun h => hj (Option.some.inj (h.symm.trans hm))
  have hapart : Apart i s ({ s with mutex := none }.return' i (s.depth i - 1)) := by
    refine ⟨fun j hj => Function.update_of_ne hj .., fun j hj => Function.update_of_ne hj .., fun j hj => ?_,
      fun j hj h => absurd h (hother hj)⟩
    exact ⟨fun h => (Option.some_ne_none j h.symm).elim, fun h => absurd h (hother hj)⟩
  refine hs.next (m := 0) (n := 0) hapart (fun _ _ h => h) ⟨?_, fun h => ?_, fun h => ?_, ?_, ?_, ?_, ?_⟩ ?_ rfl
  · rw [return_place]
    exact fun h => absurd h (by decide)
  · rw [return_owner, howner] at h
    cases h
  · rw [return_depth] at h
    omega
  · simp
  · simp [Ending]
  · simp
  · simp
  · simp [blocks, hp]

theorem Accounted.step {e : Option (Event ι)} (hs : Accounted s) (h : Step s e t) : Accounted t := by
  cases h with
  | synchronized h => exact hs.goto (by decide) (by decide) (by rw [h]; decide) (by rw [h]; decide)
  | synchronizedTry h => exact hs.goto (by decide) (by decide) (by rw [h]; decide) (by rw [h]; decide)
  | @unsynchronized i h hdepth =>
    have hm := ((hs.each i).depth hdepth).resolve_right (by rw [h]; decide)
    refine hs.held (m := 0) (n := 0) hm hm (fun j hj => Function.update_of_ne hj ..) (fun _ _ => rfl) (fun _ _ h => h)
      ?_ (fun _ => hdepth) ?_ ?_ ?_ rfl
    · simp
    · simp
    · simp
    · simp [blocks, h]
  | @next i _ _ h =>
    have hi := hs.each i
    have hle := hs.blocks_le i
    unfold Synchronizable.next at h
    cases hp : s.place i <;> rw [hp] at h <;> dsimp only at h
    case idle | aborted | asleep => cases h
    case locking =>
      split at h
      · cases h
        exact hs.locked ‹_› (by rw [hp]; decide) (.inl rfl)
      · cases h
    case tryLocking =>
      split at h
      · cases h
        exact hs.locked ‹_› (by rw [hp]; decide) (.inl rfl)
      · cases h
        exact hs.goto (by decide) (by decide) (by rw [hp]; decide) (by rw [hp]; decide)
    case testOwner =>
      cases h
      exact hs.asked (.inl ⟨hp, rfl⟩)
    case tryOwner =>
      cases h
      exact hs.asked (.inr ⟨hp, rfl⟩)
    all_goals have hm := hi.beyond (by rw [hp]; decide)
    case settingOwner =>
      cases h
      refine hs.held (m := 0) (n := 0) hm hm (fun j hj => Function.update_of_ne hj ..) (fun _ _ => rfl)
        (fun j hj h => absurd (Option.some.inj h).symm hj) ?_ ?_ ?_ ?_ ?_ rfl
      · simp
      · simp [Ending]
      · simp
      · simp
      · simp [blocks, hp]
    case raising =>
      cases h
      exact hs.raised hm hp
    case testLevel =>
      cases h
      have hdepth := hi.ending (by rw [hp]; decide)
      have hle : s.depth i ≤ s.recursionLevel := by simpa [blocks, hp] using hs.blocks_le i
      rw [if_neg (by omega)]
      exact hs.inside_goto hm (by decide) (fun _ => hdepth) (by simp) (by simp) (by simp [blocks, hp])
    case testOwned =>
      cases h
      have hdepth := hi.ending (by rw [hp]; decide)
      split
      · exact hs.inside_goto hm (by decide) (fun _ => hdepth) (by simp) (by simp) (by simp [blocks, hp])
      · exact hs.inside_goto hm (by decide) (fun _ => hdepth) (by simp) (by simp) (by simp [blocks, hp])
    case lowering =>
      cases h
      exact hs.lowered hm hp
    case testZero =>
      cases h
      exact hs.tested hm hp
    case clearingOwner =>
      cases h
      have hzero := hi.zero (.inl hp)
      refine hs.held (m := 0) (n := 0) hm hm (fun j hj => Function.update_of_ne hj ..) (fun _ _ => rfl)
        (fun j hj h => absurd h (Option.some_ne_none j).symm) ?_ ?_ (fun _ => hzero) (fun _ => rfl) ?_ rfl
      · simp
      · simp [Ending]
      · simp [blocks, hp]
    case unlocking =>
      cases h
      exact hs.unlocked hm hp

theorem Accounted.waitStep (hs : Accounted s) (h : WaitStep s t) : Accounted t := by
  cases h with
  | step h => exact hs.step h
  | wait h hdepth => exact hs.wait h hdepth
  | wake h hfree => exact hs.locked hfree (by rw [h]; decide) (.inr rfl)

omit [DecidableEq ι] in
theorem accounted_initial : Accounted ({} : State ι) where
  each _ := by constructor <;> simp [Beyond, Ending]
  level := (sum_const_zero).symm

theorem accounted_run (h : Relation.ReflTransGen WaitStep {} s) : Accounted s := by
  induction h with
  | refl => exact accounted_initial
  | tail _ hstep ih => exact ih.waitStep hstep

/-- A step in which no thread goes to sleep. -/
def Busy (s t : State ι) : Prop := WaitStep s t ∧ ∀ k, t.place k = .asleep → s.place k = .asleep

/-- The thread that has the mutex keeps it: the level cannot come down to zero. -/
theorem Accounted.busy (hs : Accounted s) (h : Busy s t) {j : ι} (hi : s.place i = .asleep) (hm : s.mutex = some j) :
    t.place i = .asleep ∧ t.mutex = some j := by
  have hother {k : ι} {p : Place} (hk : s.place k ≠ .asleep) : Function.update s.place k p i = .asleep := by
    have hik : i ≠ k := fun h => hk (h ▸ hi)
    rw [Function.update_of_ne hik]
    exact hi
  have hlevel : s.recursionLevel ≠ 0 := by
    have hdepth := (hs.each i).asleep hi
    have hle : s.depth i ≤ s.recursionLevel := by simpa [blocks, hi] using hs.blocks_le i
    omega
  obtain ⟨hstep, hbusy⟩ := h
  cases hstep with
  | wait h hdepth => exact absurd (hbusy _ (goto_place _)) (by rw [h]; decide)
  | wake h hfree => exact absurd (hm.symm.trans hfree) (Option.some_ne_none j)
  | step h =>
    cases h with
    | synchronized h => exact ⟨hother (by rw [h]; decide), hm⟩
    | synchronizedTry h => exact ⟨hother (by rw [h]; decide), hm⟩
    | unsynchronized h hdepth => exact ⟨hother (by rw [h]; decide), hm⟩
    | @next k _ _ h =>
      unfold Synchronizable.next at h
      cases hp : s.place k <;> rw [hp] at h <;> dsimp only at h
      case idle | aborted | asleep => cases h
      all_goals have hplace {p : Place} := hother (k := k) (p := p) (by rw [hp]; decide)
      case locking =>
        rw [if_neg (by rw [hm]; exact Option.some_ne_none j)] at h
        cases h
      case tryLocking =>
        rw [if_neg (by rw [hm]; exact Option.some_ne_none j)] at h
        cases h
        exact ⟨hplace, hm⟩
      case testZero =>
        rw [if_neg hlevel] at h
        cases h
        exact ⟨hplace, hm⟩
      case unlocking => exact absurd ((hs.each k).zero (.inr hp)) hlevel
      all_goals
        cases h
        exact ⟨hplace, hm⟩

/-- When a thread that waits for the condition is asleep and another one has locked the mutex, to fire the
condition, say, then the mutex is not unlocked again and the first one does not wake up, in whatever order the
threads go on, unless one more thread goes to sleep. -/
theorem sleeper_shut_out {j : ι} (h : Relation.ReflTransGen WaitStep {} s) (hasleep : s.place i = .asleep)
    (hm : s.mutex = some j) (hrun : Relation.ReflTransGen Busy s t) : t.place i = .asleep ∧ t.mutex = some j := by
  suffices hkept : Accounted t ∧ t.place i = .asleep ∧ t.mutex = some j from hkept.2
  induction hrun with
  | refl => exact ⟨accounted_run h, hasleep, hm⟩
  | tail _ hstep ih =>
    obtain ⟨hs, hi, hm⟩ := ih
    exact ⟨hs.waitStep hstep.1, hs.busy hstep hi hm⟩

end

/-- One thread enters and goes to sleep, then another one enters. -/
theorem run_shut_out : ∃ s : State Bool, Relation.ReflTransGen WaitStep {} s ∧ s.place true = .asleep ∧
    s.mutex = some false ∧ s.place false = .idle ∧ s.depth false = 1 := by
  refine ⟨_, .tail (.tail (.tail (.tail (.tail (.tail (.tail (.tail (.tail (.tail (.tail .refl
    (.step (.synchronized (i := true) rfl))) (.step (.next (i := true) rfl))) (.step (.next (i := true) rfl)))
    (.step (.next (i := true) rfl))) (.step (.next (i := true) rfl))) (.wait (i := true) rfl ?_))
    (.step (.synchronized (i := false) rfl))) (.step (.next (i := false) rfl))) (.step (.next (i := false) rfl)))
    (.step (.next (i := false) rfl))) (.step (.next (i := false) rfl)), ?_⟩
  · decide
  · decide

theorem sleeper_shut_out_entered : ∃ s t : State Bool, Busy s t ∧ t.place true = .asleep ∧ t.mutex = some false := by
  obtain ⟨s, h, hasleep, hm, hidle, hdepth⟩ := run_shut_out
  have hbusy : Busy s (s.goto false .testLevel) := by
    refine ⟨.step (.unsynchronized hidle (by omega)), fun k hk => ?_⟩
    cases k with
    | true => exact hasleep
    | false =>
      rw [goto_place] at hk
      cases hk
  exact ⟨s, _, hbusy, sleeper_shut_out h hasleep hm (.single hbusy)⟩

end Synchronizable

end SocketApi
