import Mathlib.Logic.Function.Basic
import Mathlib.Logic.Relation

/-!
# `Synchronizable` without recursive mutexes

With `NO_RECURSIVE_MUTEX` the class keeps track of the recursion on its own, by `Owner` and
`RecursionLevel` on top of a mutex that must not be locked twice. Threads run between any two
accesses. As long as no thread waits for a condition with this mutex, that is a recursive mutex.
-/

namespace SocketApi

namespace Synchronizable

variable {ι : Type} [DecidableEq ι]

/-- What a thread does next in `synchronized`, `synchronizedTry` or `unsynchronized`, or in
`pthread_cond_timedwait`. -/
inductive Place where
  | idle
  | testOwner | locking | settingOwner | raising
  | tryOwner | tryLocking
  | testLevel | testOwned | lowering | testZero | clearingOwner | unlocking
  | asleep
  | aborted
  deriving DecidableEq

/-- `depth` counts the blocks each thread is in. -/
structure State (ι : Type) where
  mutex : Option ι := none
  owner : Option ι := none
  recursionLevel : Nat := 0
  place : ι → Place := fun _ => .idle
  depth : ι → Nat := fun _ => 0

/-- What others see of a call: the moment in which it takes effect. -/
inductive Event (ι : Type) where
  | acquire (i : ι)
  | release (i : ι)
  | refuse (i : ι)

namespace State

variable (s : State ι) (i : ι)

def goto (p : Place) : State ι := { s with place := Function.update s.place i p }

/-- The call returns, with so many blocks around its thread. -/
def return' (n : Nat) : State ι := { s.goto i .idle with depth := Function.update s.depth i n }

end State

/-- A thread goes on in a call; `none` if it has to wait. -/
def next (s : State ι) (i : ι) : Option (Option (Event ι) × State ι) :=
  match s.place i with
  | .idle | .aborted | .asleep => none
  | .testOwner => some (none, s.goto i (if s.owner = some i then .raising else .locking))
  | .locking =>
    if s.mutex = none then some (some (.acquire i), { s with mutex := some i }.goto i .settingOwner) else none
  | .settingOwner => some (none, { s with owner := some i }.goto i .raising)
  | .raising =>
    some (if s.depth i = 0 then none else some (.acquire i),
      { s with recursionLevel := s.recursionLevel + 1 }.return' i (s.depth i + 1))
  | .tryOwner => some (none, s.goto i (if s.owner = some i then .raising else .tryLocking))
  | .tryLocking =>
    if s.mutex = none then some (some (.acquire i), { s with mutex := some i }.goto i .settingOwner)
    else some (some (.refuse i), s.goto i .idle)
  | .testLevel => some (none, s.goto i (if s.recursionLevel = 0 then .aborted else .testOwned))
  | .testOwned => some (none, s.goto i (if s.owner = some i then .lowering else .aborted))
  | .lowering =>
    some (if s.recursionLevel = 1 then none else some (.release i),
      { s with recursionLevel := s.recursionLevel - 1 }.goto i .testZero)
  | .testZero =>
    some (none, if s.recursionLevel = 0 then s.goto i .clearingOwner else s.return' i (s.depth i - 1))
  | .clearingOwner => some (none, { s with owner := none }.goto i .unlocking)
  | .unlocking => some (some (.release i), { s with mutex := none }.return' i (s.depth i - 1))

/-- A block that is ended has been begun. A thread that is in one block may wait for the condition that goes
with the mutex, which is unlocked meanwhile; it wakes up when it can lock it again. -/
inductive Step : State ι → Option (Event ι) → State ι → Prop
  | synchronized {s i} (h : s.place i = .idle) : Step s none (s.goto i .testOwner)
  | synchronizedTry {s i} (h : s.place i = .idle) : Step s none (s.goto i .tryOwner)
  | unsynchronized {s i} (h : s.place i = .idle) (hdepth : 0 < s.depth i) : Step s none (s.goto i .testLevel)
  | next {s i e t} (h : next s i = some (e, t)) : Step s e t

/-- A run, with its events. -/
inductive Run : State ι → List (Event ι) → State ι → Prop
  | refl (s : State ι) : Run s [] s
  | tail {s es t e u} (h : Run s es t) (hstep : Step t e u) : Run s (es ++ e.toList) u

/-! ## A recursive mutex -/

/-- How often each thread holds the mutex. -/
abbrev Recursive (ι : Type) := ι → Nat

inductive Recursive.Step : Recursive ι → Event ι → Recursive ι → Prop
  | acquire {h : Recursive ι} {i : ι} (hfree : ∀ j, j ≠ i → h j = 0) :
    Step h (.acquire i) (Function.update h i (h i + 1))
  | release {h : Recursive ι} {i : ι} (hheld : 0 < h i) : Step h (.release i) (Function.update h i (h i - 1))
  | refuse {h : Recursive ι} {i j : ι} (hij : j ≠ i) (hheld : 0 < h j) : Step h (.refuse i) h

inductive Recursive.Run : Recursive ι → List (Event ι) → Recursive ι → Prop
  | refl (h : Recursive ι) : Run h [] h
  | tail {h es h' e h''} (hrun : Run h es h') (hstep : Recursive.Step h' e h'') : Run h (es ++ [e]) h''

/-- How often a thread holds the mutex that the object is: a call has taken effect before it returns. -/
def count (s : State ι) (i : ι) : Nat :=
  match s.place i with
  | .settingOwner | .clearingOwner | .unlocking => 1
  | .raising => max 1 (s.depth i)
  | .testZero => if s.recursionLevel = 0 then 1 else s.depth i - 1
  | _ => s.depth i

/-! ## The invariant -/

/-- What the owner of the mutex has done to the object. -/
def Holds (s : State ι) (i : ι) : Prop :=
  match s.place i with
  | .idle | .testOwner | .tryOwner | .testLevel | .testOwned | .lowering =>
    0 < s.depth i ∧ s.owner = some i ∧ s.recursionLevel = s.depth i
  | .settingOwner => s.depth i = 0 ∧ s.owner = none ∧ s.recursionLevel = 0
  | .raising => s.owner = some i ∧ s.recursionLevel = s.depth i
  | .testZero => s.owner = some i ∧ s.recursionLevel + 1 = s.depth i
  | .clearingOwner => s.depth i = 1 ∧ s.owner = some i ∧ s.recursionLevel = 0
  | .unlocking => s.depth i = 1 ∧ s.owner = none ∧ s.recursionLevel = 0
  | .locking | .tryLocking | .asleep | .aborted => False

/-- A thread that does not own the mutex is in no block. -/
def Outside (s : State ι) (i : ι) : Prop :=
  s.depth i = 0 ∧ (s.place i = .idle ∨ s.place i = .testOwner ∨ s.place i = .locking ∨ s.place i = .tryOwner ∨
    s.place i = .tryLocking)

structure Kept (s : State ι) : Prop where
  outside : ∀ i, s.mutex ≠ some i → Outside s i
  inside : ∀ i, s.mutex = some i → Holds s i
  free : s.mutex = none → s.owner = none ∧ s.recursionLevel = 0

/-! ## Steps -/

variable {s t : State ι} {i : ι}

/-- What a step of one thread leaves to the others. -/
structure Apart (i : ι) (s t : State ι) : Prop where
  place : ∀ j, j ≠ i → t.place j = s.place j
  depth : ∀ j, j ≠ i → t.depth j = s.depth j
  mutex : ∀ j, j ≠ i → (t.mutex = some j ↔ s.mutex = some j)
  data : ∀ j, j ≠ i → s.mutex = some j → t.owner = s.owner ∧ t.recursionLevel = s.recursionLevel

omit [DecidableEq ι] in
theorem Kept.next (hs : Kept s) (h : Apart i s t) (houtside : t.mutex ≠ some i → Outside t i)
    (hinside : t.mutex = some i → Holds t i) (hfree : t.mutex = none → t.owner = none ∧ t.recursionLevel = 0) :
    Kept t where
  outside j hj := by
    by_cases hji : j = i
    · exact hji ▸ houtside (hji ▸ hj)
    · have hout := hs.outside j (mt (h.mutex j hji).mpr hj)
      unfold Outside
      rw [h.place j hji, h.depth j hji]
      exact hout
  inside j hj := by
    by_cases hji : j = i
    · exact hji ▸ hinside (hji ▸ hj)
    · have hmutex := (h.mutex j hji).mp hj
      obtain ⟨howner, hlevel⟩ := h.data j hji hmutex
      have hin := hs.inside j hmutex
      unfold Holds
      rw [h.place j hji, h.depth j hji, howner, hlevel]
      exact hin
  free := hfree

omit [DecidableEq ι] in
theorem Kept.count_other (hs : Kept s) (h : Apart i s t) {j : ι} (hj : j ≠ i) : count t j = count s j := by
  unfold count
  rw [h.place j hj, h.depth j hj]
  cases hp : s.place j with
  | testZero =>
    have hmutex : s.mutex = some j := by
      by_contra hne
      have hout := (hs.outside j hne).2
      rw [hp] at hout
      simp at hout
    dsimp only
    rw [(h.data j hj hmutex).2]
  | _ => rfl

theorem Kept.count_eq (hs : Kept s) (h : Apart i s t) {n : Nat} (hi : count t i = n) :
    count t = Function.update (count s) i n := by
  funext j
  by_cases hj : j = i
  · rw [hj, Function.update_self, hi]
  · rw [Function.update_of_ne hj]
    exact hs.count_other h hj

theorem apart_goto (p : Place) : Apart i s (s.goto i p) where
  place _ hj := Function.update_of_ne hj ..
  depth _ _ := rfl
  mutex _ _ := Iff.rfl
  data _ _ _ := ⟨rfl, rfl⟩

omit [DecidableEq ι] in
/-- No thread but the owner of the mutex holds it. -/
theorem Kept.count_free (hs : Kept s) {j : ι} (h : s.mutex ≠ some j) : count s j = 0 := by
  obtain ⟨hdepth, hplace⟩ := hs.outside j h
  unfold count
  rcases hplace with hp | hp | hp | hp | hp <;> rw [hp] <;> exact hdepth

/-- The step keeps the invariant, and a recursive mutex can do what others see of it. -/
def Simulated (s : State ι) : Option (Event ι) → State ι → Prop
  | none, t => Kept t ∧ count t = count s
  | some e, t => Kept t ∧ Recursive.Step (count s) e (count t)

/-- A thread goes on and changes nothing. -/
theorem Kept.goto (hs : Kept s) {p : Place} (houtside : s.mutex ≠ some i → Outside (s.goto i p) i)
    (hinside : s.mutex = some i → Holds (s.goto i p) i) (hcount : count (s.goto i p) i = count s i) :
    Simulated s none (s.goto i p) := by
  refine ⟨hs.next (apart_goto p) houtside hinside hs.free, ?_⟩
  rw [hs.count_eq (apart_goto p) hcount, Function.update_eq_self]

@[simp] theorem goto_place (p : Place) : (s.goto i p).place i = p := Function.update_self ..
@[simp] theorem goto_depth (p : Place) : (s.goto i p).depth = s.depth := rfl
@[simp] theorem goto_mutex (p : Place) : (s.goto i p).mutex = s.mutex := rfl
@[simp] theorem goto_owner (p : Place) : (s.goto i p).owner = s.owner := rfl
@[simp] theorem goto_recursionLevel (p : Place) : (s.goto i p).recursionLevel = s.recursionLevel := rfl

theorem Kept.call (hs : Kept s) (h : s.place i = .idle) {p : Place} (hp : p = .testOwner ∨ p = .tryOwner ∨
    p = .testLevel ∧ 0 < s.depth i) : Simulated s none (s.goto i p) := by
  refine hs.goto (fun hm => ?_) (fun hm => ?_) ?_
  · have hout := hs.outside i hm
    rcases hp with rfl | rfl | ⟨rfl, hdepth⟩
    · simp [Outside, hout.1]
    · simp [Outside, hout.1]
    · rw [hout.1] at hdepth
      exact absurd hdepth (Nat.lt_irrefl 0)
  · have hin := hs.inside i hm
    simp only [Holds, h] at hin
    rcases hp with rfl | rfl | ⟨rfl, _⟩ <;> simpa [Holds] using hin
  · rcases hp with rfl | rfl | ⟨rfl, _⟩ <;> simp [count, h]

/-- The mutex belongs to a thread that is on its way through the code behind its lock. -/
theorem Kept.mutex_of_place (hs : Kept s) (hidle : s.place i ≠ .idle) (howner : s.place i ≠ .testOwner)
    (hlocking : s.place i ≠ .locking) (htry : s.place i ≠ .tryOwner) (htryLocking : s.place i ≠ .tryLocking) :
    s.mutex = some i := by
  by_contra hne
  rcases (hs.outside i hne).2 with h | h | h | h | h
  · exact hidle h
  · exact howner h
  · exact hlocking h
  · exact htry h
  · exact htryLocking h

omit [DecidableEq ι] in
/-- The object knows no other owner than that of the mutex. -/
theorem Kept.owner (hs : Kept s) (h : s.owner = some i) : s.mutex = some i := by
  cases hm : s.mutex with
  | none =>
    rw [(hs.free hm).1] at h
    cases h
  | some j =>
    have hin := hs.inside j hm
    unfold Holds at hin
    cases hp : s.place j <;> rw [hp] at hin <;> dsimp only at hin
    case idle | testOwner | tryOwner | testLevel | testOwned | lowering | clearingOwner =>
      rw [hin.2.1] at h
      exact h
    case raising | testZero =>
      rw [hin.1] at h
      exact h
    case settingOwner | unlocking =>
      rw [hin.2.1] at h
      cases h

omit [DecidableEq ι] in
theorem Kept.count_pos (hs : Kept s) (h : s.mutex = some i) : 0 < count s i := by
  have hin := hs.inside i h
  unfold Holds at hin
  unfold count
  cases hp : s.place i <;> rw [hp] at hin <;> dsimp only at hin ⊢
  case idle | testOwner | tryOwner | testLevel | testOwned | lowering => exact hin.1
  case raising => omega
  case testZero =>
    split
    · exact Nat.one_pos
    · omega
  case settingOwner | clearingOwner | unlocking => exact Nat.one_pos

/-- What the owner of the mutex does to the object concerns no other thread. -/
theorem Kept.own (hs : Kept s) (hm : s.mutex = some i) (hplace : ∀ j, j ≠ i → t.place j = s.place j)
    (hdepth : ∀ j, j ≠ i → t.depth j = s.depth j) (hmutex : t.mutex = some i) (hin : Holds t i) :
    Kept t ∧ count t = Function.update (count s) i (count t i) := by
  have hother {j : ι} (hj : j ≠ i) : s.mutex ≠ some j := fun h => hj (Option.some.inj (h.symm.trans hm))
  have hapart : Apart i s t := ⟨hplace, hdepth, fun j _ => by rw [hmutex, hm], fun j hj h => absurd h (hother hj)⟩
  refine ⟨hs.next hapart (fun h => absurd hmutex h) (fun _ => hin) fun h => ?_, hs.count_eq hapart rfl⟩
  rw [hmutex] at h
  cases h

/-- A step of the owner that others do not see. -/
theorem Kept.silent (hs : Kept s) (hm : s.mutex = some i) (hplace : ∀ j, j ≠ i → t.place j = s.place j)
    (hdepth : ∀ j, j ≠ i → t.depth j = s.depth j) (hmutex : t.mutex = some i) (hin : Holds t i)
    (hcount : count t i = count s i) : Simulated s none t := by
  obtain ⟨hkept, hupdate⟩ := hs.own hm hplace hdepth hmutex hin
  rw [hcount, Function.update_eq_self] at hupdate
  exact ⟨hkept, hupdate⟩

/-- The owner goes on in a call. -/
theorem Kept.inside_goto (hs : Kept s) {p : Place} (hm : s.mutex = some i) (hin : Holds (s.goto i p) i)
    (hcount : count (s.goto i p) i = count s i) : Simulated s none (s.goto i p) :=
  hs.goto (fun h => absurd hm h) (fun _ => hin) hcount

/-- The mutex was free and is locked. -/
theorem Kept.locked (hs : Kept s) (hm : s.mutex = none) :
    Simulated s (some (.acquire i)) ({ s with mutex := some i }.goto i .settingOwner) := by
  have hout (j : ι) : s.mutex ≠ some j := by
    rw [hm]
    exact Option.some_ne_none j |>.symm
  have hapart : Apart i s ({ s with mutex := some i }.goto i .settingOwner) := by
    refine ⟨fun j hj => Function.update_of_ne hj .., fun _ _ => rfl, fun j hj => ?_, fun j _ h => absurd h (hout j)⟩
    exact ⟨fun h => absurd (Option.some.inj h).symm hj, fun h => absurd h (hout j)⟩
  refine ⟨hs.next hapart (fun h => absurd rfl h) (fun _ => ?_) (fun h => by cases h), ?_⟩
  · simp only [Holds, goto_place]
    exact ⟨(hs.outside i (hout i)).1, hs.free hm⟩
  · rw [hs.count_eq hapart (n := count s i + 1) ?_]
    · exact .acquire fun j _ => hs.count_free (hout j)
    · rw [hs.count_free (hout i)]
      simp [count]

theorem Kept.refused (hs : Kept s) (hm : s.mutex ≠ none) (hplace : s.place i = .tryLocking) :
    Simulated s (some (.refuse i)) (s.goto i .idle) := by
  obtain ⟨j, hj⟩ := Option.ne_none_iff_exists'.mp hm
  have hne : s.mutex ≠ some i := fun h => by simpa [Holds, hplace] using hs.inside i h
  have hji : j ≠ i := fun h => hne (h ▸ hj)
  obtain ⟨hkept, hcount⟩ := hs.goto (p := .idle) (fun _ => ⟨(hs.outside i hne).1, .inl (goto_place _)⟩)
    (fun h => absurd h hne) (by simp [count, hplace])
  exact ⟨hkept, by rw [hcount]; exact .refuse hji (hs.count_pos hj)⟩

/-- The object is asked for its owner. -/
theorem Kept.asked (hs : Kept s) {q : Place} (h : s.place i = .testOwner ∧ q = .locking ∨
    s.place i = .tryOwner ∧ q = .tryLocking) : Simulated s none (s.goto i (if s.owner = some i then .raising else q)) := by
  by_cases howner : s.owner = some i
  · rw [if_pos howner]
    have hm := hs.owner howner
    have hin := hs.inside i hm
    refine hs.goto (fun h => absurd hm h) (fun _ => ?_) ?_
    · rcases h with ⟨hp, -⟩ | ⟨hp, -⟩ <;> simp only [Holds, hp] at hin <;> simpa [Holds] using hin.2
    · rcases h with ⟨hp, -⟩ | ⟨hp, -⟩ <;> simp only [Holds, hp] at hin <;> simp [count, hp] <;> omega
  · rw [if_neg howner]
    have hm : s.mutex ≠ some i := fun hm => by
      have hin := hs.inside i hm
      rcases h with ⟨hp, -⟩ | ⟨hp, -⟩ <;> simp only [Holds, hp] at hin <;> exact howner hin.2.1
    refine hs.goto (fun _ => ⟨(hs.outside i hm).1, ?_⟩) (fun h => absurd h hm) ?_
    · rw [goto_place]
      rcases h with ⟨-, rfl⟩ | ⟨-, rfl⟩ <;> simp
    · rcases h with ⟨hp, rfl⟩ | ⟨hp, rfl⟩ <;> simp [count, hp]

@[simp] theorem return_place (n : Nat) : (s.return' i n).place i = .idle := Function.update_self ..
@[simp] theorem return_depth (n : Nat) : (s.return' i n).depth i = n := Function.update_self ..
@[simp] theorem return_mutex (n : Nat) : (s.return' i n).mutex = s.mutex := rfl
@[simp] theorem return_owner (n : Nat) : (s.return' i n).owner = s.owner := rfl
@[simp] theorem return_recursionLevel (n : Nat) : (s.return' i n).recursionLevel = s.recursionLevel := rfl

theorem Kept.raised (hs : Kept s) (hm : s.mutex = some i) (hp : s.place i = .raising) :
    Simulated s (if s.depth i = 0 then none else some (.acquire i))
      ({ s with recursionLevel := s.recursionLevel + 1 }.return' i (s.depth i + 1)) := by
  have hin := hs.inside i hm
  simp only [Holds, hp] at hin
  have hraised : Holds ({ s with recursionLevel := s.recursionLevel + 1 }.return' i (s.depth i + 1)) i := by
    simp [Holds, hin]
  have hplace (j : ι) (hj : j ≠ i) :
      ({ s with recursionLevel := s.recursionLevel + 1 }.return' i (s.depth i + 1)).place j = s.place j :=
    Function.update_of_ne hj ..
  have hdepth (j : ι) (hj : j ≠ i) :
      ({ s with recursionLevel := s.recursionLevel + 1 }.return' i (s.depth i + 1)).depth j = s.depth j :=
    Function.update_of_ne hj ..
  by_cases hzero : s.depth i = 0
  · rw [if_pos hzero]
    exact hs.silent hm hplace hdepth hm hraised (by simp [count, hp, hzero])
  · rw [if_neg hzero]
    obtain ⟨hkept, hcount⟩ := hs.own hm hplace hdepth hm hraised
    refine ⟨hkept, ?_⟩
    have hone : count ({ s with recursionLevel := s.recursionLevel + 1 }.return' i (s.depth i + 1)) i = count s i + 1 := by
      simp only [count, hp, return_place, return_depth]
      omega
    rw [hcount, hone]
    exact .acquire fun j hj => hs.count_free fun h => hj (Option.some.inj (h.symm.trans hm))

omit [DecidableEq ι] in
theorem count_last (hp : s.place i = .testZero) (h : s.recursionLevel = 0) : count s i = 1 := by
  simp [count, hp, h]

omit [DecidableEq ι] in
theorem count_nested (hp : s.place i = .testZero) (h : s.recursionLevel ≠ 0) : count s i = s.depth i - 1 := by
  simp [count, hp, h]

theorem Kept.lowered (hs : Kept s) (hm : s.mutex = some i) (hp : s.place i = .lowering) :
    Simulated s (if s.recursionLevel = 1 then none else some (.release i))
      ({ s with recursionLevel := s.recursionLevel - 1 }.goto i .testZero) := by
  have hin := hs.inside i hm
  simp only [Holds, hp] at hin
  have hlowered : Holds ({ s with recursionLevel := s.recursionLevel - 1 }.goto i .testZero) i := by
    simp only [Holds, goto_place, goto_owner, goto_recursionLevel, goto_depth]
    exact ⟨hin.2.1, by omega⟩
  have hplace (j : ι) (hj : j ≠ i) :
      ({ s with recursionLevel := s.recursionLevel - 1 }.goto i .testZero).place j = s.place j := Function.update_of_ne hj ..
  by_cases hone : s.recursionLevel = 1
  · rw [if_pos hone]
    refine hs.silent hm hplace (fun _ _ => rfl) hm hlowered ?_
    rw [count_last (goto_place _) (by simp [hone])]
    simp only [count, hp]
    omega
  · rw [if_neg hone]
    obtain ⟨hkept, hcount⟩ := hs.own hm hplace (fun _ _ => rfl) hm hlowered
    refine ⟨hkept, ?_⟩
    have hless : count ({ s with recursionLevel := s.recursionLevel - 1 }.goto i .testZero) i = count s i - 1 := by
      rw [count_nested (goto_place _) (by rw [goto_recursionLevel]; dsimp only; omega)]
      simp [count, hp]
    rw [hcount, hless]
    exact .release (hs.count_pos hm)

theorem Kept.tested (hs : Kept s) (hm : s.mutex = some i) (hp : s.place i = .testZero) :
    Simulated s none (if s.recursionLevel = 0 then s.goto i .clearingOwner else s.return' i (s.depth i - 1)) := by
  have hin := hs.inside i hm
  simp only [Holds, hp] at hin
  split
  · refine hs.inside_goto hm ?_ (by simp [count, *])
    simp only [Holds, goto_place, goto_owner, goto_recursionLevel, goto_depth]
    exact ⟨by omega, hin.1, by omega⟩
  · refine hs.silent hm (fun j hj => Function.update_of_ne hj ..) (fun j hj => Function.update_of_ne hj ..) hm ?_
      (by simp [count, *])
    simp only [Holds, return_place, return_owner, return_recursionLevel, return_depth]
    exact ⟨by omega, hin.1, by omega⟩

theorem Kept.unlocked (hs : Kept s) (hm : s.mutex = some i) (hp : s.place i = .unlocking) :
    Simulated s (some (.release i)) ({ s with mutex := none }.return' i (s.depth i - 1)) := by
  have hin := hs.inside i hm
  simp only [Holds, hp] at hin
  have hother {j : ι} (hj : j ≠ i) : s.mutex ≠ some j := fun h => hj (Option.some.inj (h.symm.trans hm))
  have hapart : Apart i s ({ s with mutex := none }.return' i (s.depth i - 1)) := by
    refine ⟨fun j hj => Function.update_of_ne hj .., fun j hj => Function.update_of_ne hj .., fun j hj => ?_,
      fun j hj h => absurd h (hother hj)⟩
    exact ⟨fun h => (Option.some_ne_none j h.symm).elim, fun h => absurd h (hother hj)⟩
  refine ⟨hs.next hapart (fun _ => ?_) (fun h => by cases h) fun _ => hin.2, ?_⟩
  · simp [Outside, hin.1]
  · rw [hs.count_eq hapart (n := count s i - 1) (by simp [count, hp, hin.1])]
    exact .release (hs.count_pos hm)

theorem Kept.step {e : Option (Event ι)} (hs : Kept s) (h : Step s e t) : Simulated s e t := by
  cases h with
  | synchronized h => exact hs.call h (.inl rfl)
  | synchronizedTry h => exact hs.call h (.inr (.inl rfl))
  | unsynchronized h hdepth => exact hs.call h (.inr (.inr ⟨rfl, hdepth⟩))
  | next h =>
    rename_i i
    unfold Synchronizable.next at h
    have hmutex (hidle : s.place i ≠ .idle) (howner : s.place i ≠ .testOwner) (hlocking : s.place i ≠ .locking)
        (htry : s.place i ≠ .tryOwner) (htryLocking : s.place i ≠ .tryLocking) : s.mutex = some i ∧ Holds s i := by
      have hm := hs.mutex_of_place hidle howner hlocking htry htryLocking
      exact ⟨hm, hs.inside i hm⟩
    cases hp : s.place i <;> rw [hp] at h hmutex <;> dsimp only at h
    case idle | aborted | asleep => cases h
    case testOwner =>
      cases h
      exact hs.asked (.inl ⟨hp, rfl⟩)
    case tryOwner =>
      cases h
      exact hs.asked (.inr ⟨hp, rfl⟩)
    case locking =>
      split at h
      · cases h
        exact hs.locked ‹_›
      · cases h
    case tryLocking =>
      split at h
      · cases h
        exact hs.locked ‹_›
      · cases h
        exact hs.refused ‹_› hp
    all_goals
      obtain ⟨hm, hin⟩ := hmutex (by decide) (by decide) (by decide) (by decide) (by decide)
      simp only [Holds, hp] at hin
    case settingOwner =>
      cases h
      refine hs.silent hm (fun j hj => Function.update_of_ne hj ..) (fun _ _ => rfl) hm ?_ (by simp [count, hp, hin.1])
      simp [Holds, hin]
    case raising =>
      cases h
      exact hs.raised hm hp
    case testLevel =>
      cases h
      rw [if_neg (by omega)]
      exact hs.inside_goto hm (by simpa [Holds] using hin) (by simp [count, hp])
    case testOwned =>
      cases h
      rw [if_pos hin.2.1]
      exact hs.inside_goto hm (by simpa [Holds] using hin) (by simp [count, hp])
    case lowering =>
      cases h
      exact hs.lowered hm hp
    case testZero =>
      cases h
      exact hs.tested hm hp
    case clearingOwner =>
      cases h
      refine hs.silent hm (fun j hj => Function.update_of_ne hj ..) (fun _ _ => rfl) hm ?_ (by simp [count, hp])
      simp [Holds, hin]
    case unlocking =>
      cases h
      exact hs.unlocked hm hp

omit [DecidableEq ι] in
theorem kept_initial : Kept ({} : State ι) where
  outside _ _ := ⟨rfl, .inl rfl⟩
  inside _ h := by cases h
  free _ := ⟨rfl, rfl⟩

omit [DecidableEq ι] in
theorem Kept.not_aborted (hs : Kept s) (i : ι) : s.place i ≠ .aborted := by
  intro hp
  by_cases hm : s.mutex = some i
  · simpa [Holds, hp] using hs.inside i hm
  · simpa [Outside, hp] using hs.outside i hm

/-- In any order of the steps of any number of threads the object is a recursive mutex: `abort` is not
reached, a thread holds the mutex as often as it is in a block, and never two threads at a time do. -/
theorem synchronizable_refines {es : List (Event ι)} {s : State ι} (h : Run {} es s) :
    Recursive.Run (fun _ => 0) es (count s) ∧ (∀ i, s.place i ≠ .aborted) ∧
      (∀ i, s.place i = .idle → count s i = s.depth i) ∧ ∀ i j, 0 < count s i → 0 < count s j → i = j := by
  suffices hrun : Kept s ∧ Recursive.Run (fun _ => 0) es (count s) by
    obtain ⟨hs, hrun⟩ := hrun
    have howner {i : ι} (hi : 0 < count s i) : s.mutex = some i := by
      by_contra hm
      rw [hs.count_free hm] at hi
      exact Nat.lt_irrefl 0 hi
    refine ⟨hrun, hs.not_aborted, fun i hp => by simp [count, hp], fun i j hi hj => ?_⟩
    exact Option.some.inj ((howner hi).symm.trans (howner hj))
  generalize hstart : ({} : State ι) = s₀ at h
  induction h with
  | refl =>
    subst hstart
    exact ⟨kept_initial, .refl _⟩
  | @tail es t e u _ hstep ih =>
    obtain ⟨hkept, hrun⟩ := ih
    cases e with
    | none =>
      obtain ⟨hu, hcount⟩ := hkept.step hstep
      rw [Option.toList_none, List.append_nil, hcount]
      exact ⟨hu, hrun⟩
    | some e =>
      obtain ⟨hu, hevent⟩ := hkept.step hstep
      exact ⟨hu, .tail hrun hevent⟩

/-- A thread enters, and another one tries to. -/
theorem run_refused : ∃ es s, Run ({} : State Bool) es s ∧ es = [.acquire true, .refuse false] ∧ s.depth true = 1 := by
  refine ⟨_, _, .tail (.tail (.tail (.tail (.tail (.tail (.tail (.tail (.refl _) (.synchronized (i := true) rfl))
    (.next (i := true) rfl)) (.next (i := true) rfl)) (.next (i := true) rfl)) (.next (i := true) rfl))
    (.synchronizedTry (i := false) rfl)) (.next (i := false) rfl)) (.next (i := false) rfl), ?_, ?_⟩
  · rfl
  · rfl

theorem synchronizable_refines_refused : ∃ s : State Bool, Recursive.Run (fun _ => 0) [.acquire true, .refuse false] (count s) ∧
    s.depth true = 1 := by
  obtain ⟨es, s, hrun, rfl, hdepth⟩ := run_refused
  exact ⟨s, (synchronizable_refines hrun).1, hdepth⟩

end Synchronizable

end SocketApi
