import Mathlib.Logic.Function.Basic
import Mathlib.Logic.Relation

/-!
# Starting a thread

`Thread::start` creates the new thread with `StartupMutex` locked and waits for it once; `Thread::go` locks
the mutex and signals before it calls `run`. Mutex and condition are destroyed when the wait is over. That is
right as long as `pthread_cond_wait` only returns when it has been signalled.
-/

namespace SocketApi

namespace Starting

variable {ι : Type} [DecidableEq ι]

/-- What a thread does next in `start`. -/
inductive StartPlace where
  | idle
  | synchronizing
  | testing
  | initMutex | initCondition | locking
  | creating | storing
  | waiting | asleep | waking
  | destroyCondition | unlocking | destroyMutex
  | leaving
  deriving DecidableEq

/-- What the new thread does next in `go`. -/
inductive GoPlace where
  | absent
  | settingPID
  | locking | signalling | unlocking
  | run
  deriving DecidableEq

/-- Who has locked `StartupMutex`. -/
inductive Holder (ι : Type) where
  | nobody
  | starter (i : ι)
  | newThread

structure State (ι : Type) where
  synchronized : Option ι := none
  pthread : Bool := false
  mutexAlive : Bool := false
  conditionAlive : Bool := false
  startupMutex : Holder ι := .nobody
  place : ι → StartPlace := fun _ => .idle
  go : GoPlace := .absent

def State.goto (s : State ι) (i : ι) (p : StartPlace) : State ι := { s with place := Function.update s.place i p }

/-- The steps, with those of `pthread_cond_wait`, which may return without a signal if `spurious` holds.
`pthread_create` may fail; the new thread may run before its ID has been stored. -/
inductive Step (spurious : Bool) : State ι → State ι → Prop
  | call {s i} (h : s.place i = .idle) : Step spurious s (s.goto i .synchronizing)
  | synchronized {s i} (h : s.place i = .synchronizing) (hfree : s.synchronized = none) :
    Step spurious s ({ s with synchronized := some i }.goto i .testing)
  | test {s i} (h : s.place i = .testing) : Step spurious s (s.goto i (if s.pthread then .leaving else .initMutex))
  | initMutex {s i} (h : s.place i = .initMutex) :
    Step spurious s ({ s with mutexAlive := true, startupMutex := .nobody }.goto i .initCondition)
  | initCondition {s i} (h : s.place i = .initCondition) :
    Step spurious s ({ s with conditionAlive := true }.goto i .locking)
  | lock {s i} (h : s.place i = .locking) (hfree : s.startupMutex = .nobody) :
    Step spurious s ({ s with startupMutex := .starter i }.goto i .creating)
  | create {s i} (h : s.place i = .creating) : Step spurious s ({ s with go := .settingPID }.goto i .storing)
  | failCreate {s i} (h : s.place i = .creating) : Step spurious s (s.goto i .destroyCondition)
  | store {s i} (h : s.place i = .storing) : Step spurious s ({ s with pthread := true }.goto i .waiting)
  | wait {s i} (h : s.place i = .waiting) : Step spurious s ({ s with startupMutex := .nobody }.goto i .asleep)
  | wake {s i} (h : s.place i = .asleep) (hspurious : spurious = true) : Step spurious s (s.goto i .waking)
  | relock {s i} (h : s.place i = .waking) (hfree : s.startupMutex = .nobody) :
    Step spurious s ({ s with startupMutex := .starter i }.goto i .destroyCondition)
  | destroyCondition {s i} (h : s.place i = .destroyCondition) :
    Step spurious s ({ s with conditionAlive := false }.goto i .unlocking)
  | unlock {s i} (h : s.place i = .unlocking) : Step spurious s ({ s with startupMutex := .nobody }.goto i .destroyMutex)
  | destroyMutex {s i} (h : s.place i = .destroyMutex) : Step spurious s ({ s with mutexAlive := false }.goto i .leaving)
  | unsynchronized {s i} (h : s.place i = .leaving) : Step spurious s ({ s with synchronized := none }.goto i .idle)
  | setPID {s} (h : s.go = .settingPID) : Step spurious s { s with go := .locking }
  | goLock {s} (h : s.go = .locking) (hfree : s.startupMutex = .nobody) :
    Step spurious s { s with startupMutex := .newThread, go := .signalling }
  | signal {s} (h : s.go = .signalling) {place : ι → StartPlace}
    (hplace : ∀ i, place i = if s.place i = .asleep then .waking else s.place i) :
    Step spurious s { s with place, go := .unlocking }
  | goUnlock {s} (h : s.go = .unlocking) : Step spurious s { s with startupMutex := .nobody, go := .run }

abbrev Run (spurious : Bool) : State ι → State ι → Prop := Relation.ReflTransGen (Step spurious)

/-! ## The invariant -/

/-- The new thread is in `run` if there is one. -/
def Settled (s : State ι) : Prop := if s.pthread = true then s.go = .run else s.go = .absent

/-- Between two calls of `start`. -/
structure Resting (s : State ι) : Prop where
  startupMutex : s.startupMutex = .nobody
  mutexAlive : s.mutexAlive = false
  conditionAlive : s.conditionAlive = false
  settled : Settled s

/-- What holds of the object for the place of the thread that has synchronized it. -/
def Holds (s : State ι) (i : ι) : Prop :=
  match s.place i with
  | .idle | .synchronizing => False
  | .testing | .leaving => Resting s
  | .initMutex => Resting s ∧ s.pthread = false
  | .initCondition =>
    s.startupMutex = .nobody ∧ s.mutexAlive = true ∧ s.conditionAlive = false ∧ s.go = .absent ∧ s.pthread = false
  | .locking =>
    s.startupMutex = .nobody ∧ s.mutexAlive = true ∧ s.conditionAlive = true ∧ s.go = .absent ∧ s.pthread = false
  | .creating =>
    s.startupMutex = .starter i ∧ s.mutexAlive = true ∧ s.conditionAlive = true ∧ s.go = .absent ∧ s.pthread = false
  | .storing =>
    s.startupMutex = .starter i ∧ s.mutexAlive = true ∧ s.conditionAlive = true ∧
      (s.go = .settingPID ∨ s.go = .locking) ∧ s.pthread = false
  | .waiting =>
    s.startupMutex = .starter i ∧ s.mutexAlive = true ∧ s.conditionAlive = true ∧
      (s.go = .settingPID ∨ s.go = .locking) ∧ s.pthread = true
  | .asleep =>
    s.mutexAlive = true ∧ s.conditionAlive = true ∧ s.pthread = true ∧
      ((s.startupMutex = .nobody ∧ (s.go = .settingPID ∨ s.go = .locking)) ∨
        s.startupMutex = .newThread ∧ s.go = .signalling)
  | .waking =>
    s.mutexAlive = true ∧ s.conditionAlive = true ∧ s.pthread = true ∧
      ((s.startupMutex = .newThread ∧ s.go = .unlocking) ∨ s.startupMutex = .nobody ∧ s.go = .run)
  | .destroyCondition =>
    s.startupMutex = .starter i ∧ s.mutexAlive = true ∧ s.conditionAlive = true ∧ Settled s
  | .unlocking =>
    s.startupMutex = .starter i ∧ s.mutexAlive = true ∧ s.conditionAlive = false ∧ Settled s
  | .destroyMutex =>
    s.startupMutex = .nobody ∧ s.mutexAlive = true ∧ s.conditionAlive = false ∧ Settled s

structure Kept (s : State ι) : Prop where
  outside : ∀ i, s.synchronized ≠ some i → s.place i = .idle ∨ s.place i = .synchronizing
  inside : ∀ i, s.synchronized = some i → Holds s i
  resting : s.synchronized = none → Resting s

variable {s t : State ι} {i : ι}

@[simp] theorem goto_place (p : StartPlace) : (s.goto i p).place i = p := Function.update_self ..
@[simp] theorem goto_synchronized (p : StartPlace) : (s.goto i p).synchronized = s.synchronized := rfl
@[simp] theorem goto_pthread (p : StartPlace) : (s.goto i p).pthread = s.pthread := rfl
@[simp] theorem goto_mutexAlive (p : StartPlace) : (s.goto i p).mutexAlive = s.mutexAlive := rfl
@[simp] theorem goto_conditionAlive (p : StartPlace) : (s.goto i p).conditionAlive = s.conditionAlive := rfl
@[simp] theorem goto_startupMutex (p : StartPlace) : (s.goto i p).startupMutex = s.startupMutex := rfl
@[simp] theorem goto_go (p : StartPlace) : (s.goto i p).go = s.go := rfl

omit [DecidableEq ι] in
theorem Kept.synchronized (hs : Kept s) (hidle : s.place i ≠ .idle) (hsynchronizing : s.place i ≠ .synchronizing) :
    s.synchronized = some i := by
  by_contra hne
  rcases hs.outside i hne with h | h
  · exact hidle h
  · exact hsynchronizing h

omit [DecidableEq ι] in
/-- A step of the thread that has synchronized the object. -/
theorem Kept.own (hs : Kept s) (hi : s.synchronized = some i) (ht : t.synchronized = some i)
    (hplace : ∀ j, j ≠ i → t.place j = s.place j) (h : Holds t i) : Kept t where
  outside j hj := by
    rw [ht] at hj
    have hji : j ≠ i := fun h => hj (h ▸ rfl)
    rw [hplace j hji]
    exact hs.outside j fun h => hj (hi ▸ h)
  inside j hj := by
    rw [ht] at hj
    exact Option.some.inj hj ▸ h
  resting h := by
    rw [ht] at h
    cases h

omit [DecidableEq ι] in
/-- While the new thread is in `go`, some thread is in `start`. -/
theorem Kept.starter (hs : Kept s) (habsent : s.go ≠ .absent) (hrun : s.go ≠ .run) :
    ∃ i, s.synchronized = some i ∧ Holds s i ∧ ¬Resting s := by
  have hresting : ¬Resting s := by
    intro h
    have hsettled := h.settled
    unfold Settled at hsettled
    split at hsettled
    · exact hrun hsettled
    · exact habsent hsettled
  cases hi : s.synchronized with
  | none => exact absurd (hs.resting hi) hresting
  | some i => exact ⟨i, rfl, hs.inside i hi, hresting⟩

@[simp] theorem resting_goto (p : StartPlace) : Resting (s.goto i p) ↔ Resting s :=
  ⟨fun h => ⟨h.startupMutex, h.mutexAlive, h.conditionAlive, h.settled⟩, fun h => ⟨h.startupMutex, h.mutexAlive, h.conditionAlive, h.settled⟩⟩

theorem goto_other {j : ι} (hji : j ≠ i) (p : StartPlace) : (s.goto i p).place j = s.place j := Function.update_of_ne hji ..

theorem holds_goto {j : ι} (hji : j ≠ i) {p : StartPlace} (h : Holds s j) : Holds (s.goto i p) j := by
  unfold Holds at h ⊢
  rw [goto_other hji]
  cases hp : s.place j <;> rw [hp] at h
  case testing | leaving => exact (resting_goto p).mpr h
  case initMutex => exact ⟨(resting_goto p).mpr h.1, h.2⟩
  all_goals exact h

/-- A step of the thread that has synchronized the object, in `start`. -/
theorem Kept.start (hs : Kept s) (hidle : s.place i ≠ .idle) (hsynchronizing : s.place i ≠ .synchronizing) {p : StartPlace}
    {u : State ι} (hu : u.synchronized = s.synchronized) (hplace : u.place = s.place)
    (h : Holds s i → Holds (u.goto i p) i) : Kept (u.goto i p) := by
  have hi := hs.synchronized hidle hsynchronizing
  have hui : (u.goto i p).synchronized = some i := hu.trans hi
  refine hs.own hi hui (fun j hj => ?_) (h (hs.inside i hi))
  rw [← hplace]
  exact Function.update_of_ne hj ..

omit [DecidableEq ι] in
/-- A step of the new thread, in `go`. -/
theorem Kept.goes (hs : Kept s) (habsent : s.go ≠ .absent) (hrun : s.go ≠ .run) (ht : t.synchronized = s.synchronized)
    (hplace : ∀ i, s.synchronized ≠ some i → t.place i = s.place i) (h : ∀ i, Holds s i → ¬Resting s → Holds t i) :
    Kept t := by
  obtain ⟨i, hi, hin, hresting⟩ := hs.starter habsent hrun
  refine hs.own hi (ht.trans hi) (fun j hj => hplace j fun hj' => hj ?_) (h i hin hresting)
  exact Option.some.inj (hj'.symm.trans hi)

theorem Kept.step (hs : Kept s) (h : Step false s t) : Kept t := by
  cases h with
  | @call i h =>
    have hne : s.synchronized ≠ some i := fun hi => by simpa [Holds, h] using hs.inside i hi
    refine ⟨fun j hj => ?_, fun j hj => ?_, fun h => (resting_goto _).mpr (hs.resting h)⟩
    · by_cases hji : j = i
      · simp [hji]
      · rw [goto_other hji]
        exact hs.outside j hj
    · have hji : j ≠ i := fun h => hne (h ▸ hj)
      exact holds_goto hji (hs.inside j hj)
  | @synchronized i h hfree =>
    have hresting := hs.resting hfree
    refine ⟨fun j hj => ?_, fun j hj => ?_, fun h => by cases h⟩
    · have hji : j ≠ i := fun h => hj (h ▸ rfl)
      rw [goto_other hji]
      exact hs.outside j (by simp [hfree])
    · obtain rfl := Option.some.inj hj
      simp only [Holds, goto_place]
      exact (resting_goto _).mpr ⟨hresting.startupMutex, hresting.mutexAlive, hresting.conditionAlive, hresting.settled⟩
  | @test i h =>
    refine hs.start (by rw [h]; decide) (by rw [h]; decide) rfl rfl fun hin => ?_
    simp only [Holds, h] at hin
    cases hpthread : s.pthread with
    | false => simpa [Holds, hpthread] using hin
    | true => simpa [Holds] using hin
  | @initMutex i h =>
    refine hs.start (by rw [h]; decide) (by rw [h]; decide) rfl rfl fun hin => ?_
    simp only [Holds, h] at hin
    have hsettled := hin.1.settled
    simpa [Holds, Settled, hin.2, hin.1.conditionAlive] using hsettled
  | @initCondition i h =>
    refine hs.start (by rw [h]; decide) (by rw [h]; decide) rfl rfl fun hin => ?_
    simp only [Holds, h] at hin
    simp [Holds, hin]
  | @lock i h hfree =>
    refine hs.start (by rw [h]; decide) (by rw [h]; decide) rfl rfl fun hin => ?_
    simp only [Holds, h] at hin
    simp [Holds, hin]
  | @create i h =>
    refine hs.start (by rw [h]; decide) (by rw [h]; decide) rfl rfl fun hin => ?_
    simp only [Holds, h] at hin
    simp [Holds, hin]
  | @failCreate i h =>
    refine hs.start (by rw [h]; decide) (by rw [h]; decide) rfl rfl fun hin => ?_
    simp only [Holds, h] at hin
    simp [Holds, Settled, hin]
  | @store i h =>
    refine hs.start (by rw [h]; decide) (by rw [h]; decide) rfl rfl fun hin => ?_
    simp only [Holds, h] at hin
    simp [Holds, hin]
  | @wait i h =>
    refine hs.start (by rw [h]; decide) (by rw [h]; decide) rfl rfl fun hin => ?_
    simp only [Holds, h] at hin
    simp [Holds, hin]
  | wake h hspurious => cases hspurious
  | @relock i h hfree =>
    refine hs.start (by rw [h]; decide) (by rw [h]; decide) rfl rfl fun hin => ?_
    simp only [Holds, h, hfree] at hin
    simpa [Holds, Settled, hin] using hin.2.2.2
  | @destroyCondition i h =>
    refine hs.start (by rw [h]; decide) (by rw [h]; decide) rfl rfl fun hin => ?_
    simp only [Holds, Settled, h] at hin
    simp [Holds, Settled, hin]
  | @unlock i h =>
    refine hs.start (by rw [h]; decide) (by rw [h]; decide) rfl rfl fun hin => ?_
    simp only [Holds, Settled, h] at hin
    simp [Holds, Settled, hin]
  | @destroyMutex i h =>
    refine hs.start (by rw [h]; decide) (by rw [h]; decide) rfl rfl fun hin => ?_
    simp only [Holds, h] at hin
    obtain ⟨hmutex, -, hcondition, hgo⟩ := hin
    simp only [Holds, goto_place]
    exact ⟨hmutex, rfl, hcondition, hgo⟩
  | @unsynchronized i h =>
    have hi := hs.synchronized (i := i) (by rw [h]; decide) (by rw [h]; decide)
    have hresting := hs.inside i hi
    simp only [Holds, h] at hresting
    refine ⟨fun j _ => ?_, fun j hj => (Option.some_ne_none j hj.symm).elim, fun _ => (resting_goto _).mpr ?_⟩
    · by_cases hji : j = i
      · simp [hji]
      · rw [goto_other hji]
        exact hs.outside j fun hj => hji (Option.some.inj (hj.symm.trans hi))
    · exact ⟨hresting.startupMutex, hresting.mutexAlive, hresting.conditionAlive, hresting.settled⟩
  | setPID h =>
    refine hs.goes (by rw [h]; decide) (by rw [h]; decide) rfl (fun _ _ => rfl) fun i hin hresting => ?_
    unfold Holds at hin ⊢
    cases hp : s.place i <;> simp [hp, h, hresting, Settled] at hin ⊢ <;> simp [hin]
  | goLock h hfree =>
    refine hs.goes (by rw [h]; decide) (by rw [h]; decide) rfl (fun _ _ => rfl) fun i hin hresting => ?_
    unfold Holds at hin ⊢
    cases hp : s.place i <;> simp [hp, h, hresting, hfree, Settled] at hin ⊢ <;> simp [hin]
  | signal h hplace =>
    refine hs.goes (by rw [h]; decide) (by rw [h]; decide) rfl (fun i hi => ?_) fun i hin hresting => ?_
    · dsimp only
      rw [hplace]
      rcases hs.outside i hi with hp | hp <;> simp [hp]
    · unfold Holds at hin ⊢
      dsimp only
      rw [hplace]
      cases hp : s.place i <;> simp [hp, h, hresting, Settled] at hin ⊢ <;> simp [hin]
  | goUnlock h =>
    refine hs.goes (by rw [h]; decide) (by rw [h]; decide) rfl (fun _ _ => rfl) fun i hin hresting => ?_
    unfold Holds at hin ⊢
    cases hp : s.place i <;> simp [hp, h, hresting, Settled] at hin ⊢ <;> simp [hin]

omit [DecidableEq ι] in
theorem kept_initial : Kept ({} : State ι) where
  outside _ _ := .inl rfl
  inside _ h := by cases h
  resting _ := ⟨rfl, rfl, rfl, rfl⟩

theorem kept_run (h : Run false {} s) : Kept s := by
  induction h with
  | refl => exact kept_initial
  | tail _ hstep ih => exact ih.step hstep

/-! ## What starting is for -/

/-- Mutex and condition are there when the new thread uses them, and `run` only begins when `PThread` is set and
`start` has been told. -/
structure Safe (s : State ι) : Prop where
  mutex : s.go = .locking ∨ s.go = .signalling ∨ s.go = .unlocking → s.mutexAlive = true
  condition : s.go = .signalling → s.conditionAlive = true
  running : s.go = .run → s.pthread = true ∧ ∀ i, s.place i ≠ .waiting ∧ s.place i ≠ .asleep

omit [DecidableEq ι] in
theorem Resting.run (h : Resting s) (hrun : s.go = .run) : s.pthread = true := by
  have hsettled := h.settled
  by_contra hpthread
  simp [Settled, hpthread, hrun] at hsettled

omit [DecidableEq ι] in
theorem Holds.uses (h : Holds s i) (hresting : ¬Resting s) (habsent : s.go ≠ .absent) (hrun : s.go ≠ .run) :
    s.mutexAlive = true ∧ s.conditionAlive = true := by
  unfold Holds at h
  cases hp : s.place i <;> simp [hp, Settled, hresting, habsent, hrun] at h <;> simp [h]

omit [DecidableEq ι] in
theorem Holds.runs (h : Holds s i) (hrun : s.go = .run) :
    s.pthread = true ∧ s.place i ≠ .waiting ∧ s.place i ≠ .asleep := by
  unfold Holds at h
  cases hp : s.place i <;> simp [hp, Settled, hrun] at h ⊢
  case testing | leaving => exact h.run hrun
  case initMutex => simp [h.1.run hrun] at h
  all_goals simp [h]

omit [DecidableEq ι] in
theorem Kept.safe (hs : Kept s) : Safe s := by
  have huses (habsent : s.go ≠ .absent) (hrun : s.go ≠ .run) : s.mutexAlive = true ∧ s.conditionAlive = true := by
    obtain ⟨i, -, hin, hresting⟩ := hs.starter habsent hrun
    exact hin.uses hresting habsent hrun
  refine ⟨fun h => ?_, fun h => ?_, fun h => ⟨?_, fun i => ?_⟩⟩
  · rcases h with h | h | h <;> exact (huses (by rw [h]; decide) (by rw [h]; decide)).1
  · exact (huses (by rw [h]; decide) (by rw [h]; decide)).2
  · cases hi : s.synchronized with
    | none => exact (hs.resting hi).run h
    | some i => exact ((hs.inside i hi).runs h).1
  · by_cases hi : s.synchronized = some i
    · exact ((hs.inside i hi).runs h).2
    · rcases hs.outside i hi with hp | hp <;> simp [hp]

/-- With a wait that returns by itself, the new thread finds the mutex destroyed. -/
theorem unsafe_run (i : ι) : ∃ s : State ι, Run true {} s ∧ ¬Safe s := by
  have hplace {s : State ι} {p : StartPlace} : (s.goto i p).place i = p := goto_place p
  refine ⟨_, .head (.call (i := i) rfl) <| .head (.synchronized hplace rfl) <| .head (.test hplace) <|
    .head (.initMutex hplace) <| .head (.initCondition hplace) <| .head (.lock hplace rfl) <| .head (.create hplace) <|
    .head (.store hplace) <| .head (.wait hplace) <| .head (.wake hplace rfl) <| .head (.relock hplace rfl) <|
    .head (.destroyCondition hplace) <| .head (.unlock hplace) <| .head (.destroyMutex hplace) <|
    .head (.setPID rfl) .refl, fun h => ?_⟩
  have hmutex := h.mutex (.inl rfl)
  cases hmutex

/-- Whatever threads call `start` in whatever order: the new thread never finds its mutex or condition destroyed, nor
begins `run` before `start` knows of it, exactly if `pthread_cond_wait` never returns without a signal. -/
theorem start_safe_iff [Nonempty ι] (spurious : Bool) :
    (∀ s : State ι, Run spurious {} s → Safe s) ↔ spurious = false := by
  constructor
  · intro h
    obtain ⟨i⟩ := ‹Nonempty ι›
    obtain ⟨s, hrun, hunsafe⟩ := unsafe_run i
    cases spurious with
    | false => rfl
    | true => exact absurd (h s hrun) hunsafe
  · rintro rfl s hrun
    exact (kept_run hrun).safe

theorem start_safe_two : ∃ s : State Bool, Run true {} s ∧ ¬Safe s := by
  have hunsafe := mt (@start_safe_iff Bool _ _ true).mp (by decide)
  simpa using hunsafe

/-! ## The signal is not lost -/

/-- A step that is no call of `start`. -/
def Goes (s t : State ι) : Prop := Step false s t ∧ ∀ i, s.place i = .idle → t.place i = .idle

theorem goes_goto {u : State ι} {p : StartPlace} (h : Step false s (u.goto i p)) (hi : s.place i ≠ .idle)
    (hplace : u.place = s.place) : ∃ t, Goes s t := by
  refine ⟨_, h, fun j hj => ?_⟩
  have hji : j ≠ i := fun h => hi (h ▸ hj)
  rw [goto_other hji, hplace]
  exact hj

theorem Holds.goes (h : Holds s i) : ∃ t, Goes s t := by
  unfold Holds at h
  cases hp : s.place i <;> simp only [hp] at h
  all_goals have hi : s.place i ≠ .idle := by simp [hp]
  case testing => exact goes_goto (.test hp) hi rfl
  case initMutex => exact goes_goto (.initMutex hp) hi rfl
  case initCondition => exact goes_goto (.initCondition hp) hi rfl
  case locking => exact goes_goto (.lock hp h.1) hi rfl
  case creating => exact goes_goto (.create hp) hi rfl
  case storing => exact goes_goto (.store hp) hi rfl
  case waiting => exact goes_goto (.wait hp) hi rfl
  case destroyCondition => exact goes_goto (.destroyCondition hp) hi rfl
  case unlocking => exact goes_goto (.unlock hp) hi rfl
  case destroyMutex => exact goes_goto (.destroyMutex hp) hi rfl
  case leaving => exact goes_goto (.unsynchronized hp) hi rfl
  case asleep =>
    -- the signal is still to come
    obtain ⟨-, -, -, ⟨hfree, hgo | hgo⟩ | ⟨-, hgo⟩⟩ := h
    · exact ⟨_, .setPID hgo, fun _ h => h⟩
    · exact ⟨_, .goLock hgo hfree, fun _ h => h⟩
    · exact ⟨_, .signal hgo fun _ => rfl, fun j hj => by simp [hj]⟩
  case waking =>
    obtain ⟨-, -, -, ⟨-, hgo⟩ | ⟨hfree, -⟩⟩ := h
    · exact ⟨_, .goUnlock hgo, fun _ h => h⟩
    · exact goes_goto (.relock hp hfree) hi rfl

/-- As long as a thread is in `start`, some thread can go on: the signal comes behind the wait. -/
theorem start_progress (h : Run false {} s) (hi : s.place i ≠ .idle) : ∃ t, Goes s t := by
  have hs := kept_run h
  cases hsynchronized : s.synchronized with
  | some k => exact (hs.inside k hsynchronized).goes
  | none =>
    rcases hs.outside i (by simp [hsynchronized]) with hp | hp
    · exact absurd hp hi
    · exact goes_goto (.synchronized hp hsynchronized) hi rfl

/-- Two threads call, and one of them goes to sleep. -/
theorem start_progress_asleep : ∃ s t : State Bool, s.place true = .asleep ∧ s.place false = .synchronizing ∧ Goes s t := by
  have hplace {s : State Bool} {p : StartPlace} : (s.goto true p).place true = p := goto_place p
  have hrun : ∃ s : State Bool, Run false {} s ∧ s.place true = .asleep ∧ s.place false = .synchronizing := by
    refine ⟨_, .head (.call (i := false) rfl) <| .head (.call (i := true) rfl) <| .head (.synchronized hplace rfl) <|
      .head (.test hplace) <| .head (.initMutex hplace) <| .head (.initCondition hplace) <| .head (.lock hplace rfl) <|
      .head (.create hplace) <| .head (.store hplace) <| .head (.wait hplace) .refl, ?_, ?_⟩
    · rfl
    · rfl
  obtain ⟨s, hrun, hasleep, hother⟩ := hrun
  obtain ⟨t, ht⟩ := start_progress hrun (i := true) (by simp [hasleep])
  exact ⟨s, t, hasleep, hother, ht⟩

end Starting

end SocketApi
