import SocketApi.Conditions.Locking

/-!
# Waiting for conditions

A thread sleeps only on a condition that is not fired. When it is fired later, a sleeping thread is
woken, and takes the fired state; until it has, others may go on sleeping.
-/

namespace SocketApi

open Monitor

namespace Threads.Condition

variable {ι : Type} [DecidableEq ι] {s t : State ι ConditionPtr Access (Conditions ι)}

/-- A command by which a thread comes to sleep, or sleeps. -/
def Waits : Command ConditionPtr Access → Prop
  | .wait .. | .asleep .. => True
  | _ => False

/-- The thread will wake a sleeping one, or take the fired state. -/
def Due (s : State ι ConditionPtr Access (Conditions ι)) (i : ι) (c : ConditionPtr) : Prop :=
  ∃ k, s.code i = .signal c :: k ∨ s.code i = .broadcast c :: k ∨ s.code i = .access (.takeFired c) :: k ∨
    s.code i = .lock c :: .access (.takeFired c) :: k

structure Watchful (s : State ι ConditionPtr Access (Conditions ι)) : Prop where
  tested : ∀ i c a b d k, s.code i = .wait c a b d :: k → a = .takeFired c ∧ s.data.fired c = false
  sleeping : ∀ i c a b d k, s.code i = .asleep c a b d :: k → a = .takeFired c
  tail : ∀ i, ∀ x ∈ (s.code i).tail, ¬Waits x
  due : ∀ c, s.data.fired c = true → ∀ j, Asleep s j c → ∃ i, Due s i c

/-! ## The code of the calls -/

theorem fire_waits (all : Bool) (c : ConditionPtr) : ∀ x ∈ fire all c, ¬Waits x := by
  intro x hx
  cases all <;> simp [fire] at hx <;> rcases hx with rfl | rfl | rfl | rfl | rfl <;> exact id

theorem wait_waits (c : ConditionPtr) : ∀ x ∈ wait c, ¬Waits x := by
  intro x hx
  simp [wait, timedWait] at hx
  rcases hx with rfl | rfl | rfl | rfl <;> exact id

theorem call_waits (call : Call) : ∀ x ∈ call.code, ¬Waits x := by
  intro x hx
  cases call with
  | addParent c p =>
    cases p with
    | none => cases hx
    | some p =>
      simp [Call.code, addParent] at hx
      rcases hx with rfl | rfl | rfl | rfl <;> exact id
  | removeParent c p =>
    cases p with
    | none => cases hx
    | some p =>
      simp [Call.code, removeParent] at hx
      rcases hx with rfl | rfl | rfl <;> exact id
  | signal c => exact fire_waits false c x hx
  | broadcast c => exact fire_waits true c x hx
  | fired c =>
    simp [Call.code, fired] at hx
    rcases hx with rfl | rfl | rfl | rfl <;> exact id
  | peekFired c =>
    simp [Call.code, peekFired] at hx
    rcases hx with rfl | rfl | rfl <;> exact id
  | timedWait c => exact wait_waits c x (List.mem_append_left _ hx)
  | wait c => exact wait_waits c x hx

/-- Only the test of the fired state leads to a wait. -/
theorem exec_waits (i : ι) (a : Access) (d : Conditions ι) :
    (∀ x ∈ (exec i a d).2, ¬Waits x) ∨ ∃ c b e, a = .testFired c ∧ d.fired c = false ∧ (exec i a d).1 = d ∧
      (exec i a d).2 = [.wait c (.takeFired c) b e] := by
  cases a with
  | testFired c =>
    unfold exec
    dsimp only
    cases hc : d.fired c with
    | true => exact .inl (by simp [Waits])
    | false => exact .inr ⟨c, _, _, rfl, hc, rfl, rfl⟩
  | broadcastIfFired c p =>
    refine .inl ?_
    unfold exec
    dsimp only
    split
    · exact fire_waits true p
    · exact List.forall_mem_nil _
  | fireParents all c =>
    refine .inl fun x hx => ?_
    obtain ⟨p, -, hx⟩ := List.mem_flatMap.mp hx
    exact fire_waits all p x hx
  | testAgain c => exact .inl (by simp [exec, Waits])
  | waitAgain c =>
    refine .inl ?_
    unfold exec
    dsimp only
    split
    · exact List.forall_mem_nil _
    · exact wait_waits c
  | insertParent | eraseParent | setFired | readFired | resetFired | takeFired | timedOut =>
    exact .inl (List.forall_mem_nil _)

/-! ## Steps -/

/-- A step of one thread. -/
theorem Watchful.next (hs : Watchful s) {i : ι} (hcode : ∀ j, j ≠ i → t.code j = s.code j)
    (htail : ∀ x ∈ (t.code i).tail, ¬Waits x)
    (hwait : ∀ c a b d k, t.code i = .wait c a b d :: k → a = .takeFired c ∧ t.data.fired c = false)
    (hasleep : ∀ c a b d k, t.code i = .asleep c a b d :: k → a = .takeFired c ∧ t.data.fired c = false)
    (hfired : ∀ c, t.data.fired c = true → s.data.fired c = true ∨
      Due t i c ∧ ∀ j a b d k, j ≠ i → s.code j ≠ .wait c a b d :: k)
    (hdue : ∀ c, t.data.fired c = true → Due s i c → Due t i c) : Watchful t where
  tested j c a b d k hj := by
    by_cases hji : j = i
    · exact hwait c a b d k (hji ▸ hj)
    · rw [hcode j hji] at hj
      obtain ⟨ha, hc⟩ := hs.tested j c a b d k hj
      refine ⟨ha, Bool.eq_false_iff.mpr fun ht => ?_⟩
      rcases hfired c ht with h | ⟨-, h⟩
      · rw [hc] at h
        cases h
      · exact h j a b d k hji hj
  sleeping j c a b d k hj := by
    by_cases hji : j = i
    · exact (hasleep c a b d k (hji ▸ hj)).1
    · rw [hcode j hji] at hj
      exact hs.sleeping j c a b d k hj
  tail j x hx := by
    by_cases hji : j = i
    · exact htail x (hji ▸ hx)
    · rw [hcode j hji] at hx
      exact hs.tail j x hx
  due c hc j hj := by
    obtain ⟨a, b, d, k, hj⟩ := hj
    by_cases hji : j = i
    · have := (hasleep c a b d k (hji ▸ hj)).2
      rw [hc] at this
      cases this
    · rw [hcode j hji] at hj
      rcases hfired c hc with h | ⟨h, -⟩
      · obtain ⟨i', hi'⟩ := hs.due c h j ⟨a, b, d, k, hj⟩
        by_cases hi : i' = i
        · exact ⟨i, hdue c hc (hi ▸ hi')⟩
        · refine ⟨i', ?_⟩
          unfold Due at hi' ⊢
          rwa [hcode i' hi]
      · exact ⟨i, h⟩

/-- A step that leaves a part of the code of its thread, and the data. -/
theorem Watchful.shrink (hs : Watchful s) {i : ι} {x : Command ConditionPtr Access} {k : Steps}
    (hi : s.code i = x :: k) (hcode : ∀ j, j ≠ i → t.code j = s.code j) (hk : t.code i = k)
    (hdata : t.data = s.data) (hdue : ∀ c, Due s i c → Due t i c) : Watchful t := by
  have htail : ∀ y ∈ k, ¬Waits y := fun y hy => hs.tail i y (by rwa [hi])
  have hhead {y : Command ConditionPtr Access} {k' : Steps} (h : k = y :: k') : ¬Waits y :=
    htail y (h ▸ List.mem_cons_self ..)
  refine hs.next hcode (fun y hy => ?_) (fun c a b d k' h => ?_) (fun c a b d k' h => ?_) (fun c hc => ?_)
    fun c _ => hdue c
  · rw [hk] at hy
    exact htail y (List.mem_of_mem_tail hy)
  · rw [hk] at h
    exact (hhead h trivial).elim
  · rw [hk] at h
    exact (hhead h trivial).elim
  · rw [hdata] at hc
    exact .inl hc

/-- A thread that has slept goes back to its lock. -/
theorem Watchful.relock (hs : Watchful s) {i : ι} {m : ConditionPtr} {a b d e : Access} {k : Steps}
    (hi : s.code i = .asleep m a b d :: k) : Watchful (s.goto i (.lock m :: .access e :: k)) := by
  refine hs.next (fun j hj => State.goto_code_of_ne s i hj _) (fun y hy => ?_) (fun c a' b' d' k' h => ?_)
    (fun c a' b' d' k' h => ?_) (fun c hc => .inl hc) fun c _ ⟨k', h⟩ => ?_
  · rw [State.goto_code_self] at hy
    rcases List.mem_cons.mp hy with rfl | hy
    · exact id
    · exact hs.tail i y (by rwa [hi])
  · rw [State.goto_code_self] at h
    cases h
  · rw [State.goto_code_self] at h
    cases h
  · simp [hi] at h

/-- A step that wakes threads. -/
theorem Watchful.notify (hs : Watchful s) {i : ι} {m : ConditionPtr} {x : Command ConditionPtr Access} {k : Steps}
    (hi : s.code i = x :: k) (hx : x = .signal m ∨ x = .broadcast m)
    (hcode : ∀ j, j ≠ i → t.code j = s.code j ∨ t.code j = wakeUp m (s.code j)) (hk : t.code i = k)
    (hdata : t.data = s.data)
    (hsome : ∀ j, j ≠ i → Asleep s j m → Asleep t j m → ∃ j', j' ≠ i ∧ Asleep s j' m ∧ t.code j' = wakeUp m (s.code j')) :
    Watchful t := by
  have htail : ∀ y ∈ k, ¬Waits y := fun y hy => hs.tail i y (by rwa [hi])
  have hhead {y : Command ConditionPtr Access} {k' : Steps} (h : k = y :: k') : ¬Waits y :=
    htail y (h ▸ List.mem_cons_self ..)
  have hother (j : ι) (hj : j ≠ i) : t.code j = s.code j ∨
      ∃ b d k', s.code j = .asleep m (.takeFired m) b d :: k' ∧ t.code j = .lock m :: .access (.takeFired m) :: k' := by
    rcases hcode j hj with h | h
    · exact .inl h
    · rcases wakeUp_cases m (s.code j) with heq | ⟨a, b, d, k', hj', heq⟩
      · exact .inl (h.trans heq)
      · obtain rfl := hs.sleeping j m a b d k' hj'
        exact .inr ⟨b, d, k', hj', h.trans heq⟩
  constructor
  · intro j c a b d k' hj
    rw [hdata]
    by_cases hji : j = i
    · rw [hji, hk] at hj
      exact (hhead hj trivial).elim
    · rcases hother j hji with h | ⟨_, _, _, _, h⟩
      · exact hs.tested j c a b d k' (h ▸ hj)
      · rw [h] at hj
        cases hj
  · intro j c a b d k' hj
    by_cases hji : j = i
    · rw [hji, hk] at hj
      exact (hhead hj trivial).elim
    · rcases hother j hji with h | ⟨_, _, _, _, h⟩
      · exact hs.sleeping j c a b d k' (h ▸ hj)
      · rw [h] at hj
        cases hj
  · intro j y hy
    by_cases hji : j = i
    · rw [hji, hk] at hy
      exact htail y (List.mem_of_mem_tail hy)
    · rcases hother j hji with h | ⟨_, _, k', hj, h⟩
      · exact hs.tail j y (h ▸ hy)
      · rw [h] at hy
        rcases List.mem_cons.mp hy with rfl | hy
        · exact id
        · exact hs.tail j y (by rwa [hj])
  · intro c hc j hj
    rw [hdata] at hc
    have hji : j ≠ i := by
      rintro rfl
      obtain ⟨a, b, d, k', hj⟩ := hj
      rw [hk] at hj
      exact hhead hj trivial
    have hsleep : Asleep s j c := by
      obtain ⟨a, b, d, k', hj⟩ := hj
      rcases hother j hji with h | ⟨_, _, _, _, h⟩
      · exact ⟨a, b, d, k', h ▸ hj⟩
      · rw [h] at hj
        cases hj
    by_cases hcm : c = m
    · subst hcm
      obtain ⟨j', hj'i, ⟨a, b, d, k', hj'⟩, hwake⟩ := hsome j hji hsleep hj
      rcases hother j' hj'i with h | ⟨_, _, k', _, h⟩
      · rcases wakeUp_cases c (s.code j') with heq | ⟨_, _, _, k'', h', heq⟩
        · rw [hj'] at heq
          simp [wakeUp] at heq
        · obtain rfl := hs.sleeping j' c _ _ _ _ h'
          exact ⟨j', k'', .inr (.inr (.inr (hwake.trans heq)))⟩
      · exact ⟨j', k', .inr (.inr (.inr h))⟩
    · obtain ⟨i', k', hi'⟩ := hs.due c hc j hsleep
      have hne : i' ≠ i := by
        rintro rfl
        rw [hi] at hi'
        rcases hx with rfl | rfl <;> simp at hi' <;> exact hcm hi'.1.symm
      rcases hother i' hne with h | ⟨_, _, _, h, _⟩
      · exact ⟨i', k', by rwa [h]⟩
      · rw [h] at hi'
        simp at hi'

/-- Only a fired condition comes to be fired. -/
theorem exec_fired {i : ι} {a : Access} {d : Conditions ι} {c : ConditionPtr} (h : (exec i a d).1.fired c = true) :
    d.fired c = true ∨ a = .setFired c := by
  cases a with
  | setFired c' =>
    by_cases hc : c = c'
    · exact .inr (by rw [hc])
    · unfold exec at h
      dsimp only at h
      rw [Function.update_of_ne hc] at h
      exact .inl h
  | resetFired c' | takeFired c' =>
    unfold exec at h
    dsimp only at h
    by_cases hc : c = c'
    · rw [hc, Function.update_self] at h
      cases h
    · rw [Function.update_of_ne hc] at h
      exact .inl h
  | insertParent | broadcastIfFired | eraseParent | fireParents | readFired | testFired | timedOut | testAgain
  | waitAgain => exact .inl h

/-- An access: a condition that is fired has no thread before its sleep. -/
theorem Watchful.access (hs : Watchful s) (hgood : Good (rules Anyhow) (Ordered Anyhow) s) {i : ι} {a : Access}
    {k : Steps} (hi : s.code i = .access a :: k) :
    Watchful ({ s with data := (exec i a s.data).1 }.goto i ((exec i a s.data).2 ++ k)) := by
  have htail : ∀ y ∈ k, ¬Waits y := fun y hy => hs.tail i y (by rwa [hi])
  have hfits := hgood.fits i
  rw [hi] at hfits
  have hneeds := hfits.of_access.1
  have hwaits : (∀ y ∈ (exec i a s.data).2 ++ k, ¬Waits y) ∨ ∃ c b e, s.data.fired c = false ∧
      (exec i a s.data).1 = s.data ∧ (exec i a s.data).2 ++ k = .wait c (.takeFired c) b e :: k := by
    rcases exec_waits i a s.data with h | ⟨c, b, e, -, hc, hdata, hcode⟩
    · exact .inl (List.forall_mem_append.mpr ⟨h, htail⟩)
    · exact .inr ⟨c, b, e, hc, hdata, by rw [hcode]; rfl⟩
  refine hs.next (fun j hj => State.goto_code_of_ne _ i hj _) (fun y hy => ?_) (fun c b d e k' h => ?_)
    (fun c b d e k' h => ?_) (fun c hc => ?_) fun c hc ⟨k', h⟩ => ?_
  · rw [State.goto_code_self] at hy
    rcases hwaits with h | ⟨_, _, _, _, _, hcode⟩
    · exact h y (List.mem_of_mem_tail hy)
    · rw [hcode] at hy
      exact htail y hy
  · rw [State.goto_code_self] at h
    rcases hwaits with hno | ⟨_, _, _, hfired, hdata, hcode⟩
    · exact (hno (.wait c b d e) (h ▸ List.mem_cons_self ..) trivial).elim
    · rw [hcode] at h
      cases h
      exact ⟨rfl, (congrArg (Conditions.fired · c) hdata).trans hfired⟩
  · rw [State.goto_code_self] at h
    rcases hwaits with hno | ⟨_, _, _, _, _, hcode⟩
    · exact (hno (.asleep c b d e) (h ▸ List.mem_cons_self ..) trivial).elim
    · rw [hcode] at h
      cases h
  · rcases exec_fired hc with h | rfl
    · exact .inl h
    · obtain ⟨hheld, k', hk⟩ := hneeds
      refine .inr ⟨⟨k', ?_⟩, fun j b d e k'' hji hj => ?_⟩
      · rw [State.goto_code_self]
        exact hk.elim .inl (.inr ∘ .inl)
      · have hwait := hgood.fits j
        rw [hj] at hwait
        have hone := hwait.of_wait.1
        have hpos : 0 < s.held j c := by
          rw [hone]
          simp
        exact hji (hgood.exclusive c j i hpos hheld)
  · rw [hi] at h
    simp at h
    obtain ⟨rfl, -⟩ := h
    have hreset : (exec i (.takeFired c) s.data).1.fired c = false := Function.update_self ..
    rw [State.goto_data] at hc
    rw [hreset] at hc
    cases hc

theorem Watchful.step {l : Label ι ConditionPtr Access Call} (hs : Watchful s)
    (hgood : Good (rules Anyhow) (Ordered Anyhow) s) (h : Step (machine ι) s l t) : Watchful t := by
  cases h with
  | @call i call hc =>
    have hcode : ∀ x ∈ (machine ι).program call, ¬Waits x := call_waits call
    refine hs.next (fun j hj => State.goto_code_of_ne s i hj _) (fun y hy => ?_) (fun c a b d k h => ?_)
      (fun c a b d k h => ?_) (fun c hc => .inl hc) fun c _ ⟨k, h⟩ => ?_
    · rw [State.goto_code_self] at hy
      exact hcode y (List.mem_of_mem_tail hy)
    · rw [State.goto_code_self] at h
      exact (hcode (.wait c a b d) (h ▸ List.mem_cons_self ..) trivial).elim
    · rw [State.goto_code_self] at h
      exact (hcode (.asleep c a b d) (h ▸ List.mem_cons_self ..) trivial).elim
    · simp [hc] at h
  | @lock i m k hc hfree =>
    refine hs.shrink hc (fun j hj => State.goto_code_of_ne _ i hj _) (State.goto_code_self ..) rfl fun c ⟨k', h⟩ => ?_
    rw [hc] at h
    simp at h
    exact ⟨k', .inr (.inr (.inl (by rw [State.goto_code_self, h.2])))⟩
  | @unlock i m k hc hheld =>
    refine hs.shrink hc (fun j hj => State.goto_code_of_ne _ i hj _) (State.goto_code_self ..) rfl fun c ⟨k', h⟩ => ?_
    simp [hc] at h
  | access hc => exact hs.access hgood hc
  | @wait i m a b d k hc hheld =>
    obtain ⟨rfl, hfired⟩ := hs.tested i m a b d k hc
    refine hs.next (fun j hj => State.goto_code_of_ne _ i hj _) (fun y hy => ?_) (fun c a b d k h => ?_)
      (fun c a b d k h => ?_) (fun c hc => .inl hc) fun c _ ⟨k, h⟩ => ?_
    · rw [State.goto_code_self] at hy
      exact hs.tail i y (by rwa [hc])
    · rw [State.goto_code_self] at h
      cases h
    · rw [State.goto_code_self] at h
      cases h
      exact ⟨rfl, hfired⟩
    · simp [hc] at h
  | woken hc | late hc | interrupted hc => exact hs.relock hc
  | @signal i m k code hc hcode hsome =>
    refine hs.notify hc (.inl rfl) (fun j hj => ?_) (State.goto_code_self ..) rfl fun j _ hj _ => ?_
    · rw [State.goto_code_of_ne _ i hj]
      exact hcode j hj
    · obtain ⟨j', hj', hwake⟩ := hsome j hj
      have hne : j' ≠ i := by
        rintro rfl
        obtain ⟨a, b, d, k', hj'⟩ := hj'
        rw [hc] at hj'
        cases hj'
      exact ⟨j', hne, hj', (State.goto_code_of_ne _ i hne _).trans hwake⟩
  | @broadcast i m k hc =>
    refine hs.notify hc (.inr rfl) (fun j hj => .inr (State.goto_code_of_ne _ i hj _)) (State.goto_code_self ..) rfl
      fun j hj hsleep _ => ⟨j, hj, hsleep, State.goto_code_of_ne _ i hj _⟩

omit [DecidableEq ι] in
theorem watchful_initial : Watchful (initial ι) where
  tested _ _ _ _ _ _ h := by cases h
  sleeping _ _ _ _ _ _ h := by cases h
  tail _ _ h := by cases h
  due _ h := by cases h

theorem Watchful.trace {ls : List (Label ι ConditionPtr Access Call)} (hs : Watchful s)
    (hgood : Good (rules Anyhow) (Ordered Anyhow) s) (hrun : Trace (machine ι) (fun _ => True) s ls t) : Watchful t := by
  have hobeys : Obeys (machine ι) (rules Anyhow) (Ordered Anyhow) fun _ => True := obeys fun call _ => call.upward_anyhow
  induction hrun with
  | nil => exact hs
  | cons hstep hl _ ih => exact ih (hs.step hgood hstep) (hgood.step hobeys hstep hl)

/-- No wake-up is lost, whatever threads call in whatever order: while a thread sleeps on a condition that is
fired, there is one that will wake it, or one that has been woken and will take the fired state. -/
theorem no_lost_wakeup {ls : List (Label ι ConditionPtr Access Call)} {s : State ι ConditionPtr Access (Conditions ι)}
    (hrun : Trace (machine ι) (fun _ => True) (initial ι) ls s) {c : ConditionPtr} (hc : s.data.fired c = true) {j : ι}
    (hj : Asleep s j c) : ∃ i, Due s i c :=
  (watchful_initial.trace good_initial hrun).due c hc j hj

/-- One thread sleeps on the condition 1, another one has just fired it. -/
theorem run_sleeping : ∃ ls s, Trace (machine Bool) (fun _ => True) (initial Bool) ls s ∧ s.data.fired 1 = true ∧
    Asleep s false 1 := by
  have hrun (l : Label Bool ConditionPtr Access Call) (i : Bool) (op : Call) (h : l = .call i op) : True := trivial
  have hfree : ∀ j, j ≠ false → (initial Bool).held j 1 = 0 := fun _ _ => rfl
  refine ⟨_, _, .cons (.call (i := false) (.timedWait 1) rfl) (hrun _) <|
    .cons (.lock (i := false) rfl hfree) (hrun _) <| .cons (.access (i := false) rfl) (hrun _) <|
    .cons (.wait (i := false) rfl rfl) (hrun _) <| .cons (.call (i := true) (.broadcast 1) rfl) (hrun _) <|
    .cons (.lock (i := true) rfl fun j hj => ?_) (hrun _) <| .cons (.access (i := true) rfl) (hrun _) (.nil _), ?_, ?_⟩
  · cases j with
    | false => rfl
    | true => exact absurd rfl hj
  · rfl
  · exact ⟨_, _, _, _, rfl⟩

theorem no_lost_wakeup_sleeping : ∃ ls s, Trace (machine Bool) (fun _ => True) (initial Bool) ls s ∧
    s.data.fired 1 = true ∧ Asleep s false 1 ∧ ∃ i, Due s i 1 := by
  obtain ⟨ls, s, hrun, hfired, hasleep⟩ := run_sleeping
  exact ⟨ls, s, hrun, hfired, hasleep, no_lost_wakeup hrun hfired hasleep⟩

end Threads.Condition

end SocketApi
