import SocketApi.Timers.TakeOver

/-!
# Changing the correction limit

The thread is followed in two runs, one of them with a call of `setTimerCorrection` before it. The two go
the same way, with other requests and, behind the take-over, another limit. What the take-over itself does
besides is what a call that starts a timer asks for.
-/

namespace SocketApi

open Machine

variable {Timers : Nat}

/-! ## What is to hold -/

def TimerEvent.isCall : TimerEvent Timers → Bool
  | .updated _ => false
  | _ => true

/-- The limit that is set behind the calls before the first `n` steps. -/
def limitBehind (t : Fin Timers) (limit : Cardinal32) (inputs : Nat → TimerInput Timers) : Nat → Cardinal32
  | 0 => limit
  | n + 1 => (inputs n).calls.foldl (limitAfter t) (limitBehind t limit inputs n)

namespace TimerState

/-- Two states that differ in the limit of a timer only, and in the request to take it over. -/
structure Agree (t : Fin Timers) (s s' : TimerState Timers) : Prop where
  parameters : ∃ x, s'.parameters = withLimit t x s.parameters
  calls : s'.calls = s.calls
  next : s'.next = s.next
  now : s'.now = s.now
  nextTimeStamp : s'.nextTimeStamp = s.nextTimeStamp
  place : s'.place = s.place
  shutdown : s'.shared.shutdown = s.shared.shutdown
  leaveCorrectionLoop : s'.shared.leaveCorrectionLoop = s.shared.leaveCorrectionLoop
  shared : ∀ i, i ≠ t → s'.shared.parameters i = s.shared.parameters i
  own : ∃ x updated, s'.shared.parameters t = { s.shared.parameters t with timerCorrection := x, updated := updated }
  log : s'.log.filter TimerEvent.isCall = s.log.filter TimerEvent.isCall

/-- The first `n` steps are the rest of an iteration and the next one, which takes over parameters in
step `m`. -/
structure NextIteration (s : TimerState Timers) (inputs : Nat → TimerInput Timers) (m n : Nat) : Prop where
  rest : ∀ k < m, (after step s inputs k).place ≠ .prepare
  takesOver : (after step s inputs m).place = .prepare
  once : ∀ k, m < k → k < n → (after step s inputs k).place ≠ .prepare

/-- Up to the end of the next iteration, a call of `setTimerCorrection` changes the limit only. -/
def PureChange (t : Fin Timers) (c : Cardinal32) (s : TimerState Timers) (inputs : Nat → TimerInput Timers) : Prop :=
  ∀ m n, NextIteration s inputs m n →
    Agree t (after step s inputs n) (after step (s.called [.setTimerCorrection t c]) inputs n)

/-- The limits decide alike in the steps from the take-over on. -/
def LimitsAgree (t : Fin Timers) (c : Cardinal32) (s : TimerState Timers) (inputs : Nat → TimerInput Timers)
    (m n : Nat) : Prop :=
  ∀ k, m < k → k < n → (after step s inputs k).place = .correct t →
    (after step s inputs k).DecidesAlike t (limitBehind t c inputs (m + 1))

/-- `PureChange` up to where the new limit comes to decide. -/
def PureUntilDecided (t : Fin Timers) (c : Cardinal32) (s : TimerState Timers) (inputs : Nat → TimerInput Timers) :
    Prop :=
  ∀ m n, NextIteration s inputs m n → LimitsAgree t c s inputs m n →
    Agree t (after step s inputs n) (after step (s.called [.setTimerCorrection t c]) inputs n)

/-- The take-over of the next iteration finds it so. -/
def UnaffectedNext (t : Fin Timers) (s : TimerState Timers) (inputs : Nat → TimerInput Timers) : Prop :=
  ∀ m, NextIteration s inputs m m →
    ((after step s inputs m).called (inputs m).calls).Unaffected t (inputs m).random

section

variable {t i : Fin Timers} {x y : Cardinal32} {s : TimerState Timers} {clock : Card64}
  {random : Fin Timers → BitVec 32}

/-! ## One step of both runs -/

theorem isCall_updated (log : List (TimerEvent Timers)) (l : List (Fin Timers)) :
    (log ++ l.map TimerEvent.updated).filter TimerEvent.isCall = log.filter TimerEvent.isCall := by
  rw [List.filter_append]
  have hnone : (l.map TimerEvent.updated).filter TimerEvent.isCall = [] := by
    simp [TimerEvent.isCall]
  rw [hnone, List.append_nil]

theorem altered_calculate {marked : Bool} {l : List (TimerEvent Timers)} :
    (altered marked t x y l s).calculate clock = altered marked t x y l (s.calculate clock) := by
  unfold calculate altered
  simp only [withLimit_running]

theorem called_told : s.called [.setTimerCorrection t y] = s.told t y := by
  unfold told
  rw [← TimerShared.setTimerCorrection_eq]
  rfl

theorem told_eq_altered : s.told t y = altered true t (s.parameters t).timerCorrection y s.log s := altered_own.symm

theorem told_called (calls : List (TimerCall Timers)) :
    (s.told t y).called calls = (s.called calls).told t (calls.foldl (limitAfter t) y) := by
  rw [told_eq_altered, altered_called, told_eq_altered]
  rfl

theorem agree_altered {marked : Bool} {l : List (TimerEvent Timers)}
    (hl : l.filter TimerEvent.isCall = s.log.filter TimerEvent.isCall) : Agree t s (altered marked t x y l s) where
  parameters := ⟨x, rfl⟩
  calls := rfl
  next := rfl
  now := rfl
  nextTimeStamp := rfl
  place := rfl
  shutdown := rfl
  leaveCorrectionLoop := rfl
  shared := fun _ hi => limited_parameters_of_ne _ _ hi
  own := ⟨y, _, limited_parameters_self _ _⟩
  log := hl

theorem agree_told : Agree t s (s.told t y) := by
  rw [told_eq_altered]
  exact agree_altered rfl

theorem step_takesOver (hs : s.Synced) (hplace : s.place = .prepare) (input : TimerInput Timers) :
    step input s = { ((s.called input.calls).takenOver input.random).calculate input.clock with place := .delay } := by
  have hcalled : (s.called input.calls).place = .prepare := hplace
  unfold step advance
  rw [hcalled, update_eq (synced_called hs input.calls).marked]

theorem step_told_takesOver (hplace : s.place = .prepare) (input : TimerInput Timers) :
    step input (s.told t y) =
      { (((s.called input.calls).told t (input.calls.foldl (limitAfter t) y)).takenOver input.random).calculate
          input.clock with
        place := .delay } := by
  have hmarked : ∀ z i, (((s.called input.calls).told t z).shared.parameters i).updated →
      ((s.called input.calls).told t z).shared.parametersUpdated := fun _ _ _ => Bool.or_true _
  have htold : ((s.called input.calls).told t (input.calls.foldl (limitAfter t) y)).place = .prepare := hplace
  unfold step
  rw [told_called]
  unfold advance
  rw [htold, update_eq (hmarked _)]

/-- A take-over that does not affect the timer brings the new limit, and nothing else. -/
theorem step_told_unaffected (hs : s.Synced) (hplace : s.place = .prepare) (input : TimerInput Timers)
    (h : (s.called input.calls).Unaffected t input.random) :
    ∃ l, l.filter TimerEvent.isCall = (step input s).log.filter TimerEvent.isCall ∧
      step input (s.told t y) =
        altered false t (input.calls.foldl (limitAfter t) y) (input.calls.foldl (limitAfter t) y) l
          (step input s) := by
  generalize hz : input.calls.foldl (limitAfter t) y = z
  obtain ⟨hparameters, hnext, hcalls⟩ := told_takenOver_alike (y := z) (synced_called hs input.calls) h
  have htaken : ((s.called input.calls).told t z).takenOver input.random =
      altered false t z z (((s.called input.calls).told t z).takenOver input.random).log
        ((s.called input.calls).takenOver input.random) := by
    unfold altered
    rw [← told_takenOver_shared, ← hparameters, ← hnext, ← hcalls]
    rfl
  rw [step_takesOver hs hplace, step_told_takesOver hplace, hz, htaken, altered_calculate]
  refine ⟨(((s.called input.calls).told t z).takenOver input.random).log, ?_, rfl⟩
  exact (isCall_updated _ _).trans (isCall_updated _ _).symm

theorem unaffected_of_step (hs : s.Synced) (hplace : s.place = .prepare) (input : TimerInput Timers)
    (h : Agree t (step input s) (step input (s.told t y))) : (s.called input.calls).Unaffected t input.random := by
  rw [step_takesOver hs hplace, step_told_takesOver hplace] at h
  obtain ⟨x, hparameters⟩ := h.parameters
  exact unaffected_of_alike hparameters h.next h.calls

variable (y) in
/-- Apart from the take-over, a step keeps what the runs differ in, as long as the limits decide alike. -/
theorem step_altered (marked : Bool) (hplace : s.place ≠ .prepare)
    (hdecides : s.place = .correct t → s.DecidesAlike t x) (input : TimerInput Timers) :
    ∃ new, (step input s).log = s.log ++ new ∧ ∀ l, step input (altered marked t x y l s) =
      altered marked t x (input.calls.foldl (limitAfter t) y) (l ++ new) (step input s) := by
  have hcalled : (s.called input.calls).place ≠ .prepare := hplace
  obtain ⟨new, hlog, hboth⟩ :=
    alike_advance marked (input.calls.foldl (limitAfter t) y) input.clock input.random hcalled hdecides
  refine ⟨new, hlog, fun l => ?_⟩
  unfold step
  rw [altered_called]
  exact hboth l

/-- Before the take-over, the runs differ in the requests only. -/
theorem step_told (hplace : s.place ≠ .prepare) (input : TimerInput Timers) :
    step input (s.told t y) = (step input s).told t (input.calls.foldl (limitAfter t) y) := by
  have hown : ((step input s).parameters t).timerCorrection = (s.parameters t).timerCorrection :=
    BitVec.eq_of_toNat_eq (maxCorrection_step hplace input t)
  obtain ⟨new, hlog, hboth⟩ := step_altered y true (x := (s.parameters t).timerCorrection) (t := t) hplace
    (fun _ _ _ => Iff.rfl) input
  rw [told_eq_altered, hboth, told_eq_altered, hown, hlog]

/-- Limits that do not decide alike part the runs. -/
theorem decidesAlike_of_step {marked : Bool} {l : List (TimerEvent Timers)} (hplace : s.place = .correct t)
    (input : TimerInput Timers) (h : (step input (altered marked t x y l s)).place = (step input s).place) :
    s.DecidesAlike t x := by
  intro hrunning hdue
  have hthere := step_correct (s := altered marked t x y l s) hplace input
  have hhere := step_correct hplace input
  have hne : TimerPlace.catchUp t ≠ TimerPlace.correct (t + 1) := fun hsame => by cases hsame
  have hentering : (altered marked t x y l s).Entering t ↔
      s.now < s.next t + x.setWidth 64 * (s.parameters t).interval := by
    unfold Entering
    rw [altered_correctionEnd_self]
    exact ⟨fun h => h.2.2, fun h => ⟨(altered_due.mpr ⟨hrunning, hdue⟩).1, hdue, h⟩⟩
  have hentering' : s.Entering t ↔ s.now < s.correctionEnd t := ⟨fun h => h.2.2, fun h => ⟨hrunning, hdue, h⟩⟩
  rw [← hentering', ← hentering]
  constructor
  · intro hs
    by_contra hnot
    exact hne ((hhere.1 hs).symm.trans (h.symm.trans (hthere.2 hnot)))
  · intro hs
    by_contra hnot
    exact hne ((hthere.1 hs).symm.trans (h.trans (hhere.2 hnot)))

/-! ## Whole iterations -/

variable {c : Cardinal32} {inputs : Nat → TimerInput Timers} {m n : Nat}

theorem after_told (h : ∀ k < n, (after step s inputs k).place ≠ .prepare) :
    after step (s.told t c) inputs n = (after step s inputs n).told t (limitBehind t c inputs n) := by
  induction n with
  | zero => rfl
  | succ n ih =>
    rw [after, ih fun k hk => h k (Nat.lt_succ_of_lt hk), step_told (h n (Nat.lt_succ_self n))]
    rfl

theorem NextIteration.first (h : NextIteration s inputs m n) : NextIteration s inputs m m :=
  ⟨h.rest, h.takesOver, fun _ hk hkm => absurd hk (Nat.lt_asymm hkm)⟩

/-- The steps from the take-over on. -/
theorem after_altered (hs : ∀ n, (after step s inputs n).Synced) (h : NextIteration s inputs m (m + 1 + n))
    (hunaffected : UnaffectedNext t s inputs) (hlimits : LimitsAgree t c s inputs m (m + 1 + n)) :
    ∃ l y, l.filter TimerEvent.isCall = (after step s inputs (m + 1 + n)).log.filter TimerEvent.isCall ∧
      after step (s.told t c) inputs (m + 1 + n) =
        altered false t (limitBehind t c inputs (m + 1)) y l (after step s inputs (m + 1 + n)) := by
  induction n with
  | zero =>
    obtain ⟨l, hl, hstep⟩ := step_told_unaffected (y := limitBehind t c inputs m) (hs m) h.takesOver (inputs m)
      (hunaffected m h.first)
    refine ⟨l, limitBehind t c inputs (m + 1), hl, ?_⟩
    show step (inputs m) (after step (s.told t c) inputs m) = _
    rw [after_told h.rest, hstep]
    rfl
  | succ n ih =>
    have hbefore : m + 1 + n < m + 1 + (n + 1) := by omega
    have hbehind : m < m + 1 + n := by omega
    obtain ⟨l, y, hl, hrun⟩ := ih ⟨h.rest, h.takesOver, fun k hk hkn => h.once k hk (hkn.trans hbefore)⟩
      fun k hk hkn => hlimits k hk (hkn.trans hbefore)
    obtain ⟨new, hlog, hboth⟩ :=
      step_altered y false (h.once _ hbehind hbefore) (hlimits _ hbehind hbefore) (inputs (m + 1 + n))
    refine ⟨l ++ new, (inputs (m + 1 + n)).calls.foldl (limitAfter t) y, ?_, ?_⟩
    · show _ = (step (inputs (m + 1 + n)) (after step s inputs (m + 1 + n))).log.filter TimerEvent.isCall
      rw [hlog, List.filter_append, List.filter_append, hl]
    · show step (inputs (m + 1 + n)) (after step (s.told t c) inputs (m + 1 + n)) = _
      rw [hrun]
      exact hboth l

theorem NextIteration.sub {k : Nat} (h : NextIteration s inputs m n) (hk : k ≤ n) : NextIteration s inputs m k :=
  ⟨h.rest, h.takesOver, fun j hj hjk => h.once j hj (Nat.lt_of_lt_of_le hjk hk)⟩

/-- The step of the take-over itself. -/
theorem NextIteration.succ (h : NextIteration s inputs m m) : NextIteration s inputs m (m + 1) :=
  ⟨h.rest, h.takesOver, fun _ hk hkm => absurd hk (Nat.not_lt.mpr (Nat.le_of_lt_succ hkm))⟩

theorem pureUntilDecided_iff (hs : ∀ n, (after step s inputs n).Synced) :
    PureUntilDecided t c s inputs ↔ UnaffectedNext t s inputs := by
  constructor
  · intro h m hm
    have hagree := h m (m + 1) hm.succ fun k hk hkm => absurd hk (Nat.not_lt.mpr (Nat.le_of_lt_succ hkm))
    rw [called_told] at hagree
    change Agree t (step (inputs m) (after step s inputs m)) (step (inputs m) (after step (s.told t c) inputs m)) at hagree
    rw [after_told hm.rest] at hagree
    exact unaffected_of_step (hs m) hm.takesOver (inputs m) hagree
  · intro h m n hn hlimits
    rw [called_told]
    by_cases hbefore : n ≤ m
    · rw [after_told fun k hk => hn.rest k (Nat.lt_of_lt_of_le hk hbefore)]
      exact agree_told
    · obtain ⟨d, rfl⟩ := Nat.exists_eq_add_of_le (Nat.lt_of_not_le hbefore)
      obtain ⟨l, y, hl, hrun⟩ := after_altered hs hn h hlimits
      rw [hrun]
      exact agree_altered hl

/-- Runs that stay together have come to no correction that the limits decide differently. -/
theorem limitsAgree_of_pureChange (hs : ∀ n, (after step s inputs n).Synced) (h : PureChange t c s inputs)
    (hunaffected : UnaffectedNext t s inputs) (hn : NextIteration s inputs m n) : LimitsAgree t c s inputs m n := by
  intro k
  induction k using Nat.strong_induction_on with
  | _ k ih =>
    intro hmk hkn hplace
    obtain ⟨d, rfl⟩ := Nat.exists_eq_add_of_le hmk
    have hbefore : LimitsAgree t c s inputs m (m + 1 + d) := fun j hmj hj => ih j hj hmj (hj.trans hkn)
    obtain ⟨l, y, -, hrun⟩ := after_altered hs (hn.sub hkn.le) hunaffected hbefore
    have hagree := (h m (m + 1 + d + 1) (hn.sub hkn)).place
    rw [called_told] at hagree
    change (step (inputs (m + 1 + d)) (after step (s.told t c) inputs (m + 1 + d))).place = _ at hagree
    rw [hrun] at hagree
    exact decidesAlike_of_step hplace _ hagree

theorem pureChange_iff (hs : ∀ n, (after step s inputs n).Synced) :
    PureChange t c s inputs ↔
      UnaffectedNext t s inputs ∧ ∀ m n, NextIteration s inputs m n → LimitsAgree t c s inputs m n := by
  constructor
  · intro h
    have hunaffected := (pureUntilDecided_iff hs).mp fun m n hn _ => h m n hn
    exact ⟨hunaffected, fun m n hn => limitsAgree_of_pureChange hs h hunaffected hn⟩
  · intro h m n hn
    exact (pureUntilDecided_iff hs).mpr h.1 m n hn (h.2 m n hn)

end

/-- In which states of the thread a call of `setTimerCorrection` changes nothing but the limit: up to where the
new limit itself comes to decide, and over the whole next iteration. -/
theorem setTimerCorrection_pure_iff (w : TimerShared Timers) (clock : Card64) (history : Nat → TimerInput Timers)
    (reached : Nat) (t : Fin Timers) (c : Cardinal32) (inputs : Nat → TimerInput Timers) :
    (PureUntilDecided t c (after step (start w clock) history reached) inputs ↔
      UnaffectedNext t (after step (start w clock) history reached) inputs) ∧
    (PureChange t c (after step (start w clock) history reached) inputs ↔
      UnaffectedNext t (after step (start w clock) history reached) inputs ∧
        ∀ m n, NextIteration (after step (start w clock) history reached) inputs m n →
          LimitsAgree t c (after step (start w clock) history reached) inputs m n) := by
  have hreached := synced_reached w clock history reached
  have hs : ∀ n, (after step (after step (start w clock) history reached) inputs n).Synced :=
    after_always step hreached fun input _ => synced_step input
  exact ⟨pureUntilDecided_iff hs, pureChange_iff hs⟩

/-- A timer with a limit of one call is called until it does not run any more. -/
def exhausting (i : Fin Timers) (n : Nat) : TimerInput Timers where
  calls := if n = 0 then [.setInterval i 10 1] else []
  clock := if n < 9 then 1000 else 2000

def later (_ : Nat) : TimerInput Timers where
  clock := 3000

/-- A new limit starts the exhausted timer again. -/
theorem setTimerCorrection_restarts :
    ((after step (start {} 1000) (exhausting (0 : Fin 1)) 14).parameters 0).running = false ∧
      ((after step (after step (start {} 1000) (exhausting (0 : Fin 1)) 14) later 2).parameters 0).running = false ∧
      ((after step ((after step (start {} 1000) (exhausting (0 : Fin 1)) 14).called [.setTimerCorrection 0 5])
        later 2).parameters 0).running = true ∧
      ¬ PureChange 0 5 (after step (start {} 1000) (exhausting (0 : Fin 1)) 14) later := by
  refine ⟨by decide, by decide, by decide, fun h => ?_⟩
  have hnext : NextIteration (after step (start {} 1000) (exhausting (0 : Fin 1)) 14) later 1 2 := by
    refine ⟨by decide, by decide, ?_⟩
    intro k hk hk'
    omega
  have hcalls := congrFun (h 1 2 hnext).calls 0
  revert hcalls
  decide

end TimerState

end SocketApi
