import SocketApi.Timers.Correction

/-!
# The timer thread with another correction limit

Two states that differ in the correction limit of one timer, in the requests of it and in what is recorded.
Steps that take over no parameters keep them so, unless the limit decides about a correction.
-/

namespace SocketApi

variable {Timers : Nat}

/-- The parameters with another limit for one timer. -/
def withLimit (t : Fin Timers) (x : Cardinal32) (p : Fin Timers → TimerParameters) : Fin Timers → TimerParameters :=
  Function.update p t { p t with timerCorrection := x }

/-- The limit that is set behind a call. -/
def limitAfter (t : Fin Timers) (limit : Cardinal32) : TimerCall Timers → Cardinal32
  | .setTimerCorrection timer maxCorrection => if timer = t then maxCorrection else limit
  | _ => limit

/-! ## Other limits -/

section

variable {t i : Fin Timers} {x : Cardinal32} {p : Fin Timers → TimerParameters}

theorem withLimit_of_ne (h : i ≠ t) : withLimit t x p i = p i := Function.update_of_ne h _ _

theorem withLimit_self : withLimit t x p t = { p t with timerCorrection := x } := Function.update_self _ _ _

theorem withLimit_own : withLimit t (p t).timerCorrection p = p := Function.update_eq_self _ _

@[simp] theorem withLimit_running : (withLimit t x p i).running = (p i).running := by
  by_cases h : i = t
  · rw [h, withLimit_self]
  · rw [withLimit_of_ne h]

@[simp] theorem withLimit_interval : (withLimit t x p i).interval = (p i).interval := by
  by_cases h : i = t
  · rw [h, withLimit_self]
  · rw [withLimit_of_ne h]

@[simp] theorem withLimit_callLimit : (withLimit t x p i).callLimit = (p i).callLimit := by
  by_cases h : i = t
  · rw [h, withLimit_self]
  · rw [withLimit_of_ne h]

/-- A change of a timer's parameters that leaves the limit alone. -/
theorem withLimit_update (f : TimerParameters → TimerParameters)
    (hf : ∀ q : TimerParameters, f { q with timerCorrection := x } = { f q with timerCorrection := x }) :
    Function.update (withLimit t x p) i (f (withLimit t x p i)) = withLimit t x (Function.update p i (f (p i))) := by
  unfold withLimit
  by_cases h : i = t
  · subst h
    simp [hf]
  · rw [Function.update_of_ne h, Function.update_of_ne (Ne.symm h), Function.update_comm h]

end

namespace TimerShared

variable {t : Fin Timers} {x : Cardinal32} {w : TimerShared Timers}

/-- The shared parameters with another limit, which may be marked as changed. -/
def limited (marked : Bool) (t : Fin Timers) (x : Cardinal32) (w : TimerShared Timers) : TimerShared Timers :=
  { w with
    parameters := Function.update w.parameters t
      { w.parameters t with timerCorrection := x, updated := (w.parameters t).updated || marked }
    parametersUpdated := w.parametersUpdated || marked }

theorem setTimerCorrection_eq : w.setTimerCorrection t x = w.limited true t x := by
  unfold setTimerCorrection limited
  rw [Bool.or_true, Bool.or_true]

/-- Later calls do what they do without the change, and may set the limit again. -/
theorem call_limited (marked : Bool) (c : TimerCall Timers) :
    (w.limited marked t x).call c = (w.call c).limited marked t (limitAfter t x c) := by
  cases c with
  | setInterval i usec callLimit =>
    unfold call setInterval limited
    by_cases h : i = t
    · subst h
      simp [limitAfter]
    · simp [limitAfter, h, Ne.symm h, Function.update_comm h]
  | setTimerCorrection i maxCorrection =>
    unfold call setTimerCorrection limited
    by_cases h : i = t
    · subst h
      simp [limitAfter]
    · simp [limitAfter, h, Ne.symm h, Function.update_comm h]
  | setFastStart i on =>
    unfold call setFastStart limited
    by_cases h : i = t
    · subst h
      simp [limitAfter]
    · simp [limitAfter, h, Ne.symm h, Function.update_comm h]
  | leaveCorrectionLoop i => rfl
  | cancel => rfl

theorem calls_limited (marked : Bool) (calls : List (TimerCall Timers)) (x : Cardinal32) (w : TimerShared Timers) :
    calls.foldl call (w.limited marked t x) = (calls.foldl call w).limited marked t (calls.foldl (limitAfter t) x) := by
  induction calls generalizing x w with
  | nil => rfl
  | cons c calls ih =>
    rw [List.foldl_cons, List.foldl_cons, List.foldl_cons, call_limited, ih]

end TimerShared

namespace TimerState

/-- With another limit, the thread would do the same where it looks at the timer. -/
def DecidesAlike (s : TimerState Timers) (t : Fin Timers) (x : Cardinal32) : Prop :=
  (s.parameters t).running → s.next t ≤ s.now →
    (s.now < s.correctionEnd t ↔ s.now < s.next t + x.setWidth 64 * (s.parameters t).interval)

/-! ## The thread with another limit -/

section

variable {marked : Bool} {t i : Fin Timers} {x y : Cardinal32} {l : List (TimerEvent Timers)} {s : TimerState Timers}

/-- The state of the other run: another limit `x`, another request `y`, and what has been recorded there. -/
def altered (marked : Bool) (t : Fin Timers) (x y : Cardinal32) (l : List (TimerEvent Timers)) (s : TimerState Timers) :
    TimerState Timers :=
  { s with shared := s.shared.limited marked t y, parameters := withLimit t x s.parameters, log := l }

theorem altered_called (calls : List (TimerCall Timers)) :
    (altered marked t x y l s).called calls = altered marked t x (calls.foldl (limitAfter t) y) l (s.called calls) := by
  unfold called altered
  rw [TimerShared.calls_limited]

theorem altered_own : altered marked t (s.parameters t).timerCorrection y s.log s =
    { s with shared := s.shared.limited marked t y } := by
  unfold altered
  rw [withLimit_own]

theorem altered_limitReached : (altered marked t x y l s).limitReached i = s.limitReached i := by
  unfold limitReached altered
  rw [withLimit_callLimit]

theorem altered_noteLimit : (altered marked t x y l s).noteLimit i = altered marked t x y l (s.noteLimit i) := by
  unfold noteLimit
  rw [altered_limitReached]
  by_cases h : s.limitReached i
  · rw [if_pos h, if_pos h]
    unfold setRunning altered
    rw [withLimit_update (fun q => { q with running := false }) fun _ => rfl]
  · rw [if_neg h, if_neg h]

theorem altered_postpone : (altered marked t x y l s).postpone i = altered marked t x y l (s.postpone i) := by
  unfold postpone setNext altered
  rw [withLimit_interval]

theorem altered_due : (((altered marked t x y l s).parameters i).running ∧
    (altered marked t x y l s).next i ≤ (altered marked t x y l s).now) ↔
      (s.parameters i).running ∧ s.next i ≤ s.now := by
  unfold altered
  rw [withLimit_running]

/-- A part of a step that has the same effect on both runs, with the same events. -/
def Alike (marked : Bool) (t : Fin Timers) (x y : Cardinal32) (s u : TimerState Timers)
    (step : TimerState Timers → TimerState Timers) : Prop :=
  ∃ new, u.log = s.log ++ new ∧ ∀ l, step (altered marked t x y l s) = altered marked t x y (l ++ new) u

variable (marked t x y s i) in
theorem alike_invoke : Alike marked t x y s (s.invoke i) fun s => s.invoke i := by
  unfold invoke
  by_cases h : (s.parameters i).running ∧ s.next i ≤ s.now
  · rw [if_pos h]
    refine ⟨[.regular i ((s.noteLimit i).postpone i |>.parameters i).running], ?_, fun l => ?_⟩
    · simp [countCall, timerEvent, postpone, setNext]
    · dsimp only
      rw [if_pos (altered_due.mpr h), altered_noteLimit, altered_postpone]
      unfold countCall timerEvent altered
      rw [withLimit_running]
  · rw [if_neg h]
    refine ⟨[], (List.append_nil _).symm, fun l => ?_⟩
    dsimp only
    rw [if_neg (mt altered_due.mp h), List.append_nil]

theorem altered_correctionEnd_self : (altered marked t x y l s).correctionEnd t =
    s.next t + x.setWidth 64 * (s.parameters t).interval := by
  have hlimit : (altered marked t x y l s).parameters t = { s.parameters t with timerCorrection := x } := withLimit_self
  unfold correctionEnd
  rw [hlimit]
  rfl

theorem altered_correctionEnd_of_ne (h : i ≠ t) : (altered marked t x y l s).correctionEnd i = s.correctionEnd i := by
  have hlimit : (altered marked t x y l s).parameters i = s.parameters i := withLimit_of_ne h
  unfold correctionEnd
  rw [hlimit]
  rfl

/-- The limit decides only about the timer it belongs to. -/
theorem altered_correctionEnd (hdue : (s.parameters i).running ∧ s.next i ≤ s.now) (h : i = t → s.DecidesAlike t x) :
    (altered marked t x y l s).now < (altered marked t x y l s).correctionEnd i ↔ s.now < s.correctionEnd i := by
  by_cases hi : i = t
  · subst hi
    rw [altered_correctionEnd_self]
    exact (h rfl hdue.1 hdue.2).symm
  · rw [altered_correctionEnd_of_ne hi]
    rfl

theorem Alike.nothing {step : TimerState Timers → TimerState Timers} {u : TimerState Timers} (hlog : u.log = s.log)
    (h : ∀ l, step (altered marked t x y l s) = altered marked t x y l u) : Alike marked t x y s u step := by
  refine ⟨[], ?_, fun l => ?_⟩
  · rw [hlog, List.append_nil]
  · rw [List.append_nil]
    exact h l

variable (marked y) in
theorem alike_correct (clock : Card64) (h : i = t → s.DecidesAlike t x) :
    Alike marked t x y s (s.correct clock i) fun s => s.correct clock i := by
  unfold correct
  by_cases hdue : (s.parameters i).running ∧ s.next i ≤ s.now
  · rw [if_pos hdue]
    by_cases hend : s.now < s.correctionEnd i
    · rw [if_pos hend]
      refine Alike.nothing (by rfl) fun l => ?_
      dsimp only
      rw [if_pos (altered_due.mpr hdue), if_pos ((altered_correctionEnd hdue h).mpr hend)]
      rfl
    · rw [if_neg hend]
      refine Alike.nothing (by rfl) fun l => ?_
      dsimp only
      rw [if_pos (altered_due.mpr hdue), if_neg (mt (altered_correctionEnd hdue h).mp hend)]
      unfold setNext altered
      rw [withLimit_interval]
  · rw [if_neg hdue]
    refine Alike.nothing (by rfl) fun l => ?_
    dsimp only
    rw [if_neg (mt altered_due.mp hdue)]
    rfl

variable (marked t x y s i) in
theorem alike_correctionCall (clock : Card64) :
    Alike marked t x y s ((s.correctionCall clock i).leaveWhenDone i)
      fun s => (s.correctionCall clock i).leaveWhenDone i := by
  refine ⟨[.caughtUp i (s.parameters i).running], (correctionCall_called i).log, fun l => ?_⟩
  have hround : (altered marked t x y l s).correctionCall clock i =
      altered marked t x y (l ++ [.caughtUp i (s.parameters i).running]) (s.correctionCall clock i) := by
    unfold correctionCall
    dsimp only
    rw [altered_postpone, ← altered_noteLimit]
    unfold countCall timerEvent altered
    rw [withLimit_running]
    rfl
  dsimp only
  rw [hround]
  rfl

variable (marked t x y s i) in
theorem alike_catchUp (clock : Card64) : Alike marked t x y s (s.catchUp clock i) fun s => s.catchUp clock i := by
  unfold catchUp
  by_cases hlate : s.next i < s.now
  · have hlate' : ∀ l, (altered marked t x y l s).next i < (altered marked t x y l s).now := fun _ => hlate
    rw [if_pos hlate]
    by_cases hleave : s.shared.leaveCorrectionLoop i
    · have hleave' : ∀ l, (altered marked t x y l s).shared.leaveCorrectionLoop i := fun _ => hleave
      rw [if_pos hleave]
      refine Alike.nothing (by rfl) fun l => ?_
      rw [if_pos (hlate' l), if_pos (hleave' l)]
      rfl
    · have hleave' : ∀ l, ¬ (altered marked t x y l s).shared.leaveCorrectionLoop i := fun _ => hleave
      rw [if_neg hleave]
      obtain ⟨new, hlog, hround⟩ := alike_correctionCall marked t i x y s clock
      refine ⟨new, hlog, fun l => ?_⟩
      dsimp only
      rw [if_pos (hlate' l), if_neg (hleave' l)]
      exact hround l
  · have hlate' : ∀ l, ¬ (altered marked t x y l s).next i < (altered marked t x y l s).now := fun _ => hlate
    rw [if_neg hlate]
    refine Alike.nothing (by rfl) fun l => ?_
    rw [if_neg (hlate' l)]
    rfl

variable (marked y) in
/-- Apart from the take-over, the thread goes the same way in both runs. -/
theorem alike_advance (clock : Card64) (random : Fin Timers → BitVec 32) (hplace : s.place ≠ .prepare)
    (hdecides : s.place = .correct t → s.DecidesAlike t x) :
    Alike marked t x y s (s.advance clock random) fun s => s.advance clock random := by
  have hsame : ∀ l, (altered marked t x y l s).place = s.place := fun _ => rfl
  cases hp : s.place with
  | prepare => exact absurd hp hplace
  | check =>
    refine Alike.nothing (by unfold advance; rw [hp]) fun l => ?_
    unfold advance
    rw [hsame l, hp]
    rfl
  | delay =>
    refine Alike.nothing (by unfold advance; rw [hp]) fun l => ?_
    unfold advance
    rw [hsame l, hp]
    rfl
  | finished =>
    refine Alike.nothing (by unfold advance; rw [hp]) fun l => ?_
    unfold advance
    rw [hsame l, hp]
  | invoke n =>
    unfold advance
    rw [hp]
    dsimp only
    by_cases hn : n < Timers
    · rw [dif_pos hn]
      obtain ⟨new, hlog, hround⟩ := alike_invoke marked t ⟨n, hn⟩ x y s
      refine ⟨new, hlog, fun l => ?_⟩
      dsimp only
      rw [hsame l, hp]
      dsimp only
      have hother := hround l
      dsimp only at hother
      rw [dif_pos hn, hother]
      rfl
    · rw [dif_neg hn]
      refine Alike.nothing (by rfl) fun l => ?_
      rw [hsame l, hp]
      dsimp only
      rw [dif_neg hn]
      rfl
  | correct n =>
    unfold advance
    rw [hp]
    dsimp only
    by_cases hn : n < Timers
    · rw [dif_pos hn]
      have hcorrect : (⟨n, hn⟩ : Fin Timers) = t → s.DecidesAlike t x := by
        intro ht
        apply hdecides
        rw [hp, ← ht]
      obtain ⟨new, hlog, hround⟩ := alike_correct marked y clock hcorrect
      refine ⟨new, hlog, fun l => ?_⟩
      dsimp only
      rw [hsame l, hp]
      dsimp only
      rw [dif_pos hn]
      exact hround l
    · rw [dif_neg hn]
      refine Alike.nothing (by rfl) fun l => ?_
      rw [hsame l, hp]
      dsimp only
      rw [dif_neg hn]
      rfl
  | catchUp j =>
    unfold advance
    rw [hp]
    dsimp only
    obtain ⟨new, hlog, hround⟩ := alike_catchUp marked t j x y s clock
    refine ⟨new, hlog, fun l => ?_⟩
    dsimp only
    rw [hsame l, hp]
    exact hround l

end

end TimerState

end SocketApi
