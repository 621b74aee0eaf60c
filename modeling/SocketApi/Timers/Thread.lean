import SocketApi.Lib.Machine

/-!
# The timer thread

`MultiTimerThread::run` as a machine: a step goes from one place of its code to the next, and
takes what other threads and `timerEvent` have called before it, the reading of the clock and
the random numbers from outside. Times are 64-bit numbers of microseconds.
-/

namespace SocketApi

abbrev Card64 := BitVec 64
abbrev Cardinal32 := BitVec 32

/-! ## Data -/

structure TimerParameters where
  interval : Card64
  callLimit : Card64
  timerCorrection : Cardinal32
  fastStart : Bool
  running : Bool
  updated : Bool
  deriving DecidableEq, Repr

/-- The parameters set by the constructor. -/
def TimerParameters.initial : TimerParameters where
  interval := -1
  callLimit := 0
  timerCorrection := 10
  fastStart := true
  running := false
  updated := true

/-- What the methods and the thread share. -/
structure TimerShared (Timers : Nat) where
  parameters : Fin Timers → TimerParameters := fun _ => .initial
  parametersUpdated : Bool := true
  shutdown : Bool := false
  leaveCorrectionLoop : Fin Timers → Bool := fun _ => false

/-- What the thread has done: taken over parameters, and called `timerEvent` as the regular
schedule or the correction says, with `Running` set or not. -/
inductive TimerEvent (Timers : Nat) where
  | updated (timer : Fin Timers)
  | regular (timer : Fin Timers) (running : Bool)
  | caughtUp (timer : Fin Timers) (running : Bool)
  deriving DecidableEq

/-- The places of `run`: the head of its loop, the part under the lock, the delay, the two loops
over the timers, and the correction loop of a timer. -/
inductive TimerPlace (Timers : Nat) where
  | check
  | prepare
  | delay
  | invoke (timer : Nat)
  | correct (timer : Nat)
  | catchUp (timer : Fin Timers)
  | finished
  deriving DecidableEq

structure TimerState (Timers : Nat) where
  shared : TimerShared Timers
  parameters : Fin Timers → TimerParameters
  calls : Fin Timers → Card64
  next : Fin Timers → Card64
  now : Card64
  nextTimeStamp : Card64
  place : TimerPlace Timers
  log : List (TimerEvent Timers) := []

/-! ## The methods -/

/-- A call by another thread or by `timerEvent`. `setNextAction` and `setNextActionAbs` are
`setFastStart` and `setInterval`. -/
inductive TimerCall (Timers : Nat) where
  | setInterval (timer : Fin Timers) (usec callLimit : Card64)
  | setTimerCorrection (timer : Fin Timers) (maxCorrection : Cardinal32)
  | setFastStart (timer : Fin Timers) (on : Bool)
  | leaveCorrectionLoop (timer : Fin Timers)
  | cancel

variable {Timers : Nat}

namespace TimerShared

def setInterval (w : TimerShared Timers) (timer : Fin Timers) (usec callLimit : Card64) : TimerShared Timers :=
  { w with
    leaveCorrectionLoop := Function.update w.leaveCorrectionLoop timer false
    parameters := Function.update w.parameters timer
      { w.parameters timer with interval := usec, updated := true, callLimit, running := decide (0 < usec) }
    parametersUpdated := true }

def setTimerCorrection (w : TimerShared Timers) (timer : Fin Timers) (maxCorrection : Cardinal32) :
    TimerShared Timers :=
  { w with
    parameters := Function.update w.parameters timer
      { w.parameters timer with timerCorrection := maxCorrection, updated := true }
    parametersUpdated := true }

def setFastStart (w : TimerShared Timers) (timer : Fin Timers) (on : Bool) : TimerShared Timers :=
  { w with parameters := Function.update w.parameters timer { w.parameters timer with fastStart := on } }

def setLeaveCorrectionLoop (w : TimerShared Timers) (timer : Fin Timers) (leave : Bool) : TimerShared Timers :=
  { w with leaveCorrectionLoop := Function.update w.leaveCorrectionLoop timer leave }

def call (w : TimerShared Timers) : TimerCall Timers → TimerShared Timers
  | .setInterval timer usec callLimit => w.setInterval timer usec callLimit
  | .setTimerCorrection timer maxCorrection => w.setTimerCorrection timer maxCorrection
  | .setFastStart timer on => w.setFastStart timer on
  | .leaveCorrectionLoop timer => w.setLeaveCorrectionLoop timer true
  | .cancel => { w with shutdown := true }

end TimerShared

/-! ## The thread -/

/-- What a step takes from outside. -/
structure TimerInput (Timers : Nat) where
  calls : List (TimerCall Timers) := []
  clock : Card64
  random : Fin Timers → BitVec 32 := fun _ => 0

def UpdateResolution : Card64 := 100000

namespace TimerState

/-- "Initialize". -/
def start (w : TimerShared Timers) (clock : Card64) : TimerState Timers where
  shared := { w with shutdown := false, parametersUpdated := true }
  parameters := fun i => { w.parameters i with updated := true }
  calls := fun _ => 0
  next := fun _ => 0
  now := clock
  nextTimeStamp := clock
  place := .check

/-- The first action of a timer whose parameters have changed. -/
def firstAction (p : TimerParameters) (now : Card64) (random : BitVec 32) : Card64 :=
  if p.fastStart = false then
    if p.interval ≠ 0 ∧ p.callLimit = 0 then now + random.setWidth 64 % p.interval else now + p.interval
  else now

/-- "Check for parameter updates". -/
def update (s : TimerState Timers) (random : Fin Timers → BitVec 32) : TimerState Timers :=
  if s.shared.parametersUpdated then
    let p := s.shared.parameters
    { s with
      shared := { s.shared with parametersUpdated := false, parameters := fun i => { p i with updated := false } }
      parameters := fun i => if (p i).updated then p i else s.parameters i
      next := fun i => if (p i).updated && (p i).running then firstAction (p i) s.now (random i) else s.next i
      calls := fun i => if (p i).updated then 0 else s.calls i
      log := s.log ++ ((List.finRange Timers).filter fun i => (p i).updated).map .updated }
  else s

/-- "Calculate next timestamp". -/
def calculate (s : TimerState Timers) (clock : Card64) : TimerState Timers :=
  { s with
    now := clock
    nextTimeStamp := (List.finRange Timers).foldl
      (fun t i => if (s.parameters i).running then (if s.next i < t then s.next i else t) else t)
      (clock + UpdateResolution) }

/-- `timerEvent` is called. -/
def timerEvent (s : TimerState Timers) (e : TimerEvent Timers) : TimerState Timers := { s with log := s.log ++ [e] }

def setRunning (s : TimerState Timers) (i : Fin Timers) (running : Bool) : TimerState Timers :=
  { s with parameters := Function.update s.parameters i { s.parameters i with running } }

def setNext (s : TimerState Timers) (i : Fin Timers) (next : Card64) : TimerState Timers :=
  { s with next := Function.update s.next i next }

def countCall (s : TimerState Timers) (i : Fin Timers) : TimerState Timers :=
  { s with calls := Function.update s.calls i (s.calls i + 1) }

/-- The limit of calls has been reached. -/
def limitReached (s : TimerState Timers) (i : Fin Timers) : Bool :=
  0 < (s.parameters i).callLimit && decide ((s.parameters i).callLimit ≤ s.calls i)

/-- A timer that has reached its limit is not running any more. -/
def noteLimit (s : TimerState Timers) (i : Fin Timers) : TimerState Timers :=
  if s.limitReached i then s.setRunning i false else s

/-- The next action of a timer is one interval later. -/
def postpone (s : TimerState Timers) (i : Fin Timers) : TimerState Timers :=
  s.setNext i (s.next i + (s.parameters i).interval)

/-- "Invoke timer event" for a timer. -/
def invoke (s : TimerState Timers) (i : Fin Timers) : TimerState Timers :=
  if (s.parameters i).running ∧ s.next i ≤ s.now then
    let s := (s.noteLimit i).postpone i
    (s.timerEvent (.regular i (s.parameters i).running)).countCall i
  else s

section

variable (s : TimerState Timers) (i : Fin Timers)

@[simp] theorem noteLimit_shared : (s.noteLimit i).shared = s.shared := by
  unfold noteLimit
  split <;> rfl

@[simp] theorem noteLimit_calls : (s.noteLimit i).calls = s.calls := by
  unfold noteLimit
  split <;> rfl

@[simp] theorem noteLimit_next : (s.noteLimit i).next = s.next := by
  unfold noteLimit
  split <;> rfl

@[simp] theorem noteLimit_now : (s.noteLimit i).now = s.now := by
  unfold noteLimit
  split <;> rfl

@[simp] theorem noteLimit_place : (s.noteLimit i).place = s.place := by
  unfold noteLimit
  split <;> rfl

@[simp] theorem noteLimit_log : (s.noteLimit i).log = s.log := by
  unfold noteLimit
  split <;> rfl

theorem noteLimit_parameters :
    (s.noteLimit i).parameters = Function.update s.parameters i
      { s.parameters i with running := (s.parameters i).running && !s.limitReached i } := by
  unfold noteLimit
  by_cases h : s.limitReached i
  · rw [if_pos h, h]
    simp [setRunning]
  · rw [if_neg h]
    simp [h]

@[simp] theorem noteLimit_running :
    ((s.noteLimit i).parameters i).running = ((s.parameters i).running && !s.limitReached i) := by
  rw [noteLimit_parameters, Function.update_self]

/-- The limit and the interval of a timer are as they were. -/
@[simp] theorem noteLimit_callLimit (j : Fin Timers) :
    ((s.noteLimit i).parameters j).callLimit = (s.parameters j).callLimit := by
  rw [noteLimit_parameters]
  by_cases h : j = i
  · rw [h, Function.update_self]
  · rw [Function.update_of_ne h]

@[simp] theorem noteLimit_limitReached (j : Fin Timers) : (s.noteLimit i).limitReached j = s.limitReached j := by
  unfold limitReached
  rw [noteLimit_callLimit, noteLimit_calls]

@[simp] theorem noteLimit_interval (j : Fin Timers) :
    ((s.noteLimit i).parameters j).interval = (s.parameters j).interval := by
  rw [noteLimit_parameters]
  by_cases h : j = i
  · rw [h, Function.update_self]
  · rw [Function.update_of_ne h]

@[simp] theorem noteLimit_timerCorrection (j : Fin Timers) :
    ((s.noteLimit i).parameters j).timerCorrection = (s.parameters j).timerCorrection := by
  rw [noteLimit_parameters]
  by_cases h : j = i
  · rw [h, Function.update_self]
  · rw [Function.update_of_ne h]

end

/-- The time up to which a late timer is corrected. -/
def correctionEnd (s : TimerState Timers) (i : Fin Timers) : Card64 :=
  s.next i + (s.parameters i).timerCorrection.setWidth 64 * (s.parameters i).interval

/-- The head of "Do timer correction" for a timer. -/
def correct (s : TimerState Timers) (clock : Card64) (i : Fin Timers) : TimerState Timers :=
  if (s.parameters i).running ∧ s.next i ≤ s.now then
    if s.now < s.correctionEnd i then { s with place := .catchUp i }
    else { (s.setNext i (clock + (s.parameters i).interval)) with now := clock, place := .correct (i + 1) }
  else { s with place := .correct (i + 1) }

/-- A call in the correction loop. -/
def correctionCall (s : TimerState Timers) (clock : Card64) (i : Fin Timers) : TimerState Timers :=
  let s := s.postpone i
  let s := (s.timerEvent (.caughtUp i (s.parameters i).running)).countCall i
  { s with now := clock }.noteLimit i

/-- The loop is left when the schedule has caught up with the clock. -/
def leaveWhenDone (s : TimerState Timers) (i : Fin Timers) : TimerState Timers :=
  { s with place := if s.now ≤ s.next i then .correct (i + 1) else s.place }

/-- A round of the correction loop. -/
def catchUp (s : TimerState Timers) (clock : Card64) (i : Fin Timers) : TimerState Timers :=
  if s.next i < s.now then
    if s.shared.leaveCorrectionLoop i then
      { s with shared := s.shared.setLeaveCorrectionLoop i false, place := .correct (i + 1) }
    else (s.correctionCall clock i).leaveWhenDone i
  else { s with place := .correct (i + 1) }

/-- The thread goes on to its next place. -/
def advance (s : TimerState Timers) (clock : Card64) (random : Fin Timers → BitVec 32) : TimerState Timers :=
  match s.place with
  | .check => { s with place := if s.shared.shutdown then .finished else .prepare }
  | .prepare => { ((s.update random).calculate clock) with place := .delay }
  | .delay => { s with now := clock, place := .invoke 0 }
  | .invoke i =>
    if h : i < Timers then { (s.invoke ⟨i, h⟩) with place := .invoke (i + 1) }
    else { s with nextTimeStamp := s.now + UpdateResolution, place := .correct 0 }
  | .correct i => if h : i < Timers then s.correct clock ⟨i, h⟩ else { s with place := .check }
  | .catchUp i => s.catchUp clock i
  | .finished => s

/-- The calls of the methods before a step. -/
def called (s : TimerState Timers) (calls : List (TimerCall Timers)) : TimerState Timers :=
  { s with shared := calls.foldl TimerShared.call s.shared }

def step (input : TimerInput Timers) (s : TimerState Timers) : TimerState Timers :=
  (s.called input.calls).advance input.clock input.random

end TimerState

end SocketApi
