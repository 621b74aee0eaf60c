import SocketApi.Timers.CallLimit

/-!
# Timer correction

How often one round of the thread's main loop calls a timer in order to catch up. The lag is
compared with the largest correction once, before the correction loop, and the clock is read
again in the loop: it ends where the schedule has caught up with the clock, wherever that is.
-/

namespace SocketApi

open Machine

variable {Timers : Nat}

/-- What the methods leave behind that are called before the first `n` steps. -/
def TimerShared.after (w : TimerShared Timers) (inputs : Nat → TimerInput Timers) : Nat → TimerShared Timers
  | 0 => w
  | n + 1 => (inputs n).calls.foldl TimerShared.call (w.after inputs n)

theorem TimerShared.after_behind (w : TimerShared Timers) (inputs : Nat → TimerInput Timers) (n : Nat) :
    (w.after inputs 1).after (behind inputs 1) n = w.after inputs (n + 1) := by
  induction n with
  | zero => rfl
  | succ n ih =>
    show (behind inputs 1 n).calls.foldl TimerShared.call ((w.after inputs 1).after (behind inputs 1) n) = _
    rw [ih]
    unfold behind
    rw [Nat.add_comm 1 n]
    rfl

namespace TimerState

/-! ## What is to hold -/

def isCaughtUp (i : Fin Timers) : TimerEvent Timers → Bool
  | .caughtUp j _ => j = i
  | _ => false

/-- The calls of a timer by the correction loop. -/
def catchUps (s : TimerState Timers) (i : Fin Timers) : Nat := s.log.countP (isCaughtUp i)

/-- The largest correction of a timer. -/
def maxCorrection (s : TimerState Timers) (i : Fin Timers) : Nat := (s.parameters i).timerCorrection.toNat

/-- A round of the main loop, begun at `s`, ends, and calls no timer more often in the correction
loop than its largest correction says, which is taken over in the first step. -/
def CorrectionBounded (s : TimerState Timers) (inputs : Nat → TimerInput Timers) : Prop :=
  ∃ n, (after step s inputs n).place = .check ∧ (∀ m < n, (after step s inputs m).place ≠ .check) ∧
    ∀ i, (after step s inputs n).catchUps i ≤ s.catchUps i + (after step s inputs 1).maxCorrection i

/-! ## When the loop ends -/

/-- The reading of the clock behind `k` calls of the correction loop. -/
def clockBehind (s : TimerState Timers) (inputs : Nat → TimerInput Timers) : Nat → Card64
  | 0 => s.now
  | k + 1 => (inputs k).clock

/-- Behind `k` calls the schedule has caught up with the clock, or the loop is to be left. -/
def StopsAt (s : TimerState Timers) (i : Fin Timers) (inputs : Nat → TimerInput Timers) (k : Nat) : Prop :=
  s.clockBehind inputs k ≤ s.next i + BitVec.ofNat 64 k * (s.parameters i).interval ∨
    (s.shared.after inputs (k + 1)).leaveCorrectionLoop i

/-- The correction loop of a timer is entered. -/
def Entering (s : TimerState Timers) (i : Fin Timers) : Prop :=
  (s.parameters i).running ∧ s.next i ≤ s.now ∧ s.now < s.correctionEnd i

/-- From `s`, where a timer is looked at, its correction ends in time. -/
def Corrects (s : TimerState Timers) (i : Fin Timers) (inputs : Nat → TimerInput Timers) : Prop :=
  s.Entering i → ∃ k ≤ s.maxCorrection i, (step (inputs 0) s).StopsAt i (behind inputs 1) k

/-! ## One round of the loop -/

section

variable {s : TimerState Timers} {i : Fin Timers} {inputs : Nat → TimerInput Timers}

theorem step_catchUp (hplace : s.place = .catchUp i) (input : TimerInput Timers) :
    step input s = (s.called input.calls).catchUp input.clock i := by
  unfold step advance
  have hcalled : (s.called input.calls).place = .catchUp i := hplace
  rw [hcalled]

theorem step_stops (hplace : s.place = .catchUp i) (hstop : s.StopsAt i inputs 0) :
    (step (inputs 0) s).place = .correct (i + 1) ∧ (step (inputs 0) s).log = s.log ∧
      (step (inputs 0) s).parameters = s.parameters := by
  rw [step_catchUp hplace]
  unfold catchUp
  by_cases hlate : (s.called (inputs 0).calls).next i < (s.called (inputs 0).calls).now
  · have hleave : (s.called (inputs 0).calls).shared.leaveCorrectionLoop i := by
      apply hstop.resolve_left
      have hzero : s.next i + BitVec.ofNat 64 0 * (s.parameters i).interval = s.next i := by simp
      rw [hzero]
      exact BitVec.not_le.mpr hlate
    rw [if_pos hlate, if_pos hleave]
    exact ⟨rfl, rfl, rfl⟩
  · rw [if_neg hlate]
    exact ⟨rfl, rfl, rfl⟩

/-- A call has been made in the loop. -/
structure CaughtUp (s t : TimerState Timers) (i : Fin Timers) (input : TimerInput Timers) : Prop where
  log : ∃ running, t.log = s.log ++ [.caughtUp i running]
  shared : t.shared = input.calls.foldl TimerShared.call s.shared
  next : t.next i = s.next i + (s.parameters i).interval
  now : t.now = input.clock
  interval : (t.parameters i).interval = (s.parameters i).interval
  timerCorrection : ∀ j, (t.parameters j).timerCorrection = (s.parameters j).timerCorrection
  place : t.place = if t.now ≤ t.next i then .correct (i + 1) else .catchUp i

theorem correctionCall_caughtUp {input : TimerInput Timers} (hplace : s.place = .catchUp i) :
    CaughtUp s (((s.called input.calls).correctionCall input.clock i).leaveWhenDone i) i input := by
  constructor
  · exact ⟨_, (correctionCall_called i).log⟩
  · simp [leaveWhenDone, correctionCall, countCall, timerEvent, postpone, setNext, called]
  · simp [leaveWhenDone, correctionCall, countCall, timerEvent, postpone, setNext, called]
  · simp [leaveWhenDone, correctionCall]
  · simp [leaveWhenDone, correctionCall, countCall, timerEvent, postpone, setNext, called]
  · intro j
    simp [leaveWhenDone, correctionCall, countCall, timerEvent, postpone, setNext, called]
  · simp [leaveWhenDone, correctionCall, countCall, timerEvent, postpone, setNext, called, hplace]

/-- The loop goes on with a call. -/
theorem step_goesOn (hplace : s.place = .catchUp i) (hgo : ¬s.StopsAt i inputs 0) :
    CaughtUp s (step (inputs 0) s) i (inputs 0) := by
  unfold StopsAt at hgo
  rw [not_or, BitVec.not_le] at hgo
  have hzero : s.next i + BitVec.ofNat 64 0 * (s.parameters i).interval = s.next i := by simp
  rw [hzero] at hgo
  have hlate : (s.called (inputs 0).calls).next i < (s.called (inputs 0).calls).now := hgo.1
  have hleave : ¬(s.called (inputs 0).calls).shared.leaveCorrectionLoop i := hgo.2
  rw [step_catchUp hplace]
  unfold catchUp
  rw [if_pos hlate, if_neg hleave]
  exact correctionCall_caughtUp hplace

theorem stopsAt_succ (h : CaughtUp s (step (inputs 0) s) i (inputs 0)) (k : Nat) :
    (step (inputs 0) s).StopsAt i (behind inputs 1) k ↔ s.StopsAt i inputs (k + 1) := by
  have hclock : (step (inputs 0) s).clockBehind (behind inputs 1) k = s.clockBehind inputs (k + 1) := by
    cases k with
    | zero => exact h.now
    | succ k =>
      show (inputs (1 + k)).clock = (inputs (k + 1)).clock
      rw [Nat.add_comm]
  have hnext : (step (inputs 0) s).next i + BitVec.ofNat 64 k * ((step (inputs 0) s).parameters i).interval =
      s.next i + BitVec.ofNat 64 (k + 1) * (s.parameters i).interval := by
    rw [h.next, h.interval, BitVec.ofNat_add]
    grind
  have hshared : (step (inputs 0) s).shared.after (behind inputs 1) (k + 1) = s.shared.after inputs (k + 1 + 1) := by
    rw [h.shared]
    exact TimerShared.after_behind s.shared inputs (k + 1)
  unfold StopsAt
  rw [hclock, hnext, hshared]

theorem stopsAt_one (h : CaughtUp s (step (inputs 0) s) i (inputs 0))
    (hdone : (step (inputs 0) s).now ≤ (step (inputs 0) s).next i) : s.StopsAt i inputs 1 := by
  left
  have hone : BitVec.ofNat 64 1 * (s.parameters i).interval = (s.parameters i).interval := by simp
  rw [hone, ← h.next]
  show (inputs 0).clock ≤ _
  rw [← h.now]
  exact hdone

/-! ## The whole loop -/

theorem catchUps_of_log {t : TimerState Timers} {e : TimerEvent Timers} (h : t.log = s.log ++ [e]) (j : Fin Timers) :
    t.catchUps j = s.catchUps j + if isCaughtUp j e then 1 else 0 := by
  unfold catchUps
  rw [h, List.countP_append, List.countP_singleton]

theorem CaughtUp.catchUps {t : TimerState Timers} {input : TimerInput Timers} (h : CaughtUp s t i input)
    (j : Fin Timers) : t.catchUps j = s.catchUps j + if i = j then 1 else 0 := by
  obtain ⟨running, hlog⟩ := h.log
  rw [catchUps_of_log hlog]
  simp [isCaughtUp]

/-- The correction loop is left behind `n` steps, with `k` calls. -/
structure Leaves (s : TimerState Timers) (i : Fin Timers) (inputs : Nat → TimerInput Timers) (n k : Nat) : Prop where
  place : (after step s inputs n).place = .correct (i + 1)
  inside : ∀ m < n, (after step s inputs m).place = .catchUp i
  catchUps : ∀ j, (after step s inputs n).catchUps j = s.catchUps j + if i = j then k else 0
  maxCorrection : ∀ j, (after step s inputs n).maxCorrection j = s.maxCorrection j

theorem leaves_stops (hplace : s.place = .catchUp i) (hstop : s.StopsAt i inputs 0) : Leaves s i inputs 1 0 := by
  obtain ⟨hafter, hlog, hparameters⟩ := step_stops hplace hstop
  refine ⟨hafter, ?_, ?_, ?_⟩
  · intro m hm
    rw [Nat.lt_one_iff.mp hm]
    exact hplace
  · intro j
    have hsame : (after step s inputs 1).catchUps j = s.catchUps j := congrArg (List.countP (isCaughtUp j)) hlog
    rw [hsame, ite_self, Nat.add_zero]
  · intro j
    exact congrArg (fun p => (p j).timerCorrection.toNat) hparameters

theorem CaughtUp.maxCorrection {t : TimerState Timers} {input : TimerInput Timers} (h : CaughtUp s t i input)
    (j : Fin Timers) : t.maxCorrection j = s.maxCorrection j := congrArg BitVec.toNat (h.timerCorrection j)

theorem leaves_done (hplace : s.place = .catchUp i) (h : CaughtUp s (step (inputs 0) s) i (inputs 0))
    (hdone : (step (inputs 0) s).now ≤ (step (inputs 0) s).next i) : Leaves s i inputs 1 1 := by
  refine ⟨?_, ?_, h.catchUps, h.maxCorrection⟩
  · exact h.place.trans (if_pos hdone)
  · intro m hm
    rw [Nat.lt_one_iff.mp hm]
    exact hplace

theorem leaves_succ {n k : Nat} (hplace : s.place = .catchUp i) (h : CaughtUp s (step (inputs 0) s) i (inputs 0))
    (hrest : Leaves (step (inputs 0) s) i (behind inputs 1) n k) : Leaves s i inputs (n + 1) (k + 1) := by
  refine ⟨?_, ?_, ?_, ?_⟩
  · rw [after_one_add]
    exact hrest.place
  · intro m hm
    cases m with
    | zero => exact hplace
    | succ m =>
      rw [after_one_add]
      exact hrest.inside m (Nat.lt_of_succ_lt_succ hm)
  · intro j
    rw [after_one_add, hrest.catchUps, h.catchUps]
    by_cases hij : i = j
    · simp only [hij, if_true]
      omega
    · simp only [hij, if_false]
  · intro j
    rw [after_one_add, hrest.maxCorrection, h.maxCorrection]

/-- The loop is left at the first number of calls where it stops. -/
theorem loop_leaves {k : Nat} (hplace : s.place = .catchUp i) (hstop : s.StopsAt i inputs k)
    (hfirst : ∀ j < k, ¬s.StopsAt i inputs j) : ∃ n, Leaves s i inputs n k := by
  induction k generalizing s inputs with
  | zero => exact ⟨1, leaves_stops hplace hstop⟩
  | succ k ih =>
    have hcaught := step_goesOn hplace (hfirst 0 (Nat.succ_pos k))
    by_cases hdone : (step (inputs 0) s).now ≤ (step (inputs 0) s).next i
    · cases k with
      | zero => exact ⟨1, leaves_done hplace hcaught hdone⟩
      | succ k => exact absurd (stopsAt_one hcaught hdone) (hfirst 1 (Nat.succ_lt_succ (Nat.succ_pos k)))
    · have hinside : (step (inputs 0) s).place = .catchUp i := hcaught.place.trans (if_neg hdone)
      obtain ⟨n, hn⟩ := ih hinside ((stopsAt_succ hcaught k).mpr hstop) fun j hj hstop' =>
        hfirst (j + 1) (Nat.succ_lt_succ hj) ((stopsAt_succ hcaught j).mp hstop')
      exact ⟨n + 1, leaves_succ hplace hcaught hn⟩

/-- A loop that stops at no number of calls is never left. -/
theorem loop_stays (hplace : s.place = .catchUp i) (hnever : ∀ k, ¬s.StopsAt i inputs k) (n : Nat) :
    (after step s inputs n).place = .catchUp i := by
  induction n generalizing s inputs with
  | zero => exact hplace
  | succ n ih =>
    have hcaught := step_goesOn hplace (hnever 0)
    have hdone : ¬(step (inputs 0) s).now ≤ (step (inputs 0) s).next i := fun h => hnever 1 (stopsAt_one hcaught h)
    have hinside : (step (inputs 0) s).place = .catchUp i := hcaught.place.trans (if_neg hdone)
    rw [after_one_add]
    exact ih hinside fun k hstop => hnever (k + 1) ((stopsAt_succ hcaught k).mp hstop)

/-! ## Steps outside of the loop -/

theorem catchUps_mono (input : TimerInput Timers) (j : Fin Timers) : s.catchUps j ≤ (step input s).catchUps j := by
  show (s.called input.calls).catchUps j ≤ ((s.called input.calls).advance input.clock input.random).catchUps j
  generalize s.called input.calls = t
  rcases advance_cases input.clock input.random with ⟨i, -, hcalled⟩ | hquiet | ⟨-, updated, ht⟩
  · rw [catchUps_of_log hcalled.log]
    exact Nat.le_add_right _ _
  · unfold catchUps
    rw [hquiet.log]
  · unfold catchUps
    rw [ht.log, List.countP_append]
    exact Nat.le_add_right _ _

theorem catchUps_step (hplace : ∀ i, s.place ≠ .catchUp i) (input : TimerInput Timers) (j : Fin Timers) :
    (step input s).catchUps j = s.catchUps j := by
  show ((s.called input.calls).advance input.clock input.random).catchUps j = (s.called input.calls).catchUps j
  have hcalled : ∀ i, (s.called input.calls).place ≠ .catchUp i := hplace
  generalize s.called input.calls = t at *
  rcases advance_cases input.clock input.random with ⟨i, -, hcall⟩ | hquiet | ⟨-, updated, ht⟩
  · rw [catchUps_of_log hcall.log]
    unfold nextEvent
    rw [if_neg (hcalled i)]
    rfl
  · unfold catchUps
    rw [hquiet.log]
  · unfold catchUps
    rw [ht.log, List.countP_append, List.countP_map]
    have hnone : List.countP (isCaughtUp j ∘ TimerEvent.updated) ((List.finRange Timers).filter updated) = 0 :=
      List.countP_eq_zero.mpr fun _ _ h => Bool.false_ne_true h
    rw [hnone, Nat.add_zero]

/-- The largest corrections change in the first step only. -/
theorem maxCorrection_step (hplace : s.place ≠ .prepare) (input : TimerInput Timers) (j : Fin Timers) :
    (step input s).maxCorrection j = s.maxCorrection j := by
  show ((s.called input.calls).advance input.clock input.random).maxCorrection j =
    (s.called input.calls).maxCorrection j
  have hcalled : (s.called input.calls).place ≠ .prepare := hplace
  generalize s.called input.calls = t at *
  rcases advance_cases input.clock input.random with ⟨i, -, hcall⟩ | hquiet | ⟨hprepare, -⟩
  · exact congrArg BitVec.toNat (hcall.timerCorrection j)
  · unfold maxCorrection
    rw [hquiet.parameters]
  · exact absurd hprepare hcalled

/-! ## Parts of a round -/

/-- `n` steps of a round, with `calls` calls in the correction loops of the timers. -/
structure Part (s : TimerState Timers) (inputs : Nat → TimerInput Timers) (n : Nat) (calls : Fin Timers → Nat) :
    Prop where
  inside : ∀ m < n, (after step s inputs m).place ≠ .check
  catchUps : ∀ j, (after step s inputs n).catchUps j = s.catchUps j + calls j
  maxCorrection : ∀ j, (after step s inputs n).maxCorrection j = s.maxCorrection j

theorem Part.add {m n : Nat} {calls calls' : Fin Timers → Nat} (h : Part s inputs m calls)
    (h' : Part (after step s inputs m) (behind inputs m) n calls') :
    Part s inputs (m + n) fun j => calls j + calls' j := by
  refine ⟨?_, ?_, ?_⟩
  · exact all_add step (P := fun t => t.place ≠ .check) h.inside h'.inside
  · intro j
    rw [after_add, h'.catchUps, h.catchUps, Nat.add_assoc]
  · intro j
    rw [after_add, h'.maxCorrection, h.maxCorrection]

/-- A place in a round behind its first step, outside of the correction loops. -/
def isPlain : TimerPlace Timers → Bool
  | .delay => true
  | .invoke _ => true
  | .correct _ => true
  | _ => false

theorem part_step (hplain : isPlain s.place) : Part s inputs 1 fun _ => 0 := by
  refine ⟨?_, ?_, ?_⟩
  · intro m hm hcheck
    rw [Nat.lt_one_iff.mp hm] at hcheck
    have hplace : s.place = .check := hcheck
    rw [hplace] at hplain
    cases hplain
  · intro j
    apply catchUps_step
    intro i hinside
    have hplace : s.place = .catchUp i := hinside
    rw [hplace] at hplain
    cases hplain
  · intro j
    apply maxCorrection_step
    intro hprepare
    have hplace : s.place = .prepare := hprepare
    rw [hplace] at hplain
    cases hplain

theorem Leaves.part {n k : Nat} (h : Leaves s i inputs n k) : Part s inputs n fun j => if i = j then k else 0 := by
  refine ⟨?_, h.catchUps, h.maxCorrection⟩
  intro m hm hcheck
  cases (h.inside m hm).symm.trans hcheck

/-! ## The regular schedule -/

theorem step_invoke {n : Nat} (hplace : s.place = .invoke n) (input : TimerInput Timers) :
    (step input s).place = if n < Timers then .invoke (n + 1) else .correct 0 := by
  have hcalled : (s.called input.calls).place = .invoke n := hplace
  unfold step advance
  rw [hcalled]
  dsimp only
  by_cases hn : n < Timers
  · rw [dif_pos hn, if_pos hn]
  · rw [dif_neg hn, if_neg hn]

theorem part_invoke (inputs : Nat → TimerInput Timers) (d : Nat) (n : Nat) (hd : n + d = Timers)
    (hplace : s.place = .invoke n) :
    Part s inputs (d + 1) (fun _ => 0) ∧ (after step s inputs (d + 1)).place = .correct 0 := by
  induction d generalizing s inputs n with
  | zero =>
    refine ⟨part_step (by rw [hplace]; rfl), ?_⟩
    have hend := step_invoke hplace (inputs 0)
    rw [if_neg (by omega)] at hend
    exact hend
  | succ d ih =>
    have hnext := step_invoke hplace (inputs 0)
    rw [if_pos (by omega)] at hnext
    have hstep : Part s inputs 1 fun _ => 0 := part_step (by rw [hplace]; rfl)
    obtain ⟨hpart, hend⟩ := ih (behind inputs 1) (n + 1) (by omega) hnext
    rw [Nat.add_comm (d + 1) 1]
    refine ⟨hstep.add hpart, ?_⟩
    rw [after_add]
    exact hend

/-! ## The correction -/

/-- A timer that is corrected goes into its loop, another one is passed over. -/
theorem step_correct (hplace : s.place = .correct i) (input : TimerInput Timers) :
    (s.Entering i → (step input s).place = .catchUp i) ∧
      (¬s.Entering i → (step input s).place = .correct (i + 1)) := by
  have hcalled : (s.called input.calls).place = .correct i := hplace
  unfold step advance
  rw [hcalled]
  dsimp only
  rw [dif_pos i.isLt]
  unfold correct
  constructor
  · intro h
    have hdue : ((s.called input.calls).parameters i).running ∧
        (s.called input.calls).next i ≤ (s.called input.calls).now := ⟨h.1, h.2.1⟩
    have hend : (s.called input.calls).now < (s.called input.calls).correctionEnd i := h.2.2
    rw [if_pos hdue, if_pos hend]
  · intro h
    by_cases hdue : ((s.called input.calls).parameters i).running ∧
        (s.called input.calls).next i ≤ (s.called input.calls).now
    · have hend : ¬(s.called input.calls).now < (s.called input.calls).correctionEnd i := fun hend =>
        h ⟨hdue.1, hdue.2, hend⟩
      rw [if_pos hdue, if_neg hend]
    · rw [if_neg hdue]

/-- Each timer that is looked at in the rest of a round is corrected in time. -/
def AllCorrect (s : TimerState Timers) (inputs : Nat → TimerInput Timers) : Prop :=
  ∀ n (i : Fin Timers), (∀ m ≤ n, (after step s inputs m).place ≠ .check) →
    (after step s inputs n).place = .correct i → (after step s inputs n).Corrects i (behind inputs n)

theorem AllCorrect.after {m : Nat} (h : AllCorrect s inputs)
    (hinside : ∀ k < m, (Machine.after step s inputs k).place ≠ .check) :
    AllCorrect (Machine.after step s inputs m) (behind inputs m) := by
  intro n i hn hplace
  rw [← after_add] at hplace ⊢
  rw [behind_add]
  have hrest := all_add step (P := fun t => t.place ≠ .check) (n := n + 1) hinside
    fun k hk => hn k (Nat.le_of_lt_succ hk)
  exact h (m + n) i (fun k hk => hrest k (Nat.lt_succ_of_le hk)) hplace

theorem part_timer (hplace : s.place = .correct i) (hcorrects : s.Corrects i inputs) :
    ∃ n, ∃ k ≤ s.maxCorrection i,
      Part s inputs n (fun j => if i = j then k else 0) ∧ (after step s inputs n).place = .correct (i + 1) := by
  have hstep : Part s inputs 1 fun _ => 0 := part_step (by rw [hplace]; rfl)
  by_cases hentering : s.Entering i
  · classical
    have hinside := (step_correct hplace (inputs 0)).1 hentering
    obtain ⟨k, hk, hstop⟩ := hcorrects hentering
    have hsome : ∃ k, (step (inputs 0) s).StopsAt i (behind inputs 1) k := ⟨k, hstop⟩
    obtain ⟨n, hleaves⟩ := loop_leaves hinside (Nat.find_spec hsome) fun j hj => Nat.find_min hsome hj
    refine ⟨1 + n, Nat.find hsome, (Nat.find_min' hsome hstop).trans hk, ?_, ?_⟩
    · have hpart := hstep.add hleaves.part
      simpa only [Nat.zero_add] using hpart
    · rw [after_add]
      exact hleaves.place
  · refine ⟨1, 0, Nat.zero_le _, ?_, (step_correct hplace (inputs 0)).2 hentering⟩
    simpa only [ite_self] using hstep

theorem step_corrected {n : Nat} (hplace : s.place = .correct n) (hend : ¬n < Timers) (input : TimerInput Timers) :
    (step input s).place = .check := by
  have hcalled : (s.called input.calls).place = .correct n := hplace
  unfold step advance
  rw [hcalled]
  dsimp only
  rw [dif_neg hend]

/-- The correction of the timers from `n` on ends the round. -/
theorem part_correct (d : Nat) (n : Nat) (hd : n + d = Timers) (hplace : s.place = .correct n)
    (hall : AllCorrect s inputs) :
    ∃ m calls, Part s inputs m calls ∧ (after step s inputs m).place = .check ∧
      ∀ j, calls j ≤ s.maxCorrection j ∧ (j < n → calls j = 0) := by
  -- On the number of timers left; that the timers before `n` are not called keeps the bound of each one.
  induction d generalizing s inputs n with
  | zero =>
    have hstep : Part s inputs 1 fun _ => 0 := part_step (by rw [hplace]; rfl)
    have hend : (after step s inputs 1).place = .check := step_corrected hplace (by omega) (inputs 0)
    exact ⟨1, fun _ => 0, hstep, hend, fun j => ⟨Nat.zero_le _, fun _ => rfl⟩⟩
  | succ d ih =>
    have hn : n < Timers := by omega
    have hinside : ∀ m ≤ 0, (after step s inputs m).place ≠ .check := by
      intro m hm hcheck
      rw [Nat.le_zero.mp hm] at hcheck
      cases hplace.symm.trans hcheck
    have hcorrects := hall 0 ⟨n, hn⟩ hinside hplace
    rw [behind_zero] at hcorrects
    obtain ⟨m, k, hk, hpart, hnext⟩ := part_timer (i := ⟨n, hn⟩) hplace hcorrects
    obtain ⟨m', calls, hpart', hcheck, hcalls⟩ := ih (n + 1) (by omega) hnext (hall.after hpart.inside)
    refine ⟨m + m', _, hpart.add hpart', ?_, ?_⟩
    · rw [after_add]
      exact hcheck
    · intro j
      obtain ⟨hbound, hnone⟩ := hcalls j
      rw [hpart.maxCorrection] at hbound
      by_cases hj : (⟨n, hn⟩ : Fin Timers) = j
      · have hlater : calls j = 0 := hnone (by rw [← hj]; exact Nat.lt_succ_self n)
        rw [if_pos hj, hlater, ← hj]
        exact ⟨hk, fun h => absurd h (Nat.lt_irrefl n)⟩
      · rw [if_neg hj, Nat.zero_add]
        exact ⟨hbound, fun h => hnone (Nat.lt_succ_of_lt h)⟩

/-! ## A whole round -/

theorem step_prepare (hplace : s.place = .prepare) (input : TimerInput Timers) : (step input s).place = .delay := by
  have hcalled : (s.called input.calls).place = .prepare := hplace
  unfold step advance
  rw [hcalled]

theorem step_delay (hplace : s.place = .delay) (input : TimerInput Timers) : (step input s).place = .invoke 0 := by
  have hcalled : (s.called input.calls).place = .delay := hplace
  unfold step advance
  rw [hcalled]

theorem part_delay (hplace : s.place = .delay) (hall : AllCorrect s inputs) :
    ∃ n calls, Part s inputs n calls ∧ (after step s inputs n).place = .check ∧ ∀ j, calls j ≤ s.maxCorrection j := by
  have hdelay : Part s inputs 1 fun _ => 0 := part_step (by rw [hplace]; rfl)
  obtain ⟨hinvoke, hcorrect⟩ :=
    part_invoke (behind inputs 1) Timers 0 (Nat.zero_add _) (step_delay hplace (inputs 0))
  have hfirst := hdelay.add hinvoke
  have hdue : (after step s inputs (1 + (Timers + 1))).place = .correct 0 := by
    rw [after_add]
    exact hcorrect
  obtain ⟨n, calls, hpart, hcheck, hcalls⟩ :=
    part_correct Timers 0 (Nat.zero_add _) hdue (hall.after hfirst.inside)
  refine ⟨1 + (Timers + 1) + n, _, hfirst.add hpart, ?_, ?_⟩
  · rw [after_add]
    exact hcheck
  · intro j
    have hbound := (hcalls j).1
    rw [hfirst.maxCorrection] at hbound
    simpa only [Nat.zero_add] using hbound

theorem bounded_of_allCorrect (hplace : s.place = .prepare) (hall : AllCorrect s inputs) :
    s.CorrectionBounded inputs := by
  have hinside : ∀ m < 1, (after step s inputs m).place ≠ .check := by
    intro m hm hcheck
    rw [Nat.lt_one_iff.mp hm] at hcheck
    cases hplace.symm.trans hcheck
  obtain ⟨n, calls, hpart, hcheck, hcalls⟩ := part_delay (step_prepare hplace (inputs 0)) (hall.after hinside)
  refine ⟨n + 1, ?_, ?_, ?_⟩
  · rw [after_one_add]
    exact hcheck
  · intro m hm
    cases m with
    | zero => exact hinside 0 Nat.one_pos
    | succ m =>
      rw [after_one_add]
      exact hpart.inside m (Nat.lt_of_succ_lt_succ hm)
  · intro j
    have hfirst : (step (inputs 0) s).catchUps j = s.catchUps j := by
      apply catchUps_step
      intro i hcatchUp
      cases hplace.symm.trans hcatchUp
    rw [after_one_add, hpart.catchUps, hfirst]
    exact Nat.add_le_add_left (hcalls j) _

/-! ## A round that is not bounded -/

theorem step_ne_prepare (hplace : s.place ≠ .check) (input : TimerInput Timers) :
    (step input s).place ≠ .prepare := by
  have hcalled : (s.called input.calls).place ≠ .check := hplace
  unfold step
  generalize s.called input.calls = t at *
  unfold advance
  cases ht : t.place with
  | check => exact absurd ht hcalled
  | prepare => simp
  | delay => simp
  | finished => simp [ht]
  | invoke n =>
    dsimp only
    split <;> simp
  | correct n =>
    dsimp only
    by_cases hn : n < Timers
    · rw [dif_pos hn]
      unfold correct
      split
      · split <;> simp
      · simp
    · rw [dif_neg hn]
      simp
  | catchUp i =>
    dsimp only
    unfold catchUp
    by_cases hlate : t.next i < t.now
    · rw [if_pos hlate]
      by_cases hleave : t.shared.leaveCorrectionLoop i
      · rw [if_pos hleave]
        simp
      · rw [if_neg hleave]
        unfold leaveWhenDone
        rw [place_correctionCall, ht]
        dsimp only
        split <;> simp
    · rw [if_neg hlate]
      simp

/-- Behind its first step, a round does not come back to its begin. -/
theorem inside_ne_prepare {n : Nat} (hinside : ∀ m ≤ n, (after step s inputs m).place ≠ .check) {m : Nat}
    (hm : m < n) : (after step s inputs (m + 1)).place ≠ .prepare :=
  step_ne_prepare (hinside m (Nat.le_of_lt hm)) (inputs m)

theorem maxCorrection_inside {n : Nat} (hinside : ∀ m ≤ n + 1, (after step s inputs m).place ≠ .check)
    (j : Fin Timers) : (after step s inputs (n + 1)).maxCorrection j = (after step s inputs 1).maxCorrection j := by
  induction n with
  | zero => rfl
  | succ n ih =>
    have hplace := inside_ne_prepare hinside (Nat.lt_succ_of_lt (Nat.lt_succ_self n))
    rw [after, maxCorrection_step hplace]
    exact ih fun m hm => hinside m (Nat.le_succ_of_le hm)

theorem catchUps_after (s : TimerState Timers) (inputs : Nat → TimerInput Timers) (m n : Nat) (j : Fin Timers) :
    (after step s inputs m).catchUps j ≤ (after step s inputs (m + n)).catchUps j := by
  rw [after_add]
  refine after_always step (I := fun t => (after step s inputs m).catchUps j ≤ t.catchUps j) (Nat.le_refl _) ?_ n
  intro input t h
  exact h.trans (catchUps_mono input j)

theorem end_behind {n N : Nat} (hend : (after step s inputs N).place = .check)
    (hinside : ∀ m < n, (after step s inputs m).place ≠ .check) : n ≤ N := by
  by_contra h
  exact hinside N (Nat.lt_of_not_le h) hend

/-- In a bounded round each loop ends in time. -/
theorem allCorrect_of_bounded (hplace : s.place = .prepare) (hbounded : s.CorrectionBounded inputs) :
    AllCorrect s inputs := by
  intro n i hinside hcorrect hentering
  obtain ⟨N, hend, -, hcalls⟩ := hbounded
  by_contra hlate
  rw [not_exists] at hlate
  have hloop : (after step s inputs (n + 1)).place = .catchUp i := (step_correct hcorrect (inputs n)).1 hentering
  have hbegin : ∀ m < n + 1, (after step s inputs m).place ≠ .check := fun m hm => hinside m (Nat.le_of_lt_succ hm)
  by_cases hsome : ∃ k, (after step s inputs (n + 1)).StopsAt i (behind inputs (n + 1)) k
  · -- It is left too late: its calls are in the log when the round ends, whatever is between.
    classical
    obtain ⟨m, hleaves⟩ := loop_leaves hloop (Nat.find_spec hsome) fun j hj => Nat.find_min hsome hj
    have hmany : (after step s inputs n).maxCorrection i < Nat.find hsome := by
      by_contra hfew
      refine hlate (Nat.find hsome) ⟨Nat.le_of_not_lt hfew, ?_⟩
      have hstop := Nat.find_spec hsome
      rw [behind_add]
      exact hstop
    have hstays := all_add step (P := fun t => t.place ≠ .check) hbegin hleaves.part.inside
    obtain ⟨l, rfl⟩ := Nat.exists_eq_add_of_le (end_behind hend hstays)
    have hbefore := catchUps_after s inputs 0 (n + 1) i
    rw [Nat.zero_add] at hbefore
    have hinLoop := hleaves.catchUps i
    rw [if_pos rfl, ← after_add] at hinLoop
    have hbehind := catchUps_after s inputs (n + 1 + m) l i
    have hsame : (after step s inputs n).maxCorrection i = (after step s inputs 1).maxCorrection i := by
      cases n with
      | zero => cases hplace.symm.trans hcorrect
      | succ n => exact maxCorrection_inside hinside i
    have hbound := hcalls i
    have hzero : (after step s inputs 0).catchUps i = s.catchUps i := rfl
    omega
  · rw [not_exists] at hsome
    obtain ⟨l, rfl⟩ := Nat.exists_eq_add_of_le (end_behind hend hbegin)
    rw [after_add] at hend
    cases (loop_stays hloop hsome l).symm.trans hend

/-- The begin of a round. -/
def begin (s : TimerState Timers) : TimerState Timers := { s with place := .prepare }

/-- A round of the main loop keeps to the largest corrections exactly when the loop of each timer
ends in time. -/
theorem correctionBounded_iff (s : TimerState Timers) (inputs : Nat → TimerInput Timers) :
    s.begin.CorrectionBounded inputs ↔ s.begin.AllCorrect inputs :=
  ⟨allCorrect_of_bounded rfl, bounded_of_allCorrect rfl⟩

end

/-- A timer is set to an interval of 10 microseconds and a largest correction of 1, its first call
is late by 15, and from then on each call takes 100. -/
def slowHandler (i : Fin Timers) (n : Nat) : TimerInput Timers where
  calls := if n = 0 then [.setInterval i 10 0, .setTimerCorrection i 1] else []
  clock := if n = 0 then 1000 else if n < 5 then 1015 else BitVec.ofNat 64 (1000 + 100 * (n - 4))

/-- The loop is entered with a lag of 5, and makes more calls than one. -/
theorem not_correctionBounded_slowHandler : ¬(start {} 1000).begin.CorrectionBounded (slowHandler (0 : Fin 1)) := by
  intro h
  have hinside : ∀ m ≤ 4, (after step (start {} 1000).begin (slowHandler (0 : Fin 1)) m).place ≠ .check := by decide
  obtain ⟨k, hk, hstop⟩ := allCorrect_of_bounded rfl h 4 0 hinside (by decide) (by unfold Entering; decide)
  have hone : (after step (start {} 1000).begin (slowHandler (0 : Fin 1)) 4).maxCorrection 0 = 1 := by decide
  rw [hone] at hk
  revert hstop
  unfold StopsAt
  by_cases hzero : k = 0
  · rw [hzero]
    decide
  · rw [show k = 1 by omega]
    decide

end TimerState

end SocketApi
