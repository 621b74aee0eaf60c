import SocketApi.Timers.Thread

/-!
# The limit of calls

What a run of the timer thread does to the numbers of calls: a step calls `timerEvent` for one
timer, takes over parameters, or leaves both alone. The regular schedule notes that a limit has
been reached and calls all the same; the correction loop notes it and goes on.
-/

namespace SocketApi.TimerState

open Machine

variable {Timers : Nat}

/-! ## Numbers of calls -/

/-- The number of calls of a timer behind an event. -/
def countEvent (i : Fin Timers) (n : Nat) : TimerEvent Timers → Nat
  | .updated j => if j = i then 0 else n
  | .regular j _ => if j = i then n + 1 else n
  | .caughtUp j _ => if j = i then n + 1 else n

/-- The calls of a timer since its parameters were last taken over. -/
def callsSince (i : Fin Timers) (log : List (TimerEvent Timers)) : Nat := log.foldl (countEvent i) 0

/-- No timer is called more often than its limit, and none that is not running. -/
structure Respected (s : TimerState Timers) : Prop where
  limit : ∀ i, 0 < (s.parameters i).callLimit → callsSince i s.log ≤ (s.parameters i).callLimit.toNat
  running : ∀ i, .regular i false ∉ s.log ∧ .caughtUp i false ∉ s.log

/-- The next step calls `timerEvent`. -/
def CallsNext (s : TimerState Timers) (i : Fin Timers) : Prop :=
  (s.place = .invoke i ∧ (s.parameters i).running ∧ s.next i ≤ s.now) ∨
    (s.place = .catchUp i ∧ s.next i < s.now ∧ s.shared.leaveCorrectionLoop i = false)

/-- A timer that is called next has not reached its limit. -/
def WithinLimit (s : TimerState Timers) : Prop :=
  ∀ i, s.CallsNext i → (s.parameters i).callLimit = 0 ∨ s.calls i < (s.parameters i).callLimit

theorem limitReached_iff {s : TimerState Timers} {i : Fin Timers} :
    s.limitReached i ↔ 0 < (s.parameters i).callLimit ∧ (s.parameters i).callLimit ≤ s.calls i := by
  unfold limitReached
  simp

theorem withinLimit_iff {s : TimerState Timers} :
    s.WithinLimit ↔ ∀ i, s.CallsNext i → ¬s.limitReached i := by
  unfold WithinLimit
  simp only [limitReached_iff, not_and, BitVec.not_le]
  constructor
  · intro h i hi hpos
    rcases h i hi with hzero | hlt
    · rw [hzero] at hpos
      exact absurd hpos (by decide)
    · exact hlt
  · intro h i hi
    by_cases hzero : (s.parameters i).callLimit = 0
    · exact Or.inl hzero
    · exact Or.inr (h i hi (by bv_omega))

/-! ## What a step does -/

/-- `timerEvent` has been called for a timer. -/
structure Called (s t : TimerState Timers) (i : Fin Timers) (e : TimerEvent Timers) : Prop where
  log : t.log = s.log ++ [e]
  calls : t.calls = Function.update s.calls i (s.calls i + 1)
  callLimit : ∀ j, (t.parameters j).callLimit = (s.parameters j).callLimit
  timerCorrection : ∀ j, (t.parameters j).timerCorrection = (s.parameters j).timerCorrection

/-- Parameters have been taken over. -/
structure TakenOver (s t : TimerState Timers) (updated : Fin Timers → Bool) : Prop where
  log : t.log = s.log ++ ((List.finRange Timers).filter updated).map .updated
  calls : ∀ i, t.calls i = if updated i then 0 else s.calls i
  parameters : ∀ i, updated i = false → t.parameters i = s.parameters i

/-- Neither of them. -/
structure Quiet (s t : TimerState Timers) : Prop where
  log : t.log = s.log
  calls : t.calls = s.calls
  parameters : t.parameters = s.parameters

/-- The event of the next call of a timer: the regular schedule has looked at the limit before
it, the correction loop has not. -/
def nextEvent (s : TimerState Timers) (i : Fin Timers) : TimerEvent Timers :=
  if s.place = .catchUp i then .caughtUp i (s.parameters i).running else .regular i (!s.limitReached i)

variable {s : TimerState Timers} {clock : Card64} {random : Fin Timers → BitVec 32}

theorem invoke_called {i : Fin Timers} (hdue : (s.parameters i).running ∧ s.next i ≤ s.now) :
    Called s (s.invoke i) i (.regular i (!s.limitReached i)) := by
  unfold invoke
  rw [if_pos hdue]
  constructor
  · simp [countCall, timerEvent, postpone, setNext, hdue.1]
  · simp [countCall, timerEvent, postpone, setNext]
  · intro j
    simp [countCall, timerEvent, postpone, setNext]
  · intro j
    simp [countCall, timerEvent, postpone, setNext]

/-- The correction loop calls with `Running` as it is. -/
theorem correctionCall_called (i : Fin Timers) :
    Called s ((s.correctionCall clock i).leaveWhenDone i) i (.caughtUp i (s.parameters i).running) := by
  constructor
  · simp [leaveWhenDone, correctionCall, countCall, timerEvent, postpone, setNext]
  · simp [leaveWhenDone, correctionCall, countCall, timerEvent, postpone, setNext]
  · intro j
    simp [leaveWhenDone, correctionCall, countCall, timerEvent, postpone, setNext]
  · intro j
    simp [leaveWhenDone, correctionCall, countCall, timerEvent, postpone, setNext]

theorem update_takenOver (random : Fin Timers → BitVec 32) : ∃ updated, TakenOver s (s.update random) updated := by
  unfold update
  by_cases h : s.shared.parametersUpdated
  · refine ⟨fun i => (s.shared.parameters i).updated, ?_⟩
    rw [if_pos h]
    refine ⟨rfl, fun _ => rfl, ?_⟩
    intro i hi
    show (if (s.shared.parameters i).updated then _ else s.parameters i) = s.parameters i
    rw [hi]
    rfl
  · refine ⟨fun _ => false, ?_⟩
    rw [if_neg h]
    refine ⟨?_, fun _ => rfl, fun _ _ => rfl⟩
    simp

theorem advance_called (clock : Card64) (random : Fin Timers → BitVec 32) {i : Fin Timers} (h : s.CallsNext i) :
    Called s (s.advance clock random) i (s.nextEvent i) := by
  rcases h with ⟨hplace, hdue⟩ | ⟨hplace, hlate, hleave⟩
  · have hcalled := invoke_called hdue
    unfold advance nextEvent
    rw [hplace]
    dsimp only
    rw [dif_pos i.isLt, if_neg (by simp)]
    exact ⟨hcalled.log, hcalled.calls, hcalled.callLimit, hcalled.timerCorrection⟩
  · unfold advance nextEvent
    rw [hplace]
    dsimp only
    unfold catchUp
    rw [if_pos hlate, if_neg (by simp [hleave]), if_pos rfl]
    exact correctionCall_called i

theorem advance_not_called (clock : Card64) (random : Fin Timers → BitVec 32) (h : ∀ i, ¬s.CallsNext i) :
    Quiet s (s.advance clock random) ∨
      s.place = .prepare ∧ ∃ updated, TakenOver s (s.advance clock random) updated := by
  unfold advance
  cases hplace : s.place with
  | check => exact Or.inl ⟨rfl, rfl, rfl⟩
  | delay => exact Or.inl ⟨rfl, rfl, rfl⟩
  | finished => exact Or.inl ⟨rfl, rfl, rfl⟩
  | prepare =>
    right
    obtain ⟨updated, ht⟩ := update_takenOver (s := s) random
    exact ⟨rfl, updated, ht.log, ht.calls, ht.parameters⟩
  | invoke n =>
    left
    dsimp only
    by_cases hn : n < Timers
    · have hnot : ¬((s.parameters ⟨n, hn⟩).running ∧ s.next ⟨n, hn⟩ ≤ s.now) := fun hdue =>
        h ⟨n, hn⟩ (Or.inl ⟨hplace, hdue⟩)
      rw [dif_pos hn]
      unfold invoke
      rw [if_neg hnot]
      exact ⟨rfl, rfl, rfl⟩
    · rw [dif_neg hn]
      exact ⟨rfl, rfl, rfl⟩
  | correct n =>
    left
    dsimp only
    by_cases hn : n < Timers
    · rw [dif_pos hn]
      unfold correct
      split
      · split <;> exact ⟨rfl, rfl, rfl⟩
      · exact ⟨rfl, rfl, rfl⟩
    · rw [dif_neg hn]
      exact ⟨rfl, rfl, rfl⟩
  | catchUp i =>
    left
    dsimp only
    unfold catchUp
    by_cases hlate : s.next i < s.now
    · rw [if_pos hlate]
      by_cases hleave : s.shared.leaveCorrectionLoop i
      · rw [if_pos hleave]
        exact ⟨rfl, rfl, rfl⟩
      · exact absurd (Or.inr ⟨hplace, hlate, by simpa using hleave⟩) (h i)
    · rw [if_neg hlate]
      exact ⟨rfl, rfl, rfl⟩

/-- A step calls a timer, takes over parameters, or does neither. -/
theorem advance_cases (clock : Card64) (random : Fin Timers → BitVec 32) :
    (∃ i, s.CallsNext i ∧ Called s (s.advance clock random) i (s.nextEvent i)) ∨
      Quiet s (s.advance clock random) ∨
      s.place = .prepare ∧ ∃ updated, TakenOver s (s.advance clock random) updated := by
  by_cases hcalls : ∃ i, s.CallsNext i
  · obtain ⟨i, hi⟩ := hcalls
    exact Or.inl ⟨i, hi, advance_called clock random hi⟩
  · rw [not_exists] at hcalls
    exact Or.inr (advance_not_called clock random hcalls)

/-! ## Counting -/

section

variable (log : List (TimerEvent Timers)) (i j : Fin Timers)

theorem callsSince_append (e : TimerEvent Timers) :
    callsSince i (log ++ [e]) = countEvent i (callsSince i log) e := List.foldl_append

theorem callsSince_nextEvent :
    callsSince j (log ++ [s.nextEvent i]) = if i = j then callsSince j log + 1 else callsSince j log := by
  rw [callsSince_append]
  unfold nextEvent
  split <;> rfl

theorem foldl_updated (l : List (Fin Timers)) (n : Nat) :
    (l.map TimerEvent.updated).foldl (countEvent i) n = if i ∈ l then 0 else n := by
  induction l generalizing n with
  | nil => rfl
  | cons k l ih =>
    rw [List.map_cons, List.foldl_cons, ih]
    by_cases hl : i ∈ l
    · simp [hl]
    · by_cases hk : k = i
      · simp [countEvent, hk]
      · have hik : i ≠ k := fun h => hk h.symm
        simp [countEvent, hl, hk, hik]

theorem callsSince_updated (updated : Fin Timers → Bool) :
    callsSince i (log ++ ((List.finRange Timers).filter updated).map .updated) =
      if updated i then 0 else callsSince i log := by
  unfold callsSince
  rw [List.foldl_append, foldl_updated]
  simp

end

/-- The counter of a timer may have overflowed. -/
def Counted (s : TimerState Timers) : Prop := ∀ i, (s.calls i).toNat ≤ callsSince i s.log

theorem counted_advance (h : s.Counted) : (s.advance clock random).Counted := by
  intro j
  rcases advance_cases clock random with ⟨i, -, hcalled⟩ | hquiet | ⟨-, updated, ht⟩
  · rw [hcalled.log, hcalled.calls, callsSince_nextEvent]
    by_cases hij : i = j
    · rw [if_pos hij, ← hij, Function.update_self, BitVec.toNat_add]
      exact Nat.le_trans (Nat.mod_le _ _) (Nat.add_le_add_right (h i) 1)
    · rw [if_neg hij, Function.update_of_ne (fun hji => hij hji.symm)]
      exact h j
  · rw [hquiet.log, hquiet.calls]
    exact h j
  · rw [ht.log, ht.calls, callsSince_updated]
    by_cases hu : updated j
    · rw [if_pos hu, if_pos hu]
      exact Nat.le_refl 0
    · rw [if_neg hu, if_neg hu]
      exact h j

/-! ## Runs within the limits -/

/-- What holds as long as no timer is called that has reached its limit. -/
structure Good (s : TimerState Timers) : Prop where
  counted : ∀ i, 0 < (s.parameters i).callLimit →
    callsSince i s.log = (s.calls i).toNat ∧ s.calls i ≤ (s.parameters i).callLimit
  running : ∀ i, .regular i false ∉ s.log ∧ .caughtUp i false ∉ s.log
  place : ∀ i, s.place = .catchUp i → (s.parameters i).running ∨ s.limitReached i

theorem respected_of_good (h : s.Good) : s.Respected := by
  constructor
  · intro i hpos
    obtain ⟨hcount, hle⟩ := h.counted i hpos
    rw [hcount]
    exact hle
  · exact h.running

theorem place_correctionCall (i : Fin Timers) : (s.correctionCall clock i).place = s.place := by
  simp [correctionCall, countCall, timerEvent, postpone, setNext]

/-- A timer that stays in its correction loop is running, or has just reached its limit. -/
theorem correctionCall_place {i j : Fin Timers} (hrunning : (s.parameters i).running) (hplace : s.place = .catchUp i)
    (h : ((s.correctionCall clock i).leaveWhenDone i).place = .catchUp j) :
    ((s.correctionCall clock i).parameters j).running ∨ (s.correctionCall clock i).limitReached j := by
  have hstays : (s.correctionCall clock i).place = .catchUp i := (place_correctionCall i).trans hplace
  unfold leaveWhenDone at h
  dsimp only at h
  split at h
  next => cases h
  next =>
    obtain rfl : i = j := TimerPlace.catchUp.inj (hstays.symm.trans h)
    unfold correctionCall
    rw [noteLimit_running, noteLimit_limitReached]
    generalize hlimit : limitReached _ i = limit
    cases limit with
    | true => exact Or.inr rfl
    | false =>
      left
      rw [Bool.not_false, Bool.and_true]
      exact hrunning

theorem advance_place {i : Fin Timers} (hgood : s.Good) (hlimit : s.WithinLimit)
    (h : (s.advance clock random).place = .catchUp i) :
    ((s.advance clock random).parameters i).running ∨ (s.advance clock random).limitReached i := by
  unfold advance at *
  cases hplace : s.place with
  | check =>
    rw [hplace] at h
    dsimp only at h
    split at h <;> cases h
  | delay =>
    rw [hplace] at h
    cases h
  | finished =>
    rw [hplace] at h
    dsimp only at h
    rw [hplace] at h
    cases h
  | prepare =>
    rw [hplace] at h
    cases h
  | invoke n =>
    rw [hplace] at h
    dsimp only at h
    split at h <;> cases h
  | correct n =>
    rw [hplace] at h
    dsimp only at h ⊢
    by_cases hn : n < Timers
    · rw [dif_pos hn] at h ⊢
      unfold correct at h ⊢
      by_cases hdue : (s.parameters ⟨n, hn⟩).running ∧ s.next ⟨n, hn⟩ ≤ s.now
      · rw [if_pos hdue] at h ⊢
        by_cases hend : s.now < s.correctionEnd ⟨n, hn⟩
        · rw [if_pos hend] at h ⊢
          obtain rfl : ⟨n, hn⟩ = i := TimerPlace.catchUp.inj h
          exact Or.inl hdue.1
        · rw [if_neg hend] at h
          cases h
      · rw [if_neg hdue] at h
        cases h
    · rw [dif_neg hn] at h
      cases h
  | catchUp j =>
    rw [hplace] at h
    dsimp only at h ⊢
    unfold catchUp at h ⊢
    by_cases hlate : s.next j < s.now
    · rw [if_pos hlate] at h ⊢
      by_cases hleave : s.shared.leaveCorrectionLoop j
      · rw [if_pos hleave] at h
        cases h
      · rw [if_neg hleave] at h ⊢
        have hnext : s.CallsNext j := Or.inr ⟨hplace, hlate, by simpa using hleave⟩
        have hrunning := (hgood.place j hplace).resolve_right (withinLimit_iff.mp hlimit j hnext)
        exact correctionCall_place hrunning hplace h
    · rw [if_neg hlate] at h
      cases h

theorem nextEvent_running {i j : Fin Timers} (hgood : s.Good) (hlimit : s.WithinLimit) (hi : s.CallsNext i) :
    .regular j false ≠ s.nextEvent i ∧ .caughtUp j false ≠ s.nextEvent i := by
  have hnot := withinLimit_iff.mp hlimit i hi
  unfold nextEvent
  by_cases hplace : s.place = .catchUp i
  · have hrunning := (hgood.place i hplace).resolve_right hnot
    rw [if_pos hplace, hrunning]
    simp
  · rw [if_neg hplace]
    simp [hnot]

theorem good_advance (hgood : s.Good) (hlimit : s.WithinLimit) : (s.advance clock random).Good := by
  refine ⟨?_, ?_, fun i h => advance_place hgood hlimit h⟩
  · intro j
    rcases advance_cases clock random with ⟨i, hi, hcalled⟩ | hquiet | ⟨-, updated, ht⟩
    · rw [hcalled.log, hcalled.calls, hcalled.callLimit, callsSince_nextEvent]
      intro hpos
      obtain ⟨hcount, hle⟩ := hgood.counted j hpos
      by_cases hij : i = j
      · have hlt : s.calls i < (s.parameters i).callLimit := by
          have hnot := withinLimit_iff.mp hlimit i hi
          rw [limitReached_iff] at hnot
          rw [hij] at hnot ⊢
          exact BitVec.not_le.mp fun h => hnot ⟨hpos, h⟩
        subst hij
        rw [if_pos rfl, Function.update_self, hcount]
        bv_omega
      · rw [if_neg hij, Function.update_of_ne (fun hji => hij hji.symm)]
        exact ⟨hcount, hle⟩
    · rw [hquiet.log, hquiet.calls, hquiet.parameters]
      exact hgood.counted j
    · rw [ht.log, ht.calls, callsSince_updated]
      cases hu : updated j with
      | true =>
        intro _
        exact ⟨rfl, by show (0 : Card64) ≤ _; bv_omega⟩
      | false =>
        rw [ht.parameters j hu]
        exact hgood.counted j
  · intro j
    rcases advance_cases clock random with ⟨i, hi, hcalled⟩ | hquiet | ⟨-, updated, ht⟩
    · obtain ⟨hregular, hcaught⟩ := nextEvent_running (j := j) hgood hlimit hi
      rw [hcalled.log]
      simp [hgood.running j, hregular, hcaught]
    · rw [hquiet.log]
      exact hgood.running j
    · rw [ht.log]
      simp [hgood.running j]

/-- A call beyond the limit breaks it. -/
theorem not_respected_advance {i : Fin Timers} (hcounted : s.Counted) (hi : s.CallsNext i)
    (hlimit : s.limitReached i) : ¬(s.advance clock random).Respected := by
  intro h
  have hcalled := advance_called clock random hi
  obtain ⟨hpos, hle⟩ := limitReached_iff.mp hlimit
  have hlimit' := h.limit i
  rw [hcalled.callLimit, hcalled.log, callsSince_nextEvent, if_pos rfl] at hlimit'
  have hcount := hcounted i
  have hmany := hlimit' hpos
  have hle' : (s.parameters i).callLimit.toNat ≤ (s.calls i).toNat := hle
  omega

/-! ## Whole runs -/

section

variable (w : TimerShared Timers) (c : Card64)

theorem good_start : (start w c).Good := by
  refine ⟨?_, ?_, ?_⟩
  · intro i _
    exact ⟨rfl, by show (0 : Card64) ≤ _; bv_omega⟩
  · intro i
    exact ⟨List.not_mem_nil, List.not_mem_nil⟩
  · intro i h
    cases h

theorem counted_start : (start w c).Counted := fun _ => Nat.le_refl 0

/-- The limits are respected up to a step of a run exactly if each timer that is called before it
has not reached its limit then: whatever the clock reads, the other threads call and the
parameters are. -/
theorem respected_iff (inputs : Nat → TimerInput Timers) (N : Nat) :
    (∀ n ≤ N, (after step (start w c) inputs n).Respected) ↔
      ∀ n < N, ((after step (start w c) inputs n).called (inputs n).calls).WithinLimit := by
  constructor
  · intro h n hn
    rw [withinLimit_iff]
    intro i hi hlimit
    have hcounted : ((after step (start w c) inputs n).called (inputs n).calls).Counted :=
      after_always step (counted_start w c) (fun _ _ hc => counted_advance hc) n
    exact not_respected_advance hcounted hi hlimit (h (n + 1) hn)
  · intro h n hn
    apply respected_of_good
    apply after_invariant step (C := fun input s => (s.called input.calls).WithinLimit) (good_start w c)
    · intro input t hgood hlimit
      exact good_advance ⟨hgood.counted, hgood.running, hgood.place⟩ hlimit
    · intro m hm
      exact h m (Nat.lt_of_lt_of_le hm hn)

end

/-- One timer is set to one call after 10 microseconds, and then the clock goes on. -/
def singleShot (n : Nat) : TimerInput 1 where
  calls := if n = 0 then [.setInterval 0 10 1] else []
  clock := if n < 8 then 1000 else 2000

/-- The timer is called twice: a timer with a limit of one. -/
theorem not_respected_singleShot :
    ¬∀ (w : TimerShared 1) (c : Card64) (inputs : Nat → TimerInput 1) (n : Nat),
      (after step (start w c) inputs n).Respected := by
  intro h
  have hlimit := (h {} 1000 singleShot 11).limit 0
  have hcalls : callsSince 0 (after step (start {} 1000) singleShot 11).log = 2 := by decide
  have hone : ((after step (start {} 1000) singleShot 11).parameters 0).callLimit = 1 := by decide
  rw [hcalls, hone] at hlimit
  exact absurd (hlimit (by decide)) (by decide)

end SocketApi.TimerState
