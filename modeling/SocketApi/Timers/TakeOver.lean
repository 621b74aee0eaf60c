import SocketApi.Timers.Altered

/-!
# The take-over of parameters

What is marked as changed is taken over as a whole: the counter, the next expiry and `Running` are set again,
whichever of the parameters has been changed.
-/

namespace SocketApi

open Machine

variable {Timers : Nat}

namespace TimerState

/-! ## What the thread has taken over -/

/-- Parameters that are not marked as changed are those the thread has, and a mark is announced. -/
structure Synced (s : TimerState Timers) : Prop where
  marked : ∀ i, (s.shared.parameters i).updated → s.shared.parametersUpdated
  interval : ∀ i, (s.shared.parameters i).updated = false → (s.parameters i).interval = (s.shared.parameters i).interval
  callLimit : ∀ i, (s.shared.parameters i).updated = false → (s.parameters i).callLimit = (s.shared.parameters i).callLimit
  taken : ∀ i, (s.parameters i).updated = true

section

variable {i : Fin Timers} {s u : TimerState Timers} {clock : Card64} {random : Fin Timers → BitVec 32}

/-- The two parameters are compared together. -/
theorem Synced.of_same (hmarked : ∀ i, (u.shared.parameters i).updated → u.shared.parametersUpdated)
    (hsame : ∀ i, (u.shared.parameters i).updated = false →
      (u.parameters i).interval = (u.shared.parameters i).interval ∧
        (u.parameters i).callLimit = (u.shared.parameters i).callLimit)
    (htaken : ∀ i, (u.parameters i).updated = true) : u.Synced where
  marked := hmarked
  interval := fun i hi => (hsame i hi).1
  callLimit := fun i hi => (hsame i hi).2
  taken := htaken

theorem Synced.same (h : s.Synced) (hi : (s.shared.parameters i).updated = false) :
    (s.parameters i).interval = (s.shared.parameters i).interval ∧
      (s.parameters i).callLimit = (s.shared.parameters i).callLimit := ⟨h.interval i hi, h.callLimit i hi⟩

theorem synced_start (w : TimerShared Timers) (clock : Card64) : (start w clock).Synced where
  marked := fun _ _ => rfl
  interval := fun _ _ => rfl
  callLimit := fun _ _ => rfl
  taken := fun _ => rfl

/-- The shared parameters of the timers change only with a mark, apart from `FastStart`. -/
theorem synced_update (h : s.Synced) {q : TimerParameters} {w : TimerShared Timers}
    (hw : w.parameters = Function.update s.shared.parameters i q)
    (hupdated : w.parametersUpdated = (s.shared.parametersUpdated || q.updated))
    (hq : q.updated = true ∨ q.updated = (s.shared.parameters i).updated ∧ q.interval = (s.shared.parameters i).interval ∧
      q.callLimit = (s.shared.parameters i).callLimit) : Synced { s with shared := w } := by
  refine .of_same ?_ ?_ h.taken
  · intro j hj
    show w.parametersUpdated = true
    change (w.parameters j).updated = true at hj
    rw [hw] at hj
    rw [hupdated]
    by_cases hji : j = i
    · subst hji
      rw [Function.update_self] at hj
      rw [hj, Bool.or_true]
    · rw [Function.update_of_ne hji] at hj
      rw [h.marked j hj, Bool.true_or]
  · intro j hj
    show (s.parameters j).interval = (w.parameters j).interval ∧ (s.parameters j).callLimit = (w.parameters j).callLimit
    change (w.parameters j).updated = false at hj
    rw [hw] at hj ⊢
    by_cases hji : j = i
    · subst hji
      rw [Function.update_self] at hj ⊢
      obtain hmarked | ⟨hsame, hinterval, hcallLimit⟩ := hq
      · rw [hmarked] at hj
        cases hj
      · rw [hinterval, hcallLimit]
        exact h.same (hsame ▸ hj)
    · rw [Function.update_of_ne hji] at hj ⊢
      exact h.same hj

theorem synced_call (h : s.Synced) (c : TimerCall Timers) : Synced { s with shared := s.shared.call c } := by
  cases c with
  | setInterval i usec callLimit => exact synced_update h rfl (Bool.or_true _).symm (.inl rfl)
  | setTimerCorrection i maxCorrection => exact synced_update h rfl (Bool.or_true _).symm (.inl rfl)
  | setFastStart i on =>
    refine synced_update h rfl ?_ (.inr ⟨rfl, rfl, rfl⟩)
    show s.shared.parametersUpdated = (s.shared.parametersUpdated || (s.shared.parameters i).updated)
    cases hmark : (s.shared.parameters i).updated with
    | false => rw [Bool.or_false]
    | true => rw [h.marked i hmark, Bool.true_or]
  | leaveCorrectionLoop i => exact ⟨h.marked, h.interval, h.callLimit, h.taken⟩
  | cancel => exact ⟨h.marked, h.interval, h.callLimit, h.taken⟩

theorem synced_called (h : s.Synced) (calls : List (TimerCall Timers)) : (s.called calls).Synced := by
  induction calls generalizing s with
  | nil => exact h
  | cons c calls ih => exact ih (synced_call h c)

/-- A step apart from the take-over: only `Running` is set. -/
structure Stays (s u : TimerState Timers) : Prop where
  shared : u.shared.parameters = s.shared.parameters
  announced : u.shared.parametersUpdated = s.shared.parametersUpdated
  parameters : ∀ i, ∃ running, u.parameters i = { s.parameters i with running := running }

theorem Stays.synced (h : Stays s u) (hs : s.Synced) : u.Synced := by
  refine .of_same ?_ ?_ ?_
  · intro i hi
    rw [h.shared] at hi
    rw [h.announced]
    exact hs.marked i hi
  · intro i hi
    obtain ⟨running, hparameters⟩ := h.parameters i
    rw [h.shared] at hi ⊢
    rw [hparameters]
    exact hs.same hi
  · intro i
    obtain ⟨running, hparameters⟩ := h.parameters i
    rw [hparameters]
    exact hs.taken i

theorem Stays.of_eq (hshared : u.shared = s.shared) (hparameters : u.parameters = s.parameters) : Stays s u where
  shared := congrArg TimerShared.parameters hshared
  announced := congrArg TimerShared.parametersUpdated hshared
  parameters := fun i => ⟨(s.parameters i).running, congrFun hparameters i⟩

theorem Stays.of_noteLimit {v : TimerState Timers} (hv : v.parameters = s.parameters) (hshared : u.shared = s.shared)
    (hparameters : u.parameters = (v.noteLimit i).parameters) : Stays s u where
  shared := congrArg TimerShared.parameters hshared
  announced := congrArg TimerShared.parametersUpdated hshared
  parameters := by
    intro j
    rw [hparameters, noteLimit_parameters, hv]
    by_cases hj : j = i
    · subst hj
      rw [Function.update_self]
      exact ⟨_, rfl⟩
    · rw [Function.update_of_ne hj]
      exact ⟨(s.parameters j).running, rfl⟩

theorem stays_advance (hplace : s.place ≠ .prepare) : Stays s (s.advance clock random) := by
  unfold advance
  cases hp : s.place with
  | prepare => exact absurd hp hplace
  | check => exact .of_eq rfl rfl
  | delay => exact .of_eq rfl rfl
  | finished => exact .of_eq rfl rfl
  | invoke n =>
    dsimp only
    by_cases hn : n < Timers
    · rw [dif_pos hn]
      unfold invoke
      split
      · exact .of_noteLimit (v := s) (i := ⟨n, hn⟩) rfl (noteLimit_shared s _) rfl
      · exact .of_eq rfl rfl
    · rw [dif_neg hn]
      exact .of_eq rfl rfl
  | correct n =>
    dsimp only
    by_cases hn : n < Timers
    · rw [dif_pos hn]
      unfold correct
      split
      · split <;> exact .of_eq rfl rfl
      · exact .of_eq rfl rfl
    · rw [dif_neg hn]
      exact .of_eq rfl rfl
  | catchUp j =>
    dsimp only
    unfold catchUp
    split
    · split
      · exact ⟨rfl, rfl, fun i => ⟨(s.parameters i).running, rfl⟩⟩
      · let v : TimerState Timers :=
          { ((s.postpone j).timerEvent (.caughtUp j (s.parameters j).running)).countCall j with now := clock }
        exact .of_noteLimit (v := v) (i := j) rfl (noteLimit_shared v j) rfl
    · exact .of_eq rfl rfl

/-! ## The take-over -/

/-- `update` of a state in which the marks are announced. -/
def takenOver (s : TimerState Timers) (random : Fin Timers → BitVec 32) : TimerState Timers :=
  let p := s.shared.parameters
  { s with
    shared := { s.shared with parametersUpdated := false, parameters := fun i => { p i with updated := false } }
    parameters := fun i => if (p i).updated then p i else s.parameters i
    next := fun i => if (p i).updated && (p i).running then firstAction (p i) s.now (random i) else s.next i
    calls := fun i => if (p i).updated then 0 else s.calls i
    log := s.log ++ ((List.finRange Timers).filter fun i => (p i).updated).map .updated }

theorem update_eq (hmarked : ∀ i, (s.shared.parameters i).updated → s.shared.parametersUpdated) :
    s.update random = s.takenOver random := by
  unfold update
  by_cases h : s.shared.parametersUpdated
  · rw [if_pos h]
    rfl
  · rw [if_neg h]
    have hnone : ∀ i, (s.shared.parameters i).updated = false := by
      intro i
      cases hi : (s.shared.parameters i).updated with
      | false => rfl
      | true => exact absurd (hmarked i hi) h
    have hshared : ({ s.shared with
        parametersUpdated := false
        parameters := fun i => { s.shared.parameters i with updated := false } } : TimerShared Timers) = s.shared := by
      have hparameters : (fun i => { s.shared.parameters i with updated := false }) = s.shared.parameters := by
        funext i
        rw [← hnone i]
      rw [hparameters, ← (Bool.not_eq_true _).mp h]
    unfold takenOver
    dsimp only
    rw [hshared]
    simp [hnone]

variable (random) in
theorem synced_takenOver (h : s.Synced) : (s.takenOver random).Synced := by
  have hparameters (i : Fin Timers) : (s.takenOver random).parameters i =
      if (s.shared.parameters i).updated then s.shared.parameters i else s.parameters i := rfl
  refine .of_same (fun i hi => absurd hi Bool.false_ne_true) ?_ ?_
  · intro i _
    show _ = (s.shared.parameters i).interval ∧ _ = (s.shared.parameters i).callLimit
    rw [hparameters]
    cases hi : (s.shared.parameters i).updated with
    | true => exact ⟨rfl, rfl⟩
    | false => exact h.same hi
  · intro i
    show (if (s.shared.parameters i).updated then s.shared.parameters i else s.parameters i).updated = true
    cases hi : (s.shared.parameters i).updated with
    | true => exact hi
    | false => exact h.taken i

theorem synced_step (input : TimerInput Timers) (h : s.Synced) : (step input s).Synced := by
  have hcalled := synced_called h input.calls
  unfold step
  by_cases hplace : (s.called input.calls).place = .prepare
  · unfold advance
    rw [hplace, update_eq hcalled.marked]
    have htaken := synced_takenOver input.random hcalled
    exact ⟨htaken.marked, htaken.interval, htaken.callLimit, htaken.taken⟩
  · exact (stays_advance hplace).synced hcalled

theorem synced_reached (w : TimerShared Timers) (clock : Card64) (history : Nat → TimerInput Timers) (n : Nat) :
    (after step (start w clock) history n).Synced :=
  after_always step (synced_start w clock) (fun input _ => synced_step input) n

end

/-! ## The take-over with another limit -/

/-- The parameters of the timer are taken over anyway, or it is as if they just had been. -/
def Unaffected (s : TimerState Timers) (t : Fin Timers) (random : Fin Timers → BitVec 32) : Prop :=
  (s.shared.parameters t).updated ∨
    s.calls t = 0 ∧ (s.parameters t).running = (s.shared.parameters t).running ∧
      (s.parameters t).fastStart = (s.shared.parameters t).fastStart ∧
      ((s.shared.parameters t).running → s.next t = firstAction (s.shared.parameters t) s.now (random t))

section

variable {t i : Fin Timers} {x y : Cardinal32} {s : TimerState Timers} {random : Fin Timers → BitVec 32}

/-- The shared parameters of the other run before the take-over. -/
theorem limited_parameters_self (marked : Bool) (w : TimerShared Timers) :
    (w.limited marked t y).parameters t =
      { w.parameters t with timerCorrection := y, updated := (w.parameters t).updated || marked } :=
  Function.update_self _ _ _

theorem limited_parameters_of_ne (marked : Bool) (w : TimerShared Timers) (h : i ≠ t) :
    (w.limited marked t y).parameters i = w.parameters i := Function.update_of_ne h _ _

/-- The state of the other run before the take-over. -/
def told (t : Fin Timers) (y : Cardinal32) (s : TimerState Timers) : TimerState Timers :=
  { s with shared := s.shared.limited true t y }

theorem told_takenOver_shared :
    ((s.told t y).takenOver random).shared = (s.takenOver random).shared.limited false t y := by
  have hparameters : (fun i => { (s.shared.limited true t y).parameters i with updated := false }) =
      Function.update (fun i => { s.shared.parameters i with updated := false }) t
        { s.shared.parameters t with timerCorrection := y, updated := false } := by
    funext i
    by_cases h : i = t
    · subst h
      rw [limited_parameters_self, Function.update_self]
    · rw [limited_parameters_of_ne _ _ h, Function.update_of_ne h]
  unfold takenOver told TimerShared.limited at *
  dsimp only at *
  rw [hparameters]
  rfl

/-- The other timers are taken over as they are without the call. -/
theorem told_takenOver_of_ne (h : i ≠ t) :
    ((s.told t y).takenOver random).parameters i = (s.takenOver random).parameters i ∧
      ((s.told t y).takenOver random).next i = (s.takenOver random).next i ∧
      ((s.told t y).takenOver random).calls i = (s.takenOver random).calls i := by
  unfold takenOver told
  dsimp only
  rw [limited_parameters_of_ne _ _ h]
  exact ⟨rfl, rfl, rfl⟩

variable (t y s random) in
/-- The timer itself is taken over in any case. -/
theorem told_takenOver_self :
    ((s.told t y).takenOver random).parameters t = { s.shared.parameters t with timerCorrection := y, updated := true } ∧
      ((s.told t y).takenOver random).next t =
        (if (s.shared.parameters t).running then firstAction (s.shared.parameters t) s.now (random t) else s.next t) ∧
      ((s.told t y).takenOver random).calls t = 0 := by
  unfold takenOver told
  dsimp only
  rw [limited_parameters_self]
  dsimp only
  rw [Bool.or_true]
  exact ⟨rfl, rfl, rfl⟩

variable (random) in
theorem takenOver_marked (h : (s.shared.parameters t).updated) :
    (s.takenOver random).parameters t = s.shared.parameters t ∧
      (s.takenOver random).next t =
        (if (s.shared.parameters t).running then firstAction (s.shared.parameters t) s.now (random t) else s.next t) ∧
      (s.takenOver random).calls t = 0 := by
  unfold takenOver
  dsimp only
  rw [h]
  exact ⟨rfl, rfl, rfl⟩

variable (random) in
theorem takenOver_unmarked (h : (s.shared.parameters t).updated = false) :
    (s.takenOver random).parameters t = s.parameters t ∧ (s.takenOver random).next t = s.next t ∧
      (s.takenOver random).calls t = s.calls t := by
  unfold takenOver
  dsimp only
  rw [h]
  exact ⟨rfl, rfl, rfl⟩

/-- The parameters that the thread has of a timer that is not affected. -/
theorem unaffected_parameters (hs : s.Synced) (hmark : (s.shared.parameters t).updated = false)
    (hrunning : (s.parameters t).running = (s.shared.parameters t).running)
    (hfastStart : (s.parameters t).fastStart = (s.shared.parameters t).fastStart) :
    { s.shared.parameters t with timerCorrection := y, updated := true } = { s.parameters t with timerCorrection := y } := by
  dsimp only
  rw [← hs.interval t hmark, ← hs.callLimit t hmark, ← hrunning, ← hfastStart, ← hs.taken t]

/-- The timer itself is looked at apart from the others. -/
theorem eq_at_timers {α : Type} {f g : Fin Timers → α} (hself : f t = g t) (hother : ∀ i, i ≠ t → f i = g i) :
    f = g := by
  funext i
  by_cases hi : i = t
  · rw [hi, hself]
  · exact hother i hi

/-- The take-over keeps the two runs together when the timer is not affected by it. -/
theorem told_takenOver_alike (hs : s.Synced) (h : s.Unaffected t random) :
    ((s.told t y).takenOver random).parameters = withLimit t y (s.takenOver random).parameters ∧
      ((s.told t y).takenOver random).next = (s.takenOver random).next ∧
      ((s.told t y).takenOver random).calls = (s.takenOver random).calls := by
  obtain ⟨hparameters, hnext, hcalls⟩ := told_takenOver_self t y s random
  have hself : ((s.told t y).takenOver random).parameters t =
      { (s.takenOver random).parameters t with timerCorrection := y } ∧
      ((s.told t y).takenOver random).next t = (s.takenOver random).next t ∧
      ((s.told t y).takenOver random).calls t = (s.takenOver random).calls t := by
    cases hmark : (s.shared.parameters t).updated with
    | true =>
      obtain ⟨hparameters', hnext', hcalls'⟩ := takenOver_marked random hmark
      rw [hparameters, hnext, hcalls, hparameters', hnext', hcalls', ← hmark]
      exact ⟨rfl, rfl, rfl⟩
    | false =>
      obtain ⟨hparameters', hnext', hcalls'⟩ := takenOver_unmarked random hmark
      obtain ⟨hzero, hrunning, hfastStart, hstart⟩ := h.resolve_left (by simp [hmark])
      rw [hparameters, hnext, hcalls, hparameters', hnext', hcalls', hzero,
        unaffected_parameters hs hmark hrunning hfastStart]
      refine ⟨rfl, ?_, rfl⟩
      by_cases hrun : (s.shared.parameters t).running
      · rw [if_pos hrun, hstart hrun]
      · rw [if_neg hrun]
  refine ⟨eq_at_timers (t := t) ?_ fun i hi => ?_, eq_at_timers hself.2.1 fun i hi => (told_takenOver_of_ne hi).2.1,
    eq_at_timers hself.2.2 fun i hi => (told_takenOver_of_ne hi).2.2⟩
  · rw [withLimit_self]
    exact hself.1
  · rw [withLimit_of_ne hi]
    exact (told_takenOver_of_ne hi).1

/-- A timer that is affected shows it at once. -/
theorem unaffected_of_alike
    (hparameters : ((s.told t y).takenOver random).parameters = withLimit t x (s.takenOver random).parameters)
    (hnext : ((s.told t y).takenOver random).next = (s.takenOver random).next)
    (hcalls : ((s.told t y).takenOver random).calls = (s.takenOver random).calls) : s.Unaffected t random := by
  cases hmark : (s.shared.parameters t).updated with
  | true => exact .inl hmark
  | false =>
    right
    obtain ⟨hparameters₁, hnext₁, hcalls₁⟩ := told_takenOver_self t y s random
    obtain ⟨hparameters₂, hnext₂, hcalls₂⟩ := takenOver_unmarked random hmark
    have hself := congrFun hparameters t
    rw [withLimit_self, hparameters₁, hparameters₂] at hself
    have hstart := congrFun hnext t
    rw [hnext₁, hnext₂] at hstart
    have hzero := congrFun hcalls t
    rw [hcalls₁, hcalls₂] at hzero
    have hrunning := congrArg TimerParameters.running hself
    have hfastStart := congrArg TimerParameters.fastStart hself
    refine ⟨hzero.symm, hrunning.symm, hfastStart.symm, fun hrun => ?_⟩
    rw [if_pos hrun] at hstart
    exact hstart.symm

end

end TimerState

end SocketApi
