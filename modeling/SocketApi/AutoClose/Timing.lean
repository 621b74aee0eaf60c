import SocketApi.AutoClose.Clock
import SocketApi.Frame.Inside
import SocketApi.System

/-!
# The times of auto-close

The sweep compares differences of 64-bit clock readings with its timeout. While no reading is smaller
than an earlier one they are the differences of the readings as integers; a reading that is smaller
makes an association that has just been used look idle for centuries.
-/

namespace SocketApi

open Effect SCTPSocketMaster SCTPSocket

set_option synthInstance.maxSize 2000

variable {L : Sctplib} {E : Environment L} {α β : Type}

/-! ## The sweep with another arithmetic -/

/-- Whether an association has been idle for too long, by the timeout, the clock and its stamp. -/
structure IdleTest where
  aborts : Nat → Nat → Nat → Bool
  closes : Nat → Nat → Nat → Bool

/-- The test of the code. -/
def IdleTest.card64 : IdleTest where
  aborts timeout now lastUsage := decide (mul64 4 timeout < sub64 now lastUsage)
  closes timeout now lastUsage := decide (timeout < sub64 now lastUsage)

/-- The test with differences of integers. -/
def IdleTest.exact : IdleTest where
  aborts timeout now lastUsage := decide (4 * (timeout : Int) < (now : Int) - lastUsage)
  closes timeout now lastUsage := decide ((timeout : Int) < (now : Int) - lastUsage)

section

variable (E) (deliver : Deliver L) (test : IdleTest) (s : SocketPtr)

/-- `autoCloseSweep` with the test. -/
def sweepWith (now : Nat) : Nat → Option AssocPtr → Act L Unit
  | _, none => return
  | 0, some _ => throw .waiting
  | n + 1, some p => do
    let o ← socketAt s
    if p ∉ o.connectionlessAssociationList.values then throw .undefinedBehaviour
    let next := o.connectionlessAssociationList.next p
    let a ← associationAt p
    if a.useCount = 0 then
      if a.shutdownCompleteNotification || a.communicationLostNotification then
        reclaim E deliver s p
      else if 0 < o.autoCloseTimeout ∧ test.aborts o.autoCloseTimeout now a.lastUsage then
        SCTPAssociation.abort E deliver p
      else if 0 < o.autoCloseTimeout ∧ test.closes o.autoCloseTimeout now a.lastUsage ∧ !a.isShuttingDown then
        SCTPAssociation.shutdown E deliver p
    sweepWith now n next

def passWith (rest : Act L Unit) : Act L Unit := do
  SocketApi.setSocket s fun o => { o with autoCloseNewCheckRequired := false }
  let now := (← shared).now
  let list := (← socketAt s).connectionlessAssociationList
  sweepWith E deliver test s now list.length list.values.head?
  if (← socketAt s).autoCloseNewCheckRequired then
    rest

/-- `checkAutoClose` with the test. -/
def checkAutoCloseWith : Act L Unit := do
  if (← socketAt s).autoCloseRecursion then
    SocketApi.setSocket s fun o => { o with autoCloseNewCheckRequired := true }
    return
  SocketApi.setSocket s fun o => { o with autoCloseRecursion := true }
  loop .waiting (passWith E deliver test s) E.patience
  SocketApi.setSocket s fun o => { o with autoCloseRecursion := false }

variable {deliver s}

theorem sweepWith_card64 (now n : Nat) (p : Option AssocPtr) :
    sweepWith E deliver .card64 s now n p = autoCloseSweep E deliver s now n p := by
  induction n generalizing p with
  | zero => cases p <;> rfl
  | succ n ih =>
    cases p with
    | none => rfl
    | some p =>
      unfold sweepWith autoCloseSweep
      simp only [ih]
      simp only [IdleTest.card64, decide_eq_true_eq]

theorem checkAutoCloseWith_card64 : checkAutoCloseWith E deliver .card64 s = checkAutoClose E deliver s := by
  have hpass : passWith E deliver .card64 s = autoClosePass E deliver s := by
    funext rest
    unfold passWith autoClosePass
    simp only [sweepWith_card64]
  unfold checkAutoCloseWith checkAutoClose
  rw [hpass]

end

/-! ## The two arithmetics -/

theorem sub64_eq {now lastUsage : Nat} (hnow : now < 2 ^ 64) (h : lastUsage ≤ now) :
    sub64 now lastUsage = now - lastUsage := by
  unfold sub64
  omega

theorem Settable.lt {timeout : Nat} (h : Settable timeout) : 4 * timeout < 2 ^ 64 := by
  obtain ⟨seconds, rfl⟩ := h
  have := seconds.toNat_lt
  omega

theorem Settable.mul64 {timeout : Nat} (h : Settable timeout) : mul64 4 timeout = 4 * timeout :=
  Nat.mod_eq_of_lt h.lt

/-- On a timely state the two tests agree. -/
theorem aborts_exact {timeout now lastUsage : Nat} (htimeout : Settable timeout) (hnow : now < 2 ^ 64)
    (hlast : lastUsage ≤ now) :
    IdleTest.card64.aborts timeout now lastUsage = IdleTest.exact.aborts timeout now lastUsage := by
  unfold IdleTest.card64 IdleTest.exact
  dsimp only
  rw [htimeout.mul64, sub64_eq hnow hlast, decide_eq_decide]
  omega

theorem closes_exact {timeout now lastUsage : Nat} (hnow : now < 2 ^ 64) (hlast : lastUsage ≤ now) :
    IdleTest.card64.closes timeout now lastUsage = IdleTest.exact.closes timeout now lastUsage := by
  unfold IdleTest.card64 IdleTest.exact
  dsimp only
  rw [sub64_eq hnow hlast, decide_eq_decide]
  omega

/-! ## A sweep from a timely state -/

/-- A thread that holds the lock, at the time `now`, with no stamp ahead of the clock. -/
structure AtTime (now : Nat) (w : World L) : Prop where
  locked : 0 < w.thread.lockLevel
  timely : Timely w.shared
  now : w.shared.now = now

variable {now : Nat} {w : World L}

theorem AtTime.next {w' : World L} (h : AtTime now w) (hw : Within TimeStep true w w') : AtTime now w' := by
  obtain ⟨hstep, hlevel⟩ := hw h.locked
  rw [decide_eq_true h.locked] at hstep
  exact ⟨h.locked.trans_le hlevel, hstep.kept h.timely, (hstep.now rfl).trans h.now⟩

/-- No time passes while the lock is held. -/
theorem AtTime.congr {x : Act L α} [hx : UnderLock TimeStep AnyHalt x] {f g : α → Act L β} (h : AtTime now w)
    (hfg : ∀ a w', AtTime now w' → f a w' = g a w') : (x >>= f) w = (x >>= g) w :=
  bind_congr_run ((hx.post w).mono (fun a w' hw => hfg a w' (h.next hw)) fun _ _ _ => trivial)

variable [Rely E (TimeStep (L := L))] {deliver : Deliver L} [Delivers TimeStep AnyHalt deliver] {s : SocketPtr}

theorem AtTime.sweep (n : Nat) (p : Option AssocPtr) (h : AtTime now w) :
    sweepWith E deliver .card64 s now n p w = sweepWith E deliver .exact s now n p w := by
  induction n generalizing p w with
  | zero => cases p <;> rfl
  | succ n ih =>
    cases p with
    | none => rfl
    | some p =>
      unfold sweepWith
      refine socketAt_congr fun o ho => ?_
      by_cases hp : p ∈ o.connectionlessAssociationList.values
      · rw [if_neg (not_not.mpr hp), if_neg (not_not.mpr hp)]
        refine associationAt_congr fun a ha => ?_
        have hlast : a.lastUsage ≤ now := h.now ▸ h.timely.lastUsage p a ha
        have hnow : now < 2 ^ 64 := h.now ▸ h.timely.clock
        rw [aborts_exact (h.timely.timeout s o ho) hnow hlast, closes_exact hnow hlast]
        have hreclaim : UnderLock (L := L) TimeStep AnyHalt (reclaim E deliver s p) := by
          unfold reclaim
          infer_instance
        have hrest (w' : World L) (hw' : AtTime now w') := ih (o.connectionlessAssociationList.next p) hw'
        by_cases huse : a.useCount = 0
        · rw [if_pos huse, if_pos huse]
          split
          · exact h.congr fun _ => hrest
          · split
            · exact h.congr fun _ => hrest
            · split
              · exact h.congr fun _ => hrest
              · exact hrest w h
        · rw [if_neg huse, if_neg huse]
          exact hrest w h
      · rw [if_pos hp, if_pos hp]
        rfl

theorem AtTime.pass {rest rest' : Act L Unit} (hrest : ∀ w', AtTime now w' → rest w' = rest' w') (h : AtTime now w) :
    passWith E deliver .card64 s rest w = passWith E deliver .exact s rest' w := by
  unfold passWith
  refine h.congr fun _ w₁ h₁ => bind_congr_run ?_
  rw [post_shared, h₁.now]
  dsimp only
  refine socketAt_congr fun o _ => ?_
  have hsweep (n : Nat) (p : Option AssocPtr) :
      UnderLock (L := L) TimeStep AnyHalt (sweepWith E deliver .card64 s now n p) := by
    rw [sweepWith_card64]
    infer_instance
  rw [run_bind_congr (h₁.sweep _ _).symm]
  refine h₁.congr fun _ w₂ h₂ => socketAt_congr fun o _ => ?_
  by_cases hcheck : o.autoCloseNewCheckRequired = true
  · rw [if_pos hcheck, if_pos hcheck]
    exact hrest w₂ h₂
  · rw [if_neg hcheck, if_neg hcheck]

/-- On a timely state the code closes what has been idle for too long, by the differences of the clock
readings as integers. -/
theorem AtTime.checkAutoClose (h : AtTime now w) :
    SCTPSocket.checkAutoClose E deliver s w = checkAutoCloseWith E deliver .exact s w := by
  have hloop (n : Nat) (w : World L) (h : AtTime now w) : loop .waiting (passWith E deliver .card64 s) n w =
      loop .waiting (passWith E deliver .exact s) n w := by
    induction n generalizing w with
    | zero => exact h.pass fun _ _ => rfl
    | succ n ih => exact h.pass ih
  rw [← checkAutoCloseWith_card64]
  unfold checkAutoCloseWith
  refine socketAt_congr fun o _ => ?_
  split
  · rfl
  · refine h.congr fun _ w₁ h₁ => ?_
    rw [run_bind_congr (hloop _ w₁ h₁).symm]

/-! ## Runs -/

/-- The steps of a run: calls that make, use or delete an association, callbacks, a new timeout, what
the library does on its own, and a reading of the clock. -/
inductive TimedCall (L : Sctplib) where
  | openSocket (family : Family) (flags : SocketFlags)
  | bind (s : SocketPtr) (port ins outs : Nat) (addresses : List SocketAddress)
  | deleteSocket (s : SocketPtr)
  | associate (s : SocketPtr) (streams attempts timeout : Nat) (addresses : List SocketAddress) (blocking : Bool)
  | accept (s : SocketPtr) (withAddresses wait : Bool)
  | sendTo (s : SocketPtr) (call : SendCall)
  | send (p : AssocPtr) (buffer : List UInt8) (params : SendParams) (useDefaults : Bool) (address : Option SocketAddress)
  | receiveFrom (s : SocketPtr) (io : ReceiveIO) (wantAddress : Bool)
  | receive (p : AssocPtr) (io : ReceiveIO) (wantAddress : Bool)
  | peelOff (s : SocketPtr) (id : AssocID)
  | delete (p : AssocPtr)
  | callback (callback : Callback)
  | setAutoClose (s : SocketPtr) (seconds : UInt32)
  | progress (step : L.State → L.State)
  | clock (reading : UInt64)

namespace TimedCall

def run : TimedCall L → Environment L → Act L Unit
  | .openSocket family flags, _ => discard (SCTPSocket.new family flags)
  | .bind s port ins outs addresses, E => discard (SCTPSocket.bind E s port ins outs addresses)
  | .deleteSocket s, E => SCTPSocket.delete E s
  | .associate s streams attempts timeout addresses blocking, E =>
    discard (SCTPSocket.associate E s streams attempts timeout addresses blocking)
  | .accept s withAddresses wait, E => discard (SCTPSocket.accept E s withAddresses wait)
  | .sendTo s call, E => discard (SCTPSocket.sendTo E s call)
  | .send p buffer params useDefaults address, E => discard (SCTPAssociation.sendTo E p buffer params useDefaults address)
  | .receiveFrom s io wantAddress, E => discard (SCTPSocket.receiveFrom E s io wantAddress)
  | .receive p io wantAddress, E => discard (SCTPAssociation.receiveFrom E p io wantAddress)
  | .peelOff s id, E => discard (SCTPSocket.peelOff E s id)
  | .delete p, E => SCTPAssociation.delete E (notif E) p
  | .callback c, E => locked E (c.run E)
  | .setAutoClose s seconds, _ => SCTPSocket.setAutoClose s (1000000 * seconds.toNat)
  | .progress step, _ => update fun s => { s with stack := step s.stack }
  | .clock reading, _ => update fun s => { s with now := reading.toNat }

/-- No reading of the clock is smaller than the one before. -/
def Monotone : TimedCall L → Shared L → Prop
  | .clock reading, s => s.now ≤ reading.toNat
  | _, _ => True

end TimedCall

theorem callback_timely (c : Callback) : UnderLock (L := L) TimeStep AnyHalt (c.run E) := by
  have hestablish (p : AssocPtr) (id : AssocID) :
      UnderLock (L := L) TimeStep AnyHalt (establishAssociation E p id) := by
    unfold establishAssociation
    infer_instance
  have hincoming (s : SocketPtr) (id : AssocID) (n : SCTPNotification) :
      UnderLock (L := L) TimeStep AnyHalt (incoming E s id n) := by
    unfold incoming
    infer_instance
  have hroom (p : AssocPtr) : UnderLock (L := L) TimeStep AnyHalt (offerRoom p) := by
    unfold offerRoom
    infer_instance
  have hadd (s : SocketPtr) (id : AssocID) (n : SCTPNotification) (w : World L) :
      StaysFrom TimeStep AnyHalt (addNotification E s id n) w := Keeps.post w
  refine ⟨fun w => ?_⟩
  cases c with
  | dataArrive id streamID length protoID unordered => exact dataArriveNotif_stays fun s c _ _ _ => hadd s id c w
  | sendFailure id => exact sendFailureNotif_stays fun s c _ _ _ => hadd s id c w
  | networkStatusChange id path state => exact networkStatusChangeNotif_stays fun _ s c _ _ _ => hadd s id c w
  | communicationError id => exact communicationErrorNotif_stays fun s c _ _ _ => hadd s id c w
  | restart id => exact restartNotif_stays fun _ _ s c _ _ _ => hadd s id c w
  | shutdownReceived id => exact shutdownReceivedNotif_stays fun s c _ _ _ => hadd s id c w
  | communicationUp id ins outs =>
    exact communicationUpNotif_stays (fun _ p _ _ => (hestablish p id).post w) (fun s n _ => (hincoming s id n).post w)
      inferInstance
  | communicationLost id => exact communicationLostNotif_stays trivial
  | shutdownComplete id => exact shutdownCompleteNotif_stays trivial
  | queueStatusChange id => exact queueStatusChangeNotif_stays fun _ p _ _ => (hroom p).post w

omit [Rely E (TimeStep (L := L))] in
theorem rely_timely {turns : List (Shared L)} (h : ∀ t ∈ turns, Timely t) :
    Rely (E.replay turns) (TimeStep (L := L)) where
  interfere {_ _ t} ht := ⟨Bool.noConfusion, fun _ => h t (List.mem_of_getElem? ht)⟩

omit [Rely E (TimeStep (L := L))] in
theorem post_timely {x : Act L Unit} {s : Shared L} (h : Anywhere TimeStep AnyHalt x) (hs : Timely s) :
    Post x { shared := s } (fun _ w => Timely w.shared) fun e w => e = .suspended → Timely w.shared := by
  refine (h.post _).mono (fun _ w' hr => ?_) fun e w' hr he => ?_
  · exact (hr (Nat.zero_le _)).1.kept hs
  · exact ((hr (Nat.zero_le _)).2 he).2.kept hs

omit [Rely E (TimeStep (L := L))] in
theorem timedCall_preserved : Preserved E (TimedCall.run (L := L)) TimedCall.Monotone Timely := by
  intro call turns s hallowed hs hturns
  have : Rely (E.replay turns) (TimeStep (L := L)) := rely_timely hturns
  cases call with
  | openSocket | bind | deleteSocket | associate | accept | sendTo | send | receiveFrom | receive | peelOff | delete =>
    unfold TimedCall.run
    exact post_timely inferInstance hs
  | callback c =>
    have hc := callback_timely (E := E.replay turns) c
    exact post_timely (x := locked _ _) inferInstance hs
  | setAutoClose k seconds =>
    unfold TimedCall.run SCTPSocket.setAutoClose
    rw [post_setSocket]
    cases hk : s.sockets k with
    | none => exact Halt.noConfusion
    | some o =>
      refine ⟨hs.clock, hs.lastUsage, fun j o' ho' => ?_⟩
      unfold Shared.setSocket at ho'
      dsimp only at ho'
      by_cases hj : j = k
      · subst hj
        rw [Function.update_self, hk] at ho'
        cases ho'
        exact ⟨seconds, rfl⟩
      · rw [Function.update_of_ne hj] at ho'
        exact hs.timeout j o' ho'
  | progress step => exact ⟨hs.clock, hs.lastUsage, hs.timeout⟩
  | clock reading =>
    exact ⟨reading.toNat_lt, fun p a ha => (hs.lastUsage p a ha).trans hallowed, hs.timeout⟩

/-- A sweep, behind whatever a call has done with the lock, closes what has been idle for too long by
the differences of the clock readings as integers, and nothing that it computes wraps. -/
structure InTime (E : Environment L) (s : Shared L) : Prop where
  sweep : ∀ (x : Act L Unit), UnderLock TimeStep AnyHalt x → ∀ thread, 0 < thread.lockLevel →
    Post x { thread, shared := s } (fun _ w => ∀ k, SCTPSocket.checkAutoClose E (notif E) k w =
      checkAutoCloseWith E (notif E) .exact k w) fun _ _ => True
  difference : ∀ p a, s.associations p = some a → (sub64 s.now a.lastUsage : Int) = s.now - a.lastUsage
  product : ∀ k o, s.sockets k = some o → (mul64 4 o.autoCloseTimeout : Int) = 4 * o.autoCloseTimeout

omit [Rely E (TimeStep (L := L))] in
/-- While no reading of the clock is smaller than an earlier one, auto-close is in time. -/
theorem auto_close_in_time {σ₀ σ : System (TimedCall L) L} (hpending : σ₀.pending = []) (hstart : Timely σ₀.shared)
    (hrun : System.Run E TimedCall.run TimedCall.Monotone σ₀ σ) : InTime (E.replay []) σ.shared := by
  have hsound : σ₀.Sound TimedCall.Monotone Timely := ⟨hstart, by rw [hpending]; exact List.forall_mem_nil _⟩
  obtain ⟨htimely, -⟩ := hsound.run timedCall_preserved hrun
  have : Rely (E.replay []) (TimeStep (L := L)) := rely_timely nofun
  refine ⟨fun x hx thread hlevel => ?_, fun p a ha => ?_, fun k o ho => ?_⟩
  · have h : AtTime σ.shared.now { thread, shared := σ.shared } := ⟨hlevel, htimely, rfl⟩
    exact (hx.post _).mono (fun _ w hw k => (h.next hw).checkAutoClose) fun _ _ _ => trivial
  · have hlast := htimely.lastUsage p a ha
    rw [sub64_eq htimely.clock hlast]
    omega
  · rw [(htimely.timeout k o ho).mul64]
    omega

/-- A socket that connects on its own, bound and used to send a byte. -/
def connecting : Act Sctplib.small Unit := do
  let s ← SCTPSocket.new .inet { autoConnect := true, globalQueue := true }
  discard (SCTPSocket.bind {} s 5000 1 1 [{ host := "10.0.0.1", port := 5000 }])
  discard (SCTPSocket.sendTo {} s
    { buffer := [1], params := { flags := { dontwait := true } }, useDefaults := false
      destinationAddressList := some [{ host := "10.0.0.2", port := 5000 }] })

/-- The process before these calls, at the time 10. -/
def atTen : World Sctplib.small := { shared := { stack := ({} : SmallStack), now := 10 } }

theorem timely_atTen : Timely atTen.shared := by
  refine ⟨?_, fun p a ha => ?_, fun k o ho => ?_⟩
  · change 10 < 2 ^ 64
    omega
  · cases ha
  · cases ho

theorem timely_connecting :
    Post connecting atTen (fun _ w => Timely w.shared) fun e w => e = .suspended → Timely w.shared := by
  have : Rely ({} : Environment Sctplib.small) TimeStep := ⟨fun h => ⟨Bool.noConfusion, fun ht => by cases h; exact ht⟩⟩
  have h : Anywhere TimeStep AnyHalt connecting := by
    unfold connecting
    infer_instance
  exact post_timely h timely_atTen

theorem connecting_returns : Post connecting atTen
    (fun _ w => w.shared.now = 10 ∧ (w.shared.associations 0).map (·.lastUsage) = some 10) fun _ _ => False := by
  decide +kernel

omit [Rely E (TimeStep (L := L))] in
theorem clock_run {allowed : TimedCall L → Shared L → Prop} {s : Shared L} {reading : UInt64}
    (h : allowed (.clock reading) s) :
    System.Run E TimedCall.run allowed ⟨s, []⟩ ⟨{ s with now := reading.toNat }, []⟩ := by
  refine .single (.begin (.clock reading) h ?_)
  have hresult : PendingCall.result E TimedCall.run ⟨.clock reading, s, []⟩ =
      .ok () { shared := { s with now := reading.toNat } } := rfl
  exact .returned hresult

/-- The clock goes on to 20: the association has been idle for 10. -/
theorem auto_close_in_time_connecting : ∃ w, connecting atTen = .ok () w ∧
    (w.shared.associations 0).map (·.lastUsage) = some 10 ∧
    InTime (({} : Environment Sctplib.small).replay []) { w.shared with now := 20 } := by
  obtain ⟨⟨⟩, w, hw, hnow, hlast⟩ := connecting_returns.exists_ok
  have hclock : w.shared.now ≤ (20 : UInt64).toNat := by
    rw [hnow]
    decide
  exact ⟨w, hw, hlast, auto_close_in_time rfl (timely_connecting.of_ok hw) (clock_run hclock)⟩

/-- A sweep after the clock has been set back to 5. -/
def sweepAtFive (test : IdleTest) (s : Shared Sctplib.small) : EStateM.Result Halt (World Sctplib.small) Unit :=
  let E := ({} : Environment Sctplib.small).replay []
  checkAutoCloseWith E (notif E) test 0 { thread := { lockLevel := 1 }, shared := { s with now := 5 } }

def closesFirst : EStateM.Result Halt (World Sctplib.small) Unit → Option Bool
  | .ok _ w => (w.shared.associations 0).map (·.isShuttingDown)
  | .error _ _ => none

/-- The code closes the association that was used at 10; by the difference of the readings it is kept. -/
theorem connecting_sweep : Post connecting atTen
    (fun _ w => closesFirst (sweepAtFive .card64 w.shared) = some true ∧
      closesFirst (sweepAtFive .exact w.shared) = some false) fun _ _ => False := by
  decide +kernel

theorem auto_close_out_of_time : ∃ w σ, connecting atTen = .ok () w ∧
    System.Run {} TimedCall.run (fun _ _ => True) ⟨w.shared, []⟩ σ ∧
    ¬ InTime (({} : Environment Sctplib.small).replay []) σ.shared := by
  obtain ⟨⟨⟩, w, hw, hcloses, hkeeps⟩ := connecting_sweep.exists_ok
  have hrun : System.Run {} TimedCall.run (fun _ _ => True) ⟨w.shared, []⟩
      ⟨{ w.shared with now := (5 : UInt64).toNat }, []⟩ := clock_run trivial
  refine ⟨w, _, hw, hrun, fun h => ?_⟩
  have hsweep : sweepAtFive .card64 w.shared = sweepAtFive .exact w.shared := by
    unfold sweepAtFive
    dsimp only
    rw [checkAutoCloseWith_card64]
    exact h.sweep (pure ()) inferInstance { lockLevel := 1 } Nat.one_pos 0
  rw [hsweep, hkeeps] at hcloses
  cases hcloses

end SocketApi
