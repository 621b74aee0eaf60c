import SocketApi.Readiness.Writing

/-!
# Runs of sends and callbacks

In every run of sends and callbacks an association is ready for writing if and only if it is
established. So it is as ready as select is told it is, unless its last send was refused.
-/

namespace SocketApi

open Effect SCTPSocketMaster

set_option synthInstance.maxSize 2000

variable {L : Sctplib} {E : Environment L.watched}

/-! ## Callbacks -/

section

variable [Rely E (FlagStep (L := L) WriteReady ∅)]

/-- Room is offered to established associations only. -/
def Shared.RoomAfterUp (s : Shared L) (callback : Callback) : Prop :=
  ∀ id t p a, callback = .queueStatusChange id → s.socketOf id = some t → s.Lists t id p → s.associations p = some a →
    a.established = true

theorem callback_stays {callback : Callback} {w : World L.watched}
    (htold : ∀ id, callback.tells = some id → w.shared.record.told id = true) (hroom : w.shared.RoomAfterUp callback) :
    StaysFrom (FlagStep WriteReady ∅) AnyHalt (callback.run E) w := by
  have hadd (s : SocketPtr) (id : AssocID) (c : SCTPNotification) :
      StaysFrom (FlagStep WriteReady ∅) AnyHalt (addNotification E s id c) w := Keeps.post w
  cases callback with
  | dataArrive id streamID length protoID unordered => exact dataArriveNotif_stays fun s c _ _ _ => hadd s id c
  | sendFailure id => exact sendFailureNotif_stays fun s c _ _ _ => hadd s id c
  | networkStatusChange id path state => exact networkStatusChangeNotif_stays fun _ s c _ _ _ => hadd s id c
  | communicationError id => exact communicationErrorNotif_stays fun s c _ _ _ => hadd s id c
  | restart id => exact restartNotif_stays fun _ _ s c _ _ _ => hadd s id c
  | shutdownReceived id => exact shutdownReceivedNotif_stays fun s c _ _ _ => hadd s id c
  | communicationUp id ins outs =>
    have hup (s : SocketPtr) (p : AssocPtr) (hp : w.shared.Lists s id p) :
        StaysFrom (FlagStep WriteReady ∅) AnyHalt (establishAssociation E p id) w :=
      shifts_establishAssociation.stays hp (htold id rfl)
    exact communicationUpNotif_stays (fun s p _ hp => hup s p hp) (fun _ _ _ => incoming_stays) inferInstance
  | communicationLost id => exact communicationLostNotif_stays (htold id rfl)
  | shutdownComplete id => exact shutdownCompleteNotif_stays (htold id rfl)
  | queueStatusChange id =>
    refine queueStatusChangeNotif_stays fun s p hs hp => offerRoom_stays hp (htold id rfl) fun a ha => ?_
    exact hroom id s p a rfl hs hp ha

end

/-! ## Runs -/

/-- The steps of a run: sends on a socket or an association, callbacks, and what the library does
on its own. -/
inductive WriteCall (L : Sctplib) where
  | sendTo (s : SocketPtr) (call : SendCall)
  | send (p : AssocPtr) (buffer : List UInt8) (params : SendParams) (useDefaults : Bool) (address : Option SocketAddress)
  | callback (callback : Callback)
  | progress (step : L.State → L.State)

namespace WriteCall

def run : WriteCall L → Environment L.watched → Act L.watched Unit
  | .sendTo s call, E => discard (SCTPSocket.sendTo E s call)
  | .send p buffer params useDefaults address, E =>
    discard (SCTPAssociation.sendTo E p buffer params useDefaults address)
  | .callback c, E => locked E do
    update (·.announce c)
    c.run E
  | .progress step, _ => update fun s => { s with stack := (step (s.stack : L.State × Record).1, s.record) }

/-- The library offers room to established associations only. -/
def Allowed : WriteCall L → Shared L.watched → Prop
  | .callback c, s => s.RoomAfterUp c
  | _, _ => True

end WriteCall

/-- What is kept in a run. -/
def WriteKept (φ : AssocPtr → Bool → Bool → Prop) (s : Shared L) : Prop := Listed s ∧ Flagged φ s

theorem rely_replay {φ : AssocPtr → Bool → Bool → Prop} {turns : List (Shared L.watched)}
    (h : ∀ t ∈ turns, WriteKept φ t) : Rely (E.replay turns) (FlagStep φ ∅) where
  interfere {n _ t} ht := by
    obtain ⟨hlisted, hflagged⟩ := h t (List.mem_of_getElem? ht)
    exact ⟨fun _ => hflagged, fun _ => hlisted, Bool.noConfusion⟩

theorem Shared.announce_told {s : Shared L.watched} {callback : Callback} {id : AssocID}
    (h : callback.tells = some id) :
    (s.announce callback).record.told id = true := by
  unfold Shared.announce
  rw [h]
  exact Record.told_tell ..

theorem flagStep_announce {φ : AssocPtr → Bool → Bool → Prop} {X : Set AssocPtr} {b : Bool} (s : Shared L.watched)
    (callback : Callback) : FlagStep φ X b s (s.announce callback) := by
  refine .elsewhere rfl rfl rfl fun id h => ?_
  unfold Shared.announce
  cases callback.tells with
  | none => exact h
  | some id' => exact Record.told_of_told h

theorem post_of_anywhere {φ : AssocPtr → Bool → Bool → Prop} {x : Act L.watched Unit} {s : Shared L.watched}
    (h : Post x { shared := s } (fun _ w' => Within (FlagStep φ ∅) false { shared := s } w')
      fun e w' => Stops (FlagStep φ ∅) AnyHalt false e { shared := s } w') (hs : WriteKept φ s) :
    Post x { shared := s } (fun _ w => WriteKept φ w.shared) fun e w => e = .suspended → WriteKept φ w.shared := by
  refine h.mono (fun _ w' hr => ?_) fun e w' hr he => ?_
  · obtain ⟨hstep, _⟩ := hr (Nat.zero_le _)
    exact ⟨hstep.listed hs.1, hstep.flagged hs.2⟩
  · obtain ⟨_, hstep⟩ := (hr (Nat.zero_le _)).2 he
    exact ⟨hstep.listed hs.1, hstep.flagged hs.2⟩

theorem writeCall_preserved : Preserved E (WriteCall.run (L := L)) WriteCall.Allowed (WriteKept WriteReady) := by
  intro call turns s hallowed hs hturns
  have : Rely (E.replay turns) (FlagStep (L := L) WriteReady ∅) := rely_replay hturns
  cases call with
  | sendTo t c =>
    have h : Anywhere (FlagStep WriteReady ∅) AnyHalt (discard (SCTPSocket.sendTo (E.replay turns) t c)) :=
      inferInstance
    exact post_of_anywhere (h.post _) hs
  | send p buffer params useDefaults address =>
    have h : Anywhere (FlagStep WriteReady ∅) AnyHalt
      (discard (SCTPAssociation.sendTo (E.replay turns) p buffer params useDefaults address)) := inferInstance
    exact post_of_anywhere (h.post _) hs
  | callback c =>
    refine post_of_anywhere (StaysFrom.section (.update (flagStep_announce s c) (callback_stays ?_ ?_))) hs
    · exact fun id h => Shared.announce_told h
    · exact hallowed
  | progress step =>
    have h : Anywhere (FlagStep WriteReady ∅) AnyHalt
        (update fun s => { s with stack := (step (s.stack : L.State × Record).1, s.record) } : Act L.watched Unit) :=
      FlagShift.update fun s => .elsewhere rfl rfl rfl fun _ h => h
    exact post_of_anywhere (h.post _) hs

/-- A send leaves alone what the other threads leave alone. -/
theorem internalSend_preserved {φ : AssocPtr → Bool → Bool → Prop} {s : SocketPtr} {buffer : List UInt8} {id : AssocID}
    {params : SendParams} {c : Option ConditionRef} {address : Option SocketAddress} :
    Preserved E (fun (_ : Unit) E => discard (SCTPSocket.internalSend E s buffer id params c address))
      (fun _ (_ : Shared L.watched) => True) (WriteKept φ) := by
  intro _ turns w _ hw hturns
  have : Rely (E.replay turns) (FlagStep (L := L) φ ∅) := rely_replay hturns
  have h : Anywhere (FlagStep φ ∅) AnyHalt
    (discard (SCTPSocket.internalSend (E.replay turns) s buffer id params c address)) := inferInstance
  exact post_of_anywhere (h.post _) hw

/-- The associations that were not told of are as ready as before. -/
def LeavesOthers (s s' : Shared L.watched) : Prop :=
  ∀ q a a', s.associations q = some a → s'.associations q = some a' → a'.associationID ≠ 0 →
    s'.record.told a'.associationID = false → a'.writeReady = a.writeReady

/-- A callback with all that is delivered meanwhile. -/
theorem callback_leavesOthers {callback : Callback} {s : Shared L.watched} (hs : Listed s)
    (hroom : s.RoomAfterUp callback) : Post (do
      update (·.announce callback)
      callback.run (E.replay [])) { thread := { lockLevel := 1 }, shared := s.forget }
      (fun _ w => LeavesOthers s w.shared) fun h _ => h ≠ .suspended := by
  have : Rely (E.replay []) (FlagStep (L := L) WriteReady ∅) := rely_replay nofun
  have hrun : StaysFrom (FlagStep WriteReady ∅) AnyHalt (callback.run (E.replay []))
      { thread := { lockLevel := 1 }, shared := s.forget.announce callback } :=
    callback_stays (fun _ h => Shared.announce_told h) hroom
  have hstays : StaysFrom (FlagStep WriteReady ∅) AnyHalt (do
      update (·.announce callback)
      callback.run (E.replay [])) { thread := { lockLevel := 1 }, shared := s.forget } :=
    .update (flagStep_announce s.forget callback) hrun
  refine Post.mono hstays (fun _ w h q a a' ha ha' hne htold => ?_) fun e _ h he => ?_
  · obtain ⟨hstep, _⟩ := h le_rfl
    have hlisted : Listed s.forget := ⟨hs.bound, hs.entry⟩
    obtain ⟨b, hb, _, hflags⟩ := (hstep.changes rfl).old hlisted q a' ha' (hs.bound q a ha)
    obtain rfl := Option.some.inj (ha.symm.trans hb)
    exact (hflags (Set.notMem_empty q) hne htold).1
  · have := ((h le_rfl).2 he).1
    exact absurd this Nat.one_ne_zero

/-- What select is meant to be told. -/
def SCTPAssociation.writable (a : SCTPAssociation) (r : Record) : Bool := a.established && !r.full a.associationID

/-- In a run of sends and callbacks an association that is ready for writing and should not be is an
established one whose last send was refused. -/
theorem write_readiness {σ₀ σ : System (WriteCall L) L.watched} (hpending : σ₀.pending = [])
    (hstart : WriteKept WriteReady σ₀.shared) (hrun : System.Run E WriteCall.run WriteCall.Allowed σ₀ σ) :
    (∀ p a, σ.shared.associations p = some a → (a.writeReady = a.writable σ.shared.record ↔
      ¬(a.established = true ∧ σ.shared.record.full a.associationID = true))) ∧
    (∀ callback, σ.shared.RoomAfterUp callback → Post (do
      update (·.announce callback)
      callback.run (E.replay [])) { thread := { lockLevel := 1 }, shared := σ.shared.forget }
      (fun _ w => LeavesOthers σ.shared w.shared) fun h _ => h ≠ .suspended) ∧
    ∀ φ s buffer id params c address, Preserved E
      (fun (_ : Unit) E => discard (SCTPSocket.internalSend E s buffer id params c address))
      (fun _ (_ : Shared L.watched) => True) (WriteKept φ) := by
  have hsound : σ₀.Sound WriteCall.Allowed (WriteKept WriteReady) :=
    ⟨hstart, by rw [hpending]; exact List.forall_mem_nil _⟩
  obtain ⟨⟨hlisted, hready⟩, _⟩ := hsound.run writeCall_preserved hrun
  refine ⟨fun p a ha => ?_, fun _ hroom => callback_leavesOthers hlisted hroom, fun _ _ _ _ _ _ _ => internalSend_preserved⟩
  have hflag : a.writeReady = a.established := hready p a ha
  unfold SCTPAssociation.writable
  rw [hflag]
  cases a.established <;> cases σ.shared.record.full a.associationID <;> simp

/-- A socket with an established association, whose next send the library will refuse. -/
def talking : Shared Sctplib.small.watched where
  stack := ({ lastInstance := 1, lastAssociation := 1, associations := [(1, 1)], answers := [.queueExceeded] }, {})
  sockets s := if s = 0 then some { associationList := [(1, 0)], instanceName := 1 } else none
  nextSocket := 1
  associations p :=
    if p = 0 then some { socket := 0, associationID := 1, communicationUpNotification := true, writeReady := true } else none
  nextAssociation := 1
  socketList := [(1, 0)]

theorem talking_kept : WriteKept WriteReady talking := by
  refine ⟨⟨fun p a ha => ?_, fun t o ho e he => ?_⟩, fun p a ha => ?_⟩
  · simp only [talking, Option.ite_none_right_eq_some] at ha
    simp [talking, ha.1]
  · simp only [talking, Option.ite_none_right_eq_some, Option.some.injEq] at ho
    obtain ⟨_, rfl⟩ := ho
    obtain rfl := List.mem_singleton.mp he
    simp [talking]
  · simp only [talking, Option.ite_none_right_eq_some, Option.some.injEq] at ha
    obtain ⟨_, rfl⟩ := ha
    rfl

/-- A send that does not wait. -/
def refusedSend : WriteCall L := .send 0 [1] { flags := { dontwait := true } } false none

theorem allowed_refusedSend (s : Shared L.watched) : WriteCall.Allowed refusedSend s := trivial

theorem write_readiness_talking : ∃ σ, System.Run {} WriteCall.run WriteCall.Allowed ⟨talking, []⟩ σ ∧
    ∀ p a, σ.shared.associations p = some a → (a.writeReady = a.writable σ.shared.record ↔
      ¬(a.established = true ∧ σ.shared.record.full a.associationID = true)) := by
  have hsend : ((PendingCall.alone {} WriteCall.run 1 ⟨refusedSend, talking, []⟩).map fun σ => σ.shared.record.full 1) =
      some true := by decide +kernel
  obtain ⟨σ, hσ, _⟩ := Option.map_eq_some_iff.mp hsend
  have hrun := System.run_call (allowed_refusedSend talking) hσ
  exact ⟨σ, hrun, (write_readiness rfl talking_kept hrun).1⟩

/-- The calls that make an association, and the callback that it is up. -/
def talk : Act Sctplib.small.watched Unit := do
  let s ← SCTPSocket.new .inet {}
  discard (SCTPSocket.bind {} s 5000 1 1 [{ host := "10.0.0.1", port := 5000 }])
  discard (SCTPSocket.associate {} s 1 8 60000 [{ host := "10.0.0.2", port := 5000 }] false)
  WriteCall.run (.callback (.communicationUp 1 1 1)) {}

/-- The process before these calls: the library will refuse the first send. -/
def silent : World Sctplib.small.watched := World.initial ({ answers := [.queueExceeded] }, {})

theorem talk_returns : Post talk silent (fun _ _ => True) fun _ _ => False := by decide +kernel

/-- The state after them. -/
def talked : Shared Sctplib.small.watched :=
  match talk silent with
  | .ok _ w | .error _ w => w.shared

/-- A send after these calls is refused, and the association is as ready as before. -/
theorem writeReady_after_refusal :
    ∃ (w : World Sctplib.small.watched) (σ : System (WriteCall Sctplib.small) Sctplib.small.watched),
      talk silent = .ok () w ∧
      System.Run {} WriteCall.run WriteCall.Allowed ⟨w.shared, []⟩ σ ∧
      ∃ a, σ.shared.associations 0 = some a ∧ a.writeReady ≠ a.writable σ.shared.record := by
  obtain ⟨_, w, hw, _⟩ := talk_returns.exists_ok
  have hshared : w.shared = talked := by
    unfold talked
    rw [hw]
  have hsend : ((PendingCall.alone {} WriteCall.run 1 ⟨refusedSend, talked, []⟩).map fun σ =>
      ((σ.shared.associations 0).map fun a => (a.writeReady, a.associationID), σ.shared.record.full 1)) =
        some (some (true, 1), true) := by decide +kernel
  obtain ⟨σ, hσ, hrefused⟩ := Option.map_eq_some_iff.mp hsend
  obtain ⟨hflag, hfull⟩ := Prod.mk.inj hrefused
  obtain ⟨a, ha, hready⟩ := Option.map_eq_some_iff.mp hflag
  obtain ⟨hready, hid⟩ := Prod.mk.inj hready
  rw [← hshared] at hσ
  refine ⟨w, σ, hw, System.run_call (allowed_refusedSend w.shared) hσ, a, ha, ?_⟩
  unfold SCTPAssociation.writable
  rw [hready, hid, hfull, Bool.not_true, Bool.and_false]
  exact Bool.true_eq_false_eq_False

end SocketApi
