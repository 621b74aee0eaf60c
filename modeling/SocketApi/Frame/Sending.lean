import SocketApi.Frame.Callbacks

/-!
# Sending and establishing under a relation

A send locks the master on its own and unlocks it while it waits, so its level is followed step
by step. The callbacks besides the two that end an association come last: most of them only
queue a notification.
-/

namespace SocketApi

open Effect SCTPSocketMaster

set_option synthInstance.maxSize 2000

variable {L : Sctplib} {E : Environment L} {R : Bool → Shared L → Shared L → Prop} {V : Halt → Shared L → Prop}

/-! ## Sending -/

/-- The parts of sending. -/
class Sends (R : Bool → Shared L → Shared L → Prop) (V : Halt → Shared L → Prop) : Prop where
  attempt : ∀ id buffer params a, Anywhere R V (SCTPSocket.sendAttempt id buffer params a : Act L _)
  append : ∀ p packet, Anywhere R V (setAssociation p fun a =>
    { a with preEstablishmentPackets := a.preEstablishmentPackets ++ [packet] } : Act L _)
  tail : ∀ p, Anywhere R V (setAssociation p fun a =>
    { a with preEstablishmentPackets := a.preEstablishmentPackets.tail } : Act L _)

section

variable [Stable R V] [Rely E R]

theorem moves_waitForRoom {c : Option ConditionRef} : Moves R V 1 (fun _ => 1) (SCTPSocket.waitForRoom E c) := by
  unfold SCTPSocket.waitForRoom
  cases c with
  | none => exact .pure le_rfl
  | some c =>
    have hwait : Anywhere R V (timedWait E c) := inferInstance
    exact .bind (.unlock (a := 0)) fun _ => .bind (.anywhere hwait.discard) fun _ => .lock

variable [Sends R V]

instance {buffer : List UInt8} {id : AssocID} {params : SendParams} {c : Option ConditionRef}
    {a : Option SocketAddress} : Anywhere R V (SCTPSocket.sendRounds E buffer id params c a) := by
  have hattempt : Anywhere R V (SCTPSocket.sendAttempt id buffer params a : Act L _) := Sends.attempt ..
  refine Moves.keeps (Moves.loop (fun rest hrest => ?_) E.patience)
  refine .bind .lock fun _ => .bind (.anywhere hattempt) fun result => ?_
  have hend : Moves R V 1 (fun _ => 0) (do
      unlock E
      if !params.flags.dontwait ∧ result = .queueExceeded then rest else return result) :=
    .bind (.unlock (a := 0)) fun _ => .ite hrest (.pure le_rfl)
  dsimp only
  by_cases hfull : result = .queueExceeded ∧ (!params.flags.dontwait) = true
  · rw [if_pos hfull]
    exact .bind moves_waitForRoom fun _ => hend
  · rw [if_neg hfull]
    exact hend

instance {s : SocketPtr} {buffer : List UInt8} {id : AssocID} {params : SendParams} {c : Option ConditionRef}
    {a : Option SocketAddress} : Anywhere R V (SCTPSocket.internalSend E s buffer id params c a) := by
  unfold SCTPSocket.internalSend; infer_instance

namespace SCTPAssociation

instance {p : AssocPtr} {buffer : List UInt8} {params : SendParams} {useDefaults : Bool} {a : Option SocketAddress} :
    Anywhere R V (SCTPAssociation.sendTo E p buffer params useDefaults a) := by
  have (packet : PreEstablishmentPacket) : Anywhere R V (setAssociation p fun a =>
      { a with preEstablishmentPackets := a.preEstablishmentPackets ++ [packet] } : Act L _) := Sends.append p packet
  unfold SCTPAssociation.sendTo
  infer_instance

instance {p : AssocPtr} : Anywhere R V (sendPreEstablishmentPackets E p) := by
  have : Anywhere R V (setAssociation p fun a =>
      { a with preEstablishmentPackets := a.preEstablishmentPackets.tail } : Act L _) := Sends.tail p
  refine .loop (fun rest _ => .seq fun a => ?_) E.patience
  cases a.preEstablishmentPackets <;> infer_instance

end SCTPAssociation

end

/-! ## Notifications -/

/-- The socket a callback is about. -/
def Shared.socketOf (w : Shared L) (id : AssocID) : Option SocketPtr :=
  match L.getInstanceID w.stack id with
  | some i => if i ≠ 0 then w.socketList.find i else none
  | none => none

theorem peek_getSocketForAssociationID (id : AssocID) (w : World L) :
    Post (getSocketForAssociationID id) w (fun found w' => w' = w ∧ found = w.shared.socketOf id)
      fun _ _ => False := by
  unfold getSocketForAssociationID Shared.socketOf
  rw [post_bind, post_shared]
  cases L.getInstanceID w.shared.stack id <;> exact ⟨rfl, rfl⟩

theorem peek_initNotification (id : AssocID) (w : World L) :
    Post (initNotification id) w (fun n w' => w' = w ∧ n.contentPosition = 0) fun _ _ => False := by
  unfold initNotification
  rw [post_bind, post_shared]
  dsimp only
  cases L.getAssocStatus w.shared.stack id <;> exact ⟨rfl, rfl⟩

section

variable [Stable R V]

omit [Stable R V] in
theorem StaysFrom.socketOf {β : Type} {id : AssocID} {w : World L} {f : Option SocketPtr → Act L β}
    (h : StaysFrom R V (f (w.shared.socketOf id)) w) : StaysFrom R V (getSocketForAssociationID id >>= f) w := by
  unfold StaysFrom
  rw [post_bind]
  refine (peek_getSocketForAssociationID id w).mono (fun found w' ⟨hw, hfound⟩ => ?_) fun _ _ h => h.elim
  rw [hw, hfound]
  exact h

/-- A callback that queues a notification with the content `c`. -/
theorem StaysFrom.queue {id : AssocID} {c : SctpNotification} {w : World L}
    (hadd : ∀ s n, w.shared.socketOf id = some s → n.content = c → n.contentPosition = 0 →
      StaysFrom R V (addNotification E s id n) w) :
    StaysFrom R V (do
      match ← getSocketForAssociationID id with
      | some s =>
        let notification ← initNotification id
        addNotification E s id { notification with content := c }
      | none => return) w := by
  refine .socketOf ?_
  cases hs : w.shared.socketOf id with
  | none => exact Keeps.post (x := Pure.pure ()) w
  | some s =>
    dsimp only
    unfold StaysFrom
    rw [post_bind]
    refine (peek_initNotification id w).mono (fun n w' ⟨hw, hn⟩ => ?_) fun _ _ h => h.elim
    rw [hw]
    exact hadd s _ hs rfl hn

/-- Every notification that the callback queues may be queued. -/
def Queueable (E : Environment L) (R : Bool → Shared L → Shared L → Prop) (V : Halt → Shared L → Prop) (id : AssocID)
    (c : SctpNotification) (w : World L) : Prop :=
  ∀ s n, w.shared.socketOf id = some s → n.content = c → n.contentPosition = 0 →
    StaysFrom R V (addNotification E s id n) w

theorem dataArriveNotif_stays {id : AssocID} {streamID : StreamID} {length protoID : Nat} {unordered : Bool}
    {w : World L} (h : Queueable E R V id (.dataArrive
      { sda_type := .dataArrive, sda_length := 24, sda_unordered := unordered, sda_assoc_id := id
        sda_stream := streamID, sda_ppid := protoID, sda_bytes_arrived := length }) w) :
    StaysFrom R V (dataArriveNotif E id streamID length protoID unordered) w := .queue h

theorem sendFailureNotif_stays {id : AssocID} {w : World L} (h : Queueable E R V id (.sendFailed
      { ssf_type := .remoteError, ssf_length := 48, ssf_error := 0
        ssf_info := { sinfo_assoc_id := id }, ssf_assoc_id := id }) w) :
    StaysFrom R V (sendFailureNotif E id) w := .queue h

theorem communicationErrorNotif_stays {id : AssocID} {w : World L} (h : Queueable E R V id (.remoteError
      { sre_type := .remoteError, sre_length := 16, sre_error := 0, sre_assoc_id := id }) w) :
    StaysFrom R V (communicationErrorNotif E id) w := .queue h

theorem networkStatusChangeNotif_stays {id : AssocID} {path : Int} {state : PathState} {w : World L}
    (h : ∀ destination, Queueable E R V id (.paddrChange
      { spc_type := .peerAddrChange, spc_length := 152, spc_aaddr := pathAddress E destination
        spc_state := (pathChange state).1, spc_error := (pathChange state).2, spc_assoc_id := id }) w) :
    StaysFrom R V (networkStatusChangeNotif E id path state) w := by
  unfold networkStatusChangeNotif StaysFrom
  rw [post_bind, post_shared]
  cases L.getPathStatus w.shared.stack id path with
  | none => exact Keeps.post (x := Pure.pure ()) w
  | some status =>
    dsimp only
    cases createSocketAddress E status.destinationAddress 0 with
    | none => exact Keeps.post (x := Pure.pure ()) w
    | some destination => exact StaysFrom.queue (h destination)

theorem restartNotif_stays {id : AssocID} {w : World L}
    (h : ∀ outStreams inStreams, Queueable E R V id (assocChange id .restart outStreams inStreams) w) :
    StaysFrom R V (restartNotif E id) w := by
  unfold restartNotif
  refine .socketOf ?_
  cases hs : w.shared.socketOf id with
  | none => exact Keeps.post (x := Pure.pure ()) w
  | some s =>
    unfold StaysFrom
    dsimp only
    rw [post_bind, post_shared]
    cases L.getAssocStatus w.shared.stack id <;> exact h _ _ s _ hs rfl rfl

theorem shutdownReceivedNotif_stays {id : AssocID} {w : World L} (h : Queueable E R V id (.shutdownEvent
      { sse_type := .shutdownEvent, sse_length := 20, sse_assoc_id := id }) w) :
    StaysFrom R V (shutdownReceivedNotif E id) w := by
  unfold shutdownReceivedNotif
  refine .socketOf ?_
  cases hs : w.shared.socketOf id with
  | none => exact Keeps.post (x := Pure.pure ()) w
  | some s => exact .lookup (Keeps.post (x := Pure.pure ()) w) fun _ _ => h s _ hs rfl rfl

end

end SocketApi
