import SocketApi.Locking.Basic

/-!
# Levels and waits of transfers and callbacks

Receiving and sending wait at the level they are entered with. A callback is entered with
the lock held, so the only one that may wait there is the flush of the pre-establishment
packets.
-/

namespace SocketApi

open Effect

set_option synthInstance.maxSize 2000

variable {L : Sctplib} {E : Environment L} {α β : Type}

/-! ## Receiving -/

instance {id : AssocID} {a : SocketAddress} {ids : List Int} : Tidy (SCTPSocket.pathSearch id a ids : Act L _) := by
  induction ids with
  | nil => unfold SCTPSocket.pathSearch; infer_instance
  | cons i rest ih =>
    unfold SCTPSocket.pathSearch
    refine .seq fun w => ?_
    cases L.getPathStatus w.stack id i <;> infer_instance

instance {id : AssocID} {a : Option SocketAddress} :
    Tidy (SCTPSocket.getPathIndexForAddress id a : Act L _) := by
  unfold SCTPSocket.getPathIndexForAddress
  refine .seq fun w => ?_
  cases a with
  | none => infer_instance
  | some a => dsimp only; cases L.getAssocStatus w.stack id <;> infer_instance

instance {q : QueueRef} : Tidy (q.get : Act L _) := by
  cases q <;> unfold QueueRef.get <;> infer_instance

instance {q : QueueRef} {f : SCTPNotificationQueue → SCTPNotificationQueue} : Tidy (q.modify f : Act L _) := by
  cases q <;> unfold QueueRef.modify <;> infer_instance

/-- Where a fetch ends: with the lock for a notification, without it otherwise. -/
def Fetched.level : Fetched → Nat
  | .notification _ => 1
  | .returned _ => 0

theorem locks_fetchNotification {s : SocketPtr} {q : QueueRef} {io : ReceiveIO} {flags : NotificationFlags} :
    Locks 1 (SCTPSocket.fetchNotification E s q io flags) Fetched.level := by
  unfold SCTPSocket.fetchNotification
  refine .loop (fun rest hrest => ?_) _
  refine .bind (.of_tidy inferInstance) fun queue => ?_
  cases queue.getNotification with
  | some n => exact .pure _ rfl
  | none =>
    refine .bind (.of_tidy inferInstance) fun errorCode => .bind .unlock fun _ => ?_
    dsimp only
    refine .ite (.bind (.of_tidy inferInstance) fun _ => .ite (.pure _ rfl) (.pure _ rfl)) ?_
    refine .ite (.pure _ rfl) ?_
    exact .bind (.of_polite inferInstance) fun _ => .bind .lock fun _ => hrest

instance {id : AssocID} {i : Int} {wanted : Bool} : Tidy (SCTPSocket.receiveAddress E id i wanted) := by
  unfold SCTPSocket.receiveAddress
  refine .seq fun w => ?_
  dsimp only
  have : Tidy (L := L) (match L.getPathStatus w.stack id i, L.getAssocStatus w.stack id with
      | some path, some status => return createSocketAddress E path.destinationAddress status.destPort
      | _, _ => return none) := by
    cases L.getPathStatus w.stack id i <;> cases L.getAssocStatus w.stack id <;> infer_instance
  infer_instance

instance {q : QueueRef} {n : SCTPNotification} {sda : SctpDataArrive} {io : ReceiveIO} {wantAddress : Bool} :
    Tidy (SCTPSocket.receiveData E q n sda io wantAddress) := by
  unfold SCTPSocket.receiveData
  dsimp only
  split
  · infer_instance
  · refine .seq fun received => ?_
    cases received <;> infer_instance

instance {s : SocketPtr} {q : QueueRef} {n : SCTPNotification} {io : ReceiveIO} {flags : NotificationFlags} :
    Tidy (SCTPSocket.receiveNotification E s q n io flags) := by
  have : Tidy (throw (.abort .unexpectedNotification) : Act L PUnit) := tidy_abort nofun
  unfold SCTPSocket.receiveNotification
  dsimp only
  infer_instance

instance {s : SocketPtr} {q : QueueRef} {n : SCTPNotification} {io : ReceiveIO} {wantAddress : Bool}
    {flags : NotificationFlags} : Tidy (SCTPSocket.receiveHead E s q n io wantAddress flags) := by
  unfold SCTPSocket.receiveHead
  cases n.content <;> infer_instance

instance {s : SocketPtr} {q : QueueRef} {id : AssocID} : Tidy (SCTPSocket.dropHead E s q id) := by
  have : Tidy (throw (.abort .receiveUseCount) : Act L PUnit) := tidy_abort nofun
  unfold SCTPSocket.dropHead
  refine .seq fun _ => .seq fun association => ?_
  cases association <;> dsimp only <;> infer_instance

instance {s : SocketPtr} {q : QueueRef} {io : ReceiveIO} {wantAddress : Bool} {flags : NotificationFlags} :
    Polite (SCTPSocket.internalReceive E s q io wantAddress flags) := by
  unfold SCTPSocket.internalReceive
  dsimp only
  refine Locks.polite (.ite (.pure _ rfl) (.bind .lock fun _ => .bind locks_fetchNotification fun fetched => ?_))
  cases fetched with
  | returned r => exact .pure _ rfl
  | notification n =>
    refine .bind (.of_tidy inferInstance) fun r => .ite ?_ ?_
    · exact .bind (.of_tidy inferInstance) fun _ => .bind .unlock fun _ => .pure _ rfl
    · exact .bind .unlock fun _ => .pure _ rfl

instance {s : SocketPtr} {io : ReceiveIO} {wantAddress : Bool} :
    Polite (SCTPSocket.receiveFrom E s io wantAddress) := by
  unfold SCTPSocket.receiveFrom; infer_instance

instance {s : SocketPtr} {io : ReceiveIO} : Polite (SCTPSocket.receive E s io) := by
  unfold SCTPSocket.receive; infer_instance

instance {p : AssocPtr} {io : ReceiveIO} {wantAddress : Bool} :
    Polite (SCTPAssociation.receiveFrom E p io wantAddress) := by
  unfold SCTPAssociation.receiveFrom; infer_instance

instance {p : AssocPtr} {io : ReceiveIO} : Polite (SCTPAssociation.receive E p io) := by
  unfold SCTPAssociation.receive; infer_instance

/-! ## Sending -/

instance {id : AssocID} {buffer : List UInt8} {params : SendParams} {a : Option SocketAddress} :
    Tidy (SCTPSocket.sendAttempt id buffer params a : Act L _) := by
  unfold SCTPSocket.sendAttempt; dsimp only; infer_instance

theorem locks_waitForRoom {c : Option ConditionRef} : Locks 1 (SCTPSocket.waitForRoom E c) fun _ => 1 := by
  unfold SCTPSocket.waitForRoom
  cases c with
  | none => exact .pure _ rfl
  | some c => exact .bind .unlock fun _ => .bind (.of_polite inferInstance) fun _ => .lock

instance {buffer : List UInt8} {id : AssocID} {params : SendParams} {c : Option ConditionRef}
    {a : Option SocketAddress} : Polite (SCTPSocket.sendRounds E buffer id params c a) := by
  unfold SCTPSocket.sendRounds
  refine Locks.polite (.loop (fun rest hrest => ?_) _)
  refine .bind .lock fun _ => .bind (.of_tidy inferInstance) fun result => .ite ?_ ?_
  · exact .bind locks_waitForRoom fun _ => .bind .unlock fun _ => .ite hrest (.pure _ rfl)
  · exact .bind .unlock fun _ => .ite hrest (.pure _ rfl)

instance {s : SocketPtr} {buffer : List UInt8} {id : AssocID} {params : SendParams} {c : Option ConditionRef}
    {a : Option SocketAddress} : Polite (SCTPSocket.internalSend E s buffer id params c a) := by
  unfold SCTPSocket.internalSend; infer_instance

instance {p : AssocPtr} {id : StreamID} : Tidy (SCTPAssociation.getDefaultStreamTimeout E p id) := by
  unfold SCTPAssociation.getDefaultStreamTimeout
  refine tidy_locked (.seq fun a => ?_)
  cases a.streamDefaultTimeoutArray[id]? <;> infer_instance

instance {p : AssocPtr} {buffer : List UInt8} {params : SendParams} {useDefaults : Bool}
    {a : Option SocketAddress} : Polite (SCTPAssociation.sendTo E p buffer params useDefaults a) := by
  unfold SCTPAssociation.sendTo; dsimp only; infer_instance

instance {p : AssocPtr} {buffer : List UInt8} {params : SendParams} {useDefaults : Bool} :
    Polite (SCTPAssociation.send E p buffer params useDefaults) := by
  unfold SCTPAssociation.send; infer_instance

instance {p : AssocPtr} : Polite (SCTPAssociation.sendPreEstablishmentPackets E p) := by
  unfold SCTPAssociation.sendPreEstablishmentPackets
  refine .loop (fun rest _ => .seq fun a => ?_) _
  cases a.preEstablishmentPackets <;> infer_instance

/-! ## Callbacks -/

namespace SCTPSocketMaster

instance {id : AssocID} {stream : StreamID} {length protoID : Nat} {unordered : Bool} :
    Tidy (dataArriveNotif E id stream length protoID unordered) := by
  unfold dataArriveNotif
  refine .seq fun s => ?_
  cases s <;> dsimp only <;> infer_instance

instance {id : AssocID} : Tidy (sendFailureNotif E id) := by
  unfold sendFailureNotif
  refine .seq fun s => ?_
  cases s <;> dsimp only <;> infer_instance

instance {id : AssocID} : Tidy (communicationErrorNotif E id) := by
  unfold communicationErrorNotif
  refine .seq fun s => ?_
  cases s <;> dsimp only <;> infer_instance

instance {id : AssocID} {path : Int} {state : PathState} : Tidy (networkStatusChangeNotif E id path state) := by
  unfold networkStatusChangeNotif
  refine .seq fun w => ?_
  cases L.getPathStatus w.stack id path with
  | none => infer_instance
  | some status =>
    dsimp only
    cases createSocketAddress E status.destinationAddress 0 with
    | none => infer_instance
    | some destination =>
      refine .seq fun s => ?_
      cases s <;> dsimp only <;> infer_instance

instance {p : AssocPtr} {id : AssocID} : Tidy (restoreRTOMax E p id) := by
  unfold restoreRTOMax
  refine .seq fun a => ?_
  split
  · refine .seq fun status => ?_
    cases status <;> infer_instance
  · infer_instance

instance {p : AssocPtr} {id : AssocID} : Polite (establish E p id) := by
  unfold establish; infer_instance

instance {s : SocketPtr} {id : AssocID} {n : SCTPNotification} : Tidy (incoming E s id n) := by
  unfold incoming; dsimp only; infer_instance

instance {s : SocketPtr} {id : AssocID} {n : SCTPNotification} : Tidy (upUnknown E s id n) := by
  unfold upUnknown; infer_instance

instance {id : AssocID} {n : SCTPNotification} : Polite (upAssociation E id n) := by
  unfold upAssociation
  refine .seq fun s => ?_
  cases s with
  | none => infer_instance
  | some s =>
    refine .seq fun p => ?_
    cases p <;> infer_instance

section

variable {deliver : Deliver L} [∀ t id, Tidy (deliver t id)]

instance {id : AssocID} {inStreams outStreams : Nat} :
    Polite (communicationUpNotif E deliver id inStreams outStreams) := by
  have : Tidy (throw (.abort .rejectedDeleteAssociation) : Act L PUnit) := tidy_abort nofun
  unfold communicationUpNotif
  refine .seq fun n => .seq fun up => ?_
  cases up <;> infer_instance

instance {id : AssocID} : Tidy (communicationLostNotif E deliver id) := by
  unfold communicationLostNotif
  refine .seq fun collected => ?_
  split
  · infer_instance
  · refine .seq fun s => ?_
    cases s with
    | none => infer_instance
    | some s =>
      refine .seq fun p => ?_
      cases p <;> infer_instance

instance {id : AssocID} : Tidy (shutdownCompleteNotif E deliver id) := by
  unfold shutdownCompleteNotif
  refine .seq fun collected => ?_
  split
  · infer_instance
  · refine .seq fun s => ?_
    cases s with
    | none => infer_instance
    | some s =>
      refine .seq fun p => ?_
      cases p <;> infer_instance

end

instance {id : AssocID} : Tidy (restartNotif E id) := by
  unfold restartNotif
  refine .seq fun s => ?_
  cases s with
  | none => infer_instance
  | some s =>
    refine .seq fun w => ?_
    cases L.getAssocStatus w.stack id <;> infer_instance

instance {id : AssocID} : Tidy (shutdownReceivedNotif E id) := by
  unfold shutdownReceivedNotif
  refine .seq fun s => ?_
  cases s with
  | none => infer_instance
  | some s =>
    refine .seq fun p => ?_
    cases p <;> dsimp only <;> infer_instance

instance {id : AssocID} : Polite (queueStatusChangeNotif E id) := by
  unfold queueStatusChangeNotif
  refine .seq fun s => ?_
  cases s with
  | none => infer_instance
  | some s =>
    refine .seq fun p => ?_
    cases p <;> infer_instance

instance {depth : Nat} {t : TerminalNotif} {id : AssocID} : Tidy (notifAt E depth t id) := by
  induction depth generalizing t id with
  | zero => unfold notifAt; infer_instance
  | succ depth ih => cases t <;> unfold notifAt <;> infer_instance

instance {t : TerminalNotif} {id : AssocID} : Tidy (notif E t id) := by
  unfold notif; infer_instance

end SCTPSocketMaster

end SocketApi
