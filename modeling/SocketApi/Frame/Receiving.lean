import SocketApi.Frame.Connecting

/-!
# Receiving under a relation

A receive locks the master, unlocks it while it waits for a notification and at its end.
-/

namespace SocketApi

open Effect SCTPSocketMaster SCTPSocket

set_option synthInstance.maxSize 2000

variable {L : Sctplib} {E : Environment L} {R : Bool → Shared L → Shared L → Prop} {V : Halt → Shared L → Prop}

/-- The parts of receiving. -/
class Receives (E : Environment L) (R : Bool → Shared L → Shared L → Prop) (V : Halt → Shared L → Prop) : Prop where
  library : ∀ id stream length peek, Anywhere R V (library (L.receive · id stream length peek))
  modify : ∀ (queue : QueueRef) f, Anywhere R V (queue.modify f : Act L _)
  unexpected : Anywhere R V (throw (.abort .unexpectedNotification) : Act L Unit)
  drop : ∀ s queue id, UnderLock R V (dropHead E s queue id)

variable [Stable R V] [Rely E R] [Accepts E R V]

theorem moves_fetchNotification {s : SocketPtr} {queue : QueueRef} {io : ReceiveIO} {flags : NotificationFlags} :
    Moves R V 1 (fun fetched => match fetched with
      | .notification _ => 1
      | .returned _ => 0) (fetchNotification E s queue io flags) := by
  have hget : Anywhere R V (queue.get : Act L _) := inferInstance
  have hcode : Anywhere R V (getErrorCode E s io.assocID) := inferInstance
  have hwait : Anywhere R V (waitFor E queue.updateCondition (checkAutoConnect E s)) := inferInstance
  refine Moves.loop (fun rest hrest => .bind (.anywhere hget) fun q => ?_) E.patience
  cases q.getNotification with
  | some n => exact .pure le_rfl
  | none =>
    refine .bind (.anywhere hcode) fun code => .bind (.unlock (a := 0)) fun _ => .ite ?_ (.ite (.pure le_rfl) ?_)
    · exact .bind (.anywhere hget) fun q => .ite (.pure le_rfl) (.pure le_rfl)
    · exact .bind (.anywhere hwait) fun _ => .bind .lock fun _ => hrest

variable [Receives E R V]

instance {queue : QueueRef} {n : SCTPNotification} {sda : SctpDataArrive} {io : ReceiveIO} {wantAddress : Bool} :
    Anywhere R V (receiveData E queue n sda io wantAddress) := by
  have (id : AssocID) (stream : StreamID) (length : Nat) (peek : Bool) :
      Anywhere R V (library (L.receive · id stream length peek)) := Receives.library E id stream length peek
  have (f : SCTPNotificationQueue → SCTPNotificationQueue) : Anywhere R V (queue.modify f : Act L _) :=
    Receives.modify E queue f
  unfold receiveData
  dsimp only
  split
  · infer_instance
  · refine .seq fun r => ?_
    cases r <;> infer_instance

instance {s : SocketPtr} {queue : QueueRef} {n : SCTPNotification} {io : ReceiveIO} {flags : NotificationFlags} :
    Anywhere R V (receiveNotification E s queue n io flags) := by
  have (f : SCTPNotificationQueue → SCTPNotificationQueue) : Anywhere R V (queue.modify f : Act L _) :=
    Receives.modify E queue f
  have : Anywhere R V (throw (.abort .unexpectedNotification) : Act L Unit) := Receives.unexpected E
  unfold receiveNotification
  dsimp only
  infer_instance

instance {s : SocketPtr} {queue : QueueRef} {n : SCTPNotification} {io : ReceiveIO} {wantAddress : Bool}
    {flags : NotificationFlags} : Anywhere R V (receiveHead E s queue n io wantAddress flags) := by
  unfold receiveHead
  cases n.content <;> infer_instance

instance {s : SocketPtr} {queue : QueueRef} {io : ReceiveIO} {wantAddress : Bool} {flags : NotificationFlags} :
    Anywhere R V (internalReceive E s queue io wantAddress flags) := by
  refine Moves.keeps (.ite (.pure le_rfl) (.bind .lock fun _ => .bind moves_fetchNotification fun fetched => ?_))
  cases fetched with
  | returned r => exact .pure le_rfl
  | notification n =>
    have hhead : Anywhere R V (receiveHead E s queue n io wantAddress flags) := inferInstance
    refine .bind (.anywhere hhead) fun r => ?_
    have hdrop : UnderLock R V (dropHead E s queue r.1.io.assocID) := Receives.drop ..
    have hend : Moves R V 1 (fun _ => 0) (do
        unlock E
        return r.1) := .bind (.unlock (a := 0)) fun _ => .pure le_rfl
    exact .ite (.bind (.underLock hdrop) fun _ => hend) hend

instance {s : SocketPtr} {io : ReceiveIO} {wantAddress : Bool} :
    Anywhere R V (SCTPSocket.receiveFrom E s io wantAddress) := by
  unfold SCTPSocket.receiveFrom
  infer_instance

instance {p : AssocPtr} {io : ReceiveIO} {wantAddress : Bool} :
    Anywhere R V (SCTPAssociation.receiveFrom E p io wantAddress) := by
  unfold SCTPAssociation.receiveFrom
  infer_instance

end SocketApi
