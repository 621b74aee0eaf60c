import SocketApi.Frame.Establishing

/-!
# Accepting, associating and sending on a socket under a relation

The calls that find or make an association. While they run they hold or use it, which the
shared state records; the parts of `Connects` are the steps of this record.
-/

namespace SocketApi

open Effect SCTPSocketMaster

set_option synthInstance.maxSize 2000

variable {L : Sctplib} {E : Environment L} {R : Bool → Shared L → Shared L → Prop} {V : Halt → Shared L → Prop}

namespace SCTPSocket

/-! ## Accepting -/

class Accepts (E : Environment L) (R : Bool → Shared L → Shared L → Prop) (V : Halt → Shared L → Prop) : Prop where
  take : ∀ s withAddresses, UnderLock R V (takeRequest E s withAddresses)
  acceptIncoming : ∀ s, UnderLock R V (acceptIncoming E s)

section

variable [Stable R V] [Rely E R]

theorem moves_awaitRequest {s : SocketPtr} {maintain : Act L Unit} {wait : Bool} (hmaintain : Anywhere R V maintain) :
    Moves R V 1 (fun ready => ready.toNat) (awaitRequest E s maintain wait) := by
  refine Moves.loop (fun rest hrest => ?_) E.patience
  have hsocket : Anywhere R V (socketAt s : Act L _) := inferInstance
  have hwait : Anywhere R V (waitFor E (.socket s .establish) maintain) := inferInstance
  refine .bind (.anywhere hsocket) fun o => ?_
  cases o.connectionRequests.isEmpty with
  | false => exact .pure le_rfl
  | true =>
    refine .bind (.unlock (a := 0)) fun _ => ?_
    cases wait with
    | false => exact .pure le_rfl
    | true => exact .bind (.anywhere hwait) fun _ => .bind .lock fun _ => hrest

theorem anywhere_acceptWith {s : SocketPtr} {maintain : Act L Unit} {withAddresses wait : Bool}
    (hmaintain : Anywhere R V maintain) (htake : UnderLock R V (takeRequest E s withAddresses)) :
    Anywhere R V (acceptWith E maintain s withAddresses wait) := by
  have hsocket : Anywhere R V (socketAt s : Act L _) := inferInstance
  refine Moves.keeps (.bind .lock fun _ => .bind (.anywhere hsocket) fun o => ?_)
  have hlistening : Moves R V 1 (fun _ => 0) (acceptListening E maintain s withAddresses wait) := by
    refine .bind (moves_awaitRequest hmaintain) fun ready => ?_
    cases ready with
    | false => exact .pure le_rfl
    | true => exact .bind (.underLock htake) fun result => .bind (.unlock (a := 0)) fun _ => .pure le_rfl
  exact .ite hlistening (.pure (Nat.zero_le 1))

/-- All pending requests become connectionless associations. -/
theorem underLock_acceptIncoming {s : SocketPtr} (htake : UnderLock R V (takeRequest E s false))
    (hadd : ∀ p, UnderLock R V (addConnectionless s p))
    (hflags : ∀ flags, UnderLock R V (setSocket s fun o => { o with flags } : Act L _)) :
    UnderLock R V (acceptIncoming E s) := by
  have : Anywhere R V (acceptWith E (pure ()) s false false) := anywhere_acceptWith inferInstance htake
  have : UnderLock R V (acceptAll E s) := by
    unfold acceptAll
    refine .seq fun o => .loop (fun rest _ => .seq fun result => ?_) _
    cases result.1 <;> infer_instance
  unfold acceptIncoming
  infer_instance

variable [Accepts E R V]

instance {s : SocketPtr} : Anywhere R V (checkAutoConnect E s) := by
  have : UnderLock R V (acceptIncoming E s) := Accepts.acceptIncoming s
  unfold checkAutoConnect
  infer_instance

instance {s : SocketPtr} {withAddresses wait : Bool} : Anywhere R V (accept E s withAddresses wait) :=
  anywhere_acceptWith inferInstance (Accepts.take s withAddresses)

end

/-! ## Associating -/

/-- The parts of the calls that find or make an association and use it. -/
class Connects (E : Environment L) (R : Bool → Shared L → Shared L → Prop) (V : Halt → Shared L → Prop) : Prop where
  associateBegin : ∀ s streams attempts timeout addresses,
    Anywhere R V (associateBegin E s streams attempts timeout addresses)
  associateEnd : ∀ p, UnderLock R V (do
    setAssociation p fun a => { a with useCount := decrement a.useCount }
    leave p : Act L _)
  enter : ∀ p, UnderLock R V (do
    enter p
    setAssociation p fun a => { a with useCount := a.useCount + 1 } : Act L _)
  leave : ∀ p, Anywhere R V (leave p : Act L _)
  release : ∀ p, Anywhere R V (release p : Act L _)
  connect : ∀ s p, UnderLock R V (do
    SocketApi.enter p
    setAssociation p fun a => { a with useCount := a.useCount + 1 }
    addConnectionless s p : Act L _)
  unlist : ∀ s p, UnderLock R V (do
    let assocID := (← associationAt p).associationID
    setSocket s fun o =>
      { o with connectionlessAssociationList := o.connectionlessAssociationList.eraseKey assocID } : Act L _)
  sendToEnd : ∀ p, Anywhere R V (sendToEnd E (some p))

section

variable [Stable R V] [Ends R] [Rely E R] [Closing E R V] [Ending E R V] [Accepts E R V] [Connects E R V]

instance {s : SocketPtr} {p : AssocPtr} : Anywhere R V (associateWait E s p) := by
  have : Anywhere R V (leave p : Act L _) := Connects.leave E p
  have : Anywhere R V (release p : Act L _) := Connects.release E p
  unfold associateWait
  infer_instance

instance {p : Option AssocPtr} : Anywhere R V (associateEnd E p) := by
  unfold associateEnd
  cases p with
  | none => infer_instance
  | some p =>
    have : UnderLock R V (do
        setAssociation p fun a => { a with useCount := decrement a.useCount }
        leave p : Act L _) := Connects.associateEnd E p
    infer_instance

instance {s : SocketPtr} {streams attempts timeout : Nat} {addresses : List SocketAddress} {blocking : Bool} :
    Anywhere R V (associate E s streams attempts timeout addresses blocking) := by
  have : Anywhere R V (associateBegin E s streams attempts timeout addresses) := Connects.associateBegin ..
  unfold associate
  refine .seq fun created => ?_
  cases created with
  | none => infer_instance
  | some p => infer_instance

/-! ## Sending on a socket -/

omit [Accepts E R V] in
theorem moves_sendToBegin {s : SocketPtr} {c : SendCall} : Moves R V 1 (fun _ => 0) (sendToBegin E s c) := by
  have hlookup : Anywhere R V (sendToLookup s c : Act L _) := inferInstance
  refine .bind (.anywhere hlookup) fun found => ?_
  cases found with
  | none => exact .bind (.unlock (a := 0)) fun _ => .pure le_rfl
  | some p =>
    have henter : UnderLock R V (do
        enter p
        setAssociation p fun a => { a with useCount := a.useCount + 1 } : Act L _) := Connects.enter E p
    have habort : Anywhere R V (SCTPAssociation.abort E (notif E) p) := inferInstance
    have hleave : Anywhere R V (leave p : Act L _) := Connects.leave E p
    dsimp only
    refine .ite (.bind (.unlock (a := 0)) fun _ => .pure le_rfl) ?_
    have hrest : Moves R V 1 (fun _ => 0) (do
        (do
          enter p
          setAssociation p fun a => { a with useCount := a.useCount + 1 } : Act L _)
        if c.params.flags.abort then
          SCTPAssociation.abort E (notif E) p
          leave p
          unlock E
          return .error 0
        unlock E
        return .ok (some p) : Act L (Except Int (Option AssocPtr))) :=
      .bind (.underLock henter) fun _ => .ite
        (.bind (.anywhere habort) fun _ => .bind (.anywhere hleave) fun _ => .bind (.unlock (a := 0)) fun _ => .pure le_rfl)
        (.bind (.unlock (a := 0)) fun _ => .pure le_rfl)
    simpa only [bind_assoc] using hrest

instance {s : SocketPtr} {c : SendCall} {association : Option AssocPtr} :
    Anywhere R V (sendToConnect E s c association) := by
  have (p : AssocPtr) : UnderLock R V (do
      enter p
      setAssociation p fun a => { a with useCount := a.useCount + 1 }
      addConnectionless s p : Act L _) := Connects.connect E s p
  unfold sendToConnect
  cases association with
  | some p => infer_instance
  | none =>
    cases c.destinationAddressList with
    | none => infer_instance
    | some addresses =>
      refine .seq fun o => ?_
      split
      · refine .seq fun created => ?_
        cases created <;> infer_instance
      · infer_instance

instance {s : SocketPtr} {p : AssocPtr} : Anywhere R V (sendToDelete E s p) := by
  have : Anywhere R V (leave p : Act L _) := Connects.leave E p
  have : UnderLock R V (do
      let assocID := (← associationAt p).associationID
      setSocket s fun o =>
        { o with connectionlessAssociationList := o.connectionlessAssociationList.eraseKey assocID } : Act L _) :=
    Connects.unlist E s p
  unfold sendToDelete
  infer_instance

instance {s : SocketPtr} {c : SendCall} {p : AssocPtr} : Anywhere R V (sendToClose E s c p) := by
  unfold sendToClose
  infer_instance

instance {association : Option AssocPtr} : Anywhere R V (sendToEnd E association) := by
  cases association with
  | none => unfold sendToEnd; infer_instance
  | some p => exact Connects.sendToEnd p

variable [Sends R V]

instance {s : SocketPtr} {c : SendCall} {p : AssocPtr} : Anywhere R V (sendToTransmit E s c p) := by
  unfold sendToTransmit
  infer_instance

theorem moves_sendToOne {s : SocketPtr} {c : SendCall} : Moves R V 1 (fun _ => 0) (sendToOne E s c) := by
  refine .bind moves_sendToBegin fun found => ?_
  cases found with
  | error result => exact .pure le_rfl
  | ok association =>
    refine .anywhere (.seq fun p => ?_)
    cases p <;> infer_instance

instance {s : SocketPtr} {c : SendCall} : Anywhere R V (sendTo E s c) := by
  have hall (list : Multimap AssocID AssocPtr) : Anywhere R V (sendToAll E c list) := by
    induction list with
    | nil => unfold sendToAll; infer_instance
    | cons e list ih => unfold sendToAll; infer_instance
  unfold sendTo
  split
  · exact Moves.keeps (.bind .lock fun _ => moves_sendToOne)
  · infer_instance

end

end SCTPSocket

end SocketApi
