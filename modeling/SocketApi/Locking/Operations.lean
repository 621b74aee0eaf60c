import SocketApi.Locking.Transfer

/-!
# Levels and waits of the public operations

Every public operation of `SCTPSocket` and `SCTPAssociation` leaves the level as it was,
except where it returns without `unlock`.
-/

namespace SocketApi

open Effect

set_option synthInstance.maxSize 2000

variable {L : Sctplib} {E : Environment L} {α β : Type}

/-! ## Binding and unbinding -/

namespace SCTPSocket

instance {s : SocketPtr} {sendAbort : Bool} {rest : Act L Unit} [Tidy rest] :
    Tidy (unbindConnectionless E s sendAbort rest) := by
  unfold unbindConnectionless
  refine .seq fun o => ?_
  cases o.connectionlessAssociationList <;> dsimp only <;> infer_instance

instance {s : SocketPtr} {sendAbort : Bool} {rest : Act L Unit} [Tidy rest] :
    Tidy (unbindAssociations E s sendAbort rest) := by
  unfold unbindAssociations
  refine .seq fun o => ?_
  cases o.associationList <;> dsimp only <;> infer_instance

instance {s : SocketPtr} {rest : Act L Unit} [Tidy rest] : Tidy (unbindRequests E s rest) := by
  unfold unbindRequests
  refine .seq fun o => ?_
  cases o.connectionRequests <;> infer_instance

instance {s : SocketPtr} : Tidy (unbindInstance s : Act L _) := by
  have : Tidy (throw (.abort .unbindSocketList) : Act L Unit) := tidy_abort nofun
  unfold unbindInstance
  refine .seq fun o => .seq fun w => ?_
  cases w.socketList.find o.instanceName <;> infer_instance

instance {s : SocketPtr} {sendAbort : Bool} : Tidy (unbindLocked E s sendAbort) := by
  have (n : Nat) : Tidy (loop .waiting (unbindConnectionless E s sendAbort) n) := .loop (fun _ _ => inferInstance) n
  have (n : Nat) : Tidy (loop .waiting (unbindAssociations E s sendAbort) n) := .loop (fun _ _ => inferInstance) n
  have (n : Nat) : Tidy (loop .waiting (unbindRequests E s) n) := .loop (fun _ _ => inferInstance) n
  unfold unbindLocked; infer_instance

instance {s : SocketPtr} {sendAbort : Bool} : Tidy (unbind E s sendAbort) := by
  unfold unbind; infer_instance

instance {s : SocketPtr} : Tidy (delete E s) := by
  unfold delete; infer_instance

instance {s : SocketPtr} {noOfIn noOfOut n i : Nat} {addresses : List String} :
    Tidy (registerRandomPort E s noOfIn noOfOut addresses n i) := by
  induction n generalizing i with
  | zero => unfold registerRandomPort; infer_instance
  | succ n ih => unfold registerRandomPort; dsimp only; infer_instance

instance {s : SocketPtr} {port noOfIn noOfOut : Nat} {addresses : List String} :
    Tidy (registerPort E s port noOfIn noOfOut addresses) := by
  unfold registerPort; infer_instance

instance {s : SocketPtr} {port noOfIn noOfOut : Nat} {addresses : List SocketAddress} :
    Tidy (bindLocked E s port noOfIn noOfOut addresses) := by
  unfold bindLocked; dsimp only; infer_instance

instance {s : SocketPtr} {port noOfIn noOfOut : Nat} {addresses : List SocketAddress} :
    Tidy (bind E s port noOfIn noOfOut addresses) := by
  unfold bind; infer_instance

/-! ## Associations -/

instance {s : SocketPtr} {streams attempts timeout : Nat} {addresses : List SocketAddress} :
    Tidy (associateID E s streams attempts timeout addresses) := by
  unfold associateID; infer_instance

instance {s : SocketPtr} {streams attempts timeout : Nat} {addresses : List SocketAddress} :
    Tidy (associateBegin E s streams attempts timeout addresses) := by
  unfold associateBegin; infer_instance

instance {s : SocketPtr} {p : AssocPtr} : Polite (associateWait E s p) := by
  unfold associateWait; infer_instance

instance {association : Option AssocPtr} : Tidy (associateEnd E association) := by
  unfold associateEnd
  cases association <;> infer_instance

instance {s : SocketPtr} {streams attempts timeout : Nat} {addresses : List SocketAddress} {blocking : Bool} :
    Polite (associate E s streams attempts timeout addresses blocking) := by
  unfold associate
  refine .seq fun created => ?_
  cases created <;> infer_instance

instance {s : SocketPtr} {id : AssocID} : Tidy (peelOff E s id) := by
  unfold peelOff
  refine tidy_locked (.seq fun o => ?_)
  cases o.connectionlessAssociationList.find id <;> dsimp only <;> infer_instance

instance {a : SocketAddress} {list : Multimap AssocID AssocPtr} : Tidy (peelOffSearch a list : Act L _) := by
  induction list with
  | nil => unfold peelOffSearch; infer_instance
  | cons e list ih =>
    unfold peelOffSearch
    refine .seq fun o => .seq fun w => ?_
    cases L.getAssocStatus w.stack o.associationID <;> infer_instance

instance {s : SocketPtr} {a : SocketAddress} : Tidy (peelOffAddress E s a) := by
  unfold peelOffAddress
  refine tidy_locked (.seq fun o => .seq fun p => ?_)
  cases p <;> infer_instance

/-! ## `sendTo` -/

instance {a : SCTPAssociation} {status : AssociationStatus} {ds : List SocketAddress} :
    Tidy (matchesPaths a status ds : Act L _) := by
  induction ds with
  | nil => unfold matchesPaths; infer_instance
  | cons d ds ih => unfold matchesPaths; infer_instance

instance {ds : List SocketAddress} {a : SCTPAssociation} : Tidy (matchesAddress ds a : Act L _) := by
  unfold matchesAddress
  refine .seq fun w => ?_
  cases a.preEstablishmentAddressList <;> cases L.getAssocStatus w.stack a.associationID <;> infer_instance

instance {ds : List SocketAddress} {list : Multimap AssocID AssocPtr} :
    Tidy (findAssociationForDestinationAddress ds list : Act L _) := by
  induction list with
  | nil => unfold findAssociationForDestinationAddress; infer_instance
  | cons e list ih => unfold findAssociationForDestinationAddress; infer_instance

instance {s : SocketPtr} {c : SendCall} : Tidy (sendToLookup s c : Act L _) := by
  unfold sendToLookup
  refine .seq fun o => ?_
  cases c.destinationAddressList with
  | none => infer_instance
  | some addresses =>
    have (p : Option AssocPtr) : Tidy (L := L) (match p with
        | some p => return some p
        | none => findAssociationForDestinationAddress addresses o.associationList) := by
      cases p <;> infer_instance
    infer_instance

theorem locks_sendToBegin {s : SocketPtr} {c : SendCall} : Locks 1 (sendToBegin E s c) fun _ => 0 := by
  unfold sendToBegin
  refine .bind (.of_tidy inferInstance) fun association => ?_
  cases association with
  | none => exact .bind .unlock fun _ => .pure _ rfl
  | some p =>
    refine .ite (.bind .unlock fun _ => .pure _ rfl) ?_
    refine .bind (.of_tidy inferInstance) fun _ => .bind (.of_tidy inferInstance) fun _ => .ite ?_ ?_
    · exact .bind (.of_tidy inferInstance) fun _ => .bind (.of_tidy inferInstance) fun _ =>
        .bind .unlock fun _ => .pure _ rfl
    · exact .bind .unlock fun _ => .pure _ rfl

instance {s : SocketPtr} {p : AssocPtr} : Tidy (addConnectionless s p : Act L _) := by
  unfold addConnectionless; infer_instance

instance {s : SocketPtr} {c : SendCall} {association : Option AssocPtr} :
    Polite (sendToConnect E s c association) := by
  unfold sendToConnect
  cases association with
  | some p => infer_instance
  | none =>
    cases c.destinationAddressList with
    | none => infer_instance
    | some addresses =>
      refine .seq fun o => ?_
      split
      · refine .seq fun created => ?_
        cases created <;> infer_instance
      · infer_instance

instance {s : SocketPtr} {p : AssocPtr} : Tidy (sendToDelete E s p) := by
  unfold sendToDelete; infer_instance

instance {s : SocketPtr} {c : SendCall} {p : AssocPtr} : Tidy (sendToClose E s c p) := by
  unfold sendToClose; infer_instance

instance {association : Option AssocPtr} : Tidy (sendToEnd E association) := by
  have : Tidy (throw (.abort .sendUseCount) : Act L PUnit) := tidy_abort nofun
  unfold sendToEnd
  cases association <;> dsimp only <;> infer_instance

instance {s : SocketPtr} {c : SendCall} {p : AssocPtr} : Polite (sendToTransmit E s c p) := by
  unfold sendToTransmit; infer_instance

theorem locks_sendToOne {s : SocketPtr} {c : SendCall} : Locks 1 (sendToOne E s c) fun _ => 0 := by
  unfold sendToOne
  refine .bind locks_sendToBegin fun begun => ?_
  cases begun with
  | error result => exact .pure _ rfl
  | ok found =>
    refine .bind (.of_polite inferInstance) fun association => .of_polite ?_
    cases association <;> infer_instance

instance {c : SendCall} {list : Multimap AssocID AssocPtr} : Polite (sendToAll E c list) := by
  induction list with
  | nil => unfold sendToAll; infer_instance
  | cons e list ih => unfold sendToAll; infer_instance

theorem polite_sendTo {s : SocketPtr} {c : SendCall} (h : c.params.flags.sendToAll = false) :
    Polite (sendTo E s c) := by
  unfold sendTo
  rw [h]
  exact Locks.polite (.bind .lock fun _ => locks_sendToOne)

/-! ## Parameters of a socket -/

instance {s : SocketPtr} : Tidy (getLocalAddresses E s) := by
  unfold getLocalAddresses; dsimp only; infer_instance

instance {id : AssocID} {a : Option SocketAddress} : Tidy (getPathParameters E id a) := by
  unfold getPathParameters; dsimp only; infer_instance

instance {id : AssocID} {a : Option SocketAddress} {path : PathStatus} : Tidy (setPathParameters E id a path) := by
  unfold setPathParameters; infer_instance

instance {id : AssocID} : Tidy (getPrimaryAddress E id) := by
  unfold getPrimaryAddress
  refine tidy_locked (.seq fun w => ?_)
  dsimp only
  split
  · cases L.getPathStatus w.stack id (L.getPrimary w.stack id) <;> infer_instance
  · infer_instance

instance {id : AssocID} {a : SocketAddress} : Tidy (setPrimary E id a) := by
  unfold setPrimary; infer_instance

instance {id : AssocID} {a : SocketAddress} : Tidy (setPeerPrimary E id a) := by
  unfold setPeerPrimary; infer_instance

instance {s : SocketPtr} {f : AssocPtr → Act L Bool} [∀ p, Tidy (f p)] : Tidy (firstAnswer s f) := by
  unfold firstAnswer
  refine .seq fun o => ?_
  cases o.connectionlessAssociationList <;> infer_instance

instance {s : SocketPtr} {f : AssocPtr → Act L Bool} [∀ p, Tidy (f p)] : Tidy (onFirst E s f) := by
  unfold onFirst; infer_instance

instance {s : SocketPtr} : Tidy (changeAddressOf E s) := by
  unfold changeAddressOf; infer_instance

instance {s : SocketPtr} {id : AssocID} {a : SocketAddress} : Tidy (addAddress E s id a) := by
  unfold addAddress; infer_instance

instance {s : SocketPtr} {id : AssocID} {a : SocketAddress} : Tidy (deleteAddress E s id a) := by
  unfold deleteAddress; infer_instance

end SCTPSocket

/-! ## Parameters of an association -/

namespace SCTPAssociation

variable {p : AssocPtr}

instance : Tidy (getLocalAddresses E p) := by
  unfold getLocalAddresses; infer_instance

instance : Tidy (getAssocStatus E p) := by
  unfold getAssocStatus
  refine .seq fun a => .seq fun status => ?_
  cases status <;> infer_instance

instance {status : AssociationStatus} : Tidy (setAssocStatus E p status) := by
  unfold setAssocStatus; infer_instance

instance {timeout start stop : Nat} : Tidy (setDefaultStreamTimeouts E p timeout start stop) := by
  unfold setDefaultStreamTimeouts; infer_instance

instance {a : Option SocketAddress} : Tidy (getPathParameters E p a) := by
  unfold getPathParameters; infer_instance

instance {a : Option SocketAddress} {path : PathStatus} : Tidy (setPathParameters E p a path) := by
  unfold setPathParameters; infer_instance

instance {field : AssociationStatus → Nat} : Tidy (getStatusField E field p) := by
  unfold getStatusField; infer_instance

instance {change : AssociationStatus → AssociationStatus} : Tidy (setStatusField E change p) := by
  unfold setStatusField
  refine tidy_locked (.seq fun a => .seq fun w => ?_)
  cases L.getAssocStatus w.stack a.associationID <;> infer_instance

instance {size : Nat} : Tidy (setSendBuffer E p size) := by unfold setSendBuffer; infer_instance
instance {size : Nat} : Tidy (setReceiveBuffer E p size) := by unfold setReceiveBuffer; infer_instance
instance {class' : Nat} : Tidy (setTrafficClass p class' : Act L _) := by unfold setTrafficClass; infer_instance
instance : Tidy (getPrimaryAddress E p) := by unfold getPrimaryAddress; infer_instance
instance {a : SocketAddress} : Tidy (setPrimary E p a) := by unfold setPrimary; infer_instance
instance {a : SocketAddress} : Tidy (setPeerPrimary E p a) := by unfold setPeerPrimary; infer_instance
instance : Tidy (getAssocIODefaults E p) := by unfold getAssocIODefaults; infer_instance
instance {d : AssocIODefaults} : Tidy (setAssocIODefaults E p d) := by unfold setAssocIODefaults; infer_instance
instance {a : SocketAddress} : Tidy (addAddress E p a) := by unfold addAddress; infer_instance
instance {a : SocketAddress} : Tidy (deleteAddress E p a) := by unfold deleteAddress; infer_instance

end SCTPAssociation

instance {c : ConditionRef} {ready : Bool} : Tidy (updateCondition c ready : Act L _) := by
  unfold updateCondition; infer_instance

instance {p : AssocPtr} {type : UpdateConditionType} :
    Tidy (SCTPAssociation.getUpdateCondition p type : Act L _) := by
  unfold SCTPAssociation.getUpdateCondition
  refine .seq fun a => ?_
  cases type <;> infer_instance

instance {s : SocketPtr} {type : UpdateConditionType} : Tidy (SCTPSocket.getUpdateCondition s type : Act L _) := by
  unfold SCTPSocket.getUpdateCondition
  refine .seq fun o => ?_
  cases type <;> infer_instance

/-! ## Fields and conditions -/

instance {s : SocketPtr} : Tidy (SCTPSocket.getID s : Act L _) := by unfold SCTPSocket.getID; infer_instance
instance {s : SocketPtr} : Tidy (SCTPSocket.getNotificationFlags s : Act L _) := by
  unfold SCTPSocket.getNotificationFlags; infer_instance
instance {s : SocketPtr} {flags : NotificationFlags} : Tidy (SCTPSocket.setNotificationFlags s flags : Act L _) := by
  unfold SCTPSocket.setNotificationFlags; infer_instance
instance {s : SocketPtr} : Tidy (SCTPSocket.getAutoClose s : Act L _) := by
  unfold SCTPSocket.getAutoClose; infer_instance
instance {s : SocketPtr} {timeout : Nat} : Tidy (SCTPSocket.setAutoClose s timeout : Act L _) := by
  unfold SCTPSocket.setAutoClose; infer_instance
instance {s : SocketPtr} : Tidy (SCTPSocket.getDefaultTrafficClass s : Act L _) := by
  unfold SCTPSocket.getDefaultTrafficClass; infer_instance
instance {s : SocketPtr} {size : Nat} : Tidy (SCTPSocket.setSendBuffer E s size) := by
  unfold SCTPSocket.setSendBuffer; infer_instance
instance {s : SocketPtr} {size : Nat} : Tidy (SCTPSocket.setReceiveBuffer E s size) := by
  unfold SCTPSocket.setReceiveBuffer; infer_instance
instance {s : SocketPtr} {class' : Nat} : Tidy (SCTPSocket.setTrafficClass E s class') := by
  unfold SCTPSocket.setTrafficClass; infer_instance
instance {p : AssocPtr} : Tidy (SCTPAssociation.getID p : Act L _) := by unfold SCTPAssociation.getID; infer_instance
instance {p : AssocPtr} : Tidy (SCTPAssociation.getNotificationFlags p : Act L _) := by
  unfold SCTPAssociation.getNotificationFlags; infer_instance
instance {p : AssocPtr} {flags : NotificationFlags} :
    Tidy (SCTPAssociation.setNotificationFlags p flags : Act L _) := by
  unfold SCTPAssociation.setNotificationFlags; infer_instance
instance {p : AssocPtr} : Tidy (SCTPAssociation.getSendBuffer E p) := by
  unfold SCTPAssociation.getSendBuffer; infer_instance
instance {p : AssocPtr} : Tidy (SCTPAssociation.getReceiveBuffer E p) := by
  unfold SCTPAssociation.getReceiveBuffer; infer_instance
instance {p : AssocPtr} : Tidy (SCTPAssociation.getTrafficClass E p) := by
  unfold SCTPAssociation.getTrafficClass; infer_instance

end SocketApi
