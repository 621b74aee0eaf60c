import SocketApi.Frame.Basic

/-!
# Locked sections that leave the core alone

For a `Guarded` relation a locked section is as good as its body. Lookups and the parameters
of sockets and associations are no part of the core of the state.
-/

namespace SocketApi

open Effect

set_option synthInstance.maxSize 2000

variable {L : Sctplib} {E : Environment L} {α β : Type}

class Guarded (E : Environment L) (S : World L → World L → Prop) (T : Halt → World L → World L → Prop) : Prop where
  locked : ∀ {α : Type} {body : Act L α}, Keeps S T body → Keeps S T (locked E body)

variable {S : World L → World L → Prop} {T : Halt → World L → World L → Prop} [Quiet S T] [Guarded E S T]

instance {body : Act L α} [h : Keeps S T body] : Keeps S T (locked E body) := Guarded.locked h

/-! ## Lookup -/

instance {s : SocketPtr} {id : AssocID} {b : Bool} :
    Keeps S T (SCTPSocket.getAssociationForAssociationID E s id b) := by
  unfold SCTPSocket.getAssociationForAssociationID
  refine Guarded.locked (.seq fun o => ?_)
  cases o.associationList.find id <;> infer_instance

instance {s : SocketPtr} : Keeps S T (SCTPSocket.hasData E s) := by unfold SCTPSocket.hasData; infer_instance
instance {p : AssocPtr} : Keeps S T (SCTPAssociation.hasData E p) := by
  unfold SCTPAssociation.hasData; infer_instance

instance {s : SocketPtr} {id : AssocID} : Keeps S T (SCTPSocket.getErrorCode E s id) := by
  unfold SCTPSocket.getErrorCode
  refine .seq fun association => ?_
  cases association <;> infer_instance

instance {s : SocketPtr} {id : AssocID} : Keeps S T (SCTPSocket.findAssociation E s id) := by
  unfold SCTPSocket.findAssociation
  refine .seq fun association => ?_
  cases association <;> infer_instance

/-! ## Parameters of a socket -/

namespace SCTPSocket

instance {s : SocketPtr} : Keeps S T (getAssocDefaults E s) := by unfold getAssocDefaults; infer_instance
instance {s : SocketPtr} {d : InstanceParameters} : Keeps S T (setAssocDefaults E s d) := by
  unfold setAssocDefaults; infer_instance
instance {id : AssocID} : Keeps S T (getAssocStatus E id) := by unfold getAssocStatus; infer_instance
instance {id : AssocID} {status : AssociationStatus} : Keeps S T (setAssocStatus E id status) := by
  unfold setAssocStatus; infer_instance
instance {s : SocketPtr} : Keeps S T (getLocalAddresses E s) := by
  unfold getLocalAddresses; dsimp only; infer_instance
instance {id : AssocID} {a : Option SocketAddress} : Keeps S T (getPathParameters E id a) := by
  unfold getPathParameters; dsimp only; infer_instance
instance {id : AssocID} {a : Option SocketAddress} {path : PathStatus} :
    Keeps S T (setPathParameters E id a path) := by
  unfold setPathParameters; infer_instance

instance {id : AssocID} : Keeps S T (getPrimaryAddress E id) := by
  unfold getPrimaryAddress
  refine Guarded.locked (.seq fun w => ?_)
  dsimp only
  split
  · cases L.getPathStatus w.stack id (L.getPrimary w.stack id) <;> infer_instance
  · infer_instance

instance {id : AssocID} {a : SocketAddress} : Keeps S T (setPrimary E id a) := by unfold setPrimary; infer_instance
instance {id : AssocID} {a : SocketAddress} : Keeps S T (setPeerPrimary E id a) := by
  unfold setPeerPrimary; infer_instance
instance {s : SocketPtr} {f : AssocPtr → Act L Bool} [∀ p, Keeps S T (f p)] : Keeps S T (onFirst E s f) := by
  unfold onFirst; infer_instance
instance {s : SocketPtr} : Keeps S T (changeAddressOf E s) := by unfold changeAddressOf; infer_instance
instance {s : SocketPtr} {id : AssocID} {a : SocketAddress} : Keeps S T (addAddress E s id a) := by
  unfold addAddress; infer_instance
instance {s : SocketPtr} {id : AssocID} {a : SocketAddress} : Keeps S T (deleteAddress E s id a) := by
  unfold deleteAddress; infer_instance
instance {s : SocketPtr} {backlog : Nat} : Keeps S T (listen E s backlog) := by unfold listen; infer_instance

end SCTPSocket

/-! ## Parameters of an association -/

namespace SCTPAssociation

variable {p : AssocPtr}

instance {id : StreamID} : Keeps S T (getDefaultStreamTimeout E p id) := by
  unfold getDefaultStreamTimeout
  refine Guarded.locked (.seq fun a => ?_)
  cases a.streamDefaultTimeoutArray[id]? <;> infer_instance

instance : Keeps S T (getLocalAddresses E p) := by unfold getLocalAddresses; infer_instance

instance : Keeps S T (getAssocStatus E p) := by
  unfold getAssocStatus
  refine .seq fun a => .seq fun status => ?_
  cases status <;> infer_instance

instance {status : AssociationStatus} : Keeps S T (setAssocStatus E p status) := by
  unfold setAssocStatus; infer_instance
instance {timeout start stop : Nat} : Keeps S T (setDefaultStreamTimeouts E p timeout start stop) := by
  unfold setDefaultStreamTimeouts; infer_instance
instance {a : Option SocketAddress} : Keeps S T (getPathParameters E p a) := by
  unfold getPathParameters; infer_instance
instance {a : Option SocketAddress} {path : PathStatus} : Keeps S T (setPathParameters E p a path) := by
  unfold setPathParameters; infer_instance
instance {field : AssociationStatus → Nat} : Keeps S T (getStatusField E field p) := by
  unfold getStatusField; infer_instance

instance {change : AssociationStatus → AssociationStatus} : Keeps S T (setStatusField E change p) := by
  unfold setStatusField
  refine Guarded.locked (.seq fun a => .seq fun w => ?_)
  cases L.getAssocStatus w.stack a.associationID <;> infer_instance

instance : Keeps S T (getSendBuffer E p) := by unfold getSendBuffer; infer_instance
instance : Keeps S T (getReceiveBuffer E p) := by unfold getReceiveBuffer; infer_instance
instance : Keeps S T (getTrafficClass E p) := by unfold getTrafficClass; infer_instance
instance {size : Nat} : Keeps S T (setSendBuffer E p size) := by unfold setSendBuffer; infer_instance
instance {size : Nat} : Keeps S T (setReceiveBuffer E p size) := by unfold setReceiveBuffer; infer_instance
instance : Keeps S T (getPrimaryAddress E p) := by unfold getPrimaryAddress; infer_instance
instance {a : SocketAddress} : Keeps S T (setPrimary E p a) := by unfold setPrimary; infer_instance
instance {a : SocketAddress} : Keeps S T (setPeerPrimary E p a) := by unfold setPeerPrimary; infer_instance
instance : Keeps S T (getAssocIODefaults E p) := by unfold getAssocIODefaults; infer_instance
instance {d : AssocIODefaults} : Keeps S T (setAssocIODefaults E p d) := by
  unfold setAssocIODefaults; infer_instance
instance {a : SocketAddress} : Keeps S T (addAddress E p a) := by unfold addAddress; infer_instance
instance {a : SocketAddress} : Keeps S T (deleteAddress E p a) := by unfold deleteAddress; infer_instance

end SCTPAssociation

instance {s : SocketPtr} {size : Nat} : Keeps S T (SCTPSocket.setSendBuffer E s size) := by
  unfold SCTPSocket.setSendBuffer; infer_instance
instance {s : SocketPtr} {size : Nat} : Keeps S T (SCTPSocket.setReceiveBuffer E s size) := by
  unfold SCTPSocket.setReceiveBuffer; infer_instance
instance {s : SocketPtr} {class' : Nat} : Keeps S T (SCTPSocket.setTrafficClass E s class') := by
  unfold SCTPSocket.setTrafficClass; infer_instance

instance {p : AssocPtr} {id : AssocID} : Keeps S T (SCTPSocketMaster.restoreRTOMax E p id) := by
  unfold SCTPSocketMaster.restoreRTOMax
  refine .seq fun a => ?_
  split
  · refine .seq fun status => ?_
    cases status <;> infer_instance
  · infer_instance

end SocketApi
