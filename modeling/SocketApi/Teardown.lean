import SocketApi.Dispatch

/-!
# Creating, closing and collecting associations

The constructor and destructor of `SCTPAssociation`, active close, the auto-close sweep of
a socket and the two garbage collections of the master. `deliver` is the way from the
protocol library back into the API while `sctp_shutdown` or `sctp_abort` is running.
-/

namespace SocketApi

open Effect

variable {L : Sctplib} (E : Environment L)

/-- Delivers a terminal notification for an association. -/
abbrev Deliver (L : Sctplib) := TerminalNotif → AssocID → Act L Unit

variable (deliver : Deliver L)

/-! ## The protocol library's close calls -/

def sctp_shutdown (assocID : AssocID) : Act L Unit := do
  match ← library (L.shutdown · assocID) with
  | some notif => deliver notif assocID
  | none => return

def sctp_abort (assocID : AssocID) : Act L Unit := do
  match ← library (L.abort · assocID) with
  | some notif => deliver notif assocID
  | none => return

/-! ## Deferred deletion lists -/

namespace SCTPSocketMaster

/-- Instance IDs pass through an `unsigned short` parameter. -/
def delayedDeleteAssociation (instanceID : InstanceID) (assocID : AssocID) : Act L Unit :=
  update fun w => { w with closingAssociations := w.closingAssociations.insert assocID (instanceID % 65536) }

def delayedDeleteSocket (instanceID : InstanceID) : Act L Unit :=
  update fun w => { w with closingSockets :=
    if instanceID % 65536 ∈ w.closingSockets then w.closingSockets
    else w.closingSockets.orderedInsert (· ≤ ·) (instanceID % 65536) }

end SCTPSocketMaster

/-! ## Associations -/

namespace SCTPAssociation

/-- The parent links the constructor sets up. -/
def initialParents (p : AssocPtr) (udpLike : Bool) : AssocCondition → List ConditionRef
  | .inQueue => [.assoc p .readUpdate]
  | .shutdownComplete => if udpLike then [] else [.assoc p .exceptUpdate]
  | .establish | .readyForTransmit => if udpLike then [] else [.assoc p .writeUpdate]
  | _ => []

/-- `new SCTPAssociation(socket, associationID, notificationFlags, udpLike)`. -/
def new (s : SocketPtr) (associationID : AssocID) (notificationFlags : NotificationFlags) (udpLike : Bool) :
    Act L AssocPtr := do
  let w ← shared
  let p := w.nextAssociation
  let a : SCTPAssociation := { socket := s, associationID, notificationFlags, lastUsage := w.now }
  update fun w => { w with
    nextAssociation := p + 1
    associations := Function.update w.associations p (some a)
    conditions := fun c => match c with
      | .assoc q k => if q = p then { parents := initialParents p udpLike k } else w.conditions c
      | _ => w.conditions c }
  locked E (setSocket s fun o => { o with associationList := o.associationList.insert associationID p })
  return p

def shutdown (p : AssocPtr) : Act L Unit := locked E do
  let a ← associationAt p
  if !a.isShuttingDown then
    setAssociation p fun a => { a with isShuttingDown := true }
    sctp_shutdown deliver a.associationID

def abort (p : AssocPtr) : Act L Unit := locked E do
  let a ← associationAt p
  setAssociation p fun a => { a with isShuttingDown := true }
  sctp_abort deliver a.associationID

/-- "Do shutdown" of the destructor. -/
def destructorShutdown (p : AssocPtr) (a : SCTPAssociation) : Act L Unit := do
  if !a.shutdownCompleteNotification then
    SCTPSocketMaster.delayedDeleteAssociation (← socketAt a.socket).instanceName a.associationID
    shutdown E deliver p
  else
    if !(← library (L.deleteAssociation · a.associationID)) then
      throw (.abort .destructorDeleteAssociation)

/-- "Remove association from list". -/
def destructorUnlist (a : SCTPAssociation) : Act L Unit := do
  match (← socketAt a.socket).associationList.find a.associationID with
  | some _ => setSocket a.socket fun o => { o with associationList := o.associationList.eraseKey a.associationID }
  | none => throw (.abort .destructorAssociationList)

/-- `~SCTPAssociation`. -/
def destructor (p : AssocPtr) : Act L Unit := locked E do
  let a ← associationAt p
  if a.associationID = 0 then throw (.abort .destructorCalledTwice)
  destructorShutdown E deliver p a
  destructorUnlist a
  setAssociation p fun a => { a with associationID := 0 }

/-- `delete association`. -/
def delete (p : AssocPtr) : Act L Unit := do
  destructor E deliver p
  update fun w => { w with associations := Function.update w.associations p none }

end SCTPAssociation

/-! ## The auto-close sweep -/

/-- Subtraction and multiplication of `card64`. -/
def sub64 (a b : Nat) : Nat := (a + (2 ^ 64 - b % 2 ^ 64)) % 2 ^ 64
def mul64 (a b : Nat) : Nat := a * b % 2 ^ 64

namespace SCTPSocket

/-- "Remove association" of the sweep. -/
def reclaim (s : SocketPtr) (p : AssocPtr) : Act L Unit := do
  setSocket s fun o => { o with connectionlessAssociationList := o.connectionlessAssociationList.eraseValue p }
  SCTPAssociation.delete E deliver p

/-- The inner loop of `checkAutoClose`: `iterator` is the association it points to, or the
end. An iterator whose entry is gone must not be used. -/
def autoCloseSweep (s : SocketPtr) (now : Nat) : Nat → Option AssocPtr → Act L Unit
  | _, none => return
  | 0, some _ => throw .waiting
  | n + 1, some p => do
    let o ← socketAt s
    if p ∉ o.connectionlessAssociationList.values then throw .undefinedBehaviour
    let next := o.connectionlessAssociationList.next p
    let a ← associationAt p
    if a.useCount = 0 then
      if a.shutdownCompleteNotification || a.communicationLostNotification then
        reclaim E deliver s p
      else if 0 < o.autoCloseTimeout ∧ mul64 4 o.autoCloseTimeout < sub64 now a.lastUsage then
        SCTPAssociation.abort E deliver p
      else if 0 < o.autoCloseTimeout ∧ o.autoCloseTimeout < sub64 now a.lastUsage ∧ !a.isShuttingDown then
        SCTPAssociation.shutdown E deliver p
    autoCloseSweep s now n next

/-- One pass of the outer loop of `checkAutoClose`. -/
def autoClosePass (s : SocketPtr) (rest : Act L Unit) : Act L Unit := do
  setSocket s fun o => { o with autoCloseNewCheckRequired := false }
  let now := (← shared).now
  let list := (← socketAt s).connectionlessAssociationList
  autoCloseSweep E deliver s now list.length list.values.head?
  if (← socketAt s).autoCloseNewCheckRequired then
    rest

def checkAutoClose (s : SocketPtr) : Act L Unit := do
  if (← socketAt s).autoCloseRecursion then
    setSocket s fun o => { o with autoCloseNewCheckRequired := true }
    return
  setSocket s fun o => { o with autoCloseRecursion := true }
  loop .waiting (autoClosePass E deliver s) E.patience
  setSocket s fun o => { o with autoCloseRecursion := false }

end SCTPSocket

/-! ## Garbage collection -/

namespace SCTPSocketMaster

def checkAutoCloseAll : List SocketPtr → Act L Unit
  | [] => return
  | s :: rest => do
    SCTPSocket.checkAutoClose E deliver s
    checkAutoCloseAll rest

def unregisterUnused : List InstanceID → Act L Unit
  | [] => return
  | instanceID :: rest => do
    if !((← shared).closingAssociations.any fun e => e.2 == instanceID) then
      update fun w => { w with closingSockets := w.closingSockets.erase instanceID }
      if !(← library (L.unregisterInstance · instanceID)) then
        throw (.abort .unregisterInstance)
    unregisterUnused rest

def socketGarbageCollection : Act L Unit := locked E do
  checkAutoCloseAll E deliver (← shared).socketList.values
  unregisterUnused (← shared).closingSockets

def associationGarbageCollection (assocID : AssocID) (sendAbort : Bool) : Act L Bool := do
  match (← shared).closingAssociations.find assocID with
  | some _ =>
    if sendAbort then sctp_abort deliver assocID
    if !(← library (L.deleteAssociation · assocID)) then
      throw (.abort .garbageDeleteAssociation)
    update fun w => { w with closingAssociations := w.closingAssociations.eraseKey assocID }
    socketGarbageCollection E deliver
    return true
  | none => return false

end SCTPSocketMaster

end SocketApi
