import SocketApi.World

/-!
# Lookup and queueing of notifications

How a callback finds the socket and the association it is about, which of them are told,
and into which of the two queues a notification goes.
-/

namespace SocketApi

open Effect

variable {L : Sctplib} (E : Environment L)

def SCTP_MAX_NUM_ADDRESSES : Nat := 20

/-- `createSocketAddress` for a numeric text. -/
def createSocketAddress (host : String) (port : Nat) : Option SocketAddress :=
  if E.resolves host then some { host, port } else none

/-! ## Lookup -/

def SCTPSocket.getAssociationForAssociationID (s : SocketPtr) (assocID : AssocID) (activeOnly : Bool := true) :
    Act L (Option AssocPtr) := locked E do
  let o ← socketAt s
  match o.associationList.find assocID with
  | some p =>
    let a ← associationAt p
    return (if a.isShuttingDown && activeOnly then none else some p)
  | none => return none

def SCTPSocketMaster.getSocketForAssociationID (assocID : AssocID) : Act L (Option SocketPtr) := do
  let w ← shared
  match L.getInstanceID w.stack assocID with
  | some instanceID => return (if instanceID ≠ 0 then w.socketList.find instanceID else none)
  | none => return none

def SCTPSocket.hasData (s : SocketPtr) : Act L Bool := locked E do
  let o ← socketAt s
  return o.flags.globalQueue && o.globalQueue.hasData o.notificationFlags

def SCTPAssociation.hasData (p : AssocPtr) : Act L Bool := locked E do
  let a ← associationAt p
  return a.inQueue.hasData a.notificationFlags

def SCTPSocket.getErrorCode (s : SocketPtr) (assocID : AssocID) : Act L Int := do
  match ← getAssociationForAssociationID E s assocID false with
  | none => return 0
  | some p =>
    let a ← associationAt p
    if a.shutdownCompleteNotification then
      setAssociation p fun a => { a with hasException := true }
      return -ECONNRESET
    else if a.communicationLostNotification then
      setAssociation p fun a => { a with hasException := true }
      return -ECONNABORTED
    else
      return 0

/-! ## Parameters -/

namespace SCTPSocket

def getAssocDefaults (s : SocketPtr) : Act L (Option InstanceParameters) := locked E do
  return L.getAssocDefaults (← shared).stack (← socketAt s).instanceName

def setAssocDefaults (s : SocketPtr) (assocDefaults : InstanceParameters) : Act L Bool := locked E do
  let instanceName := (← socketAt s).instanceName
  library (L.setAssocDefaults · instanceName assocDefaults)

def getAssocStatus (assocID : AssocID) : Act L (Option AssociationStatus) := locked E do
  return L.getAssocStatus (← shared).stack assocID

def setAssocStatus (assocID : AssocID) (associationParameters : AssociationStatus) : Act L Bool :=
  locked E (library (L.setAssocStatus · assocID associationParameters))

end SCTPSocket

/-! ## Building notifications -/

namespace SCTPSocketMaster

/-- `initNotification(notification, assocID, streamID)`: a path whose status cannot be read
leaves its address unset. -/
def initNotification (assocID : AssocID) : Act L SCTPNotification := do
  let stack := (← shared).stack
  match L.getAssocStatus stack assocID with
  | some status =>
    let paths := status.destinationPathIDs.take (min SCTP_MAX_NUM_ADDRESSES status.numberOfDestinationPaths)
    return { remotePort := status.destPort
             remoteAddress := paths.map fun i => ((L.getPathStatus stack assocID i).getD {}).destinationAddress }
  | none => return {}

/-! ## Queueing -/

def addNotification (s : SocketPtr) (assocID : AssocID) (notification : SCTPNotification) : Act L Unit := do
  match ← SCTPSocket.getAssociationForAssociationID E s assocID false with
  | none => return
  | some p =>
    let a ← associationAt p
    let o ← socketAt s
    let type := notification.content.snType
    if type == .dataArrive || a.notificationFlags.selects type then
      setAssociation p fun a => { a with useCount := a.useCount + 1 }
      if o.flags.globalQueue && !a.peeledOff then
        setSocket s fun o => { o with globalQueue := o.globalQueue.addNotification notification }
        broadcast (.socket s .globalQueue)
        let data ← SCTPSocket.hasData E s
        setSocket s fun o => { o with readReady := data || !o.connectionRequests.isEmpty }
      else
        setAssociation p fun a => { a with inQueue := a.inQueue.addNotification notification }
        broadcast (.assoc p .inQueue)
        let data ← SCTPAssociation.hasData E p
        setAssociation p fun a => { a with readReady := data }
    else if !(o.flags.globalQueue && !a.peeledOff) then
      broadcast (.assoc p .inQueue)

end SCTPSocketMaster

end SocketApi
