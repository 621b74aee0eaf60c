import SocketApi.SendTo

/-!
# Parameters of sockets and associations

The remaining public operations of `SCTPSocket` and `SCTPAssociation`: addresses, paths,
buffers, defaults and the conditions to wait on. An operation of a socket that takes an
association ID and works on the list of connectionless associations uses its first entry.
-/

namespace SocketApi

open Effect

variable {L : Sctplib} (E : Environment L)

inductive UpdateConditionType where
  | read | write | except
  deriving DecidableEq, Repr

/-- `ssize_t` results that are -1 without a status. -/
def sizeOrError (status : Option Nat) : Int :=
  match status with
  | some n => n
  | none => -1

namespace SCTPSocket

/-! ## Addresses of a socket -/

/-- `createSocketAddress` for every text of an array, or nothing if one fails. -/
def createAddressArray (port : Nat) : List String → Option (List SocketAddress)
  | [] => some []
  | host :: hosts =>
    match createSocketAddress E host port, createAddressArray port hosts with
    | some a, some array => some (a :: array)
    | _, _ => none

/-- `getLocalAddresses`, whose result is `false` even if it leaves an array. -/
def getLocalAddresses (s : SocketPtr) : Act L (Bool × Option (List SocketAddress)) := locked E do
  let parameters ← getAssocDefaults E s
  let localPort := (← socketAt s).localPort
  let array := match parameters with
    | some parameters =>
      if E.allocates .addressList then createAddressArray E localPort parameters.localAddressList else none
    | none => none
  return (false, array)

/-! ## Paths -/

def getPathParameters (assocID : AssocID) (address : Option SocketAddress) : Act L (Option PathStatus) := locked E do
  let pathIndex ← getPathIndexForAddress assocID address
  let stack := (← shared).stack
  return (if 0 ≤ pathIndex then some ((L.getPathStatus stack assocID pathIndex).getD {}) else none)

def setPathParameters (assocID : AssocID) (address : Option SocketAddress) (pathParameters : PathStatus) :
    Act L Bool := locked E do
  let pathIndex ← getPathIndexForAddress assocID address
  if 0 ≤ pathIndex then
    if pathParameters.heartbeatIntervall = 2 ^ 32 - 1 then library (L.requestHeartbeat · assocID pathIndex)
    else library (L.changeHeartBeat · assocID pathIndex pathParameters.heartbeatIntervall)
  else return false

def getPrimaryAddress (assocID : AssocID) : Act L (Option SocketAddress) := locked E do
  let stack := (← shared).stack
  let index := L.getPrimary stack assocID
  if 0 ≤ index then
    match L.getPathStatus stack assocID index with
    | some path => return createSocketAddress E path.destinationAddress 0
    | none => return none
  else return none

def setPrimary (assocID : AssocID) (primary : SocketAddress) : Act L Bool := locked E do
  let index ← getPathIndexForAddress assocID (some primary)
  if 0 ≤ index then library (L.setPrimary · assocID index) else return false

def setPeerPrimary (assocID : AssocID) (primary : SocketAddress) : Act L Bool :=
  locked E (library (L.setRemotePrimary · assocID primary.addressString))

end SCTPSocket

/-! ## Operations of an association -/

namespace SCTPAssociation

def getLocalAddresses (p : AssocPtr) : Act L (Bool × Option (List SocketAddress)) := do
  SCTPSocket.getLocalAddresses E (← associationAt p).socket

/-- The array of `getRemoteAddresses` and its result. -/
def remoteAddressArray (stack : L.State) (assocID : AssocID) (port : Nat) :
    List Int → Option (List SocketAddress)
  | [] => some []
  | index :: indices =>
    match L.getPathStatus stack assocID index with
    | some path =>
      match createSocketAddress E path.destinationAddress port,
          remoteAddressArray stack assocID port indices with
      | some a, some array => some (a :: array)
      | _, _ => none
    | none => none

/-- `getRemoteAddresses`. Out of memory it returns without `unlock`. -/
def getRemoteAddresses (p : AssocPtr) : Act L (Bool × Option (List SocketAddress)) := do
  lock
  let assocID := (← associationAt p).associationID
  let stack := (← shared).stack
  match L.getAssocStatus stack assocID with
  | some status =>
    if !E.allocates .addressList then
      return (false, none)
    let array := remoteAddressArray E stack assocID status.destPort
      (status.destinationPathIDs.take status.numberOfDestinationPaths)
    unlock E
    return (array.isSome, array)
  | none =>
    unlock E
    return (true, none)

def getAssocStatus (p : AssocPtr) : Act L (Option AssociationStatus) := do
  match ← SCTPSocket.getAssocStatus E (← associationAt p).associationID with
  | some status =>
    let a ← associationAt p
    return some (if a.rtoMaxIsInitTimeout then { status with rtoMax := a.rtoMax } else status)
  | none => return none

def setAssocStatus (p : AssocPtr) (assocStatus : AssociationStatus) : Act L Bool := do
  let a ← associationAt p
  if a.rtoMaxIsInitTimeout then
    setAssociation p fun a => { a with rtoMax := assocStatus.rtoMax }
    SCTPSocket.setAssocStatus E a.associationID { assocStatus with rtoMax := a.initTimeout }
  else
    SCTPSocket.setAssocStatus E a.associationID assocStatus

/-- The new `StreamDefaultTimeoutArray`. -/
def streamTimeouts (array : List StreamDefaultTimeout) (timeout start stop : Nat) : List StreamDefaultTimeout :=
  (List.range (max array.length (stop + 1))).map fun i =>
    if start ≤ i ∧ i ≤ stop then { valid := true, timeout }
    else array[i]?.getD { valid := false, timeout := 0 }

def setDefaultStreamTimeouts (p : AssocPtr) (timeout start stop : Nat) : Act L Bool := do
  if stop < start then
    return false
  locked E do
    if (← associationAt p).streamDefaultTimeoutArray.length < stop + 1 ∧ !E.allocates .timeoutArray then
      return false
    setAssociation p fun a => { a with
      streamDefaultTimeoutArray := streamTimeouts a.streamDefaultTimeoutArray timeout start stop }
    return true

def getPathParameters (p : AssocPtr) (address : Option SocketAddress) : Act L (Option PathStatus) := do
  SCTPSocket.getPathParameters E (← associationAt p).associationID address

def setPathParameters (p : AssocPtr) (address : Option SocketAddress) (pathParameters : PathStatus) :
    Act L Bool := do
  SCTPSocket.setPathParameters E (← associationAt p).associationID address pathParameters

/-- The getters of a number in the association's status. -/
def getStatusField (field : AssociationStatus → Nat) (p : AssocPtr) : Act L Int := locked E do
  let assocID := (← associationAt p).associationID
  return sizeOrError ((L.getAssocStatus (← shared).stack assocID).map field)

def getSendBuffer (p : AssocPtr) : Act L Int := getStatusField E (·.maxSendQueue) p
def getReceiveBuffer (p : AssocPtr) : Act L Int := getStatusField E (·.maxRecvQueue) p
def getTrafficClass (p : AssocPtr) : Act L Int := getStatusField E (·.ipTos) p

/-- The setters of a number in the association's status. -/
def setStatusField (change : AssociationStatus → AssociationStatus) (p : AssocPtr) : Act L Bool := locked E do
  let assocID := (← associationAt p).associationID
  match L.getAssocStatus (← shared).stack assocID with
  | some status => library (L.setAssocStatus · assocID (change status))
  | none => return false

def setSendBuffer (p : AssocPtr) (size : Nat) : Act L Bool :=
  setStatusField E (fun status => { status with maxSendQueue := size }) p

def setReceiveBuffer (p : AssocPtr) (size : Nat) : Act L Bool :=
  setStatusField E (fun status => { status with maxRecvQueue := size }) p

def setTrafficClass (_p : AssocPtr) (_trafficClass : Nat) : Act L Bool := return true

def getPrimaryAddress (p : AssocPtr) : Act L (Option SocketAddress) := do
  SCTPSocket.getPrimaryAddress E (← associationAt p).associationID

def setPrimary (p : AssocPtr) (primary : SocketAddress) : Act L Bool := do
  SCTPSocket.setPrimary E (← associationAt p).associationID primary

def setPeerPrimary (p : AssocPtr) (primary : SocketAddress) : Act L Bool := do
  SCTPSocket.setPeerPrimary E (← associationAt p).associationID primary

def getAssocIODefaults (p : AssocPtr) : Act L AssocIODefaults := locked E do
  return (← associationAt p).defaults

def setAssocIODefaults (p : AssocPtr) (defaults : AssocIODefaults) : Act L Unit :=
  locked E (setAssociation p fun a => { a with defaults })

def getNotificationFlags (p : AssocPtr) : Act L NotificationFlags := do
  return (← associationAt p).notificationFlags

def setNotificationFlags (p : AssocPtr) (notificationFlags : NotificationFlags) : Act L Unit :=
  setAssociation p fun a => { a with notificationFlags }

end SCTPAssociation

/-! ## Update conditions -/

/-- `getUpdateCondition`: a condition is brought in line with the flag that belongs to it. -/
def updateCondition (c : ConditionRef) (ready : Bool) : Act L ConditionRef := do
  if ready then broadcast c else discard (fired c)
  return c

def SCTPAssociation.getUpdateCondition (p : AssocPtr) (type : UpdateConditionType) : Act L ConditionRef := do
  let a ← associationAt p
  match type with
  | .read => updateCondition (.assoc p .readUpdate) a.readReady
  | .write => updateCondition (.assoc p .writeUpdate) a.writeReady
  | .except => updateCondition (.assoc p .exceptUpdate) a.hasException

def SCTPSocket.getUpdateCondition (s : SocketPtr) (type : UpdateConditionType) : Act L ConditionRef := do
  let o ← socketAt s
  match type with
  | .read => updateCondition (.socket s .readUpdate) o.readReady
  | .write => updateCondition (.socket s .writeUpdate) o.writeReady
  | .except => updateCondition (.socket s .exceptUpdate) o.hasException

/-! ## Operations of a socket on its first connectionless association -/

namespace SCTPSocket

/-- The operations that end without `unlock`: `none` if the list is empty. -/
def onFirstLocked {α : Type} (s : SocketPtr) (f : AssocPtr → Act L α) : Act L (Option α) := do
  lock
  match (← socketAt s).connectionlessAssociationList with
  | (_, p) :: _ =>
    discard (associationAt p)
    return some (← f p)
  | [] => return none

def getAssocIODefaults (s : SocketPtr) (_assocID : AssocID) : Act L (Option AssocIODefaults) :=
  onFirstLocked s (SCTPAssociation.getAssocIODefaults E)

def setAssocIODefaults (s : SocketPtr) (_assocID : AssocID) (defaults : AssocIODefaults) : Act L Bool := do
  return (← onFirstLocked s (SCTPAssociation.setAssocIODefaults E · defaults)).isSome

def setDefaultStreamTimeouts (s : SocketPtr) (_assocID : AssocID) (timeout start stop : Nat) : Act L Bool := do
  return (← onFirstLocked s (SCTPAssociation.setDefaultStreamTimeouts E · timeout start stop)).isSome

/-- The timeout is set only if the stream has one. -/
def getDefaultStreamTimeout (s : SocketPtr) (_assocID : AssocID) (streamID : StreamID) :
    Act L (Bool × Option Nat) := do
  let timeout ← onFirstLocked s (SCTPAssociation.getDefaultStreamTimeout E · streamID)
  return (timeout.isSome, timeout.join)

/-- The operations that answer `true` for an empty list. -/
def firstAnswer (s : SocketPtr) (f : AssocPtr → Act L Bool) : Act L Bool := do
  match (← socketAt s).connectionlessAssociationList with
  | (_, p) :: _ => f p
  | [] => return true

def onFirst (s : SocketPtr) (f : AssocPtr → Act L Bool) : Act L Bool := locked E (firstAnswer s f)

def setSendBuffer (s : SocketPtr) (size : Nat) : Act L Bool :=
  onFirst E s (SCTPAssociation.setSendBuffer E · size)

def setReceiveBuffer (s : SocketPtr) (size : Nat) : Act L Bool :=
  onFirst E s (SCTPAssociation.setReceiveBuffer E · size)

def setTrafficClass (s : SocketPtr) (trafficClass : Nat) : Act L Bool := locked E do
  setSocket s fun o => { o with defaultTrafficClass := trafficClass }
  firstAnswer s (SCTPAssociation.setTrafficClass · trafficClass)

/-- `addAddress` and `deleteAddress` for an association: not implemented in this version of
the protocol library. -/
def changeAddressOf (s : SocketPtr) : Act L Bool := locked E do
  setSocket s fun o => { o with correlationID := o.correlationID + 1 }
  return false

/-- `addAddress`. For the first connectionless association it calls itself with that
association's ID, which is 0 only for a destroyed object. -/
def addAddress (s : SocketPtr) (assocID : AssocID) (_address : SocketAddress) : Act L Bool :=
  if assocID = 0 then
    onFirst E s fun p => do
      let a ← associationAt p
      if a.associationID = 0 then throw .undefinedBehaviour
      changeAddressOf E a.socket
  else changeAddressOf E s

def deleteAddress (s : SocketPtr) (assocID : AssocID) (address : SocketAddress) : Act L Bool :=
  addAddress E s assocID address

/-- The association of an ID in either list. -/
def findAssociation (s : SocketPtr) (assocID : AssocID) : Act L (Option AssocPtr) := do
  match ← getAssociationForAssociationID E s assocID false with
  | some p => return some p
  | none => return (← socketAt s).connectionlessAssociationList.find assocID

def getRemoteAddresses (s : SocketPtr) (assocID : AssocID) : Act L (Bool × Option (List SocketAddress)) :=
  locked E do
    match ← findAssociation E s assocID with
    | some p => SCTPAssociation.getRemoteAddresses E p
    | none => return (false, none)

/-! ## Fields of a socket -/

def getID (s : SocketPtr) : Act L InstanceID := return (← socketAt s).instanceName

def getNotificationFlags (s : SocketPtr) : Act L NotificationFlags := return (← socketAt s).notificationFlags

def setNotificationFlags (s : SocketPtr) (notificationFlags : NotificationFlags) : Act L Unit :=
  setSocket s fun o => { o with notificationFlags }

def getAutoClose (s : SocketPtr) : Act L Nat := return (← socketAt s).autoCloseTimeout

def setAutoClose (s : SocketPtr) (timeout : Nat) : Act L Unit :=
  setSocket s fun o => { o with autoCloseTimeout := timeout }

def getDefaultTrafficClass (s : SocketPtr) : Act L Nat := return (← socketAt s).defaultTrafficClass

end SCTPSocket

/-! ## Addresses of an association -/

namespace SCTPAssociation

def getID (p : AssocPtr) : Act L AssocID := return (← associationAt p).associationID

def addAddress (p : AssocPtr) (address : SocketAddress) : Act L Bool := do
  let a ← associationAt p
  SCTPSocket.addAddress E a.socket a.associationID address

def deleteAddress (p : AssocPtr) (address : SocketAddress) : Act L Bool := do
  let a ← associationAt p
  SCTPSocket.deleteAddress E a.socket a.associationID address

end SCTPAssociation

end SocketApi
