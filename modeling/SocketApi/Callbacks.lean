import SocketApi.Transfer

/-!
# Callbacks from the protocol library

What the library runs when something happens to an association. The callback thread holds
the master lock all the time. `notifAt` is the way back into the API while `sctp_shutdown`
or `sctp_abort` is running, which may itself close further associations.
-/

namespace SocketApi

open Effect

variable {L : Sctplib} (E : Environment L)

namespace SCTPSocketMaster

/-! ## Data and failures -/

def dataArriveNotif (assocID : AssocID) (streamID : StreamID) (length protoID : Nat) (unordered : Bool) :
    Act L Unit := do
  match ← getSocketForAssociationID assocID with
  | some s =>
    let notification ← initNotification assocID
    let sda : SctpDataArrive :=
      { sda_type := .dataArrive, sda_length := 24, sda_unordered := unordered, sda_assoc_id := assocID
        sda_stream := streamID, sda_ppid := protoID, sda_bytes_arrived := length }
    addNotification E s assocID { notification with content := .dataArrive sda }
  | none => return

def sendFailureNotif (assocID : AssocID) : Act L Unit := do
  match ← getSocketForAssociationID assocID with
  | some s =>
    let notification ← initNotification assocID
    let ssf : SctpSendFailed :=
      { ssf_type := .remoteError, ssf_length := 48, ssf_error := 0
        ssf_info := { sinfo_assoc_id := assocID }, ssf_assoc_id := assocID }
    addNotification E s assocID { notification with content := .sendFailed ssf }
  | none => return

def communicationErrorNotif (assocID : AssocID) : Act L Unit := do
  match ← getSocketForAssociationID assocID with
  | some s =>
    let notification ← initNotification assocID
    let sre : SctpRemoteError :=
      { sre_type := .remoteError, sre_length := 16, sre_error := 0, sre_assoc_id := assocID }
    addNotification E s assocID { notification with content := .remoteError sre }
  | none => return

/-! ## Paths -/

/-- `spc_state` and `spc_error` for a path state. -/
def pathChange : PathState → AddrState × Nat
  | .ok => (.reachable, 0)
  | .unreachable => (.unreachable, 0)
  | .added => (.added, 0)
  | .removed => (.removed, 0)
  | .asconfSucceeded => (.confirmed, 0)
  | .asconfFailed => (.confirmed, 1)
  | .other => (.other, 0)

/-- The bytes written into `spc_aaddr`. -/
def pathAddress (destination : SocketAddress) : List UInt8 :=
  if (!destination.isIPv4 || E.useIPv6) && destination.isIPv4 then E.sockaddr destination .inet
  else E.sockaddr destination .unspec

def networkStatusChangeNotif (assocID : AssocID) (affectedPathID : Int) (newState : PathState) : Act L Unit := do
  match L.getPathStatus (← shared).stack assocID affectedPathID with
  | none => return
  | some pathStatus =>
    match createSocketAddress E pathStatus.destinationAddress 0 with
    | none => return
    | some destination =>
      match ← getSocketForAssociationID assocID with
      | some s =>
        let notification ← initNotification assocID
        let spc : SctpPaddrChange :=
          { spc_type := .peerAddrChange, spc_length := 152, spc_aaddr := pathAddress E destination
            spc_state := (pathChange newState).1, spc_error := (pathChange newState).2
            spc_assoc_id := assocID }
        addNotification E s assocID { notification with content := .paddrChange spc }
      | none => return

/-! ## Establishment -/

/-- The `SCTP_ASSOC_CHANGE` content the callbacks build. -/
def assocChange (assocID : AssocID) (state : AssocState) (outStreams inStreams : Nat) : SctpNotification :=
  .assocChange { sac_type := .assocChange, sac_length := 20, sac_state := state, sac_error := 0
                 sac_outbound_streams := outStreams, sac_inbound_streams := inStreams, sac_assoc_id := assocID }

/-- "Correct RTOMax" of the two callbacks that end an establishment. -/
def restoreRTOMax (p : AssocPtr) (assocID : AssocID) : Act L Unit := do
  let a ← associationAt p
  if a.rtoMaxIsInitTimeout then
    match ← SCTPSocket.getAssocStatus E assocID with
    | some status => discard (SCTPSocket.setAssocStatus E assocID { status with rtoMax := a.rtoMax })
    | none => pure ()
    setAssociation p fun a => { a with rtoMaxIsInitTimeout := false }

/-- The branch of `communicationUpNotif` for an association the API has created itself. -/
def establish (p : AssocPtr) (assocID : AssocID) : Act L Unit := do
  restoreRTOMax E p assocID
  setAssociation p fun a => { a with communicationUpNotification := true }
  broadcast (.assoc p .establish)
  setAssociation p fun a =>
    { a with writeReady := true, hasException := false, preEstablishmentAddressList := none }
  discard (SCTPAssociation.sendPreEstablishmentPackets E p)

/-- The branch for an incoming association on a listening socket. -/
def incoming (s : SocketPtr) (assocID : AssocID) (notification : SCTPNotification) : Act L (Option AssocPtr) := do
  let o ← socketAt s
  if !E.allocates .association then
    return none
  let p ← SCTPAssociation.new E s assocID o.notificationFlags o.flags.globalQueue
  setAssociation p fun a => { a with communicationUpNotification := true }
  if E.allocates .connection then
    setSocket s fun o => { o with
      connectionRequests := o.connectionRequests ++ [{ association := p, notification }], readReady := true }
    broadcast (.socket s .establish)
  setAssociation p fun a => { a with writeReady := true, hasException := false }
  return some p

/-- The branch for an association the API does not know. -/
def upUnknown (s : SocketPtr) (assocID : AssocID) (notification : SCTPNotification) :
    Act L (Option (SocketPtr × AssocPtr)) := do
  if (← socketAt s).flags.listening then
    return (← incoming E s assocID notification).map (s, ·)
  else
    return none

/-- The association `communicationUpNotif` is about, if it is wanted, and its socket. -/
def upAssociation (assocID : AssocID) (notification : SCTPNotification) :
    Act L (Option (SocketPtr × AssocPtr)) := do
  match ← getSocketForAssociationID assocID with
  | none => return none
  | some s =>
    match ← SCTPSocket.getAssociationForAssociationID E s assocID with
    | some p =>
      establish E p assocID
      return some (s, p)
    | none => upUnknown E s assocID notification

def communicationUpNotif (deliver : Deliver L) (assocID : AssocID) (noOfInStreams noOfOutStreams : Nat) :
    Act L Unit := do
  let notification ← initNotification assocID
  match ← upAssociation E assocID notification with
  | some (s, _) =>
    addNotification E s assocID
      { notification with content := assocChange assocID .commUp noOfOutStreams noOfInStreams }
  | none =>
    sctp_abort deliver assocID
    if !(← library (L.deleteAssociation · assocID)) then
      throw (.abort .rejectedDeleteAssociation)

/-! ## Loss and shutdown -/

def communicationLostNotif (deliver : Deliver L) (assocID : AssocID) : Act L Unit := do
  if ← associationGarbageCollection E deliver assocID false then
    return
  match ← getSocketForAssociationID assocID with
  | none => return
  | some s =>
    match ← SCTPSocket.getAssociationForAssociationID E s assocID false with
    | some p =>
      restoreRTOMax E p assocID
      setAssociation p fun a =>
        { a with communicationLostNotification := true, shutdownCompleteNotification := true }
      broadcast (.assoc p .shutdownComplete)
      broadcast (.assoc p .readUpdate)
      addNotification E s assocID { content := assocChange assocID .commLost 0 0 }
      setAssociation p fun a => { a with hasException := true, writeReady := true, readReady := true }
      broadcast (.assoc p .establish)
      broadcast (.assoc p .readyForTransmit)
    | none => pure ()
    SCTPSocket.checkAutoClose E deliver s

def restartNotif (assocID : AssocID) : Act L Unit := do
  match ← getSocketForAssociationID assocID with
  | some s =>
    let (outStreams, inStreams) := match L.getAssocStatus (← shared).stack assocID with
      | some status => (status.outStreams, status.inStreams)
      | none => (1, 1)
    addNotification E s assocID { content := assocChange assocID .restart outStreams inStreams }
  | none => return

def shutdownReceivedNotif (assocID : AssocID) : Act L Unit := do
  match ← getSocketForAssociationID assocID with
  | none => return
  | some s =>
    match ← SCTPSocket.getAssociationForAssociationID E s assocID false with
    | some _ =>
      let sse : SctpShutdownEvent := { sse_type := .shutdownEvent, sse_length := 20, sse_assoc_id := assocID }
      addNotification E s assocID { content := .shutdownEvent sse }
    | none => return

def shutdownCompleteNotif (deliver : Deliver L) (assocID : AssocID) : Act L Unit := do
  if ← associationGarbageCollection E deliver assocID false then
    return
  match ← getSocketForAssociationID assocID with
  | none => return
  | some s =>
    match ← SCTPSocket.getAssociationForAssociationID E s assocID false with
    | some p =>
      setAssociation p fun a => { a with
        writeReady := true, readReady := true, hasException := true, shutdownCompleteNotification := true }
      broadcast (.assoc p .shutdownComplete)
      broadcast (.assoc p .readyForTransmit)
      broadcast (.assoc p .readUpdate)
      addNotification E s assocID { content := assocChange assocID .shutdownComp 0 0 }
    | none => pure ()
    SCTPSocket.checkAutoClose E deliver s

def queueStatusChangeNotif (assocID : AssocID) : Act L Unit := do
  match ← getSocketForAssociationID assocID with
  | none => return
  | some s =>
    match ← SCTPSocket.getAssociationForAssociationID E s assocID false with
    | some p =>
      broadcast (.assoc p .readyForTransmit)
      setAssociation p fun a => { a with writeReady := true }
      discard (SCTPAssociation.sendPreEstablishmentPackets E p)
    | none => return

/-! ## Callbacks inside a close call -/

def notifAt : Nat → Deliver L
  | 0, _, _ => return
  | depth + 1, .communicationLost, assocID => communicationLostNotif E (notifAt depth) assocID
  | depth + 1, .shutdownComplete, assocID => shutdownCompleteNotif E (notifAt depth) assocID

/-- The notifications delivered while an API call or a callback closes an association. -/
def notif : Deliver L := notifAt E E.nesting

/-! ## Callbacks as data -/

/-- A callback with its arguments. -/
inductive Callback where
  | dataArrive (assocID : AssocID) (streamID : StreamID) (length protoID : Nat) (unordered : Bool)
  | sendFailure (assocID : AssocID)
  | networkStatusChange (assocID : AssocID) (affectedPathID : Int) (newState : PathState)
  | communicationUp (assocID : AssocID) (noOfInStreams noOfOutStreams : Nat)
  | communicationLost (assocID : AssocID)
  | communicationError (assocID : AssocID)
  | restart (assocID : AssocID)
  | shutdownReceived (assocID : AssocID)
  | shutdownComplete (assocID : AssocID)
  | queueStatusChange (assocID : AssocID)
  deriving DecidableEq, Repr

def Callback.run : Callback → Act L Unit
  | .dataArrive assocID streamID length protoID unordered =>
    dataArriveNotif E assocID streamID length protoID unordered
  | .sendFailure assocID => sendFailureNotif E assocID
  | .networkStatusChange assocID affectedPathID newState =>
    networkStatusChangeNotif E assocID affectedPathID newState
  | .communicationUp assocID noOfInStreams noOfOutStreams =>
    communicationUpNotif E (notif E) assocID noOfInStreams noOfOutStreams
  | .communicationLost assocID => communicationLostNotif E (notif E) assocID
  | .communicationError assocID => communicationErrorNotif E assocID
  | .restart assocID => restartNotif E assocID
  | .shutdownReceived assocID => shutdownReceivedNotif E assocID
  | .shutdownComplete assocID => shutdownCompleteNotif E (notif E) assocID
  | .queueStatusChange assocID => queueStatusChangeNotif E assocID

end SCTPSocketMaster

end SocketApi
