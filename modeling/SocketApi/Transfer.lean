import SocketApi.Accept

/-!
# Receiving and sending

`internalReceive` reads from one of the two kinds of notification queue, `internalSend`
hands a message to the protocol library; an association that is not established yet keeps
its messages in the pre-establishment list.
-/

namespace SocketApi

open Effect

variable {L : Sctplib} (E : Environment L)

/-- The conversion of a `size_t` to `int`. -/
def intOfSize (n : Nat) : Int := Int.bmod n (2 ^ 32)

/-! ## Paths -/

namespace SCTPSocket

/-- The loop over `destinationPathIDs`, which ends only at a path that has no status. -/
def pathSearch (assocID : AssocID) (address : SocketAddress) : List Int → Act L Int
  | [] => throw .undefinedBehaviour
  | index :: rest => do
    match L.getPathStatus (← shared).stack assocID index with
    | none => return -1
    | some path => if address.host == path.destinationAddress then return index else pathSearch assocID address rest

def getPathIndexForAddress (assocID : AssocID) (address : Option SocketAddress) : Act L Int := do
  let stack := (← shared).stack
  match address with
  | none => return L.getPrimary stack assocID
  | some a =>
    match L.getAssocStatus stack assocID with
    | none => return -1
    | some status => pathSearch assocID a status.destinationPathIDs

end SCTPSocket

/-! ## The queues -/

/-- Which queue `internalReceive` reads. -/
inductive QueueRef where
  | global (s : SocketPtr)
  | inQueue (p : AssocPtr)
  deriving DecidableEq, Repr

namespace QueueRef

def get : QueueRef → Act L SCTPNotificationQueue
  | global s => do return (← socketAt s).globalQueue
  | inQueue p => do return (← associationAt p).inQueue

def modify (f : SCTPNotificationQueue → SCTPNotificationQueue) : QueueRef → Act L Unit
  | global s => setSocket s fun o => { o with globalQueue := f o.globalQueue }
  | inQueue p => setAssociation p fun a => { a with inQueue := f a.inQueue }

def updateCondition : QueueRef → ConditionRef
  | global s => .socket s .globalQueue
  | inQueue p => .assoc p .inQueue

end QueueRef

/-! ## Receiving -/

/-- The in/out parameters of `internalReceive`. -/
structure ReceiveIO where
  bufferSize : Nat
  flags : MsgFlags
  assocID : AssocID
  streamID : StreamID
  protoID : Nat
  ssn : Nat
  tsn : Nat
  deriving DecidableEq, Repr

/-- What a receive leaves behind: its return value, the in/out parameters, the bytes it put
at the start of the buffer and the address it made. -/
structure ReceiveResult where
  result : Int
  io : ReceiveIO
  bytes : List UInt8 := []
  address : Option SocketAddress := none
  deriving DecidableEq, Repr

inductive Fetched where
  | notification (n : SCTPNotification)
  | returned (r : ReceiveResult)
  deriving DecidableEq, Repr

namespace SCTPSocket

/-- The waiting loop of `internalReceive`. It holds the master lock when it leaves with a
notification. -/
def fetchNotification (s : SocketPtr) (queue : QueueRef) (io : ReceiveIO) (notificationFlags : NotificationFlags) :
    Act L Fetched :=
  loop .waiting (fun rest => do
    match (← queue.get).getNotification with
    | some n => return .notification n
    | none =>
      let errorCode ← getErrorCode E s io.assocID
      unlock E
      if errorCode ≠ 0 then
        let io := { io with bufferSize := 0 }
        if errorCode = -ECONNRESET ∧ !(← queue.get).hasData notificationFlags then
          return .returned { result := 0, io := { io with flags := { io.flags with notification := false } } }
        return .returned { result := errorCode, io }
      if io.flags.dontwait then
        return .returned { result := -EAGAIN, io }
      waitFor E queue.updateCondition (checkAutoConnect E s)
      lock
      rest) E.patience

/-- The address of a data receive. -/
def receiveAddress (assocID : AssocID) (pathIndex : Int) (wanted : Bool) : Act L (Option SocketAddress) := do
  let stack := (← shared).stack
  if !wanted then return none
  match L.getPathStatus stack assocID pathIndex, L.getAssocStatus stack assocID with
  | some path, some status => return createSocketAddress E path.destinationAddress status.destPort
  | _, _ => return none

/-- The data branch of `internalReceive`; the second component says that the head of the
queue was updated. -/
def receiveData (queue : QueueRef) (n : SCTPNotification) (sda : SctpDataArrive) (io : ReceiveIO)
    (wantAddress : Bool) : Act L (ReceiveResult × Bool) := do
  let io := { io with flags := { io.flags with notification := false } }
  if sda.sda_bytes_arrived = 0 then
    return ({ result := 0, io := { io with bufferSize := 0 } }, false)
  let io := { io with
    assocID := sda.sda_assoc_id, streamID := sda.sda_stream, protoID := sda.sda_ppid
    flags := { io.flags with unordered := io.flags.unordered || sda.sda_unordered } }
  let wanted := min sda.sda_bytes_arrived io.bufferSize
  match ← library (L.receive · sda.sda_assoc_id sda.sda_stream wanted io.flags.peek) with
  | none => return ({ result := -ECONNABORTED, io }, false)
  | some r =>
    let pathIndex := L.getPrimary (← shared).stack sda.sda_assoc_id
    let io := { io with bufferSize := r.bytes.length, ssn := r.ssn, tsn := r.tsn }
    let address ← receiveAddress E sda.sda_assoc_id pathIndex wantAddress
    let result := intOfSize r.bytes.length
    if io.flags.peek then
      queue.modify (·.updateNotification n)
      return ({ result, io, bytes := r.bytes, address }, true)
    let left := sda.sda_bytes_arrived - r.bytes.length
    if 0 < left then
      queue.modify (·.updateNotification { n with content := .dataArrive { sda with sda_bytes_arrived := left } })
      return ({ result, io, bytes := r.bytes, address }, true)
    return ({ result, io := { io with flags := { io.flags with eor := true } }, bytes := r.bytes, address }, false)

/-- The notification branch of `internalReceive`. Lengths are 32-bit numbers here. -/
def receiveNotification (s : SocketPtr) (queue : QueueRef) (n : SCTPNotification) (io : ReceiveIO)
    (notificationFlags : NotificationFlags) : Act L (ReceiveResult × Bool) := do
  if n.content.snType = .undefined then throw (.abort .unexpectedNotification)
  let io := { io with assocID := n.content.headerAssocID }
  if io.flags.notification && notificationFlags.selects n.content.snType then
    let toCopy := min (n.content.snLength - n.contentPosition) (io.bufferSize % 2 ^ 32)
    let bytes := (n.content.bytes.drop n.contentPosition).take toCopy
    let position := n.contentPosition + toCopy
    let io := { io with bufferSize := toCopy }
    let result := intOfSize toCopy
    let position' := if io.flags.peek then 0 else position
    if position < n.content.snLength then
      queue.modify (·.updateNotification { n with contentPosition := position' })
      return ({ result, io := { io with flags := { io.flags with notification := true } }, bytes }, true)
    let io := { io with flags := { io.flags with eor := true, notification := true } }
    if io.flags.peek then
      queue.modify (·.updateNotification { n with contentPosition := position' })
      return ({ result, io, bytes }, true)
    return ({ result, io, bytes }, false)
  let result ← getErrorCode E s io.assocID
  if result = 0 then
    return ({ result := -EAGAIN, io := { io with flags := { io.flags with notification := false } } }, false)
  return ({ result, io }, false)

/-- The end of `internalReceive` for a notification that was not updated. -/
def dropHead (s : SocketPtr) (queue : QueueRef) (assocID : AssocID) : Act L Unit := do
  queue.modify (·.dropNotification)
  match ← getAssociationForAssociationID E s assocID false with
  | some p =>
    let now := (← shared).now
    setAssociation p fun a => { a with lastUsage := now }
    if (← associationAt p).useCount = 0 then throw (.abort .receiveUseCount)
    setAssociation p fun a => { a with useCount := a.useCount - 1 }
    let data ← SCTPAssociation.hasData E p
    let error ← getErrorCode E s (← associationAt p).associationID
    setAssociation p fun a => { a with readReady := data || decide (error < 0) }
  | none => pure ()
  let data ← hasData E s
  setSocket s fun o => { o with readReady := data || !o.connectionRequests.isEmpty }

/-- What `internalReceive` does with the head of the queue. -/
def receiveHead (s : SocketPtr) (queue : QueueRef) (n : SCTPNotification) (io : ReceiveIO) (wantAddress : Bool)
    (notificationFlags : NotificationFlags) : Act L (ReceiveResult × Bool) :=
  match n.content with
  | .dataArrive sda => receiveData E queue n sda io wantAddress
  | _ => receiveNotification E s queue n io notificationFlags

def internalReceive (s : SocketPtr) (queue : QueueRef) (io : ReceiveIO) (wantAddress : Bool)
    (notificationFlags : NotificationFlags) : Act L ReceiveResult := do
  if io.bufferSize = 0 then
    return { result := -EINVAL, io }
  lock
  match ← fetchNotification E s queue io notificationFlags with
  | .returned r => return r
  | .notification n =>
    let r ← receiveHead E s queue n io wantAddress notificationFlags
    if !r.2 then
      dropHead E s queue r.1.io.assocID
    unlock E
    return r.1

def receiveFrom (s : SocketPtr) (io : ReceiveIO) (wantAddress : Bool) : Act L ReceiveResult := do
  let o ← socketAt s
  if !o.flags.globalQueue then
    return { result := -EBADF, io }
  let r ← internalReceive E s (.global s) { io with assocID := 0 } wantAddress o.notificationFlags
  checkAutoConnect E s
  return r

def receive (s : SocketPtr) (io : ReceiveIO) : Act L ReceiveResult := receiveFrom E s io false

end SCTPSocket

namespace SCTPAssociation

/-- `(unsigned short)-1`. -/
def noStream : StreamID := 65535

def receiveFrom (p : AssocPtr) (io : ReceiveIO) (wantAddress : Bool) : Act L ReceiveResult := do
  let a ← associationAt p
  SCTPSocket.internalReceive E a.socket (.inQueue p) { io with assocID := a.associationID, streamID := noStream }
    wantAddress a.notificationFlags

def receive (p : AssocPtr) (io : ReceiveIO) : Act L ReceiveResult := receiveFrom E p io false

end SCTPAssociation

/-! ## Sending -/

/-- The parameters of a send besides its payload. -/
structure SendParams where
  flags : MsgFlags := {}
  streamID : StreamID := 0
  protoID : Nat := 0
  timeToLive : Nat := SCTP_INFINITE_LIFETIME
  deriving DecidableEq, Repr

/-- The parameters a packet is sent with. -/
def PreEstablishmentPacket.params (packet : PreEstablishmentPacket) : SendParams where
  flags := packet.flags
  streamID := packet.streamID
  protoID := packet.protoID
  timeToLive := packet.timeToLive

namespace SCTPSocket

/-- One round of the loop of `internalSend` up to the answer of `sctp_send_private`. -/
def sendAttempt (assocID : AssocID) (buffer : List UInt8) (params : SendParams)
    (pathDestinationAddress : Option SocketAddress) : Act L SendResult := do
  let primary := L.getPrimary (← shared).stack assocID
  let pathIndex ←
    if pathDestinationAddress.isSome && params.flags.addrOver then
      getPathIndexForAddress assocID pathDestinationAddress
    else pure primary
  let request : SendRequest :=
    { assocID, streamID := params.streamID, buffer := buffer.take (buffer.length % 2 ^ 32)
      protoID := params.protoID, pathIndex, timeToLive := params.timeToLive
      unordered := params.flags.unordered, bundlingDisabled := params.flags.unbundled }
  let result ← library (L.send · request)
  if result = .success then
    update fun w => { w with sendLog := w.sendLog ++ [request] }
  return result

/-- The wait for room in the send queue, with the master unlocked once. -/
def waitForRoom (waitCondition : Option ConditionRef) : Act L Unit := do
  match waitCondition with
  | some c =>
    unlock E
    discard (timedWait E c)
    lock
  | none => return

/-- The loop of `internalSend`. -/
def sendRounds (buffer : List UInt8) (assocID : AssocID) (params : SendParams)
    (waitCondition : Option ConditionRef) (pathDestinationAddress : Option SocketAddress) : Act L SendResult :=
  loop .waiting (fun rest => do
    lock
    let result ← sendAttempt assocID buffer params pathDestinationAddress
    if result = .queueExceeded ∧ !params.flags.dontwait then
      waitForRoom E waitCondition
    unlock E
    if !params.flags.dontwait ∧ result = .queueExceeded then rest else return result) E.patience

/-- The return value for an answer of `sctp_send_private`. -/
def sendReturn (length : Nat) : SendResult → Int
  | .success => intOfSize length
  | .parameterProblem => -EINVAL
  | .queueExceeded => -ENOBUFS
  | .other => - EIO

def internalSend (s : SocketPtr) (buffer : List UInt8) (assocID : AssocID) (params : SendParams)
    (waitCondition : Option ConditionRef) (pathDestinationAddress : Option SocketAddress) : Act L Int := do
  let errorCode ← getErrorCode E s assocID
  if errorCode ≠ 0 then
    return errorCode
  let result ← sendRounds E buffer assocID params waitCondition pathDestinationAddress
  setSocket s fun o => { o with writeReady := result ≠ .queueExceeded }
  return sendReturn buffer.length result

end SCTPSocket

namespace SCTPAssociation

def getDefaultStreamTimeout (p : AssocPtr) (streamID : StreamID) : Act L (Option Nat) := locked E do
  let a ← associationAt p
  match a.streamDefaultTimeoutArray[streamID]? with
  | some t => return (if t.valid then some t.timeout else none)
  | none => return none

/-- `sendTo`. Out of memory, a message before the establishment is not queued; the return
value is its length in any case. -/
def sendTo (p : AssocPtr) (buffer : List UInt8) (params : SendParams) (useDefaults : Bool)
    (pathDestinationAddress : Option SocketAddress) : Act L Int := do
  let a ← associationAt p
  if !a.communicationUpNotification then
    if E.allocates .packet && E.allocates .packetData then
      setAssociation p fun a => { a with preEstablishmentPackets := a.preEstablishmentPackets ++
        [{ flags := params.flags, protoID := params.protoID, streamID := params.streamID
           timeToLive := params.timeToLive, data := buffer }] }
    return intOfSize buffer.length
  else if !useDefaults then
    SCTPSocket.internalSend E a.socket buffer a.associationID params (some (.assoc p .readyForTransmit))
      pathDestinationAddress
  else if !buffer.isEmpty then
    -- The stream's default timeout is looked up but not used.
    discard (getDefaultStreamTimeout E p a.defaults.streamID)
    let d := (← associationAt p).defaults
    SCTPSocket.internalSend E a.socket buffer a.associationID
      { params with streamID := d.streamID, protoID := d.protoID, timeToLive := d.timeToLive }
      (some (.assoc p .readyForTransmit)) pathDestinationAddress
  else
    return 0

def send (p : AssocPtr) (buffer : List UInt8) (params : SendParams) (useDefaults : Bool) : Act L Int :=
  sendTo E p buffer params useDefaults none

def sendPreEstablishmentPackets (p : AssocPtr) : Act L Bool :=
  loop .waiting (fun rest => do
    match (← associationAt p).preEstablishmentPackets with
    | [] => return true
    | packet :: _ =>
      let result ← sendTo E p packet.data
        { flags := packet.flags, streamID := packet.streamID, protoID := packet.protoID
          timeToLive := packet.timeToLive } false none
      if result = packet.data.length then
        setAssociation p fun a => { a with preEstablishmentPackets := a.preEstablishmentPackets.tail }
        rest
      else
        return false) E.patience

end SCTPAssociation

end SocketApi
