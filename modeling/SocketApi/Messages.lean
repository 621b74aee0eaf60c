import SocketApi.Descriptors

/-!
# Messages over descriptors

`ext_recvmsg` receives into a list of buffers, one after the other; `ext_sendmsg` gathers
its buffers and sends them as one message.
-/

namespace SocketApi

open Effect ExtSocketDescriptorMaster

variable {L : Sctplib} (E : Environment L)

/-! ## Receiving -/

/-- The `msghdr` of a receive, less its buffers. `name` and `control` say that there is a
place for an address and for control data; `address` and `info` are what was written there. -/
structure RecvMsgHdr where
  name : Bool := false
  namelen : Nat := 0
  control : Bool := false
  controllen : Nat := 0
  flags : MsgFlags := {}
  address : Option SocketAddress := none
  info : Option (SctpSndrcvinfo) := none
  deriving DecidableEq, Repr

/-- What a receive into one buffer leaves behind; `iovLen` is the length field of the buffer. -/
structure RecvOutcome where
  result : Int
  msg : RecvMsgHdr
  iovLen : Nat
  bytes : List UInt8 := []
  deriving DecidableEq, Repr

/-- `CSpace(sizeof(sctp_sndrcvinfo))`. -/
def sndrcvSpace : Nat := 48

/-- The retry loop around `receive` and `receiveFrom`. The length is set back before each try,
the flags are not. -/
def receiveRetrying (receive : ReceiveIO → Act L ReceiveResult) (bufferSize : Nat) (io : ReceiveIO) :
    Nat → Act L ReceiveResult
  | 0 => receive { io with bufferSize }
  | n + 1 => do
    let r ← receive { io with bufferSize }
    if r.result = -EAGAIN ∧ !r.io.flags.dontwait then
      receiveRetrying receive bufferSize r.io n
    else
      return r

/-- The result of `receiveRetrying` when it has not run out of tries. -/
def receiveUntilDone (receive : ReceiveIO → Act L ReceiveResult) (bufferSize : Nat) (io : ReceiveIO) :
    Act L ReceiveResult := do
  let r ← receiveRetrying receive bufferSize io E.patience
  if r.result = -EAGAIN ∧ !r.io.flags.dontwait then throw .waiting
  return r

/-- The header after a receive. -/
def fillHeader (msg : RecvMsgHdr) (flags : MsgFlags) (domain : Family) (notificationFlags : NotificationFlags)
    (r : ReceiveResult) : RecvMsgHdr :=
  let msg := { msg with flags := r.io.flags }
  if r.result < 0 then
    { msg with name := false, namelen := 0, control := false, controllen := 0 }
  else
    let msg := match msg.name, r.address with
      | true, some a =>
        { msg with namelen := a.getSystemAddress msg.namelen domain, address := some a }
      | _, _ => { msg with namelen := 0 }
    if notificationFlags.recvDataIOEvnt && msg.control && decide (sndrcvSpace ≤ msg.controllen) then
      let info : SctpSndrcvinfo :=
        { sinfo_stream := r.io.streamID, sinfo_ssn := r.io.ssn, sinfo_tsn := r.io.tsn, sinfo_flags := flags
          sinfo_ppid := r.io.protoID, sinfo_assoc_id := r.io.assocID }
      { msg with controllen := sndrcvSpace, info := some info }
    else
      { msg with control := false, controllen := 0 }

def ext_recvmsg_singlebuffer (sockfd : Int) (msg : RecvMsgHdr) (iovLen : Nat) (flags : MsgFlags)
    (receiveNotifications : Bool) : Act L RecvOutcome := do
  match getSocket sockfd with
  | none => return { result := ← errnoReturn (-EBADF), msg, iovLen }
  | some slot =>
    match ← descriptorAt slot with
    | .sctp desc =>
      let msgFlags := { msg.flags.or flags with notification := receiveNotifications }
      let msgFlags := { msgFlags with dontwait := msgFlags.dontwait || desc.nonBlock }
      let io : ReceiveIO :=
        { bufferSize := iovLen, flags := msgFlags, assocID := 0, streamID := 0, protoID := 0, ssn := 0, tsn := 0 }
      let (r, notificationFlags) ←
        match desc.sctpAssociationPtr, desc.connectionOriented, desc.sctpSocketPtr with
        | some p, true, _ => do
          let r ← receiveUntilDone E (SCTPAssociation.receive E p) iovLen io
          let a ← associationAt p
          pure ({ r with io := { r.io with assocID := a.associationID } }, a.notificationFlags)
        | _, _, some s => do
          let r ← receiveUntilDone E (SCTPSocket.receiveFrom E s · true) iovLen io
          pure (r, (← socketAt s).notificationFlags)
        | _, _, none => pure ({ result := -EBADF, io }, {})
      let result := if 0 ≤ r.result then intOfSize r.io.bufferSize else r.result
      let msg := fillHeader msg flags desc.domain notificationFlags { r with result }
      return { result := ← errnoReturn result, msg, iovLen := r.io.bufferSize, bytes := r.bytes }
    | .system systemSocketID => return { result := E.systemCall systemSocketID, msg, iovLen }
    | .invalid => return { result := ← errnoReturn (- ENXIO), msg, iovLen }

/-- What a receive into a list of buffers leaves behind: for each buffer its length field and
the bytes put at its start. -/
structure RecvAllOutcome where
  result : Int
  msg : RecvMsgHdr
  parts : List (Nat × List UInt8)
  deriving DecidableEq, Repr

/-- The loop of `ext_recvmsg2`; `result` is the sum so far. -/
def recvBuffers (sockfd : Int) (flags : MsgFlags) (receiveNotifications : Bool) :
    RecvMsgHdr → Int → List Nat → Act L RecvAllOutcome
  | msg, result, [] => return { result, msg, parts := [] }
  | msg, result, iovLen :: rest => do
    let sub ← ext_recvmsg_singlebuffer E sockfd msg iovLen flags receiveNotifications
    let result := if 0 < sub.result then result + sub.result else result
    let here := (sub.iovLen, sub.bytes)
    let untouched := rest.map fun n => (n, ([] : List UInt8))
    if result = 0 ∧ sub.result ≤ 0 then
      return { result := sub.result, msg := sub.msg, parts := here :: untouched }
    if sub.result < intOfSize sub.iovLen ∧ sub.msg.flags.eor then
      return { result, msg := sub.msg, parts := here :: untouched }
    let more ← recvBuffers sockfd flags receiveNotifications sub.msg result rest
    return { more with parts := here :: more.parts }

def ext_recvmsg2 (sockfd : Int) (msg : RecvMsgHdr) (iov : List Nat) (flags : MsgFlags)
    (receiveNotifications : Bool) : Act L RecvAllOutcome :=
  recvBuffers E sockfd flags receiveNotifications msg 0 iov

def ext_recvmsg (sockfd : Int) (msg : RecvMsgHdr) (iov : List Nat) (flags : MsgFlags) : Act L RecvAllOutcome :=
  ext_recvmsg2 E sockfd msg iov flags true

/-- `ext_recvfrom` for a SCTP descriptor; `fromlen` is the length of the address buffer, if
there is one. -/
def ext_recvfrom (sockfd : Int) (len : Nat) (flags : MsgFlags) (fromlen : Option Nat) : Act L RecvAllOutcome :=
  ext_recvmsg2 E sockfd { name := fromlen.isSome, namelen := fromlen.getD 0, control := true, controllen := 1024
                          flags } [len] flags false

def ext_recv (sockfd : Int) (len : Nat) (flags : MsgFlags) : Act L RecvAllOutcome :=
  ext_recvfrom E sockfd len flags none

/-! ## Sending -/

/-- A control message: its send parameters, too few bytes of them, or the parameters of an
association to come. -/
inductive ControlMessage where
  | sndrcv (info : SctpSndrcvinfo)
  | truncatedSndrcv
  | init (initMsg : InitMsg)
  | other
  deriving DecidableEq, Repr

/-- The `msghdr` of a send, less its buffers. An address of which no object can be made is `none`. -/
structure SendMsgHdr where
  name : Option (List (Option SocketAddress)) := none
  control : List ControlMessage := []
  flags : MsgFlags := {}
  deriving DecidableEq, Repr

/-- `SCTP_INIT` on a connection-oriented descriptor with a destination: an error code if the
send ends here. -/
def sendInit (slot : Nat) (initMsg : InitMsg) (name : Option (List (Option SocketAddress))) : Act L (Option Int) := do
  setDesc slot fun d => { d with initMsg }
  match ← descriptorAt slot, name with
  | .sctp desc, some addresses =>
    if desc.connectionOriented then
      if desc.sctpAssociationPtr.isSome then
        return some (-EBUSY)
      match desc.sctpSocketPtr, addresses.head?.join with
      | some s, some address =>
        let association ← SCTPSocket.associate E s initMsg.numOstreams initMsg.maxAttempts initMsg.maxInitTimeo
          [address] (!desc.nonBlock)
        setDesc slot fun d => { d with sctpAssociationPtr := association }
        match association with
        | some p =>
          release p
          return none
        | none => return some (-ENOTCONN)
      | _, none => return some (-EADDRNOTAVAIL)
      | none, _ => throw .undefinedBehaviour
    else
      return none
  | _, _ => return none

/-- The loop over the control messages: the last send parameters, or the error that ends the
send. -/
def sendControl (slot : Nat) (name : Option (List (Option SocketAddress))) :
    Option SctpSndrcvinfo → List ControlMessage → Act L (Except Int (Option SctpSndrcvinfo))
  | info, [] => return .ok info
  | _, .sndrcv info :: rest => sendControl slot name (some info) rest
  | _, .truncatedSndrcv :: _ => return .error (-EINVAL)
  | info, .other :: rest => sendControl slot name info rest
  | info, .init initMsg :: rest => do
    match ← sendInit E slot initMsg name with
    | some error => return .error error
    | none => sendControl slot name info rest

/-- The `destinationAddressList` of a send: its first address, or all of them with
`MSG_MULTIADDRS`, where each one must be an address. -/
def destinations (flags : MsgFlags) (name : List (Option SocketAddress)) : Option (List SocketAddress) :=
  if flags.multiAddrs then name.mapM id else some ((name.take 1).filterMap id)

/-- The call of `SCTPSocket::sendTo` that `ext_sendmsg` makes. -/
def sendCall (desc : SCTPSocketDesc) (buffer : List UInt8) (flags : MsgFlags) (info : Option SctpSndrcvinfo)
    (destinationAddressList : Option (List SocketAddress)) : SendCall where
  buffer
  params :=
    { flags, streamID := (info.map (·.sinfo_stream)).getD 0, protoID := (info.map (·.sinfo_ppid)).getD 0
      timeToLive := match info with
        | some i => if i.sinfo_flags.prSctpTTL then i.sinfo_timetolive else SCTP_INFINITE_LIFETIME
        | none => SCTP_INFINITE_LIFETIME }
  assocID := (info.map (·.sinfo_assoc_id)).getD 0
  maxAttempts := desc.initMsg.maxAttempts
  maxInitTimeout := desc.initMsg.maxInitTimeo
  useDefaults := info.isNone
  destinationAddressList
  noOfOutgoingStreams := desc.initMsg.numOstreams

def ext_sendmsg_singlebuffer (sockfd : Int) (msg : SendMsgHdr) (buffer : List UInt8) (flags : MsgFlags) :
    Act L Int := do
  match getSocket sockfd with
  | none => errnoReturn (-EBADF)
  | some slot =>
    match ← descriptorAt slot with
    | .sctp _ =>
      discard (bindToAny E slot)
      match ← sendControl E slot msg.name none msg.control with
      | .error error => errnoReturn error
      | .ok info =>
        match ← descriptorAt slot with
        | .sctp desc =>
          let flags := (flags.or msg.flags).or ((info.map (·.sinfo_flags)).getD {})
          let flags := { flags with dontwait := flags.dontwait || desc.nonBlock }
          match msg.name, desc.sctpAssociationPtr, desc.sctpSocketPtr with
          | some name, _, some s =>
            if flags.multiAddrs ∧ SCTP_MAX_NUM_ADDRESSES < (name.takeWhile Option.isSome).length then
              throw .undefinedBehaviour
            else
              match destinations flags name with
              | some addresses =>
                errnoReturn (← SCTPSocket.sendTo E s (sendCall desc buffer flags info (some addresses))).1
              | none => errnoReturn (-EINVAL)
          | none, some p, _ =>
            let c := sendCall desc buffer flags info none
            errnoReturn (← SCTPAssociation.send E p buffer c.params c.useDefaults)
          | none, none, some s => errnoReturn (← SCTPSocket.sendTo E s (sendCall desc buffer flags info none)).1
          | _, _, none => errnoReturn (-EBADF)
        | _ => throw .undefinedBehaviour
    | .system systemSocketID => return E.systemCall systemSocketID
    | .invalid => errnoReturn (- ENXIO)

/-- `ext_sendmsg`: the buffers as one message. -/
def ext_sendmsg (sockfd : Int) (msg : SendMsgHdr) (iov : List (List UInt8)) (flags : MsgFlags) : Act L Int :=
  if 1 < iov.length ∧ !E.allocates .messageBuffer then return -ENOMEM
  else ext_sendmsg_singlebuffer E sockfd msg iov.flatten flags

-- For a descriptor of the system the calls below make a system call, as `ext_sendmsg` does.
def ext_sendto (sockfd : Int) (buffer : List UInt8) (flags : MsgFlags) (address : Option (Option SocketAddress)) :
    Act L Int :=
  ext_sendmsg E sockfd { name := address.map ([·]), flags } [buffer] flags

def ext_send (sockfd : Int) (buffer : List UInt8) (flags : MsgFlags) : Act L Int :=
  ext_sendto E sockfd buffer flags none

def ext_read (fd : Int) (count : Nat) : Act L RecvAllOutcome := ext_recv E fd count {}
def ext_write (fd : Int) (buffer : List UInt8) : Act L Int := ext_send E fd buffer {}

/-- `ext_shutdown` for a SCTP descriptor. -/
def ext_shutdown (sockfd : Int) : Act L Int := do
  match getSocket sockfd with
  | none => errnoReturn (-EBADF)
  | some slot =>
    match ← descriptorAt slot with
    | .sctp desc =>
      match desc.sctpAssociationPtr with
      | some p =>
        SCTPAssociation.shutdown E (SCTPSocketMaster.notif E) p
        errnoReturn 0
      | none => errnoReturn (-EOPNOTSUPP)
    | .system systemSocketID => return E.systemCall systemSocketID
    | .invalid => errnoReturn (- ENXIO)

end SocketApi
