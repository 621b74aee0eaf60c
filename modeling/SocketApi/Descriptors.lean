import SocketApi.Parameters

/-!
# The descriptor table

The C interface to sockets: a table of 1024 slots, each unused, a descriptor of the
operating system or a SCTP descriptor. Accepted and peeled-off associations share the
`SCTPSocket` of the descriptor they come from.
-/

namespace SocketApi

open Effect

variable {L : Sctplib} (E : Environment L)

/-- `errno_return`. -/
def errnoReturn (result : Int) : Act L Int := do
  if result < 0 then
    modify fun w => { w with thread := { w.thread with errno := -result } }
    return -1
  return result

/-! ## The table -/

namespace ExtSocketDescriptorMaster

/-- The slot of a descriptor number. -/
def getSocket (id : Int) : Option Nat := if id < MaxSockets ∧ 0 ≤ id then some id.toNat else none

def descriptorAt (slot : Nat) : Act L ExtSocketDescriptor := return (← shared).descriptors slot

def setDescriptor (slot : Nat) (td : ExtSocketDescriptor) : Act L Unit :=
  update fun w => { w with descriptors := Function.update w.descriptors slot td }

/-- The search of `setSocket`, from the slot below `n` down to slot 0. -/
def freeSlot (descriptors : Nat → ExtSocketDescriptor) : Nat → Option Nat
  | 0 => none
  | n + 1 => if descriptors n = .invalid then some n else freeSlot descriptors n

def setSocket (newSocket : ExtSocketDescriptor) : Act L Int := locked E do
  match freeSlot (← shared).descriptors (min MaxSockets E.dtablesize) with
  | some i =>
    setDescriptor i newSocket
    return i
  | none => return -EMFILE

end ExtSocketDescriptorMaster

open ExtSocketDescriptorMaster

/-- A change of the SCTP descriptor in a slot. -/
def setDesc (slot : Nat) (f : SCTPSocketDesc → SCTPSocketDesc) : Act L Unit :=
  update fun w => match w.descriptors slot with
    | .sctp desc => { w with descriptors := Function.update w.descriptors slot (.sctp (f desc)) }
    | _ => w

/-! ## Operating system -/

def openSystem : Act L Int := do
  let fds := (← shared).openFDs
  let fd := E.openSystem fds
  if 0 ≤ fd then update fun w => { w with openFDs := fd :: w.openFDs }
  return fd

def closeSystem (fd : Int) : Act L Unit := update fun w => { w with openFDs := w.openFDs.erase fd }

/-! ## Opening -/

def defaultFlags : NotificationFlags := { recvDataIOEvnt := true }

def ext_socket (domain : Family) (type : SocketType) (isSCTP : Bool) : Act L Int := do
  if isSCTP then
    if !E.initialized then
      return ← errnoReturn (-ENOPROTOOPT)
    if type = .other then
      return ← errnoReturn (-EINVAL)
    let connectionOriented := type = .stream
    let s ← SCTPSocket.new domain { globalQueue := !connectionOriented, autoConnect := !connectionOriented }
    if !connectionOriented then
      SCTPSocket.setNotificationFlags s defaultFlags
    let result ← ExtSocketDescriptorMaster.setSocket E (.sctp { domain, type, sctpSocketPtr := some s, connectionOriented })
    if result < 0 then
      SCTPSocket.delete E s
    errnoReturn result
  else
    let systemSocketID ← openSystem E
    if 0 ≤ systemSocketID then
      errnoReturn (← ExtSocketDescriptorMaster.setSocket E (.system systemSocketID))
    else
      errnoReturn systemSocketID

/-- A descriptor for what the operating system opens, which is closed again if there is no slot. -/
def openDescriptor : Act L Int := do
  let systemSocketID ← openSystem E
  if 0 ≤ systemSocketID then
    let result ← ExtSocketDescriptorMaster.setSocket E (.system systemSocketID)
    if result < 0 then closeSystem systemSocketID
    errnoReturn result
  else
    errnoReturn systemSocketID

-- Path, flags and mode matter to the operating system only.
def ext_open : Act L Int := openDescriptor E
def ext_creat : Act L Int := openDescriptor E

/-! ## Closing -/

/-- `mayRemoveSocket` for the descriptor in a slot. -/
def mayRemoveSocket (descriptors : Nat → ExtSocketDescriptor) (slot : Nat) (s : SocketPtr) : Bool :=
  (List.range' 1 MaxSockets).all fun i =>
    match getSocket i with
    | some j => !(j ≠ slot && match descriptors j with
        | .sctp td => td.sctpSocketPtr == some s
        | _ => false)
    | none => true

/-- The association of a descriptor that is closed. -/
def closeAssociation (desc : SCTPSocketDesc) : Act L Unit := do
  match desc.sctpAssociationPtr with
  | some p =>
    if desc.linger.onoff = 1 then
      if 0 < desc.linger.linger then SCTPAssociation.shutdown E (SCTPSocketMaster.notif E) p
      else SCTPAssociation.abort E (SCTPSocketMaster.notif E) p
    SCTPAssociation.delete E (SCTPSocketMaster.notif E) p
  | none => pure ()

/-- The socket of a descriptor that is closed. -/
def closeSocket (slot : Nat) (desc : SCTPSocketDesc) : Act L Unit := do
  match desc.sctpSocketPtr with
  | some s =>
    if mayRemoveSocket (← shared).descriptors slot s then
      if desc.linger.onoff = 1 then
        SCTPSocket.unbind E s (!decide (0 < desc.linger.linger))
      SCTPSocket.delete E s
  | none => pure ()

def ext_close (sockfd : Int) : Act L Int := do
  match getSocket sockfd with
  | none => errnoReturn (-EBADF)
  | some slot =>
    lock
    match ← descriptorAt slot with
    | .sctp desc =>
      closeAssociation E desc
      setDesc slot fun d => { d with sctpAssociationPtr := none }
      closeSocket E slot desc
      setDesc slot fun d => { d with sctpSocketPtr := none }
    | .system systemSocketID => closeSystem systemSocketID
    | .invalid =>
      unlock E
      return ← errnoReturn (- ENXIO)
    setDescriptor slot .invalid
    unlock E
    errnoReturn 0

/-! ## Pipes -/

/-- `pipe()`. -/
def pipeSystem : Act L (Option (Int × Int)) := do
  let fds := (← shared).openFDs
  let fd0 := E.openSystem fds
  let fd1 := E.openSystem (fd0 :: fds)
  if 0 ≤ fd0 ∧ 0 ≤ fd1 then
    update fun w => { w with openFDs := fd1 :: fd0 :: w.openFDs }
    return some (fd0, fd1)
  else
    return none

/-- `ext_pipe`: its result and the array of the caller. -/
def ext_pipe (fds : Int × Int) : Act L (Int × Int × Int) := do
  match ← pipeSystem E with
  | some newPipe =>
    let fd0 ← ExtSocketDescriptorMaster.setSocket E (.system newPipe.1)
    if fd0 < 0 then
      closeSystem newPipe.1
      closeSystem newPipe.2
      return (← errnoReturn fd0, fd0, fds.2)
    let fd1 ← ExtSocketDescriptorMaster.setSocket E (.system newPipe.2)
    if fd1 < 0 then
      discard (ext_close E fd0)
      closeSystem newPipe.2
      return (← errnoReturn fd1, fd0, fd1)
    return (← errnoReturn 0, fd0, fd1)
  | none => return (-1, fds)

/-! ## Binding and listening -/

/-- `InternetAddress::reset`. -/
def anyHost : String := if E.useIPv6 then "::" else "0.0.0.0"

/-- The loop of `bindToAny` over random ports; the result is that of the last try. -/
def bindRandomPort (s : SocketPtr) (initMsg : InitMsg) : Nat → Nat → Int → Act L Int
  | 0, _, result => return result
  | n + 1, i, _ => do
    lock
    let port := (16384 + E.random i % (61000 - 16384)) % 65536
    unlock E
    let result ← SCTPSocket.bind E s port initMsg.maxInstreams initMsg.numOstreams
      [{ host := anyHost E, port }]
    if 0 ≤ result then return result else bindRandomPort s initMsg n (i + 1) result

def bindToAny (slot : Nat) : Act L Int := do
  match ← descriptorAt slot with
  | .sctp desc =>
    match desc.sctpSocketPtr with
    | some s =>
      if (← socketAt s).instanceName ≤ 0 then
        errnoReturn (← bindRandomPort E s desc.initMsg 50000 0 0)
      else errnoReturn 0
    | none => errnoReturn 0
  | _ => errnoReturn 0

inductive BindxFlags where
  | addAddr | remAddr | other
  deriving DecidableEq, Repr

/-- `addAddress` or `deleteAddress` for the addresses of an array, up to the first failure. -/
def changeAddresses (change : SocketAddress → Act L Bool) : List SocketAddress → Act L Int
  | [] => return 0
  | a :: rest => do
    if ← change a then changeAddresses change rest else return -EINVAL

/-- The result of `sctp_bindx` for the addresses it has got. -/
def bindAddresses (desc : SCTPSocketDesc) (s : SocketPtr) (addresses : List SocketAddress) (flags : BindxFlags) :
    Act L Int := do
  if (← socketAt s).instanceName ≤ 0 then
    if flags = .addAddr then
      let port := (addresses.head?.map (·.port)).getD 0
      SCTPSocket.bind E s port desc.initMsg.maxInstreams desc.initMsg.numOstreams addresses
    else return -EINVAL
  else
    match flags, desc.sctpAssociationPtr with
    | .addAddr, some p => changeAddresses (SCTPAssociation.addAddress E p) addresses
    | .addAddr, none => changeAddresses (SCTPSocket.addAddress E s 0) addresses
    | .remAddr, some p => changeAddresses (SCTPAssociation.deleteAddress E p) addresses
    | .remAddr, none => changeAddresses (SCTPSocket.deleteAddress E s 0) addresses
    | .other, _ => return -EINVAL

/-- `sctp_bindx`; an address of which no object can be made is `none`. -/
def sctp_bindx (sockfd : Int) (addrs : List (Option SocketAddress)) (flags : BindxFlags) : Act L Int := do
  match getSocket sockfd with
  | none => errnoReturn (-EBADF)
  | some slot =>
    match ← descriptorAt slot with
    | .sctp desc =>
      if addrs.length < 1 ∨ SCTP_MAX_NUM_ADDRESSES < addrs.length then
        errnoReturn (-EINVAL)
      else
        match desc.sctpSocketPtr, addrs.mapM id with
        | none, _ => errnoReturn (-EBADF)
        | some _, none => errnoReturn (-ENOMEM)
        | some s, some addresses => errnoReturn (← bindAddresses E desc s addresses flags)
    | .system systemSocketID => return E.systemCall systemSocketID
    | .invalid => errnoReturn (- ENXIO)

def ext_bind (sockfd : Int) (address : Option SocketAddress) : Act L Int := do
  match getSocket sockfd with
  | none => errnoReturn (-EBADF)
  | some slot =>
    match ← descriptorAt slot with
    | .sctp _ => sctp_bindx E sockfd [address] .addAddr
    | .system systemSocketID => return E.systemCall systemSocketID
    | .invalid => errnoReturn (- ENXIO)

def ext_listen (sockfd : Int) (backlog : Nat) : Act L Int := do
  match getSocket sockfd with
  | none => errnoReturn (-EBADF)
  | some slot =>
    match ← descriptorAt slot with
    | .sctp desc =>
      discard (bindToAny E slot)
      match desc.sctpSocketPtr with
      | some s =>
        SCTPSocket.listen E s backlog
        errnoReturn 0
      | none => errnoReturn (-EOPNOTSUPP)
    | .system systemSocketID => return E.systemCall systemSocketID
    | .invalid => errnoReturn (- ENXIO)

/-! ## Accepting and peeling off -/

/-- A new descriptor for an association of the descriptor in a slot. Without a free slot the
association is deleted. -/
def newDescriptor (slot : Nat) (p : AssocPtr) : Act L Int := do
  match ← descriptorAt slot with
  | .sctp desc =>
    let newFD ← ExtSocketDescriptorMaster.setSocket E (.sctp { desc with connectionOriented := true, sctpAssociationPtr := some p })
    if newFD < 0 then
      SCTPAssociation.delete E (SCTPSocketMaster.notif E) p
    release p
    return newFD
  | _ => throw .undefinedBehaviour

/-- `ext_accept`; `addrlen` is the length of the caller's address buffer, if it has one. -/
def ext_accept (sockfd : Int) (addrlen : Option Nat) : Act L (Int × Option Nat) := do
  match getSocket sockfd with
  | none => return (← errnoReturn (-EBADF), addrlen)
  | some slot =>
    match ← descriptorAt slot with
    | .sctp desc =>
      match desc.sctpSocketPtr with
      | none => return (← errnoReturn (-EOPNOTSUPP), addrlen)
      | some s =>
        match ← SCTPSocket.accept E s true (!desc.nonBlock) with
        | (none, _) => return (← errnoReturn (-EAGAIN), addrlen)
        | (some p, addresses) =>
          let written := match addresses.bind (·.head?), addrlen with
            | some a, some length => some (a.getSystemAddress length desc.domain)
            | _, length => length
          let newFD ← newDescriptor E slot p
          -- After a failure the pointer to the association is null.
          if newFD < 0 then throw .undefinedBehaviour
          SCTPAssociation.setNotificationFlags p defaultFlags
          return (← errnoReturn newFD, written)
    | .system _ =>
      let systemSocketID ← openSystem E
      if 0 ≤ systemSocketID then
        let result ← ExtSocketDescriptorMaster.setSocket E (.system systemSocketID)
        if result < 0 then closeSystem systemSocketID
        return (← errnoReturn result, addrlen)
      else
        return (← errnoReturn systemSocketID, addrlen)
    | .invalid => return (← errnoReturn (- ENXIO), addrlen)

def sctp_peeloff (sockfd : Int) (id : AssocID) : Act L Int := do
  match getSocket sockfd with
  | none => return -EBADF
  | some slot =>
    match ← descriptorAt slot with
    | .sctp desc =>
      let association ← match desc.sctpSocketPtr with
        | some s => if desc.type ≠ .stream then SCTPSocket.peelOff E s id else pure none
        | none => pure none
      match association with
      | some p => errnoReturn (← newDescriptor E slot p)
      | none => errnoReturn (-EINVAL)
    | _ => errnoReturn (-EOPNOTSUPP)

/-! ## Connecting -/

/-- `ext_connectx`: its result and what it leaves in `id`. -/
def ext_connectx (sockfd : Int) (addrs : List (Option SocketAddress)) : Act L (Int × AssocID) := do
  match getSocket sockfd with
  | none => return (← errnoReturn (-EBADF), 0)
  | some slot =>
    match ← descriptorAt slot with
    | .sctp desc =>
      discard (bindToAny E slot)
      match desc.sctpSocketPtr, addrs.mapM id with
      | none, _ => return (← errnoReturn (-EBADF), 0)
      | some _, none => return (← errnoReturn (-EINVAL), 0)
      | some s, some addresses =>
        if desc.connectionOriented then
          let association ← SCTPSocket.associate E s desc.initMsg.numOstreams desc.initMsg.maxAttempts
            desc.initMsg.maxInitTimeo addresses (!desc.nonBlock)
          setDesc slot fun d => { d with sctpAssociationPtr := association }
          match association with
          | none => return (← errnoReturn (- EIO), 0)
          | some p =>
            release p
            if desc.nonBlock then
              return (← errnoReturn (-EINPROGRESS), 0)
            else
              let id ← SCTPAssociation.getID p
              return (← errnoReturn 0, id)
        else
          let (result, id) ← SCTPSocket.sendTo E s
            { params := { flags := { dontwait := desc.nonBlock } }
              maxAttempts := desc.initMsg.maxAttempts, maxInitTimeout := desc.initMsg.maxInitTimeo
              destinationAddressList := some addresses, noOfOutgoingStreams := desc.initMsg.numOstreams }
          if result = 0 ∧ desc.nonBlock then
            return (← errnoReturn (-EINPROGRESS), id)
          else
            return (← errnoReturn result, id)
    | .system _ => return (← errnoReturn (-EOPNOTSUPP), 0)
    | .invalid => return (← errnoReturn (- ENXIO), 0)

/-- `ext_connect`. It takes every descriptor without SCTP for one of the system; `unused` is what
the slot of an unused one holds. -/
def ext_connect (unused : Int) (sockfd : Int) (address : Option SocketAddress) : Act L Int := do
  match getSocket sockfd with
  | none => errnoReturn (-EBADF)
  | some slot =>
    match ← descriptorAt slot with
    | .sctp _ => return (← ext_connectx E sockfd [address]).1
    | .system systemSocketID => return E.systemCall systemSocketID
    | .invalid => return E.systemCall unused

/-! ## Events -/

/-- `setEvents`, the option `SCTP_EVENTS`: the events are the flags they stand for. -/
def setEvents (sockfd : Int) (flags : NotificationFlags) : Act L Int := do
  match getSocket sockfd with
  | none => errnoReturn (-EBADF)
  | some slot =>
    match ← descriptorAt slot with
    | .sctp desc =>
      match desc.sctpAssociationPtr, desc.connectionOriented, desc.sctpSocketPtr with
      | some p, true, _ =>
        SCTPAssociation.setNotificationFlags p flags
        errnoReturn 0
      | _, _, some s =>
        SCTPSocket.setNotificationFlags s flags
        errnoReturn 0
      | _, _, none => return -EBADF
    | .system systemSocketID => return E.systemCall systemSocketID
    | .invalid => errnoReturn (- ENXIO)

end SocketApi
