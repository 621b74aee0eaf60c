import SocketApi.Options

/-!
# The remaining calls

The calls of the C interface that ask for the addresses, the flags and the options of a
descriptor, the wrappers of a send or a receive, and the two calls that change the protocol
library as a whole.
-/

namespace SocketApi

open Effect ExtSocketDescriptorMaster

variable {L : Sctplib} (E : Environment L)

def sctp_isavailable : Act L Int := return if E.initialized then 1 else 0

/-! ## Names -/

/-- The addresses for `ext_getsockname`, and its result if there are none. -/
def localAddresses (desc : SCTPSocketDesc) : Act L (Int × Option (List SocketAddress)) := do
  match desc.sctpAssociationPtr, desc.connectionOriented, desc.sctpSocketPtr with
  | some p, true, _ => return (- ENXIO, (← SCTPAssociation.getLocalAddresses E p).2)
  | _, _, some s => return (- ENXIO, (← SCTPSocket.getLocalAddresses E s).2)
  | _, _, none => return (-EBADF, none)

/-- The addresses for `ext_getpeername`. -/
def remoteAddresses (desc : SCTPSocketDesc) : Act L (Int × Option (List SocketAddress)) := do
  match desc.sctpAssociationPtr with
  | some p => return (- ENXIO, (← SCTPAssociation.getRemoteAddresses E p).2)
  | none => return (-EBADF, none)

/-- The result for an array, and the address put into the buffer of the caller: the first one
that fits. -/
def systemName (domain : Family) (namelen : Option Nat) : Int × Option (List SocketAddress) → Int × Option SocketAddress
  | (result, none) | (result, some []) => (result, none)
  | (result, some addresses) =>
    match namelen with
    | some length =>
      match addresses.find? fun a => 0 < a.getSystemAddress length domain with
      | some a => (0, some a)
      | none => (-ENAMETOOLONG, none)
    | none => (result, none)

/-- `namelen` is the length of the buffer for the address, if there is one. -/
def getName (addresses : SCTPSocketDesc → Act L (Int × Option (List SocketAddress))) (sockfd : Int)
    (namelen : Option Nat) : Act L (Int × Option SocketAddress) := do
  match getSocket sockfd with
  | none => return (← errnoReturn (-EBADF), none)
  | some slot =>
    match ← descriptorAt slot with
    | .sctp desc =>
      let (result, name) := systemName desc.domain namelen (← addresses desc)
      return (← errnoReturn result, name)
    | .system systemSocketID => return (E.systemCall systemSocketID, none)
    | .invalid => return (← errnoReturn (- ENXIO), none)

def ext_getsockname (sockfd : Int) (namelen : Option Nat) : Act L (Int × Option SocketAddress) :=
  getName E (localAddresses E) sockfd namelen

def ext_getpeername (sockfd : Int) (namelen : Option Nat) : Act L (Int × Option SocketAddress) :=
  getName E (remoteAddresses E) sockfd namelen

/-! ## Packed addresses -/

/-- The caller asks for another association than that of the descriptor. -/
def isOther (p : AssocPtr) (id : AssocID) : Act L Bool := do
  if id ≠ 0 then return (← SCTPAssociation.getID p) ≠ id else return false

/-- The addresses for `sctp_getlpaddrs`, and its result if there are none. -/
def localOrPeerAddresses (desc : SCTPSocketDesc) (id : AssocID) (peerAddresses : Bool) :
    Act L (Int × Option (List SocketAddress)) := do
  match peerAddresses, desc.sctpAssociationPtr, desc.sctpSocketPtr with
  | true, some p, _ =>
    if ← isOther p id then return (-EINVAL, none)
    else return (- ENXIO, (← SCTPAssociation.getRemoteAddresses E p).2)
  | true, none, some s => return (- ENXIO, (← SCTPSocket.getRemoteAddresses E s id).2)
  | false, some p, _ => return (- ENXIO, (← SCTPAssociation.getLocalAddresses E p).2)
  | false, none, some s => return (- ENXIO, (← SCTPSocket.getLocalAddresses E s).2)
  | _, none, none => return (-EBADF, none)

def SocketAddress.getFamily (a : SocketAddress) : Family := if a.isIPv4 && !E.useIPv6 then .inet else .inet6

/-- The family of an address in a packed array: `AF_INET` if it is possible. -/
def SocketAddress.packedFamily (a : SocketAddress) : Family :=
  if a.getFamily E = .inet6 ∧ 0 < a.getSystemAddress 128 .inet then .inet else a.getFamily E

/-- The result for an array, and the packed array for the caller. -/
def packAddresses : Int × Option (List SocketAddress) → Int × List (SocketAddress × Family)
  | (result, none) | (result, some []) => (result, [])
  | (_, some addresses) =>
    if !E.allocates .addressStorage then (-ENOMEM, [])
    else if addresses.all fun a => 0 < a.getSystemAddress 128 (a.packedFamily E) then
      (addresses.length, addresses.map fun a => (a, a.packedFamily E))
    else (-ENAMETOOLONG, [])

def sctp_getlpaddrs (sockfd : Int) (id : AssocID) (peerAddresses : Bool) :
    Act L (Int × List (SocketAddress × Family)) := do
  match getSocket sockfd with
  | none => return (← errnoReturn (-EBADF), [])
  | some slot =>
    match ← descriptorAt slot with
    | .sctp desc =>
      let (result, packedAddrs) := packAddresses E (← localOrPeerAddresses E desc id peerAddresses)
      return (← errnoReturn result, packedAddrs)
    | .system _ => return (← errnoReturn (-EOPNOTSUPP), [])
    | .invalid => return (← errnoReturn (- ENXIO), [])

def sctp_getpaddrs (sockfd : Int) (id : AssocID) : Act L (Int × List (SocketAddress × Family)) :=
  sctp_getlpaddrs E sockfd id true

def sctp_getladdrs (sockfd : Int) (id : AssocID) : Act L (Int × List (SocketAddress × Family)) :=
  sctp_getlpaddrs E sockfd id false

/-! ## Flags -/

inductive FcntlCommand where
  | getFl
  | setFl (arg : Nat)
  | other
  deriving DecidableEq, Repr

def O_NONBLOCK : BitVec 32 := 0x800

/-- The member `Flags`. -/
def SCTPSocketDesc.flags (desc : SCTPSocketDesc) : BitVec 32 :=
  if desc.nonBlock then desc.otherFlags ||| O_NONBLOCK else desc.otherFlags

def SCTPSocketDesc.setFlags (arg : Nat) (desc : SCTPSocketDesc) : SCTPSocketDesc :=
  { desc with
    nonBlock := BitVec.ofNat 32 arg &&& O_NONBLOCK != 0
    otherFlags := BitVec.ofNat 32 arg &&& ~~~O_NONBLOCK }

def ext_fcntl (sockfd : Int) (cmd : FcntlCommand) : Act L Int := do
  match getSocket sockfd with
  | none => errnoReturn (-EBADF)
  | some slot =>
    match ← descriptorAt slot with
    | .sctp desc =>
      match cmd with
      | .getFl => errnoReturn desc.flags.toInt
      | .setFl arg =>
        setDesc slot (·.setFlags arg)
        errnoReturn 0
      | .other => errnoReturn (-EOPNOTSUPP)
    | .system systemSocketID => return E.systemCall systemSocketID
    | .invalid => errnoReturn (- ENXIO)

def ext_ioctl (sockfd : Int) : Act L Int := do
  match getSocket sockfd with
  | none => errnoReturn (-EBADF)
  | some slot =>
    match ← descriptorAt slot with
    | .sctp _ => errnoReturn (-EOPNOTSUPP)
    | .system systemSocketID => return E.systemCall systemSocketID
    | .invalid => errnoReturn (- ENXIO)

/-! ## Options -/

/-- The options without a value: those that are accepted and ignored (`IPV6_FLOWINFO`,
`IPV6_FLOWINFO_SEND`, `IP_RECVTOS`) and the unknown ones, of `IPPROTO_SCTP` or of another level. -/
inductive OtherOption where
  | ignored | unknownSCTP | unknown
  deriving DecidableEq, Repr

def OtherOption.getResult : OtherOption → Int
  | .ignored => 0
  | .unknownSCTP | .unknown => -EOPNOTSUPP

def OtherOption.setResult : OtherOption → Int
  | .ignored => 0
  | .unknownSCTP => - ENXIO
  | .unknown => -EOPNOTSUPP

/-- `ext_getsockopt` and `ext_setsockopt` for an option without a value. -/
def otherOption (result : Int) (sockfd : Int) : Act L Int := do
  match getSocket sockfd with
  | none => errnoReturn (-EBADF)
  | some slot =>
    match ← descriptorAt slot with
    | .sctp _ => errnoReturn result
    | .system systemSocketID => return E.systemCall systemSocketID
    | .invalid => errnoReturn (- ENXIO)

def ext_getsockoptOther (sockfd : Int) (option : OtherOption) : Act L Int := otherOption E option.getResult sockfd
def ext_setsockoptOther (sockfd : Int) (option : OtherOption) : Act L Int := otherOption E option.setResult sockfd

/-- `ext_setsockopt` for `SCTP_PEER_ADDR_PARAMS` with the structure it leaves to the caller. -/
def setPeerAddrParams (sockfd : Int) (params : SctpPaddrparams) (fits : Bool) : Act L OptResult := do
  match getSocket sockfd with
  | none => errnoResult (-EBADF) (.peerAddrParams params)
  | some slot =>
    match ← descriptorAt slot with
    | .sctp desc =>
      if fits then configurePeerAddressParams E desc params false
      else errnoResult (-EINVAL) (.peerAddrParams params)
    | .system systemSocketID => return (E.systemCall systemSocketID, .peerAddrParams params)
    | .invalid => errnoResult (- ENXIO) (.peerAddrParams params)

/-- `sctp_opt_info`: its result and the structure. -/
def sctp_opt_info (sd : Int) (assocID : AssocID) (arg : SockOpt) (fits : Bool) : Act L OptResult := do
  match arg with
  | .rtoInfo rtoinfo => ext_getsockopt E sd (.rtoInfo { rtoinfo with srto_assoc_id := assocID }) fits
  | .assocInfo assocparams => ext_getsockopt E sd (.assocInfo { assocparams with sasoc_assoc_id := assocID }) fits
  | .status status => ext_getsockopt E sd (.status { status with sstat_assoc_id := assocID }) fits
  | .peerAddrInfo paddrinfo => ext_getsockopt E sd (.peerAddrInfo { paddrinfo with spinfo_assoc_id := assocID }) fits
  | .primaryAddr _ _ | .peerPrimaryAddr _ _ | .streamTimeouts _ _ _ _ => return (← ext_setsockopt E sd arg fits, arg)
  | .peerAddrParams params => setPeerAddrParams E sd params fits
  | _ => errnoResult (-EOPNOTSUPP) arg

/-! ## Messages -/

/-- `ext_recvmsg` for a message without an array of buffers that claims to have one. -/
def ext_recvmsgWithoutBuffers (sockfd : Int) : Act L Int := do
  match getSocket sockfd with
  | none => errnoReturn (-EBADF)
  | some slot =>
    match ← descriptorAt slot with
    | .sctp _ => errnoReturn (-EINVAL)
    | .system systemSocketID => return E.systemCall systemSocketID
    | .invalid => errnoReturn (- ENXIO)

-- The parameter `context` is not used.
def sctp_sendmsg (s : Int) (data : List UInt8) (address : Option (Option SocketAddress)) (ppid : Nat) (flags : MsgFlags)
    (stream_no : StreamID) (timetolive : Nat) : Act L Int :=
  let sri : SctpSndrcvinfo :=
    { sinfo_stream := stream_no, sinfo_ppid := ppid, sinfo_flags := flags, sinfo_timetolive := timetolive }
  ext_sendmsg E s { name := address.map ([·]), control := [.sndrcv sri], flags } [data] {}

def sctp_send (s : Int) (data : List UInt8) (sinfo : SctpSndrcvinfo) (flags : MsgFlags) : Act L Int :=
  ext_sendmsg E s { control := [.sndrcv sinfo], flags } [data] {}

def sctp_sendx (sd : Int) (data : List UInt8) (addrs : Option (List (Option SocketAddress)))
    (sinfo : Option SctpSndrcvinfo) (flags : MsgFlags) : Act L Int :=
  let sri := sinfo.getD {}
  let sri := { sri with sinfo_flags := { sri.sinfo_flags with multiAddrs := true } }
  ext_sendmsg E sd { name := addrs, control := [.sndrcv sri], flags := { flags with multiAddrs := true } } [data] {}

/-- What `sctp_recvmsg` leaves behind; `fromlen` and `sinfo` as far as the caller wants them. -/
structure SctpRecvOutcome where
  result : Int
  parts : List (Nat × List UInt8)
  fromlen : Option Nat
  address : Option SocketAddress
  sinfo : Option SctpSndrcvinfo
  msg_flags : MsgFlags
  deriving DecidableEq, Repr

def sctp_recvmsg (s : Int) (len : Nat) (fromlen : Option Nat) (sinfo : Option SctpSndrcvinfo) (msg_flags : MsgFlags) :
    Act L SctpRecvOutcome := do
  let r ← ext_recvmsg E s { name := fromlen.isSome, namelen := fromlen.getD 0, control := true, controllen := sndrcvSpace
                            flags := msg_flags } [len] {}
  let info := if 0 < r.result ∧ r.msg.control ∧ 0 < r.msg.controllen then r.msg.info else none
  return { result := r.result, parts := r.parts, fromlen := fromlen.map fun _ => r.msg.namelen
           address := r.msg.address, sinfo := sinfo.map info.getD, msg_flags := r.msg.flags }

/-! ## The protocol library -/

inductive ChecksumAlgorithm where
  | crc32c | adler32
  deriving DecidableEq, Repr

/-- `SCTP_Library_Parameters`: the fields the API writes. -/
structure LibraryParameters where
  sendOotbAborts : Nat := 1
  checksumAlgorithm : ChecksumAlgorithm := .crc32c
  deriving DecidableEq, Repr

/-- `sctp_getLibraryParameters` and `sctp_setLibraryParameters` of the protocol library. -/
structure LibraryAccess (L : Sctplib) where
  getLibraryParameters : L.State → Option LibraryParameters
  setLibraryParameters : L.State → LibraryParameters → Bool × L.State

variable (T : LibraryAccess L)

namespace SCTPSocketMaster

/-- The body of `enableOOTBHandling` and `enableCRC32`. -/
def changeLibraryParameters (change : LibraryParameters → LibraryParameters) : Act L Bool := locked E do
  match T.getLibraryParameters (← shared).stack with
  | some parameters => library (T.setLibraryParameters · (change parameters))
  | none => return false

def enableOOTBHandling (enable : Bool) : Act L Bool :=
  changeLibraryParameters E T fun parameters => { parameters with sendOotbAborts := if enable then 1 else 0 }

def enableCRC32 (enable : Bool) : Act L Bool :=
  changeLibraryParameters E T fun parameters =>
    { parameters with checksumAlgorithm := if enable then .crc32c else .adler32 }

end SCTPSocketMaster

def sctp_enableOOTBHandling (enable : Nat) : Act L Int := do
  if ← SCTPSocketMaster.enableOOTBHandling E T (enable ≠ 0) then return 0 else return - EIO

def sctp_enableCRC32 (enable : Nat) : Act L Int := do
  if ← SCTPSocketMaster.enableCRC32 E T (enable ≠ 0) then return 0 else return - EIO

end SocketApi
