import SocketApi.Flags

/-!
# Notifications and their queue

`SctpNotification` is the union `sctp_notification`: the constructor says which member was
written, and reading through another member reads the bytes written there. The queue is
the list of its entries from `First` to `Last`.
-/

namespace SocketApi

abbrev AssocID := Nat
abbrev StreamID := Nat

/-! ## Notification contents -/

/-- The values of `sn_type`. -/
inductive NotificationType where
  | undefined | assocChange | peerAddrChange | remoteError | sendFailed | shutdownEvent | dataArrive
  deriving DecidableEq, Repr

def NotificationType.code : NotificationType → Nat
  | .undefined => 0
  | .assocChange => 1
  | .peerAddrChange => 2
  | .remoteError => 3
  | .sendFailed => 4
  | .shutdownEvent => 5
  | .dataArrive => 8

/-- The values of `sac_state`. -/
inductive AssocState where
  | commUp | commLost | restart | shutdownComp
  deriving DecidableEq, Repr

def AssocState.code : AssocState → Nat
  | .commUp => 11
  | .commLost => 12
  | .restart => 13
  | .shutdownComp => 14

/-- The values of `spc_state`; `other` is the 0 of an unknown state. -/
inductive AddrState where
  | reachable | unreachable | removed | added | confirmed | other
  deriving DecidableEq, Repr

def AddrState.code : AddrState → Nat
  | .reachable => 21
  | .unreachable => 22
  | .removed => 23
  | .added => 24
  | .confirmed => 26
  | .other => 0

structure SctpAssocChange where
  sac_type : NotificationType
  sac_length : Nat
  sac_state : AssocState
  sac_error : Nat
  sac_outbound_streams : Nat
  sac_inbound_streams : Nat
  sac_assoc_id : AssocID
  deriving DecidableEq, Repr

structure SctpPaddrChange where
  spc_type : NotificationType
  spc_length : Nat
  spc_aaddr : List UInt8
  spc_state : AddrState
  spc_error : Nat
  spc_assoc_id : AssocID
  deriving DecidableEq, Repr

structure SctpRemoteError where
  sre_type : NotificationType
  sre_length : Nat
  sre_error : Nat
  sre_assoc_id : AssocID
  deriving DecidableEq, Repr

structure SctpSndrcvinfo where
  sinfo_stream : StreamID := 0
  sinfo_ssn : Nat := 0
  sinfo_flags : MsgFlags := {}
  sinfo_ppid : Nat := 0
  sinfo_context : Nat := 0
  sinfo_timetolive : Nat := 0
  sinfo_tsn : Nat := 0
  sinfo_cumtsn : Nat := 0
  sinfo_assoc_id : AssocID := 0
  deriving DecidableEq, Repr

structure SctpSendFailed where
  ssf_type : NotificationType
  ssf_length : Nat
  ssf_error : Nat
  ssf_info : SctpSndrcvinfo
  ssf_assoc_id : AssocID
  deriving DecidableEq, Repr

structure SctpShutdownEvent where
  sse_type : NotificationType
  sse_length : Nat
  sse_assoc_id : AssocID
  deriving DecidableEq, Repr

structure SctpDataArrive where
  sda_type : NotificationType
  sda_length : Nat
  sda_unordered : Bool
  sda_assoc_id : AssocID
  sda_stream : StreamID
  sda_ppid : Nat
  sda_bytes_arrived : Nat
  deriving DecidableEq, Repr

/-- `union sctp_notification`. -/
inductive SctpNotification where
  | undefined
  | assocChange (sac : SctpAssocChange)
  | paddrChange (spc : SctpPaddrChange)
  | remoteError (sre : SctpRemoteError)
  | sendFailed (ssf : SctpSendFailed)
  | shutdownEvent (sse : SctpShutdownEvent)
  | dataArrive (sda : SctpDataArrive)
  deriving DecidableEq, Repr

namespace SctpNotification

/-- `sn_header.sn_type`: the type field of the member that was written. -/
def snType : SctpNotification → NotificationType
  | undefined => .undefined
  | assocChange sac => sac.sac_type
  | paddrChange spc => spc.spc_type
  | remoteError sre => sre.sre_type
  | sendFailed ssf => ssf.ssf_type
  | shutdownEvent sse => sse.sse_type
  | dataArrive sda => sda.sda_type

/-- `sn_header.sn_length`. -/
def snLength : SctpNotification → Nat
  | undefined => 0
  | assocChange sac => sac.sac_length
  | paddrChange spc => spc.spc_length
  | remoteError sre => sre.sre_length
  | sendFailed ssf => ssf.ssf_length
  | shutdownEvent sse => sse.sse_length
  | dataArrive sda => sda.sda_length

/-- The association ID `internalReceive` reads for the header's type. `sre_assoc_id` lies at
offset 12: in a `sctp_send_failed` these are `sinfo_stream` and `sinfo_ssn`. -/
def headerAssocID (n : SctpNotification) : AssocID :=
  match n with
  | undefined => 0
  | assocChange sac => sac.sac_assoc_id
  | paddrChange spc => spc.spc_assoc_id
  | remoteError sre => sre.sre_assoc_id
  | sendFailed ssf =>
    match ssf.ssf_type with
    | .remoteError => ssf.ssf_info.sinfo_stream + 65536 * ssf.ssf_info.sinfo_ssn
    | _ => ssf.ssf_assoc_id
  | shutdownEvent sse => sse.sse_assoc_id
  | dataArrive sda => sda.sda_assoc_id

end SctpNotification

/-- A little-endian number of `k` bytes. -/
def leBytes : Nat → Nat → List UInt8
  | 0, _ => []
  | k + 1, n => UInt8.ofNat n :: leBytes k (n / 256)

/-- The bytes of the union as they lie in memory; bytes the library does not write are 0.
`sn_flags` is 0 everywhere but in a data arrival, which is never copied out. -/
def SctpNotification.bytes : SctpNotification → List UInt8
  | undefined => List.replicate 152 0
  | assocChange s =>
    leBytes 2 s.sac_type.code ++ leBytes 2 0 ++ leBytes 4 s.sac_length ++ leBytes 2 s.sac_state.code ++
      leBytes 2 s.sac_error ++ leBytes 2 s.sac_outbound_streams ++ leBytes 2 s.sac_inbound_streams ++
      leBytes 4 s.sac_assoc_id
  | paddrChange s =>
    leBytes 2 s.spc_type.code ++ leBytes 2 0 ++ leBytes 4 s.spc_length ++
      (s.spc_aaddr ++ List.replicate 128 0).take 128 ++ leBytes 4 s.spc_state.code ++
      leBytes 4 s.spc_error ++ leBytes 4 s.spc_assoc_id ++ leBytes 4 0
  | remoteError s =>
    leBytes 2 s.sre_type.code ++ leBytes 2 0 ++ leBytes 4 s.sre_length ++ leBytes 2 s.sre_error ++
      leBytes 2 0 ++ leBytes 4 s.sre_assoc_id
  | sendFailed s =>
    leBytes 2 s.ssf_type.code ++ leBytes 2 0 ++ leBytes 4 s.ssf_length ++ leBytes 4 s.ssf_error ++
      leBytes 2 s.ssf_info.sinfo_stream ++ leBytes 2 s.ssf_info.sinfo_ssn ++ leBytes 4 0 ++
      leBytes 4 s.ssf_info.sinfo_ppid ++ leBytes 4 s.ssf_info.sinfo_context ++
      leBytes 4 s.ssf_info.sinfo_timetolive ++ leBytes 4 s.ssf_info.sinfo_tsn ++
      leBytes 4 s.ssf_info.sinfo_cumtsn ++ leBytes 4 s.ssf_info.sinfo_assoc_id ++ leBytes 4 s.ssf_assoc_id
  | shutdownEvent s =>
    leBytes 2 s.sse_type.code ++ leBytes 2 0 ++ leBytes 4 s.sse_length ++ leBytes 4 s.sse_assoc_id ++
      List.replicate 8 0
  | dataArrive s =>
    leBytes 2 s.sda_type.code ++ leBytes 2 (if s.sda_unordered then 1 else 0) ++ leBytes 4 s.sda_length ++
      leBytes 4 s.sda_assoc_id ++ leBytes 2 s.sda_stream ++ leBytes 2 0 ++ leBytes 4 s.sda_ppid ++
      leBytes 4 s.sda_bytes_arrived

/-- `SCTPNotification`, less its `NextNotification`. -/
structure SCTPNotification where
  content : SctpNotification := .undefined
  contentPosition : Nat := 0
  remotePort : Nat := 0
  remoteAddress : List String := []
  deriving DecidableEq, Repr

/-- The test `hasData`, `addNotification` and `internalReceive` share: data, or a
notification of a type the flags select. -/
def NotificationFlags.selects (f : NotificationFlags) : NotificationType → Bool
  | .assocChange => f.recvAssocEvnt
  | .peerAddrChange => f.recvPaddrEvnt
  | .remoteError => f.recvPeerErr
  | .sendFailed => f.recvSendFailEvnt
  | .shutdownEvent => f.recvShutdownEvnt
  | .dataArrive | .undefined => false

/-! ## The queue -/

abbrev SCTPNotificationQueue := List SCTPNotification

namespace SCTPNotificationQueue

def addNotification (q : SCTPNotificationQueue) (n : SCTPNotification) : SCTPNotificationQueue :=
  q ++ [n]

def getNotification (q : SCTPNotificationQueue) : Option SCTPNotification := q.head?

def updateNotification (q : SCTPNotificationQueue) (n : SCTPNotification) : SCTPNotificationQueue :=
  match q with
  | [] => []
  | _ :: q => n :: q

def dropNotification (q : SCTPNotificationQueue) : SCTPNotificationQueue := q.tail

def hasData (q : SCTPNotificationQueue) (flags : NotificationFlags) : Bool :=
  q.any fun n => n.content.snType == .dataArrive || flags.selects n.content.snType

end SCTPNotificationQueue

end SocketApi
