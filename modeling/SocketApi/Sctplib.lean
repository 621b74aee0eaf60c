import SocketApi.Notification

/-!
# The protocol library as a parameter

The socket API runs on an SCTP protocol library whose source is not part of the
repository. `Sctplib` lists the functions of that library the API calls, over a state the
API never looks into.
-/

namespace SocketApi

abbrev InstanceID := Int

/-- The notifications `sctp_shutdown` and `sctp_abort` may deliver before they return. -/
inductive TerminalNotif where
  | communicationLost | shutdownComplete
  deriving DecidableEq, Repr

/-- `SCTP_Association_Status`: the fields the API reads or writes. `destinationPathIDs` is
the whole array; its first `numberOfDestinationPaths` entries are meaningful. -/
structure AssociationStatus where
  destPort : Nat := 0
  numberOfDestinationPaths : Nat := 0
  destinationPathIDs : List Int := []
  primaryDestinationAddress : String := ""
  outStreams : Nat := 0
  inStreams : Nat := 0
  state : Nat := 0
  currentReceiverWindowSize : Nat := 0
  noOfChunksInRetransmissionQueue : Nat := 0
  noOfChunksInReceptionQueue : Nat := 0
  rtoInitial : Nat := 0
  rtoMin : Nat := 0
  rtoMax : Nat := 0
  delay : Nat := 0
  assocMaxRetransmits : Nat := 0
  validCookieLife : Nat := 0
  maxSendQueue : Nat := 0
  maxRecvQueue : Nat := 0
  ipTos : Nat := 0
  deriving DecidableEq, Repr

/-- `SCTP_Path_Status`. -/
structure PathStatus where
  destinationAddress : String := ""
  heartbeatIntervall : Nat := 0
  state : Nat := 0
  cwnd : Nat := 0
  srtt : Nat := 0
  rto : Nat := 0
  mtu : Nat := 0
  deriving DecidableEq, Repr

/-- `SCTP_Instance_Parameters`. -/
structure InstanceParameters where
  outStreams : Nat := 0
  inStreams : Nat := 0
  rtoMax : Nat := 0
  delay : Nat := 0
  maxInitRetransmits : Nat := 0
  localAddressList : List String := []
  deriving DecidableEq, Repr

/-- The path states of `networkStatusChangeNotif`. -/
inductive PathState where
  | ok | unreachable | added | removed | asconfSucceeded | asconfFailed | other
  deriving DecidableEq, Repr

/-- The arguments of `sctp_send_private`. -/
structure SendRequest where
  assocID : AssocID
  streamID : StreamID
  buffer : List UInt8
  protoID : Nat
  pathIndex : Int
  timeToLive : Nat
  unordered : Bool
  bundlingDisabled : Bool
  deriving DecidableEq, Repr

/-- The answers of `sctp_send_private` the API tells apart. -/
inductive SendResult where
  | success | queueExceeded | parameterProblem | other
  deriving DecidableEq, Repr

/-- What a successful `sctp_receive` returns. -/
structure Received where
  bytes : List UInt8
  ssn : Nat
  tsn : Nat
  deriving DecidableEq, Repr

structure Sctplib where
  State : Type
  getInstanceID : State → AssocID → Option InstanceID
  getAssocStatus : State → AssocID → Option AssociationStatus
  setAssocStatus : State → AssocID → AssociationStatus → Bool × State
  getAssocDefaults : State → InstanceID → Option InstanceParameters
  setAssocDefaults : State → InstanceID → InstanceParameters → Bool × State
  getPathStatus : State → AssocID → Int → Option PathStatus
  getPrimary : State → AssocID → Int
  setPrimary : State → AssocID → Int → Bool × State
  setRemotePrimary : State → AssocID → String → Bool × State
  requestHeartbeat : State → AssocID → Int → Bool × State
  changeHeartBeat : State → AssocID → Int → Nat → Bool × State
  registerInstance : State → Nat → Nat → Nat → List String → InstanceID × State
  unregisterInstance : State → InstanceID → Bool × State
  associatex : State → InstanceID → Nat → List String → Nat → AssocID × State
  shutdown : State → AssocID → Option TerminalNotif × State
  abort : State → AssocID → Option TerminalNotif × State
  deleteAssociation : State → AssocID → Bool × State
  send : State → SendRequest → SendResult × State
  receive : State → AssocID → StreamID → Nat → Bool → Option Received × State

/-- A call of the library that is about parameters and paths only. -/
inductive Sctplib.Adjusts (L : Sctplib) (s : L.State) : L.State → Prop
  | setAssocStatus (assocID status) : Adjusts L s (L.setAssocStatus s assocID status).2
  | setAssocDefaults (instanceID parameters) : Adjusts L s (L.setAssocDefaults s instanceID parameters).2
  | setPrimary (assocID index) : Adjusts L s (L.setPrimary s assocID index).2
  | setRemotePrimary (assocID address) : Adjusts L s (L.setRemotePrimary s assocID address).2
  | requestHeartbeat (assocID index) : Adjusts L s (L.requestHeartbeat s assocID index).2
  | changeHeartBeat (assocID index interval) : Adjusts L s (L.changeHeartBeat s assocID index interval).2

/-! ## A small protocol library -/

/-- The state of `Sctplib.small`: the instance of each association, unread messages, and the
answers to come for the next sends. -/
structure SmallStack where
  lastInstance : Nat := 0
  lastAssociation : Nat := 0
  associations : List (AssocID × InstanceID) := []
  unread : List (AssocID × StreamID × List UInt8) := []
  answers : List SendResult := []
  deriving DecidableEq, Repr

namespace SmallStack

/-- `sctp_receive`: the oldest unread message of the stream, as far as it is wanted. -/
def receive (length : Nat) (assocID : AssocID) (streamID : StreamID) (peek : Bool) :
    List (AssocID × StreamID × List UInt8) → Option Received × List (AssocID × StreamID × List UInt8)
  | [] => (none, [])
  | (id, stream, bytes) :: rest =>
    if id = assocID ∧ stream = streamID then
      let left := if peek then bytes else bytes.drop length
      (some { bytes := bytes.take length, ssn := 0, tsn := 0 }, if left.isEmpty then rest else (id, stream, left) :: rest)
    else
      ((receive length assocID streamID peek rest).1, (id, stream, bytes) :: (receive length assocID streamID peek rest).2)

end SmallStack

/-- A protocol library that closes associations at once and has no paths. -/
def Sctplib.small : Sctplib where
  State := SmallStack
  getInstanceID s assocID := (s.associations.find? (·.1 == assocID)).map (·.2)
  getAssocStatus s assocID := if s.associations.any (·.1 == assocID) then some {} else none
  setAssocStatus s _ _ := (true, s)
  getAssocDefaults _ _ := some {}
  setAssocDefaults s _ _ := (true, s)
  getPathStatus _ _ _ := none
  getPrimary _ _ := 0
  setPrimary s _ _ := (true, s)
  setRemotePrimary s _ _ := (true, s)
  requestHeartbeat s _ _ := (true, s)
  changeHeartBeat s _ _ _ := (true, s)
  registerInstance s _ _ _ _ := (s.lastInstance + 1, { s with lastInstance := s.lastInstance + 1 })
  unregisterInstance s _ := (true, s)
  associatex s instance' _ _ _ := (s.lastAssociation + 1, { s with
    lastAssociation := s.lastAssociation + 1
    associations := (s.lastAssociation + 1, instance') :: s.associations })
  shutdown s _ := (some .shutdownComplete, s)
  abort s _ := (some .communicationLost, s)
  deleteAssociation s assocID := (true, { s with associations := s.associations.filter (·.1 != assocID) })
  send s _ := (s.answers.head?.getD .success, { s with answers := s.answers.tail })
  receive s assocID streamID length peek :=
    let (received, unread) := SmallStack.receive length assocID streamID peek s.unread
    (received, { s with unread })

end SocketApi
