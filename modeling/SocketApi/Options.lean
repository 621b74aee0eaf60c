import SocketApi.Messages

/-!
# Socket options

`ext_getsockopt` and `ext_setsockopt` for SCTP descriptors. An option's value is the structure
the caller passes; a get writes into the structure it is given. `fits` says that there is a
buffer and that it is long enough.
-/

namespace SocketApi

open Effect ExtSocketDescriptorMaster

variable {L : Sctplib} (E : Environment L)

/-! ## The structures -/

structure SctpRtoinfo where
  srto_assoc_id : AssocID := 0
  srto_initial : Nat := 0
  srto_max : Nat := 0
  srto_min : Nat := 0
  deriving DecidableEq, Repr

structure SctpAssocparams where
  sasoc_assoc_id : AssocID := 0
  sasoc_asocmaxrxt : Nat := 0
  sasoc_number_peer_destinations : Nat := 0
  sasoc_peer_rwnd : Nat := 0
  sasoc_local_rwnd : Nat := 0
  sasoc_cookie_life : Nat := 0
  deriving DecidableEq, Repr

/-- An address of an unknown family is `none`. -/
structure SctpPaddrparams where
  spp_assoc_id : AssocID := 0
  spp_address : Option SocketAddress := none
  spp_hbinterval : Nat := 0
  spp_pathmaxrxt : Nat := 0
  spp_pathmtu : Nat := 0
  spp_sackdelay : Nat := 0
  spp_flags : Nat := 0
  deriving DecidableEq, Repr

structure SctpSackInfo where
  sack_assoc_id : AssocID := 0
  sack_delay : Nat := 0
  sack_freq : Nat := 0
  deriving DecidableEq, Repr

structure SctpPaddrinfo where
  spinfo_assoc_id : AssocID := 0
  spinfo_address : Option SocketAddress := none
  spinfo_state : Nat := 0
  spinfo_cwnd : Nat := 0
  spinfo_srtt : Nat := 0
  spinfo_rto : Nat := 0
  spinfo_mtu : Nat := 0
  deriving DecidableEq, Repr

structure SctpStatus where
  sstat_assoc_id : AssocID := 0
  sstat_state : Nat := 0
  sstat_rwnd : Nat := 0
  sstat_unackdata : Nat := 0
  sstat_penddata : Nat := 0
  sstat_instrms : Nat := 0
  sstat_outstrms : Nat := 0
  sstat_fragmentation_point : Nat := 0
  sstat_primary : SctpPaddrinfo := {}
  deriving DecidableEq, Repr

/-- The value of an option. `linger` holds the two fields as the caller gives them. -/
inductive SockOpt where
  | rtoInfo (rtoinfo : SctpRtoinfo)
  | assocInfo (assocparams : SctpAssocparams)
  | peerAddrParams (params : SctpPaddrparams)
  | delayedSack (sackInfo : SctpSackInfo)
  | autoClose (seconds : UInt32)
  | initMsg (initmsg : InitMsg)
  | linger (onoff linger : Int)
  | sndBuf (size : UInt32)
  | rcvBuf (size : UInt32)
  | status (status : SctpStatus)
  | peerAddrInfo (paddrinfo : SctpPaddrinfo)
  | primaryAddr (assocID : AssocID) (address : Option SocketAddress)
  | peerPrimaryAddr (assocID : AssocID) (address : Option SocketAddress)
  | events (flags : NotificationFlags)
  | defaultSendParam (sndrcvinfo : SctpSndrcvinfo)
  | streamTimeouts (assocID : AssocID) (timeout start stop : Nat)
  | trafficClass (tos : Nat)
  | nodelay
  deriving DecidableEq, Repr

/-! ## Parameters of the association of a descriptor -/

/-- `getAssocParams`: the status and the ID that goes with it. -/
def getAssocParams (desc : SCTPSocketDesc) (assocID : AssocID) : Act L (Option (AssociationStatus × AssocID)) := do
  match desc.sctpAssociationPtr, desc.connectionOriented, desc.sctpSocketPtr with
  | some p, true, _ =>
    match ← SCTPAssociation.getAssocStatus E p with
    | some parameters => return some (parameters, ← SCTPAssociation.getID p)
    | none => return none
  | _, _, some _ => return (← SCTPSocket.getAssocStatus E assocID).map (·, assocID)
  | _, _, none => return none

def setAssocParams (desc : SCTPSocketDesc) (assocID : AssocID) (parameters : AssociationStatus) : Act L Bool := do
  match desc.sctpAssociationPtr, desc.connectionOriented, desc.sctpSocketPtr with
  | some p, true, _ => SCTPAssociation.setAssocStatus E p parameters
  | _, _, some _ => SCTPSocket.setAssocStatus E assocID parameters
  | _, _, none => return false

/-- `getPathStatus` of the wrapper for an address that was made. -/
def getPathStatus (desc : SCTPSocketDesc) (assocID : AssocID) (address : SocketAddress) :
    Act L (Option PathStatus) := do
  match desc.sctpAssociationPtr, desc.connectionOriented, desc.sctpSocketPtr with
  | some p, true, _ => SCTPAssociation.getPathParameters E p (some address)
  | _, _, some _ => SCTPSocket.getPathParameters E assocID (some address)
  | _, _, none => return none

def setPathStatus (desc : SCTPSocketDesc) (assocID : AssocID) (address : SocketAddress) (parameters : PathStatus) :
    Act L Bool := do
  match desc.sctpAssociationPtr, desc.connectionOriented, desc.sctpSocketPtr with
  | some p, true, _ => SCTPAssociation.setPathParameters E p (some address) parameters
  | _, _, some _ => SCTPSocket.setPathParameters E assocID (some address) parameters
  | _, _, none => return false

/-! ## Reading -/

/-- A get leaves its result and the structure. -/
abbrev OptResult := Int × SockOpt

def errnoResult (result : Int) (value : SockOpt) : Act L OptResult := do return (← errnoReturn result, value)

def getRTOInfo (desc : SCTPSocketDesc) (rtoinfo : SctpRtoinfo) : Act L OptResult := do
  match ← getAssocParams E desc rtoinfo.srto_assoc_id with
  | some (parameters, assocID) =>
    errnoResult 0 (.rtoInfo
      { srto_initial := parameters.rtoInitial, srto_max := parameters.rtoMax, srto_min := parameters.rtoMin
        srto_assoc_id := assocID })
  | none => errnoResult (-1) (.rtoInfo rtoinfo)

/-- The association of a delayed-acknowledgement option. -/
def sackAssociation (desc : SCTPSocketDesc) (assocID : AssocID) : Act L AssocID := do
  match assocID, desc.sctpAssociationPtr with
  | 0, some p => SCTPAssociation.getID p
  | assocID, _ => return assocID

def getDelayedAckTime (desc : SCTPSocketDesc) (sackInfo : SctpSackInfo) : Act L OptResult := do
  let assocID ← sackAssociation desc sackInfo.sack_assoc_id
  if assocID ≠ 0 then
    match ← getAssocParams E desc assocID with
    | some (parameters, _) => errnoResult 0 (.delayedSack { sackInfo with sack_delay := parameters.delay })
    | none => errnoResult (-1) (.delayedSack sackInfo)
  else
    match desc.sctpSocketPtr with
    | some s =>
      match ← SCTPSocket.getAssocDefaults E s with
      | some parameters => errnoResult 0 (.delayedSack { sackInfo with sack_delay := parameters.delay })
      | none => errnoResult (-EINVAL) (.delayedSack sackInfo)
    | none => errnoResult (-EINVAL) (.delayedSack sackInfo)

def getAssocInfo (desc : SCTPSocketDesc) (assocparams : SctpAssocparams) : Act L OptResult := do
  match ← getAssocParams E desc assocparams.sasoc_assoc_id with
  | some (parameters, assocID) =>
    errnoResult 0 (.assocInfo
      { sasoc_assoc_id := assocID, sasoc_asocmaxrxt := parameters.assocMaxRetransmits
        sasoc_number_peer_destinations := parameters.numberOfDestinationPaths, sasoc_peer_rwnd := 0
        sasoc_local_rwnd := parameters.currentReceiverWindowSize, sasoc_cookie_life := parameters.validCookieLife })
  | none => errnoResult (-1) (.assocInfo assocparams)

/-- The primary path of the association of a descriptor and the ID to report. -/
def getPrimaryPath (desc : SCTPSocketDesc) (assocID : AssocID) : Act L (Option PathStatus × AssocID) := do
  match desc.sctpAssociationPtr, desc.connectionOriented, desc.sctpSocketPtr with
  | some p, true, _ =>
    match ← SCTPAssociation.getPathParameters E p none with
    | some parameters => return (some parameters, ← SCTPAssociation.getID p)
    | none => return (none, assocID)
  | _, _, some _ => return (← SCTPSocket.getPathParameters E assocID none, assocID)
  | _, _, none => return (none, assocID)

/-- `getPrimaryAddressInfo`: the error code and the information. -/
def getPrimaryAddressInfo (desc : SCTPSocketDesc) (assocID : AssocID) (paddrinfo : SctpPaddrinfo) :
    Act L (Int × SctpPaddrinfo) := locked E do
  match ← getPrimaryPath E desc assocID with
  | (some parameters, assocID) =>
    match createSocketAddress E parameters.destinationAddress 0 with
    | some address =>
      if 0 < address.getSystemAddress 128 desc.domain then
        return (0, { spinfo_assoc_id := assocID, spinfo_address := some address, spinfo_state := parameters.state
                     spinfo_cwnd := parameters.cwnd, spinfo_srtt := parameters.srtt, spinfo_rto := parameters.rto
                     spinfo_mtu := parameters.mtu })
      else return (- EIO, paddrinfo)
    | none => return (- EIO, paddrinfo)
  | (none, _) => return (-EBADF, paddrinfo)

/-- `getAssocStatus` of the wrapper. -/
def getStatus (desc : SCTPSocketDesc) (status : SctpStatus) : Act L OptResult := do
  let (result, status) ← locked E do
    match ← getAssocParams E desc status.sstat_assoc_id with
    | some (parameters, assocID) =>
      let (result, sstat_primary) ← getPrimaryAddressInfo E desc assocID status.sstat_primary
      return (result, { sstat_assoc_id := assocID, sstat_state := parameters.state
                        sstat_rwnd := parameters.currentReceiverWindowSize
                        sstat_unackdata := parameters.noOfChunksInRetransmissionQueue
                        sstat_penddata := parameters.noOfChunksInReceptionQueue
                        sstat_instrms := parameters.inStreams, sstat_outstrms := parameters.outStreams
                        sstat_fragmentation_point := 0, sstat_primary : SctpStatus })
    | none => return (-1, status)
  errnoResult result (.status status)

def getPeerAddressInfo (desc : SCTPSocketDesc) (paddrinfo : SctpPaddrinfo) : Act L OptResult := do
  match paddrinfo.spinfo_address with
  | none => errnoResult (-EINVAL) (.peerAddrInfo paddrinfo)
  | some address =>
    match ← getPathStatus E desc paddrinfo.spinfo_assoc_id address with
    | some parameters =>
      errnoResult 0 (.peerAddrInfo { paddrinfo with
        spinfo_state := if parameters.state = 1 then 0 else 1, spinfo_cwnd := parameters.cwnd
        spinfo_srtt := parameters.srtt, spinfo_rto := parameters.rto, spinfo_mtu := parameters.mtu })
    | none => errnoResult (- EIO) (.peerAddrInfo paddrinfo)

/-- What `configurePeerAddressParams` writes into the caller's structure. -/
def fillPaddrparams (newParams : SctpPaddrparams) (parameters : PathStatus) : SctpPaddrparams :=
  let spp_hbinterval := if newParams.spp_hbinterval = 0 then parameters.heartbeatIntervall else newParams.spp_hbinterval
  { newParams with
    spp_hbinterval, spp_pathmaxrxt := 0, spp_pathmtu := parameters.mtu, spp_sackdelay := 0
    spp_flags := if 0 < spp_hbinterval then 1 else 2 }

/-- `configurePeerAddressParams` under the lock. -/
def configurePeerAddressParamsLocked (desc : SCTPSocketDesc) (newParams : SctpPaddrparams) (readOnly : Bool) :
    Act L (Int × SctpPaddrparams) := do
  match newParams.spp_address with
  | none => return (-EINVAL, newParams)
  | some address =>
    match ← getPathStatus E desc newParams.spp_assoc_id address with
    | none => return (- EIO, newParams)
    | some parameters =>
      let newParams := fillPaddrparams newParams parameters
      if readOnly then
        return (0, newParams)
      let ok ← setPathStatus E desc newParams.spp_assoc_id address
        { parameters with heartbeatIntervall := newParams.spp_hbinterval }
      return (if ok then 0 else - EIO, newParams)

def configurePeerAddressParams (desc : SCTPSocketDesc) (newParams : SctpPaddrparams) (readOnly : Bool) :
    Act L OptResult := do
  let (result, newParams) ← locked E (configurePeerAddressParamsLocked E desc newParams readOnly)
  errnoResult result (.peerAddrParams newParams)

/-- The buffer sizes: a number that is negative as an `int` is an error. -/
def getBufferSize (option : UInt32 → SockOpt) (get : AssocPtr → Act L Int) (desc : SCTPSocketDesc) (old : UInt32) :
    Act L OptResult := do
  match desc.sctpAssociationPtr with
  | some p =>
    let size := Int.bmod (← get p) (2 ^ 32)
    errnoResult (if 0 ≤ size then 0 else - EIO) (option (UInt32.ofNat (size % 2 ^ 32).toNat))
  | none => errnoResult (-EBADF) (option old)

/-- The SCTP branch of `ext_getsockopt`. -/
def getOption (desc : SCTPSocketDesc) (optval : SockOpt) (fits : Bool) : Act L OptResult := do
  match optval with
  | .nodelay => errnoResult 0 optval
  | .trafficClass _ =>
    match desc.sctpAssociationPtr with
    | some p => errnoResult (← SCTPAssociation.getTrafficClass E p) optval
    | none => errnoResult 0 optval
  | .primaryAddr _ _ | .peerPrimaryAddr _ _ | .events _ | .defaultSendParam _ | .streamTimeouts _ _ _ _ =>
    errnoResult (-EOPNOTSUPP) optval
  | _ =>
    if !fits then
      return ← errnoResult (-EINVAL) optval
    match optval with
    | .rtoInfo rtoinfo => getRTOInfo E desc rtoinfo
    | .assocInfo assocparams => getAssocInfo E desc assocparams
    | .peerAddrParams params => configurePeerAddressParams E desc params true
    | .delayedSack sackInfo => getDelayedAckTime E desc sackInfo
    | .autoClose _ =>
      match desc.sctpSocketPtr with
      | some s => errnoResult 0 (.autoClose (UInt32.ofNat ((← SCTPSocket.getAutoClose s) / 1000000)))
      | none => errnoResult (-EBADF) optval
    | .initMsg _ => errnoResult 0 (.initMsg desc.initMsg)
    | .linger _ _ => errnoResult 0 (.linger desc.linger.onoff desc.linger.linger)
    | .sndBuf old => getBufferSize .sndBuf (SCTPAssociation.getSendBuffer E) desc old
    | .rcvBuf old => getBufferSize .rcvBuf (SCTPAssociation.getReceiveBuffer E) desc old
    | .status status => getStatus E desc status
    | .peerAddrInfo paddrinfo => getPeerAddressInfo E desc paddrinfo
    | _ => errnoResult (-EOPNOTSUPP) optval

def ext_getsockopt (sockfd : Int) (optval : SockOpt) (fits : Bool) : Act L OptResult := do
  match getSocket sockfd with
  | none => errnoResult (-EBADF) optval
  | some slot =>
    match ← descriptorAt slot with
    | .sctp desc => getOption E desc optval fits
    | .system systemSocketID => return (E.systemCall systemSocketID, optval)
    | .invalid => errnoResult (- ENXIO) optval

/-! ## Writing -/

/-- "0 leaves the field unchanged". -/
def changed (value old : Nat) : Nat := if value ≠ 0 then value else old

def setRTOInfo (desc : SCTPSocketDesc) (rtoinfo : SctpRtoinfo) : Act L Int := do
  let result ← locked E do
    match ← getAssocParams E desc rtoinfo.srto_assoc_id with
    | some (parameters, assocID) =>
      let ok ← setAssocParams E desc assocID { parameters with
        rtoInitial := changed rtoinfo.srto_initial parameters.rtoInitial
        rtoMin := changed rtoinfo.srto_min parameters.rtoMin
        rtoMax := changed rtoinfo.srto_max parameters.rtoMax }
      return if ok then 0 else -1
    | none => return -1
  errnoReturn result

def setDelayedAckTime (desc : SCTPSocketDesc) (sackInfo : SctpSackInfo) : Act L Int := do
  let assocID ← sackAssociation desc sackInfo.sack_assoc_id
  if assocID ≠ 0 then
    match ← getAssocParams E desc assocID with
    | some (parameters, assocID) =>
      let ok ← setAssocParams E desc assocID { parameters with delay := sackInfo.sack_delay }
      errnoReturn (if ok then 0 else -1)
    | none => errnoReturn (-1)
  else
    match desc.sctpSocketPtr with
    | some s =>
      match ← SCTPSocket.getAssocDefaults E s with
      | some parameters =>
        if ← SCTPSocket.setAssocDefaults E s { parameters with delay := sackInfo.sack_delay } then errnoReturn 0
        else errnoReturn (-EINVAL)
      | none => errnoReturn (-EINVAL)
    | none => errnoReturn (-EINVAL)

def setAssocInfo (desc : SCTPSocketDesc) (assocparams : SctpAssocparams) : Act L Int := do
  let result ← locked E do
    match ← getAssocParams E desc assocparams.sasoc_assoc_id with
    | some (parameters, assocID) =>
      let ok ← setAssocParams E desc assocID { parameters with assocMaxRetransmits := assocparams.sasoc_asocmaxrxt }
      return if ok then 0 else -1
    | none => return -1
  errnoReturn result

/-- `setPrimaryAddr`, whose body `setPeerPrimaryAddr` repeats, down to the call of `setPrimary`. -/
def setPrimaryAddr (desc : SCTPSocketDesc) (assocID : AssocID) (address : Option SocketAddress) : Act L Int := do
  match address with
  | none => errnoReturn (-EINVAL)
  | some address =>
    match desc.sctpAssociationPtr, desc.connectionOriented, desc.sctpSocketPtr with
    | some p, true, _ => errnoReturn (if ← SCTPAssociation.setPrimary E p address then 0 else - EIO)
    | _, _, some _ => errnoReturn (if ← SCTPSocket.setPrimary E assocID address then 0 else - EIO)
    | _, _, none => errnoReturn (-EBADF)

def setPeerPrimaryAddr (desc : SCTPSocketDesc) (assocID : AssocID) (address : Option SocketAddress) : Act L Int :=
  setPrimaryAddr E desc assocID address

def setInitMsg (s : SocketPtr) (initmsg : InitMsg) : Act L Bool := locked E do
  match ← SCTPSocket.getAssocDefaults E s with
  | some parameters =>
    SCTPSocket.setAssocDefaults E s
      { parameters with outStreams := initmsg.numOstreams, inStreams := initmsg.maxInstreams }
  | none => return false

/-- `setInitMsg` for a descriptor that has a socket; its result is ignored. -/
def setInitMsgOf (desc : SCTPSocketDesc) (initmsg : InitMsg) : Act L Unit :=
  match desc.sctpSocketPtr with
  | some s => discard (setInitMsg E s initmsg)
  | none => pure ()

/-- `setDefaultSendParams` for a structure of the right length. -/
def setDefaultSendParams (desc : SCTPSocketDesc) (sndrcvinfo : SctpSndrcvinfo) : Act L Int := do
  let defaults : AssocIODefaults :=
    { streamID := sndrcvinfo.sinfo_stream, protoID := sndrcvinfo.sinfo_ppid
      timeToLive := sndrcvinfo.sinfo_timetolive, context := sndrcvinfo.sinfo_context }
  match desc.sctpAssociationPtr, desc.connectionOriented, desc.sctpSocketPtr with
  | some p, true, _ =>
    SCTPAssociation.setAssocIODefaults E p defaults
    errnoReturn 0
  | _, _, some s =>
    if ← SCTPSocket.setAssocIODefaults E s sndrcvinfo.sinfo_assoc_id defaults then errnoReturn 0
    else errnoReturn (-EINVAL)
  | _, _, none => errnoReturn (-EINVAL)

def setDefaultStreamTimeouts (desc : SCTPSocketDesc) (assocID : AssocID) (timeout start stop : Nat) : Act L Int := do
  match desc.sctpAssociationPtr, desc.connectionOriented, desc.sctpSocketPtr with
  | some p, true, _ =>
    discard (SCTPAssociation.setDefaultStreamTimeouts E p timeout start stop)
    return 0
  | _, _, some s =>
    if ← SCTPSocket.setDefaultStreamTimeouts E s assocID timeout start stop then return 0
    else errnoReturn (-EINVAL)
  | _, _, none => errnoReturn (-EINVAL)

/-- The setters that go to the association of the descriptor or to its socket. -/
def setOn (desc : SCTPSocketDesc) (error : Int) (onAssociation : AssocPtr → Act L Bool)
    (onSocket : SocketPtr → Act L Bool) :
    Act L Int := do
  match desc.sctpAssociationPtr, desc.connectionOriented, desc.sctpSocketPtr with
  | some p, true, _ => errnoReturn (if ← onAssociation p then 0 else - EIO)
  | _, _, some s => errnoReturn (if ← onSocket s then 0 else - EIO)
  | _, _, none => errnoReturn error

/-- The SCTP branch of `ext_setsockopt`. -/
def setOption (sockfd : Int) (slot : Nat) (desc : SCTPSocketDesc) (optval : SockOpt) (fits : Bool) : Act L Int := do
  match optval with
  | .nodelay => errnoReturn 0
  | .status _ | .peerAddrInfo _ => errnoReturn (- ENXIO)
  | .events flags =>
    if fits then setEvents E sockfd flags else errnoReturn (-EINVAL)
  | _ =>
    if !fits then
      return ← errnoReturn (-EINVAL)
    match optval with
    | .rtoInfo rtoinfo => setRTOInfo E desc rtoinfo
    | .assocInfo assocparams => setAssocInfo E desc assocparams
    | .peerAddrParams params => do return (← configurePeerAddressParams E desc params false).1
    | .delayedSack sackInfo => setDelayedAckTime E desc sackInfo
    | .autoClose seconds =>
      match desc.sctpSocketPtr with
      | some s =>
        SCTPSocket.setAutoClose s (mul64 1000000 seconds.toNat)
        errnoReturn 0
      | none => errnoReturn (-EBADF)
    | .initMsg initmsg =>
      setDesc slot fun d => { d with initMsg := initmsg }
      setInitMsgOf E desc initmsg
      errnoReturn 0
    | .linger onoff linger =>
      if linger < 0 ∨ onoff < 0 ∨ 1 < onoff then
        return ← errnoReturn (-EINVAL)
      setDesc slot fun d => { d with linger := { onoff := onoff.toNat, linger } }
      errnoReturn 0
    | .sndBuf size =>
      setOn desc (-EBADF) (SCTPAssociation.setSendBuffer E · size.toNat) (SCTPSocket.setSendBuffer E · size.toNat)
    | .rcvBuf size =>
      setOn desc (-EBADF) (SCTPAssociation.setReceiveBuffer E · size.toNat)
        (SCTPSocket.setReceiveBuffer E · size.toNat)
    | .primaryAddr assocID address => setPrimaryAddr E desc assocID address
    | .peerPrimaryAddr assocID address => setPeerPrimaryAddr E desc assocID address
    | .defaultSendParam sndrcvinfo => setDefaultSendParams E desc sndrcvinfo
    | .streamTimeouts assocID timeout start stop => setDefaultStreamTimeouts E desc assocID timeout start stop
    | .trafficClass tos =>
      setOn desc (-EOPNOTSUPP) (SCTPAssociation.setTrafficClass · tos) (SCTPSocket.setTrafficClass E · tos)
    | _ => errnoReturn (- ENXIO)

def ext_setsockopt (sockfd : Int) (optval : SockOpt) (fits : Bool) : Act L Int := do
  match getSocket sockfd with
  | none => errnoReturn (-EBADF)
  | some slot =>
    match ← descriptorAt slot with
    | .sctp desc => setOption E sockfd slot desc optval fits
    | .system systemSocketID => return E.systemCall systemSocketID
    | .invalid => errnoReturn (- ENXIO)

end SocketApi
