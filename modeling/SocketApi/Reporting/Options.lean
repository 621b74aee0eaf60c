import SocketApi.Options.View
import SocketApi.Reporting.Reply

/-!
# Unconverted options

The option helpers convert, the parameter helpers below them do not, and the calls hand on what
the option helpers return. `setEvents` leaves out one conversion.
-/

namespace SocketApi

open Effect ExtSocketDescriptorMaster

variable {L : Sctplib} (E : Environment L)

theorem reports_errnoResult (r : Int) (value : SockOpt) :
    Reports Prod.fst (errnoResult r value : Act L OptResult) (pure (.internal r)) :=
  reports_errnoReturn' (fun _ => rfl) r

namespace Unconverted

/-- 0 if there is a value, else an error code. -/
def found {α : Type} (error : Int) (value : Option α) : Reply := .internal (if value.isSome then 0 else error)

/-! ## Reading -/

def getRTOInfo (desc : SCTPSocketDesc) (rtoinfo : SctpRtoinfo) : Act L Reply := do
  return found (-1) (← getAssocParams E desc rtoinfo.srto_assoc_id)

def getDelayedAckTime (desc : SCTPSocketDesc) (sackInfo : SctpSackInfo) : Act L Reply := do
  let assocID ← sackAssociation desc sackInfo.sack_assoc_id
  if assocID ≠ 0 then
    return found (-1) (← getAssocParams E desc assocID)
  else
    match desc.sctpSocketPtr with
    | some s => return found (-EINVAL) (← SCTPSocket.getAssocDefaults E s)
    | none => return .internal (-EINVAL)

def getAssocInfo (desc : SCTPSocketDesc) (assocparams : SctpAssocparams) : Act L Reply := do
  return found (-1) (← getAssocParams E desc assocparams.sasoc_assoc_id)

def getStatus (desc : SCTPSocketDesc) (status : SctpStatus) : Act L Reply := do
  let (result, _) ← locked E do
    match ← getAssocParams E desc status.sstat_assoc_id with
    | some (parameters, assocID) =>
      let (result, sstat_primary) ← getPrimaryAddressInfo E desc assocID status.sstat_primary
      return (result, { sstat_assoc_id := assocID, sstat_state := parameters.state
                        sstat_rwnd := parameters.currentReceiverWindowSize
                        sstat_unackdata := parameters.noOfChunksInRetransmissionQueue
                        sstat_penddata := parameters.noOfChunksInReceptionQueue
                        sstat_instrms := parameters.inStreams, sstat_outstrms := parameters.outStreams
                        sstat_fragmentation_point := 0, sstat_primary : SctpStatus })
    | none => return (-1, status)
  return .internal result

def getPeerAddressInfo (desc : SCTPSocketDesc) (paddrinfo : SctpPaddrinfo) : Act L Reply := do
  match paddrinfo.spinfo_address with
  | none => return .internal (-EINVAL)
  | some address => return found (- EIO) (← getPathStatus E desc paddrinfo.spinfo_assoc_id address)

def configurePeerAddressParams (desc : SCTPSocketDesc) (newParams : SctpPaddrparams) (readOnly : Bool) :
    Act L Reply := do
  let (result, _) ← locked E (configurePeerAddressParamsLocked E desc newParams readOnly)
  return .internal result

def getBufferSize (get : AssocPtr → Act L Int) (desc : SCTPSocketDesc) : Act L Reply := do
  match desc.sctpAssociationPtr with
  | some p =>
    let size := Int.bmod (← get p) (2 ^ 32)
    return .internal (if 0 ≤ size then 0 else - EIO)
  | none => return .internal (-EBADF)

def getOption (desc : SCTPSocketDesc) (optval : SockOpt) (fits : Bool) : Act L Reply := do
  match optval with
  | .nodelay => return .internal 0
  | .trafficClass _ =>
    match desc.sctpAssociationPtr with
    | some p => return .internal (← SCTPAssociation.getTrafficClass E p)
    | none => return .internal 0
  | .primaryAddr _ _ | .peerPrimaryAddr _ _ | .events _ | .defaultSendParam _ | .streamTimeouts _ _ _ _ =>
    return .internal (-EOPNOTSUPP)
  | _ =>
    if !fits then
      return .internal (-EINVAL)
    match optval with
    | .rtoInfo rtoinfo => getRTOInfo E desc rtoinfo
    | .assocInfo assocparams => getAssocInfo E desc assocparams
    | .peerAddrParams params => configurePeerAddressParams E desc params true
    | .delayedSack sackInfo => getDelayedAckTime E desc sackInfo
    | .autoClose _ =>
      match desc.sctpSocketPtr with
      | some s => do
        let _ ← SCTPSocket.getAutoClose s
        return .internal 0
      | none => return .internal (-EBADF)
    | .initMsg _ => return .internal 0
    | .linger _ _ => return .internal 0
    | .sndBuf _ => getBufferSize (SCTPAssociation.getSendBuffer E) desc
    | .rcvBuf _ => getBufferSize (SCTPAssociation.getReceiveBuffer E) desc
    | .status status => getStatus E desc status
    | .peerAddrInfo paddrinfo => getPeerAddressInfo E desc paddrinfo
    | _ => return .internal (-EOPNOTSUPP)

theorem getRTOInfo_reports (desc : SCTPSocketDesc) (rtoinfo : SctpRtoinfo) :
    Reports Prod.fst (SocketApi.getRTOInfo E desc rtoinfo) (getRTOInfo E desc rtoinfo) := by
  unfold SocketApi.getRTOInfo getRTOInfo
  apply Concludes.bind
  intro params
  cases params <;> exact reports_errnoResult _ _

theorem getAssocInfo_reports (desc : SCTPSocketDesc) (assocparams : SctpAssocparams) :
    Reports Prod.fst (SocketApi.getAssocInfo E desc assocparams) (getAssocInfo E desc assocparams) := by
  unfold SocketApi.getAssocInfo getAssocInfo
  apply Concludes.bind
  intro params
  cases params <;> exact reports_errnoResult _ _

theorem getDelayedAckTime_reports (desc : SCTPSocketDesc) (sackInfo : SctpSackInfo) :
    Reports Prod.fst (SocketApi.getDelayedAckTime E desc sackInfo) (getDelayedAckTime E desc sackInfo) := by
  unfold SocketApi.getDelayedAckTime getDelayedAckTime
  apply Concludes.bind
  intro assocID
  apply Concludes.ite
  · apply Concludes.bind
    intro params
    cases params <;> exact reports_errnoResult _ _
  · cases desc.sctpSocketPtr with
    | none => exact reports_errnoResult _ _
    | some s =>
      apply Concludes.bind
      intro params
      cases params <;> exact reports_errnoResult _ _

theorem getPeerAddressInfo_reports (desc : SCTPSocketDesc) (paddrinfo : SctpPaddrinfo) :
    Reports Prod.fst (SocketApi.getPeerAddressInfo E desc paddrinfo) (getPeerAddressInfo E desc paddrinfo) := by
  unfold SocketApi.getPeerAddressInfo getPeerAddressInfo
  cases paddrinfo.spinfo_address with
  | none => exact reports_errnoResult _ _
  | some address =>
    apply Concludes.bind
    intro parameters
    cases parameters <;> exact reports_errnoResult _ _

theorem configurePeerAddressParams_reports (desc : SCTPSocketDesc) (newParams : SctpPaddrparams) (readOnly : Bool) :
    Reports Prod.fst (SocketApi.configurePeerAddressParams E desc newParams readOnly)
      (configurePeerAddressParams E desc newParams readOnly) :=
  .bind fun _ => reports_errnoResult _ _

theorem getBufferSize_reports (option : UInt32 → SockOpt) (get : AssocPtr → Act L Int) (desc : SCTPSocketDesc)
    (old : UInt32) :
    Reports Prod.fst (SocketApi.getBufferSize option get desc old) (getBufferSize get desc) := by
  unfold SocketApi.getBufferSize getBufferSize
  cases desc.sctpAssociationPtr with
  | none => exact reports_errnoResult _ _
  | some p => exact .bind fun _ => reports_errnoResult _ _

theorem getOption_reports (desc : SCTPSocketDesc) (optval : SockOpt) (fits : Bool) :
    Reports Prod.fst (SocketApi.getOption E desc optval fits) (getOption E desc optval fits) := by
  unfold SocketApi.getOption getOption
  cases optval with
  | nodelay => exact reports_errnoResult _ _
  | trafficClass _ =>
    dsimp only
    cases desc.sctpAssociationPtr with
    | none => exact reports_errnoResult _ _
    | some p => exact .bind fun _ => reports_errnoResult _ _
  | primaryAddr _ _ => exact reports_errnoResult _ _
  | peerPrimaryAddr _ _ => exact reports_errnoResult _ _
  | events _ => exact reports_errnoResult _ _
  | defaultSendParam _ => exact reports_errnoResult _ _
  | streamTimeouts _ _ _ _ => exact reports_errnoResult _ _
  | rtoInfo rtoinfo => exact .ite (reports_errnoResult _ _) (getRTOInfo_reports E desc rtoinfo)
  | assocInfo assocparams => exact .ite (reports_errnoResult _ _) (getAssocInfo_reports E desc assocparams)
  | peerAddrParams params =>
    exact .ite (reports_errnoResult _ _) (configurePeerAddressParams_reports E desc params true)
  | delayedSack sackInfo => exact .ite (reports_errnoResult _ _) (getDelayedAckTime_reports E desc sackInfo)
  | autoClose _ =>
    refine .ite (reports_errnoResult _ _) ?_
    dsimp only
    cases desc.sctpSocketPtr with
    | none => exact reports_errnoResult _ _
    | some s => exact .bind fun _ => reports_errnoResult _ _
  | initMsg _ => exact .ite (reports_errnoResult _ _) (reports_errnoResult _ _)
  | linger _ _ => exact .ite (reports_errnoResult _ _) (reports_errnoResult _ _)
  | sndBuf old => exact .ite (reports_errnoResult _ _) (getBufferSize_reports _ _ desc old)
  | rcvBuf old => exact .ite (reports_errnoResult _ _) (getBufferSize_reports _ _ desc old)
  | status status => exact .ite (reports_errnoResult _ _) (.bind fun _ => reports_errnoResult _ _)
  | peerAddrInfo paddrinfo => exact .ite (reports_errnoResult _ _) (getPeerAddressInfo_reports E desc paddrinfo)

def ext_getsockopt (sockfd : Int) (optval : SockOpt) (fits : Bool) : Act L Reply := do
  match getSocket sockfd with
  | none => return .internal (-EBADF)
  | some slot =>
    match ← descriptorAt slot with
    | .sctp desc => getOption E desc optval fits
    | .system systemSocketID => return .final (E.systemCall systemSocketID)
    | .invalid => return .internal (- ENXIO)

theorem ext_getsockopt_reports (sockfd : Int) (optval : SockOpt) (fits : Bool) :
    Reports Prod.fst (SocketApi.ext_getsockopt E sockfd optval fits) (ext_getsockopt E sockfd optval fits) := by
  unfold SocketApi.ext_getsockopt ext_getsockopt
  exact reports_call (reports_errnoResult _ _) (fun _ desc => getOption_reports E desc optval fits)
    (fun _ _ => reports_final _) (reports_errnoResult _ _)

/-! ## Writing -/

/-- 0 if a change has been made, else an error code. -/
def done (error : Int) (ok : Bool) : Reply := .internal (if ok then 0 else error)

def setRTOInfo (desc : SCTPSocketDesc) (rtoinfo : SctpRtoinfo) : Act L Reply := do
  let result ← locked E do
    match ← getAssocParams E desc rtoinfo.srto_assoc_id with
    | some (parameters, assocID) =>
      let ok ← setAssocParams E desc assocID { parameters with
        rtoInitial := changed rtoinfo.srto_initial parameters.rtoInitial
        rtoMin := changed rtoinfo.srto_min parameters.rtoMin
        rtoMax := changed rtoinfo.srto_max parameters.rtoMax }
      return if ok then 0 else -1
    | none => return -1
  return .internal result

def setDelayedAckTime (desc : SCTPSocketDesc) (sackInfo : SctpSackInfo) : Act L Reply := do
  let assocID ← sackAssociation desc sackInfo.sack_assoc_id
  if assocID ≠ 0 then
    match ← getAssocParams E desc assocID with
    | some (parameters, assocID) =>
      return done (-1) (← setAssocParams E desc assocID { parameters with delay := sackInfo.sack_delay })
    | none => return .internal (-1)
  else
    match desc.sctpSocketPtr with
    | some s =>
      match ← SCTPSocket.getAssocDefaults E s with
      | some parameters =>
        return done (-EINVAL) (← SCTPSocket.setAssocDefaults E s { parameters with delay := sackInfo.sack_delay })
      | none => return .internal (-EINVAL)
    | none => return .internal (-EINVAL)

def setAssocInfo (desc : SCTPSocketDesc) (assocparams : SctpAssocparams) : Act L Reply := do
  let result ← locked E do
    match ← getAssocParams E desc assocparams.sasoc_assoc_id with
    | some (parameters, assocID) =>
      let ok ← setAssocParams E desc assocID { parameters with assocMaxRetransmits := assocparams.sasoc_asocmaxrxt }
      return if ok then 0 else -1
    | none => return -1
  return .internal result

def setOn (desc : SCTPSocketDesc) (error : Int) (onAssociation : AssocPtr → Act L Bool)
    (onSocket : SocketPtr → Act L Bool) :
    Act L Reply := do
  match desc.sctpAssociationPtr, desc.connectionOriented, desc.sctpSocketPtr with
  | some p, true, _ => return done (- EIO) (← onAssociation p)
  | _, _, some s => return done (- EIO) (← onSocket s)
  | _, _, none => return .internal error

def setPrimaryAddr (desc : SCTPSocketDesc) (assocID : AssocID) (address : Option SocketAddress) : Act L Reply := do
  match address with
  | none => return .internal (-EINVAL)
  | some address =>
    setOn desc (-EBADF) (SCTPAssociation.setPrimary E · address) fun _ =>
      SCTPSocket.setPrimary E assocID address

def setDefaultSendParams (desc : SCTPSocketDesc) (sndrcvinfo : SctpSndrcvinfo) : Act L Reply := do
  let defaults : AssocIODefaults :=
    { streamID := sndrcvinfo.sinfo_stream, protoID := sndrcvinfo.sinfo_ppid
      timeToLive := sndrcvinfo.sinfo_timetolive, context := sndrcvinfo.sinfo_context }
  match desc.sctpAssociationPtr, desc.connectionOriented, desc.sctpSocketPtr with
  | some p, true, _ =>
    SCTPAssociation.setAssocIODefaults E p defaults
    return .internal 0
  | _, _, some s => return done (-EINVAL) (← SCTPSocket.setAssocIODefaults E s sndrcvinfo.sinfo_assoc_id defaults)
  | _, _, none => return .internal (-EINVAL)

def setDefaultStreamTimeouts (desc : SCTPSocketDesc) (assocID : AssocID) (timeout start stop : Nat) : Act L Reply := do
  match desc.sctpAssociationPtr, desc.connectionOriented, desc.sctpSocketPtr with
  | some p, true, _ =>
    discard (SCTPAssociation.setDefaultStreamTimeouts E p timeout start stop)
    return .final 0
  | _, _, some s =>
    return if ← SCTPSocket.setDefaultStreamTimeouts E s assocID timeout start stop then .final 0
      else .internal (-EINVAL)
  | _, _, none => return .internal (-EINVAL)

def setEvents (sockfd : Int) (flags : NotificationFlags) : Act L Reply := do
  match getSocket sockfd with
  | none => return .internal (-EBADF)
  | some slot =>
    match ← descriptorAt slot with
    | .sctp desc =>
      match desc.sctpAssociationPtr, desc.connectionOriented, desc.sctpSocketPtr with
      | some p, true, _ =>
        SCTPAssociation.setNotificationFlags p flags
        return .internal 0
      | _, _, some s =>
        SCTPSocket.setNotificationFlags s flags
        return .internal 0
      | _, _, none => return .internal (-EBADF)
    | .system systemSocketID => return .final (E.systemCall systemSocketID)
    | .invalid => return .internal (- ENXIO)

def setOption (sockfd : Int) (slot : Nat) (desc : SCTPSocketDesc) (optval : SockOpt) (fits : Bool) : Act L Reply := do
  match optval with
  | .nodelay => return .internal 0
  | .status _ | .peerAddrInfo _ => return .internal (- ENXIO)
  | .events flags => if fits then setEvents E sockfd flags else return .internal (-EINVAL)
  | _ =>
    if !fits then
      return .internal (-EINVAL)
    match optval with
    | .rtoInfo rtoinfo => setRTOInfo E desc rtoinfo
    | .assocInfo assocparams => setAssocInfo E desc assocparams
    | .peerAddrParams params => configurePeerAddressParams E desc params false
    | .delayedSack sackInfo => setDelayedAckTime E desc sackInfo
    | .autoClose seconds =>
      match desc.sctpSocketPtr with
      | some s =>
        SCTPSocket.setAutoClose s (mul64 1000000 seconds.toNat)
        return .internal 0
      | none => return .internal (-EBADF)
    | .initMsg initmsg =>
      setDesc slot fun d => { d with initMsg := initmsg }
      setInitMsgOf E desc initmsg
      return .internal 0
    | .linger onoff linger =>
      if linger < 0 ∨ onoff < 0 ∨ 1 < onoff then
        return .internal (-EINVAL)
      setDesc slot fun d => { d with linger := { onoff := onoff.toNat, linger } }
      return .internal 0
    | .sndBuf size =>
      setOn desc (-EBADF) (SCTPAssociation.setSendBuffer E · size.toNat) (SCTPSocket.setSendBuffer E · size.toNat)
    | .rcvBuf size =>
      setOn desc (-EBADF) (SCTPAssociation.setReceiveBuffer E · size.toNat)
        (SCTPSocket.setReceiveBuffer E · size.toNat)
    | .primaryAddr assocID address => setPrimaryAddr E desc assocID address
    | .peerPrimaryAddr assocID address => setPrimaryAddr E desc assocID address
    | .defaultSendParam sndrcvinfo => setDefaultSendParams E desc sndrcvinfo
    | .streamTimeouts assocID timeout start stop => setDefaultStreamTimeouts E desc assocID timeout start stop
    | .trafficClass tos =>
      setOn desc (-EOPNOTSUPP) (SCTPAssociation.setTrafficClass · tos) (SCTPSocket.setTrafficClass E · tos)
    | _ => return .internal (- ENXIO)

theorem reports_done (error : Int) (ok : Bool) :
    Reports id (if ok then errnoReturn 0 else errnoReturn error : Act L Int) (pure (done error ok)) := by
  cases ok with
  | true => exact reports_errnoReturn 0
  | false => exact reports_errnoReturn error

theorem setRTOInfo_reports (desc : SCTPSocketDesc) (rtoinfo : SctpRtoinfo) :
    Reports id (SocketApi.setRTOInfo E desc rtoinfo) (setRTOInfo E desc rtoinfo) :=
  .bind fun result => reports_errnoReturn result

theorem setAssocInfo_reports (desc : SCTPSocketDesc) (assocparams : SctpAssocparams) :
    Reports id (SocketApi.setAssocInfo E desc assocparams) (setAssocInfo E desc assocparams) :=
  .bind fun result => reports_errnoReturn result

theorem setDelayedAckTime_reports (desc : SCTPSocketDesc) (sackInfo : SctpSackInfo) :
    Reports id (SocketApi.setDelayedAckTime E desc sackInfo) (setDelayedAckTime E desc sackInfo) := by
  unfold SocketApi.setDelayedAckTime setDelayedAckTime
  apply Concludes.bind
  intro assocID
  apply Concludes.ite
  · apply Concludes.bind
    intro params
    cases params with
    | none => exact reports_errnoReturn _
    | some params => exact .bind fun ok => reports_errnoReturn _
  · cases desc.sctpSocketPtr with
    | none => exact reports_errnoReturn _
    | some s =>
      apply Concludes.bind
      intro parameters
      cases parameters with
      | none => exact reports_errnoReturn _
      | some parameters => exact .bind fun ok => reports_done _ ok

/-- What a choice between the association and the socket reports. -/
theorem reports_dispatch {α : Type} {result : α → Int} (desc : SCTPSocketDesc) {f : AssocPtr → Act L α}
    {g : SocketPtr → Act L α} {h : Act L α} {f' : AssocPtr → Act L Reply} {g' : SocketPtr → Act L Reply}
    {h' : Act L Reply} (hf : ∀ p, Reports result (f p) (f' p)) (hg : ∀ s, Reports result (g s) (g' s))
    (hh : Reports result h h') :
    Reports result
      (match desc.sctpAssociationPtr, desc.connectionOriented, desc.sctpSocketPtr with
        | some p, true, _ => f p
        | _, _, some s => g s
        | _, _, none => h)
      (match desc.sctpAssociationPtr, desc.connectionOriented, desc.sctpSocketPtr with
        | some p, true, _ => f' p
        | _, _, some s => g' s
        | _, _, none => h') := by
  cases desc.sctpAssociationPtr with
  | none =>
    cases desc.sctpSocketPtr with
    | none => exact hh
    | some s => exact hg s
  | some p =>
    cases desc.connectionOriented with
    | true => exact hf p
    | false =>
      cases desc.sctpSocketPtr with
      | none => exact hh
      | some s => exact hg s

theorem setOn_reports (desc : SCTPSocketDesc) (error : Int) (onAssociation : AssocPtr → Act L Bool)
    (onSocket : SocketPtr → Act L Bool) :
    Reports id (SocketApi.setOn desc error onAssociation onSocket) (setOn desc error onAssociation onSocket) :=
  reports_dispatch desc (fun _ => .bind fun _ => reports_errnoReturn _) (fun _ => .bind fun _ => reports_errnoReturn _)
    (reports_errnoReturn error)

theorem setPrimaryAddr_reports (desc : SCTPSocketDesc) (assocID : AssocID) (address : Option SocketAddress) :
    Reports id (SocketApi.setPrimaryAddr E desc assocID address) (setPrimaryAddr E desc assocID address) := by
  cases address with
  | none => exact reports_errnoReturn _
  | some address =>
    exact reports_dispatch desc (fun _ => .bind fun _ => reports_errnoReturn _)
      (fun _ => .bind fun _ => reports_errnoReturn _) (reports_errnoReturn _)

theorem setDefaultSendParams_reports (desc : SCTPSocketDesc) (sndrcvinfo : SctpSndrcvinfo) :
    Reports id (SocketApi.setDefaultSendParams E desc sndrcvinfo) (setDefaultSendParams E desc sndrcvinfo) := by
  exact reports_dispatch desc (fun _ => .bind fun _ => reports_errnoReturn 0) (fun _ => .bind fun ok => reports_done _ ok)
    (reports_errnoReturn _)

theorem setDefaultStreamTimeouts_reports (desc : SCTPSocketDesc) (assocID : AssocID) (timeout start stop : Nat) :
    Reports id (SocketApi.setDefaultStreamTimeouts E desc assocID timeout start stop)
      (setDefaultStreamTimeouts E desc assocID timeout start stop) := by
  refine reports_dispatch desc (fun _ => .bind fun _ => reports_final 0) (fun _ => .bind fun ok => ?_)
    (reports_errnoReturn _)
  cases ok with
  | true => exact reports_final 0
  | false => exact reports_errnoReturn (-EINVAL)

theorem setOption_reports (sockfd : Int) (slot : Nat) (desc : SCTPSocketDesc) {optval : SockOpt} (fits : Bool)
    (h : ∀ flags, optval ≠ .events flags) :
    Reports id (SocketApi.setOption E sockfd slot desc optval fits) (setOption E sockfd slot desc optval fits) := by
  unfold SocketApi.setOption setOption
  cases optval with
  | events flags => exact (h flags rfl).elim
  | nodelay => exact reports_errnoReturn _
  | status _ => exact reports_errnoReturn _
  | peerAddrInfo _ => exact reports_errnoReturn _
  | rtoInfo rtoinfo => exact .ite (reports_errnoReturn _) (setRTOInfo_reports E desc rtoinfo)
  | assocInfo assocparams => exact .ite (reports_errnoReturn _) (setAssocInfo_reports E desc assocparams)
  | peerAddrParams params =>
    exact .ite (reports_errnoReturn _) (.project (configurePeerAddressParams_reports E desc params false))
  | delayedSack sackInfo => exact .ite (reports_errnoReturn _) (setDelayedAckTime_reports E desc sackInfo)
  | autoClose seconds =>
    refine .ite (reports_errnoReturn _) ?_
    dsimp only
    cases desc.sctpSocketPtr with
    | none => exact reports_errnoReturn _
    | some s => exact .bind fun _ => reports_errnoReturn 0
  | initMsg initmsg => exact .ite (reports_errnoReturn _) (.bind fun _ => .bind fun _ => reports_errnoReturn 0)
  | linger onoff linger =>
    exact .ite (reports_errnoReturn _) (.ite (reports_errnoReturn _) (.bind fun _ => reports_errnoReturn 0))
  | sndBuf size => exact .ite (reports_errnoReturn _) (setOn_reports desc _ _ _)
  | rcvBuf size => exact .ite (reports_errnoReturn _) (setOn_reports desc _ _ _)
  | primaryAddr assocID address => exact .ite (reports_errnoReturn _) (setPrimaryAddr_reports E desc assocID address)
  | peerPrimaryAddr assocID address => exact .ite (reports_errnoReturn _) (setPrimaryAddr_reports E desc assocID address)
  | defaultSendParam sndrcvinfo => exact .ite (reports_errnoReturn _) (setDefaultSendParams_reports E desc sndrcvinfo)
  | streamTimeouts assocID timeout start stop =>
    exact .ite (reports_errnoReturn _) (setDefaultStreamTimeouts_reports E desc assocID timeout start stop)
  | trafficClass tos => exact .ite (reports_errnoReturn _) (setOn_reports desc _ _ _)

def ext_setsockopt (sockfd : Int) (optval : SockOpt) (fits : Bool) : Act L Reply := do
  match getSocket sockfd with
  | none => return .internal (-EBADF)
  | some slot =>
    match ← descriptorAt slot with
    | .sctp desc => setOption E sockfd slot desc optval fits
    | .system systemSocketID => return .final (E.systemCall systemSocketID)
    | .invalid => return .internal (- ENXIO)

theorem ext_setsockopt_reports (sockfd : Int) {optval : SockOpt} (fits : Bool) (h : ∀ flags, optval ≠ .events flags) :
    Reports id (SocketApi.ext_setsockopt E sockfd optval fits) (ext_setsockopt E sockfd optval fits) := by
  unfold SocketApi.ext_setsockopt ext_setsockopt
  exact reports_call (reports_errnoReturn _) (fun slot desc => setOption_reports E sockfd slot desc fits h)
    (fun _ _ => reports_final _) (reports_errnoReturn _)

end Unconverted

/-! ## Events -/

/-- There is an object for the events of a descriptor. -/
def SCTPSocketDesc.TakesEvents (desc : SCTPSocketDesc) : Prop := desc.dispatch (fun _ => True) (fun _ => True) False

/-- A SCTP descriptor takes events. -/
def TakesEvents (w : World L) (sockfd : Int) : Prop :=
  ∀ slot desc, getSocket sockfd = some slot → w.shared.descriptors slot = .sctp desc → desc.TakesEvents

section

variable {E} {w : World L} {sockfd : Int} {flags : NotificationFlags} {fits : Bool}

theorem ext_setsockopt_events (h : fits → TakesEvents w sockfd) :
    ext_setsockopt E sockfd (.events flags) fits w =
      (Unconverted.ext_setsockopt E sockfd (.events flags) fits >>= Reply.conclude) w := by
  cases fits with
  | false =>
    have hreports : Reports id (ext_setsockopt E sockfd (.events flags) false)
        (Unconverted.ext_setsockopt E sockfd (.events flags) false) :=
      Unconverted.reports_call (reports_errnoReturn _) (fun _ _ => reports_errnoReturn (-EINVAL)) (fun _ _ => reports_final _)
        (reports_errnoReturn _)
    exact congrFun (Concludes.id_iff.mp hreports) w
  | true =>
    cases hslot : getSocket sockfd with
    | none =>
      simp only [ext_setsockopt, Unconverted.ext_setsockopt, hslot]
      rfl
    | some slot =>
      cases hdesc : w.shared.descriptors slot with
      | invalid =>
        simp only [ext_setsockopt, Unconverted.ext_setsockopt, hslot, bind_assoc, descriptorAt_bind, hdesc]
        rfl
      | system fd =>
        simp only [ext_setsockopt, Unconverted.ext_setsockopt, hslot, bind_assoc, descriptorAt_bind, hdesc]
        rfl
      | sctp desc =>
        simp only [ext_setsockopt, Unconverted.ext_setsockopt, hslot, bind_assoc, descriptorAt_bind, hdesc, setOption,
          Unconverted.setOption, setEvents, Unconverted.setEvents, if_true]
        show (desc.dispatch _ _ _ : Act L Int) w = ((desc.dispatch _ _ _ : Act L Reply) >>= Reply.conclude) w
        rcases desc.shape with ⟨p, -, -, hshape⟩ | ⟨s, -, hshape⟩ | hshape
        · rw [hshape, hshape, bind_assoc]
          rfl
        · rw [hshape, hshape, bind_assoc]
          rfl
        · have htakes := h rfl slot desc hslot hdesc
          rw [SCTPSocketDesc.TakesEvents, hshape] at htakes
          exact htakes.elim

/-- Without an object the result of `setEvents` is not converted. -/
theorem ext_setsockopt_events_raw {slot : Nat} {desc : SCTPSocketDesc} (hslot : getSocket sockfd = some slot)
    (hdesc : w.shared.descriptors slot = .sctp desc) (h : ¬ desc.TakesEvents) :
    Runs (ext_setsockopt E sockfd (.events flags) true) w (-EBADF) w := by
  unfold Runs
  simp only [ext_setsockopt, hslot, descriptorAt_bind, hdesc, setOption, setEvents, if_true]
  show (desc.dispatch _ _ _ : Act L Int) w = _
  unfold SCTPSocketDesc.TakesEvents at h
  rcases desc.shape with ⟨p, -, -, hshape⟩ | ⟨s, -, hshape⟩ | hshape
  · exact (h (by rw [hshape]; trivial)).elim
  · exact (h (by rw [hshape]; trivial)).elim
  · rw [hshape]
    rfl

end

end SocketApi
