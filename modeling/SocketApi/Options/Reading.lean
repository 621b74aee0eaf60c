import SocketApi.Options.View

/-!
# Getting an option

`OptionView.read` is what `ext_getsockopt` returns for a SCTP descriptor, as a function of the
view.
-/

namespace SocketApi

open Effect ExtSocketDescriptorMaster

variable {L : Sctplib} (E : Environment L)

namespace OptionView

/-- The result of `errno_return`. -/
def errno (result : Int) : Int := if result < 0 then -1 else result

/-! ## The options -/

section

variable (desc : SCTPSocketDesc) (v : OptionView)

def readRTOInfo (rtoinfo : SctpRtoinfo) : Option OptResult :=
  (v.params desc rtoinfo.srto_assoc_id).map fun
    | some (status, id) => (0, .rtoInfo { srto_initial := status.rtoInitial, srto_max := status.rtoMax
                                          srto_min := status.rtoMin, srto_assoc_id := id })
    | none => (-1, .rtoInfo rtoinfo)

def sackTarget (id : AssocID) : Option AssocID :=
  match id, desc.sctpAssociationPtr with
  | 0, some p => (v.association p).map (·.id)
  | id, _ => some id

/-- The result of a get of the delay that was found, if one was. -/
def sackResult (sackInfo : SctpSackInfo) : Option Nat → OptResult
  | some delay => (0, .delayedSack { sackInfo with sack_delay := delay })
  | none => (-1, .delayedSack sackInfo)

/-- The delay of new associations. -/
def defaultDelay : Option (Option Nat) :=
  match desc.sctpSocketPtr with
  | some t => (v.socket t).map fun o => (v.defaults o.instanceName).map (·.delay)
  | none => some none

def readDelayedAckTime (sackInfo : SctpSackInfo) : Option OptResult :=
  (v.sackTarget desc sackInfo.sack_assoc_id).bind fun id =>
    if id ≠ 0 then (v.params desc id).map fun found => sackResult sackInfo (found.map (·.1.delay))
    else (v.defaultDelay desc).map (sackResult sackInfo)

def readAssocInfo (assocparams : SctpAssocparams) : Option OptResult :=
  (v.params desc assocparams.sasoc_assoc_id).map fun
    | some (status, id) => (0, .assocInfo
        { sasoc_assoc_id := id, sasoc_asocmaxrxt := status.assocMaxRetransmits
          sasoc_number_peer_destinations := status.numberOfDestinationPaths, sasoc_peer_rwnd := 0
          sasoc_local_rwnd := status.currentReceiverWindowSize, sasoc_cookie_life := status.validCookieLife })
    | none => (-1, .assocInfo assocparams)

/-- The primary path of the association of a descriptor and the ID to report. -/
def primaryPath (id : AssocID) : Option (Option PathStatus × AssocID) :=
  (v.target desc id).map fun
    | some a =>
      match v.pathAt a.id (v.primary a.id) with
      | some parameters => (some parameters, a.id)
      | none => (none, id)
    | none => (none, id)

def readPrimary (id : AssocID) (paddrinfo : SctpPaddrinfo) : Option (Int × SctpPaddrinfo) :=
  (v.primaryPath desc id).map fun
    | (some parameters, id) =>
      match createSocketAddress E parameters.destinationAddress 0 with
      | some address =>
        if 0 < address.getSystemAddress 128 desc.domain then
          (0, { spinfo_assoc_id := id, spinfo_address := some address, spinfo_state := parameters.state
                spinfo_cwnd := parameters.cwnd, spinfo_srtt := parameters.srtt, spinfo_rto := parameters.rto
                spinfo_mtu := parameters.mtu })
        else (- EIO, paddrinfo)
      | none => (- EIO, paddrinfo)
    | (none, _) => (-EBADF, paddrinfo)

def readStatus (status : SctpStatus) : Option OptResult :=
  (v.params desc status.sstat_assoc_id).bind fun
    | some (parameters, id) => (v.readPrimary E desc id status.sstat_primary).map fun (result, sstat_primary) =>
        (errno result, .status
          { sstat_assoc_id := id, sstat_state := parameters.state
            sstat_rwnd := parameters.currentReceiverWindowSize
            sstat_unackdata := parameters.noOfChunksInRetransmissionQueue
            sstat_penddata := parameters.noOfChunksInReceptionQueue
            sstat_instrms := parameters.inStreams, sstat_outstrms := parameters.outStreams
            sstat_fragmentation_point := 0, sstat_primary })
    | none => some (-1, .status status)

def readPeerAddressInfo (paddrinfo : SctpPaddrinfo) : Option OptResult :=
  match paddrinfo.spinfo_address with
  | none => some (-1, .peerAddrInfo paddrinfo)
  | some address => (v.pathParams desc paddrinfo.spinfo_assoc_id address).map fun
    | some parameters => (0, .peerAddrInfo { paddrinfo with
        spinfo_state := if parameters.state = 1 then 0 else 1, spinfo_cwnd := parameters.cwnd
        spinfo_srtt := parameters.srtt, spinfo_rto := parameters.rto, spinfo_mtu := parameters.mtu })
    | none => (-1, .peerAddrInfo paddrinfo)

def readPeerAddressParams (params : SctpPaddrparams) : Option OptResult :=
  match params.spp_address with
  | none => some (-1, .peerAddrParams params)
  | some address => (v.pathParams desc params.spp_assoc_id address).map fun
    | some parameters => (0, .peerAddrParams (fillPaddrparams params parameters))
    | none => (-1, .peerAddrParams params)

def field (f : AssociationStatus → Nat) (p : AssocPtr) : Option Int :=
  (v.association p).map fun a => sizeOrError ((v.status a.id).map f)

def readBufferSize (option : UInt32 → SockOpt) (f : AssociationStatus → Nat) (old : UInt32) : Option OptResult :=
  match desc.sctpAssociationPtr with
  | some p => (v.field f p).map fun n =>
      (if 0 ≤ Int.bmod n (2 ^ 32) then 0 else -1, option (UInt32.ofNat (Int.bmod n (2 ^ 32) % 2 ^ 32).toNat))
  | none => some (-1, option old)

def read (optval : SockOpt) (fits : Bool) : Option OptResult :=
  match optval with
  | .nodelay => some (0, optval)
  | .trafficClass _ =>
    match desc.sctpAssociationPtr with
    | some p => (v.field (·.ipTos) p).map fun n => (errno n, optval)
    | none => some (0, optval)
  | .primaryAddr _ _ | .peerPrimaryAddr _ _ | .events _ | .defaultSendParam _ | .streamTimeouts _ _ _ _ =>
    some (-1, optval)
  | _ =>
    if !fits then some (-1, optval)
    else
      match optval with
      | .rtoInfo rtoinfo => v.readRTOInfo desc rtoinfo
      | .assocInfo assocparams => v.readAssocInfo desc assocparams
      | .peerAddrParams params => v.readPeerAddressParams desc params
      | .delayedSack sackInfo => v.readDelayedAckTime desc sackInfo
      | .autoClose _ =>
        match desc.sctpSocketPtr with
        | some t => (v.socket t).map fun o => (0, .autoClose (UInt32.ofNat (o.autoClose / 1000000)))
        | none => some (-1, optval)
      | .initMsg _ => some (0, .initMsg desc.initMsg)
      | .linger _ _ => some (0, .linger desc.linger.onoff desc.linger.linger)
      | .sndBuf old => v.readBufferSize desc .sndBuf (·.maxSendQueue) old
      | .rcvBuf old => v.readBufferSize desc .rcvBuf (·.maxRecvQueue) old
      | .status status => v.readStatus E desc status
      | .peerAddrInfo paddrinfo => v.readPeerAddressInfo desc paddrinfo
      | _ => some (-1, optval)

end

end OptionView

/-! ## The gets return what the view says -/

section

variable {E} (hE : E.Instant) (desc : SCTPSocketDesc)
include hE

theorem reads_getRTOInfo (rtoinfo : SctpRtoinfo) :
    Reads (getRTOInfo E desc rtoinfo) fun s => s.view.readRTOInfo desc rtoinfo := by
  refine (reads_getAssocParams hE desc rtoinfo.srto_assoc_id).bindPure fun found => ?_
  cases found <;> exact .errnoResult _ _

theorem reads_getAssocInfo (assocparams : SctpAssocparams) :
    Reads (getAssocInfo E desc assocparams) fun s => s.view.readAssocInfo desc assocparams := by
  refine (reads_getAssocParams hE desc assocparams.sasoc_assoc_id).bindPure fun found => ?_
  cases found <;> exact .errnoResult _ _

omit hE in
theorem reads_sackAssociation (id : AssocID) :
    Reads (L := L) (sackAssociation desc id) fun s => s.view.sackTarget desc id := by
  unfold sackAssociation OptionView.sackTarget
  cases id with
  | zero =>
    cases desc.sctpAssociationPtr with
    | none => exact .pure _
    | some p => exact SCTPAssociation.reads_getID p
  | succ n => exact .pure _

/-- The delay a get of the delayed acknowledgements reports. -/
theorem reads_defaultDelay (sackInfo : SctpSackInfo) :
    Reads (match desc.sctpSocketPtr with
      | some t => do
        match ← SCTPSocket.getAssocDefaults E t with
        | some parameters => errnoResult 0 (.delayedSack { sackInfo with sack_delay := parameters.delay })
        | none => errnoResult (-EINVAL) (.delayedSack sackInfo)
      | none => errnoResult (-EINVAL) (.delayedSack sackInfo) : Act L OptResult)
      fun s => (s.view.defaultDelay desc).map (OptionView.sackResult sackInfo) := by
  unfold OptionView.defaultDelay
  cases desc.sctpSocketPtr with
  | none => exact .errnoResult _ _
  | some t =>
    have hstep (found : Option InstanceParameters) : Reads (L := L)
        (match found with
        | some parameters => errnoResult 0 (.delayedSack { sackInfo with sack_delay := parameters.delay })
        | none => errnoResult (-EINVAL) (.delayedSack sackInfo))
        fun _ => some (OptionView.sackResult sackInfo (found.map (·.delay))) := by
      cases found <;> exact .errnoResult _ _
    refine ((SCTPSocket.reads_getAssocDefaults hE t).bindPure hstep).congr fun s => ?_
    dsimp only
    cases s.view.socket t <;> rfl

theorem reads_getDelayedAckTime (sackInfo : SctpSackInfo) :
    Reads (getDelayedAckTime E desc sackInfo) fun s => s.view.readDelayedAckTime desc sackInfo := by
  unfold getDelayedAckTime OptionView.readDelayedAckTime
  refine (reads_sackAssociation desc sackInfo.sack_assoc_id).bind fun id => ?_
  by_cases hid : id ≠ 0
  · simp only [if_pos hid]
    refine (reads_getAssocParams hE desc id).bindPure fun found => ?_
    cases found <;> exact .errnoResult _ _
  · simp only [if_neg hid]
    exact reads_defaultDelay hE desc sackInfo

theorem reads_getPrimaryPath (id : AssocID) :
    Reads (getPrimaryPath E desc id) fun s => s.view.primaryPath desc id := by
  have hassociation (p : AssocPtr) : Reads
      (do
        match ← SCTPAssociation.getPathParameters E p none with
        | some parameters => pure (some parameters, ← SCTPAssociation.getID p)
        | none => pure (none, id) : Act L (Option PathStatus × AssocID))
      fun s => (s.view.association p).map fun a =>
        match s.view.pathAt a.id (s.view.primary a.id) with
        | some parameters => (some parameters, a.id)
        | none => (none, id) := by
    have hstep (found : Option PathStatus) : Reads (L := L)
        (match found with
        | some parameters => do pure (some parameters, ← SCTPAssociation.getID p)
        | none => pure (none, id))
        fun s => match found with
          | some parameters => (s.view.association p).map fun a => (some parameters, a.id)
          | none => some (none, id) := by
      cases found with
      | none => exact .pure _
      | some parameters =>
        refine ((SCTPAssociation.reads_getID p).bindPure fun i => .pure (some parameters, i)).congr fun s => ?_
        dsimp only
        cases s.view.association p <;> rfl
    refine (((Reads.associationAt p).bind fun a =>
      SCTPSocket.reads_getPathParameters hE a.associationID none).bind hstep).congr fun s => ?_
    dsimp only [Shared.view_association]
    cases s.associations p with
    | none => rfl
    | some a =>
      dsimp only [SCTPAssociation.view, Option.map_some, Option.bind_some]
      cases s.view.pathAt a.associationID (s.view.primary a.associationID) <;> rfl
  refine (Reads.dispatch desc hassociation (fun _ => (SCTPSocket.reads_getPathParameters hE id none).bindPure
    fun found => .pure (found, id)) (.pure (none, id))).congr fun s => ?_
  unfold OptionView.primaryPath OptionView.target
  rw [desc.apply_dispatch (Option.map _)]
  congr 1
  · funext p
    cases s.view.association p <;> rfl
  · funext t
    dsimp only [Option.map_some]
    cases s.view.pathAt id (s.view.primary id) <;> rfl

theorem reads_getPrimaryAddressInfo (id : AssocID) (paddrinfo : SctpPaddrinfo) :
    Reads (getPrimaryAddressInfo E desc id paddrinfo) fun s => s.view.readPrimary E desc id paddrinfo := by
  unfold getPrimaryAddressInfo OptionView.readPrimary
  refine .locked hE ((reads_getPrimaryPath hE desc id).bindPure fun found => ?_)
  obtain ⟨parameters, id⟩ := found
  cases parameters with
  | none => exact .pure _
  | some parameters =>
    dsimp only
    cases createSocketAddress E parameters.destinationAddress 0 with
    | none => exact .pure _
    | some address =>
      dsimp only
      split
      · exact .pure _
      · exact .pure _

theorem reads_getStatus (status : SctpStatus) :
    Reads (getStatus E desc status) fun s => s.view.readStatus E desc status := by
  have hstep (found : Option (AssociationStatus × AssocID)) : Reads
      (match found with
      | some (parameters, assocID) => do
        let (result, sstat_primary) ← getPrimaryAddressInfo E desc assocID status.sstat_primary
        return (result, { sstat_assoc_id := assocID, sstat_state := parameters.state
                          sstat_rwnd := parameters.currentReceiverWindowSize
                          sstat_unackdata := parameters.noOfChunksInRetransmissionQueue
                          sstat_penddata := parameters.noOfChunksInReceptionQueue
                          sstat_instrms := parameters.inStreams, sstat_outstrms := parameters.outStreams
                          sstat_fragmentation_point := 0, sstat_primary : SctpStatus })
      | none => return (-1, status))
      fun s => match found with
        | some (parameters, id) => (s.view.readPrimary E desc id status.sstat_primary).map fun found =>
            (found.1, { sstat_assoc_id := id, sstat_state := parameters.state
                        sstat_rwnd := parameters.currentReceiverWindowSize
                        sstat_unackdata := parameters.noOfChunksInRetransmissionQueue
                        sstat_penddata := parameters.noOfChunksInReceptionQueue
                        sstat_instrms := parameters.inStreams, sstat_outstrms := parameters.outStreams
                        sstat_fragmentation_point := 0, sstat_primary := found.2 })
        | none => some (-1, status) := by
    cases found with
    | none => exact .pure _
    | some found => exact (reads_getPrimaryAddressInfo hE desc found.2 status.sstat_primary).bindPure fun r => .pure _
  refine ((Reads.locked hE ((reads_getAssocParams hE desc status.sstat_assoc_id).bind hstep)).bindPure fun r =>
    .errnoResult r.1 (.status r.2)).congr fun s => ?_
  unfold OptionView.readStatus
  dsimp only
  cases s.view.params desc status.sstat_assoc_id with
  | none => rfl
  | some found =>
    cases found with
    | none => rfl
    | some found =>
      dsimp only [Option.bind_some]
      cases s.view.readPrimary E desc found.2 status.sstat_primary <;> rfl

theorem reads_getPeerAddressInfo (paddrinfo : SctpPaddrinfo) :
    Reads (getPeerAddressInfo E desc paddrinfo) fun s => s.view.readPeerAddressInfo desc paddrinfo := by
  unfold getPeerAddressInfo OptionView.readPeerAddressInfo
  cases paddrinfo.spinfo_address with
  | none => exact .errnoResult _ _
  | some address =>
    refine (reads_getPathStatus hE desc paddrinfo.spinfo_assoc_id address).bindPure fun found => ?_
    cases found <;> exact .errnoResult _ _

theorem reads_configurePeerAddressParams (params : SctpPaddrparams) :
    Reads (configurePeerAddressParams E desc params true) fun s => s.view.readPeerAddressParams desc params := by
  have hlocked : Reads (configurePeerAddressParamsLocked E desc params true) fun s =>
      match params.spp_address with
      | none => some (-EINVAL, params)
      | some address => (s.view.pathParams desc params.spp_assoc_id address).map fun
        | some parameters => (0, fillPaddrparams params parameters)
        | none => (- EIO, params) := by
    unfold configurePeerAddressParamsLocked
    cases params.spp_address with
    | none => exact .pure _
    | some address =>
      refine (reads_getPathStatus hE desc params.spp_assoc_id address).bindPure fun found => ?_
      cases found <;> exact .pure _
  refine ((Reads.locked hE hlocked).bindPure fun r => .errnoResult r.1 (.peerAddrParams r.2)).congr fun s => ?_
  unfold OptionView.readPeerAddressParams
  cases params.spp_address with
  | none => rfl
  | some address =>
    dsimp only
    cases s.view.pathParams desc params.spp_assoc_id address with
    | none => rfl
    | some found => cases found <;> rfl

theorem reads_getStatusField (f : AssociationStatus → Nat) (p : AssocPtr) :
    Reads (SCTPAssociation.getStatusField E f p) fun s => s.view.field f p := by
  unfold SCTPAssociation.getStatusField OptionView.field
  refine (Reads.locked hE ((Reads.associationAt p).bind fun a => Reads.shared.bind fun w => .pure _)).congr fun s => ?_
  dsimp only [Shared.view]
  cases s.associations p <;> rfl

theorem reads_getBufferSize (option : UInt32 → SockOpt) (f : AssociationStatus → Nat) (old : UInt32) :
    Reads (getBufferSize option (SCTPAssociation.getStatusField E f) desc old) fun s =>
      s.view.readBufferSize desc option f old := by
  unfold getBufferSize OptionView.readBufferSize
  cases desc.sctpAssociationPtr with
  | none => exact .errnoResult _ _
  | some p =>
    refine (reads_getStatusField hE f p).bindPure fun n => ?_
    dsimp only
    split
    · exact .errnoResult _ _
    · exact .errnoResult _ _

omit hE in
theorem reads_autoClose (optval : SockOpt) :
    Reads (match desc.sctpSocketPtr with
      | some t => do errnoResult 0 (.autoClose (UInt32.ofNat ((← SCTPSocket.getAutoClose t) / 1000000)))
      | none => errnoResult (-EBADF) optval : Act L OptResult)
      fun s => match desc.sctpSocketPtr with
        | some t => (s.view.socket t).map fun o => (0, .autoClose (UInt32.ofNat (o.autoClose / 1000000)))
        | none => some (-1, optval) := by
  cases desc.sctpSocketPtr with
  | none => exact .errnoResult _ _
  | some t =>
    refine (((Reads.socketAt t).bind fun o => .pure o.autoCloseTimeout).bindPure fun n =>
      .errnoResult 0 (.autoClose (UInt32.ofNat (n / 1000000)))).congr fun s => ?_
    dsimp only [Shared.view]
    cases s.sockets t <;> rfl

theorem reads_trafficClass (optval : SockOpt) :
    Reads (match desc.sctpAssociationPtr with
      | some p => do errnoResult (← SCTPAssociation.getTrafficClass E p) optval
      | none => errnoResult 0 optval : Act L OptResult)
      fun s => match desc.sctpAssociationPtr with
        | some p => (s.view.field (·.ipTos) p).map fun n => (OptionView.errno n, optval)
        | none => some (0, optval) := by
  cases desc.sctpAssociationPtr with
  | none => exact .errnoResult _ _
  | some p => exact (reads_getStatusField hE _ p).bindPure fun n => .errnoResult n optval

omit hE in
/-- The check of the buffer, made as an early return. -/
theorem Reads.fitting {x : Act L OptResult} {g : Shared L → Option OptResult} {optval : SockOpt} (fits : Bool)
    (hx : Reads x g) :
    Reads (if !fits then do
        return ← SocketApi.errnoResult (-EINVAL) optval
      else x) fun s => if !fits then some (-1, optval) else g s := by
  cases fits with
  | false => exact .errnoResult _ _
  | true => exact hx

theorem reads_getOption (optval : SockOpt) (fits : Bool) :
    Reads (getOption E desc optval fits) fun s => s.view.read E desc optval fits := by
  unfold getOption OptionView.read
  cases optval with
  | nodelay => exact .errnoResult _ _
  | trafficClass tos => exact reads_trafficClass hE desc _
  | primaryAddr id a => exact .errnoResult _ _
  | peerPrimaryAddr id a => exact .errnoResult _ _
  | events flags => exact .errnoResult _ _
  | defaultSendParam info => exact .errnoResult _ _
  | streamTimeouts id timeout start stop => exact .errnoResult _ _
  | rtoInfo rtoinfo => exact .fitting fits (reads_getRTOInfo hE desc rtoinfo)
  | assocInfo assocparams => exact .fitting fits (reads_getAssocInfo hE desc assocparams)
  | peerAddrParams params => exact .fitting fits (reads_configurePeerAddressParams hE desc params)
  | delayedSack sackInfo => exact .fitting fits (reads_getDelayedAckTime hE desc sackInfo)
  | autoClose seconds => exact .fitting fits (reads_autoClose desc _)
  | initMsg initmsg => exact .fitting fits (.errnoResult _ _)
  | linger onoff seconds => exact .fitting fits (.errnoResult _ _)
  | sndBuf old => exact .fitting fits (reads_getBufferSize hE desc _ _ old)
  | rcvBuf old => exact .fitting fits (reads_getBufferSize hE desc _ _ old)
  | status status => exact .fitting fits (reads_getStatus hE desc status)
  | peerAddrInfo paddrinfo => exact .fitting fits (reads_getPeerAddressInfo hE desc paddrinfo)

theorem reads_ext_getsockopt {fd : Int} {slot : Nat} (hfd : getSocket fd = some slot) (optval : SockOpt) (fits : Bool) :
    Reads (ext_getsockopt E fd optval fits) fun s => match s.descriptors slot with
      | .sctp desc => s.view.read E desc optval fits
      | .system id => some (E.systemCall id, optval)
      | .invalid => some (-1, optval) := by
  have hstep (td : ExtSocketDescriptor) : Reads (match td with
      | .sctp desc => getOption E desc optval fits
      | .system systemSocketID => return (E.systemCall systemSocketID, optval)
      | .invalid => errnoResult (- ENXIO) optval) fun s => match td with
      | .sctp desc => s.view.read E desc optval fits
      | .system id => some (E.systemCall id, optval)
      | .invalid => some (-1, optval) := by
    cases td with
    | invalid => exact .errnoResult _ _
    | system id => exact .pure _
    | sctp desc => exact reads_getOption hE desc optval fits
  unfold ext_getsockopt
  rw [hfd]
  exact (Reads.descriptorAt slot).bind hstep

end

end SocketApi
