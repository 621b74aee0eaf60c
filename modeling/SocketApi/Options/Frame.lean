import SocketApi.Options.RoundTrip

/-!
# What a set leaves alone

A set of one option changes a few fields of the view. A get of another option reads other
fields, so that it returns what it returned before.
-/

namespace SocketApi

open Effect ExtSocketDescriptorMaster

variable {L : Sctplib} {E : Environment L}

/-! ## The protocol library's settings -/

def Settings.setStatus (s : Settings) (id : AssocID) (status : AssociationStatus) : Settings :=
  { s with status := Function.update s.status id (some status) }

def Settings.setDefaults (s : Settings) (i : InstanceID) (parameters : InstanceParameters) : Settings :=
  { s with defaults := Function.update s.defaults i (some parameters) }

def Settings.setInterval (s : Settings) (id : AssocID) (index : Int) (interval : Nat) : Settings :=
  let path := (s.path id index).map ({ · with heartbeatIntervall := interval })
  { s with path := Function.update s.path id (Function.update (s.path id) index path) }

/-- The primary path is also named in the status of the association. -/
def Settings.setPrimary (s : Settings) (id : AssocID) (index : Int) (address : String) : Settings :=
  { s with
    primary := Function.update s.primary id index
    status := Function.update s.status id ((s.status id).map ({ · with primaryDestinationAddress := address })) }

/-- Each setter of the library changes what it is there for, if it succeeds, and nothing if
it fails. -/
structure Sctplib.Lawful (L : Sctplib) : Prop where
  setAssocStatus : ∀ {s s' id status ok}, L.setAssocStatus s id status = (ok, s') →
    L.settings s' = if ok then (L.settings s).setStatus id status else L.settings s
  setAssocDefaults : ∀ {s s' i parameters ok}, L.setAssocDefaults s i parameters = (ok, s') →
    L.settings s' = if ok then (L.settings s).setDefaults i parameters else L.settings s
  requestHeartbeat : ∀ {s s' id index ok}, L.requestHeartbeat s id index = (ok, s') → L.settings s' = L.settings s
  changeHeartBeat : ∀ {s s' id index interval ok}, L.changeHeartBeat s id index interval = (ok, s') →
    L.settings s' = if ok then (L.settings s).setInterval id index interval else L.settings s
  setPrimary : ∀ {s s' id index ok}, L.setPrimary s id index = (ok, s') →
    ∃ address, L.settings s' = if ok then (L.settings s).setPrimary id index address else L.settings s

/-! ## Fields that do not matter -/

/-- The status without the fields a set of the option changes. -/
def SockOpt.forget (x : SockOpt) (status : AssociationStatus) : AssociationStatus :=
  match x with
  | .rtoInfo _ => { status with rtoInitial := 0, rtoMin := 0, rtoMax := 0 }
  | .assocInfo _ => { status with assocMaxRetransmits := 0 }
  | .delayedSack _ => { status with delay := 0 }
  | .sndBuf _ => { status with maxSendQueue := 0 }
  | .rcvBuf _ => { status with maxRecvQueue := 0 }
  | .primaryAddr _ _ | .peerPrimaryAddr _ _ => { status with primaryDestinationAddress := "" }
  | _ => status

def SockOpt.forgetPath (x : SockOpt) (path : PathStatus) : PathStatus :=
  match x with
  | .peerAddrParams _ => { path with heartbeatIntervall := 0 }
  | _ => path

def SockOpt.forgetDefaults (x : SockOpt) (parameters : InstanceParameters) : InstanceParameters :=
  match x with
  | .delayedSack _ => { parameters with delay := 0 }
  | .initMsg _ => { parameters with outStreams := 0, inStreams := 0 }
  | _ => parameters

namespace OptionView

/-- Two views that differ in the fields of the option `x` only; primary paths and the times of
auto-close are left out. -/
structure SameBut (x : SockOpt) (desc : SCTPSocketDesc) (v v' : OptionView) : Prop where
  ids : ∀ p, (v'.association p).map (·.id) = (v.association p).map (·.id)
  instances : ∀ t, (v'.socket t).map (·.instanceName) = (v.socket t).map (·.instanceName)
  params : ∀ k, (v'.params desc k).map (Option.map fun r => (x.forget r.1, r.2)) =
    (v.params desc k).map (Option.map fun r => (x.forget r.1, r.2))
  status : ∀ id, (v'.status id).map (fun status => { x.forget status with rtoMax := 0 }) =
    (v.status id).map fun status => { x.forget status with rtoMax := 0 }
  path : ∀ id index, (v'.path id index).map x.forgetPath = (v.path id index).map x.forgetPath
  defaults : ∀ i, (v'.defaults i).map x.forgetDefaults = (v.defaults i).map x.forgetDefaults

theorem SameBut.refl (x : SockOpt) (desc : SCTPSocketDesc) (v : OptionView) : SameBut x desc v v :=
  ⟨fun _ => rfl, fun _ => rfl, fun _ => rfl, fun _ => rfl, fun _ _ => rfl, fun _ => rfl⟩

/-! ## Reading the other options -/

/-- Options that are equal up to a function, with functions that only look at what is left. -/
theorem map_of_map {α β γ : Type} {o o' : Option α} {f : α → β} {g g' : α → γ} (h : o'.map f = o.map f)
    (hg : ∀ a a', f a' = f a → g' a' = g a) : o'.map g' = o.map g := by
  cases o with
  | none =>
    cases o' with
    | none => rfl
    | some a' => cases h
  | some a =>
    cases o' with
    | none => cases h
    | some a' => exact congrArg some (hg a a' (Option.some.inj h))

section

variable {x : SockOpt} {desc : SCTPSocketDesc} {v v' : OptionView} (h : SameBut x desc v v')
include h

theorem params_congr {γ : Type} {f : Option (AssociationStatus × AssocID) → γ} (k : AssocID)
    (hf : ∀ st st' id, x.forget st' = x.forget st → f (some (st', id)) = f (some (st, id))) :
    (v'.params desc k).map f = (v.params desc k).map f :=
  map_of_map (h.params k) fun found found' heq => by
    cases found with
    | none =>
      cases found' with
      | none => rfl
      | some r => cases heq
    | some r =>
      cases found' with
      | none => cases heq
      | some r' =>
        obtain ⟨st, id⟩ := r
        obtain ⟨st', id'⟩ := r'
        have heq := Prod.mk.inj (Option.some.inj heq)
        obtain rfl : id' = id := heq.2
        exact hf st st' id' heq.1

theorem status_of_field {γ : Type} {π : AssociationStatus → γ}
    (hπ : ∀ st, π { x.forget st with rtoMax := 0 } = π st) (id : AssocID) :
    (v'.status id).map π = (v.status id).map π :=
  map_of_map (h.status id) fun st st' heq => (hπ st').symm.trans ((congrArg π heq).trans (hπ st))

theorem path_of_field {γ : Type} {π : PathStatus → γ} (hπ : ∀ path, π (x.forgetPath path) = π path) (id : AssocID)
    (index : Int) : (v'.path id index).map π = (v.path id index).map π :=
  map_of_map (h.path id index) fun p p' heq => (hπ p').symm.trans ((congrArg π heq).trans (hπ p))

theorem defaults_of_field {γ : Type} {π : InstanceParameters → γ} (hπ : ∀ d, π (x.forgetDefaults d) = π d)
    (i : InstanceID) : (v'.defaults i).map π = (v.defaults i).map π :=
  map_of_map (h.defaults i) fun d d' heq => (hπ d').symm.trans ((congrArg π heq).trans (hπ d))

/-- The association a descriptor goes to has the same ID. -/
theorem target_bind_congr {γ : Type} {f f' : Option AssociationView → Option γ} (k : AssocID)
    (hf : ∀ a a' : AssociationView, a'.id = a.id → f' (some a') = f (some a)) (hnone : f' none = f none) :
    (v'.target desc k).bind f' = (v.target desc k).bind f := by
  unfold target
  rw [desc.apply_dispatch (Option.bind · f'), desc.apply_dispatch (Option.bind · f)]
  congr 1
  · funext p
    have hids := h.ids p
    cases ha : v.association p with
    | none =>
      cases ha' : v'.association p with
      | none => rfl
      | some a' => rw [ha, ha'] at hids; cases hids
    | some a =>
      cases ha' : v'.association p with
      | none => rw [ha, ha'] at hids; cases hids
      | some a' =>
        rw [ha, ha'] at hids
        exact hf a a' (Option.some.inj hids)
  · funext t
    exact hf _ _ rfl

theorem target_congr {γ : Type} {f f' : Option AssociationView → γ} (k : AssocID)
    (hf : ∀ a a' : AssociationView, a'.id = a.id → f' (some a') = f (some a)) (hnone : f' none = f none) :
    (v'.target desc k).map f' = (v.target desc k).map f := by
  rw [Option.map_eq_bind, Option.map_eq_bind]
  exact target_bind_congr h k (fun a a' heq => congrArg some (hf a a' heq)) (congrArg some hnone)

/-! ### Parameters of the association -/

theorem readRTOInfo_same (hx : ∀ r, x ≠ .rtoInfo r) (r : SctpRtoinfo) :
    v'.readRTOInfo desc r = v.readRTOInfo desc r := by
  refine params_congr h _ fun st st' id heq => ?_
  have hfields : st'.rtoInitial = st.rtoInitial ∧ st'.rtoMax = st.rtoMax ∧ st'.rtoMin = st.rtoMin := by
    cases x with
    | rtoInfo r => exact absurd rfl (hx r)
    | _ => exact ⟨congrArg (·.rtoInitial) heq, congrArg (·.rtoMax) heq, congrArg (·.rtoMin) heq⟩
  dsimp only
  rw [hfields.1, hfields.2.1, hfields.2.2]

theorem readAssocInfo_same (hx : ∀ r, x ≠ .assocInfo r) (r : SctpAssocparams) :
    v'.readAssocInfo desc r = v.readAssocInfo desc r := by
  refine params_congr h _ fun st st' id heq => ?_
  have hfields : st'.assocMaxRetransmits = st.assocMaxRetransmits ∧
      st'.numberOfDestinationPaths = st.numberOfDestinationPaths ∧
      st'.currentReceiverWindowSize = st.currentReceiverWindowSize ∧ st'.validCookieLife = st.validCookieLife := by
    cases x with
    | assocInfo r => exact absurd rfl (hx r)
    | _ => exact ⟨congrArg (·.assocMaxRetransmits) heq, congrArg (·.numberOfDestinationPaths) heq,
        congrArg (·.currentReceiverWindowSize) heq, congrArg (·.validCookieLife) heq⟩
  dsimp only
  rw [hfields.1, hfields.2.1, hfields.2.2.1, hfields.2.2.2]

theorem sackTarget_same (k : AssocID) : v'.sackTarget desc k = v.sackTarget desc k := by
  unfold sackTarget
  split
  · exact h.ids _
  · rfl

theorem defaultDelay_same (hx : ∀ r, x ≠ .delayedSack r) : v'.defaultDelay desc = v.defaultDelay desc := by
  have hdelay (i : InstanceID) : (v'.defaults i).map (·.delay) = (v.defaults i).map (·.delay) := by
    refine defaults_of_field h (fun d => ?_) i
    cases x with
    | delayedSack r => exact absurd rfl (hx r)
    | _ => rfl
  unfold defaultDelay
  split
  · refine map_of_map (h.instances _) fun o o' heq => ?_
    rw [show o'.instanceName = o.instanceName from heq]
    exact hdelay _
  · rfl

theorem readDelayedAckTime_same (hx : ∀ r, x ≠ .delayedSack r) (r : SctpSackInfo) :
    v'.readDelayedAckTime desc r = v.readDelayedAckTime desc r := by
  unfold readDelayedAckTime
  rw [sackTarget_same h, defaultDelay_same h hx]
  congr 1
  funext id
  split
  · refine params_congr h id fun st st' id heq => ?_
    have hdelay : st'.delay = st.delay := by
      cases x with
      | delayedSack r => exact absurd rfl (hx r)
      | _ => exact congrArg (·.delay) heq
    dsimp only [Option.map_some]
    rw [hdelay]
  · rfl

theorem field_same {f : AssociationStatus → Nat} (hf : ∀ st, f { x.forget st with rtoMax := 0 } = f st) (p : AssocPtr) :
    v'.field f p = v.field f p := by
  unfold field
  refine map_of_map (h.ids p) fun a a' heq => ?_
  rw [show a'.id = a.id from heq, status_of_field h hf]

/-! ### Paths -/

theorem pathSearch_same (id : AssocID) (address : SocketAddress) (indices : List Int) :
    pathSearch (v'.path id) address indices = pathSearch (v.path id) address indices := by
  have haddress (index : Int) : (v'.path id index).map (·.destinationAddress) =
      (v.path id index).map (·.destinationAddress) := by
    refine path_of_field h (fun path => ?_) id index
    cases x <;> rfl
  induction indices with
  | nil => rfl
  | cons index rest ih =>
    have hindex := haddress index
    unfold pathSearch
    cases hpath : v.path id index with
    | none =>
      cases hpath' : v'.path id index with
      | none => rfl
      | some path' => rw [hpath, hpath'] at hindex; cases hindex
    | some path =>
      cases hpath' : v'.path id index with
      | none => rw [hpath, hpath'] at hindex; cases hindex
      | some path' =>
        rw [hpath, hpath'] at hindex
        have heq : path'.destinationAddress = path.destinationAddress := Option.some.inj hindex
        dsimp only
        rw [heq, ih]

theorem pathIndex_same (id : AssocID) (address : SocketAddress) : v'.pathIndex id address = v.pathIndex id address := by
  have hids : (v'.status id).map (·.destinationPathIDs) = (v.status id).map (·.destinationPathIDs) := by
    refine status_of_field h (fun st => ?_) id
    cases x <;> rfl
  unfold pathIndex
  cases hst : v.status id with
  | none =>
    cases hst' : v'.status id with
    | none => rfl
    | some st' => rw [hst, hst'] at hids; cases hids
  | some st =>
    cases hst' : v'.status id with
    | none => rw [hst, hst'] at hids; cases hids
    | some st' =>
      rw [hst, hst'] at hids
      have heq : st'.destinationPathIDs = st.destinationPathIDs := Option.some.inj hids
      dsimp only
      rw [heq, pathSearch_same h]

/-- A path that was looked up, in the fields the option `x` does not change. -/
theorem pathAt_same (id : AssocID) (index : Int) :
    (v'.pathAt id index).map x.forgetPath = (v.pathAt id index).map x.forgetPath := by
  have hpath := h.path id index
  unfold pathAt
  split
  · cases hp : v.path id index with
    | none =>
      cases hp' : v'.path id index with
      | none => rfl
      | some path' => rw [hp, hp'] at hpath; cases hpath
    | some path =>
      cases hp' : v'.path id index with
      | none => rw [hp, hp'] at hpath; cases hpath
      | some path' =>
        rw [hp, hp'] at hpath
        exact hpath
  · rfl

theorem pathParams_congr {γ : Type} {f : Option PathStatus → γ} (k : AssocID) (address : SocketAddress)
    (hf : ∀ o o' : Option PathStatus, o'.map x.forgetPath = o.map x.forgetPath → f o' = f o) :
    (v'.pathParams desc k address).map f = (v.pathParams desc k address).map f := by
  unfold pathParams
  rw [Option.map_bind, Option.map_bind]
  refine target_bind_congr h k (fun a a' heq => ?_) rfl
  show ((v'.pathIndex a'.id address).map (v'.pathAt a'.id)).map f = ((v.pathIndex a.id address).map (v.pathAt a.id)).map f
  rw [heq, pathIndex_same h, Option.map_map, Option.map_map]
  congr 1
  funext index
  exact hf _ _ (pathAt_same h a.id index)

theorem readPeerAddressInfo_same (paddrinfo : SctpPaddrinfo) :
    v'.readPeerAddressInfo desc paddrinfo = v.readPeerAddressInfo desc paddrinfo := by
  unfold readPeerAddressInfo
  split
  · rfl
  · refine pathParams_congr h _ _ fun o o' heq => ?_
    have hfields (path path' : PathStatus) (heq : x.forgetPath path' = x.forgetPath path) :
        path'.state = path.state ∧ path'.cwnd = path.cwnd ∧ path'.srtt = path.srtt ∧ path'.rto = path.rto ∧
          path'.mtu = path.mtu := by
      cases x with
      | peerAddrParams params => exact ⟨congrArg (·.state) heq, congrArg (·.cwnd) heq, congrArg (·.srtt) heq,
          congrArg (·.rto) heq, congrArg (·.mtu) heq⟩
      | _ =>
        cases heq
        exact ⟨rfl, rfl, rfl, rfl, rfl⟩
    cases o with
    | none =>
      cases o' with
      | none => rfl
      | some path' => cases heq
    | some path =>
      cases o' with
      | none => cases heq
      | some path' =>
        obtain ⟨hstate, hcwnd, hsrtt, hrto, hmtu⟩ := hfields path path' (Option.some.inj heq)
        dsimp only
        rw [hstate, hcwnd, hsrtt, hrto, hmtu]

theorem readPeerAddressParams_same (hx : ∀ params, x ≠ .peerAddrParams params) (params : SctpPaddrparams) :
    v'.readPeerAddressParams desc params = v.readPeerAddressParams desc params := by
  unfold readPeerAddressParams
  split
  · rfl
  · refine pathParams_congr h _ _ fun o o' heq => ?_
    have hforget : x.forgetPath = id := by
      cases x with
      | peerAddrParams params => exact absurd rfl (hx params)
      | _ => rfl
    rw [hforget, Option.map_id] at heq
    rw [show o' = o from heq]

/-- The primary path of an association, if it is the same one. -/
theorem primaryPath_same (hprimary : v'.primary = v.primary) (k : AssocID) :
    (v'.primaryPath desc k).map (fun r => (r.1.map x.forgetPath, r.2)) =
      (v.primaryPath desc k).map fun r => (r.1.map x.forgetPath, r.2) := by
  unfold primaryPath
  rw [Option.map_map, Option.map_map]
  refine target_congr h k (fun a a' heq => ?_) rfl
  dsimp only [Function.comp]
  rw [heq, hprimary]
  have hpath := pathAt_same h a.id (v.primary a.id)
  cases hp : v.pathAt a.id (v.primary a.id) with
  | none =>
    cases hp' : v'.pathAt a.id (v.primary a.id) with
    | none => rfl
    | some path' => rw [hp, hp'] at hpath; cases hpath
  | some path =>
    cases hp' : v'.pathAt a.id (v.primary a.id) with
    | none => rw [hp, hp'] at hpath; cases hpath
    | some path' =>
      rw [hp, hp'] at hpath
      exact congrArg (·, a.id) hpath

theorem readPrimary_same (E : Environment L) (hprimary : v'.primary = v.primary) (k : AssocID)
    (paddrinfo : SctpPaddrinfo) : v'.readPrimary E desc k paddrinfo = v.readPrimary E desc k paddrinfo := by
  unfold readPrimary
  refine map_of_map (primaryPath_same h hprimary k) fun r r' heq => ?_
  obtain ⟨o, id⟩ := r
  obtain ⟨o', id'⟩ := r'
  obtain ⟨hpath, rfl⟩ := Prod.mk.inj heq
  cases o with
  | none =>
    cases o' with
    | none => rfl
    | some path' => cases hpath
  | some path =>
    cases o' with
    | none => cases hpath
    | some path' =>
      have heq : x.forgetPath path' = x.forgetPath path := Option.some.inj hpath
      cases x with
      | peerAddrParams params =>
        have hinterval : path' = { path with heartbeatIntervall := path'.heartbeatIntervall } := by
          have h := congrArg (fun p : PathStatus => { p with heartbeatIntervall := path'.heartbeatIntervall }) heq
          exact h
        rw [hinterval]
      | _ =>
        cases heq
        rfl

/-- The structure of `SCTP_STATUS` without the primary path. -/
def statusOf (status : SctpStatus) (found : AssociationStatus × AssocID) : SctpStatus :=
  { sstat_assoc_id := found.2, sstat_state := found.1.state, sstat_rwnd := found.1.currentReceiverWindowSize
    sstat_unackdata := found.1.noOfChunksInRetransmissionQueue, sstat_penddata := found.1.noOfChunksInReceptionQueue
    sstat_instrms := found.1.inStreams, sstat_outstrms := found.1.outStreams, sstat_fragmentation_point := 0
    sstat_primary := status.sstat_primary }

theorem params_statusOf (status : SctpStatus) (k : AssocID) :
    (v'.params desc k).map (Option.map (statusOf status)) = (v.params desc k).map (Option.map (statusOf status)) := by
  refine params_congr h k fun st st' id heq => ?_
  have hfields : st'.state = st.state ∧ st'.currentReceiverWindowSize = st.currentReceiverWindowSize ∧
      st'.noOfChunksInRetransmissionQueue = st.noOfChunksInRetransmissionQueue ∧
      st'.noOfChunksInReceptionQueue = st.noOfChunksInReceptionQueue ∧ st'.inStreams = st.inStreams ∧
      st'.outStreams = st.outStreams := by
    cases x <;> exact ⟨congrArg (·.state) heq, congrArg (·.currentReceiverWindowSize) heq,
      congrArg (·.noOfChunksInRetransmissionQueue) heq, congrArg (·.noOfChunksInReceptionQueue) heq,
      congrArg (·.inStreams) heq, congrArg (·.outStreams) heq⟩
  dsimp only [Option.map_some, statusOf]
  rw [hfields.1, hfields.2.1, hfields.2.2.1, hfields.2.2.2.1, hfields.2.2.2.2.1, hfields.2.2.2.2.2]

end

/-- `readStatus` reads the parameters through `statusOf`. -/
theorem readStatus_eq (E : Environment L) (desc : SCTPSocketDesc) (v : OptionView) (status : SctpStatus) :
    v.readStatus E desc status = ((v.params desc status.sstat_assoc_id).map (Option.map (statusOf status))).bind fun
      | some st => (v.readPrimary E desc st.sstat_assoc_id status.sstat_primary).map fun r =>
          (errno r.1, .status { st with sstat_primary := r.2 })
      | none => some (-1, .status status) := by
  unfold readStatus
  cases v.params desc status.sstat_assoc_id with
  | none => rfl
  | some found => cases found <;> rfl

/-! ### All other options -/

section

variable {x : SockOpt} {desc : SCTPSocketDesc} {v v' : OptionView} (h : SameBut x desc v v')
include h

theorem readBufferSize_same (option : UInt32 → SockOpt) {f : AssociationStatus → Nat}
    (hf : ∀ st, f { x.forget st with rtoMax := 0 } = f st) (old : UInt32) :
    v'.readBufferSize desc option f old = v.readBufferSize desc option f old := by
  unfold readBufferSize
  split
  · rw [field_same h hf]
  · rfl

/-- A get of an option other than the one that was set, provided that it does not read the
primary path or that this is the same. -/
theorem read_same (E : Environment L) {y : SockOpt} (hxy : x.ctorIdx ≠ y.ctorIdx) (fits : Bool)
    (hprimary : (∃ status, y = .status status) → v'.primary = v.primary)
    (hautoClose : (∃ seconds, y = .autoClose seconds) →
      ∀ t, (v'.socket t).map (·.autoClose) = (v.socket t).map (·.autoClose)) :
    v'.read E desc y fits = v.read E desc y fits := by
  have hne {y' : SockOpt} (hy : y'.ctorIdx = y.ctorIdx) : x ≠ y' := fun hxy' => hxy (by rw [hxy', hy])
  cases y with
  | nodelay => rfl
  | primaryAddr k address => rfl
  | peerPrimaryAddr k address => rfl
  | events flags => rfl
  | defaultSendParam info => rfl
  | streamTimeouts k timeout start stop => rfl
  | trafficClass tos =>
    unfold read
    dsimp only
    split
    · refine congrArg _ (field_same h (fun st => ?_) _)
      cases x <;> rfl
    · rfl
  | rtoInfo rtoinfo =>
    cases fits with
    | false => rfl
    | true => exact readRTOInfo_same h (fun r => hne rfl) rtoinfo
  | assocInfo assocparams =>
    cases fits with
    | false => rfl
    | true => exact readAssocInfo_same h (fun r => hne rfl) assocparams
  | peerAddrParams params =>
    cases fits with
    | false => rfl
    | true => exact readPeerAddressParams_same h (fun r => hne rfl) params
  | delayedSack sackInfo =>
    cases fits with
    | false => rfl
    | true => exact readDelayedAckTime_same h (fun r => hne rfl) sackInfo
  | initMsg initmsg =>
    cases fits <;> rfl
  | linger onoff seconds =>
    cases fits <;> rfl
  | autoClose seconds =>
    cases fits with
    | false => rfl
    | true =>
      unfold read
      dsimp only
      cases desc.sctpSocketPtr with
      | none => rfl
      | some t =>
        refine map_of_map (hautoClose ⟨seconds, rfl⟩ t) fun o o' heq => ?_
        rw [heq]
  | sndBuf old =>
    cases fits with
    | false => rfl
    | true =>
      refine readBufferSize_same h .sndBuf (fun st => ?_) old
      cases x with
      | sndBuf size => exact absurd rfl hxy
      | _ => rfl
  | rcvBuf old =>
    cases fits with
    | false => rfl
    | true =>
      refine readBufferSize_same h .rcvBuf (fun st => ?_) old
      cases x with
      | rcvBuf size => exact absurd rfl hxy
      | _ => rfl
  | status status =>
    cases fits with
    | false => rfl
    | true =>
      show v'.readStatus E desc status = v.readStatus E desc status
      rw [readStatus_eq, readStatus_eq, params_statusOf h]
      congr 1
      funext found
      cases found with
      | none => rfl
      | some st =>
        dsimp only
        rw [readPrimary_same h E (hprimary ⟨status, rfl⟩)]
  | peerAddrInfo paddrinfo =>
    cases fits with
    | false => rfl
    | true => exact readPeerAddressInfo_same h paddrinfo

end

end OptionView

end SocketApi
