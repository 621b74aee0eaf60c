import SocketApi.Options.Reading

/-!
# Setting an option

What a set does to the state, up to the answers of the protocol library. The parameters of an
association are read, changed in a few fields and written back as a whole.
-/

namespace SocketApi

open Effect ExtSocketDescriptorMaster

variable {L : Sctplib} {E : Environment L}

/-! ## Writing the parameters of an association -/

/-- `sctp_setAssocStatus` as a step of the whole state. -/
def Shared.setStatus (s : Shared L) (id : AssocID) (status : AssociationStatus) : Bool × Shared L :=
  ((L.setAssocStatus s.stack id status).1, { s with stack := (L.setAssocStatus s.stack id status).2 })

/-- `SCTPAssociation::setAssocStatus`. -/
def Shared.setAssociationStatus (s : Shared L) (p : AssocPtr) (a : SCTPAssociation) (status : AssociationStatus) :
    Bool × Shared L :=
  if a.rtoMaxIsInitTimeout then
    (s.setAssociation p fun a => { a with rtoMax := status.rtoMax }).setStatus a.associationID
      { status with rtoMax := a.initTimeout }
  else s.setStatus a.associationID status

/-- `setAssocParams`. -/
def Shared.setParams (s : Shared L) (desc : SCTPSocketDesc) (id : AssocID) (status : AssociationStatus) :
    Option (Bool × Shared L) :=
  desc.dispatch (fun p => (s.associations p).map fun a => s.setAssociationStatus p a status)
    (fun _ => some (s.setStatus id status)) (some (false, s))

/-- Parameters are read, changed and written back. -/
def Shared.updateParams (s : Shared L) (desc : SCTPSocketDesc) (id : AssocID)
    (change : AssociationStatus → AssociationStatus) : Option (Bool × Shared L) :=
  (s.view.params desc id).bind fun
    | some (status, id) => s.setParams desc id (change status)
    | none => some (false, s)

/-- A setter of a number in the status, which is read and written without regard to `RTOMax`. -/
def Shared.updateStatus (s : Shared L) (id : AssocID) (change : AssociationStatus → AssociationStatus) :
    Bool × Shared L :=
  match L.getAssocStatus s.stack id with
  | some status => s.setStatus id (change status)
  | none => (false, s)

section

variable (hE : E.Instant)
include hE

theorem SCTPSocket.denotes_setAssocStatus (id : AssocID) (status : AssociationStatus) :
    Denotes (SCTPSocket.setAssocStatus E id status) fun s => some (s.setStatus id status) :=
  .locked hE (Denotes.library _)

theorem SCTPAssociation.denotes_setAssocStatus (p : AssocPtr) (status : AssociationStatus) :
    Denotes (SCTPAssociation.setAssocStatus E p status) fun s =>
      (s.associations p).map fun a => s.setAssociationStatus p a status := by
  unfold SCTPAssociation.setAssocStatus
  have hstep (a : SCTPAssociation) : Denotes
      (if a.rtoMaxIsInitTimeout then do
        SocketApi.setAssociation p fun a => { a with rtoMax := status.rtoMax }
        SCTPSocket.setAssocStatus E a.associationID { status with rtoMax := a.initTimeout }
      else SCTPSocket.setAssocStatus E a.associationID status)
      fun s => if a.rtoMaxIsInitTimeout then
          (s.associations p).map fun _ => (s.setAssociation p fun a => { a with rtoMax := status.rtoMax }).setStatus
            a.associationID { status with rtoMax := a.initTimeout }
        else some (s.setStatus a.associationID status) := by
    by_cases h : a.rtoMaxIsInitTimeout
    · simp only [if_pos h]
      refine ((Denotes.setAssociation p _).bind fun _ => SCTPSocket.denotes_setAssocStatus hE _ _).congr fun s => ?_
      cases s.associations p <;> rfl
    · simp only [if_neg h]
      exact SCTPSocket.denotes_setAssocStatus hE _ _
  refine ((Denotes.associationAt p).bind hstep).congr fun s => ?_
  cases h : s.associations p with
  | none => rfl
  | some a =>
    simp only [Option.map_some, Option.bind_some, h, Shared.setAssociationStatus]
    split <;> rfl

theorem denotes_setAssocParams (desc : SCTPSocketDesc) (id : AssocID) (status : AssociationStatus) :
    Denotes (setAssocParams E desc id status) fun s => s.setParams desc id status :=
  .dispatch desc (fun p => SCTPAssociation.denotes_setAssocStatus hE p status)
    (fun _ => SCTPSocket.denotes_setAssocStatus hE id status) (.pure false)

theorem SCTPAssociation.denotes_setStatusField (p : AssocPtr) (change : AssociationStatus → AssociationStatus) :
    Denotes (SCTPAssociation.setStatusField E change p) fun s =>
      (s.associations p).map fun a => s.updateStatus a.associationID change := by
  unfold SCTPAssociation.setStatusField
  have hstep (a : SCTPAssociation) (o : Option AssociationStatus) : Denotes
      (match o with
      | some status => SocketApi.library (L.setAssocStatus · a.associationID (change status))
      | none => return false) fun s => match o with
      | some status => some (s.setStatus a.associationID (change status))
      | none => some (false, s) := by
    cases o with
    | none => exact .pure false
    | some status => exact .library _
  refine (Denotes.locked hE ((Denotes.associationAt p).bind fun a => Denotes.shared.bind fun w =>
    hstep a _)).congr fun s => ?_
  cases s.associations p with
  | none => rfl
  | some a =>
    dsimp only [Option.map_some, Option.bind_some, Shared.updateStatus]
    cases L.getAssocStatus s.stack a.associationID <;> rfl

/-! ## The setters of the parameters -/

/-- What a set of parameters returns. -/
def updated (r : Bool × Shared L) : Int × Shared L := (if r.1 then 0 else -1, r.2)

/-- The body `setRTOInfo`, `setAssocInfo` and `setDelayedAckTime` share. -/
theorem denotes_updateParams (desc : SCTPSocketDesc) (id : AssocID)
    (change : AssociationStatus → AssociationStatus) {β : Type} {result : Bool → Act L β} {g : Bool → β}
    (hresult : ∀ ok, Denotes (result ok) fun s => some (g ok, s)) :
    Denotes (do
      match ← getAssocParams E desc id with
      | some (parameters, id) => do
        let ok ← setAssocParams E desc id (change parameters)
        result ok
      | none => result false) fun s => (s.updateParams desc id change).map fun r => (g r.1, r.2) := by
  have hstep (found : Option (AssociationStatus × AssocID)) : Denotes
      (match found with
      | some (parameters, id) => do
        let ok ← setAssocParams E desc id (change parameters)
        result ok
      | none => result false) fun s => match found with
      | some (status, id) => (s.setParams desc id (change status)).map fun r => (g r.1, r.2)
      | none => some (g false, s) := by
    cases found with
    | none => exact hresult false
    | some found =>
      refine ((denotes_setAssocParams hE desc found.2 (change found.1)).bind hresult).congr fun s => ?_
      dsimp only
      cases s.setParams desc found.2 (change found.1) <;> rfl
  refine (Denotes.bind (reads_getAssocParams hE desc id) hstep).congr fun s => ?_
  unfold Shared.updateParams
  dsimp only
  cases s.view.params desc id with
  | none => rfl
  | some found => cases found <;> rfl

/-- `locked` around the shared body, and `errno_return`. -/
theorem denotes_setLocked (desc : SCTPSocketDesc) (id : AssocID) (change : AssociationStatus → AssociationStatus) :
    Denotes (do
      let result ← locked E do
        match ← getAssocParams E desc id with
        | some (parameters, id) =>
          let ok ← setAssocParams E desc id (change parameters)
          return if ok then 0 else -1
        | none => return -1
      errnoReturn result) fun s => (s.updateParams desc id change).map updated := by
  have hpure (ok : Bool) : Denotes (L := L) (return if ok then (0 : Int) else -1) fun s =>
      some (if ok then 0 else -1, s) := .pure _
  refine ((Denotes.locked hE (denotes_updateParams hE desc id change hpure)).bind fun r =>
    .errnoReturn r).congr fun s => ?_
  cases s.updateParams desc id change with
  | none => rfl
  | some r =>
    obtain ⟨ok, s⟩ := r
    cases ok <;> rfl

theorem denotes_setRTOInfo (desc : SCTPSocketDesc) (rtoinfo : SctpRtoinfo) :
    Denotes (setRTOInfo E desc rtoinfo) fun s => (s.updateParams desc rtoinfo.srto_assoc_id fun status =>
      { status with
        rtoInitial := changed rtoinfo.srto_initial status.rtoInitial
        rtoMin := changed rtoinfo.srto_min status.rtoMin
        rtoMax := changed rtoinfo.srto_max status.rtoMax }).map updated :=
  denotes_setLocked hE desc _ _

theorem denotes_setAssocInfo (desc : SCTPSocketDesc) (assocparams : SctpAssocparams) :
    Denotes (setAssocInfo E desc assocparams) fun s => (s.updateParams desc assocparams.sasoc_assoc_id fun status =>
      { status with assocMaxRetransmits := assocparams.sasoc_asocmaxrxt }).map updated :=
  denotes_setLocked hE desc _ _

/-- `sctp_setAssocDefaults` as a step of the whole state. -/
def Shared.setDefaults (s : Shared L) (i : InstanceID) (parameters : InstanceParameters) : Bool × Shared L :=
  ((L.setAssocDefaults s.stack i parameters).1, { s with stack := (L.setAssocDefaults s.stack i parameters).2 })

/-- The parameters of new associations are read, changed and written back. -/
def Shared.updateDefaults (s : Shared L) (t : SocketPtr) (change : InstanceParameters → InstanceParameters) :
    Option (Bool × Shared L) :=
  (s.sockets t).map fun o =>
    match L.getAssocDefaults s.stack o.instanceName with
    | some parameters => s.setDefaults o.instanceName (change parameters)
    | none => (false, s)

theorem SCTPSocket.denotes_setAssocDefaults (t : SocketPtr) (parameters : InstanceParameters) :
    Denotes (SCTPSocket.setAssocDefaults E t parameters) fun s =>
      (s.sockets t).map fun o => s.setDefaults o.instanceName parameters := by
  unfold SCTPSocket.setAssocDefaults
  refine (Denotes.locked hE ((Denotes.socketAt t).bind fun o => Denotes.library _)).congr fun s => ?_
  cases s.sockets t <;> rfl

theorem denotes_updateDefaults (t : SocketPtr) (change : InstanceParameters → InstanceParameters) {β : Type}
    {write : InstanceParameters → Act L β} {failed : Act L β} (g : Bool → β)
    (hwrite : ∀ parameters, Denotes (write parameters) fun s => (s.sockets t).map fun o =>
      (g (s.setDefaults o.instanceName (change parameters)).1, (s.setDefaults o.instanceName (change parameters)).2))
    (hfailed : Denotes failed fun s => some (g false, s)) :
    Denotes (do
      match ← SCTPSocket.getAssocDefaults E t with
      | some parameters => write parameters
      | none => failed) fun s => (s.updateDefaults t change).map fun r => (g r.1, r.2) := by
  have hstep (found : Option InstanceParameters) : Denotes
      (match found with
      | some parameters => write parameters
      | none => failed) fun s => match found with
      | some parameters => (s.sockets t).map fun o =>
          (g (s.setDefaults o.instanceName (change parameters)).1, (s.setDefaults o.instanceName (change parameters)).2)
      | none => some (g false, s) := by
    cases found with
    | none => exact hfailed
    | some parameters => exact hwrite parameters
  refine (Denotes.bind (SCTPSocket.reads_getAssocDefaults hE t) hstep).congr fun s => ?_
  unfold Shared.updateDefaults
  dsimp only [Shared.view_socket, Shared.view, Sctplib.settings]
  cases h : s.sockets t with
  | none => rfl
  | some o =>
    dsimp only [Option.map_some, Option.bind_some, SCTPSocket.view]
    cases L.getAssocDefaults s.stack o.instanceName with
    | none => rfl
    | some parameters => simp only [h, Option.map_some]

/-- What `setDelayedAckTime` does to the defaults. -/
def Shared.updateDefaultDelay (s : Shared L) (desc : SCTPSocketDesc) (delay : Nat) : Option (Bool × Shared L) :=
  match desc.sctpSocketPtr with
  | some t => s.updateDefaults t ({ · with delay })
  | none => some (false, s)

def Shared.updateDelay (s : Shared L) (desc : SCTPSocketDesc) (sackInfo : SctpSackInfo) : Option (Bool × Shared L) :=
  (s.view.sackTarget desc sackInfo.sack_assoc_id).bind fun id =>
    if id ≠ 0 then s.updateParams desc id ({ · with delay := sackInfo.sack_delay })
    else s.updateDefaultDelay desc sackInfo.sack_delay

theorem denotes_setDelayedAckTime (desc : SCTPSocketDesc) (sackInfo : SctpSackInfo) :
    Denotes (setDelayedAckTime E desc sackInfo) fun s => (s.updateDelay desc sackInfo).map updated := by
  unfold setDelayedAckTime
  have hreturn (ok : Bool) : Denotes (L := L) (errnoReturn (if ok then 0 else -1)) fun s =>
      some (if ok then 0 else -1, s) := by
    cases ok <;> exact .errnoReturn _
  have hdefault (ok : Bool) : Denotes (L := L) (if ok then errnoReturn 0 else errnoReturn (-EINVAL)) fun s =>
      some (if ok then 0 else -1, s) := by
    cases ok with
    | false => exact Denotes.errnoReturn (-EINVAL)
    | true => exact Denotes.errnoReturn 0
  have hstep (id : AssocID) : Denotes
      (if id ≠ 0 then do
        match ← getAssocParams E desc id with
        | some (parameters, assocID) =>
          let ok ← setAssocParams E desc assocID { parameters with delay := sackInfo.sack_delay }
          errnoReturn (if ok then 0 else -1)
        | none => errnoReturn (-1)
      else
        match desc.sctpSocketPtr with
        | some s => do
          match ← SCTPSocket.getAssocDefaults E s with
          | some parameters =>
            if ← SCTPSocket.setAssocDefaults E s { parameters with delay := sackInfo.sack_delay } then errnoReturn 0
            else errnoReturn (-EINVAL)
          | none => errnoReturn (-EINVAL)
        | none => errnoReturn (-EINVAL)) fun s =>
        (if id ≠ 0 then s.updateParams desc id ({ · with delay := sackInfo.sack_delay })
        else s.updateDefaultDelay desc sackInfo.sack_delay).map updated := by
    by_cases hid : id ≠ 0
    · simp only [if_pos hid]
      exact denotes_updateParams hE desc id _ hreturn
    · simp only [if_neg hid]
      unfold Shared.updateDefaultDelay
      cases desc.sctpSocketPtr with
      | none => exact .errnoReturn _
      | some t =>
        refine denotes_updateDefaults hE t ({ · with delay := sackInfo.sack_delay }) (if · then 0 else -1)
          (fun parameters => ?_) (Denotes.errnoReturn (-EINVAL))
        refine ((SCTPSocket.denotes_setAssocDefaults hE t _).bind hdefault).congr fun s => ?_
        cases s.sockets t <;> rfl
  refine (Denotes.bind (reads_sackAssociation desc sackInfo.sack_assoc_id) hstep).congr fun s => ?_
  unfold Shared.updateDelay
  dsimp only
  cases s.view.sackTarget desc sackInfo.sack_assoc_id <;> rfl

/-! ## Paths -/

/-- `setPathParameters` and `setPrimary` of a socket: a call of the library for the path of an address. -/
def Shared.onPath (s : Shared L) (id : AssocID) (address : SocketAddress)
    (call : Int → L.State → Bool × L.State) : Option (Bool × Shared L) :=
  (s.view.pathIndex id address).map fun i =>
    if 0 ≤ i then ((call i s.stack).1, { s with stack := (call i s.stack).2 }) else (false, s)

/-- The call that sets the heartbeat interval of a path; the largest number asks for one heartbeat. -/
def heartbeatCall (L : Sctplib) (id : AssocID) (interval : Nat) (i : Int) (s : L.State) : Bool × L.State :=
  if interval = 2 ^ 32 - 1 then L.requestHeartbeat s id i else L.changeHeartBeat s id i interval

omit hE in
theorem denotes_onPath (id : AssocID) (address : SocketAddress) (call : Int → L.State → Bool × L.State) :
    Denotes (do
      let i ← SCTPSocket.getPathIndexForAddress id (some address)
      if 0 ≤ i then library (call i) else return false) fun s => s.onPath id address call := by
  have hstep (i : Int) : Denotes (if 0 ≤ i then library (call i) else return false) fun s =>
      some (if 0 ≤ i then ((call i s.stack).1, { s with stack := (call i s.stack).2 }) else (false, s)) := by
    by_cases hi : 0 ≤ i
    · simp only [if_pos hi]
      exact .library _
    · simp only [if_neg hi]
      exact .pure _
  refine (Denotes.bind (SCTPSocket.reads_getPathIndexForAddress id (some address)) hstep).congr fun s => ?_
  unfold Shared.onPath
  dsimp only
  cases s.view.pathIndex id address <;> rfl

theorem SCTPSocket.denotes_setPathParameters (id : AssocID) (address : SocketAddress) (parameters : PathStatus) :
    Denotes (SCTPSocket.setPathParameters E id (some address) parameters) fun s =>
      s.onPath id address (heartbeatCall L id parameters.heartbeatIntervall) := by
  refine Denotes.locked hE ?_
  have hcall : heartbeatCall L id parameters.heartbeatIntervall = fun i s =>
      if parameters.heartbeatIntervall = 2 ^ 32 - 1 then L.requestHeartbeat s id i
      else L.changeHeartBeat s id i parameters.heartbeatIntervall := rfl
  have h := denotes_onPath id address (heartbeatCall L id parameters.heartbeatIntervall)
  rw [hcall] at h ⊢
  by_cases hinterval : parameters.heartbeatIntervall = 2 ^ 32 - 1
  · simp only [if_pos hinterval] at h ⊢
    exact h
  · simp only [if_neg hinterval] at h ⊢
    exact h

theorem SCTPSocket.denotes_setPrimary (id : AssocID) (address : SocketAddress) :
    Denotes (SCTPSocket.setPrimary E id address) fun s => s.onPath id address fun i stack => L.setPrimary stack id i :=
  .locked hE (denotes_onPath id address _)

/-- A change of the association of a descriptor, if it has one. -/
def Shared.onTarget {α : Type} (s : Shared L) (desc : SCTPSocketDesc) (id : AssocID) (neither : α)
    (f : AssocID → Option α) : Option α :=
  (s.view.target desc id).bind fun
    | some a => f a.id
    | none => some neither

omit hE in
theorem denotes_onTarget {α : Type} (desc : SCTPSocketDesc) (id : AssocID) {onAssociation : AssocPtr → Act L α}
    {onSocket : SocketPtr → Act L α} {neither : Act L α} {none' : α} (f : AssocID → Shared L → Option (α × Shared L))
    (hassociation : ∀ p, Denotes (onAssociation p) fun s => (s.associations p).bind fun a => f a.associationID s)
    (hsocket : ∀ t, Denotes (onSocket t) (f id)) (hneither : Denotes neither fun s => some (none', s)) :
    Denotes (desc.dispatch onAssociation onSocket neither) fun s =>
      s.onTarget desc id (none', s) fun id => f id s := by
  refine (Denotes.dispatch desc hassociation hsocket hneither).congr fun s => ?_
  unfold Shared.onTarget OptionView.target
  rw [desc.apply_dispatch (Option.bind · _)]
  congr 1
  funext p
  dsimp only [Shared.view_association]
  cases s.associations p <;> rfl

omit hE in
/-- An operation of an association that is one of its socket with its ID. -/
theorem denotes_ofSocket {α : Type} (p : AssocPtr) {x : AssocID → Act L α}
    {f : AssocID → Shared L → Option (α × Shared L)}
    (hx : ∀ id, Denotes (x id) (f id)) :
    Denotes (do x (← associationAt p).associationID) fun s => (s.associations p).bind fun a => f a.associationID s := by
  refine ((Denotes.associationAt p).bind fun a => hx a.associationID).congr fun s => ?_
  cases s.associations p <;> rfl

theorem denotes_setPathStatus (desc : SCTPSocketDesc) (id : AssocID) (address : SocketAddress)
    (parameters : PathStatus) :
    Denotes (setPathStatus E desc id address parameters) fun s => s.onTarget desc id (false, s) fun id =>
      s.onPath id address (heartbeatCall L id parameters.heartbeatIntervall) :=
  denotes_onTarget desc id _
    (fun p => denotes_ofSocket p fun id => SCTPSocket.denotes_setPathParameters hE id address parameters)
    (fun _ => SCTPSocket.denotes_setPathParameters hE id address parameters) (.pure false)

/-- `configurePeerAddressParams` of a set. -/
def Shared.updatePath (s : Shared L) (desc : SCTPSocketDesc) (params : SctpPaddrparams) : Option (Bool × Shared L) :=
  match params.spp_address with
  | none => some (false, s)
  | some address =>
    (s.view.pathParams desc params.spp_assoc_id address).bind fun
      | some parameters => s.onTarget desc params.spp_assoc_id (false, s) fun id =>
          s.onPath id address (heartbeatCall L id (fillPaddrparams params parameters).spp_hbinterval)
      | none => some (false, s)

/-- The last step, once the parameters of the path are known or missing. -/
theorem denotes_fillPath (desc : SCTPSocketDesc) (params : SctpPaddrparams) (address : SocketAddress)
    (found : Option PathStatus) : Denotes
    (match found with
    | none => return (- EIO, params)
    | some parameters => do
      let ok ← setPathStatus E desc (fillPaddrparams params parameters).spp_assoc_id address
        { parameters with heartbeatIntervall := (fillPaddrparams params parameters).spp_hbinterval }
      return (if ok then 0 else - EIO, fillPaddrparams params parameters)) fun s => match found with
    | some parameters => (s.onTarget desc params.spp_assoc_id (false, s) fun id =>
        s.onPath id address (heartbeatCall L id (fillPaddrparams params parameters).spp_hbinterval)).map fun r =>
          ((if r.1 then 0 else - EIO, fillPaddrparams params parameters), r.2)
    | none => some ((- EIO, params), s) := by
  cases found with
  | none => exact .pure _
  | some parameters =>
    refine ((denotes_setPathStatus hE desc params.spp_assoc_id address _).bind fun ok => .pure _).congr fun s => ?_
    dsimp only
    rw [Option.map_eq_bind]
    rfl

theorem denotes_configurePeerAddressParamsLocked (desc : SCTPSocketDesc) (params : SctpPaddrparams) :
    Denotes (configurePeerAddressParamsLocked E desc params false) fun s =>
      match params.spp_address with
      | none => some ((-EINVAL, params), s)
      | some address => (s.view.pathParams desc params.spp_assoc_id address).bind fun
        | some parameters => (s.onTarget desc params.spp_assoc_id (false, s) fun id =>
            s.onPath id address (heartbeatCall L id (fillPaddrparams params parameters).spp_hbinterval)).map fun r =>
              ((if r.1 then 0 else - EIO, fillPaddrparams params parameters), r.2)
        | none => some ((- EIO, params), s) := by
  unfold configurePeerAddressParamsLocked
  cases params.spp_address with
  | none => exact .pure _
  | some address =>
    refine (Denotes.bind (reads_getPathStatus hE desc params.spp_assoc_id address)
      (denotes_fillPath hE desc params address)).congr fun s => ?_
    dsimp only
    cases s.view.pathParams desc params.spp_assoc_id address <;> rfl

theorem denotes_configurePeerAddressParams (desc : SCTPSocketDesc) (params : SctpPaddrparams) :
    Denotes (do return (← configurePeerAddressParams E desc params false).1) fun s =>
      (s.updatePath desc params).map updated := by
  have hlocked := denotes_configurePeerAddressParamsLocked hE desc params
  refine (((Denotes.locked hE hlocked).bind fun r => .errnoResult r.1 (.peerAddrParams r.2)).bind fun r =>
    .pure r.1).congr fun s => ?_
  unfold Shared.updatePath
  cases params.spp_address with
  | none => rfl
  | some address =>
    dsimp only
    cases s.view.pathParams desc params.spp_assoc_id address with
    | none => rfl
    | some found =>
      cases found with
      | none => rfl
      | some parameters =>
        dsimp only [Option.bind_some]
        cases s.onTarget desc params.spp_assoc_id (false, s) fun id =>
          s.onPath id address (heartbeatCall L id (fillPaddrparams params parameters).spp_hbinterval) with
        | none => rfl
        | some r =>
          obtain ⟨ok, s⟩ := r
          cases ok <;> rfl

/-- `setPrimaryAddr`. -/
def Shared.updatePrimary (s : Shared L) (desc : SCTPSocketDesc) (id : AssocID) (address : Option SocketAddress) :
    Option (Bool × Shared L) :=
  match address with
  | none => some (false, s)
  | some address => s.onTarget desc id (false, s) fun id =>
      s.onPath id address fun i stack => L.setPrimary stack id i

omit hE in
theorem denotes_answer {x : Act L Bool} {f : Shared L → Option (Bool × Shared L)} (hx : Denotes x f) :
    Denotes (do errnoReturn (if ← x then 0 else - EIO)) fun s => (f s).map updated := by
  have hreturn (ok : Bool) : Denotes (L := L) (errnoReturn (if ok then 0 else - EIO)) fun s =>
      some (if ok then 0 else -1, s) := by
    cases ok with
    | false => exact Denotes.errnoReturn (- EIO)
    | true => exact Denotes.errnoReturn 0
  refine (hx.bind hreturn).congr fun s => ?_
  cases f s <;> rfl

omit hE in
/-- A setter that goes to the association of the descriptor or to its socket. -/
theorem denotes_answerTarget (desc : SCTPSocketDesc) (id : AssocID) {onAssociation : AssocPtr → Act L Bool}
    {onSocket : SocketPtr → Act L Bool} {f : AssocID → Shared L → Option (Bool × Shared L)}
    (hassociation : ∀ p, Denotes (onAssociation p) fun s => (s.associations p).bind fun a => f a.associationID s)
    (hsocket : ∀ t, Denotes (onSocket t) (f id)) (error : Int) (herror : error < 0) :
    Denotes (desc.dispatch (fun p => do errnoReturn (if ← onAssociation p then 0 else - EIO))
      (fun t => do errnoReturn (if ← onSocket t then 0 else - EIO)) (errnoReturn error)) fun s =>
      (s.onTarget desc id (false, s) fun id => f id s).map updated := by
  have herror' : Denotes (L := L) (errnoReturn error) fun s => some (-1, s) := by
    have h := Denotes.errnoReturn (L := L) error
    simpa only [if_pos herror] using h
  have hp (p : AssocPtr) : Denotes (do errnoReturn (if ← onAssociation p then 0 else - EIO)) fun s =>
      (s.associations p).bind fun a => (f a.associationID s).map updated :=
    (denotes_answer (hassociation p)).congr fun s => by cases s.associations p <;> rfl
  refine (denotes_onTarget desc id (fun id s => (f id s).map updated) hp (fun t => denotes_answer (hsocket t))
    herror').congr fun s => ?_
  unfold Shared.onTarget
  cases s.view.target desc id with
  | none => rfl
  | some found => cases found <;> rfl

theorem denotes_setPrimaryAddr (desc : SCTPSocketDesc) (id : AssocID) (address : Option SocketAddress) :
    Denotes (setPrimaryAddr E desc id address) fun s => (s.updatePrimary desc id address).map updated := by
  unfold setPrimaryAddr Shared.updatePrimary
  cases address with
  | none => exact Denotes.errnoReturn (-EINVAL)
  | some address =>
    have hsocket (id : AssocID) := SCTPSocket.denotes_setPrimary hE id address
    exact denotes_answerTarget desc id (fun p => denotes_ofSocket p hsocket) (fun _ => hsocket id) (-EBADF) (by decide)

/-! ## Buffers -/

/-- `setSendBuffer` and `setReceiveBuffer` of a socket, for its first connectionless association. -/
def Shared.updateFirst (s : Shared L) (t : SocketPtr) (change : AssociationStatus → AssociationStatus) :
    Option (Bool × Shared L) :=
  (s.sockets t).bind fun o =>
    match o.connectionlessAssociationList with
    | (_, p) :: _ => (s.associations p).map fun a => s.updateStatus a.associationID change
    | [] => some (true, s)

theorem SCTPSocket.denotes_onFirst (t : SocketPtr) (change : AssociationStatus → AssociationStatus) :
    Denotes (SCTPSocket.onFirst E t (SCTPAssociation.setStatusField E change)) fun s => s.updateFirst t change := by
  have hstep (list : Multimap AssocID AssocPtr) : Denotes
      (match list with
      | (_, p) :: _ => SCTPAssociation.setStatusField E change p
      | [] => return true) fun s => match list with
        | (_, p) :: _ => (s.associations p).map fun a => s.updateStatus a.associationID change
        | [] => some (true, s) := by
    cases list with
    | nil => exact .pure _
    | cons e list => exact SCTPAssociation.denotes_setStatusField hE e.2 change
  refine (Denotes.locked hE ((Denotes.socketAt t).bind fun o => hstep _)).congr fun s => ?_
  unfold Shared.updateFirst
  cases s.sockets t <;> rfl

/-- A set of a buffer size. -/
def Shared.updateBuffer (s : Shared L) (desc : SCTPSocketDesc) (change : AssociationStatus → AssociationStatus) :
    Option (Bool × Shared L) :=
  desc.dispatch (fun p => (s.associations p).map fun a => s.updateStatus a.associationID change)
    (fun t => s.updateFirst t change) (some (false, s))

theorem denotes_setBuffer (desc : SCTPSocketDesc) (change : AssociationStatus → AssociationStatus) :
    Denotes (setOn desc (-EBADF) (SCTPAssociation.setStatusField E change)
      (SCTPSocket.onFirst E · (SCTPAssociation.setStatusField E change))) fun s =>
        (s.updateBuffer desc change).map updated := by
  refine (Denotes.dispatch desc (fun p => denotes_answer (SCTPAssociation.denotes_setStatusField hE p change))
    (fun t => denotes_answer (SCTPSocket.denotes_onFirst hE t change)) (Denotes.errnoReturn (-EBADF))).congr fun s => ?_
  unfold Shared.updateBuffer
  rw [desc.apply_dispatch (Option.map updated)]
  rfl

/-! ## The descriptor and its socket -/

omit hE in
theorem denotes_setAutoClose (desc : SCTPSocketDesc) (timeout : Nat) :
    Denotes (match desc.sctpSocketPtr with
      | some t => do
        SCTPSocket.setAutoClose t timeout
        errnoReturn 0
      | none => errnoReturn (-EBADF) : Act L Int) fun s => match desc.sctpSocketPtr with
      | some t => (s.sockets t).map fun _ => (0, s.setSocket t fun o => { o with autoCloseTimeout := timeout })
      | none => some (-1, s) := by
  cases desc.sctpSocketPtr with
  | none => exact Denotes.errnoReturn (-EBADF)
  | some t =>
    refine ((Denotes.setSocket t fun o => { o with autoCloseTimeout := timeout }).bind fun _ =>
      Denotes.errnoReturn 0).congr fun s => ?_
    dsimp only
    cases s.sockets t <;> rfl

/-- `setDesc` as a step of the whole state. -/
def Shared.setDesc (s : Shared L) (slot : Nat) (f : SCTPSocketDesc → SCTPSocketDesc) : Shared L :=
  match s.descriptors slot with
  | .sctp desc => { s with descriptors := Function.update s.descriptors slot (.sctp (f desc)) }
  | _ => s

omit hE in
theorem denotes_setDesc (slot : Nat) (f : SCTPSocketDesc → SCTPSocketDesc) :
    Denotes (L := L) (setDesc slot f) fun s => some ((), s.setDesc slot f) := .update _

/-- The call of `setInitMsg`, whose failure is ignored. -/
def Shared.updateInitMsg (s : Shared L) (desc : SCTPSocketDesc) (initmsg : InitMsg) : Option (Shared L) :=
  match desc.sctpSocketPtr with
  | some t => (s.updateDefaults t
      ({ · with outStreams := initmsg.numOstreams, inStreams := initmsg.maxInstreams })).map (·.2)
  | none => some s

theorem denotes_setInitMsg (desc : SCTPSocketDesc) (initmsg : InitMsg) :
    Denotes (setInitMsgOf E desc initmsg) fun s => (s.updateInitMsg desc initmsg).map fun s => ((), s) := by
  unfold setInitMsgOf Shared.updateInitMsg
  cases desc.sctpSocketPtr with
  | none => exact .pure ()
  | some t =>
    have hset : Denotes (setInitMsg E t initmsg) fun s => (s.updateDefaults t
        ({ · with outStreams := initmsg.numOstreams, inStreams := initmsg.maxInstreams })).map fun r => (r.1, r.2) :=
      .locked hE (denotes_updateDefaults hE t _ (fun ok => ok)
        (fun parameters => SCTPSocket.denotes_setAssocDefaults hE t _) (.pure false))
    refine hset.discard.congr fun s => ?_
    dsimp only
    cases s.updateDefaults t ({ · with outStreams := initmsg.numOstreams, inStreams := initmsg.maxInstreams }) <;> rfl

theorem denotes_initMsg (slot : Nat) (desc : SCTPSocketDesc) (initmsg : InitMsg) :
    Denotes (do
      setDesc slot fun d => { d with initMsg := initmsg }
      setInitMsgOf E desc initmsg
      errnoReturn 0) fun s =>
        ((s.setDesc slot fun d => { d with initMsg := initmsg }).updateInitMsg desc initmsg).map fun s => (0, s) := by
  refine ((denotes_setDesc slot _).bind fun _ => (denotes_setInitMsg hE desc initmsg).bind fun _ =>
    Denotes.errnoReturn 0).congr fun s => ?_
  dsimp only [Option.bind_some]
  cases (s.setDesc slot fun d => { d with initMsg := initmsg }).updateInitMsg desc initmsg <;> rfl

omit hE in
theorem denotes_linger (slot : Nat) (onoff linger : Int) :
    Denotes (L := L) (do
      if linger < 0 ∨ onoff < 0 ∨ 1 < onoff then
        return ← errnoReturn (-EINVAL)
      setDesc slot fun d => { d with linger := { onoff := onoff.toNat, linger } }
      errnoReturn 0) fun s =>
        if linger < 0 ∨ onoff < 0 ∨ 1 < onoff then some (-1, s)
        else some (0, s.setDesc slot fun d => { d with linger := { onoff := onoff.toNat, linger } }) := by
  by_cases h : linger < 0 ∨ onoff < 0 ∨ 1 < onoff
  · simp only [if_pos h]
    exact (Denotes.errnoReturn (-EINVAL)).bind fun r => .pure r
  · simp only [if_neg h]
    exact (denotes_setDesc slot _).bind fun _ => Denotes.errnoReturn 0

end

end SocketApi
