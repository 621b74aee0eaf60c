import SocketApi.Options.Writing

/-!
# Getting what was set

A get after a set returns the value of the set in every field the set applies, and does not
look at what else the buffer holds, except for two options.
-/

namespace SocketApi

open Effect ExtSocketDescriptorMaster

variable {L : Sctplib} {E : Environment L}

/-! ## Statements -/

/-- The two values are of the same option, one of those that can be set and got, and name the
same association and address. -/
def SockOpt.SameKey : SockOpt → SockOpt → Prop
  | .rtoInfo v, .rtoInfo u => u.srto_assoc_id = v.srto_assoc_id
  | .assocInfo v, .assocInfo u => u.sasoc_assoc_id = v.sasoc_assoc_id
  | .peerAddrParams v, .peerAddrParams u => u.spp_assoc_id = v.spp_assoc_id ∧ u.spp_address = v.spp_address
  | .delayedSack v, .delayedSack u => u.sack_assoc_id = v.sack_assoc_id
  | .autoClose _, .autoClose _ | .initMsg _, .initMsg _ | .linger _ _, .linger _ _ | .sndBuf _, .sndBuf _
  | .rcvBuf _, .rcvBuf _ => True
  | _, _ => False

/-- `result` has the value of a set in every field the set applies; 0 may mean "unchanged". -/
def SockOpt.Returned : SockOpt → SockOpt → Prop
  | .rtoInfo v, .rtoInfo result => (v.srto_initial ≠ 0 → result.srto_initial = v.srto_initial) ∧
      (v.srto_max ≠ 0 → result.srto_max = v.srto_max) ∧ (v.srto_min ≠ 0 → result.srto_min = v.srto_min)
  | .assocInfo v, .assocInfo result => result.sasoc_asocmaxrxt = v.sasoc_asocmaxrxt
  | .peerAddrParams v, .peerAddrParams result => v.spp_hbinterval ≠ 0 → result.spp_hbinterval = v.spp_hbinterval
  | .delayedSack v, .delayedSack result => result.sack_delay = v.sack_delay
  | .autoClose v, .autoClose result => result = v
  | .initMsg v, .initMsg result => result = v
  | .linger onoff seconds, .linger onoff' seconds' => onoff' = onoff ∧ seconds' = seconds
  | .sndBuf v, .sndBuf result => result = v
  | .rcvBuf v, .rcvBuf result => result = v
  | _, _ => False

/-- What a get in `w` has returned is the value `v` of the set before it, and a get into any
other buffer that names the same association and address returns it too. -/
def GetAfterSet (E : Environment L) (fd : Int) (v : SockOpt) (w : World L) (result : OptResult) : Prop :=
  v.Returned result.2 ∧ ∀ u, v.SameKey u → ∃ w', ext_getsockopt E fd u true w = .ok result w'

/-! ## The descriptors stay -/

section

variable {s s' : Shared L} {desc : SCTPSocketDesc} {ok : Bool}

theorem setAssociationStatus_descriptors {p : AssocPtr} {a : SCTPAssociation} {status : AssociationStatus}
    (h : s.setAssociationStatus p a status = (ok, s')) : s'.descriptors = s.descriptors := by
  unfold Shared.setAssociationStatus at h
  split at h <;> obtain ⟨-, rfl⟩ := Prod.mk.inj h <;> rfl

theorem updateParams_descriptors {k : AssocID} {change : AssociationStatus → AssociationStatus}
    (h : s.updateParams desc k change = some (ok, s')) : s'.descriptors = s.descriptors := by
  unfold Shared.updateParams Shared.setParams at h
  obtain ⟨found, -, h⟩ := Option.bind_eq_some_iff.mp h
  cases found with
  | none =>
    cases h
    rfl
  | some found =>
    dsimp only at h
    obtain ⟨p, -, -, hp⟩ | ⟨t, -, ht⟩ | hn := desc.shape
    · rw [hp] at h
      obtain ⟨a, -, h⟩ := Option.map_eq_some_iff.mp h
      exact setAssociationStatus_descriptors h
    · rw [ht] at h
      cases h
      rfl
    · rw [hn] at h
      cases h
      rfl

theorem updateDefaults_descriptors {t : SocketPtr} {change : InstanceParameters → InstanceParameters}
    (h : s.updateDefaults t change = some (ok, s')) : s'.descriptors = s.descriptors := by
  unfold Shared.updateDefaults at h
  obtain ⟨o, -, h⟩ := Option.map_eq_some_iff.mp h
  split at h <;> cases h <;> rfl

theorem updateDelay_descriptors {sackInfo : SctpSackInfo} (h : s.updateDelay desc sackInfo = some (ok, s')) :
    s'.descriptors = s.descriptors := by
  unfold Shared.updateDelay at h
  obtain ⟨id, -, h⟩ := Option.bind_eq_some_iff.mp h
  split at h
  · exact updateParams_descriptors h
  · unfold Shared.updateDefaultDelay at h
    split at h
    · exact updateDefaults_descriptors h
    · cases h
      rfl

theorem onPath_descriptors {id : AssocID} {address : SocketAddress} {call : Int → L.State → Bool × L.State}
    (h : s.onPath id address call = some (ok, s')) : s'.descriptors = s.descriptors := by
  unfold Shared.onPath at h
  obtain ⟨i, -, h⟩ := Option.map_eq_some_iff.mp h
  split at h <;> cases h <;> rfl

theorem setDesc_self {slot : Nat} {f : SCTPSocketDesc → SCTPSocketDesc} (hd : s.descriptors slot = .sctp desc) :
    (s.setDesc slot f).descriptors slot = .sctp (f desc) := by
  unfold Shared.setDesc
  rw [hd]
  exact Function.update_self ..

theorem updateInitMsg_descriptors {initmsg : InitMsg} (h : s.updateInitMsg desc initmsg = some s') :
    s'.descriptors = s.descriptors := by
  unfold Shared.updateInitMsg at h
  split at h
  · obtain ⟨⟨ok, t⟩, ht, rfl⟩ := Option.map_eq_some_iff.mp h
    exact updateDefaults_descriptors ht
  · cases h
    rfl

theorem updatePath_descriptors {params : SctpPaddrparams} (h : s.updatePath desc params = some (ok, s')) :
    s'.descriptors = s.descriptors := by
  unfold Shared.updatePath Shared.onTarget at h
  split at h
  · cases h
    rfl
  · obtain ⟨found, -, h⟩ := Option.bind_eq_some_iff.mp h
    cases found with
    | none =>
      cases h
      rfl
    | some parameters =>
      obtain ⟨target, -, h⟩ := Option.bind_eq_some_iff.mp h
      cases target with
      | none =>
        cases h
        rfl
      | some a => exact onPath_descriptors h

theorem updateStatus_frame {id : AssocID} {change : AssociationStatus → AssociationStatus}
    (h : s.updateStatus id change = (ok, s')) :
    s'.associations = s.associations ∧ s'.descriptors = s.descriptors := by
  unfold Shared.updateStatus at h
  split at h <;> obtain ⟨-, rfl⟩ := Prod.mk.inj h <;> exact ⟨rfl, rfl⟩

theorem updateBuffer_descriptors {change : AssociationStatus → AssociationStatus}
    (h : s.updateBuffer desc change = some (ok, s')) : s'.descriptors = s.descriptors := by
  unfold Shared.updateBuffer at h
  obtain ⟨p, -, -, hp⟩ | ⟨t, -, ht⟩ | hn := desc.shape
  · rw [hp] at h
    obtain ⟨a, -, h⟩ := Option.map_eq_some_iff.mp h
    exact (updateStatus_frame h).2
  · rw [ht] at h
    obtain ⟨o, -, h⟩ := Option.bind_eq_some_iff.mp h
    split at h
    · obtain ⟨a, -, h⟩ := Option.map_eq_some_iff.mp h
      exact (updateStatus_frame h).2
    · cases h
      rfl
  · rw [hn] at h
    cases h
    rfl

end

/-! ## Reading back -/

section

variable {s s' : Shared L} {desc : SCTPSocketDesc}
  (hL : ∀ {t t' : L.State} {id status}, L.setAssocStatus t id status = (true, t') → L.getAssocStatus t' id = some status)
include hL

theorem status_setStatus {id : AssocID} {status : AssociationStatus} (h : s.setStatus id status = (true, s')) :
    s'.view.status id = some status := by
  unfold Shared.setStatus at h
  obtain ⟨h1, rfl⟩ := Prod.mk.inj h
  exact hL (Prod.ext h1 rfl)

/-- The status an association reports is the one that was set, whether `RTOMax` goes into the
object or into the protocol library. -/
theorem report_setAssociationStatus {p : AssocPtr} {a : SCTPAssociation} {status : AssociationStatus}
    (ha : s.associations p = some a) (h : s.setAssociationStatus p a status = (true, s')) :
    ∃ v written, s'.view.association p = some v ∧ v.id = a.associationID ∧
      s'.view.status v.id = some written ∧ v.report written = status := by
  unfold Shared.setAssociationStatus at h
  split at h
  · rename_i hinit
    refine ⟨{ id := a.associationID, userRTOMax := some status.rtoMax }, _, ?_, rfl, status_setStatus hL h, rfl⟩
    obtain ⟨-, rfl⟩ := Prod.mk.inj h
    simp only [Shared.view_association, Shared.setAssociation, Function.update_self, ha, Option.map_some,
      SCTPAssociation.view, hinit, if_true]
  · rename_i hinit
    refine ⟨{ id := a.associationID, userRTOMax := none }, _, ?_, rfl, status_setStatus hL h, rfl⟩
    obtain ⟨-, rfl⟩ := Prod.mk.inj h
    simp only [Shared.view_association, ha, Option.map_some, SCTPAssociation.view, hinit, Bool.false_eq_true, if_false]

theorem params_setParams {k id : AssocID} {old status : AssociationStatus}
    (hread : s.view.params desc k = some (some (old, id))) (h : s.setParams desc id status = some (true, s')) :
    s'.view.params desc k = some (some (status, id)) := by
  unfold Shared.setParams at h
  unfold OptionView.params OptionView.target at hread ⊢
  obtain ⟨p, -, -, hp⟩ | ⟨t, -, ht⟩ | hn := desc.shape
  · rw [hp] at h hread ⊢
    obtain ⟨a, ha, h⟩ := Option.map_eq_some_iff.mp h
    obtain ⟨v, written, hv, hid, hwritten, hreport⟩ := report_setAssociationStatus hL ha h
    simp only [Shared.view_association, ha, Option.map_some, Option.bind_some] at hread
    obtain ⟨_, _, heq⟩ := Option.map_eq_some_iff.mp (Option.some.inj hread)
    have hid' : v.id = id := hid.trans (Prod.mk.inj heq).2
    simp only [hv, Option.map_some, Option.bind_some, hwritten, hreport]
    rw [hid']
  · rw [ht] at h hread ⊢
    simp only [Option.map_some, Option.bind_some] at hread
    obtain ⟨_, _, heq⟩ := Option.map_eq_some_iff.mp (Option.some.inj hread)
    obtain rfl : k = id := (Prod.mk.inj heq).2
    simp only [Option.map_some, Option.bind_some, status_setStatus hL (Option.some.inj h)]
    rfl
  · rw [hn] at h
    cases h

theorem params_updateParams {k : AssocID} {change : AssociationStatus → AssociationStatus}
    (h : s.updateParams desc k change = some (true, s')) :
    ∃ old id, s.view.params desc k = some (some (old, id)) ∧ s'.view.params desc k = some (some (change old, id)) := by
  unfold Shared.updateParams at h
  obtain ⟨found, hfound, h⟩ := Option.bind_eq_some_iff.mp h
  cases found with
  | none => simp only [Option.some.injEq, Prod.mk.injEq, Bool.false_eq_true, false_and] at h
  | some found => exact ⟨found.1, found.2, hfound, params_setParams hL hfound h⟩

/-- A number of the status that was just set. -/
theorem status_updateStatus {id : AssocID} {change : AssociationStatus → AssociationStatus}
    (h : s.updateStatus id change = (true, s')) : ∃ old, s'.view.status id = some (change old) := by
  unfold Shared.updateStatus at h
  split at h
  · exact ⟨_, status_setStatus hL h⟩
  · simp only [Prod.mk.injEq, Bool.false_eq_true, false_and] at h

end

/-! ## The descriptor behind the calls -/

section

variable {fd : Int} {slot : Nat} {desc : SCTPSocketDesc} (hfd : getSocket fd = some slot)
include hfd

theorem run_ext_setsockopt {w : World L} (hd : w.shared.descriptors slot = .sctp desc) (v : SockOpt) (fits : Bool) :
    ext_setsockopt E fd v fits w = setOption E fd slot desc v fits w := by
  unfold ext_setsockopt
  rw [hfd]
  dsimp only
  rw [descriptorAt_bind, hd]

/-- A get returns what the view says. -/
theorem get_iff (hE : E.Instant) {w : World L} (hd : w.shared.descriptors slot = .sctp desc) (u : SockOpt) (fits : Bool)
    (result : OptResult) : (∃ w', ext_getsockopt E fd u fits w = .ok result w') ↔
      w.shared.view.read E desc u fits = some result := by
  rw [(reads_ext_getsockopt hE hfd u fits).run_iff, hd]

end

/-! ## Options that are read back -/

/-- If a get of the option of `v` succeeds, it has the value `v`, and a get into any other buffer
has the same result. -/
def ReadBack (E : Environment L) (desc : SCTPSocketDesc) (s : Shared L) (v : SockOpt) : Prop :=
  ∀ u result, v.SameKey u → s.view.read E desc u true = some result → 0 ≤ result.1 →
    v.Returned result.2 ∧ ∀ u', v.SameKey u' → s.view.read E desc u' true = some result

section

variable {s s' : Shared L} {desc : SCTPSocketDesc}

theorem ReadBack.of_constant {v : SockOpt} (result : OptResult)
    (hread : ∀ u, v.SameKey u → s.view.read E desc u true = some result) (hv : v.Returned result.2) :
    ReadBack E desc s v := fun u r hu hr _ => by
  cases (hread u hu).symm.trans hr
  exact ⟨hv, hread⟩

theorem readBack_initMsg (initmsg : InitMsg) (h : desc.initMsg = initmsg) : ReadBack E desc s (.initMsg initmsg) := by
  refine .of_constant (0, .initMsg desc.initMsg) (fun u hu => ?_) h
  cases u with
  | initMsg u => rfl
  | _ => exact hu.elim

theorem readBack_linger {onoff linger : Int} (h : desc.linger = { onoff := onoff.toNat, linger }) (hon : 0 ≤ onoff) :
    ReadBack E desc s (.linger onoff linger) := by
  refine .of_constant (0, .linger desc.linger.onoff desc.linger.linger) (fun u hu => ?_) ?_
  · cases u with
    | linger onoff' linger' => rfl
    | _ => exact hu.elim
  · rw [h]
    exact ⟨Int.toNat_of_nonneg hon, rfl⟩

theorem readBack_autoClose {seconds : UInt32} {t : SocketPtr} {o : SCTPSocket} (ht : desc.sctpSocketPtr = some t)
    (ho : s.sockets t = some o) (h : o.autoCloseTimeout = mul64 1000000 seconds.toNat) :
    ReadBack E desc s (.autoClose seconds) := by
  refine .of_constant (0, .autoClose seconds) (fun u hu => ?_) rfl
  cases u with
  | autoClose u =>
    have hlt := seconds.toNat_lt
    have hmul : mul64 1000000 seconds.toNat / 1000000 = seconds.toNat := by
      unfold mul64
      omega
    unfold OptionView.read
    simp only [Bool.not_true, Bool.false_eq_true, if_false, ht, Shared.view_socket, ho, Option.map_some,
      SCTPSocket.view, h, hmul, UInt32.ofNat_toNat]
  | _ => exact hu.elim

variable
  (hL : ∀ {t t' : L.State} {id status}, L.setAssocStatus t id status = (true, t') → L.getAssocStatus t' id = some status)
include hL

theorem readBack_rtoInfo {v : SctpRtoinfo} (h : s.updateParams desc v.srto_assoc_id (fun status => { status with
      rtoInitial := changed v.srto_initial status.rtoInitial
      rtoMin := changed v.srto_min status.rtoMin
      rtoMax := changed v.srto_max status.rtoMax }) = some (true, s')) : ReadBack E desc s' (.rtoInfo v) := by
  obtain ⟨old, id, -, hread⟩ := params_updateParams hL h
  refine .of_constant (0, .rtoInfo
    { srto_initial := changed v.srto_initial old.rtoInitial, srto_max := changed v.srto_max old.rtoMax
      srto_min := changed v.srto_min old.rtoMin, srto_assoc_id := id }) (fun u hu => ?_) ?_
  · cases u with
    | rtoInfo u =>
      show s'.view.readRTOInfo desc u = _
      unfold OptionView.readRTOInfo
      rw [show u.srto_assoc_id = v.srto_assoc_id from hu, hread]
      rfl
    | _ => exact hu.elim
  · exact ⟨fun hv => if_pos hv, fun hv => if_pos hv, fun hv => if_pos hv⟩

theorem readBack_assocInfo {v : SctpAssocparams} (h : s.updateParams desc v.sasoc_assoc_id
      (fun status => { status with assocMaxRetransmits := v.sasoc_asocmaxrxt }) = some (true, s')) :
    ReadBack E desc s' (.assocInfo v) := by
  obtain ⟨old, id, -, hread⟩ := params_updateParams hL h
  refine .of_constant (0, .assocInfo
    { sasoc_assoc_id := id, sasoc_asocmaxrxt := v.sasoc_asocmaxrxt
      sasoc_number_peer_destinations := old.numberOfDestinationPaths, sasoc_peer_rwnd := 0
      sasoc_local_rwnd := old.currentReceiverWindowSize, sasoc_cookie_life := old.validCookieLife })
    (fun u hu => ?_) rfl
  cases u with
  | assocInfo u =>
    show s'.view.readAssocInfo desc u = _
    unfold OptionView.readAssocInfo
    rw [show u.sasoc_assoc_id = v.sasoc_assoc_id from hu, hread]
    rfl
  | _ => exact hu.elim

/-- Both buffer sizes: a get that succeeds has the size that was set. -/
theorem read_bufferSize {change : AssociationStatus → AssociationStatus} {f : AssociationStatus → Nat} {size : UInt32}
    (hf : ∀ status, f (change status) = size.toNat) (hc : desc.sctpAssociationPtr.isSome → desc.connectionOriented = true)
    (h : s.updateBuffer desc change = some (true, s')) (option : UInt32 → SockOpt) {old : UInt32} {result : OptResult}
    (hread : s'.view.readBufferSize desc option f old = some result) (hresult : 0 ≤ result.1) :
    result.2 = option size ∧ ∀ old, s'.view.readBufferSize desc option f old = some result := by
  unfold OptionView.readBufferSize at hread ⊢
  cases hp : desc.sctpAssociationPtr with
  | none =>
    rw [hp] at hread
    cases hread
    exact absurd hresult (show ¬(0 : Int) ≤ -1 by decide)
  | some p =>
    have hdispatch : desc.connectionOriented = true := hc (by rw [hp]; rfl)
    unfold Shared.updateBuffer SCTPSocketDesc.dispatch at h
    rw [hp, hdispatch] at h
    obtain ⟨a, ha, h⟩ := Option.map_eq_some_iff.mp h
    obtain ⟨status, hstatus⟩ := status_updateStatus hL h
    have hfield : s'.view.field f p = some (size.toNat : Int) := by
      unfold OptionView.field
      rw [Shared.view_association, (updateStatus_frame h).1, ha]
      show some (sizeOrError ((s'.view.status a.associationID).map f)) = _
      rw [hstatus]
      show some ((f (change status) : Nat) : Int) = _
      rw [hf]
    rw [hp] at hread
    simp only [hfield] at hread ⊢
    obtain rfl := Option.some.inj hread
    refine ⟨?_, fun _ => rfl⟩
    have hmod : (Int.bmod (size.toNat : Int) (2 ^ 32) % 2 ^ 32).toNat = size.toNat := by
      have hlt := size.toNat_lt
      have hemod := Int.bmod_emod (x := (size.toNat : Int)) (m := 2 ^ 32)
      omega
    show option (UInt32.ofNat _) = _
    rw [hmod, UInt32.ofNat_toNat]

theorem readBack_sndBuf {size : UInt32} (hc : desc.sctpAssociationPtr.isSome → desc.connectionOriented = true)
    (h : s.updateBuffer desc (fun status => { status with maxSendQueue := size.toNat }) = some (true, s')) :
    ReadBack E desc s' (.sndBuf size) := fun u result hu hread hresult => by
  cases u with
  | sndBuf old =>
    obtain ⟨hvalue, hother⟩ := read_bufferSize hL (fun _ => rfl) hc h SockOpt.sndBuf hread hresult
    refine ⟨?_, fun u' hu' => ?_⟩
    · rw [hvalue]
      rfl
    · cases u' with
      | sndBuf old' => exact hother old'
      | _ => exact hu'.elim
  | _ => exact hu.elim

theorem readBack_rcvBuf {size : UInt32} (hc : desc.sctpAssociationPtr.isSome → desc.connectionOriented = true)
    (h : s.updateBuffer desc (fun status => { status with maxRecvQueue := size.toNat }) = some (true, s')) :
    ReadBack E desc s' (.rcvBuf size) := fun u result hu hread hresult => by
  cases u with
  | rcvBuf old =>
    obtain ⟨hvalue, hother⟩ := read_bufferSize hL (fun _ => rfl) hc h SockOpt.rcvBuf hread hresult
    refine ⟨?_, fun u' hu' => ?_⟩
    · rw [hvalue]
      rfl
    · cases u' with
      | rcvBuf old' => exact hother old'
      | _ => exact hu'.elim
  | _ => exact hu.elim

end

/-! ## Options that are not read back -/

section

variable {s : Shared L} {desc : SCTPSocketDesc}

/-- A number other than 0 and `n`. -/
def other (n : Nat) : Nat := if n = 1 then 2 else 1

theorem other_ne (n : Nat) : other n ≠ n ∧ other n ≠ 0 := by
  unfold other
  split <;> omega

theorem peerAddrParams_dependent {u : SctpPaddrparams} {result : OptResult}
    (hread : s.view.read E desc (.peerAddrParams u) true = some result) (hresult : 0 ≤ result.1) :
    ∃ interval, s.view.read E desc (.peerAddrParams { u with spp_hbinterval := interval }) true ≠ some result := by
  obtain ⟨id, address, old, rxt, mtu, delay, flags⟩ := u
  cases address with
  | none =>
    cases hread
    exact absurd hresult (show ¬(0 : Int) ≤ -1 by decide)
  | some address =>
    obtain ⟨found, hfound, rfl⟩ := Option.map_eq_some_iff.mp hread
    cases found with
    | none => exact absurd hresult (show ¬(0 : Int) ≤ -1 by decide)
    | some parameters =>
      have hne := other_ne (fillPaddrparams ⟨id, some address, old, rxt, mtu, delay, flags⟩ parameters).spp_hbinterval
      refine ⟨other (fillPaddrparams ⟨id, some address, old, rxt, mtu, delay, flags⟩ parameters).spp_hbinterval,
        fun heq => hne.1 ?_⟩
      obtain ⟨found', hfound', heq⟩ := Option.map_eq_some_iff.mp heq
      obtain rfl : some parameters = found' := Option.some.inj (hfound.symm.trans hfound')
      have hvalue := SockOpt.peerAddrParams.inj (Prod.mk.inj heq).2
      have hinterval := congrArg SctpPaddrparams.spp_hbinterval hvalue
      unfold fillPaddrparams at hinterval hne ⊢
      dsimp only at hinterval hne ⊢
      rw [if_neg hne.2] at hinterval
      exact hinterval

theorem delayedSack_dependent {u : SctpSackInfo} {result : OptResult}
    (hread : s.view.read E desc (.delayedSack u) true = some result) :
    ∃ freq, s.view.read E desc (.delayedSack { u with sack_freq := freq }) true ≠ some result := by
  refine ⟨other u.sack_freq, fun heq => (other_ne u.sack_freq).1 ?_⟩
  obtain ⟨id, hid, hread⟩ := Option.bind_eq_some_iff.mp hread
  obtain ⟨id', hid', heq⟩ := Option.bind_eq_some_iff.mp heq
  obtain rfl : id = id' := Option.some.inj (hid.symm.trans hid')
  have hfreq (v : SctpSackInfo) (delay : Option Nat) :
      ∃ n, (OptionView.sackResult v delay).2 = .delayedSack { v with sack_delay := n } := by
    cases delay with
    | none => exact ⟨v.sack_delay, rfl⟩
    | some n => exact ⟨n, rfl⟩
  have hboth (d d' : Option Nat) (h : OptionView.sackResult { u with sack_freq := other u.sack_freq } d =
      OptionView.sackResult u d') : other u.sack_freq = u.sack_freq := by
    obtain ⟨n, hn⟩ := hfreq { u with sack_freq := other u.sack_freq } d
    obtain ⟨n', hn'⟩ := hfreq u d'
    rw [h, hn'] at hn
    exact (congrArg SctpSackInfo.sack_freq (SockOpt.delayedSack.inj hn)).symm
  split at hread
  · rename_i hne
    rw [if_pos hne] at heq
    obtain ⟨found, -, rfl⟩ := Option.map_eq_some_iff.mp hread
    obtain ⟨found', -, heq⟩ := Option.map_eq_some_iff.mp heq
    exact hboth _ _ heq
  · rename_i hne
    rw [if_neg hne] at heq
    obtain ⟨found, -, rfl⟩ := Option.map_eq_some_iff.mp hread
    obtain ⟨found', -, heq⟩ := Option.map_eq_some_iff.mp heq
    exact hboth _ _ heq

end

/-! ## The two cases together -/

theorem updated_ok {s' : Shared L} {o : Option (Bool × Shared L)} {n : Int} (h : o.map updated = some (n, s'))
    (hn : 0 ≤ n) : o = some (true, s') := by
  obtain ⟨⟨ok, t⟩, rfl, heq⟩ := Option.map_eq_some_iff.mp h
  cases ok with
  | true =>
    obtain rfl : t = s' := (Prod.mk.inj heq).2
    rfl
  | false =>
    obtain rfl := (Prod.mk.inj heq).1
    exact absurd hn (show ¬(0 : Int) ≤ -1 by decide)

/-- The options whose get fills in a structure the caller has partly filled itself. -/
def SockOpt.readsBuffer : SockOpt → Bool
  | .peerAddrParams _ | .delayedSack _ => true
  | _ => false

section

variable {fd : Int} {slot : Nat} {desc : SCTPSocketDesc} {w w₁ w₂ : World L} {v u : SockOpt} {n : Int}
  {result : OptResult}

theorem readBack_of_set (hE : E.Instant)
    (hL : ∀ {t t' : L.State} {id status}, L.setAssocStatus t id status = (true, t') → L.getAssocStatus t' id = some status)
    (hd : w.shared.descriptors slot = .sctp desc) (hc : desc.sctpAssociationPtr.isSome → desc.connectionOriented = true)
    (hkey : v.SameKey u) (hset : setOption E fd slot desc v true w = .ok n w₁) (hn : 0 ≤ n) :
    ∃ desc₁, w₁.shared.descriptors slot = .sctp desc₁ ∧
      (v.readsBuffer = false → ReadBack E desc₁ w₁.shared v) := by
  cases v with
  | rtoInfo v =>
    have h := updated_ok ((denotes_setRTOInfo hE desc v).ok hset) hn
    exact ⟨desc, by rw [updateParams_descriptors h, hd], fun _ => readBack_rtoInfo hL h⟩
  | assocInfo v =>
    have h := updated_ok ((denotes_setAssocInfo hE desc v).ok hset) hn
    exact ⟨desc, by rw [updateParams_descriptors h, hd], fun _ => readBack_assocInfo hL h⟩
  | peerAddrParams v =>
    have h := updated_ok ((denotes_configurePeerAddressParams hE desc v).ok hset) hn
    exact ⟨desc, by rw [updatePath_descriptors h, hd], nofun⟩
  | delayedSack v =>
    have h := updated_ok ((denotes_setDelayedAckTime hE desc v).ok hset) hn
    exact ⟨desc, by rw [updateDelay_descriptors h, hd], nofun⟩
  | sndBuf size =>
    have h :=
      updated_ok ((denotes_setBuffer hE desc fun status => { status with maxSendQueue := size.toNat }).ok hset) hn
    exact ⟨desc, by rw [updateBuffer_descriptors h, hd], fun _ => readBack_sndBuf hL hc h⟩
  | rcvBuf size =>
    have h :=
      updated_ok ((denotes_setBuffer hE desc fun status => { status with maxRecvQueue := size.toNat }).ok hset) hn
    exact ⟨desc, by rw [updateBuffer_descriptors h, hd], fun _ => readBack_rcvBuf hL hc h⟩
  | autoClose seconds =>
    have h := (denotes_setAutoClose desc (mul64 1000000 seconds.toNat)).ok hset
    cases hs : desc.sctpSocketPtr with
    | none =>
      rw [hs] at h
      obtain rfl := (Prod.mk.inj (Option.some.inj h)).1
      exact absurd hn (show ¬(0 : Int) ≤ -1 by decide)
    | some t =>
      rw [hs] at h
      obtain ⟨o, ho, heq⟩ := Option.map_eq_some_iff.mp h
      have hw := (Prod.mk.inj heq).2
      refine ⟨desc, by rw [← hw]; exact hd, fun _ => ?_⟩
      have ho' : w₁.shared.sockets t = some { o with autoCloseTimeout := mul64 1000000 seconds.toNat } := by
        rw [← hw]
        simp only [Shared.setSocket, Function.update_self, ho, Option.map_some]
      exact readBack_autoClose hs ho' rfl
  | initMsg initmsg =>
    have h := (denotes_initMsg hE slot desc initmsg).ok hset
    obtain ⟨s', hs', heq⟩ := Option.map_eq_some_iff.mp h
    obtain rfl : s' = w₁.shared := (Prod.mk.inj heq).2
    refine ⟨{ desc with initMsg := initmsg }, ?_, fun _ => readBack_initMsg initmsg rfl⟩
    rw [updateInitMsg_descriptors hs', setDesc_self hd]
  | linger onoff seconds =>
    have h := (denotes_linger slot onoff seconds).ok hset
    split at h
    · obtain rfl := (Prod.mk.inj (Option.some.inj h)).1
      exact absurd hn (show ¬(0 : Int) ≤ -1 by decide)
    · rename_i hvalid
      have hw := (Prod.mk.inj (Option.some.inj h)).2
      refine ⟨{ desc with linger := { onoff := onoff.toNat, linger := seconds } }, ?_, fun _ =>
        readBack_linger rfl (by omega)⟩
      rw [← hw, setDesc_self hd]
  | _ => exact hkey.elim

/-- A get returns what the set before it has set, and does not depend on the rest of the buffer,
exactly for the options that do not fill in the caller's structure. -/
theorem getsockopt_setsockopt (hE : E.Instant)
    (hL : ∀ {t t' : L.State} {id status}, L.setAssocStatus t id status = (true, t') → L.getAssocStatus t' id = some status)
    (hfd : getSocket fd = some slot) (hd : w.shared.descriptors slot = .sctp desc)
    (hc : desc.sctpAssociationPtr.isSome → desc.connectionOriented = true) (hkey : v.SameKey u)
    (hset : ext_setsockopt E fd v true w = .ok n w₁) (hn : 0 ≤ n)
    (hget : ext_getsockopt E fd u true w₁ = .ok result w₂) (hresult : 0 ≤ result.1) :
    GetAfterSet E fd v w₁ result ↔ v.readsBuffer = false := by
  rw [run_ext_setsockopt hfd hd] at hset
  obtain ⟨desc₁, hd₁, hback⟩ := readBack_of_set hE hL hd hc hkey hset hn
  have hread := (get_iff hfd hE hd₁ u true result).mp ⟨w₂, hget⟩
  constructor
  · rintro ⟨-, hsame⟩
    cases v with
    | peerAddrParams v =>
      cases u with
      | peerAddrParams u =>
        obtain ⟨interval, hne⟩ := peerAddrParams_dependent hread hresult
        exact absurd ((get_iff hfd hE hd₁ _ true result).mp (hsame (.peerAddrParams { u with spp_hbinterval := interval }) hkey))
          hne
      | _ => exact hkey.elim
    | delayedSack v =>
      cases u with
      | delayedSack u =>
        obtain ⟨freq, hne⟩ := delayedSack_dependent hread
        exact absurd ((get_iff hfd hE hd₁ _ true result).mp (hsame (.delayedSack { u with sack_freq := freq }) hkey)) hne
      | _ => exact hkey.elim
    | _ => rfl
  · intro hv
    obtain ⟨hvalue, hother⟩ := hback hv u result hkey hread hresult
    exact ⟨hvalue, fun u' hu' => (get_iff hfd hE hd₁ u' true result).mpr (hother u' hu')⟩

end

/-! ## An association with one path -/

/-- Association 1 with the path 0. -/
def onePath : Settings where
  status id := if id = 1 then some { numberOfDestinationPaths := 1, destinationPathIDs := [0] } else none
  defaults _ := none
  path id index :=
    if id = 1 ∧ index = 0 then some { destinationAddress := "10.0.0.1", heartbeatIntervall := 30000, mtu := 1500 }
    else none
  primary _ := 0

/-- An accepted association in slot 3. -/
def accepted (stack : Settings) : World Sctplib.table where
  shared := {
    stack
    sockets := fun t => if t = 0 then some { instanceName := 1, associationList := [(1, 0)] } else none
    associations := fun p => if p = 0 then some { socket := 0, associationID := 1 } else none
    descriptors := fun slot => if slot = 3 then .sctp
        { domain := .inet, type := .stream, sctpSocketPtr := some 0, sctpAssociationPtr := some 0
          connectionOriented := true }
      else .invalid }

def alone : Environment Sctplib.table := {}

theorem alone_instant : alone.Instant := fun _ _ => rfl

theorem table_setAssocStatus {t t' : Sctplib.table.State} {id : AssocID} {status : AssociationStatus}
    (h : Sctplib.table.setAssocStatus t id status = (true, t')) : Sctplib.table.getAssocStatus t' id = some status := by
  unfold Sctplib.table at h ⊢
  dsimp only at h ⊢
  split at h
  · obtain rfl := (Prod.mk.inj h).2
    exact Function.update_self ..
  · exact absurd (Prod.mk.inj h).1 (by decide)

theorem getsockopt_setsockopt_rtoInfo : ∃ w₁ w₂ result,
    ext_setsockopt alone 3 (.rtoInfo { srto_initial := 2000, srto_max := 9000 }) true (accepted onePath) = .ok 0 w₁ ∧
    ext_getsockopt alone 3 (.rtoInfo {}) true w₁ = .ok result w₂ ∧
    GetAfterSet alone 3 (.rtoInfo { srto_initial := 2000, srto_max := 9000 }) w₁ result := by
  have h : Post (ext_setsockopt alone 3 (.rtoInfo { srto_initial := 2000, srto_max := 9000 }) true) (accepted onePath)
      (fun n w₁ => n = 0 ∧ Post (ext_getsockopt alone 3 (.rtoInfo {}) true) w₁ (fun r _ => 0 ≤ r.1) fun _ _ => False)
      fun _ _ => False := by
    decide +kernel
  obtain ⟨n, w₁, hset, rfl, h'⟩ := h.exists_ok
  obtain ⟨result, w₂, hget, hresult⟩ := h'.exists_ok
  have hkey : SockOpt.SameKey (.rtoInfo { srto_initial := 2000, srto_max := 9000 }) (.rtoInfo {}) := rfl
  have hfd : getSocket 3 = some 3 := rfl
  exact ⟨w₁, w₂, result, hset, hget, (getsockopt_setsockopt alone_instant table_setAssocStatus hfd rfl (fun _ => rfl) hkey
    hset (by decide) hget hresult).mpr rfl⟩

/-- The heartbeat interval of the caller's buffer comes back, not the one that was set. -/
theorem getsockopt_returns_buffer : ∃ w₁ w₂ result,
    ext_setsockopt alone 3 (.peerAddrParams { spp_address := some ⟨"10.0.0.1", 0⟩, spp_hbinterval := 5000 }) true
      (accepted onePath) = .ok 0 w₁ ∧
    ext_getsockopt alone 3 (.peerAddrParams { spp_address := some ⟨"10.0.0.1", 0⟩, spp_hbinterval := 700 }) true w₁ =
      .ok result w₂ ∧ 0 ≤ result.1 ∧
    ¬GetAfterSet alone 3 (.peerAddrParams { spp_address := some ⟨"10.0.0.1", 0⟩, spp_hbinterval := 5000 }) w₁ result := by
  have h :
      Post (ext_setsockopt alone 3 (.peerAddrParams { spp_address := some ⟨"10.0.0.1", 0⟩, spp_hbinterval := 5000 })
      true) (accepted onePath) (fun n w₁ => n = 0 ∧ Post
        (ext_getsockopt alone 3 (.peerAddrParams { spp_address := some ⟨"10.0.0.1", 0⟩, spp_hbinterval := 700 }) true) w₁
        (fun r _ => r = (0, .peerAddrParams { spp_address := some ⟨"10.0.0.1", 0⟩, spp_hbinterval := 700
                                              spp_pathmtu := 1500, spp_flags := 1 })) fun _ _ => False)
      fun _ _ => False := by
    decide +kernel
  obtain ⟨n, w₁, hset, rfl, h'⟩ := h.exists_ok
  obtain ⟨result, w₂, hget, rfl⟩ := h'.exists_ok
  refine ⟨w₁, w₂, _, hset, hget, by decide, fun hback => ?_⟩
  have hinterval : (5000 : Nat) ≠ 0 → (700 : Nat) = 5000 := hback.1
  exact absurd (hinterval (by decide)) (by decide)

end SocketApi
