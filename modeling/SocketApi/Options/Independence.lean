import SocketApi.Options.Still

/-!
# Options are independent

A set of one option leaves the result of a get of every other option as it was, with the local
primary path as the exception: the option for the peer's primary path sets it.
-/

namespace SocketApi

open Effect ExtSocketDescriptorMaster

variable {L : Sctplib} {E : Environment L}

/-! ## A set -/

/-- What a set does to the descriptor itself. -/
def SockOpt.inDesc (x : SockOpt) (desc : SCTPSocketDesc) : SCTPSocketDesc :=
  match x with
  | .initMsg initmsg => { desc with initMsg := initmsg }
  | .linger onoff seconds => { desc with linger := { onoff := onoff.toNat, linger := seconds } }
  | _ => desc

theorem read_inDesc (E : Environment L) (desc : SCTPSocketDesc) (v : OptionView) {x y : SockOpt}
    (hxy : x.ctorIdx ≠ y.ctorIdx) (fits : Bool) : v.read E (x.inDesc desc) y fits = v.read E desc y fits := by
  cases x with
  | initMsg initmsg =>
    cases y with
    | initMsg initmsg' => exact absurd rfl hxy
    | _ => rfl
  | linger onoff seconds =>
    cases y with
    | linger onoff' seconds' => exact absurd rfl hxy
    | _ => rfl
  | _ => rfl

section

variable {fd : Int} {slot : Nat} {desc : SCTPSocketDesc} {w w₁ : World L} {x : SockOpt} {fits : Bool} {n : Int}

theorem still_of_ok {set : Act L Int} (h : Keeps Still Unread set) (hset : set w = .ok n w₁)
    (hlocal : x.localKey = none)
    (hpeer : x.peerKey = none) (hd : w.shared.descriptors slot = .sctp desc) :
    w₁.shared.descriptors slot = .sctp desc ∧ OptionView.Changes x desc w.shared.view w₁.shared.view := by
  obtain ⟨hview, hdescriptors⟩ := (h.post w).of_ok hset
  rw [hview, hdescriptors]
  exact ⟨hd, .refl hlocal hpeer desc _⟩

theorem not_ok_of_negative {result : Int} (h : errnoReturn result w = .ok n w₁) (hresult : result < 0) : ¬0 ≤ n := by
  have h := (Denotes.errnoReturn result).ok h
  rw [if_pos hresult] at h
  obtain rfl := (Prod.mk.inj (Option.some.inj h)).1
  decide

theorem changes_autoClose {s s' : Shared L} {seconds : UInt32} {timeout : Nat}
    (h : (match desc.sctpSocketPtr with
      | some t => (s.sockets t).map fun _ => ((0 : Int), s.setSocket t fun o => { o with autoCloseTimeout := timeout })
      | none => some (-1, s)) = some (n, s')) :
    s'.descriptors = s.descriptors ∧ OptionView.Changes (.autoClose seconds) desc s.view s'.view := by
  split at h
  · rename_i t _
    obtain ⟨o, ho, heq⟩ := Option.map_eq_some_iff.mp h
    obtain ⟨-, rfl⟩ := Prod.mk.inj heq
    refine ⟨rfl, ?_⟩
    have hinstances (u : SocketPtr) :
        ((s.setSocket t fun o => { o with autoCloseTimeout := timeout }).view.socket u).map
        (·.instanceName) = (s.view.socket u).map (·.instanceName) := by
      show ((Function.update s.sockets t _ u).map SCTPSocket.view).map _ = ((s.sockets u).map SCTPSocket.view).map _
      rw [Function.update_apply]
      split
      · rename_i hu
        rw [hu, ho]
        rfl
      · rfl
    exact { ids := fun _ => rfl, instances := hinstances, params := fun _ => rfl, status := fun _ => rfl
            path := fun _ _ => rfl, defaults := fun _ => rfl, paths := fun _ _ _ => rfl, primary := rfl
            autoClose := fun hx => absurd rfl (hx seconds) }
  · obtain ⟨-, rfl⟩ := Prod.mk.inj (Option.some.inj h)
    exact ⟨rfl, .refl rfl rfl desc _⟩

theorem view_setDesc (s : Shared L) (slot : Nat) (f : SCTPSocketDesc → SCTPSocketDesc) :
    (s.setDesc slot f).view = s.view := by
  unfold Shared.setDesc
  split <;> rfl

theorem updatePrimary_descriptors {s s' : Shared L} {k : AssocID} {address : Option SocketAddress}
    (h : s.updatePrimary desc k address = some (true, s')) : s'.descriptors = s.descriptors := by
  unfold Shared.updatePrimary at h
  split at h
  · cases h
  · obtain ⟨id, index, stack, -, -, rfl⟩ := onTarget_onPath h
    rfl

/-- What a successful set does. -/
theorem changes_setOption (hE : E.Instant) (hL : L.Lawful) (hd : w.shared.descriptors slot = .sctp desc)
    (hset : setOption E fd slot desc x fits w = .ok n w₁) (hn : 0 ≤ n) :
    w₁.shared.descriptors slot = .sctp (x.inDesc desc) ∧
      OptionView.Changes x desc w.shared.view w₁.shared.view := by
  have hfits {y : Act L Int} (h : (if !fits then do return ← errnoReturn (-EINVAL) else y) w = .ok n w₁) :
      y w = .ok n w₁ := by
    cases fits with
    | true => exact h
    | false => exact absurd hn (not_ok_of_negative (show errnoReturn (-EINVAL) w = .ok n w₁ from h) (by decide))
  cases x with
  | nodelay => exact still_of_ok (inferInstanceAs (Keeps Still Unread (errnoReturn 0))) hset rfl rfl hd
  | status status => exact absurd hn (not_ok_of_negative hset (by decide))
  | peerAddrInfo paddrinfo => exact absurd hn (not_ok_of_negative hset (by decide))
  | events flags =>
    cases fits with
    | true => exact still_of_ok (calm_setEvents fd flags) hset rfl rfl hd
    | false => exact absurd hn (not_ok_of_negative (show errnoReturn (-EINVAL) w = .ok n w₁ from hset) (by decide))
  | rtoInfo v =>
    have h := updated_ok ((denotes_setRTOInfo hE desc v).ok (hfits hset)) hn
    refine ⟨by rw [updateParams_descriptors h, hd]; rfl, changes_updateParams hL ?_ rfl rfl h⟩
    exact fun _ => rfl
  | assocInfo v =>
    have h := updated_ok ((denotes_setAssocInfo hE desc v).ok (hfits hset)) hn
    refine ⟨by rw [updateParams_descriptors h, hd]; rfl, changes_updateParams hL ?_ rfl rfl h⟩
    exact fun _ => rfl
  | peerAddrParams v =>
    have h := updated_ok ((denotes_configurePeerAddressParams hE desc v).ok (hfits hset)) hn
    exact ⟨by rw [updatePath_descriptors h, hd]; rfl, changes_updatePath hL h⟩
  | delayedSack v =>
    have h := updated_ok ((denotes_setDelayedAckTime hE desc v).ok (hfits hset)) hn
    exact ⟨by rw [updateDelay_descriptors h, hd]; rfl, changes_updateDelay hL h⟩
  | sndBuf size =>
    have h := updated_ok ((denotes_setBuffer hE desc fun status => { status with maxSendQueue := size.toNat }).ok
      (hfits hset)) hn
    refine ⟨by rw [updateBuffer_descriptors h, hd]; rfl, changes_updateBuffer hL ?_ rfl rfl h⟩
    exact fun _ => rfl
  | rcvBuf size =>
    have h := updated_ok ((denotes_setBuffer hE desc fun status => { status with maxRecvQueue := size.toNat }).ok
      (hfits hset)) hn
    refine ⟨by rw [updateBuffer_descriptors h, hd]; rfl, changes_updateBuffer hL ?_ rfl rfl h⟩
    exact fun _ => rfl
  | autoClose seconds =>
    have h := (denotes_setAutoClose desc (mul64 1000000 seconds.toNat)).ok (hfits hset)
    obtain ⟨hdescriptors, hchanges⟩ := changes_autoClose h
    exact ⟨by rw [hdescriptors, hd]; rfl, hchanges⟩
  | initMsg initmsg =>
    have h := (denotes_initMsg hE slot desc initmsg).ok (hfits hset)
    obtain ⟨s', hs', heq⟩ := Option.map_eq_some_iff.mp h
    obtain rfl : s' = w₁.shared := (Prod.mk.inj heq).2
    refine ⟨by rw [updateInitMsg_descriptors hs', setDesc_self hd]; rfl, ?_⟩
    have hchanges := changes_updateInitMsg hL hs'
    rwa [view_setDesc] at hchanges
  | linger onoff seconds =>
    have h := (denotes_linger slot onoff seconds).ok (hfits hset)
    split at h
    · obtain rfl := (Prod.mk.inj (Option.some.inj h)).1
      exact absurd hn (show ¬(0 : Int) ≤ -1 by decide)
    · have hw := (Prod.mk.inj (Option.some.inj h)).2
      rw [← hw, view_setDesc]
      exact ⟨setDesc_self hd, .refl rfl rfl desc _⟩
  | primaryAddr k address =>
    have h := updated_ok ((denotes_setPrimaryAddr hE desc k address).ok (hfits hset)) hn
    exact ⟨by rw [updatePrimary_descriptors h, hd]; rfl, changes_updatePrimary hL (.inl rfl) h⟩
  | peerPrimaryAddr k address =>
    have h := updated_ok ((denotes_setPrimaryAddr hE desc k address).ok (hfits hset)) hn
    exact ⟨by rw [updatePrimary_descriptors h, hd]; rfl, changes_updatePrimary hL (.inr rfl) h⟩
  | defaultSendParam info => exact still_of_ok (calm_defaultSendParams hE desc info) (hfits hset) rfl rfl hd
  | streamTimeouts k timeout start stop =>
    exact still_of_ok (calm_streamTimeouts hE desc k timeout start stop) (hfits hset) rfl rfl hd
  | trafficClass tos => exact still_of_ok (calm_trafficClass hE desc tos) (hfits hset) rfl rfl hd

end

/-! ## Independence -/

/-- The result of a get, if it returns. -/
def getAnswer (E : Environment L) (fd : Int) (y : SockOpt) (fits : Bool) (w : World L) : Option OptResult :=
  match ext_getsockopt E fd y fits w with
  | .ok result _ => some result
  | .error _ _ => none

/-- The result without the local primary path, where the option `x` is there to set it. -/
def SockOpt.apart (x : SockOpt) (result : OptResult) : OptResult :=
  match x, result.2 with
  | .primaryAddr _ _, .status found => (0, .status { found with sstat_primary := {} })
  | _, _ => result

/-- Between `w` and `w₁` nothing has changed for the other options. The option for the local
primary path may change that of its association only, and the option for path parameters the
path of its address only. -/
structure Independent (E : Environment L) (fd : Int) (desc : SCTPSocketDesc) (x : SockOpt) (w w₁ : World L) :
    Prop where
  options : ∀ y fits, x.ctorIdx ≠ y.ctorIdx →
    (getAnswer E fd y fits w₁).map x.apart = (getAnswer E fd y fits w).map x.apart
  primary : ∀ id, (w.shared.view.pathOf desc x.localKey).map (·.1) ≠ some id →
    L.getPrimary w₁.shared.stack id = L.getPrimary w.shared.stack id
  paths : ∀ id index, w.shared.view.pathOf desc x.pathKey ≠ some (id, index) →
    L.getPathStatus w₁.shared.stack id index = L.getPathStatus w.shared.stack id index

namespace OptionView

/-- The status apart from the primary path. -/
theorem readStatus_apart {x : SockOpt} {desc : SCTPSocketDesc} {v v' : OptionView} (h : SameBut x desc v v')
    (E : Environment L) (k : AssocID) (address : Option SocketAddress) (status : SctpStatus) :
    (v'.readStatus E desc status).map (SockOpt.apart (.primaryAddr k address)) =
      (v.readStatus E desc status).map (SockOpt.apart (.primaryAddr k address)) := by
  have hconst {γ : Type} (c : γ) (id : AssocID) (paddrinfo : SctpPaddrinfo) :
      (v'.readPrimary E desc id paddrinfo).map (fun _ => c) = (v.readPrimary E desc id paddrinfo).map fun _ => c := by
    unfold readPrimary primaryPath
    simp only [Option.map_map]
    exact target_congr h id (fun _ _ _ => rfl) rfl
  rw [readStatus_eq, readStatus_eq, params_statusOf h, Option.map_bind, Option.map_bind]
  congr 1
  funext found
  cases found with
  | none => rfl
  | some st =>
    dsimp only [Function.comp]
    rw [Option.map_map, Option.map_map]
    exact hconst (0, SockOpt.status { st with sstat_primary := {} }) st.sstat_assoc_id status.sstat_primary

end OptionView

section

variable {fd : Int} {slot : Nat} {desc : SCTPSocketDesc} {w w₁ : World L} {x : SockOpt} {fits : Bool} {n : Int}

theorem getAnswer_eq (hE : E.Instant) (hfd : getSocket fd = some slot) (hd : w.shared.descriptors slot = .sctp desc)
    (y : SockOpt) (fits : Bool) : getAnswer E fd y fits w = w.shared.view.read E desc y fits := by
  unfold getAnswer
  cases hrun : ext_getsockopt E fd y fits w with
  | ok result w' => exact ((get_iff hfd hE hd y fits result).mp ⟨w', hrun⟩).symm
  | error e w' =>
    cases hread : w.shared.view.read E desc y fits with
    | none => rfl
    | some result =>
      obtain ⟨w'', hok⟩ := (get_iff hfd hE hd y fits result).mpr hread
      rw [hrun] at hok
      cases hok

/-- A set of an option is independent of the other options exactly if it does not set the local
primary path in place of the peer's. -/
theorem ext_setsockopt_independent (hE : E.Instant) (hL : L.Lawful) (hfd : getSocket fd = some slot)
    (hd : w.shared.descriptors slot = .sctp desc) (hset : ext_setsockopt E fd x fits w = .ok n w₁) (hn : 0 ≤ n) :
    Independent E fd desc x w w₁ ↔ ∀ id index, w.shared.view.pathOf desc x.peerKey = some (id, index) →
      L.getPrimary w.shared.stack id = index := by
  rw [run_ext_setsockopt hfd hd] at hset
  obtain ⟨hd₁, hchanges⟩ := changes_setOption hE hL hd hset hn
  have hprimary := hchanges.primary
  constructor
  · intro hindependent id index hpath
    have hlocal : x.localKey = none := by
      cases x with
      | primaryAddr k address => cases hpath
      | _ => rfl
    have hsame := hindependent.primary id (by rw [hlocal]; exact nofun)
    rw [hlocal, Option.none_or, hpath] at hprimary
    have hset : w₁.shared.view.primary id = index := by
      rw [hprimary]
      exact Function.update_self ..
    exact hsame.symm.trans hset
  · intro hpeer
    have hsame (hx : x.localKey = none) : w₁.shared.view.primary = w.shared.view.primary := by
      rw [hx, Option.none_or] at hprimary
      rw [hprimary]
      split
      · rename_i id index hpath
        rw [Function.update_eq_self_iff]
        exact (hpeer id index hpath).symm
      · rfl
    refine ⟨fun y fits' hxy => ?_, fun id hid => ?_, hchanges.paths⟩
    · rw [getAnswer_eq hE hfd hd₁, getAnswer_eq hE hfd hd, read_inDesc E desc _ hxy]
      have hautoClose : (∃ seconds, y = .autoClose seconds) → ∀ t,
          (w₁.shared.view.socket t).map (·.autoClose) = (w.shared.view.socket t).map (·.autoClose) := by
        rintro ⟨seconds, rfl⟩
        exact hchanges.autoClose fun seconds' hx => hxy (by rw [hx]; rfl)
      by_cases hstatus : ∃ status, y = .status status
      · obtain ⟨status, rfl⟩ := hstatus
        cases x with
        | primaryAddr k address =>
          cases fits' with
          | false => rfl
          | true => exact OptionView.readStatus_apart hchanges.toSameBut E k address status
        | _ => exact congrArg _ (OptionView.read_same hchanges.toSameBut E hxy fits' (fun _ => hsame rfl) hautoClose)
      · exact congrArg _ (OptionView.read_same hchanges.toSameBut E hxy fits' (fun hy => absurd hy hstatus) hautoClose)
    · show w₁.shared.view.primary id = w.shared.view.primary id
      cases hx : x.localKey with
      | none => rw [hsame hx]
      | some key =>
        rw [hx, Option.some_or] at hprimary
        rw [hx] at hid
        rw [hprimary]
        split
        · rename_i id' index hpath
          rw [hpath] at hid
          exact Function.update_of_ne (fun heq => hid (by rw [heq]; rfl)) ..
        · rfl

end

/-! ## An association with two paths -/

theorem table_lawful : Sctplib.table.Lawful where
  setAssocStatus {s s' id status ok} h := by
    unfold Sctplib.table at h
    dsimp only at h
    split at h <;> obtain ⟨rfl, rfl⟩ := Prod.mk.inj h <;> rfl
  setAssocDefaults {s s' i parameters ok} h := by
    unfold Sctplib.table at h
    dsimp only at h
    split at h <;> obtain ⟨rfl, rfl⟩ := Prod.mk.inj h <;> rfl
  requestHeartbeat {s s' id index ok} h := by
    obtain ⟨-, rfl⟩ := Prod.mk.inj h
    rfl
  changeHeartBeat {s s' id index interval ok} h := by
    unfold Sctplib.table at h
    dsimp only at h
    split at h
    · rename_i path hpath
      obtain ⟨rfl, rfl⟩ := Prod.mk.inj h
      show Settings.setPath s id index _ = Settings.setInterval s id index interval
      unfold Settings.setInterval
      rw [hpath]
      rfl
    · obtain ⟨rfl, rfl⟩ := Prod.mk.inj h
      rfl
  setPrimary {s s' id index ok} h := by
    unfold Sctplib.table at h
    dsimp only at h
    split at h
    · obtain ⟨rfl, rfl⟩ := Prod.mk.inj h
      refine ⟨((s.status id).map (·.primaryDestinationAddress)).getD "", ?_⟩
      have hstatus : Function.update s.status id ((s.status id).map fun status => { status with
          primaryDestinationAddress := ((s.status id).map (·.primaryDestinationAddress)).getD "" }) = s.status := by
        rw [Function.update_eq_self_iff]
        cases s.status id <;> rfl
      show ({ s with primary := Function.update s.primary id index } : Settings) = { s with
        primary := Function.update s.primary id index
        status := Function.update s.status id ((s.status id).map fun status => { status with
          primaryDestinationAddress := ((s.status id).map (·.primaryDestinationAddress)).getD "" }) }
      rw [hstatus]
    · obtain ⟨rfl, rfl⟩ := Prod.mk.inj h
      exact ⟨"", rfl⟩

/-- Association 1 with the paths 0 and 1. -/
def twoPaths : Settings where
  status id := if id = 1 then some { numberOfDestinationPaths := 2, destinationPathIDs := [0, 1] } else none
  defaults _ := none
  path id index :=
    if id = 1 ∧ index = 0 then some { destinationAddress := "10.0.0.1" }
    else if id = 1 ∧ index = 1 then some { destinationAddress := "10.0.0.2" }
    else none
  primary _ := 0

def acceptedDesc : SCTPSocketDesc :=
  { domain := .inet, type := .stream, sctpSocketPtr := some 0, sctpAssociationPtr := some 0, connectionOriented := true }

theorem primaryAddr_independent : ∃ w₁,
    ext_setsockopt alone 3 (.primaryAddr 0 (some ⟨"10.0.0.2", 0⟩)) true (accepted twoPaths) = .ok 0 w₁ ∧
    Independent alone 3 acceptedDesc (.primaryAddr 0 (some ⟨"10.0.0.2", 0⟩)) (accepted twoPaths) w₁ := by
  have h : Post (ext_setsockopt alone 3 (.primaryAddr 0 (some ⟨"10.0.0.2", 0⟩)) true) (accepted twoPaths)
      (fun n _ => n = 0) fun _ _ => False := by
    decide +kernel
  obtain ⟨n, w₁, hset, rfl⟩ := h.exists_ok
  have hfd : getSocket 3 = some 3 := rfl
  exact ⟨w₁, hset, (ext_setsockopt_independent alone_instant table_lawful hfd rfl hset (by decide)).mpr nofun⟩

/-- The option for the peer's primary path sets the local one. -/
theorem peerPrimaryAddr_sets_primary : ∃ w₁,
    ext_setsockopt alone 3 (.peerPrimaryAddr 0 (some ⟨"10.0.0.2", 0⟩)) true (accepted twoPaths) = .ok 0 w₁ ∧
    (accepted twoPaths).shared.stack.primary 1 = 0 ∧ w₁.shared.stack.primary 1 = 1 ∧
    ¬Independent alone 3 acceptedDesc (.peerPrimaryAddr 0 (some ⟨"10.0.0.2", 0⟩)) (accepted twoPaths) w₁ := by
  have h : Post (ext_setsockopt alone 3 (.peerPrimaryAddr 0 (some ⟨"10.0.0.2", 0⟩)) true) (accepted twoPaths)
      (fun n w₁ => n = 0 ∧ Settings.primary w₁.shared.stack 1 = 1) fun _ _ => False := by
    decide +kernel
  obtain ⟨n, w₁, hset, rfl, hone⟩ := h.exists_ok
  refine ⟨w₁, hset, rfl, hone, fun hindependent => ?_⟩
  have hsame : Settings.primary w₁.shared.stack 1 = 0 := hindependent.primary 1 nofun
  rw [hone] at hsame
  cases hsame

end SocketApi
