import SocketApi.Options.Frame

/-!
# What a set changes

`OptionView.Changes` bounds what a successful set of an option does to the view.
-/

namespace SocketApi

open Effect ExtSocketDescriptorMaster

variable {L : Sctplib} {E : Environment L}

namespace OptionView

/-! ## Changes of the view -/

/-- The path of an association and an address, by their ID and index. -/
def pathOf (desc : SCTPSocketDesc) (v : OptionView) (key : Option (AssocID × SocketAddress)) : Option (AssocID × Int) :=
  key.bind fun (k, address) => (v.target desc k).join.bind fun a => (v.pathIndex a.id address).map (a.id, ·)

theorem forget_rtoMax (x : SockOpt) (st : AssociationStatus) (n : Nat) :
    { x.forget { st with rtoMax := n } with rtoMax := 0 } = { x.forget st with rtoMax := 0 } := by
  cases x <;> rfl

theorem forget_report {x : SockOpt} {st st' : AssociationStatus} (h : x.forget st' = x.forget st)
    (a : AssociationView) : x.forget (a.report st') = x.forget (a.report st) := by
  unfold AssociationView.report
  cases a.userRTOMax with
  | none => exact h
  | some n =>
    cases x with
    | rtoInfo r => exact h
    | _ => exact congrArg (fun st : AssociationStatus => { st with rtoMax := n }) h

theorem SameBut.of_settings {x : SockOpt} {desc : SCTPSocketDesc} {v v' : OptionView}
    (hassociation : v'.association = v.association) (hsocket : v'.socket = v.socket)
    (hstatus : ∀ id, (v'.status id).map x.forget = (v.status id).map x.forget)
    (hpath : ∀ id index, (v'.path id index).map x.forgetPath = (v.path id index).map x.forgetPath)
    (hdefaults : ∀ i, (v'.defaults i).map x.forgetDefaults = (v.defaults i).map x.forgetDefaults) :
    SameBut x desc v v' where
  ids p := by rw [hassociation]
  instances t := by rw [hsocket]
  params k := by
    have htarget : v'.target desc k = v.target desc k := by
      unfold target
      rw [hassociation]
    unfold OptionView.params
    rw [htarget, Option.map_map, Option.map_map]
    congr 1
    funext found
    cases found with
    | none => rfl
    | some a =>
      dsimp only [Function.comp, Option.bind_some]
      rw [Option.map_map, Option.map_map]
      refine map_of_map (hstatus a.id) fun st st' heq => ?_
      exact congrArg (·, a.id) (forget_report heq a)
  status id := map_of_map (hstatus id) fun st st' heq =>
    congrArg (fun st : AssociationStatus => { st with rtoMax := 0 }) heq
  path := hpath
  defaults := hdefaults

end OptionView

/-- Association and address of the option for path parameters. -/
def SockOpt.pathKey : SockOpt → Option (AssocID × SocketAddress)
  | .peerAddrParams params => params.spp_address.map (params.spp_assoc_id, ·)
  | _ => none

/-- Association and address of the option for the local primary path. -/
def SockOpt.localKey : SockOpt → Option (AssocID × SocketAddress)
  | .primaryAddr k address => address.map (k, ·)
  | _ => none

/-- Association and address of the option for the peer's primary path. -/
def SockOpt.peerKey : SockOpt → Option (AssocID × SocketAddress)
  | .peerPrimaryAddr k address => address.map (k, ·)
  | _ => none

namespace OptionView

/-- What a set of the option `x` does to the view. -/
structure Changes (x : SockOpt) (desc : SCTPSocketDesc) (v v' : OptionView) : Prop extends SameBut x desc v v' where
  paths : ∀ id index, v.pathOf desc x.pathKey ≠ some (id, index) → v'.path id index = v.path id index
  primary : v'.primary = match v.pathOf desc (x.localKey.or x.peerKey) with
    | some (id, index) => Function.update v.primary id index
    | none => v.primary
  autoClose : (∀ seconds, x ≠ .autoClose seconds) →
    ∀ t, (v'.socket t).map (·.autoClose) = (v.socket t).map (·.autoClose)

theorem Changes.refl {x : SockOpt} (hlocal : x.localKey = none) (hpeer : x.peerKey = none) (desc : SCTPSocketDesc)
    (v : OptionView) : Changes x desc v v where
  toSameBut := .refl x desc v
  paths _ _ _ := rfl
  primary := by rw [hlocal, hpeer]; rfl
  autoClose _ _ := rfl

end OptionView

theorem view_stack (s : Shared L) (stack : L.State) :
    Shared.view { s with stack } = { s.view with toSettings := L.settings stack } := rfl

theorem view_setAssociation (s : Shared L) (p : AssocPtr) (f : SCTPAssociation → SCTPAssociation) :
    (s.setAssociation p f).view = { s.view with
      association := Function.update s.view.association p ((s.associations p).map fun a => (f a).view) } := by
  have h : (fun q => (Function.update s.associations p ((s.associations p).map f) q).map SCTPAssociation.view) =
      Function.update s.view.association p ((s.associations p).map fun a => (f a).view) := by
    funext q
    rw [Function.update_apply, Function.update_apply]
    split
    · exact Option.map_map ..
    · rfl
  rw [← h]
  rfl

section

variable {s s' : Shared L} {desc : SCTPSocketDesc} {x : SockOpt} (hL : L.Lawful)

/-! ### Parameters of associations -/

section

include hL

theorem view_setStatus {id : AssocID} {status : AssociationStatus} (h : s.setStatus id status = (true, s')) :
    s'.view = { s.view with toSettings := s.view.toSettings.setStatus id status } := by
  unfold Shared.setStatus at h
  obtain ⟨h1, rfl⟩ := Prod.mk.inj h
  have hset := hL.setAssocStatus (Prod.ext h1 rfl)
  rw [if_pos rfl] at hset
  rw [view_stack, hset]
  rfl

theorem changes_setStatus {id : AssocID} {status old : AssociationStatus} (hold : s.view.status id = some old)
    (hx : x.forget status = x.forget old) (hlocal : x.localKey = none) (hpeer : x.peerKey = none)
    (h : s.setStatus id status = (true, s')) : OptionView.Changes x desc s.view s'.view := by
  rw [view_setStatus hL h]
  refine { toSameBut := .of_settings rfl rfl (fun id' => ?_) (fun _ _ => rfl) fun _ => rfl, paths := fun _ _ _ => rfl
           primary := ?_, autoClose := fun _ _ => rfl }
  · show (Function.update s.view.status id (some status) id').map _ = _
    rw [Function.update_apply]
    split
    · rename_i heq
      rw [heq, hold]
      exact congrArg some hx
    · rfl
  · rw [hlocal, hpeer]
    rfl

/-- A status that is written through the object of the association. -/
theorem changes_setAssociationStatus {p : AssocPtr} {a : SCTPAssociation} {status old : AssociationStatus}
    (hp : ∀ {α : Type} (f : AssocPtr → α) (g : SocketPtr → α) (n : α), desc.dispatch f g n = f p)
    (ha : s.associations p = some a) (hold : s.view.status a.associationID = some old)
    (hx : x.forget status = x.forget (a.view.report old)) (hlocal : x.localKey = none) (hpeer : x.peerKey = none)
    (h : s.setAssociationStatus p a status = (true, s')) : OptionView.Changes x desc s.view s'.view := by
  have hva : s.view.association p = some a.view := by
    rw [Shared.view_association, ha]
    rfl
  unfold Shared.setAssociationStatus at h
  by_cases hinit : a.rtoMaxIsInitTimeout
  · rw [if_pos hinit] at h
    have hreport : a.view.report old = { old with rtoMax := a.rtoMax } := by
      unfold SCTPAssociation.view AssociationView.report
      simp only [hinit, if_true, Option.getD_some]
    rw [hreport] at hx
    rw [view_setStatus hL h, view_setAssociation, ha]
    have hview : SCTPAssociation.view { a with rtoMax := status.rtoMax } =
        { id := a.associationID, userRTOMax := some status.rtoMax } := by
      unfold SCTPAssociation.view
      simp only [hinit, if_true]
    rw [Option.map_some, hview]
    refine { ids := fun q => ?_, instances := fun _ => rfl, params := fun k => ?_, status := fun id => ?_,
             path := fun _ _ => rfl, defaults := fun _ => rfl, paths := fun _ _ _ => rfl, primary := ?_
             autoClose := fun _ _ => rfl }
    · show (Function.update s.view.association p _ q).map _ = _
      rw [Function.update_apply]
      split
      · rename_i heq
        rw [heq, hva]
        rfl
      · rfl
    · unfold OptionView.params OptionView.target
      rw [hp, hp, hva]
      show Option.map _ (Option.map _ (Option.map some (Function.update s.view.association p _ p))) = _
      rw [Function.update_self]
      show some (Option.map _ (Option.map _ (Function.update s.view.status a.associationID _ a.associationID))) =
        some (Option.map _ (Option.map _ (s.view.status a.associationID)))
      rw [Function.update_self, hold]
      show some (some (x.forget status, a.associationID)) = some (some (x.forget (a.view.report old), a.associationID))
      rw [hx, hreport]
    · show (Function.update s.view.status a.associationID _ id).map _ = _
      rw [Function.update_apply]
      split
      · rename_i heq
        rw [heq, hold]
        have hx' := congrArg (fun st : AssociationStatus => { st with rtoMax := 0 }) hx
        show some { x.forget { status with rtoMax := a.initTimeout } with rtoMax := 0 } =
          some { x.forget old with rtoMax := 0 }
        rw [OptionView.forget_rtoMax, hx', OptionView.forget_rtoMax]
      · rfl
    · rw [hlocal, hpeer]
      rfl
  · rw [if_neg hinit] at h
    have hreport : a.view.report old = old := by
      unfold SCTPAssociation.view AssociationView.report
      simp only [hinit]
      rfl
    exact changes_setStatus hL hold (hreport ▸ hx) hlocal hpeer h

theorem changes_updateParams {k : AssocID} {change : AssociationStatus → AssociationStatus}
    (hx : ∀ status, x.forget (change status) = x.forget status) (hlocal : x.localKey = none) (hpeer : x.peerKey = none)
    (h : s.updateParams desc k change = some (true, s')) : OptionView.Changes x desc s.view s'.view := by
  unfold Shared.updateParams Shared.setParams OptionView.params OptionView.target at h
  obtain ⟨found, hfound, h⟩ := Option.bind_eq_some_iff.mp h
  obtain ⟨p, -, -, hp⟩ | ⟨t, -, ht⟩ | hn := desc.shape
  · simp only [hp] at hfound h
    cases ha : s.associations p with
    | none =>
      simp only [Shared.view_association, ha, Option.map_none, reduceCtorEq] at hfound
    | some a =>
      simp only [Shared.view_association, ha, Option.map_some, Option.bind_some, Option.some.injEq] at hfound h
      subst hfound
      cases hold : s.view.status a.view.id with
      | none =>
        rw [hold] at h
        cases h
      | some old =>
        rw [hold] at h
        exact changes_setAssociationStatus hL hp ha hold (hx _) hlocal hpeer (Option.some.inj h)
  · simp only [ht, Option.map_some, Option.bind_some, Option.some.injEq] at hfound h
    subst hfound
    cases hold : s.view.status k with
    | none =>
      rw [hold] at h
      cases h
    | some old =>
      rw [hold] at h
      exact changes_setStatus hL hold (hx _) hlocal hpeer (Option.some.inj h)
  · simp only [hn, Option.map_some, Option.some.injEq] at hfound h
    subst hfound
    cases h

theorem changes_updateStatus {id : AssocID} {change : AssociationStatus → AssociationStatus}
    (hx : ∀ status, x.forget (change status) = x.forget status) (hlocal : x.localKey = none) (hpeer : x.peerKey = none)
    (h : s.updateStatus id change = (true, s')) : OptionView.Changes x desc s.view s'.view := by
  unfold Shared.updateStatus at h
  cases hold : L.getAssocStatus s.stack id with
  | none =>
    rw [hold] at h
    cases h
  | some old =>
    rw [hold] at h
    exact changes_setStatus hL hold (hx old) hlocal hpeer h

theorem changes_updateBuffer {change : AssociationStatus → AssociationStatus}
    (hx : ∀ status, x.forget (change status) = x.forget status) (hlocal : x.localKey = none) (hpeer : x.peerKey = none)
    (h : s.updateBuffer desc change = some (true, s')) : OptionView.Changes x desc s.view s'.view := by
  unfold Shared.updateBuffer at h
  obtain ⟨p, -, -, hp⟩ | ⟨t, -, ht⟩ | hn := desc.shape
  · rw [hp] at h
    obtain ⟨a, -, h⟩ := Option.map_eq_some_iff.mp h
    exact changes_updateStatus hL hx hlocal hpeer h
  · rw [ht] at h
    obtain ⟨o, -, h⟩ := Option.bind_eq_some_iff.mp h
    split at h
    · obtain ⟨a, -, h⟩ := Option.map_eq_some_iff.mp h
      exact changes_updateStatus hL hx hlocal hpeer h
    · cases h
      exact .refl hlocal hpeer desc _
  · rw [hn] at h
    cases h

/-! ### Parameters of new associations -/

theorem changes_updateDefaults {t : SocketPtr} {change : InstanceParameters → InstanceParameters} {ok : Bool}
    (hx : ∀ parameters, x.forgetDefaults (change parameters) = x.forgetDefaults parameters)
    (hlocal : x.localKey = none) (hpeer : x.peerKey = none)
    (h : s.updateDefaults t change = some (ok, s')) : OptionView.Changes x desc s.view s'.view := by
  unfold Shared.updateDefaults Shared.setDefaults at h
  obtain ⟨o, -, h⟩ := Option.map_eq_some_iff.mp h
  cases hold : L.getAssocDefaults s.stack o.instanceName with
  | none =>
    rw [hold] at h
    cases h
    exact .refl hlocal hpeer desc _
  | some old =>
    rw [hold] at h
    obtain ⟨h1, rfl⟩ := Prod.mk.inj h
    have hset := hL.setAssocDefaults (Prod.ext h1 rfl)
    rw [view_stack s (L.setAssocDefaults s.stack o.instanceName (change old)).2, hset]
    cases ok with
    | false => exact .refl hlocal hpeer desc _
    | true =>
      refine { toSameBut := .of_settings rfl rfl (fun _ => rfl) (fun _ _ => rfl) fun i => ?_
               paths := fun _ _ _ => rfl, primary := ?_, autoClose := fun _ _ => rfl }
      · show (Function.update s.view.defaults o.instanceName _ i).map _ = _
        rw [Function.update_apply]
        split
        · rename_i heq
          rw [heq, show s.view.defaults o.instanceName = some old from hold]
          exact congrArg some (hx old)
        · rfl
      · rw [hlocal, hpeer]
        rfl

theorem changes_updateDelay {sackInfo : SctpSackInfo} (h : s.updateDelay desc sackInfo = some (true, s')) :
    OptionView.Changes (.delayedSack sackInfo) desc s.view s'.view := by
  unfold Shared.updateDelay at h
  obtain ⟨id, -, h⟩ := Option.bind_eq_some_iff.mp h
  split at h
  · refine changes_updateParams hL ?_ rfl rfl h
    exact fun _ => rfl
  · unfold Shared.updateDefaultDelay at h
    split at h
    · refine changes_updateDefaults hL ?_ rfl rfl h
      exact fun _ => rfl
    · cases h

theorem changes_updateInitMsg {initmsg : InitMsg} (h : s.updateInitMsg desc initmsg = some s') :
    OptionView.Changes (.initMsg initmsg) desc s.view s'.view := by
  unfold Shared.updateInitMsg at h
  split at h
  · obtain ⟨⟨ok, t⟩, ht, rfl⟩ := Option.map_eq_some_iff.mp h
    refine changes_updateDefaults hL ?_ rfl rfl ht
    exact fun _ => rfl
  · cases h
    exact .refl rfl rfl desc _

/-! ### Paths -/

omit hL in
/-- A call for the path of an address, seen from the descriptor. -/
theorem onTarget_onPath {k : AssocID} {address : SocketAddress} {call : AssocID → Int → L.State → Bool × L.State}
    (h : (s.onTarget desc k (false, s) fun id => s.onPath id address (call id)) = some (true, s')) :
    ∃ id index stack, s.view.pathOf desc (some (k, address)) = some (id, index) ∧
      call id index s.stack = (true, stack) ∧ s' = { s with stack } := by
  unfold Shared.onTarget at h
  obtain ⟨found, hfound, h⟩ := Option.bind_eq_some_iff.mp h
  cases found with
  | none => cases h
  | some a =>
    unfold Shared.onPath at h
    obtain ⟨index, hindex, h⟩ := Option.map_eq_some_iff.mp h
    split at h
    · obtain ⟨hcall, rfl⟩ := Prod.mk.inj h
      refine ⟨a.id, index, _, ?_, Prod.ext hcall rfl, rfl⟩
      unfold OptionView.pathOf
      simp only [hfound, Option.bind_some, Option.join_some, hindex, Option.map_some]
    · cases h

theorem changes_updatePath {params : SctpPaddrparams} (h : s.updatePath desc params = some (true, s')) :
    OptionView.Changes (.peerAddrParams params) desc s.view s'.view := by
  unfold Shared.updatePath at h
  cases haddress : params.spp_address with
  | none =>
    rw [haddress] at h
    cases h
  | some address =>
    rw [haddress] at h
    obtain ⟨found, -, h⟩ := Option.bind_eq_some_iff.mp h
    cases found with
    | none => cases h
    | some parameters =>
      obtain ⟨id, index, stack, hpath, hcall, rfl⟩ := onTarget_onPath h
      have hkey : s.view.pathOf desc (SockOpt.pathKey (.peerAddrParams params)) = some (id, index) := by
        rw [← hpath]
        show s.view.pathOf desc (params.spp_address.map (params.spp_assoc_id, ·)) = _
        rw [haddress]
        rfl
      rw [view_stack s stack]
      unfold heartbeatCall at hcall
      split at hcall
      · rw [hL.requestHeartbeat hcall]
        exact .refl rfl rfl desc _
      · have hset := hL.changeHeartBeat hcall
        rw [if_pos rfl] at hset
        rw [hset]
        refine { toSameBut := .of_settings rfl rfl (fun _ => rfl) (fun id' index' => ?_) fun _ => rfl
                 paths := fun id' index' hne => ?_, primary := rfl, autoClose := fun _ _ => rfl }
        · show (Function.update s.view.path id (Function.update (s.view.path id) index _) id' index').map _ = _
          rw [Function.update_apply]
          split
          · rename_i hid
            rw [Function.update_apply, hid]
            split
            · rename_i hindex
              rw [hindex, show (L.settings s.stack).path id index = s.view.path id index from rfl, Option.map_map]
              rfl
            · rfl
          · rfl
        · rw [hkey] at hne
          show Function.update s.view.path id (Function.update (s.view.path id) index _) id' index' = _
          rw [Function.update_apply]
          split
          · rename_i hid
            rw [Function.update_apply, if_neg fun hindex => hne (by rw [hid, hindex]), hid]
          · rfl

theorem changes_updatePrimary {k : AssocID} {address : Option SocketAddress}
    (hx : x = .primaryAddr k address ∨ x = .peerPrimaryAddr k address)
    (h : s.updatePrimary desc k address = some (true, s')) : OptionView.Changes x desc s.view s'.view := by
  unfold Shared.updatePrimary at h
  cases address with
  | none => cases h
  | some address =>
    obtain ⟨id, index, stack, hpath, hcall, rfl⟩ := onTarget_onPath h
    obtain ⟨destination, hset⟩ := hL.setPrimary hcall
    rw [if_pos rfl] at hset
    have hkey : x.localKey.or x.peerKey = some (k, address) := by
      obtain rfl | rfl := hx <;> rfl
    have hpathKey : x.pathKey = none := by
      obtain rfl | rfl := hx <;> rfl
    rw [view_stack s stack, hset]
    refine { toSameBut := .of_settings rfl rfl (fun id' => ?_) (fun _ _ => rfl) fun _ => rfl, paths := fun _ _ _ => rfl
             primary := ?_, autoClose := fun _ _ => rfl }
    · show (Function.update s.view.status id _ id').map _ = _
      rw [Function.update_apply]
      split
      · rename_i hid
        rw [hid, show (L.settings s.stack).status id = s.view.status id from rfl, Option.map_map]
        obtain rfl | rfl := hx <;> rfl
      · rfl
    · rw [hkey, hpath]
      rfl

end

end

end SocketApi
