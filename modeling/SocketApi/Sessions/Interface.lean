import SocketApi.Descriptors.Exhaustion
import SocketApi.Reporting.Calls
import SocketApi.Sessions.Unmoved

/-!
# Calls that leave sockets and slots alone

All calls of the C interface but those that open or close descriptors, under the relation of
`SocketApi.Sessions.Unmoved`.
-/

namespace SocketApi

open Effect ExtSocketDescriptorMaster SCTPSocketMaster

set_option synthInstance.maxSize 2000

variable {L : Sctplib} {E : Environment L}

/-! ## Operations of sockets and associations -/

section

variable [Rely E Unmoving] {k : SocketPtr} {p : AssocPtr}

namespace SCTPAssociation

/-- It returns with the master locked if there is no memory for the addresses. -/
instance : Anywhere Unmoving AnyHalt (SCTPAssociation.getRemoteAddresses E p) := by
  have hassociation : Anywhere (L := L) Unmoving AnyHalt (associationAt p) := inferInstance
  have hshared : Anywhere (L := L) Unmoving AnyHalt shared := inferInstance
  refine Moves.keeps (.bind .lock fun _ => .bind (.anywhere hassociation) fun a => .bind (.anywhere hshared) fun s => ?_)
  dsimp only
  cases L.getAssocStatus s.stack a.associationID with
  | none => exact .bind (.unlock (a := 0)) fun _ => .pure le_rfl
  | some status => exact .ite (.pure (Nat.zero_le _)) (.bind (.unlock (a := 0)) fun _ => .pure le_rfl)

instance {io : ReceiveIO} : Anywhere Unmoving AnyHalt (SCTPAssociation.receive E p io) := by
  unfold SCTPAssociation.receive
  infer_instance

instance {buffer : List UInt8} {params : SendParams} {useDefaults : Bool} :
    Anywhere Unmoving AnyHalt (SCTPAssociation.send E p buffer params useDefaults) := by
  unfold SCTPAssociation.send
  infer_instance

end SCTPAssociation

namespace SCTPSocket

instance {sendAbort : Bool} {rest : Act L Unit} [UnderLock Unmoving AnyHalt rest] :
    UnderLock Unmoving AnyHalt (unbindConnectionless E k sendAbort rest) := by
  unfold unbindConnectionless
  refine .seq fun o => ?_
  cases o.connectionlessAssociationList <;> infer_instance

instance {sendAbort : Bool} {rest : Act L Unit} [UnderLock Unmoving AnyHalt rest] :
    UnderLock Unmoving AnyHalt (unbindAssociations E k sendAbort rest) := by
  unfold unbindAssociations
  refine .seq fun o => ?_
  cases o.associationList <;> infer_instance

instance {rest : Act L Unit} [UnderLock Unmoving AnyHalt rest] :
    UnderLock Unmoving AnyHalt (unbindRequests E k rest) := by
  unfold unbindRequests
  refine .seq fun o => ?_
  cases o.connectionRequests <;> infer_instance

instance {sendAbort : Bool} : Anywhere Unmoving AnyHalt (unbind E k sendAbort) := by
  have hconnectionless (n : Nat) : UnderLock Unmoving AnyHalt (loop .waiting (unbindConnectionless E k sendAbort) n) :=
    .loop (fun _ _ => inferInstance) n
  have hassociations (n : Nat) : UnderLock Unmoving AnyHalt (loop .waiting (unbindAssociations E k sendAbort) n) :=
    .loop (fun _ _ => inferInstance) n
  have hrequests (n : Nat) : UnderLock Unmoving AnyHalt (loop .waiting (unbindRequests E k) n) :=
    .loop (fun _ _ => inferInstance) n
  have hinstance : UnderLock (L := L) Unmoving AnyHalt (unbindInstance k) := by
    unfold unbindInstance SCTPSocketMaster.delayedDeleteSocket
    refine .seq fun o => .seq fun w => ?_
    cases w.socketList.find o.instanceName <;> infer_instance
  unfold unbind unbindLocked
  infer_instance

instance {port ins outs : Nat} {addresses : List SocketAddress} :
    Anywhere Unmoving AnyHalt (SCTPSocket.bind E k port ins outs addresses) := by
  have hrandom (hosts : List String) (n i : Nat) :
      UnderLock Unmoving AnyHalt (registerRandomPort E k ins outs hosts n i) := by
    induction n generalizing i with
    | zero => unfold registerRandomPort; infer_instance
    | succ n ih => unfold registerRandomPort; infer_instance
  have hport (hosts : List String) : UnderLock Unmoving AnyHalt (registerPort E k port ins outs hosts) := by
    unfold registerPort
    infer_instance
  have hlocked : UnderLock Unmoving AnyHalt (bindLocked E k port ins outs addresses) := by
    unfold bindLocked
    dsimp only
    split
    · infer_instance
    · split
      · infer_instance
      · split <;> infer_instance
  unfold SCTPSocket.bind
  infer_instance

instance {id : AssocID} : Anywhere Unmoving AnyHalt (peelOff E k id) := by
  unfold peelOff hold
  refine Guarded.locked (.seq fun o => ?_)
  cases o.connectionlessAssociationList.find id <;> infer_instance

instance {id : AssocID} : Anywhere Unmoving AnyHalt (SCTPSocket.getRemoteAddresses E k id) := by
  have hfind : UnderLock Unmoving AnyHalt (findAssociation E k id) := by
    unfold findAssociation
    refine .seq fun found => ?_
    cases found <;> infer_instance
  unfold SCTPSocket.getRemoteAddresses
  refine Guarded.locked (.seq fun found => ?_)
  cases found <;> infer_instance

instance {α : Type} {f : AssocPtr → Act L α} [∀ q, Anywhere Unmoving AnyHalt (f q)] :
    Anywhere Unmoving AnyHalt (onFirstLocked k f) := by
  have hsocket : Anywhere (L := L) Unmoving AnyHalt (socketAt k) := inferInstance
  have hassociation (q : AssocPtr) : Anywhere (L := L) Unmoving AnyHalt (discard (associationAt q)) := inferInstance
  have hf (q : AssocPtr) : Anywhere Unmoving AnyHalt (f q) := inferInstance
  refine Moves.keeps (.bind .lock fun _ => .bind (.anywhere hsocket) fun o => ?_)
  cases o.connectionlessAssociationList with
  | nil => exact .pure (Nat.zero_le _)
  | cons e _ => exact .bind (.anywhere (hassociation _)) fun _ => .bind (.anywhere (hf _)) fun _ => .pure (Nat.zero_le _)

instance {io : ReceiveIO} : Anywhere Unmoving AnyHalt (SCTPSocket.receive E k io) := by
  unfold SCTPSocket.receive
  infer_instance

end SCTPSocket

end

/-! ## Descriptors -/

section

variable {held : Bool}

instance {slot : Nat} : Keeps (Within Unmoving held) (Stops Unmoving AnyHalt held) (descriptorAt slot : Act L _) := by
  unfold descriptorAt
  infer_instance

theorem unmoved_setSlot {s : Shared L} {slot : Nat} {td : ExtSocketDescriptor}
    (hsocket : td.socket = (s.descriptors slot).socket) (hsystem : ∀ fd, s.descriptors slot ≠ .system fd) :
    s.Unmoved { s with descriptors := Function.update s.descriptors slot td } where
  slots i := by
    by_cases hi : i = slot
    · simp [hi, hsocket]
    · simp [hi]
  system i fd hi := by
    have hslot : i ≠ slot := by
      intro h
      exact hsystem fd (h ▸ hi)
    simpa [hslot] using hi
  sockets _ := rfl
  nextSocket := rfl

theorem Unmoving.setDesc {slot : Nat} {f : SCTPSocketDesc → SCTPSocketDesc}
    (hf : ∀ d, (f d).sctpSocketPtr = d.sctpSocketPtr) :
    Keeps (Within Unmoving held) (Stops Unmoving AnyHalt held) (setDesc slot f : Act L _) := by
  refine Unmoving.update fun s => ?_
  cases hs : s.descriptors slot with
  | sctp desc =>
    refine unmoved_setSlot ?_ ?_
    · simp [hs, ExtSocketDescriptor.socket, hf]
    · simp [hs]
  | system fd => exact .refl s
  | invalid => exact .refl s

/-- Every change of a SCTP descriptor but of its socket. -/
instance {slot : Nat} {association : SCTPSocketDesc → Option AssocPtr} {initMsg : SCTPSocketDesc → InitMsg}
    {linger : SCTPSocketDesc → Linger} {nonBlock : SCTPSocketDesc → Bool} {otherFlags : SCTPSocketDesc → BitVec 32} :
    Keeps (Within Unmoving held) (Stops Unmoving AnyHalt held) (setDesc slot fun d => { d with
      sctpAssociationPtr := association d, initMsg := initMsg d, linger := linger d, nonBlock := nonBlock d
      otherFlags := otherFlags d } : Act L _) := Unmoving.setDesc fun _ => rfl

/-- A descriptor of the system in a slot that is not used. -/
instance [Rely E Unmoving] {fd : Int} : Keeps (Within Unmoving held) (Stops Unmoving AnyHalt held)
    (ExtSocketDescriptorMaster.setSocket E (.system fd)) := by
  unfold ExtSocketDescriptorMaster.setSocket
  refine Guarded.locked ⟨fun w => ?_⟩
  rw [post_bind, post_shared]
  cases hslot : freeSlot w.shared.descriptors (min MaxSockets E.dtablesize) with
  | none => exact within_unmoved (.refl w.shared) le_rfl
  | some i =>
    have hfree := (freeSlot_some hslot).2
    refine within_unmoved (unmoved_setSlot ?_ ?_) le_rfl
    · simp [hfree, ExtSocketDescriptor.socket]
    · simp [hfree]

instance : Keeps (Within Unmoving held) (Stops Unmoving AnyHalt held) (openSystem E) := by
  unfold openSystem
  infer_instance

instance {fd : Int} : Keeps (Within Unmoving held) (Stops Unmoving AnyHalt held) (closeSystem fd : Act L _) := by
  unfold closeSystem
  infer_instance

end

section

variable [Rely E Unmoving] {k : SocketPtr} {p : AssocPtr} {slot : Nat} {sockfd : Int} {desc : SCTPSocketDesc}

/-! ## Binding, listening and connecting -/

instance {initMsg : InitMsg} {n i : Nat} {result : Int} : Anywhere Unmoving AnyHalt (bindRandomPort E k initMsg n i result) := by
  induction n generalizing i result with
  | zero => unfold bindRandomPort; infer_instance
  | succ n ih =>
    have hbind (port : Nat) : Anywhere Unmoving AnyHalt (do
        let result ← SCTPSocket.bind E k port initMsg.maxInstreams initMsg.numOstreams [{ host := anyHost E, port }]
        if 0 ≤ result then return result else bindRandomPort E k initMsg n (i + 1) result) := inferInstance
    exact Moves.keeps (.bind .lock fun _ => .bind (.unlock (a := 0)) fun _ => .anywhere (hbind _))

instance : Anywhere Unmoving AnyHalt (bindToAny E slot) := by
  unfold bindToAny
  refine .seq fun td => ?_
  cases td with
  | sctp desc => dsimp only; cases desc.sctpSocketPtr <;> infer_instance
  | system fd => infer_instance
  | invalid => infer_instance

instance {change : SocketAddress → Act L Bool} [∀ a, Anywhere Unmoving AnyHalt (change a)] {addresses : List SocketAddress} :
    Anywhere Unmoving AnyHalt (changeAddresses change addresses) := by
  induction addresses with
  | nil => unfold changeAddresses; infer_instance
  | cons a rest ih => unfold changeAddresses; infer_instance

instance {addresses : List SocketAddress} {flags : BindxFlags} :
    Anywhere Unmoving AnyHalt (bindAddresses E desc k addresses flags) := by
  unfold bindAddresses
  cases flags <;> cases desc.sctpAssociationPtr <;> infer_instance

instance {addrs : List (Option SocketAddress)} {flags : BindxFlags} :
    Anywhere Unmoving AnyHalt (sctp_bindx E sockfd addrs flags) := by
  unfold sctp_bindx
  cases getSocket sockfd with
  | none => infer_instance
  | some slot =>
    refine .seq fun td => ?_
    cases td with
    | sctp desc => dsimp only; cases desc.sctpSocketPtr <;> cases addrs.mapM id <;> infer_instance
    | system fd => infer_instance
    | invalid => infer_instance

instance {address : Option SocketAddress} : Anywhere Unmoving AnyHalt (ext_bind E sockfd address) := by
  unfold ext_bind
  cases getSocket sockfd with
  | none => infer_instance
  | some slot =>
    refine .seq fun td => ?_
    cases td <;> infer_instance

instance {backlog : Nat} : Anywhere Unmoving AnyHalt (ext_listen E sockfd backlog) := by
  unfold ext_listen
  cases getSocket sockfd with
  | none => infer_instance
  | some slot =>
    refine .seq fun td => ?_
    cases td with
    | sctp desc => dsimp only; cases desc.sctpSocketPtr <;> infer_instance
    | system fd => infer_instance
    | invalid => infer_instance

omit [Rely E Unmoving] in
instance {held : Bool} : Keeps (Within Unmoving held) (Stops Unmoving AnyHalt held) (release p : Act L _) := by
  unfold release
  infer_instance

instance {addrs : List (Option SocketAddress)} : Anywhere Unmoving AnyHalt (ext_connectx E sockfd addrs) := by
  unfold ext_connectx
  cases getSocket sockfd with
  | none => infer_instance
  | some slot =>
    refine .seq fun td => ?_
    cases td with
    | sctp desc =>
      refine .seq fun _ => ?_
      cases desc.sctpSocketPtr with
      | none => infer_instance
      | some k =>
        cases addrs.mapM id with
        | none => infer_instance
        | some addresses =>
          dsimp only
          have hend (association : Option AssocPtr) : Anywhere Unmoving AnyHalt (do
              setDesc slot fun d => { d with sctpAssociationPtr := association }
              match association with
              | none => return (← errnoReturn (- EIO), 0)
              | some p =>
                release p
                if desc.nonBlock then
                  return (← errnoReturn (-EINPROGRESS), 0)
                else
                  let id ← SCTPAssociation.getID p
                  return (← errnoReturn 0, id) : Act L (Int × AssocID)) := by
            cases association <;> infer_instance
          infer_instance
    | system fd => infer_instance
    | invalid => infer_instance

instance {unused : Int} {address : Option SocketAddress} : Anywhere Unmoving AnyHalt (ext_connect E unused sockfd address) := by
  unfold ext_connect
  cases getSocket sockfd with
  | none => infer_instance
  | some slot =>
    refine .seq fun td => ?_
    cases td <;> infer_instance

/-! ## Options -/

instance {id : AssocID} : Anywhere Unmoving AnyHalt (getAssocParams E desc id) := by
  have hassociation (p : AssocPtr) : Anywhere Unmoving AnyHalt (do
      match ← SCTPAssociation.getAssocStatus E p with
      | some parameters => return some (parameters, ← SCTPAssociation.getID p)
      | none => return none : Act L (Option (AssociationStatus × AssocID))) := by
    refine .seq fun status => ?_
    cases status <;> infer_instance
  unfold getAssocParams
  split <;> infer_instance

instance {id : AssocID} {parameters : AssociationStatus} :
    Anywhere Unmoving AnyHalt (setAssocParams E desc id parameters) := by
  unfold setAssocParams
  split <;> infer_instance

instance {id : AssocID} {address : SocketAddress} : Anywhere Unmoving AnyHalt (getPathStatus E desc id address) := by
  unfold getPathStatus
  split <;> infer_instance

instance {id : AssocID} {address : SocketAddress} {parameters : PathStatus} :
    Anywhere Unmoving AnyHalt (setPathStatus E desc id address parameters) := by
  unfold setPathStatus
  split <;> infer_instance

omit [Rely E Unmoving] in
instance {result : Int} {value : SockOpt} : Anywhere Unmoving AnyHalt (errnoResult result value : Act L _) := by
  unfold errnoResult
  infer_instance

omit [Rely E Unmoving] in
instance {id : AssocID} : Anywhere Unmoving AnyHalt (sackAssociation desc id : Act L _) := by
  unfold sackAssociation
  split <;> infer_instance

instance {rtoinfo : SctpRtoinfo} : Anywhere Unmoving AnyHalt (getRTOInfo E desc rtoinfo) := by
  unfold getRTOInfo
  refine .seq fun params => ?_
  cases params <;> infer_instance

instance {sackInfo : SctpSackInfo} : Anywhere Unmoving AnyHalt (getDelayedAckTime E desc sackInfo) := by
  have hassociation (id : AssocID) : Anywhere Unmoving AnyHalt (do
      match ← getAssocParams E desc id with
      | some (parameters, _) => errnoResult 0 (.delayedSack { sackInfo with sack_delay := parameters.delay })
      | none => errnoResult (-1) (.delayedSack sackInfo) : Act L OptResult) := by
    refine .seq fun params => ?_
    cases params <;> infer_instance
  have hsocket : Anywhere Unmoving AnyHalt (match desc.sctpSocketPtr with
      | some s => do
        match ← SCTPSocket.getAssocDefaults E s with
        | some parameters => errnoResult 0 (.delayedSack { sackInfo with sack_delay := parameters.delay })
        | none => errnoResult (-EINVAL) (.delayedSack sackInfo)
      | none => errnoResult (-EINVAL) (.delayedSack sackInfo) : Act L OptResult) := by
    cases desc.sctpSocketPtr with
    | none => infer_instance
    | some k =>
      refine .seq fun defaults => ?_
      cases defaults <;> infer_instance
  unfold getDelayedAckTime
  infer_instance

instance {assocparams : SctpAssocparams} : Anywhere Unmoving AnyHalt (getAssocInfo E desc assocparams) := by
  unfold getAssocInfo
  refine .seq fun params => ?_
  cases params <;> infer_instance

instance {id : AssocID} : Anywhere Unmoving AnyHalt (getPrimaryPath E desc id) := by
  have hassociation (p : AssocPtr) : Anywhere Unmoving AnyHalt (do
      match ← SCTPAssociation.getPathParameters E p none with
      | some parameters => return (some parameters, ← SCTPAssociation.getID p)
      | none => return (none, id) : Act L (Option PathStatus × AssocID)) := by
    refine .seq fun params => ?_
    cases params <;> infer_instance
  unfold getPrimaryPath
  split <;> infer_instance

instance {id : AssocID} {paddrinfo : SctpPaddrinfo} :
    Anywhere Unmoving AnyHalt (getPrimaryAddressInfo E desc id paddrinfo) := by
  unfold getPrimaryAddressInfo
  refine Guarded.locked (.seq fun path => ?_)
  obtain ⟨parameters, id⟩ := path
  cases parameters with
  | none => infer_instance
  | some parameters =>
    dsimp only
    cases createSocketAddress E parameters.destinationAddress 0 <;> infer_instance

instance {status : SctpStatus} : Anywhere Unmoving AnyHalt (getStatus E desc status) := by
  unfold getStatus
  refine @Keeps.bind _ _ _ _ _ _ _ _ _ (Guarded.locked (.seq fun params => ?_)) inferInstance
  cases params <;> infer_instance

instance {paddrinfo : SctpPaddrinfo} : Anywhere Unmoving AnyHalt (getPeerAddressInfo E desc paddrinfo) := by
  unfold getPeerAddressInfo
  cases paddrinfo.spinfo_address with
  | none => infer_instance
  | some address =>
    refine .seq fun params => ?_
    cases params <;> infer_instance

instance {params : SctpPaddrparams} {readOnly : Bool} :
    Anywhere Unmoving AnyHalt (configurePeerAddressParams E desc params readOnly) := by
  have hlocked : Anywhere Unmoving AnyHalt (configurePeerAddressParamsLocked E desc params readOnly) := by
    unfold configurePeerAddressParamsLocked
    cases params.spp_address with
    | none => infer_instance
    | some address =>
      refine .seq fun path => ?_
      cases path <;> infer_instance
  unfold configurePeerAddressParams
  infer_instance

instance {option : UInt32 → SockOpt} {get : AssocPtr → Act L Int} [∀ p, Anywhere Unmoving AnyHalt (get p)] {old : UInt32} :
    Anywhere Unmoving AnyHalt (getBufferSize option get desc old) := by
  unfold getBufferSize
  cases desc.sctpAssociationPtr <;> infer_instance

instance {optval : SockOpt} {fits : Bool} : Anywhere Unmoving AnyHalt (getOption E desc optval fits) := by
  unfold getOption
  cases optval with
  | trafficClass tos => dsimp only; cases desc.sctpAssociationPtr <;> infer_instance
  | autoClose seconds => dsimp only; cases desc.sctpSocketPtr <;> infer_instance
  | _ => infer_instance

instance {optval : SockOpt} {fits : Bool} : Anywhere Unmoving AnyHalt (ext_getsockopt E sockfd optval fits) := by
  unfold ext_getsockopt
  cases getSocket sockfd with
  | none => infer_instance
  | some slot =>
    refine .seq fun td => ?_
    cases td <;> infer_instance

instance {rtoinfo : SctpRtoinfo} : Anywhere Unmoving AnyHalt (setRTOInfo E desc rtoinfo) := by
  unfold setRTOInfo
  refine @Keeps.bind _ _ _ _ _ _ _ _ _ (Guarded.locked (.seq fun params => ?_)) inferInstance
  cases params <;> infer_instance

instance {assocparams : SctpAssocparams} : Anywhere Unmoving AnyHalt (setAssocInfo E desc assocparams) := by
  unfold setAssocInfo
  refine @Keeps.bind _ _ _ _ _ _ _ _ _ (Guarded.locked (.seq fun params => ?_)) inferInstance
  cases params <;> infer_instance

instance {sackInfo : SctpSackInfo} : Anywhere Unmoving AnyHalt (setDelayedAckTime E desc sackInfo) := by
  have hassociation (id : AssocID) : Anywhere Unmoving AnyHalt (do
      match ← getAssocParams E desc id with
      | some (parameters, assocID) =>
        let ok ← setAssocParams E desc assocID { parameters with delay := sackInfo.sack_delay }
        errnoReturn (if ok then 0 else -1)
      | none => errnoReturn (-1) : Act L Int) := by
    refine .seq fun params => ?_
    cases params <;> infer_instance
  have hsocket : Anywhere Unmoving AnyHalt (match desc.sctpSocketPtr with
      | some s => do
        match ← SCTPSocket.getAssocDefaults E s with
        | some parameters =>
          if ← SCTPSocket.setAssocDefaults E s { parameters with delay := sackInfo.sack_delay } then errnoReturn 0
          else errnoReturn (-EINVAL)
        | none => errnoReturn (-EINVAL)
      | none => errnoReturn (-EINVAL) : Act L Int) := by
    cases desc.sctpSocketPtr with
    | none => infer_instance
    | some k =>
      refine .seq fun defaults => ?_
      cases defaults <;> infer_instance
  unfold setDelayedAckTime
  infer_instance

instance {id : AssocID} {address : Option SocketAddress} : Anywhere Unmoving AnyHalt (setPrimaryAddr E desc id address) := by
  unfold setPrimaryAddr
  cases address with
  | none => infer_instance
  | some address => dsimp only; split <;> infer_instance

instance {initmsg : InitMsg} : Anywhere Unmoving AnyHalt (setInitMsgOf E desc initmsg) := by
  have hset (k : SocketPtr) : Anywhere Unmoving AnyHalt (setInitMsg E k initmsg) := by
    unfold setInitMsg
    refine Guarded.locked (.seq fun defaults => ?_)
    cases defaults <;> infer_instance
  unfold setInitMsgOf
  cases desc.sctpSocketPtr <;> infer_instance

instance {sndrcvinfo : SctpSndrcvinfo} : Anywhere Unmoving AnyHalt (setDefaultSendParams E desc sndrcvinfo) := by
  have hset (k : SocketPtr) (id : AssocID) (defaults : AssocIODefaults) :
      Anywhere Unmoving AnyHalt (SCTPSocket.setAssocIODefaults E k id defaults) := by
    unfold SCTPSocket.setAssocIODefaults
    infer_instance
  unfold setDefaultSendParams
  dsimp only
  split <;> infer_instance

instance {id : AssocID} {timeout start stop : Nat} :
    Anywhere Unmoving AnyHalt (setDefaultStreamTimeouts E desc id timeout start stop) := by
  have hset (k : SocketPtr) : Anywhere Unmoving AnyHalt (SCTPSocket.setDefaultStreamTimeouts E k id timeout start stop) := by
    unfold SCTPSocket.setDefaultStreamTimeouts
    infer_instance
  unfold setDefaultStreamTimeouts
  split <;> infer_instance

omit [Rely E Unmoving] in
instance {error : Int} {onAssociation : AssocPtr → Act L Bool} {onSocket : SocketPtr → Act L Bool}
    [∀ p, Anywhere Unmoving AnyHalt (onAssociation p)] [∀ k, Anywhere Unmoving AnyHalt (onSocket k)] :
    Anywhere Unmoving AnyHalt (setOn desc error onAssociation onSocket) := by
  unfold setOn
  split <;> infer_instance

omit [Rely E Unmoving] in
instance {flags : NotificationFlags} : Anywhere Unmoving AnyHalt (setEvents E sockfd flags) := by
  have hassociation (p : AssocPtr) : Anywhere (L := L) Unmoving AnyHalt (SCTPAssociation.setNotificationFlags p flags) := by
    unfold SCTPAssociation.setNotificationFlags
    infer_instance
  have hsocket (k : SocketPtr) : Anywhere (L := L) Unmoving AnyHalt (SCTPSocket.setNotificationFlags k flags) := by
    unfold SCTPSocket.setNotificationFlags
    infer_instance
  unfold setEvents
  cases getSocket sockfd with
  | none => infer_instance
  | some slot =>
    refine .seq fun td => ?_
    cases td with
    | sctp desc => dsimp only; split <;> infer_instance
    | system fd => infer_instance
    | invalid => infer_instance

instance {optval : SockOpt} {fits : Bool} : Anywhere Unmoving AnyHalt (setOption E sockfd slot desc optval fits) := by
  have hautoClose (k : SocketPtr) (timeout : Nat) : Anywhere (L := L) Unmoving AnyHalt (SCTPSocket.setAutoClose k timeout) := by
    unfold SCTPSocket.setAutoClose
    infer_instance
  unfold setOption
  cases optval with
  | autoClose seconds => dsimp only; cases desc.sctpSocketPtr <;> infer_instance
  | peerPrimaryAddr id address => unfold setPeerPrimaryAddr; infer_instance
  | _ => infer_instance

instance {optval : SockOpt} {fits : Bool} : Anywhere Unmoving AnyHalt (ext_setsockopt E sockfd optval fits) := by
  unfold ext_setsockopt
  cases getSocket sockfd with
  | none => infer_instance
  | some slot =>
    refine .seq fun td => ?_
    cases td <;> infer_instance

instance {params : SctpPaddrparams} {fits : Bool} : Anywhere Unmoving AnyHalt (setPeerAddrParams E sockfd params fits) := by
  unfold setPeerAddrParams
  cases getSocket sockfd with
  | none => infer_instance
  | some slot =>
    refine .seq fun td => ?_
    cases td <;> infer_instance

instance {id : AssocID} {arg : SockOpt} {fits : Bool} : Anywhere Unmoving AnyHalt (sctp_opt_info E sockfd id arg fits) := by
  unfold sctp_opt_info
  cases arg <;> infer_instance

/-! ## Names and flags -/

instance : Anywhere Unmoving AnyHalt (localAddresses E desc) := by
  unfold localAddresses
  split <;> infer_instance

instance : Anywhere Unmoving AnyHalt (remoteAddresses E desc) := by
  unfold remoteAddresses
  cases desc.sctpAssociationPtr <;> infer_instance

omit [Rely E Unmoving] in
instance {addresses : SCTPSocketDesc → Act L (Int × Option (List SocketAddress))}
    [∀ desc, Anywhere Unmoving AnyHalt (addresses desc)] {namelen : Option Nat} :
    Anywhere Unmoving AnyHalt (getName E addresses sockfd namelen) := by
  unfold getName
  cases getSocket sockfd with
  | none => infer_instance
  | some slot =>
    refine .seq fun td => ?_
    cases td <;> infer_instance

instance {id : AssocID} {peerAddresses : Bool} : Anywhere Unmoving AnyHalt (sctp_getlpaddrs E sockfd id peerAddresses) := by
  have hother (p : AssocPtr) (id : AssocID) : Anywhere (L := L) Unmoving AnyHalt (isOther p id) := by
    unfold isOther
    infer_instance
  have haddresses (desc : SCTPSocketDesc) : Anywhere Unmoving AnyHalt (localOrPeerAddresses E desc id peerAddresses) := by
    unfold localOrPeerAddresses
    split <;> infer_instance
  unfold sctp_getlpaddrs
  cases getSocket sockfd with
  | none => infer_instance
  | some slot =>
    refine .seq fun td => ?_
    cases td <;> infer_instance

omit [Rely E Unmoving] in
instance {cmd : FcntlCommand} : Anywhere Unmoving AnyHalt (ext_fcntl E sockfd cmd) := by
  have hset (slot arg : Nat) : Anywhere (L := L) Unmoving AnyHalt (setDesc slot (·.setFlags arg)) :=
    Unmoving.setDesc fun _ => rfl
  unfold ext_fcntl
  cases getSocket sockfd with
  | none => infer_instance
  | some slot =>
    refine .seq fun td => ?_
    cases td with
    | sctp desc => cases cmd <;> infer_instance
    | system fd => infer_instance
    | invalid => infer_instance

omit [Rely E Unmoving] in
instance : Anywhere Unmoving AnyHalt (ext_ioctl E sockfd) := by
  unfold ext_ioctl
  cases getSocket sockfd with
  | none => infer_instance
  | some slot =>
    refine .seq fun td => ?_
    cases td <;> infer_instance

omit [Rely E Unmoving] in
instance {result : Int} : Anywhere Unmoving AnyHalt (otherOption E result sockfd) := by
  unfold otherOption
  cases getSocket sockfd with
  | none => infer_instance
  | some slot =>
    refine .seq fun td => ?_
    cases td <;> infer_instance

/-! ## Messages -/

instance {name : Option (List (Option SocketAddress))} {initMsg : InitMsg} :
    Anywhere Unmoving AnyHalt (sendInit E slot initMsg name) := by
  have hassociate (k : SocketPtr) (address : SocketAddress) (desc : SCTPSocketDesc) : Anywhere Unmoving AnyHalt (do
      let association ← SCTPSocket.associate E k initMsg.numOstreams initMsg.maxAttempts initMsg.maxInitTimeo
        [address] (!desc.nonBlock)
      setDesc slot fun d => { d with sctpAssociationPtr := association }
      match association with
      | some p =>
        release p
        return none
      | none => return some (-ENOTCONN) : Act L (Option Int)) := by
    refine .seq fun association => .seq fun _ => ?_
    cases association <;> infer_instance
  unfold sendInit
  refine .seq fun _ => .seq fun td => ?_
  cases td with
  | sctp desc =>
    cases name with
    | none => infer_instance
    | some addresses =>
      dsimp only
      cases desc.sctpSocketPtr <;> cases addresses.head?.join <;> infer_instance
  | system fd => infer_instance
  | invalid => infer_instance

instance {name : Option (List (Option SocketAddress))} {info : Option SctpSndrcvinfo} {control : List ControlMessage} :
    Anywhere Unmoving AnyHalt (sendControl E slot name info control) := by
  induction control generalizing info with
  | nil => unfold sendControl; infer_instance
  | cons message rest ih =>
    cases message with
    | sndrcv i => exact ih
    | truncatedSndrcv => unfold sendControl; infer_instance
    | init initMsg =>
      unfold sendControl
      refine .seq fun error => ?_
      cases error <;> infer_instance
    | other => exact ih

instance {msg : SendMsgHdr} {buffer : List UInt8} {flags : MsgFlags} :
    Anywhere Unmoving AnyHalt (ext_sendmsg_singlebuffer E sockfd msg buffer flags) := by
  unfold ext_sendmsg_singlebuffer
  cases getSocket sockfd with
  | none => infer_instance
  | some slot =>
    refine .seq fun td => ?_
    cases td with
    | sctp desc =>
      refine .seq fun _ => .seq fun control => ?_
      cases control with
      | error code => infer_instance
      | ok info =>
        refine .seq fun td => ?_
        cases td with
        | sctp desc =>
          dsimp only
          cases msg.name with
          | none => cases desc.sctpAssociationPtr <;> cases desc.sctpSocketPtr <;> infer_instance
          | some name =>
            cases desc.sctpSocketPtr with
            | none => infer_instance
            | some k =>
              dsimp only
              split
              · infer_instance
              · split <;> infer_instance
        | system fd => infer_instance
        | invalid => infer_instance
    | system fd => infer_instance
    | invalid => infer_instance

instance {msg : SendMsgHdr} {iov : List (List UInt8)} {flags : MsgFlags} :
    Anywhere Unmoving AnyHalt (ext_sendmsg E sockfd msg iov flags) := by
  unfold ext_sendmsg
  infer_instance

omit [Rely E Unmoving] in
instance {receive : ReceiveIO → Act L ReceiveResult} [∀ io, Anywhere Unmoving AnyHalt (receive io)] {size : Nat}
    {io : ReceiveIO} : Anywhere Unmoving AnyHalt (receiveUntilDone E receive size io) := by
  have hretrying (n : Nat) (io : ReceiveIO) : Anywhere Unmoving AnyHalt (receiveRetrying receive size io n) := by
    induction n generalizing io with
    | zero => unfold receiveRetrying; infer_instance
    | succ n ih => unfold receiveRetrying; infer_instance
  unfold receiveUntilDone
  infer_instance

instance {msg : RecvMsgHdr} {iovLen : Nat} {flags : MsgFlags} {receiveNotifications : Bool} :
    Anywhere Unmoving AnyHalt (ext_recvmsg_singlebuffer E sockfd msg iovLen flags receiveNotifications) := by
  unfold ext_recvmsg_singlebuffer
  cases getSocket sockfd with
  | none => infer_instance
  | some slot =>
    refine .seq fun td => ?_
    cases td with
    | sctp desc => dsimp only; split <;> infer_instance
    | system fd => infer_instance
    | invalid => infer_instance

instance {msg : RecvMsgHdr} {iov : List Nat} {flags : MsgFlags} {receiveNotifications : Bool} :
    Anywhere Unmoving AnyHalt (ext_recvmsg2 E sockfd msg iov flags receiveNotifications) := by
  have hbuffers (msg : RecvMsgHdr) (result : Int) :
      Anywhere Unmoving AnyHalt (recvBuffers E sockfd flags receiveNotifications msg result iov) := by
    induction iov generalizing msg result with
    | nil => unfold recvBuffers; infer_instance
    | cons length rest ih => unfold recvBuffers; dsimp only; infer_instance
  unfold ext_recvmsg2
  infer_instance

omit [Rely E Unmoving] in
instance : Anywhere Unmoving AnyHalt (ext_recvmsgWithoutBuffers E sockfd) := by
  unfold ext_recvmsgWithoutBuffers
  cases getSocket sockfd with
  | none => infer_instance
  | some slot =>
    refine .seq fun td => ?_
    cases td <;> infer_instance

instance {len : Nat} {fromlen : Option Nat} {sinfo : Option SctpSndrcvinfo} {flags : MsgFlags} :
    Anywhere Unmoving AnyHalt (sctp_recvmsg E sockfd len fromlen sinfo flags) := by
  unfold sctp_recvmsg ext_recvmsg
  dsimp only
  infer_instance

instance : Anywhere Unmoving AnyHalt (SCTPAssociation.shutdown E (notif E) p) := by
  unfold SCTPAssociation.shutdown
  infer_instance

instance : Anywhere Unmoving AnyHalt (ext_shutdown E sockfd) := by
  unfold ext_shutdown
  cases getSocket sockfd with
  | none => infer_instance
  | some slot =>
    refine .seq fun td => ?_
    cases td with
    | sctp desc => dsimp only; cases desc.sctpAssociationPtr <;> infer_instance
    | system fd => infer_instance
    | invalid => infer_instance

/-! ## Selecting -/

omit [Rely E Unmoving] in
instance {c : ConditionRef} {f : Condition → Condition} : Anywhere Unmoving AnyHalt (changeCondition c f : Act L _) := by
  unfold changeCondition
  infer_instance

omit [Rely E Unmoving] in
instance {c parent : ConditionRef} : Anywhere Unmoving AnyHalt (addParent c parent : Act L _) := by
  unfold addParent
  infer_instance

omit [Rely E Unmoving] in
instance {data : SelectData} {fd : Fd} {type : UpdateConditionType} {c : ConditionRef} :
    Anywhere Unmoving AnyHalt (data.addCondition fd type c : Act L _) := by
  unfold SelectData.addCondition
  infer_instance

omit [Rely E Unmoving] in
instance {data : SelectData} {fd : Fd} {type : UpdateConditionType} :
    Anywhere Unmoving AnyHalt (collectSCTP_FDs data fd desc type : Act L _) := by
  have hassociation (p : AssocPtr) : Anywhere (L := L) Unmoving AnyHalt (SCTPAssociation.getUpdateCondition p type) := by
    unfold SCTPAssociation.getUpdateCondition
    cases type <;> infer_instance
  have hsocket (k : SocketPtr) : Anywhere (L := L) Unmoving AnyHalt (SCTPSocket.getUpdateCondition k type) := by
    unfold SCTPSocket.getUpdateCondition
    cases type <;> infer_instance
  unfold collectSCTP_FDs signalWritable
  cases desc.sctpAssociationPtr <;> cases desc.sctpSocketPtr <;> infer_instance

omit [Rely E Unmoving] in
theorem anywhere_forM {α : Type} {f : α → Act L PUnit} (hf : ∀ a, Anywhere Unmoving AnyHalt (f a)) (list : List α) :
    Anywhere Unmoving AnyHalt (list.forM f) := by
  induction list with
  | nil => exact inferInstanceAs (Anywhere Unmoving AnyHalt (Pure.pure _ : Act L _))
  | cons a rest ih => exact inferInstanceAs (Anywhere Unmoving AnyHalt (f a >>= fun _ => rest.forM f))

omit [Rely E Unmoving] in
instance {sets : FdSets} {fds : List Fd} {data : SelectData} :
    Anywhere Unmoving AnyHalt (collectAll sets fds data : Act L _) := by
  have hconditions (fd : Fd) (desc : SCTPSocketDesc) (mask : Events) (types : List UpdateConditionType)
      (r : Int × SelectData) : Anywhere (L := L) Unmoving AnyHalt (collectConditions fd desc mask types r) := by
    induction types generalizing r with
    | nil => unfold collectConditions; infer_instance
    | cons t types ih => unfold collectConditions; infer_instance
  have hcallback (data : SelectData) (fd : Fd) (systemSocketID : Int) (mask : Events) :
      Anywhere (L := L) Unmoving AnyHalt (addUserCallback data fd systemSocketID mask) := by
    have hparents := anywhere_forM (L := L) (f := fun t : UpdateConditionType =>
      if anyEvent mask t.bit then addParent (notificationCondition fd) (selectCondition t) else pure ())
      (fun _ => inferInstance) updateConditionTypes
    unfold addUserCallback newCondition
    infer_instance
  have hcollect (data : SelectData) (fd : Fd) (mask : Events) :
      Anywhere (L := L) Unmoving AnyHalt (collectFDs data fd mask) := by
    unfold collectFDs
    refine .seq fun td => ?_
    cases td <;> infer_instance
  induction fds generalizing data with
  | nil => unfold collectAll; infer_instance
  | cons i rest ih => unfold collectAll; infer_instance

theorem moves_waitForEvents {S : SelectEnvironment} {timeout : Option Timeval} {r : Int × SelectData} :
    Moves Unmoving AnyHalt 1 (fun _ => 1) (waitForEvents E S timeout r) := by
  have hdeliver (data : SelectData) (callback : Fd × Events) :
      Anywhere (L := L) Unmoving AnyHalt (deliver S.breakPipe data callback) := by
    have hcallbacks := anywhere_forM (L := L) (f := userCallback S.breakPipe callback)
      (fun u => by unfold userCallback; infer_instance) data.userCallbacks
    unfold deliver
    infer_instance
  have hdeliverAll (callbacks : List (Fd × Events)) (data : SelectData) :
      Anywhere (L := L) Unmoving AnyHalt (callbacks.foldlM (deliver S.breakPipe) data) := by
    induction callbacks generalizing data with
    | nil => exact inferInstanceAs (Anywhere Unmoving AnyHalt (Pure.pure data : Act L _))
    | cons c rest ih =>
      exact inferInstanceAs (Anywhere Unmoving AnyHalt
        (deliver S.breakPipe data c >>= fun data => rest.foldlM (deliver S.breakPipe) data : Act L _))
  have hwait : Anywhere Unmoving AnyHalt (waitGlobal E timeout) := by
    unfold waitGlobal
    cases timeout with
    | none => exact .loop (fun _ _ => inferInstance) E.patience
    | some _ => infer_instance
  unfold waitForEvents
  refine .ite (.bind (.unlock (a := 0)) fun _ => .ite (.bind .lock fun _ => .pure le_rfl) ?_) (.pure le_rfl)
  exact .bind (.anywhere (hdeliverAll _ _)) fun _ => .bind (.anywhere hwait) fun _ => .bind .lock fun _ => .pure le_rfl

theorem moves_selectResults {sets : FdSets} {r : Int × SelectData} :
    Moves Unmoving AnyHalt 1 (fun _ => 0) (selectResults E sets r) := by
  have howner (c : ConditionRef) : Anywhere (L := L) Unmoving AnyHalt (owner c) := by
    unfold owner
    cases c <;> infer_instance
  have hreport (conditions : List CollectedCondition) (r : Nat × FdSets) :
      Anywhere (L := L) Unmoving AnyHalt (reportConditions conditions r) := by
    induction conditions generalizing r with
    | nil => unfold reportConditions; infer_instance
    | cons c rest ih => unfold reportConditions removeParent; infer_instance
  have hreturn (result : Int) : Anywhere (L := L) Unmoving AnyHalt (errnoReturn result) := inferInstance
  unfold selectResults
  exact .bind (.anywhere (hreport _ _)) fun _ => .bind (.unlock (a := 0)) fun _ =>
    .bind (.anywhere (hreturn _)) fun _ => .pure le_rfl

instance {S : SelectEnvironment} {n : Int} {sets : FdSets} {timeout : Option Timeval} :
    Anywhere Unmoving AnyHalt (ext_select E S n sets timeout) := by
  have hnew : Anywhere (L := L) Unmoving AnyHalt (newCondition globalCondition) := by
    unfold newCondition
    infer_instance
  have hparents := anywhere_forM (L := L) (f := fun t : UpdateConditionType => do
    newCondition (selectCondition t)
    addParent (selectCondition t) globalCondition) (fun t => by unfold newCondition; infer_instance) updateConditionTypes
  have hcollect : Anywhere (L := L) Unmoving AnyHalt (collectAll sets (descriptorsBelow n.toNat) {}) := inferInstance
  have hwrapper : Anywhere Unmoving AnyHalt (do
      match select_wrapper (← shared).descriptors sets S.select n timeout with
      | some answer => return answer
      | none => throw .undefinedBehaviour : Act L (Int × FdSets)) := by
    refine .seq fun s => ?_
    cases select_wrapper s.descriptors sets S.select n timeout <;> infer_instance
  have hrunning : Moves Unmoving AnyHalt 0 (fun _ => 0) (do
      lock
      newCondition globalCondition
      updateConditionTypes.forM fun t => do
        newCondition (selectCondition t)
        addParent (selectCondition t) globalCondition
      let r ← collectAll sets (descriptorsBelow n.toNat) {}
      let r ← waitForEvents E S timeout r
      selectResults E sets r) :=
    .bind .lock fun _ => .bind (.anywhere hnew) fun _ => .bind (.anywhere hparents) fun _ =>
      .bind (.anywhere hcollect) fun _ => .bind moves_waitForEvents fun _ => moves_selectResults
  have hlocked := hrunning.keeps
  unfold ext_select
  split <;> assumption

instance {S : SelectEnvironment} {fdlist : List PollFd} {time : Int} :
    Anywhere Unmoving AnyHalt (ext_poll E S fdlist time) := by
  unfold ext_poll
  dsimp only
  split
  · infer_instance
  · split <;> infer_instance

/-! ## The protocol library -/

instance {T : LibraryAccess L} {change : LibraryParameters → LibraryParameters} :
    Anywhere Unmoving AnyHalt (changeLibraryParameters E T change) := by
  unfold changeLibraryParameters
  refine Guarded.locked (.seq fun s => ?_)
  cases T.getLibraryParameters s.stack <;> infer_instance

/-! ## All calls -/

instance : Anywhere Unmoving AnyHalt (openDescriptor E) := by
  unfold openDescriptor
  infer_instance

/-- The calls that make or delete a `SCTPSocket`, or change which one a slot refers to. -/
def Call.moves : Call → Bool
  | .ext_socket .. | .ext_pipe _ | .ext_close _ | .ext_accept .. | .sctp_peeloff .. => true
  | _ => false

theorem call_unmoving (S : SelectEnvironment) (T : LibraryAccess L) {call : Call} (h : call.moves = false) :
    Anywhere Unmoving AnyHalt (call.run E S T) := by
  have hreceive (msg : RecvMsgHdr) (iov : List Nat) (sockfd : Int) (flags : MsgFlags) (receiveNotifications : Bool) :
      Anywhere Unmoving AnyHalt (RecvAllOutcome.result <$> ext_recvmsg2 E sockfd msg iov flags receiveNotifications) :=
    inferInstance
  cases call with
  | ext_open | ext_creat => exact inferInstanceAs (Anywhere Unmoving AnyHalt (openDescriptor E))
  | ext_getsockname sockfd length =>
    exact inferInstanceAs (Anywhere Unmoving AnyHalt (Prod.fst <$> getName E (localAddresses E) sockfd length))
  | ext_getpeername sockfd length =>
    exact inferInstanceAs (Anywhere Unmoving AnyHalt (Prod.fst <$> getName E (remoteAddresses E) sockfd length))
  | ext_getsockoptOther sockfd option =>
    exact inferInstanceAs (Anywhere Unmoving AnyHalt (otherOption E option.getResult sockfd))
  | ext_setsockoptOther sockfd option =>
    exact inferInstanceAs (Anywhere Unmoving AnyHalt (otherOption E option.setResult sockfd))
  | ext_recv | ext_recvfrom | ext_recvmsg | ext_read => exact hreceive _ _ _ _ _
  | ext_write | ext_send | ext_sendto =>
    unfold Call.run
    dsimp only [ext_write, ext_send, ext_sendto]
    infer_instance
  | sctp_sendmsg | sctp_send | sctp_sendx =>
    unfold Call.run
    dsimp only [SocketApi.sctp_sendmsg, SocketApi.sctp_send, SocketApi.sctp_sendx]
    infer_instance
  | sctp_getpaddrs sockfd id =>
    exact inferInstanceAs (Anywhere Unmoving AnyHalt (Prod.fst <$> sctp_getlpaddrs E sockfd id true))
  | sctp_getladdrs sockfd id =>
    exact inferInstanceAs (Anywhere Unmoving AnyHalt (Prod.fst <$> sctp_getlpaddrs E sockfd id false))
  | sctp_isavailable => exact Keeps.pure _
  | sctp_enableOOTBHandling enable =>
    unfold Call.run sctp_enableOOTBHandling enableOOTBHandling
    infer_instance
  | sctp_enableCRC32 enable =>
    unfold Call.run sctp_enableCRC32 enableCRC32
    infer_instance
  | ext_socket | ext_pipe | ext_close | ext_accept | sctp_peeloff => cases h
  | _ => unfold Call.run; infer_instance

end

end SocketApi
