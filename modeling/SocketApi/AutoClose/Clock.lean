import SocketApi.Frame.Receiving

/-!
# Times of use

An association is stamped with the clock when it is made, when something is sent over it and when
something is received from it. While no clock reading is smaller than an earlier one, no stamp is
ahead of the clock.
-/

namespace SocketApi

open Effect SCTPSocketMaster SCTPSocket

set_option synthInstance.maxSize 2000

variable {L : Sctplib} {E : Environment L} {α : Type}

/-- What `SCTP_AUTOCLOSE` makes of a number of seconds. -/
def Settable (timeout : Nat) : Prop := ∃ seconds : UInt32, timeout = 1000000 * seconds.toNat

/-- No stamp is ahead of the clock. -/
structure Timely (s : Shared L) : Prop where
  clock : s.now < 2 ^ 64
  lastUsage : ∀ p a, s.associations p = some a → a.lastUsage ≤ s.now
  timeout : ∀ k o, s.sockets k = some o → Settable o.autoCloseTimeout

/-- A step that keeps the stamps behind the clock; with the master locked no time passes. -/
structure TimeStep (b : Bool) (s t : Shared L) : Prop where
  now : b = true → t.now = s.now
  kept : Timely s → Timely t

theorem Shared.Timed.step {b : Bool} {s t : Shared L} (h : s.Timed t) : TimeStep b s t where
  now _ := h.now
  kept hs := by
    refine ⟨h.now ▸ hs.clock, fun p a' ha' => ?_, fun k o' ho' => ?_⟩
    · rw [h.now]
      rcases h.lastUsage p a' ha' with hnow | ⟨a, ha, hlast⟩
      · exact hnow.le
      · exact hlast ▸ hs.lastUsage p a ha
    · obtain ⟨o, ho, htimeout⟩ := h.timeout k o' ho'
      exact htimeout ▸ hs.timeout k o ho

theorem timeStep_of_eq {b : Bool} {s t : Shared L} (hnow : t.now = s.now) (ha : t.associations = s.associations)
    (hs : t.sockets = s.sockets) : TimeStep b s t := (timed_of_eq hnow ha hs).step

instance : Stable (TimeStep (L := L)) AnyHalt where
  refl _ _ := ⟨fun _ => rfl, id⟩
  trans h h' := ⟨fun hb => (h'.now hb).trans (h.now hb), fun hs => h'.kept (h.kept hs)⟩
  weaken h := ⟨nofun, h.kept⟩
  absorb _ _ := trivial
  undefined _ := trivial
  endless _ := trivial
  suspended _ := trivial
  calm _ htimed := htimed.step
  adjust _ := timeStep_of_eq rfl rfl rfl

/-! ## Changes that leave the stamps alone -/

section

variable {held : Bool}

theorem TimeStep.update {f : Shared L → Shared L} (hf : ∀ s : Shared L, s.Timed (f s)) :
    Keeps (Within TimeStep held) (Stops TimeStep AnyHalt held) (update f) :=
  ⟨fun w _ => ⟨(hf w.shared).step, le_rfl⟩⟩

instance {call : L.State → α × L.State} : Keeps (Within TimeStep held) (Stops TimeStep AnyHalt held) (library call) :=
  ⟨fun _ _ => ⟨timeStep_of_eq rfl rfl rfl, le_rfl⟩⟩

instance {site : AbortSite} :
    Keeps (Within TimeStep held) (Stops (TimeStep (L := L)) AnyHalt held) (throw (.abort site) : Act L α) :=
  ⟨fun _ _ => ⟨trivial, nofun⟩⟩

theorem TimeStep.setAssociation {p : AssocPtr} {f : SCTPAssociation → SCTPAssociation}
    (hf : ∀ a, (f a).lastUsage = a.lastUsage) :
    Keeps (Within TimeStep held) (Stops TimeStep AnyHalt held) (setAssociation p f : Act L _) := by
  have : Keeps (Within TimeStep held) (Stops TimeStep AnyHalt held) (SocketApi.update fun w : Shared L => w.setAssociation p f) :=
    TimeStep.update fun w => timed_setAssociation w p fun a => .inl (hf a)
  unfold SocketApi.setAssociation
  infer_instance

theorem TimeStep.setSocket {s : SocketPtr} {f : SCTPSocket → SCTPSocket}
    (hf : ∀ o, (f o).autoCloseTimeout = o.autoCloseTimeout) :
    Keeps (Within TimeStep held) (Stops TimeStep AnyHalt held) (setSocket s f : Act L _) := by
  have : Keeps (Within TimeStep held) (Stops TimeStep AnyHalt held) (SocketApi.update fun w : Shared L => w.setSocket s f) :=
    TimeStep.update fun w => timed_setSocket w s hf
  unfold SocketApi.setSocket
  infer_instance

/-- Every change of an association but of its stamp. -/
instance {p : AssocPtr} {id : SCTPAssociation → AssocID} {queue : SCTPAssociation → SCTPNotificationQueue}
    {useCount rtoMax initTimeout : SCTPAssociation → Nat} {up lost complete read write exception peeled init : SCTPAssociation → Bool}
    {packets : SCTPAssociation → List PreEstablishmentPacket} {addresses : SCTPAssociation → Option (List SocketAddress)} :
    Keeps (Within TimeStep held) (Stops TimeStep AnyHalt held) (SocketApi.setAssociation p fun a => { a with
      associationID := id a, inQueue := queue a, useCount := useCount a, communicationUpNotification := up a
      communicationLostNotification := lost a, shutdownCompleteNotification := complete a, readReady := read a
      writeReady := write a, hasException := exception a, rtoMaxIsInitTimeout := init a, initTimeout := initTimeout a
      rtoMax := rtoMax a, preEstablishmentPackets := packets a, preEstablishmentAddressList := addresses a
      peeledOff := peeled a } : Act L _) := TimeStep.setAssociation fun _ => rfl

/-- Every change of a socket but of its timeout. -/
instance {s : SocketPtr} {flags : SCTPSocket → SocketFlags} {queue : SCTPSocket → SCTPNotificationQueue}
    {requests : SCTPSocket → List IncomingConnection} {list list' : SCTPSocket → Multimap AssocID AssocPtr}
    {read : SCTPSocket → Bool} :
    Keeps (Within TimeStep held) (Stops TimeStep AnyHalt held) (SocketApi.setSocket s fun o => { o with
      flags := flags o, globalQueue := queue o, connectionRequests := requests o, associationList := list o
      connectionlessAssociationList := list' o, readReady := read o } : Act L _) := TimeStep.setSocket fun _ => rfl

/-- Every change outside of the associations and sockets. -/
instance {socketList : Shared L → Multimap InstanceID SocketPtr} {closingSockets : Shared L → List InstanceID}
    {closingAssociations : Shared L → Multimap AssocID InstanceID} {sendLog : Shared L → List SendRequest}
    {users holders : Shared L → List AssocPtr} :
    Keeps (Within TimeStep held) (Stops TimeStep AnyHalt held) (update fun w : Shared L => { w with
      socketList := socketList w, closingSockets := closingSockets w, closingAssociations := closingAssociations w
      sendLog := sendLog w, users := users w, holders := holders w }) :=
  TimeStep.update fun _ => timed_of_eq rfl rfl rfl

instance {p : AssocPtr} : Keeps (Within TimeStep held) (Stops TimeStep AnyHalt held)
    (update fun w : Shared L => { w with associations := Function.update w.associations p none }) := by
  refine TimeStep.update fun s => ⟨rfl, fun q a ha => ?_, fun _ o ho => ⟨o, ho, rfl⟩⟩
  dsimp only at ha
  by_cases hq : q = p
  · subst hq
    rw [Function.update_self] at ha
    cases ha
  · rw [Function.update_of_ne hq] at ha
    exact .inr ⟨a, ha, rfl⟩

/-- A new association is stamped. -/
instance [Rely E (TimeStep (L := L))] {s : SocketPtr} {id : AssocID} {flags : NotificationFlags} {udpLike : Bool} :
    Keeps (Within TimeStep held) (Stops TimeStep AnyHalt held) (SCTPAssociation.new E s id flags udpLike) := by
  refine ⟨fun w => ?_⟩
  unfold SCTPAssociation.new
  rw [post_bind, post_shared]
  dsimp only
  rw [post_bind, post_update]
  have hrest : Keeps (Within TimeStep held) (Stops TimeStep AnyHalt held) (do
      locked E (setSocket s fun o =>
        { o with associationList := o.associationList.insert id w.shared.nextAssociation })
      return w.shared.nextAssociation : Act L AssocPtr) := inferInstance
  refine hrest.after fun _ => ⟨Shared.Timed.step ⟨rfl, fun q a ha => ?_, fun _ o ho => ⟨o, ho, rfl⟩⟩, le_rfl⟩
  dsimp only at ha
  by_cases hq : q = w.shared.nextAssociation
  · subst hq
    rw [Function.update_self] at ha
    cases ha
    exact .inl rfl
  · rw [Function.update_of_ne hq] at ha
    exact .inr ⟨a, ha, rfl⟩

end

/-- The association is stamped, then something else is done. -/
theorem keeps_stamp {held : Bool} {p : AssocPtr} {rest : Act L α}
    (hrest : Keeps (Within TimeStep held) (Stops TimeStep AnyHalt held) rest) :
    Keeps (Within TimeStep held) (Stops TimeStep AnyHalt held) (do
      let now := (← shared).now
      setAssociation p fun a => { a with lastUsage := now }
      rest) := by
  have hstamp : Keeps (Within TimeStep held) (Stops (TimeStep (L := L)) AnyHalt held) (do
      (do
        let now := (← shared).now
        setAssociation p fun a => { a with lastUsage := now })
      rest) := .seq fun _ => hrest
  simpa only [bind_assoc] using hstamp

/-! ## The parts of the calls -/

instance : Ends (TimeStep (L := L)) where
  Due _ _ _ := True
  lasting _ _ := trivial
  shutdown _ _ := ⟨timeStep_of_eq rfl rfl rfl, fun _ _ => trivial⟩
  abort _ _ := ⟨timeStep_of_eq rfl rfl rfl, fun _ _ => trivial⟩

instance {s : SocketPtr} {id : AssocID} {n : SCTPNotification} :
    UnderLock (L := L) TimeStep AnyHalt (addNotification E s id n) := by
  unfold addNotification
  refine .seq fun found => ?_
  cases found <;> infer_instance

variable [Rely E (TimeStep (L := L))]

section

variable {deliver : Deliver L} [Delivers TimeStep AnyHalt deliver]

instance {p : AssocPtr} {a : SCTPAssociation} :
    UnderLock TimeStep AnyHalt (SCTPAssociation.destructorShutdown E deliver p a) := by
  unfold SCTPAssociation.destructorShutdown SCTPSocketMaster.delayedDeleteAssociation
  infer_instance

omit [Rely E (TimeStep (L := L))] in
instance {a : SCTPAssociation} : UnderLock TimeStep AnyHalt (SCTPAssociation.destructorUnlist a : Act L _) := by
  unfold SCTPAssociation.destructorUnlist
  refine .seq fun o => ?_
  cases o.associationList.find a.associationID <;> infer_instance

omit [Rely E (TimeStep (L := L))] in
instance {list : List InstanceID} : UnderLock TimeStep AnyHalt (unregisterUnused list : Act L _) := by
  induction list with
  | nil => unfold unregisterUnused; infer_instance
  | cons i rest ih => unfold unregisterUnused; infer_instance

instance {p : AssocPtr} : Anywhere TimeStep AnyHalt (SCTPAssociation.delete E deliver p) := by
  unfold SCTPAssociation.delete SCTPAssociation.destructor
  infer_instance

end

instance : Closing E (TimeStep (L := L)) AnyHalt where
  delete _ _ := inferInstance
  reclaim _ _ _ w _ := by
    unfold SCTPSocket.reclaim
    exact Keeps.post w
  unregister := inferInstance
  collect _ := Keeps.post _

instance : Ending E (TimeStep (L := L)) AnyHalt where
  lose {_ _ _ w} _ _ := by
    unfold loseAssociation
    exact Keeps.post w
  complete {_ _ _ w} _ _ := by
    unfold completeShutdown
    exact Keeps.post w

instance : Sends (TimeStep (L := L)) AnyHalt where
  attempt id buffer params a := by
    unfold SCTPSocket.sendAttempt
    dsimp only
    infer_instance
  append _ _ := inferInstance
  tail _ := inferInstance

instance {s : SocketPtr} {withAddresses : Bool} :
    UnderLock (L := L) TimeStep AnyHalt (takeRequest E s withAddresses) := by
  unfold takeRequest hold
  refine .seq fun o => ?_
  cases o.connectionRequests <;> infer_instance

omit [Rely E (TimeStep (L := L))] in
instance {s : SocketPtr} {p : AssocPtr} : UnderLock (L := L) TimeStep AnyHalt (addConnectionless s p) := by
  unfold addConnectionless release
  infer_instance

instance : Accepts E (TimeStep (L := L)) AnyHalt where
  take _ _ := inferInstance
  acceptIncoming _ := underLock_acceptIncoming inferInstance (fun _ => inferInstance) fun _ => inferInstance

instance : Connects E (TimeStep (L := L)) AnyHalt where
  associateBegin s streams attempts timeout addresses := by
    unfold associateBegin associateID hold enter
    infer_instance
  associateEnd p := by unfold leave; infer_instance
  enter p := by unfold enter; infer_instance
  leave p := by unfold leave; infer_instance
  release p := by unfold release; infer_instance
  connect s p := by unfold enter; infer_instance
  unlist s p := by infer_instance
  sendToEnd p := by
    have hrest : UnderLock (L := L) TimeStep AnyHalt (do
        if (← associationAt p).useCount = 0 then throw (.abort .sendUseCount)
        setAssociation p fun a => { a with useCount := a.useCount - 1 }
        leave p) := by
      unfold leave
      infer_instance
    have : UnderLock (L := L) TimeStep AnyHalt (do
        let now := (← shared).now
        setAssociation p fun a => { a with lastUsage := now }
        if (← associationAt p).useCount = 0 then throw (.abort .sendUseCount)
        setAssociation p fun a => { a with useCount := a.useCount - 1 }
        leave p) := keeps_stamp hrest
    unfold sendToEnd
    infer_instance

omit [Rely E (TimeStep (L := L))] in
instance {queue : QueueRef} {f : SCTPNotificationQueue → SCTPNotificationQueue} :
    Anywhere (L := L) TimeStep AnyHalt (queue.modify f) := by
  cases queue <;> unfold QueueRef.modify <;> infer_instance

instance : Receives E (TimeStep (L := L)) AnyHalt where
  library _ _ _ _ := inferInstance
  modify _ _ := inferInstance
  unexpected := inferInstance
  drop s queue id := by
    unfold dropHead
    refine .seq fun _ => .seq fun found => ?_
    cases found with
    | none => infer_instance
    | some p =>
      refine keeps_stamp ?_
      infer_instance

/-! ## Sockets -/

theorem settable_default (family : Family) (flags : SocketFlags) :
    Settable (SCTPSocket.autoCloseTimeout { family, flags }) := ⟨30, rfl⟩

omit [Rely E (TimeStep (L := L))] in
instance {family : Family} {flags : SocketFlags} :
    Anywhere (L := L) TimeStep AnyHalt (SCTPSocket.new family flags) := by
  refine ⟨fun w _ => ⟨⟨fun _ => rfl, fun h => ⟨h.clock, h.lastUsage, fun k o ho => ?_⟩⟩, le_rfl⟩⟩
  change Function.update w.shared.sockets w.shared.nextSocket (some { family, flags }) k = some o at ho
  by_cases hk : k = w.shared.nextSocket
  · subst hk
    rw [Function.update_self] at ho
    cases ho
    exact settable_default family flags
  · rw [Function.update_of_ne hk] at ho
    exact h.timeout k o ho

omit [Rely E (TimeStep (L := L))] in
/-- Every change of a socket that is bound or unbound. -/
instance {held : Bool} {s : SocketPtr} {queue : SCTPSocket → SCTPNotificationQueue} {id : SCTPSocket → InstanceID}
    {port ins outs correlation : SCTPSocket → Nat} {flags : SCTPSocket → SocketFlags} :
    Keeps (Within TimeStep held) (Stops TimeStep AnyHalt held) (SocketApi.setSocket s fun o => { o with
      globalQueue := queue o, instanceName := id o, localPort := port o, noOfInStreams := ins o
      noOfOutStreams := outs o, correlationID := correlation o, flags := flags o } : Act L _) :=
  TimeStep.setSocket fun _ => rfl

instance {s : SocketPtr} {sendAbort : Bool} : Anywhere (L := L) TimeStep AnyHalt (unbind E s sendAbort) := by
  have hconnectionless (n : Nat) :
      UnderLock (L := L) TimeStep AnyHalt (loop .waiting (unbindConnectionless E s sendAbort) n) := by
    refine .loop (fun rest _ => ?_) n
    unfold unbindConnectionless
    refine .seq fun o => ?_
    cases o.connectionlessAssociationList <;> infer_instance
  have hassociations (n : Nat) :
      UnderLock (L := L) TimeStep AnyHalt (loop .waiting (unbindAssociations E s sendAbort) n) := by
    refine .loop (fun rest _ => ?_) n
    unfold unbindAssociations
    refine .seq fun o => ?_
    cases o.associationList <;> infer_instance
  have hrequests (n : Nat) : UnderLock (L := L) TimeStep AnyHalt (loop .waiting (unbindRequests E s) n) := by
    refine .loop (fun rest _ => ?_) n
    unfold unbindRequests
    refine .seq fun o => ?_
    cases o.connectionRequests <;> infer_instance
  have hinstance : UnderLock (L := L) TimeStep AnyHalt (unbindInstance s) := by
    unfold unbindInstance SCTPSocketMaster.delayedDeleteSocket
    refine .seq fun o => .seq fun w => ?_
    cases w.socketList.find o.instanceName <;> infer_instance
  unfold unbind unbindLocked
  infer_instance

instance {s : SocketPtr} : Anywhere (L := L) TimeStep AnyHalt (SCTPSocket.delete E s) := by
  have : Anywhere (L := L) TimeStep AnyHalt (update fun w : Shared L => { w with sockets := Function.update w.sockets s none }) := by
    refine TimeStep.update fun t => ⟨rfl, fun _ a ha => .inr ⟨a, ha, rfl⟩, fun k o ho => ?_⟩
    dsimp only at ho
    by_cases hk : k = s
    · subst hk
      rw [Function.update_self] at ho
      cases ho
    · rw [Function.update_of_ne hk] at ho
      exact ⟨o, ho, rfl⟩
  unfold SCTPSocket.delete
  infer_instance

instance {s : SocketPtr} {port ins outs : Nat} {addresses : List SocketAddress} :
    Anywhere (L := L) TimeStep AnyHalt (SCTPSocket.bind E s port ins outs addresses) := by
  have hrandom (hosts : List String) (n i : Nat) :
      UnderLock (L := L) TimeStep AnyHalt (registerRandomPort E s ins outs hosts n i) := by
    induction n generalizing i with
    | zero => unfold registerRandomPort; infer_instance
    | succ n ih => unfold registerRandomPort; infer_instance
  have hport (hosts : List String) : UnderLock (L := L) TimeStep AnyHalt (registerPort E s port ins outs hosts) := by
    unfold registerPort
    infer_instance
  have hlocked : UnderLock (L := L) TimeStep AnyHalt (bindLocked E s port ins outs addresses) := by
    unfold bindLocked
    dsimp only
    split
    · infer_instance
    · split
      · infer_instance
      · split <;> infer_instance
  unfold SCTPSocket.bind
  infer_instance

instance {s : SocketPtr} {id : AssocID} : Anywhere (L := L) TimeStep AnyHalt (peelOff E s id) := by
  unfold peelOff hold
  refine Guarded.locked (.seq fun o => ?_)
  cases o.connectionlessAssociationList.find id <;> infer_instance

end SocketApi
