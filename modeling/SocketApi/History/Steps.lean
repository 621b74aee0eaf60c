import SocketApi.Frame.Connecting
import SocketApi.Frame.Receiving
import SocketApi.History.Later

/-!
# Programs whose steps go on from a state

A program goes on from `s₀` if it leaves a later state whenever it is started in one. So does every
change the API makes, with two kinds of changes that depend on what has been read under the lock
just before: the first entry of a queue is taken, or changed after it has been read in part.
-/

namespace SocketApi

open Effect SCTPSocketMaster SCTPSocket Sliding

set_option synthInstance.maxSize 2000

variable {L : Sctplib} {E : Environment L} {α : Type} {s₀ : Shared L}

/-- A step from a state later than `s₀` to one. -/
def GoesOn (s₀ : Shared L) (_ : Bool) (s t : Shared L) : Prop := s₀.Later s → s₀.Later t

theorem Shared.Later.goesOn {b : Bool} {s t : Shared L} (h : s.Later t) : GoesOn s₀ b s t := fun hs => hs.trans h

instance : Stable (GoesOn s₀) AnyHalt where
  refl _ _ := id
  trans h h' := h' ∘ h
  weaken h := h
  absorb _ _ := trivial
  undefined _ := trivial
  endless _ := trivial
  suspended _ := trivial
  calm hcore _ := (Shared.Later.of_core hcore).goesOn
  adjust {s stack} _ := Shared.Later.goesOn (t := { s with stack }) (.of_eq rfl rfl rfl rfl)

section

variable {held : Bool}

theorem within_later {w w' : World L} (h : w.shared.Later w'.shared)
    (hlevel : w.thread.lockLevel ≤ w'.thread.lockLevel) : Within (GoesOn s₀) held w w' :=
  fun _ => ⟨h.goesOn, hlevel⟩

theorem GoesOn.update {f : Shared L → Shared L} (hf : ∀ s : Shared L, s.Later (f s)) :
    Keeps (Within (GoesOn s₀) held) (Stops (GoesOn s₀) AnyHalt held) (update f) :=
  ⟨fun w => within_later (hf w.shared) le_rfl⟩

instance {call : L.State → α × L.State} :
    Keeps (Within (GoesOn s₀) held) (Stops (GoesOn s₀) AnyHalt held) (library call) :=
  ⟨fun _ => within_later (.of_eq rfl rfl rfl rfl) le_rfl⟩

instance {site : AbortSite} :
    Keeps (Within (GoesOn s₀) held) (Stops (GoesOn s₀) AnyHalt held) (throw (.abort site) : Act L α) :=
  ⟨fun _ _ => ⟨trivial, nofun⟩⟩

/-! ## Changes of an association -/

theorem GoesOn.setAssociation {p : AssocPtr} {f : SCTPAssociation → SCTPAssociation} (hf : ∀ a : SCTPAssociation, a.Later (f a)) :
    Keeps (Within (GoesOn s₀) held) (Stops (GoesOn s₀) AnyHalt held) (setAssociation p f : Act L _) := by
  have : Keeps (Within (GoesOn s₀) held) (Stops (GoesOn s₀) AnyHalt held)
      (SocketApi.update fun w : Shared L => w.setAssociation p f) := GoesOn.update fun _ => .setAssociation fun a _ => hf a
  unfold SocketApi.setAssociation
  infer_instance

/-- Every change of an association outside of its life and its queues. -/
instance {p : AssocPtr} {lastUsage useCount rtoMax initTimeout : SCTPAssociation → Nat}
    {flags : SCTPAssociation → NotificationFlags} {defaults : SCTPAssociation → AssocIODefaults}
    {timeouts : SCTPAssociation → List StreamDefaultTimeout} {closing read write exception init : SCTPAssociation → Bool}
    {addresses : SCTPAssociation → Option (List SocketAddress)} :
    Keeps (Within (GoesOn s₀) held) (Stops (GoesOn s₀) AnyHalt held) (SocketApi.setAssociation p fun a => { a with
      lastUsage := lastUsage a, useCount := useCount a, notificationFlags := flags a, defaults := defaults a
      streamDefaultTimeoutArray := timeouts a, isShuttingDown := closing a, readReady := read a, writeReady := write a
      hasException := exception a, rtoMaxIsInitTimeout := init a, initTimeout := initTimeout a, rtoMax := rtoMax a
      preEstablishmentAddressList := addresses a } : Act L _) :=
  GoesOn.setAssociation fun _ => ⟨rfl, .inl rfl, id, id, id, id, id, .same _, .same _⟩

instance {p : AssocPtr} : Keeps (Within (GoesOn s₀) held) (Stops (GoesOn s₀) AnyHalt held)
    (SocketApi.setAssociation p fun a => { a with communicationUpNotification := true } : Act L _) :=
  GoesOn.setAssociation fun _ => ⟨rfl, .inl rfl, fun _ => rfl, id, id, id, id, .same _, .same _⟩

instance {p : AssocPtr} : Keeps (Within (GoesOn s₀) held) (Stops (GoesOn s₀) AnyHalt held)
    (SocketApi.setAssociation p fun a =>
      { a with communicationLostNotification := true, shutdownCompleteNotification := true } : Act L _) :=
  GoesOn.setAssociation fun _ => ⟨rfl, .inl rfl, id, fun _ => rfl, fun _ => rfl, id, fun _ _ => rfl, .same _, .same _⟩

instance {p : AssocPtr} : Keeps (Within (GoesOn s₀) held) (Stops (GoesOn s₀) AnyHalt held)
    (SocketApi.setAssociation p fun a => { a with
      writeReady := true, readReady := true, hasException := true, shutdownCompleteNotification := true } : Act L _) :=
  GoesOn.setAssociation fun _ => ⟨rfl, .inl rfl, id, id, fun _ => rfl, id, fun _ _ => rfl, .same _, .same _⟩

instance {p : AssocPtr} : Keeps (Within (GoesOn s₀) held) (Stops (GoesOn s₀) AnyHalt held)
    (SocketApi.setAssociation p fun a => { a with peeledOff := true } : Act L _) :=
  GoesOn.setAssociation fun _ => ⟨rfl, .inl rfl, id, id, id, fun _ => rfl, id, .same _, .same _⟩

instance {p : AssocPtr} : Keeps (Within (GoesOn s₀) held) (Stops (GoesOn s₀) AnyHalt held)
    (SocketApi.setAssociation p fun a => { a with associationID := 0 } : Act L _) :=
  GoesOn.setAssociation fun _ => ⟨rfl, .inr rfl, id, id, id, id, id, .same _, .same _⟩

instance {p : AssocPtr} {n : SCTPNotification} : Keeps (Within (GoesOn s₀) held) (Stops (GoesOn s₀) AnyHalt held)
    (SocketApi.setAssociation p fun a => { a with inQueue := a.inQueue.addNotification n } : Act L _) :=
  GoesOn.setAssociation fun a => ⟨rfl, .inl rfl, id, id, id, id, id, .push a.inQueue n, .same _⟩

instance {p : AssocPtr} : Keeps (Within (GoesOn s₀) held) (Stops (GoesOn s₀) AnyHalt held)
    (SocketApi.setAssociation p fun a => { a with inQueue := a.inQueue.dropNotification } : Act L _) :=
  GoesOn.setAssociation fun a => ⟨rfl, .inl rfl, id, id, id, id, id, .tail a.inQueue, .same _⟩

instance {p : AssocPtr} {packet : PreEstablishmentPacket} :
    Keeps (Within (GoesOn s₀) held) (Stops (GoesOn s₀) AnyHalt held) (SocketApi.setAssociation p fun a =>
      { a with preEstablishmentPackets := a.preEstablishmentPackets ++ [packet] } : Act L _) :=
  GoesOn.setAssociation fun a => ⟨rfl, .inl rfl, id, id, id, id, id, .same _, .push a.preEstablishmentPackets packet⟩

instance {p : AssocPtr} : Keeps (Within (GoesOn s₀) held) (Stops (GoesOn s₀) AnyHalt held)
    (SocketApi.setAssociation p fun a =>
      { a with preEstablishmentPackets := a.preEstablishmentPackets.tail } : Act L _) :=
  GoesOn.setAssociation fun a => ⟨rfl, .inl rfl, id, id, id, id, id, .same _, .tail a.preEstablishmentPackets⟩

/-! ## Changes of a socket -/

theorem GoesOn.setSocket {k : SocketPtr} {f : SCTPSocket → SCTPSocket}
    (hqueue : ∀ o, Slides SCTPNotification.Read o.globalQueue (f o).globalQueue)
    (hrequests : ∀ o, (f o).connectionRequests = o.connectionRequests) :
    Keeps (Within (GoesOn s₀) held) (Stops (GoesOn s₀) AnyHalt held) (setSocket k f : Act L _) := by
  have : Keeps (Within (GoesOn s₀) held) (Stops (GoesOn s₀) AnyHalt held)
      (SocketApi.update fun w : Shared L => w.setSocket k f) := by
    refine GoesOn.update fun _ => .setSocket fun o _ => ⟨hqueue o, ?_, ?_⟩
    · rw [hrequests o]
      exact .same _
    · rw [hrequests o]
      exact id
  unfold SocketApi.setSocket
  infer_instance

/-- Every change of a socket outside of its queues. -/
instance {k : SocketPtr} {flags : SCTPSocket → SocketFlags} {list list' : SCTPSocket → Multimap AssocID AssocPtr}
    {name : SCTPSocket → InstanceID} {port ins outs correlation timeout traffic : SCTPSocket → Nat}
    {notifications : SCTPSocket → NotificationFlags} {write read exception recursion check : SCTPSocket → Bool} :
    Keeps (Within (GoesOn s₀) held) (Stops (GoesOn s₀) AnyHalt held) (SocketApi.setSocket k fun o => { o with
      flags := flags o, associationList := list o, connectionlessAssociationList := list' o, instanceName := name o
      localPort := port o, noOfInStreams := ins o, noOfOutStreams := outs o, notificationFlags := notifications o
      correlationID := correlation o, autoCloseTimeout := timeout o, defaultTrafficClass := traffic o
      writeReady := write o, readReady := read o, hasException := exception o, autoCloseRecursion := recursion o
      autoCloseNewCheckRequired := check o } : Act L _) :=
  GoesOn.setSocket (fun _ => .same _) fun _ => rfl

instance {k : SocketPtr} {n : SCTPNotification} : Keeps (Within (GoesOn s₀) held) (Stops (GoesOn s₀) AnyHalt held)
    (SocketApi.setSocket k fun o => { o with globalQueue := o.globalQueue.addNotification n } : Act L _) :=
  GoesOn.setSocket (fun o => .push o.globalQueue n) fun _ => rfl

instance {k : SocketPtr} : Keeps (Within (GoesOn s₀) held) (Stops (GoesOn s₀) AnyHalt held)
    (SocketApi.setSocket k fun o => { o with globalQueue := o.globalQueue.dropNotification } : Act L _) :=
  GoesOn.setSocket (fun o => .tail o.globalQueue) fun _ => rfl

/-- A socket that has been unbound. -/
instance {k : SocketPtr} {flags : SCTPSocket → SocketFlags} :
    Keeps (Within (GoesOn s₀) held) (Stops (GoesOn s₀) AnyHalt held) (SocketApi.setSocket k fun o => { o with
      globalQueue := [], instanceName := 0, correlationID := 0, flags := flags o } : Act L _) :=
  GoesOn.setSocket (fun o => .clear o.globalQueue) fun _ => rfl

/-! ## Other changes -/

instance {socketList : Shared L → Multimap InstanceID SocketPtr} {closingSockets : Shared L → List InstanceID}
    {closingAssociations : Shared L → Multimap AssocID InstanceID} {sendLog : Shared L → List SendRequest}
    {users holders : Shared L → List AssocPtr} :
    Keeps (Within (GoesOn s₀) held) (Stops (GoesOn s₀) AnyHalt held) (update fun w : Shared L => { w with
      socketList := socketList w, closingSockets := closingSockets w, closingAssociations := closingAssociations w
      sendLog := sendLog w, users := users w, holders := holders w }) :=
  GoesOn.update fun _ => .of_eq rfl rfl rfl rfl

instance {p : AssocPtr} : Keeps (Within (GoesOn s₀) held) (Stops (GoesOn s₀) AnyHalt held)
    (update fun w : Shared L => { w with associations := Function.update w.associations p none }) :=
  GoesOn.update fun _ => .deleteAssociation p

instance {k : SocketPtr} : Keeps (Within (GoesOn s₀) held) (Stops (GoesOn s₀) AnyHalt held)
    (update fun w : Shared L => { w with sockets := Function.update w.sockets k none }) :=
  GoesOn.update fun _ => .deleteSocket k

/-! ## New objects -/

theorem later_newAssociation (s : Shared L) {a : SCTPAssociation} (ha : a.Sound) (conditions : ConditionRef → Condition) :
    s.Later { s with
      nextAssociation := s.nextAssociation + 1
      associations := Function.update s.associations s.nextAssociation (some a), conditions } where
  nextAssociation := Nat.le_succ _
  nextSocket := le_rfl
  association p a' ha' := by
    change Function.update s.associations s.nextAssociation (some a) p = some a' at ha'
    by_cases hp : p = s.nextAssociation
    · subst hp
      rw [Function.update_self] at ha'
      cases ha'
      exact .inr ⟨le_rfl, Nat.lt_succ_self _, ha⟩
    · rw [Function.update_of_ne hp] at ha'
      exact .inl ⟨a', ha', .of_core rfl⟩
  socket _ o' ho' := .inl ⟨o', ho', .of_core rfl (Nat.le_succ _)⟩

instance [Rely E (GoesOn s₀)] {k : SocketPtr} {id : AssocID} {flags : NotificationFlags} {udpLike : Bool} :
    Keeps (Within (GoesOn s₀) held) (Stops (GoesOn s₀) AnyHalt held) (SCTPAssociation.new E k id flags udpLike) := by
  refine ⟨fun w => ?_⟩
  unfold SCTPAssociation.new
  rw [post_bind, post_shared]
  dsimp only
  rw [post_bind, post_update]
  have hrest : Keeps (Within (GoesOn s₀) held) (Stops (GoesOn s₀) AnyHalt held) (do
      locked E (setSocket k fun o =>
        { o with associationList := o.associationList.insert id w.shared.nextAssociation })
      return w.shared.nextAssociation : Act L AssocPtr) := inferInstance
  exact hrest.after (within_later (later_newAssociation w.shared Bool.noConfusion _) le_rfl)

theorem later_newSocket (s : Shared L) {o : SCTPSocket} (ho : o.connectionRequests = []) {conditions : ConditionRef → Condition} :
    s.Later { s with
      nextSocket := s.nextSocket + 1
      sockets := Function.update s.sockets s.nextSocket (some o), conditions } where
  nextAssociation := le_rfl
  nextSocket := Nat.le_succ _
  association _ a' ha' := .inl ⟨a', ha', .of_core rfl⟩
  socket k o' ho' := by
    change Function.update s.sockets s.nextSocket (some o) k = some o' at ho'
    by_cases hk : k = s.nextSocket
    · subst hk
      rw [Function.update_self] at ho'
      cases ho'
      refine .inr ⟨le_rfl, Nat.lt_succ_self _, ?_⟩
      rw [ho]
      exact ⟨List.Pairwise.nil, List.forall_mem_nil _⟩
    · rw [Function.update_of_ne hk] at ho'
      exact .inl ⟨o', ho', .of_core rfl le_rfl⟩

instance {family : Family} {flags : SocketFlags} :
    Keeps (Within (GoesOn s₀) held) (Stops (GoesOn s₀) AnyHalt held) (SCTPSocket.new family flags : Act L _) :=
  ⟨fun w => within_later (later_newSocket w.shared rfl) le_rfl⟩

end

end SocketApi
