import SocketApi.Messages
import SocketApi.Lib.Keeps

/-!
# What most functions leave alone

The core of the state is the part that invariants are about. A `Quiet` relation contains every
change outside of the core, and the calls of the library about parameters; for a `Guarded` one
a locked section is as good as its body.
-/

namespace SocketApi

open Effect

set_option synthInstance.maxSize 2000

variable {L : Sctplib} {E : Environment L} {α β : Type}

/-! ## The core of the state -/

def SCTPAssociation.core (a : SCTPAssociation) : SCTPAssociation where
  socket := a.socket
  associationID := a.associationID
  inQueue := a.inQueue
  useCount := a.useCount
  notificationFlags := a.notificationFlags
  peeledOff := a.peeledOff
  communicationUpNotification := a.communicationUpNotification
  communicationLostNotification := a.communicationLostNotification
  shutdownCompleteNotification := a.shutdownCompleteNotification
  readReady := a.readReady
  writeReady := a.writeReady
  preEstablishmentPackets := a.preEstablishmentPackets

def SCTPSocket.core (o : SCTPSocket) : SCTPSocket where
  flags := { globalQueue := o.flags.globalQueue, autoConnect := o.flags.autoConnect }
  globalQueue := o.globalQueue
  connectionRequests := o.connectionRequests
  associationList := o.associationList
  connectionlessAssociationList := o.connectionlessAssociationList
  instanceName := o.instanceName
  notificationFlags := o.notificationFlags
  readReady := o.readReady

/-- Objects, ownership, queues and readiness; not the parameters of objects, times, conditions
and the flags of functions that are running. -/
def Shared.core (w : Shared L) : Shared L where
  stack := w.stack
  sockets s := (w.sockets s).map SCTPSocket.core
  nextSocket := w.nextSocket
  associations p := (w.associations p).map SCTPAssociation.core
  nextAssociation := w.nextAssociation
  socketList := w.socketList
  closingSockets := w.closingSockets
  closingAssociations := w.closingAssociations
  descriptors := w.descriptors
  openFDs := w.openFDs
  sendLog := w.sendLog
  users := w.users
  holders := w.holders

theorem core_setAssociation (w : Shared L) (p : AssocPtr) {f : SCTPAssociation → SCTPAssociation}
    (hf : ∀ a, (f a).core = a.core) : (w.setAssociation p f).core = w.core := by
  have h : (fun q => (Function.update w.associations p ((w.associations p).map f) q).map SCTPAssociation.core) =
      fun q => (w.associations q).map SCTPAssociation.core := by
    funext q
    simp only [Function.update_apply]
    split
    · subst q
      cases w.associations p with
      | none => rfl
      | some a => exact congrArg some (hf a)
    · rfl
  simp only [Shared.core, Shared.setAssociation, h]

theorem core_setSocket (w : Shared L) (s : SocketPtr) {f : SCTPSocket → SCTPSocket}
    (hf : ∀ o, (f o).core = o.core) : (w.setSocket s f).core = w.core := by
  have h : (fun t => (Function.update w.sockets s ((w.sockets s).map f) t).map SCTPSocket.core) =
      fun t => (w.sockets t).map SCTPSocket.core := by
    funext t
    simp only [Function.update_apply]
    split
    · subst t
      cases w.sockets s with
      | none => rfl
      | some o => exact congrArg some (hf o)
    · rfl
  simp only [Shared.core, Shared.setSocket, h]

/-- The clock and the times that are compared with it, besides what is stamped with the clock. -/
structure Shared.Timed (w w' : Shared L) : Prop where
  now : w'.now = w.now
  lastUsage : ∀ p a', w'.associations p = some a' → a'.lastUsage = w.now ∨
    ∃ a, w.associations p = some a ∧ a'.lastUsage = a.lastUsage
  timeout : ∀ s o', w'.sockets s = some o' → ∃ o, w.sockets s = some o ∧ o'.autoCloseTimeout = o.autoCloseTimeout

theorem timed_of_eq {w w' : Shared L} (hnow : w'.now = w.now) (ha : w'.associations = w.associations)
    (hs : w'.sockets = w.sockets) : w.Timed w' where
  now := hnow
  lastUsage _ a h := .inr ⟨a, ha ▸ h, rfl⟩
  timeout _ o h := ⟨o, hs ▸ h, rfl⟩

theorem timed_setAssociation (w : Shared L) (p : AssocPtr) {f : SCTPAssociation → SCTPAssociation}
    (hf : ∀ a, (f a).lastUsage = a.lastUsage ∨ (f a).lastUsage = w.now) : w.Timed (w.setAssociation p f) where
  now := rfl
  lastUsage q a' ha' := by
    unfold Shared.setAssociation at ha'
    dsimp only at ha'
    by_cases hq : q = p
    · subst hq
      rw [Function.update_self] at ha'
      obtain ⟨a, ha, rfl⟩ := Option.map_eq_some_iff.mp ha'
      rcases hf a with h | h
      · exact .inr ⟨a, ha, h⟩
      · exact .inl h
    · rw [Function.update_of_ne hq] at ha'
      exact .inr ⟨a', ha', rfl⟩
  timeout _ o h := ⟨o, h, rfl⟩

theorem timed_setSocket (w : Shared L) (s : SocketPtr) {f : SCTPSocket → SCTPSocket}
    (hf : ∀ o, (f o).autoCloseTimeout = o.autoCloseTimeout) : w.Timed (w.setSocket s f) where
  now := rfl
  lastUsage _ a h := .inr ⟨a, h, rfl⟩
  timeout k o' ho' := by
    unfold Shared.setSocket at ho'
    dsimp only at ho'
    by_cases hk : k = s
    · subst hk
      rw [Function.update_self] at ho'
      obtain ⟨o, ho, rfl⟩ := Option.map_eq_some_iff.mp ho'
      exact ⟨o, ho, hf o⟩
    · rw [Function.update_of_ne hk] at ho'
      exact ⟨o', ho', rfl⟩

/-! ## Quiet relations -/

class Quiet (S : World L → World L → Prop) (T : Halt → World L → World L → Prop) : Prop extends Steps S T where
  undefined : ∀ w, T .undefinedBehaviour w w
  endless : ∀ w, T .waiting w w
  calm : ∀ {w w' : World L}, w'.thread = w.thread → w'.shared.core = w.shared.core → w.shared.Timed w'.shared → S w w'
  adjust : ∀ {w : World L} {stack : L.State}, L.Adjusts w.shared.stack stack →
    S w { w with shared := { w.shared with stack } }

section

variable {S : World L → World L → Prop} {T : Halt → World L → World L → Prop} [Quiet S T]

instance : Keeps S T (shared (L := L)) where
  post w := Steps.refl T w

instance : Keeps S T (throw .undefinedBehaviour : Act L α) := ⟨Quiet.undefined S⟩
instance : Keeps S T (throw .waiting : Act L α) := ⟨Quiet.endless S⟩

theorem Quiet.update {f : Shared L → Shared L} (hf : ∀ w, (f w).core = w.core)
    (htimed : ∀ w : Shared L, w.Timed (f w)) :
    Keeps S T (update f) where
  post w := Quiet.calm T rfl (hf w.shared) (htimed w.shared)

theorem Quiet.library {call : L.State → α × L.State} (h : ∀ s, L.Adjusts s (call s).2) : Keeps S T (library call) where
  post w := Quiet.adjust T (h w.shared.stack)

instance {p : AssocPtr} : Keeps S T (associationAt p : Act L _) := by
  unfold associationAt
  refine .seq fun w => ?_
  cases w.associations p <;> infer_instance

instance {s : SocketPtr} : Keeps S T (socketAt s : Act L _) := by
  unfold socketAt
  refine .seq fun w => ?_
  cases w.sockets s <;> infer_instance

theorem Quiet.setAssociation {p : AssocPtr} {f : SCTPAssociation → SCTPAssociation} (hf : ∀ a, (f a).core = a.core)
    (hlast : ∀ a, (f a).lastUsage = a.lastUsage) : Keeps S T (setAssociation p f : Act L _) := by
  have := Quiet.update (S := S) (T := T) (fun w : Shared L => core_setAssociation w p hf) fun w =>
    timed_setAssociation w p fun a => .inl (hlast a)
  unfold SocketApi.setAssociation
  infer_instance

/-- An association is stamped with the time of its use. -/
instance {p : AssocPtr} : Keeps S T (do
    let now := (← shared).now
    setAssociation p fun a => { a with lastUsage := now } : Act L Unit) := by
  refine ⟨fun w => ?_⟩
  rw [post_bind, post_shared, post_setAssociation]
  cases ha : w.shared.associations p with
  | none => exact Quiet.undefined S w
  | some a =>
    refine Quiet.calm T rfl (core_setAssociation w.shared p fun _ => ?_) (timed_setAssociation w.shared p fun _ => .inr ?_)
    · rfl
    · rfl

theorem Quiet.setSocket {s : SocketPtr} {f : SCTPSocket → SCTPSocket} (hf : ∀ o, (f o).core = o.core)
    (htimeout : ∀ o, (f o).autoCloseTimeout = o.autoCloseTimeout) : Keeps S T (setSocket s f : Act L _) := by
  have := Quiet.update (S := S) (T := T) (fun w : Shared L => core_setSocket w s hf) fun w =>
    timed_setSocket w s htimeout
  unfold SocketApi.setSocket
  infer_instance

/-- Every change of an association outside of its core. -/
instance {p : AssocPtr} {rtoMax initTimeout : SCTPAssociation → Nat} {defaults : SCTPAssociation → AssocIODefaults}
    {timeouts : SCTPAssociation → List StreamDefaultTimeout} {down exception init : SCTPAssociation → Bool}
    {addresses : SCTPAssociation → Option (List SocketAddress)} :
    Keeps S T (SocketApi.setAssociation p fun a => { a with
      defaults := defaults a, streamDefaultTimeoutArray := timeouts a
      isShuttingDown := down a, hasException := exception a, rtoMaxIsInitTimeout := init a
      initTimeout := initTimeout a, rtoMax := rtoMax a
      preEstablishmentAddressList := addresses a } : Act L _) := Quiet.setAssociation (fun _ => rfl) fun _ => rfl

/-- Every change of a socket outside of its core. -/
instance {s : SocketPtr} {family : SCTPSocket → Family}
    {localPort inStreams outStreams correlationID trafficClass : SCTPSocket → Nat}
    {listening write exception recursion check : SCTPSocket → Bool} :
    Keeps S T (SocketApi.setSocket s fun o => { o with
      family := family o, flags := { o.flags with listening := listening o }
      localPort := localPort o, noOfInStreams := inStreams o, noOfOutStreams := outStreams o
      correlationID := correlationID o, defaultTrafficClass := trafficClass o
      writeReady := write o, hasException := exception o
      autoCloseRecursion := recursion o, autoCloseNewCheckRequired := check o } : Act L _) :=
  Quiet.setSocket (fun _ => rfl) fun _ => rfl

instance {c : ConditionRef} : Keeps S T (broadcast c : Act L _) := by
  unfold broadcast
  refine Quiet.update (fun w => ?_) fun w => ?_
  · obtain ⟨conditions, h⟩ := w.fire_eq parentDepth c
    rw [h]
    rfl
  · obtain ⟨conditions, h⟩ := w.fire_eq parentDepth c
    rw [h]
    exact timed_of_eq rfl rfl rfl

instance {c : ConditionRef} : Keeps S T (fired c : Act L _) := by
  have (f : Shared L → ConditionRef → Condition) : Keeps S T (update fun w => { w with conditions := f w }) :=
    Quiet.update (fun _ => rfl) fun _ => timed_of_eq rfl rfl rfl
  unfold fired
  infer_instance

/-! ## Calls of the library -/

instance {id : AssocID} {status : AssociationStatus} : Keeps S T (library (L.setAssocStatus · id status)) :=
  Quiet.library fun _ => .setAssocStatus id status
instance {i : InstanceID} {parameters : InstanceParameters} : Keeps S T (library (L.setAssocDefaults · i parameters)) :=
  Quiet.library fun _ => .setAssocDefaults i parameters
instance {id : AssocID} {index : Int} : Keeps S T (library (L.setPrimary · id index)) :=
  Quiet.library fun _ => .setPrimary id index
instance {id : AssocID} {address : String} : Keeps S T (library (L.setRemotePrimary · id address)) :=
  Quiet.library fun _ => .setRemotePrimary id address
instance {id : AssocID} {index : Int} : Keeps S T (library (L.requestHeartbeat · id index)) :=
  Quiet.library fun _ => .requestHeartbeat id index
instance {id : AssocID} {index : Int} {interval : Nat} : Keeps S T (library (L.changeHeartBeat · id index interval)) :=
  Quiet.library fun _ => .changeHeartBeat id index interval
/-! ## Functions without a lock -/

instance {id : AssocID} : Keeps S T (SCTPSocketMaster.getSocketForAssociationID id : Act L _) := by
  unfold SCTPSocketMaster.getSocketForAssociationID
  refine .seq fun w => ?_
  cases L.getInstanceID w.stack id <;> infer_instance

instance {id : AssocID} : Keeps S T (SCTPSocketMaster.initNotification id : Act L _) := by
  unfold SCTPSocketMaster.initNotification
  refine .seq fun w => ?_
  dsimp only
  cases L.getAssocStatus w.stack id <;> infer_instance

instance {port : Nat} {hosts : List String} : Keeps S T (SCTPSocket.requestAddresses E port hosts) := by
  induction hosts with
  | nil => unfold SCTPSocket.requestAddresses; infer_instance
  | cons host rest ih =>
    unfold SCTPSocket.requestAddresses
    cases createSocketAddress E host port <;> infer_instance

instance {id : AssocID} {a : SocketAddress} {ids : List Int} :
    Keeps S T (SCTPSocket.pathSearch id a ids : Act L _) := by
  induction ids with
  | nil => unfold SCTPSocket.pathSearch; infer_instance
  | cons i rest ih =>
    unfold SCTPSocket.pathSearch
    refine .seq fun w => ?_
    cases L.getPathStatus w.stack id i <;> infer_instance

instance {id : AssocID} {a : Option SocketAddress} :
    Keeps S T (SCTPSocket.getPathIndexForAddress id a : Act L _) := by
  unfold SCTPSocket.getPathIndexForAddress
  refine .seq fun w => ?_
  cases a with
  | none => infer_instance
  | some a => dsimp only; cases L.getAssocStatus w.stack id <;> infer_instance

instance {q : QueueRef} : Keeps S T (q.get : Act L _) := by
  cases q <;> unfold QueueRef.get <;> infer_instance

instance {id : AssocID} {i : Int} {wanted : Bool} : Keeps S T (SCTPSocket.receiveAddress E id i wanted) := by
  unfold SCTPSocket.receiveAddress
  refine .seq fun w => ?_
  dsimp only
  have : Keeps S T (match L.getPathStatus w.stack id i, L.getAssocStatus w.stack id with
      | some path, some status => return createSocketAddress E path.destinationAddress status.destPort
      | _, _ => return none : Act L _) := by
    cases L.getPathStatus w.stack id i <;> cases L.getAssocStatus w.stack id <;> infer_instance
  infer_instance

instance {a : SocketAddress} {list : Multimap AssocID AssocPtr} :
    Keeps S T (SCTPSocket.peelOffSearch a list : Act L _) := by
  induction list with
  | nil => unfold SCTPSocket.peelOffSearch; infer_instance
  | cons e list ih =>
    unfold SCTPSocket.peelOffSearch
    refine .seq fun o => .seq fun w => ?_
    cases L.getAssocStatus w.stack o.associationID <;> infer_instance

instance {a : SCTPAssociation} {status : AssociationStatus} {ds : List SocketAddress} :
    Keeps S T (SCTPSocket.matchesPaths a status ds : Act L _) := by
  induction ds with
  | nil => unfold SCTPSocket.matchesPaths; infer_instance
  | cons d ds ih => unfold SCTPSocket.matchesPaths; infer_instance

instance {ds : List SocketAddress} {a : SCTPAssociation} : Keeps S T (SCTPSocket.matchesAddress ds a : Act L _) := by
  unfold SCTPSocket.matchesAddress
  refine .seq fun w => ?_
  cases a.preEstablishmentAddressList <;> cases L.getAssocStatus w.stack a.associationID <;> infer_instance

instance {ds : List SocketAddress} {list : Multimap AssocID AssocPtr} :
    Keeps S T (SCTPSocket.findAssociationForDestinationAddress ds list : Act L _) := by
  induction list with
  | nil => unfold SCTPSocket.findAssociationForDestinationAddress; infer_instance
  | cons e list ih => unfold SCTPSocket.findAssociationForDestinationAddress; infer_instance

instance {s : SocketPtr} {c : SendCall} : Keeps S T (SCTPSocket.sendToLookup s c : Act L _) := by
  unfold SCTPSocket.sendToLookup
  refine .seq fun o => ?_
  cases c.destinationAddressList with
  | none => infer_instance
  | some addresses =>
    have (p : Option AssocPtr) : Keeps S T (match p with
        | some p => return some p
        | none => SCTPSocket.findAssociationForDestinationAddress addresses o.associationList : Act L _) := by
      cases p <;> infer_instance
    infer_instance

instance {s : SocketPtr} {f : AssocPtr → Act L Bool} [∀ p, Keeps S T (f p)] :
    Keeps S T (SCTPSocket.firstAnswer s f) := by
  unfold SCTPSocket.firstAnswer
  refine .seq fun o => ?_
  cases o.connectionlessAssociationList <;> infer_instance

instance {c : ConditionRef} {ready : Bool} : Keeps S T (updateCondition c ready : Act L _) := by
  unfold updateCondition; infer_instance

instance {p : AssocPtr} {type : UpdateConditionType} :
    Keeps S T (SCTPAssociation.getUpdateCondition p type : Act L _) := by
  unfold SCTPAssociation.getUpdateCondition
  refine .seq fun a => ?_
  cases type <;> infer_instance

instance {s : SocketPtr} {type : UpdateConditionType} :
    Keeps S T (SCTPSocket.getUpdateCondition s type : Act L _) := by
  unfold SCTPSocket.getUpdateCondition
  refine .seq fun o => ?_
  cases type <;> infer_instance

instance {s : SocketPtr} : Keeps S T (SCTPSocket.getID s : Act L _) := by unfold SCTPSocket.getID; infer_instance
instance {s : SocketPtr} : Keeps S T (SCTPSocket.getNotificationFlags s : Act L _) := by
  unfold SCTPSocket.getNotificationFlags; infer_instance
instance {s : SocketPtr} : Keeps S T (SCTPSocket.getAutoClose s : Act L _) := by
  unfold SCTPSocket.getAutoClose; infer_instance
instance {s : SocketPtr} : Keeps S T (SCTPSocket.getDefaultTrafficClass s : Act L _) := by
  unfold SCTPSocket.getDefaultTrafficClass; infer_instance
instance {p : AssocPtr} : Keeps S T (SCTPAssociation.getID p : Act L _) := by
  unfold SCTPAssociation.getID; infer_instance
instance {p : AssocPtr} : Keeps S T (SCTPAssociation.getNotificationFlags p : Act L _) := by
  unfold SCTPAssociation.getNotificationFlags; infer_instance
instance {p : AssocPtr} {class' : Nat} : Keeps S T (SCTPAssociation.setTrafficClass p class' : Act L _) := by
  unfold SCTPAssociation.setTrafficClass; infer_instance

end

end SocketApi
