import SocketApi.Lib.Multimap
import SocketApi.Lib.Post
import SocketApi.Sctplib
import Mathlib.Logic.Function.Basic
import Mathlib.Data.Int.Order.Basic
import Mathlib.Data.List.Sort

/-!
# Objects, process state and the running thread

`Shared` is the state of the process: the objects of the library, the descriptor table and
the protocol library below. `World` adds what belongs to the running thread. API code is
an `Act`: it returns, or stops where the process aborts, touches memory that is no longer
an object, or is still inside a waiting loop.
-/

namespace SocketApi

open Effect

abbrev SocketPtr := Nat
abbrev AssocPtr := Nat

/-! ## Addresses -/

/-- A `SocketAddress` by its numeric text (`PF_HidePort|PF_Address|PF_Legacy`) and port. -/
structure SocketAddress where
  host : String
  port : Nat
  deriving DecidableEq, Repr

inductive Family where
  | unspec | inet | inet6
  deriving DecidableEq, Repr

namespace SocketAddress

def isIPv4 (a : SocketAddress) : Bool := !a.host.toList.contains ':'

/-- `getAddressString(PF_Address|PF_Legacy)`. -/
def addressString (a : SocketAddress) : String := a.host ++ ":" ++ toString a.port

/-- `getSystemAddress`: the size written into a buffer of `length` bytes, 0 on failure. -/
def getSystemAddress (a : SocketAddress) (length : Nat) (type : Family) : Nat :=
  match type with
  | .inet => if 16 ≤ length ∧ a.isIPv4 then 16 else 0
  | .inet6 | .unspec => if 28 ≤ length then 28 else 0

end SocketAddress

/-! ## Conditions -/

inductive AssocCondition where
  | establish | shutdownComplete | readyForTransmit | inQueue | readUpdate | writeUpdate | exceptUpdate
  deriving DecidableEq, Repr

inductive SocketCondition where
  | establish | globalQueue | readUpdate | writeUpdate | exceptUpdate
  deriving DecidableEq, Repr

inductive ConditionRef where
  | assoc (p : AssocPtr) (c : AssocCondition)
  | socket (s : SocketPtr) (c : SocketCondition)
  | select (n : Nat)
  deriving DecidableEq, Repr

structure Condition where
  fired : Bool := false
  parents : List ConditionRef := []
  deriving DecidableEq, Repr

/-! ## Associations -/

structure AssocIODefaults where
  streamID : StreamID := 0
  protoID : Nat := 0
  timeToLive : Nat := 0
  context : Nat := 0
  deriving DecidableEq, Repr

def SCTP_INFINITE_LIFETIME : Nat := 2 ^ 32 - 1

structure StreamDefaultTimeout where
  valid : Bool
  timeout : Nat
  deriving DecidableEq, Repr

structure PreEstablishmentPacket where
  flags : MsgFlags
  protoID : Nat
  streamID : StreamID
  timeToLive : Nat
  data : List UInt8
  deriving DecidableEq, Repr

/-- `SCTPAssociation`. The pre-establishment packets are the list from
`FirstPreEstablishmentPacket` to `LastPreEstablishmentPacket`. -/
structure SCTPAssociation where
  socket : SocketPtr
  associationID : AssocID
  inQueue : SCTPNotificationQueue := []
  lastUsage : Nat := 0
  useCount : Nat := 0
  notificationFlags : NotificationFlags := {}
  defaults : AssocIODefaults := { timeToLive := SCTP_INFINITE_LIFETIME }
  streamDefaultTimeoutArray : List StreamDefaultTimeout := []
  communicationUpNotification : Bool := false
  communicationLostNotification : Bool := false
  shutdownCompleteNotification : Bool := false
  isShuttingDown : Bool := false
  readReady : Bool := false
  writeReady : Bool := false
  hasException : Bool := false
  rtoMaxIsInitTimeout : Bool := false
  initTimeout : Nat := 0
  rtoMax : Nat := 0
  preEstablishmentPackets : List PreEstablishmentPacket := []
  preEstablishmentAddressList : Option (List SocketAddress) := none
  peeledOff : Bool := false
  deriving DecidableEq, Repr

/-! ## Sockets -/

structure IncomingConnection where
  association : AssocPtr
  notification : SCTPNotification
  deriving DecidableEq, Repr

structure SCTPSocket where
  family : Family := .inet
  flags : SocketFlags := {}
  globalQueue : SCTPNotificationQueue := []
  connectionRequests : List IncomingConnection := []
  associationList : Multimap AssocID AssocPtr := []
  connectionlessAssociationList : Multimap AssocID AssocPtr := []
  instanceName : InstanceID := 0
  localPort : Nat := 0
  noOfInStreams : Nat := 0
  noOfOutStreams : Nat := 0
  notificationFlags : NotificationFlags := {}
  correlationID : Nat := 0
  autoCloseTimeout : Nat := 30000000
  defaultTrafficClass : Nat := 0
  writeReady : Bool := false
  readReady : Bool := false
  hasException : Bool := false
  autoCloseRecursion : Bool := false
  autoCloseNewCheckRequired : Bool := false
  deriving DecidableEq, Repr

/-! ## Descriptors -/

inductive SocketType where
  | stream | dgram | seqpacket | other
  deriving DecidableEq, Repr

structure InitMsg where
  numOstreams : Nat := 10
  maxInstreams : Nat := 10
  maxAttempts : Nat := 8
  maxInitTimeo : Nat := 60000
  deriving DecidableEq, Repr

structure Linger where
  onoff : Nat := 1
  linger : Int := 10
  deriving DecidableEq, Repr

/-- The member `SCTPSocketDesc` of a descriptor; `nonBlock` is `Flags & O_NONBLOCK`, `otherFlags`
the rest of `Flags`. -/
structure SCTPSocketDesc where
  domain : Family
  type : SocketType
  sctpSocketPtr : Option SocketPtr := none
  sctpAssociationPtr : Option AssocPtr := none
  nonBlock : Bool := false
  otherFlags : BitVec 32 := 0
  initMsg : InitMsg := {}
  linger : Linger := {}
  connectionOriented : Bool := false
  deriving DecidableEq, Repr

inductive ExtSocketDescriptor where
  | invalid
  | system (systemSocketID : Int)
  | sctp (desc : SCTPSocketDesc)
  deriving DecidableEq, Repr

/-- `FD_SETSIZE`, the size of the descriptor table. -/
def MaxSockets : Nat := 1024

/-! ## Process and thread -/

/-- The state all threads share. Three members are records of the verification: `sendLog` is
what the protocol library has accepted for sending, `users` the association of every `sendTo`
or `associate` call in progress, `holders` that of every call that owns an association. -/
structure Shared (L : Sctplib) where
  stack : L.State
  now : Nat := 0
  sockets : SocketPtr → Option SCTPSocket := fun _ => none
  nextSocket : SocketPtr := 0
  associations : AssocPtr → Option SCTPAssociation := fun _ => none
  nextAssociation : AssocPtr := 0
  socketList : Multimap InstanceID SocketPtr := []
  closingSockets : List InstanceID := []
  closingAssociations : Multimap AssocID InstanceID := []
  conditions : ConditionRef → Condition := fun _ => {}
  descriptors : Nat → ExtSocketDescriptor := fun _ => .invalid
  openFDs : List Int := []
  sendLog : List SendRequest := []
  users : List AssocPtr := []
  holders : List AssocPtr := []

/-- The running thread: its share of the master's `LockLevel`, `errno`, the level at each wait
it has executed, and how often it has let other threads run. -/
structure Thread where
  lockLevel : Nat := 0
  errno : Int := 0
  waits : List Nat := []
  turns : Nat := 0
  deriving DecidableEq, Repr

structure World (L : Sctplib) where
  thread : Thread := {}
  shared : Shared L

/-- The process before its first call: three descriptors of the system are open. -/
def World.initial {L : Sctplib} (stack : L.State) : World L where
  shared := { stack, descriptors := fun slot => if slot < 3 then .system slot else .invalid, openFDs := [0, 1, 2] }

inductive AllocationSite where
  | addressList | association | connection | packet | packetData | timeoutArray | socket | messageBuffer
  | addressStorage
  deriving DecidableEq, Repr

/-! ## Ways to stop -/

/-- Calls of `abort()` behind an internal-error check. -/
inductive AbortSite where
  | unlockAtZero
  | destructorCalledTwice
  | destructorDeleteAssociation
  | destructorAssociationList
  | unbindSocketList
  | unregisterInstance
  | garbageDeleteAssociation
  | rejectedDeleteAssociation
  | unexpectedNotification
  | receiveUseCount
  | sendUseCount
  deriving DecidableEq, Repr

/-- Why a call has not returned: the process has aborted, memory that is no object was used, a
waiting loop goes on, or the thread is observed where it has let others run. -/
inductive Halt where
  | abort (site : AbortSite)
  | undefinedBehaviour
  | waiting
  | suspended
  deriving DecidableEq, Repr

/-- What the code meets but does not decide: `interfere` is the work of other threads and of
the callback thread while the master is unlocked, `none` if the thread does not run again;
`patience` bounds every waiting loop, `nesting` the callbacks delivered inside callbacks. -/
structure Environment (L : Sctplib) where
  interfere : Nat → Shared L → Option (Shared L) := fun _ w => some w
  patience : Nat := 0
  nesting : Nat := 0
  allocates : AllocationSite → Bool := fun _ => true
  resolves : String → Bool := fun _ => true
  initialized : Bool := true
  threadStarts : Bool := true
  useIPv6 : Bool := false
  sockaddr : SocketAddress → Family → List UInt8 := fun _ _ => []
  random : Nat → Nat := fun n => n
  dtablesize : Nat := 1024
  openSystem : List Int → Int := fun fds => fds.foldl max (-1) + 1
  systemCall : Int → Int := fun _ => 0

abbrev Act (L : Sctplib) (α : Type) := EStateM Halt (World L) α

variable {L : Sctplib}

/-! ## Access to the shared state -/

def shared : Act L (Shared L) := do return (← get).shared

def update (f : Shared L → Shared L) : Act L Unit := modify fun w => { w with shared := f w.shared }

/-- A call of the protocol library that may change its state. -/
def library {α : Type} (call : L.State → α × L.State) : Act L α :=
  modifyGet fun w => ((call w.shared.stack).1,
    { w with shared := { w.shared with stack := (call w.shared.stack).2 } })

/-- The object behind a `SCTPAssociation*`; a null or deleted one is undefined behaviour. -/
def associationAt (p : AssocPtr) : Act L SCTPAssociation := do
  match (← shared).associations p with
  | some a => return a
  | none => throw .undefinedBehaviour

def socketAt (s : SocketPtr) : Act L SCTPSocket := do
  match (← shared).sockets s with
  | some o => return o
  | none => throw .undefinedBehaviour

def Shared.setAssociation (w : Shared L) (p : AssocPtr) (f : SCTPAssociation → SCTPAssociation) : Shared L :=
  { w with associations := Function.update w.associations p ((w.associations p).map f) }

def Shared.setSocket (w : Shared L) (s : SocketPtr) (f : SCTPSocket → SCTPSocket) : Shared L :=
  { w with sockets := Function.update w.sockets s ((w.sockets s).map f) }

def setAssociation (p : AssocPtr) (f : SCTPAssociation → SCTPAssociation) : Act L Unit := do
  discard (associationAt p)
  update (·.setAssociation p f)

def setSocket (s : SocketPtr) (f : SCTPSocket → SCTPSocket) : Act L Unit := do
  discard (socketAt s)
  update (·.setSocket s f)

/-! ## Calls in progress -/

def enter (p : AssocPtr) : Act L Unit := update fun w => { w with users := p :: w.users }
def leave (p : AssocPtr) : Act L Unit := update fun w => { w with users := w.users.erase p }
def hold (p : AssocPtr) : Act L Unit := update fun w => { w with holders := p :: w.holders }
def release (p : AssocPtr) : Act L Unit := update fun w => { w with holders := w.holders.erase p }

/-! ## The master's lock -/

section

variable (E : Environment L)

/-- Other threads run. -/
def yield : Act L Unit := do
  let w ← get
  match E.interfere w.thread.turns w.shared with
  | some s => set { thread := { w.thread with turns := w.thread.turns + 1 }, shared := s : World L }
  | none => throw .suspended

def lock : Act L Unit := modify fun w =>
  { w with thread := { w.thread with lockLevel := w.thread.lockLevel + 1 } }

def unlock : Act L Unit := do
  let level := (← get).thread.lockLevel
  if level = 0 then throw (.abort .unlockAtZero)
  modify fun w => { w with thread := { w.thread with lockLevel := level - 1 } }
  if level = 1 then yield E

/-- A section between `lock()` and `unlock()`. -/
def locked {α : Type} (body : Act L α) : Act L α := do
  lock
  let result ← body
  unlock E
  return result

/-! ## Conditions -/

/-- Sets a condition and the conditions above it; `depth` bounds the chain of parent links. -/
def Shared.fire (w : Shared L) : Nat → ConditionRef → Shared L
  | 0, _ => w
  | depth + 1, c =>
    (w.conditions c).parents.foldl (fun w c => w.fire depth c)
      { w with conditions := Function.update w.conditions c { w.conditions c with fired := true } }

/-- An event condition, the queue's or object's update condition and a select's. -/
def parentDepth : Nat := 4

def broadcast (c : ConditionRef) : Act L Unit := update (·.fire parentDepth c)

def fired (c : ConditionRef) : Act L Bool := do
  let f := ((← shared).conditions c).fired
  update fun w => { w with conditions := Function.update w.conditions c { w.conditions c with fired := false } }
  return f

/-- Other threads get to run only when the waiting thread does not hold the master lock. -/
def timedWait (c : ConditionRef) : Act L Bool := do
  let level := (← get).thread.lockLevel
  modify fun w => { w with thread := { w.thread with waits := level :: w.thread.waits } }
  if level = 0 then yield E
  if ((← shared).conditions c).fired then
    fired c
  else
    return false

end

/-- Firing a condition changes conditions only. -/
theorem Shared.fire_eq (w : Shared L) (depth : Nat) (c : ConditionRef) :
    ∃ conditions, w.fire depth c = { w with conditions } := by
  induction depth generalizing w c with
  | zero => exact ⟨w.conditions, rfl⟩
  | succ depth ih =>
    have hfold (parents : List ConditionRef) (m : Shared L) (hm : ∃ conditions, m = { w with conditions }) :
        ∃ conditions, parents.foldl (fun m c => m.fire depth c) m = { w with conditions } := by
      induction parents generalizing m with
      | nil => exact hm
      | cons c' parents ihp =>
        obtain ⟨conditions, rfl⟩ := hm
        exact ihp _ (ih _ c')
    exact hfold _ _ ⟨_, rfl⟩

/-! ## Postconditions of the accessors -/

section

variable {w : World L} {H : Halt → World L → Prop}

@[simp] theorem post_shared {Q : Shared L → World L → Prop} : Post shared w Q H ↔ Q w.shared w := Iff.rfl

@[simp] theorem post_update (f : Shared L → Shared L) {Q : Unit → World L → Prop} :
    Post (update f) w Q H ↔ Q () { w with shared := f w.shared } := Iff.rfl

@[simp] theorem post_library {α : Type} (call : L.State → α × L.State) {Q : α → World L → Prop} :
    Post (library call) w Q H ↔ Q (call w.shared.stack).1
      { w with shared := { w.shared with stack := (call w.shared.stack).2 } } := Iff.rfl

theorem post_associationAt {p : AssocPtr} {Q : SCTPAssociation → World L → Prop} :
    Post (associationAt p) w Q H ↔
      match w.shared.associations p with
      | some a => Q a w
      | none => H .undefinedBehaviour w := by
  simp only [associationAt, post_bind, post_shared]
  cases w.shared.associations p <;> rfl

theorem post_socketAt {s : SocketPtr} {Q : SCTPSocket → World L → Prop} :
    Post (socketAt s) w Q H ↔
      match w.shared.sockets s with
      | some o => Q o w
      | none => H .undefinedBehaviour w := by
  simp only [socketAt, post_bind, post_shared]
  cases w.shared.sockets s <;> rfl

theorem post_setAssociation {p : AssocPtr} {f : SCTPAssociation → SCTPAssociation} {Q : Unit → World L → Prop} :
    Post (setAssociation p f) w Q H ↔
      match w.shared.associations p with
      | some _ => Q () { w with shared := w.shared.setAssociation p f }
      | none => H .undefinedBehaviour w := by
  simp only [setAssociation, post_bind, post_discard, post_associationAt, post_update]

theorem post_setSocket {s : SocketPtr} {f : SCTPSocket → SCTPSocket} {Q : Unit → World L → Prop} :
    Post (setSocket s f) w Q H ↔
      match w.shared.sockets s with
      | some _ => Q () { w with shared := w.shared.setSocket s f }
      | none => H .undefinedBehaviour w := by
  simp only [setSocket, post_bind, post_discard, post_socketAt, post_update]

@[simp] theorem post_lock {Q : Unit → World L → Prop} :
    Post lock w Q H ↔ Q () { w with thread := { w.thread with lockLevel := w.thread.lockLevel + 1 } } :=
  Iff.rfl

@[simp] theorem post_broadcast {c : ConditionRef} {Q : Unit → World L → Prop} :
    Post (broadcast c) w Q H ↔ Q () { w with shared := w.shared.fire parentDepth c } := Iff.rfl

end

end SocketApi
