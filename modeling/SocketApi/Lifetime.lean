import SocketApi.Callbacks

/-!
# Binding, unbinding and the life of associations

`bind` registers an instance, `unbind` closes everything that belongs to it. `associate`
makes an association, `peelOff` takes one out of the list of connectionless associations.
-/

namespace SocketApi

open Effect

variable {L : Sctplib} (E : Environment L)

namespace SCTPSocket

/-! ## Unbinding -/

/-- A round of the first loop of `unbind`. -/
def unbindConnectionless (s : SocketPtr) (sendAbort : Bool) (rest : Act L Unit) : Act L Unit := do
  match (← socketAt s).connectionlessAssociationList with
  | [] => return
  | (_, p) :: list =>
    setSocket s fun o => { o with connectionlessAssociationList := list }
    if sendAbort then SCTPAssociation.abort E (SCTPSocketMaster.notif E) p
    SCTPAssociation.delete E (SCTPSocketMaster.notif E) p
    rest

/-- A round of the second loop. -/
def unbindAssociations (s : SocketPtr) (sendAbort : Bool) (rest : Act L Unit) : Act L Unit := do
  match (← socketAt s).associationList with
  | [] => return
  | (_, p) :: list =>
    setSocket s fun o => { o with associationList := list }
    if sendAbort then SCTPAssociation.abort E (SCTPSocketMaster.notif E) p
    SCTPAssociation.delete E (SCTPSocketMaster.notif E) p
    rest

/-- A round of the third loop. -/
def unbindRequests (s : SocketPtr) (rest : Act L Unit) : Act L Unit := do
  match (← socketAt s).connectionRequests with
  | [] => return
  | request :: requests =>
    setSocket s fun o => { o with connectionRequests := requests }
    SCTPAssociation.delete E (SCTPSocketMaster.notif E) request.association
    rest

/-- The instance leaves `SocketList` for `ClosingSockets`. -/
def unbindInstance (s : SocketPtr) : Act L Unit := do
  let instanceName := (← socketAt s).instanceName
  match (← shared).socketList.find instanceName with
  | some _ =>
    update fun w => { w with socketList := w.socketList.eraseKey instanceName }
    SCTPSocketMaster.delayedDeleteSocket instanceName
  | none => throw (.abort .unbindSocketList)

/-- The part of `unbind` under the lock. -/
def unbindLocked (s : SocketPtr) (sendAbort : Bool) : Act L Unit := do
  loop .waiting (unbindConnectionless E s sendAbort) (← socketAt s).connectionlessAssociationList.length
  loop .waiting (unbindAssociations E s sendAbort) (← socketAt s).associationList.length
  loop .waiting (unbindRequests E s) (← socketAt s).connectionRequests.length
  unbindInstance s

def unbind (s : SocketPtr) (sendAbort : Bool := false) : Act L Unit := do
  if 0 < (← socketAt s).instanceName then
    locked E (unbindLocked E s sendAbort)
    setSocket s fun o => { o with
      globalQueue := [], instanceName := 0, correlationID := 0, flags := { o.flags with listening := false } }

/-- `delete socket`. -/
def delete (s : SocketPtr) : Act L Unit := do
  unbind E s
  update fun w => { w with sockets := Function.update w.sockets s none }

/-- `new SCTPSocket(family, flags)`. -/
def new (family : Family) (flags : SocketFlags) : Act L SocketPtr := do
  let w ← shared
  let s := w.nextSocket
  update fun w => { w with
    nextSocket := s + 1
    sockets := Function.update w.sockets s (some { family, flags })
    conditions := fun c => match c with
      | .socket t k =>
        if t = s then
          { parents := if k = .establish ∨ k = .globalQueue then [.socket s .readUpdate] else [] }
        else w.conditions c
      | _ => w.conditions c }
  return s

/-! ## Binding -/

/-- The loop over random ports. -/
def registerRandomPort (s : SocketPtr) (noOfInStreams noOfOutStreams : Nat) (localAddressList : List String) :
    Nat → Nat → Act L Unit
  | 0, _ => return
  | n + 1, i => do
    let port := (16384 + E.random i % (61000 - 16384)) % 65536
    let instanceName ← library (L.registerInstance · port noOfInStreams noOfOutStreams localAddressList)
    setSocket s fun o => { o with instanceName }
    if 0 < instanceName then
      setSocket s fun o => { o with localPort := port }
    else
      registerRandomPort s noOfInStreams noOfOutStreams localAddressList n (i + 1)

/-- `sctp_registerInstance` for the port of the caller, with a second try after a collection. -/
def registerPort (s : SocketPtr) (localPort noOfInStreams noOfOutStreams : Nat) (localAddressList : List String) :
    Act L Unit := do
  let instanceName ← library (L.registerInstance · localPort noOfInStreams noOfOutStreams localAddressList)
  setSocket s fun o => { o with instanceName }
  if instanceName ≤ 0 then
    SCTPSocketMaster.socketGarbageCollection E (SCTPSocketMaster.notif E)
    let instanceName ← library (L.registerInstance · localPort noOfInStreams noOfOutStreams localAddressList)
    setSocket s fun o => { o with instanceName }

/-- The part of `bind` under the lock. More than `SCTP_MAX_NUM_ADDRESSES` addresses make the
library read behind the array of their texts. -/
def bindLocked (s : SocketPtr) (localPort noOfInStreams noOfOutStreams : Nat)
    (localAddressList : List SocketAddress) : Act L Int := do
  unbind E s
  setSocket s fun o => { o with localPort, noOfInStreams, noOfOutStreams, correlationID := 0 }
  if localAddressList.isEmpty then
    return -EINVAL
  if SCTP_MAX_NUM_ADDRESSES < localAddressList.length then throw .undefinedBehaviour
  let addresses := localAddressList.map (·.host)
  if localPort = 0 then
    registerRandomPort E s noOfInStreams noOfOutStreams addresses 50000 0
  else
    registerPort E s localPort noOfInStreams noOfOutStreams addresses
  let instanceName := (← socketAt s).instanceName
  if instanceName ≤ 0 then
    return -EADDRINUSE
  update fun w => { w with socketList := w.socketList.insert (instanceName % 65536) s }
  return 0

def bind (s : SocketPtr) (localPort noOfInStreams noOfOutStreams : Nat) (localAddressList : List SocketAddress) :
    Act L Int := do
  if !E.initialized then
    return -EPROTONOSUPPORT
  if !(← locked E (return E.threadStarts)) then
    return -EPROTONOSUPPORT
  locked E (bindLocked E s localPort noOfInStreams noOfOutStreams localAddressList)

/-! ## Associating -/

/-- `maxInitRetransmits` for a number of attempts. -/
def initRetransmits (maxAttempts : Nat) : Nat := max 1 (maxAttempts - 1)

/-- The part of `associate` up to the ID of the new association, 0 if there is none. The
instance parameters are changed around `sctp_associatex`. -/
def associateID (s : SocketPtr) (noOfOutStreams maxAttempts maxInitTimeout : Nat)
    (destinationAddressList : List SocketAddress) : Act L (AssocID × InstanceParameters) := do
  let defaults ← getAssocDefaults E s
  let oldParameters := defaults.getD {}
  if defaults.isSome then
    discard (setAssocDefaults E s
      { oldParameters with maxInitRetransmits := initRetransmits maxAttempts, rtoMax := maxInitTimeout })
  let instanceName := (← socketAt s).instanceName
  let assocID ←
    if destinationAddressList.isEmpty then pure 0
    else library (L.associatex · instanceName (max 1 noOfOutStreams) (destinationAddressList.map (·.host))
      ((destinationAddressList.head?.map (·.port)).getD 0))
  discard (setAssocDefaults E s oldParameters)
  return (assocID, oldParameters)

/-- The part of `associate` up to the release of the lock. -/
def associateBegin (s : SocketPtr) (noOfOutStreams maxAttempts maxInitTimeout : Nat)
    (destinationAddressList : List SocketAddress) : Act L (Option AssocPtr) := locked E do
  let created ← associateID E s noOfOutStreams maxAttempts maxInitTimeout destinationAddressList
  if created.1 = 0 then
    return none
  if !E.allocates .association then
    sctp_abort (SCTPSocketMaster.notif E) created.1
    discard (library (L.deleteAssociation · created.1))
    return none
  let o ← socketAt s
  let p ← SCTPAssociation.new E s created.1 o.notificationFlags o.flags.globalQueue
  hold p
  enter p
  setAssociation p fun a => { a with
    useCount := a.useCount + 1, rtoMaxIsInitTimeout := true, rtoMax := created.2.rtoMax
    initTimeout := maxInitTimeout
    preEstablishmentAddressList := if E.allocates .addressList then some destinationAddressList else none }
  return some p

/-- The wait of a blocking `associate` for the association `p`. -/
def associateWait (s : SocketPtr) (p : AssocPtr) : Act L (Option AssocPtr) := do
  discard (associationAt p)
  waitFor E (.assoc p .establish) (checkAutoConnect E s)
  if !(← associationAt p).communicationUpNotification then
    SCTPAssociation.delete E (SCTPSocketMaster.notif E) p
    leave p
    release p
    return none
  return some p

/-- `n - 1` of a `cardinal`. -/
def decrement (n : Nat) : Nat := if n = 0 then 2 ^ 32 - 1 else n - 1

/-- The end of `associate`. -/
def associateEnd (association : Option AssocPtr) : Act L Unit := locked E do
  match association with
  | some p =>
    setAssociation p fun a => { a with useCount := decrement a.useCount }
    leave p
  | none => return

def associate (s : SocketPtr) (noOfOutStreams maxAttempts maxInitTimeout : Nat)
    (destinationAddressList : List SocketAddress) (blocking : Bool) : Act L (Option AssocPtr) := do
  match ← associateBegin E s noOfOutStreams maxAttempts maxInitTimeout destinationAddressList with
  | some p =>
    let association ← if blocking then associateWait E s p else pure (some p)
    associateEnd E association
    return association
  | none =>
    associateEnd E none
    return none

/-! ## Peeling off -/

def peelOff (s : SocketPtr) (assocID : AssocID) : Act L (Option AssocPtr) := locked E do
  match (← socketAt s).connectionlessAssociationList.find assocID with
  | some p =>
    if (← associationAt p).isShuttingDown then
      return none
    setAssociation p fun a => { a with peeledOff := true }
    setSocket s fun o =>
      { o with connectionlessAssociationList := o.connectionlessAssociationList.eraseKey assocID }
    hold p
    return some p
  | none => return none

/-- The first association of a list that `peelOff` takes for a destination address. -/
def peelOffSearch (destinationAddress : SocketAddress) : Multimap AssocID AssocPtr → Act L (Option AssocPtr)
  | [] => return none
  | (_, p) :: list => do
    let a ← associationAt p
    match L.getAssocStatus (← shared).stack a.associationID with
    | some status =>
      if !a.isShuttingDown && destinationAddress.port == status.destPort
          && destinationAddress.host == status.primaryDestinationAddress then
        return some p
      else
        peelOffSearch destinationAddress list
    | none => peelOffSearch destinationAddress list

def peelOffAddress (s : SocketPtr) (destinationAddress : SocketAddress) : Act L (Option AssocPtr) := locked E do
  match ← peelOffSearch destinationAddress (← socketAt s).connectionlessAssociationList with
  | some p =>
    setAssociation p fun a => { a with peeledOff := true }
    setSocket s fun o =>
      { o with connectionlessAssociationList := o.connectionlessAssociationList.eraseValue p }
    hold p
    return some p
  | none => return none

end SCTPSocket

end SocketApi
