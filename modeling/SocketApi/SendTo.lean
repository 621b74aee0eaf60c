import SocketApi.Lifetime

/-!
# Sending on a socket

`SCTPSocket::sendTo` finds or makes the association of a message, hands the message over
and closes the association if the flags ask for it.
-/

namespace SocketApi

open Effect

variable {L : Sctplib} (E : Environment L)

/-- The arguments of `SCTPSocket::sendTo` besides the socket. A null buffer is an empty one. -/
structure SendCall where
  buffer : List UInt8 := []
  params : SendParams := {}
  assocID : AssocID := 0
  maxAttempts : Nat := 8
  maxInitTimeout : Nat := 60000
  useDefaults : Bool := true
  destinationAddressList : Option (List SocketAddress) := none
  noOfOutgoingStreams : Nat := 1
  deriving DecidableEq, Repr

namespace SCTPSocket

/-! ## Finding the association -/

/-- The comparison with the addresses of an association that is not established. The index
into them is not set back for the next destination address. -/
def matchesPending : List SocketAddress → List SocketAddress → Bool
  | [], _ => false
  | d :: ds, pending => pending.any (·.addressString == d.addressString) || matchesPending ds []

/-- The comparison with the paths of an established association. -/
def matchesPaths (a : SCTPAssociation) (status : AssociationStatus) : List SocketAddress → Act L Bool
  | [] => return false
  | d :: ds => do
    if !a.isShuttingDown && d.port == status.destPort then
      if 0 ≤ Int.bmod (← getPathIndexForAddress a.associationID (some d)) (2 ^ 16) then
        return true
      else
        matchesPaths a status ds
    else
      matchesPaths a status ds

/-- Whether an association is one to a destination address. -/
def matchesAddress (destinationAddressList : List SocketAddress) (a : SCTPAssociation) : Act L Bool := do
  match a.preEstablishmentAddressList, L.getAssocStatus (← shared).stack a.associationID with
  | none, some status => matchesPaths a status destinationAddressList
  | none, none => return false
  | some pending, _ => return matchesPending destinationAddressList pending

def findAssociationForDestinationAddress (destinationAddressList : List SocketAddress) :
    Multimap AssocID AssocPtr → Act L (Option AssocPtr)
  | [] => return none
  | (_, p) :: list => do
    if ← matchesAddress destinationAddressList (← associationAt p) then
      return some p
    else
      findAssociationForDestinationAddress destinationAddressList list

/-! ## The phases of a send to one association -/

/-- "Check for already created association". -/
def sendToLookup (s : SocketPtr) (c : SendCall) : Act L (Option AssocPtr) := do
  let o ← socketAt s
  match c.destinationAddressList with
  | some addresses =>
    let association ←
      if o.flags.autoConnect then
        findAssociationForDestinationAddress addresses o.connectionlessAssociationList
      else pure none
    match association with
    | some p => return some p
    | none => findAssociationForDestinationAddress addresses o.associationList
  | none => return o.associationList.find c.assocID

/-- The phase under the master lock: the association found, or the result of a call that ends
here. -/
def sendToBegin (s : SocketPtr) (c : SendCall) : Act L (Except Int (Option AssocPtr)) := do
  match ← sendToLookup s c with
  | none =>
    unlock E
    return .ok none
  | some p =>
    if c.buffer.isEmpty && !(c.params.flags.abort || c.params.flags.eof) then
      unlock E
      return .error (-EISCONN)
    enter p
    setAssociation p fun a => { a with useCount := a.useCount + 1 }
    if c.params.flags.abort then
      SCTPAssociation.abort E (SCTPSocketMaster.notif E) p
      leave p
      unlock E
      return .error 0
    unlock E
    return .ok (some p)

/-- "Create new association". -/
def sendToConnect (s : SocketPtr) (c : SendCall) (association : Option AssocPtr) : Act L (Option AssocPtr) := do
  match association, c.destinationAddressList with
  | none, some addresses =>
    if (← socketAt s).flags.autoConnect then
      let created ← associate E s c.noOfOutgoingStreams c.maxAttempts c.maxInitTimeout addresses
        (!c.params.flags.dontwait)
      match created with
      | some p =>
        locked E do
          enter p
          setAssociation p fun a => { a with useCount := a.useCount + 1 }
          addConnectionless s p
        return some p
      | none => return none
    else
      return none
  | association, _ => return association

/-- The deletion of the association of a closing send. -/
def sendToDelete (s : SocketPtr) (p : AssocPtr) : Act L Unit := do
  locked E do
    let assocID := (← associationAt p).associationID
    setSocket s fun o =>
      { o with connectionlessAssociationList := o.connectionlessAssociationList.eraseKey assocID }
  SCTPAssociation.delete E (SCTPSocketMaster.notif E) p
  leave p

/-- "Remove association, if SHUTDOWN flag is set": what is left of the association. -/
def sendToClose (s : SocketPtr) (c : SendCall) (p : AssocPtr) : Act L (Option AssocPtr) := do
  if c.params.flags.abort then SCTPAssociation.abort E (SCTPSocketMaster.notif E) p
  if c.params.flags.eof then SCTPAssociation.shutdown E (SCTPSocketMaster.notif E) p
  if (← socketAt s).flags.autoConnect then
    sendToDelete E s p
    checkAutoConnect E s
    return none
  else
    checkAutoConnect E s
    return some p

/-- The end of a send to one association. -/
def sendToEnd (association : Option AssocPtr) : Act L Unit := locked E do
  match association with
  | some p =>
    let now := (← shared).now
    setAssociation p fun a => { a with lastUsage := now }
    if (← associationAt p).useCount = 0 then throw (.abort .sendUseCount)
    setAssociation p fun a => { a with useCount := a.useCount - 1 }
    leave p
  | none => return

/-- "Send data" and what follows. The second component is the ID `sendTo` leaves in `assocID`. -/
def sendToTransmit (s : SocketPtr) (c : SendCall) (p : AssocPtr) : Act L (Int × AssocID) := do
  let assocID := (← associationAt p).associationID
  let result ←
    if c.buffer.isEmpty then pure 0
    else SCTPAssociation.sendTo E p c.buffer c.params c.useDefaults (c.destinationAddressList.bind (·.head?))
  let left ← if c.params.flags.eof || c.params.flags.abort then sendToClose E s c p else pure (some p)
  sendToEnd E left
  return (result, assocID)

/-- "Send to one association". -/
def sendToOne (s : SocketPtr) (c : SendCall) : Act L (Int × AssocID) := do
  match ← sendToBegin E s c with
  | .error result => return (result, c.assocID)
  | .ok found =>
    match ← sendToConnect E s c found with
    | some p => sendToTransmit E s c p
    | none =>
      sendToEnd E none
      return (- EIO, c.assocID)

/-! ## Sending to all -/

/-- "Send to all": the results of the single sends are not used. -/
def sendToAll (c : SendCall) : Multimap AssocID AssocPtr → Act L Unit
  | [] => return
  | (_, p) :: list => do
    discard (SCTPAssociation.sendTo E p c.buffer c.params c.useDefaults none)
    sendToAll c list

/-- `sendTo`. Both branches are entered with the master locked. -/
def sendTo (s : SocketPtr) (c : SendCall) : Act L (Int × AssocID) := do
  if !c.params.flags.sendToAll then
    lock
    sendToOne E s c
  else
    locked E do
      sendToAll E c (← socketAt s).connectionlessAssociationList
    return (intOfSize c.buffer.length, c.assocID)

end SCTPSocket

end SocketApi
