import SocketApi.Teardown

/-!
# Accepting associations

`accept` takes the oldest pending connection request; `checkAutoConnect` accepts all of them
into the list of connectionless associations.
-/

namespace SocketApi

open Effect

variable {L : Sctplib} (E : Environment L)

/-- `while(condition.timedWait(100000) == false) maintain();` -/
def waitFor (c : ConditionRef) (maintain : Act L Unit) : Act L Unit :=
  loop .waiting (fun rest => do
    if !(← timedWait E c) then
      maintain
      rest) E.patience

namespace SCTPSocket

def listen (s : SocketPtr) (backlog : Nat) : Act L Unit :=
  locked E (setSocket s fun o => { o with flags := { o.flags with listening := decide (0 < backlog) } })

/-- The addresses of a request. After an address that cannot be made the array is gone, and
the next one is stored through a null pointer. -/
def requestAddresses (port : Nat) : List String → Act L (Option (List SocketAddress))
  | [] => return some []
  | host :: rest =>
    match createSocketAddress E host port with
    | some a => do return (← requestAddresses port rest).map (a :: ·)
    | none => if rest.isEmpty then return none else throw .undefinedBehaviour

/-- The loop of `accept` up to the first request, which it leaves with the master locked. -/
def awaitRequest (s : SocketPtr) (maintain : Act L Unit) (wait : Bool) : Act L Bool :=
  loop .waiting (fun rest => do
    if !(← socketAt s).connectionRequests.isEmpty then return true
    unlock E
    if !wait then return false
    waitFor E (.socket s .establish) maintain
    lock
    rest) E.patience

/-- The end of `accept`: takes the oldest request. -/
def takeRequest (s : SocketPtr) (withAddresses : Bool) :
    Act L (Option AssocPtr × Option (List SocketAddress)) := do
  match (← socketAt s).connectionRequests with
  | [] => return (none, none)
  | request :: rest =>
    let addresses ←
      if withAddresses && E.allocates .addressList then
        requestAddresses E request.notification.remotePort request.notification.remoteAddress
      else pure none
    setSocket s fun o => { o with connectionRequests := rest }
    hold request.association
    let data ← hasData E s
    setSocket s fun o => { o with readReady := data || !o.connectionRequests.isEmpty }
    return (some request.association, addresses)

/-- `accept` of a listening socket. -/
def acceptListening (maintain : Act L Unit) (s : SocketPtr) (withAddresses wait : Bool) :
    Act L (Option AssocPtr × Option (List SocketAddress)) := do
  if ← awaitRequest E s maintain wait then
    let result ← takeRequest E s withAddresses
    unlock E
    return result
  else
    return (none, none)

/-- `accept`, with what its waiting loop does between two waits. `withAddresses` says that
the caller passes a place for the address array. -/
def acceptWith (maintain : Act L Unit) (s : SocketPtr) (withAddresses wait : Bool) :
    Act L (Option AssocPtr × Option (List SocketAddress)) := do
  lock
  if (← socketAt s).flags.listening then
    acceptListening E maintain s withAddresses wait
  else
    return (none, none)

/-- `ConnectionlessAssociationList.insert(association->getID(), association)`: the list takes
the association over from the call that holds it. -/
def addConnectionless (s : SocketPtr) (p : AssocPtr) : Act L Unit := do
  let a ← associationAt p
  setSocket s fun o => { o with
    connectionlessAssociationList := o.connectionlessAssociationList.insert a.associationID p }
  release p

/-- The loop of `checkAutoConnect`. -/
def acceptAll (s : SocketPtr) : Act L Unit := do
  let requests := (← socketAt s).connectionRequests.length
  loop .waiting (fun rest => do
    match (← acceptWith E (pure ()) s false false).1 with
    | some p =>
      addConnectionless s p
      rest
    | none => return) requests

/-- "Check, if there are new incoming associations": `accept` works in listening mode only. -/
def acceptIncoming (s : SocketPtr) : Act L Unit := do
  let oldFlags := (← socketAt s).flags
  setSocket s fun o => { o with flags := { o.flags with listening := true } }
  acceptAll E s
  setSocket s fun o => { o with flags := oldFlags }

def checkAutoConnect (s : SocketPtr) : Act L Unit := do
  if (← socketAt s).flags.autoConnect then
    locked E (acceptIncoming E s)

def accept (s : SocketPtr) (withAddresses wait : Bool) : Act L (Option AssocPtr × Option (List SocketAddress)) :=
  acceptWith E (checkAutoConnect E s) s withAddresses wait

end SCTPSocket

end SocketApi
