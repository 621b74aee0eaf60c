import SocketApi.Interface
import SocketApi.Lib.Concludes

/-!
# Results before their conversion

Inside the library a failure is a negative result; `getErrnoResult` turns it into -1 and `errno`.
`Unconverted` has the calls of the interface with the conversions left out: what a call would
return if every layer handed on the result of the one below it. A call reports every failure
once if it is its unconverted version and one conversion behind it.
-/

namespace SocketApi

open Effect ExtSocketDescriptorMaster

variable {L : Sctplib} (E : Environment L)

/-- An internal result, or one the caller gets as it is: the answer of a system call. -/
inductive Reply where
  | internal (result : Int)
  | final (result : Int)
  deriving DecidableEq, Repr

/-- The conversion at the boundary. -/
def Reply.conclude : Reply → Act L Int
  | .internal result => errnoReturn result
  | .final result => return result

/-- What the caller gets for a reply. -/
def Reply.returned : Reply → Int
  | .internal result => if result < 0 then -1 else result
  | .final result => result

theorem errnoReturn_bind {α : Type} (r : Int) (f : Int → Act L α) :
    errnoReturn r >>= f = errnoReturn r >>= fun _ => f (if r < 0 then -1 else r) := by
  unfold errnoReturn
  by_cases h : r < 0 <;> simp [h]

theorem Reply.conclude_bind {α : Type} (a : Reply) (f : Int → Act L α) :
    a.conclude >>= f = a.conclude >>= fun _ => f a.returned := by
  cases a with
  | internal result => exact errnoReturn_bind result f
  | final result => rfl

/-- `x` is `y` and one conversion. -/
abbrev Reports {α : Type} (result : α → Int) (x : Act L α) (y : Act L Reply) : Prop :=
  Concludes result Reply.conclude x y

section

variable {α : Type} {result : α → Int}

theorem reports_errnoReturn (r : Int) : Reports id (errnoReturn r : Act L Int) (pure (.internal r)) :=
  .last (id_map _)

theorem reports_errnoReturn' {f : Int → α} (h : ∀ n, result (f n) = n) (r : Int) :
    Reports result (do return f (← errnoReturn r) : Act L α) (pure (.internal r)) := by
  apply Concludes.last
  simp [h, Reply.conclude]

theorem reports_final (a : α) : Reports (L := L) result (pure a) (pure (.final (result a))) :=
  .last (map_pure _ _)

end

namespace Unconverted

section

variable {α : Type} {result : α → Int}

/-- A call of a descriptor reports what its cases report. -/
theorem reports_call {sockfd : Int} {none₁ invalid₁ : Act L α} {none₂ invalid₂ : Act L Reply}
    {sctp₁ : Nat → SCTPSocketDesc → Act L α} {sctp₂ : Nat → SCTPSocketDesc → Act L Reply}
    {system₁ : Nat → Int → Act L α} {system₂ : Nat → Int → Act L Reply}
    (hnone : Reports result none₁ none₂) (hsctp : ∀ slot desc, Reports result (sctp₁ slot desc) (sctp₂ slot desc))
    (hsystem : ∀ slot fd, Reports result (system₁ slot fd) (system₂ slot fd)) (hinvalid : Reports result invalid₁ invalid₂) :
    Reports result
      (match getSocket sockfd with
        | none => none₁
        | some slot => do
          match ← descriptorAt slot with
          | .sctp desc => sctp₁ slot desc
          | .system fd => system₁ slot fd
          | .invalid => invalid₁)
      (match getSocket sockfd with
        | none => none₂
        | some slot => do
          match ← descriptorAt slot with
          | .sctp desc => sctp₂ slot desc
          | .system fd => system₂ slot fd
          | .invalid => invalid₂) := by
  cases getSocket sockfd with
  | none => exact hnone
  | some slot =>
    apply Concludes.bind
    intro td
    cases td with
    | sctp desc => exact hsctp slot desc
    | system fd => exact hsystem slot fd
    | invalid => exact hinvalid

end

/-! ## Opening and closing -/

def ext_socket (domain : Family) (type : SocketType) (isSCTP : Bool) : Act L Reply := do
  if isSCTP then
    if !E.initialized then
      return .internal (-ENOPROTOOPT)
    if type = .other then
      return .internal (-EINVAL)
    let connectionOriented := type = .stream
    let s ← SCTPSocket.new domain { globalQueue := !connectionOriented, autoConnect := !connectionOriented }
    if !connectionOriented then
      SCTPSocket.setNotificationFlags s defaultFlags
    let result ← ExtSocketDescriptorMaster.setSocket E (.sctp { domain, type, sctpSocketPtr := some s, connectionOriented })
    if result < 0 then
      SCTPSocket.delete E s
    return .internal result
  else
    let systemSocketID ← openSystem E
    if 0 ≤ systemSocketID then
      return .internal (← ExtSocketDescriptorMaster.setSocket E (.system systemSocketID))
    else
      return .internal systemSocketID

theorem ext_socket_reports (domain : Family) (type : SocketType) (isSCTP : Bool) :
    Reports id (SocketApi.ext_socket E domain type isSCTP) (ext_socket E domain type isSCTP) := by
  have hrest (s : SocketPtr) (td : ExtSocketDescriptor) : Reports id
      (do
        let result ← ExtSocketDescriptorMaster.setSocket E td
        if result < 0 then
          SCTPSocket.delete E s
        errnoReturn result)
      (do
        let result ← ExtSocketDescriptorMaster.setSocket E td
        if result < 0 then
          SCTPSocket.delete E s
        return .internal result) :=
    .bind fun result => .ite (.bind fun _ => reports_errnoReturn result) (reports_errnoReturn result)
  unfold SocketApi.ext_socket ext_socket
  apply Concludes.ite
  · apply Concludes.ite
    · exact reports_errnoReturn _
    · apply Concludes.ite
      · exact reports_errnoReturn _
      · apply Concludes.bind
        intro s
        exact .ite (.bind fun _ => hrest s _) (hrest s _)
  · apply Concludes.bind
    intro systemSocketID
    apply Concludes.ite
    · exact .bind fun result => reports_errnoReturn result
    · exact reports_errnoReturn systemSocketID

def openDescriptor : Act L Reply := do
  let systemSocketID ← openSystem E
  if 0 ≤ systemSocketID then
    let result ← ExtSocketDescriptorMaster.setSocket E (.system systemSocketID)
    if result < 0 then closeSystem systemSocketID
    return .internal result
  else
    return .internal systemSocketID

theorem openDescriptor_reports : Reports id (SocketApi.openDescriptor E) (openDescriptor E) := by
  unfold SocketApi.openDescriptor openDescriptor
  apply Concludes.bind
  intro systemSocketID
  apply Concludes.ite
  · apply Concludes.bind
    intro result
    exact .ite (.bind fun _ => reports_errnoReturn result) (reports_errnoReturn result)
  · exact reports_errnoReturn systemSocketID

def ext_close (sockfd : Int) : Act L Reply := do
  match getSocket sockfd with
  | none => return .internal (-EBADF)
  | some slot =>
    lock
    match ← descriptorAt slot with
    | .sctp desc =>
      closeAssociation E desc
      setDesc slot fun d => { d with sctpAssociationPtr := none }
      closeSocket E slot desc
      setDesc slot fun d => { d with sctpSocketPtr := none }
    | .system systemSocketID => closeSystem systemSocketID
    | .invalid =>
      unlock E
      return .internal (- ENXIO)
    setDescriptor slot .invalid
    unlock E
    return .internal 0

theorem ext_close_reports (sockfd : Int) : Reports id (SocketApi.ext_close E sockfd) (ext_close E sockfd) := by
  unfold SocketApi.ext_close ext_close
  cases getSocket sockfd with
  | none => exact reports_errnoReturn _
  | some slot =>
    refine .bind fun _ => .bind fun td => ?_
    cases td with
    | sctp desc =>
      exact .bind fun _ => .bind fun _ => .bind fun _ => .bind fun _ => .bind fun _ => .bind fun _ => reports_errnoReturn 0
    | system systemSocketID => exact .bind fun _ => .bind fun _ => .bind fun _ => reports_errnoReturn 0
    | invalid => exact .bind fun _ => reports_errnoReturn _

def ext_pipe : Act L Reply := do
  match ← pipeSystem E with
  | some newPipe =>
    let fd0 ← ExtSocketDescriptorMaster.setSocket E (.system newPipe.1)
    if fd0 < 0 then
      closeSystem newPipe.1
      closeSystem newPipe.2
      return .internal fd0
    let fd1 ← ExtSocketDescriptorMaster.setSocket E (.system newPipe.2)
    if fd1 < 0 then
      discard (SocketApi.ext_close E fd0)
      closeSystem newPipe.2
      return .internal fd1
    return .internal 0
  | none => return .final (-1)

theorem ext_pipe_reports (fds : Int × Int) : Reports Prod.fst (SocketApi.ext_pipe E fds) (ext_pipe E) := by
  unfold SocketApi.ext_pipe ext_pipe
  apply Concludes.bind
  intro newPipe
  cases newPipe with
  | none => exact reports_final _
  | some newPipe =>
    apply Concludes.bind
    intro fd0
    apply Concludes.ite
    · exact .bind fun _ => .bind fun _ => reports_errnoReturn' (fun _ => rfl) fd0
    · apply Concludes.bind
      intro fd1
      apply Concludes.ite
      · exact .bind fun _ => .bind fun _ => reports_errnoReturn' (fun _ => rfl) fd1
      · exact reports_errnoReturn' (fun _ => rfl) 0

/-! ## Binding and listening -/

def sctp_bindx (sockfd : Int) (addrs : List (Option SocketAddress)) (flags : BindxFlags) : Act L Reply := do
  match getSocket sockfd with
  | none => return .internal (-EBADF)
  | some slot =>
    match ← descriptorAt slot with
    | .sctp desc =>
      if addrs.length < 1 ∨ SCTP_MAX_NUM_ADDRESSES < addrs.length then
        return .internal (-EINVAL)
      else
        match desc.sctpSocketPtr, addrs.mapM id with
        | none, _ => return .internal (-EBADF)
        | some _, none => return .internal (-ENOMEM)
        | some s, some addresses => return .internal (← bindAddresses E desc s addresses flags)
    | .system systemSocketID => return .final (E.systemCall systemSocketID)
    | .invalid => return .internal (- ENXIO)

theorem sctp_bindx_reports (sockfd : Int) (addrs : List (Option SocketAddress)) (flags : BindxFlags) :
    Reports id (SocketApi.sctp_bindx E sockfd addrs flags) (sctp_bindx E sockfd addrs flags) := by
  unfold SocketApi.sctp_bindx sctp_bindx
  refine reports_call (reports_errnoReturn _) (fun slot desc => .ite (reports_errnoReturn _) ?_)
    (fun _ _ => reports_final _) (reports_errnoReturn _)
  cases desc.sctpSocketPtr with
  | none => exact reports_errnoReturn _
  | some s =>
    cases addrs.mapM id with
    | none => exact reports_errnoReturn _
    | some addresses => exact .bind fun result => reports_errnoReturn result

def ext_bind (sockfd : Int) (address : Option SocketAddress) : Act L Reply := do
  match getSocket sockfd with
  | none => return .internal (-EBADF)
  | some slot =>
    match ← descriptorAt slot with
    | .sctp _ => sctp_bindx E sockfd [address] .addAddr
    | .system systemSocketID => return .final (E.systemCall systemSocketID)
    | .invalid => return .internal (- ENXIO)

theorem ext_bind_reports (sockfd : Int) (address : Option SocketAddress) :
    Reports id (SocketApi.ext_bind E sockfd address) (ext_bind E sockfd address) := by
  unfold SocketApi.ext_bind ext_bind
  exact reports_call (reports_errnoReturn _) (fun _ _ => sctp_bindx_reports E sockfd [address] .addAddr)
    (fun _ _ => reports_final _) (reports_errnoReturn _)

def ext_listen (sockfd : Int) (backlog : Nat) : Act L Reply := do
  match getSocket sockfd with
  | none => return .internal (-EBADF)
  | some slot =>
    match ← descriptorAt slot with
    | .sctp desc =>
      discard (bindToAny E slot)
      match desc.sctpSocketPtr with
      | some s =>
        SCTPSocket.listen E s backlog
        return .internal 0
      | none => return .internal (-EOPNOTSUPP)
    | .system systemSocketID => return .final (E.systemCall systemSocketID)
    | .invalid => return .internal (- ENXIO)

theorem ext_listen_reports (sockfd : Int) (backlog : Nat) :
    Reports id (SocketApi.ext_listen E sockfd backlog) (ext_listen E sockfd backlog) := by
  unfold SocketApi.ext_listen ext_listen
  refine reports_call (reports_errnoReturn _) (fun slot desc => .bind fun _ => ?_) (fun _ _ => reports_final _)
    (reports_errnoReturn _)
  cases desc.sctpSocketPtr with
  | none => exact reports_errnoReturn _
  | some s => exact .bind fun _ => reports_errnoReturn 0

/-! ## Accepting and peeling off -/

def ext_accept (sockfd : Int) : Act L Reply := do
  match getSocket sockfd with
  | none => return .internal (-EBADF)
  | some slot =>
    match ← descriptorAt slot with
    | .sctp desc =>
      match desc.sctpSocketPtr with
      | none => return .internal (-EOPNOTSUPP)
      | some s =>
        match ← SCTPSocket.accept E s true (!desc.nonBlock) with
        | (none, _) => return .internal (-EAGAIN)
        | (some p, _) =>
          let newFD ← newDescriptor E slot p
          if newFD < 0 then throw .undefinedBehaviour
          SCTPAssociation.setNotificationFlags p defaultFlags
          return .internal newFD
    | .system _ =>
      let systemSocketID ← openSystem E
      if 0 ≤ systemSocketID then
        let result ← ExtSocketDescriptorMaster.setSocket E (.system systemSocketID)
        if result < 0 then closeSystem systemSocketID
        return .internal result
      else
        return .internal systemSocketID
    | .invalid => return .internal (- ENXIO)

theorem ext_accept_reports (sockfd : Int) (addrlen : Option Nat) :
    Reports Prod.fst (SocketApi.ext_accept E sockfd addrlen) (ext_accept E sockfd) := by
  have hpair {length : Option Nat} (r : Int) :
      Reports Prod.fst (do return (← errnoReturn r, length) : Act L _) (pure (.internal r)) :=
    reports_errnoReturn' (fun _ => rfl) r
  unfold SocketApi.ext_accept ext_accept
  refine reports_call (hpair _) (fun slot desc => ?_) (fun slot fd => .bind fun systemSocketID => ?_) (hpair _)
  · cases desc.sctpSocketPtr with
    | none => exact hpair _
    | some s =>
      apply Concludes.bind
      rintro ⟨association, addresses⟩
      cases association with
      | none => exact hpair _
      | some p => exact .bind fun newFD => .ite (.throw _) (.bind fun _ => hpair newFD)
  · apply Concludes.ite
    · exact .bind fun result => .ite (.bind fun _ => hpair result) (hpair result)
    · exact hpair systemSocketID

def sctp_peeloff (sockfd : Int) (id : AssocID) : Act L Reply := do
  match getSocket sockfd with
  | none => return .internal (-EBADF)
  | some slot =>
    match ← descriptorAt slot with
    | .sctp desc =>
      let association ← match desc.sctpSocketPtr with
        | some s => if desc.type ≠ .stream then SCTPSocket.peelOff E s id else pure none
        | none => pure none
      match association with
      | some p => return .internal (← newDescriptor E slot p)
      | none => return .internal (-EINVAL)
    | _ => return .internal (-EOPNOTSUPP)

/-- The conversion of an unknown descriptor is missing. -/
theorem sctp_peeloff_reports {sockfd : Int} (id' : AssocID) (h : (getSocket sockfd).isSome) :
    Reports id (SocketApi.sctp_peeloff E sockfd id') (sctp_peeloff E sockfd id') := by
  have hlast (slot : Nat) (association : Option AssocPtr) : Reports id
      (match association with
        | some p => do errnoReturn (← newDescriptor E slot p)
        | none => errnoReturn (-EINVAL))
      (match association with
        | some p => do return .internal (← newDescriptor E slot p)
        | none => return .internal (-EINVAL)) := by
    cases association with
    | none => exact reports_errnoReturn _
    | some p => exact .bind fun newFD => reports_errnoReturn newFD
  unfold SocketApi.sctp_peeloff sctp_peeloff
  obtain ⟨slot, hslot⟩ := Option.isSome_iff_exists.mp h
  rw [hslot]
  apply Concludes.bind
  intro td
  cases td with
  | sctp desc =>
    dsimp only
    cases desc.sctpSocketPtr with
    | none => exact hlast slot none
    | some s => exact .ite (.bind fun association => hlast slot association) (hlast slot none)
  | system _ => exact reports_errnoReturn _
  | invalid => exact reports_errnoReturn _

/-! ## Connecting -/

def ext_connectx (sockfd : Int) (addrs : List (Option SocketAddress)) : Act L Reply := do
  match getSocket sockfd with
  | none => return .internal (-EBADF)
  | some slot =>
    match ← descriptorAt slot with
    | .sctp desc =>
      discard (bindToAny E slot)
      match desc.sctpSocketPtr, addrs.mapM id with
      | none, _ => return .internal (-EBADF)
      | some _, none => return .internal (-EINVAL)
      | some s, some addresses =>
        if desc.connectionOriented then
          let association ← SCTPSocket.associate E s desc.initMsg.numOstreams desc.initMsg.maxAttempts
            desc.initMsg.maxInitTimeo addresses (!desc.nonBlock)
          setDesc slot fun d => { d with sctpAssociationPtr := association }
          match association with
          | none => return .internal (- EIO)
          | some p =>
            release p
            if desc.nonBlock then
              return .internal (-EINPROGRESS)
            else
              let _ ← SCTPAssociation.getID p
              return .internal 0
        else
          let (result, _) ← SCTPSocket.sendTo E s
            { params := { flags := { dontwait := desc.nonBlock } }
              maxAttempts := desc.initMsg.maxAttempts, maxInitTimeout := desc.initMsg.maxInitTimeo
              destinationAddressList := some addresses, noOfOutgoingStreams := desc.initMsg.numOstreams }
          if result = 0 ∧ desc.nonBlock then
            return .internal (-EINPROGRESS)
          else
            return .internal result
    | .system _ => return .internal (-EOPNOTSUPP)
    | .invalid => return .internal (- ENXIO)

theorem ext_connectx_reports (sockfd : Int) (addrs : List (Option SocketAddress)) :
    Reports Prod.fst (SocketApi.ext_connectx E sockfd addrs) (ext_connectx E sockfd addrs) := by
  have hpair {id : AssocID} (r : Int) :
      Reports Prod.fst (do return (← errnoReturn r, id) : Act L _) (pure (.internal r)) :=
    reports_errnoReturn' (fun _ => rfl) r
  unfold SocketApi.ext_connectx ext_connectx
  refine reports_call (hpair _) (fun slot desc => .bind fun _ => ?_) (fun _ _ => hpair _) (hpair _)
  cases desc.sctpSocketPtr with
  | none => exact hpair _
  | some s =>
    cases addrs.mapM id with
    | none => exact hpair _
    | some addresses =>
      apply Concludes.ite
      · refine .bind fun association => .bind fun _ => ?_
        cases association with
        | none => exact hpair _
        | some p => exact .bind fun _ => .ite (hpair _) (.bind fun id => hpair 0)
      · exact .bind fun r => .ite (hpair _) (hpair r.1)

def ext_connect (unused : Int) (sockfd : Int) (address : Option SocketAddress) : Act L Reply := do
  match getSocket sockfd with
  | none => return .internal (-EBADF)
  | some slot =>
    match ← descriptorAt slot with
    | .sctp _ => ext_connectx E sockfd [address]
    | .system systemSocketID => return .final (E.systemCall systemSocketID)
    | .invalid => return .final (E.systemCall unused)

theorem ext_connect_reports (unused : Int) (sockfd : Int) (address : Option SocketAddress) :
    Reports id (SocketApi.ext_connect E unused sockfd address) (ext_connect E unused sockfd address) := by
  unfold SocketApi.ext_connect ext_connect
  exact reports_call (reports_errnoReturn _) (fun _ _ => .project (ext_connectx_reports E sockfd [address]))
    (fun _ _ => reports_final _) (reports_final _)

end Unconverted

end SocketApi
