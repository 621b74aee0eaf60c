import SocketApi.Reporting.Reply

/-!
# Unconverted sends and receives

A receive into several buffers hands on a failure only if nothing has been received before; a
later one is converted and then forgotten.
-/

namespace SocketApi

open Effect ExtSocketDescriptorMaster

variable {L : Sctplib} (E : Environment L)

namespace Unconverted

/-! ## Receiving -/

/-- A receive into one buffer: its answer, the header, the length field and the bytes. -/
abbrev Receipt := Reply × RecvMsgHdr × Nat × List UInt8

def concludeReceipt (r : Receipt) : Act L RecvOutcome := do
  return { result := ← r.1.conclude, msg := r.2.1, iovLen := r.2.2.1, bytes := r.2.2.2 }

theorem concludeReceipt_bind {α : Type} (r : Receipt) (f : RecvOutcome → Act L α) :
    concludeReceipt r >>= f = r.1.conclude >>= fun _ => f ⟨r.1.returned, r.2.1, r.2.2.1, r.2.2.2⟩ := by
  unfold concludeReceipt
  rw [bind_assoc, Reply.conclude_bind]
  simp

def ext_recvmsg_singlebuffer (sockfd : Int) (msg : RecvMsgHdr) (iovLen : Nat) (flags : MsgFlags)
    (receiveNotifications : Bool) : Act L Receipt := do
  match getSocket sockfd with
  | none => return (.internal (-EBADF), msg, iovLen, [])
  | some slot =>
    match ← descriptorAt slot with
    | .sctp desc =>
      let msgFlags := { msg.flags.or flags with notification := receiveNotifications }
      let msgFlags := { msgFlags with dontwait := msgFlags.dontwait || desc.nonBlock }
      let io : ReceiveIO :=
        { bufferSize := iovLen, flags := msgFlags, assocID := 0, streamID := 0, protoID := 0, ssn := 0, tsn := 0 }
      let (r, notificationFlags) ←
        match desc.sctpAssociationPtr, desc.connectionOriented, desc.sctpSocketPtr with
        | some p, true, _ => do
          let r ← receiveUntilDone E (SCTPAssociation.receive E p) iovLen io
          let a ← associationAt p
          pure ({ r with io := { r.io with assocID := a.associationID } }, a.notificationFlags)
        | _, _, some s => do
          let r ← receiveUntilDone E (SCTPSocket.receiveFrom E s · true) iovLen io
          pure (r, (← socketAt s).notificationFlags)
        | _, _, none => pure ({ result := -EBADF, io }, {})
      let result := if 0 ≤ r.result then intOfSize r.io.bufferSize else r.result
      let msg := fillHeader msg flags desc.domain notificationFlags { r with result }
      return (.internal result, msg, r.io.bufferSize, r.bytes)
    | .system systemSocketID => return (.final (E.systemCall systemSocketID), msg, iovLen, [])
    | .invalid => return (.internal (- ENXIO), msg, iovLen, [])

theorem ext_recvmsg_singlebuffer_eq (sockfd : Int) (msg : RecvMsgHdr) (iovLen : Nat) (flags : MsgFlags)
    (receiveNotifications : Bool) :
    SocketApi.ext_recvmsg_singlebuffer E sockfd msg iovLen flags receiveNotifications =
      ext_recvmsg_singlebuffer E sockfd msg iovLen flags receiveNotifications >>= concludeReceipt := by
  have hlast (x : Act L (ReceiveResult × NotificationFlags)) (domain : Family) : Concludes id concludeReceipt
      (do
        let (r, notificationFlags) ← x
        let result := if 0 ≤ r.result then intOfSize r.io.bufferSize else r.result
        let msg := fillHeader msg flags domain notificationFlags { r with result }
        return { result := ← errnoReturn result, msg, iovLen := r.io.bufferSize, bytes := r.bytes })
      (do
        let (r, notificationFlags) ← x
        let result := if 0 ≤ r.result then intOfSize r.io.bufferSize else r.result
        let msg := fillHeader msg flags domain notificationFlags { r with result }
        return (.internal result, msg, r.io.bufferSize, r.bytes)) :=
    .bind fun r => .last (id_map _)
  rw [← Concludes.id_iff]
  unfold SocketApi.ext_recvmsg_singlebuffer ext_recvmsg_singlebuffer
  cases getSocket sockfd with
  | none => exact .last (id_map _)
  | some slot =>
    apply Concludes.bind
    intro td
    cases td with
    | system fd => exact .last (id_map _)
    | invalid => exact .last (id_map _)
    | sctp desc =>
      dsimp only
      cases desc.sctpAssociationPtr with
      | none =>
        cases desc.sctpSocketPtr with
        | none => exact hlast (pure _) desc.domain
        | some s => exact .bind fun r => .bind fun o => hlast (pure _) desc.domain
      | some p =>
        cases desc.connectionOriented with
        | true => exact .bind fun r => .bind fun a => hlast (pure _) desc.domain
        | false =>
          cases desc.sctpSocketPtr with
          | none => exact hlast (pure _) desc.domain
          | some s => exact .bind fun r => .bind fun o => hlast (pure _) desc.domain

def recvBuffers (sockfd : Int) (flags : MsgFlags) (receiveNotifications : Bool) :
    RecvMsgHdr → Int → List Nat → Act L Reply
  | _, result, [] => return .final result
  | msg, result, iovLen :: rest => do
    let receipt ← ext_recvmsg_singlebuffer E sockfd msg iovLen flags receiveNotifications
    let subresult := receipt.1.returned
    let result := if 0 < subresult then result + subresult else result
    if result = 0 ∧ subresult ≤ 0 then
      return receipt.1
    let sub ← concludeReceipt receipt
    if subresult < intOfSize sub.iovLen ∧ sub.msg.flags.eor then
      return .final result
    recvBuffers sockfd flags receiveNotifications sub.msg result rest

theorem recvBuffers_reports (sockfd : Int) (flags : MsgFlags) (receiveNotifications : Bool) (iov : List Nat)
    (msg : RecvMsgHdr) (result : Int) :
    Reports RecvAllOutcome.result (SocketApi.recvBuffers E sockfd flags receiveNotifications msg result iov)
      (recvBuffers E sockfd flags receiveNotifications msg result iov) := by
  induction iov generalizing msg result with
  | nil => exact reports_final _
  | cons iovLen rest ih =>
    unfold SocketApi.recvBuffers recvBuffers
    rw [ext_recvmsg_singlebuffer_eq, bind_assoc]
    apply Concludes.bind
    intro receipt
    simp only [concludeReceipt_bind]
    by_cases h : (if 0 < receipt.1.returned then result + receipt.1.returned else result) = 0 ∧ receipt.1.returned ≤ 0
    · simp only [if_pos h]
      apply Concludes.last
      simp only [map_bind, map_pure]
      exact (receipt.1.conclude_bind pure).symm.trans (bind_pure _)
    · simp only [if_neg h]
      apply Concludes.bind
      intro _
      apply Concludes.ite
      · exact reports_final _
      · exact .project (ih _ _)

def ext_recvmsg2 (sockfd : Int) (msg : RecvMsgHdr) (iov : List Nat) (flags : MsgFlags)
    (receiveNotifications : Bool) : Act L Reply :=
  recvBuffers E sockfd flags receiveNotifications msg 0 iov

theorem ext_recvmsg2_reports (sockfd : Int) (msg : RecvMsgHdr) (iov : List Nat) (flags : MsgFlags)
    (receiveNotifications : Bool) :
    Reports RecvAllOutcome.result (SocketApi.ext_recvmsg2 E sockfd msg iov flags receiveNotifications)
      (ext_recvmsg2 E sockfd msg iov flags receiveNotifications) :=
  recvBuffers_reports E sockfd flags receiveNotifications iov msg 0

def ext_recvmsg (sockfd : Int) (msg : RecvMsgHdr) (iov : List Nat) (flags : MsgFlags) : Act L Reply :=
  ext_recvmsg2 E sockfd msg iov flags true

def ext_recvfrom (sockfd : Int) (len : Nat) (flags : MsgFlags) (fromlen : Option Nat) : Act L Reply :=
  ext_recvmsg2 E sockfd { name := fromlen.isSome, namelen := fromlen.getD 0, control := true, controllen := 1024
                          flags } [len] flags false

def ext_recv (sockfd : Int) (len : Nat) (flags : MsgFlags) : Act L Reply := ext_recvfrom E sockfd len flags none

def ext_read (fd : Int) (count : Nat) : Act L Reply := ext_recv E fd count {}

def ext_recvmsgWithoutBuffers (sockfd : Int) : Act L Reply := do
  match getSocket sockfd with
  | none => return .internal (-EBADF)
  | some slot =>
    match ← descriptorAt slot with
    | .sctp _ => return .internal (-EINVAL)
    | .system systemSocketID => return .final (E.systemCall systemSocketID)
    | .invalid => return .internal (- ENXIO)

theorem ext_recvmsgWithoutBuffers_reports (sockfd : Int) :
    Reports id (SocketApi.ext_recvmsgWithoutBuffers E sockfd) (ext_recvmsgWithoutBuffers E sockfd) := by
  unfold SocketApi.ext_recvmsgWithoutBuffers ext_recvmsgWithoutBuffers
  exact reports_call (reports_errnoReturn _) (fun _ _ => reports_errnoReturn _) (fun _ _ => reports_final _)
    (reports_errnoReturn _)

def sctp_recvmsg (s : Int) (len : Nat) (fromlen : Option Nat) (msg_flags : MsgFlags) : Act L Reply :=
  ext_recvmsg E s { name := fromlen.isSome, namelen := fromlen.getD 0, control := true, controllen := sndrcvSpace
                    flags := msg_flags } [len] {}

theorem sctp_recvmsg_reports (s : Int) (len : Nat) (fromlen : Option Nat) (sinfo : Option SctpSndrcvinfo)
    (msg_flags : MsgFlags) :
    Reports SctpRecvOutcome.result (SocketApi.sctp_recvmsg E s len fromlen sinfo msg_flags)
      (sctp_recvmsg E s len fromlen msg_flags) := by
  unfold SocketApi.sctp_recvmsg sctp_recvmsg
  exact .project (ext_recvmsg2_reports E s _ [len] {} true)

/-! ## Sending -/

def ext_sendmsg_singlebuffer (sockfd : Int) (msg : SendMsgHdr) (buffer : List UInt8) (flags : MsgFlags) :
    Act L Reply := do
  match getSocket sockfd with
  | none => return .internal (-EBADF)
  | some slot =>
    match ← descriptorAt slot with
    | .sctp _ =>
      discard (bindToAny E slot)
      match ← sendControl E slot msg.name none msg.control with
      | .error error => return .internal error
      | .ok info =>
        match ← descriptorAt slot with
        | .sctp desc =>
          let flags := (flags.or msg.flags).or ((info.map (·.sinfo_flags)).getD {})
          let flags := { flags with dontwait := flags.dontwait || desc.nonBlock }
          match msg.name, desc.sctpAssociationPtr, desc.sctpSocketPtr with
          | some name, _, some s =>
            if flags.multiAddrs ∧ SCTP_MAX_NUM_ADDRESSES < (name.takeWhile Option.isSome).length then
              throw .undefinedBehaviour
            else
              match destinations flags name with
              | some addresses =>
                return .internal (← SCTPSocket.sendTo E s (sendCall desc buffer flags info (some addresses))).1
              | none => return .internal (-EINVAL)
          | none, some p, _ =>
            let c := sendCall desc buffer flags info none
            return .internal (← SCTPAssociation.send E p buffer c.params c.useDefaults)
          | none, none, some s => return .internal (← SCTPSocket.sendTo E s (sendCall desc buffer flags info none)).1
          | _, _, none => return .internal (-EBADF)
        | _ => throw .undefinedBehaviour
    | .system systemSocketID => return .final (E.systemCall systemSocketID)
    | .invalid => return .internal (- ENXIO)

theorem ext_sendmsg_singlebuffer_reports (sockfd : Int) (msg : SendMsgHdr) (buffer : List UInt8) (flags : MsgFlags) :
    Reports id (SocketApi.ext_sendmsg_singlebuffer E sockfd msg buffer flags)
      (ext_sendmsg_singlebuffer E sockfd msg buffer flags) := by
  unfold SocketApi.ext_sendmsg_singlebuffer ext_sendmsg_singlebuffer
  refine reports_call (reports_errnoReturn _) (fun slot _ => .bind fun _ => .bind fun control => ?_)
    (fun _ _ => reports_final _) (reports_errnoReturn _)
  cases control with
  | error error => exact reports_errnoReturn error
  | ok info =>
    apply Concludes.bind
    intro td
    cases td with
    | invalid => exact .throw _
    | system _ => exact .throw _
    | sctp desc =>
      obtain ⟨name, control, msgFlags⟩ := msg
      cases name with
      | none =>
        dsimp only
        cases desc.sctpAssociationPtr with
        | some p => exact .bind fun result => reports_errnoReturn result
        | none =>
          cases desc.sctpSocketPtr with
          | some s => exact .bind fun r => reports_errnoReturn r.1
          | none => exact reports_errnoReturn _
      | some name =>
        dsimp only
        cases desc.sctpSocketPtr with
        | none => exact reports_errnoReturn _
        | some s =>
          refine .ite (.throw _) ?_
          cases destinations _ name with
          | none => exact reports_errnoReturn _
          | some addresses => exact .bind fun r => reports_errnoReturn r.1

/-- The buffers as one message; if there is no memory for it, `-ENOMEM`. -/
def ext_sendmsg (sockfd : Int) (msg : SendMsgHdr) (iov : List (List UInt8)) (flags : MsgFlags) : Act L Reply :=
  if 1 < iov.length ∧ !E.allocates .messageBuffer then return .internal (-ENOMEM)
  else ext_sendmsg_singlebuffer E sockfd msg iov.flatten flags

/-- The conversion of `-ENOMEM` is missing. -/
theorem ext_sendmsg_reports (sockfd : Int) (msg : SendMsgHdr) {iov : List (List UInt8)} (flags : MsgFlags)
    (h : iov.length ≤ 1 ∨ E.allocates .messageBuffer) :
    Reports id (SocketApi.ext_sendmsg E sockfd msg iov flags) (ext_sendmsg E sockfd msg iov flags) := by
  have hmemory : ¬ (1 < iov.length ∧ (!E.allocates .messageBuffer) = true) := by
    rintro ⟨hlength, hnone⟩
    rcases h with h | h
    · omega
    · simp [h] at hnone
  unfold SocketApi.ext_sendmsg ext_sendmsg
  rw [if_neg hmemory, if_neg hmemory]
  exact ext_sendmsg_singlebuffer_reports E sockfd msg iov.flatten flags

def ext_sendto (sockfd : Int) (buffer : List UInt8) (flags : MsgFlags) (address : Option (Option SocketAddress)) :
    Act L Reply :=
  ext_sendmsg E sockfd { name := address.map ([·]), flags } [buffer] flags

def ext_send (sockfd : Int) (buffer : List UInt8) (flags : MsgFlags) : Act L Reply :=
  ext_sendto E sockfd buffer flags none

def ext_write (fd : Int) (buffer : List UInt8) : Act L Reply := ext_send E fd buffer {}

def sctp_sendmsg (s : Int) (data : List UInt8) (address : Option (Option SocketAddress)) (ppid : Nat) (flags : MsgFlags)
    (stream_no : StreamID) (timetolive : Nat) : Act L Reply :=
  let sri : SctpSndrcvinfo :=
    { sinfo_stream := stream_no, sinfo_ppid := ppid, sinfo_flags := flags, sinfo_timetolive := timetolive }
  ext_sendmsg E s { name := address.map ([·]), control := [.sndrcv sri], flags } [data] {}

def sctp_send (s : Int) (data : List UInt8) (sinfo : SctpSndrcvinfo) (flags : MsgFlags) : Act L Reply :=
  ext_sendmsg E s { control := [.sndrcv sinfo], flags } [data] {}

def sctp_sendx (sd : Int) (data : List UInt8) (addrs : Option (List (Option SocketAddress)))
    (sinfo : Option SctpSndrcvinfo) (flags : MsgFlags) : Act L Reply :=
  let sri := sinfo.getD {}
  let sri := { sri with sinfo_flags := { sri.sinfo_flags with multiAddrs := true } }
  ext_sendmsg E sd { name := addrs, control := [.sndrcv sri], flags := { flags with multiAddrs := true } } [data] {}

/-- Messages of one buffer need no memory. -/
theorem ext_sendmsg_one_reports (sockfd : Int) (msg : SendMsgHdr) (buffer : List UInt8) (flags : MsgFlags) :
    Reports id (SocketApi.ext_sendmsg E sockfd msg [buffer] flags) (ext_sendmsg E sockfd msg [buffer] flags) :=
  ext_sendmsg_reports E sockfd msg flags (.inl (by simp))

def ext_shutdown (sockfd : Int) : Act L Reply := do
  match getSocket sockfd with
  | none => return .internal (-EBADF)
  | some slot =>
    match ← descriptorAt slot with
    | .sctp desc =>
      match desc.sctpAssociationPtr with
      | some p =>
        SCTPAssociation.shutdown E (SCTPSocketMaster.notif E) p
        return .internal 0
      | none => return .internal (-EOPNOTSUPP)
    | .system systemSocketID => return .final (E.systemCall systemSocketID)
    | .invalid => return .internal (- ENXIO)

theorem ext_shutdown_reports (sockfd : Int) :
    Reports id (SocketApi.ext_shutdown E sockfd) (ext_shutdown E sockfd) := by
  unfold SocketApi.ext_shutdown ext_shutdown
  refine reports_call (reports_errnoReturn _) (fun slot desc => ?_) (fun _ _ => reports_final _) (reports_errnoReturn _)
  cases desc.sctpAssociationPtr with
  | none => exact reports_errnoReturn _
  | some p => exact .bind fun _ => reports_errnoReturn 0

end Unconverted

end SocketApi
