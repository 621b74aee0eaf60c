import SocketApi.Reporting.Interface
import SocketApi.Reporting.Messages
import SocketApi.Reporting.Select

/-!
# Which failures are reported

A failure that its layer gives as `-e` should end as -1 with `errno` set to `e`. Most calls do
that. `ext_select` and `ext_poll` convert what is collected twice, and five calls return a result
as it is.
-/

namespace SocketApi

open Effect ExtSocketDescriptorMaster

variable {L : Sctplib}

/-- A call of the interface and its arguments. -/
inductive Call where
  | ext_socket (domain : Family) (type : SocketType) (isSCTP : Bool)
  | ext_open
  | ext_creat
  | ext_pipe (fds : Int × Int)
  | ext_close (sockfd : Int)
  | ext_bind (sockfd : Int) (address : Option SocketAddress)
  | sctp_bindx (sockfd : Int) (addrs : List (Option SocketAddress)) (flags : BindxFlags)
  | ext_listen (sockfd : Int) (backlog : Nat)
  | ext_accept (sockfd : Int) (addrlen : Option Nat)
  | ext_getsockname (sockfd : Int) (namelen : Option Nat)
  | ext_getpeername (sockfd : Int) (namelen : Option Nat)
  | ext_fcntl (sockfd : Int) (cmd : FcntlCommand)
  | ext_ioctl (sockfd : Int)
  | ext_getsockopt (sockfd : Int) (optval : SockOpt) (fits : Bool)
  | ext_getsockoptOther (sockfd : Int) (option : OtherOption)
  | ext_setsockopt (sockfd : Int) (optval : SockOpt) (fits : Bool)
  | ext_setsockoptOther (sockfd : Int) (option : OtherOption)
  | ext_shutdown (sockfd : Int)
  | ext_connect (unused : Int) (sockfd : Int) (address : Option SocketAddress)
  | ext_connectx (sockfd : Int) (addrs : List (Option SocketAddress))
  | ext_recv (sockfd : Int) (len : Nat) (flags : MsgFlags)
  | ext_recvfrom (sockfd : Int) (len : Nat) (flags : MsgFlags) (fromlen : Option Nat)
  | ext_recvmsg2 (sockfd : Int) (msg : RecvMsgHdr) (iov : List Nat) (flags : MsgFlags) (receiveNotifications : Bool)
  | ext_recvmsg (sockfd : Int) (msg : RecvMsgHdr) (iov : List Nat) (flags : MsgFlags)
  | ext_recvmsgWithoutBuffers (sockfd : Int)
  | ext_send (sockfd : Int) (buffer : List UInt8) (flags : MsgFlags)
  | ext_sendto (sockfd : Int) (buffer : List UInt8) (flags : MsgFlags) (address : Option (Option SocketAddress))
  | ext_sendmsg (sockfd : Int) (msg : SendMsgHdr) (iov : List (List UInt8)) (flags : MsgFlags)
  | ext_read (fd : Int) (count : Nat)
  | ext_write (fd : Int) (buffer : List UInt8)
  | ext_select (n : Int) (sets : FdSets) (timeout : Option Timeval)
  | ext_poll (fdlist : List PollFd) (time : Int)
  | sctp_isavailable
  | sctp_peeloff (sockfd : Int) (id : AssocID)
  | sctp_getlpaddrs (sockfd : Int) (id : AssocID) (peerAddresses : Bool)
  | sctp_getpaddrs (sockfd : Int) (id : AssocID)
  | sctp_getladdrs (sockfd : Int) (id : AssocID)
  | sctp_opt_info (sd : Int) (assocID : AssocID) (arg : SockOpt) (fits : Bool)
  | sctp_sendmsg (s : Int) (data : List UInt8) (address : Option (Option SocketAddress)) (ppid : Nat) (flags : MsgFlags)
      (stream_no : StreamID) (timetolive : Nat)
  | sctp_send (s : Int) (data : List UInt8) (sinfo : SctpSndrcvinfo) (flags : MsgFlags)
  | sctp_sendx (sd : Int) (data : List UInt8) (addrs : Option (List (Option SocketAddress)))
      (sinfo : Option SctpSndrcvinfo) (flags : MsgFlags)
  | sctp_recvmsg (s : Int) (len : Nat) (fromlen : Option Nat) (sinfo : Option SctpSndrcvinfo) (msg_flags : MsgFlags)
  | sctp_enableOOTBHandling (enable : Nat)
  | sctp_enableCRC32 (enable : Nat)

section

variable (E : Environment L) (S : SelectEnvironment) (T : LibraryAccess L)

/-- The result of a call. -/
def Call.run : Call → Act L Int
  | ext_socket domain type isSCTP => SocketApi.ext_socket E domain type isSCTP
  | ext_open => SocketApi.ext_open E
  | ext_creat => SocketApi.ext_creat E
  | ext_pipe fds => Prod.fst <$> SocketApi.ext_pipe E fds
  | ext_close sockfd => SocketApi.ext_close E sockfd
  | ext_bind sockfd address => SocketApi.ext_bind E sockfd address
  | sctp_bindx sockfd addrs flags => SocketApi.sctp_bindx E sockfd addrs flags
  | ext_listen sockfd backlog => SocketApi.ext_listen E sockfd backlog
  | ext_accept sockfd addrlen => Prod.fst <$> SocketApi.ext_accept E sockfd addrlen
  | ext_getsockname sockfd namelen => Prod.fst <$> SocketApi.ext_getsockname E sockfd namelen
  | ext_getpeername sockfd namelen => Prod.fst <$> SocketApi.ext_getpeername E sockfd namelen
  | ext_fcntl sockfd cmd => SocketApi.ext_fcntl E sockfd cmd
  | ext_ioctl sockfd => SocketApi.ext_ioctl E sockfd
  | ext_getsockopt sockfd optval fits => Prod.fst <$> SocketApi.ext_getsockopt E sockfd optval fits
  | ext_getsockoptOther sockfd option => SocketApi.ext_getsockoptOther E sockfd option
  | ext_setsockopt sockfd optval fits => SocketApi.ext_setsockopt E sockfd optval fits
  | ext_setsockoptOther sockfd option => SocketApi.ext_setsockoptOther E sockfd option
  | ext_shutdown sockfd => SocketApi.ext_shutdown E sockfd
  | ext_connect unused sockfd address => SocketApi.ext_connect E unused sockfd address
  | ext_connectx sockfd addrs => Prod.fst <$> SocketApi.ext_connectx E sockfd addrs
  | ext_recv sockfd len flags => RecvAllOutcome.result <$> SocketApi.ext_recv E sockfd len flags
  | ext_recvfrom sockfd len flags fromlen => RecvAllOutcome.result <$> SocketApi.ext_recvfrom E sockfd len flags fromlen
  | ext_recvmsg2 sockfd msg iov flags receiveNotifications =>
    RecvAllOutcome.result <$> SocketApi.ext_recvmsg2 E sockfd msg iov flags receiveNotifications
  | ext_recvmsg sockfd msg iov flags => RecvAllOutcome.result <$> SocketApi.ext_recvmsg E sockfd msg iov flags
  | ext_recvmsgWithoutBuffers sockfd => SocketApi.ext_recvmsgWithoutBuffers E sockfd
  | ext_send sockfd buffer flags => SocketApi.ext_send E sockfd buffer flags
  | ext_sendto sockfd buffer flags address => SocketApi.ext_sendto E sockfd buffer flags address
  | ext_sendmsg sockfd msg iov flags => SocketApi.ext_sendmsg E sockfd msg iov flags
  | ext_read fd count => RecvAllOutcome.result <$> SocketApi.ext_read E fd count
  | ext_write fd buffer => SocketApi.ext_write E fd buffer
  | ext_select n sets timeout => Prod.fst <$> SocketApi.ext_select E S n sets timeout
  | ext_poll fdlist time => Prod.fst <$> SocketApi.ext_poll E S fdlist time
  | sctp_isavailable => SocketApi.sctp_isavailable E
  | sctp_peeloff sockfd id => SocketApi.sctp_peeloff E sockfd id
  | sctp_getlpaddrs sockfd id peerAddresses => Prod.fst <$> SocketApi.sctp_getlpaddrs E sockfd id peerAddresses
  | sctp_getpaddrs sockfd id => Prod.fst <$> SocketApi.sctp_getpaddrs E sockfd id
  | sctp_getladdrs sockfd id => Prod.fst <$> SocketApi.sctp_getladdrs E sockfd id
  | sctp_opt_info sd assocID arg fits => Prod.fst <$> SocketApi.sctp_opt_info E sd assocID arg fits
  | sctp_sendmsg s data address ppid flags stream_no timetolive =>
    SocketApi.sctp_sendmsg E s data address ppid flags stream_no timetolive
  | sctp_send s data sinfo flags => SocketApi.sctp_send E s data sinfo flags
  | sctp_sendx sd data addrs sinfo flags => SocketApi.sctp_sendx E sd data addrs sinfo flags
  | sctp_recvmsg s len fromlen sinfo msg_flags =>
    SctpRecvOutcome.result <$> SocketApi.sctp_recvmsg E s len fromlen sinfo msg_flags
  | sctp_enableOOTBHandling enable => SocketApi.sctp_enableOOTBHandling E T enable
  | sctp_enableCRC32 enable => SocketApi.sctp_enableCRC32 E T enable

/-- What a call has found before its conversion. -/
def Call.unconverted : Call → Act L Reply
  | ext_socket domain type isSCTP => Unconverted.ext_socket E domain type isSCTP
  | ext_open => Unconverted.openDescriptor E
  | ext_creat => Unconverted.openDescriptor E
  | ext_pipe _ => Unconverted.ext_pipe E
  | ext_close sockfd => Unconverted.ext_close E sockfd
  | ext_bind sockfd address => Unconverted.ext_bind E sockfd address
  | sctp_bindx sockfd addrs flags => Unconverted.sctp_bindx E sockfd addrs flags
  | ext_listen sockfd backlog => Unconverted.ext_listen E sockfd backlog
  | ext_accept sockfd _ => Unconverted.ext_accept E sockfd
  | ext_getsockname sockfd namelen => Unconverted.ext_getsockname E sockfd namelen
  | ext_getpeername sockfd namelen => Unconverted.ext_getpeername E sockfd namelen
  | ext_fcntl sockfd cmd => Unconverted.ext_fcntl E sockfd cmd
  | ext_ioctl sockfd => Unconverted.ext_ioctl E sockfd
  | ext_getsockopt sockfd optval fits => Unconverted.ext_getsockopt E sockfd optval fits
  | ext_getsockoptOther sockfd option => Unconverted.ext_getsockoptOther E sockfd option
  | ext_setsockopt sockfd optval fits => Unconverted.ext_setsockopt E sockfd optval fits
  | ext_setsockoptOther sockfd option => Unconverted.ext_setsockoptOther E sockfd option
  | ext_shutdown sockfd => Unconverted.ext_shutdown E sockfd
  | ext_connect unused sockfd address => Unconverted.ext_connect E unused sockfd address
  | ext_connectx sockfd addrs => Unconverted.ext_connectx E sockfd addrs
  | ext_recv sockfd len flags => Unconverted.ext_recv E sockfd len flags
  | ext_recvfrom sockfd len flags fromlen => Unconverted.ext_recvfrom E sockfd len flags fromlen
  | ext_recvmsg2 sockfd msg iov flags receiveNotifications =>
    Unconverted.ext_recvmsg2 E sockfd msg iov flags receiveNotifications
  | ext_recvmsg sockfd msg iov flags => Unconverted.ext_recvmsg E sockfd msg iov flags
  | ext_recvmsgWithoutBuffers sockfd => Unconverted.ext_recvmsgWithoutBuffers E sockfd
  | ext_send sockfd buffer flags => Unconverted.ext_send E sockfd buffer flags
  | ext_sendto sockfd buffer flags address => Unconverted.ext_sendto E sockfd buffer flags address
  | ext_sendmsg sockfd msg iov flags => Unconverted.ext_sendmsg E sockfd msg iov flags
  | ext_read fd count => Unconverted.ext_read E fd count
  | ext_write fd buffer => Unconverted.ext_write E fd buffer
  | ext_select n sets timeout => Prod.fst <$> Unconverted.ext_select E S n sets timeout
  | ext_poll fdlist time => Unconverted.ext_poll E S fdlist time
  | sctp_isavailable => .final <$> SocketApi.sctp_isavailable E
  | sctp_peeloff sockfd id => Unconverted.sctp_peeloff E sockfd id
  | sctp_getlpaddrs sockfd id peerAddresses => Unconverted.sctp_getlpaddrs E sockfd id peerAddresses
  | sctp_getpaddrs sockfd id => Unconverted.sctp_getpaddrs E sockfd id
  | sctp_getladdrs sockfd id => Unconverted.sctp_getladdrs E sockfd id
  | sctp_opt_info sd assocID arg fits => Unconverted.sctp_opt_info E sd assocID arg fits
  | sctp_sendmsg s data address ppid flags stream_no timetolive =>
    Unconverted.sctp_sendmsg E s data address ppid flags stream_no timetolive
  | sctp_send s data sinfo flags => Unconverted.sctp_send E s data sinfo flags
  | sctp_sendx sd data addrs sinfo flags => Unconverted.sctp_sendx E sd data addrs sinfo flags
  | sctp_recvmsg s len fromlen _ msg_flags => Unconverted.sctp_recvmsg E s len fromlen msg_flags
  | sctp_enableOOTBHandling enable => Unconverted.sctp_enableOOTBHandling E T enable
  | sctp_enableCRC32 enable => Unconverted.sctp_enableCRC32 E T enable

/-- The failures of a call are converted once. -/
def Call.ReportsOnce (w : World L) : Call → Prop
  | ext_select n sets _ => S.AllUsable w sets n
  | ext_poll fdlist _ => S.AllUsable w (pollSetup fdlist).sets ((pollSetup fdlist).n + 1)
  | sctp_peeloff sockfd _ => (getSocket sockfd).isSome
  | ext_setsockopt sockfd (.events _) fits => fits → TakesEvents w sockfd
  | ext_sendmsg _ _ iov _ => iov.length ≤ 1 ∨ E.allocates .messageBuffer
  | sctp_enableOOTBHandling _ | sctp_enableCRC32 _ => False
  | _ => True

end

section

variable {E : Environment L} {S : SelectEnvironment} {T : LibraryAccess L} {w w' : World L} {e : Int}

theorem Reports.runs {α : Type} {result : α → Int} {x : Act L α} {y : Act L Reply} (h : Reports result x y)
    (hy : Runs y w (.internal (-e)) w') (he : 0 < e) : Runs (result <$> x) w (-1) (w'.setErrno e) :=
  Concludes.runs h hy (conclude_runs he)

theorem Reports.runs_id {x : Act L Int} {y : Act L Reply} (h : Reports id x y) (hy : Runs y w (.internal (-e)) w')
    (he : 0 < e) : Runs x w (-1) (w'.setErrno e) := by
  have hrun := h.runs hy he
  rwa [id_map] at hrun

/-- A result that is not -1 is no report. -/
theorem not_reported {x : Act L Int} {r : Int} {v v' : World L} (h : Runs x w r v) (hr : r ≠ -1) : ¬ Runs x w (-1) v' :=
  fun h' => hr (h.unique h').1.symm

theorem sctp_peeloff_reports_iff {sockfd : Int} {id : AssocID}
    (h : Runs (Unconverted.sctp_peeloff E sockfd id) w (.internal (-e)) w') (he : 0 < e) :
    Runs (sctp_peeloff E sockfd id) w (-1) (w'.setErrno e) ↔ (getSocket sockfd).isSome := by
  cases hslot : getSocket sockfd with
  | some slot =>
    have hsome : (getSocket sockfd).isSome := by rw [hslot]; rfl
    exact iff_of_true ((Unconverted.sctp_peeloff_reports E id hsome).runs_id h he) rfl
  | none =>
    have hraw : Runs (sctp_peeloff E sockfd id) w (-EBADF) w := by
      simp only [sctp_peeloff, hslot]
      exact .pure _ _
    exact iff_of_false (not_reported hraw (by decide)) (by simp)

theorem ext_setsockopt_reports_iff {sockfd : Int} {flags : NotificationFlags} {fits : Bool}
    (h : Runs (Unconverted.ext_setsockopt E sockfd (.events flags) fits) w (.internal (-e)) w') (he : 0 < e) :
    Runs (ext_setsockopt E sockfd (.events flags) fits) w (-1) (w'.setErrno e) ↔ (fits → TakesEvents w sockfd) := by
  by_cases htakes : fits → TakesEvents w sockfd
  · refine iff_of_true ?_ htakes
    unfold Runs
    rw [ext_setsockopt_events htakes]
    exact h.bind (conclude_runs he)
  · refine iff_of_false ?_ htakes
    simp only [Classical.not_imp, TakesEvents, not_forall] at htakes
    obtain ⟨rfl, slot, desc, hslot, hdesc, hnone⟩ := htakes
    exact not_reported (ext_setsockopt_events_raw hslot hdesc hnone) (by decide)

theorem ext_sendmsg_reports_iff {sockfd : Int} {msg : SendMsgHdr} {iov : List (List UInt8)} {flags : MsgFlags}
    (h : Runs (Unconverted.ext_sendmsg E sockfd msg iov flags) w (.internal (-e)) w') (he : 0 < e) :
    Runs (ext_sendmsg E sockfd msg iov flags) w (-1) (w'.setErrno e) ↔
      iov.length ≤ 1 ∨ E.allocates .messageBuffer := by
  by_cases hbuffer : iov.length ≤ 1 ∨ E.allocates .messageBuffer
  · exact iff_of_true ((Unconverted.ext_sendmsg_reports E sockfd msg flags hbuffer).runs_id h he) hbuffer
  · have hraw : Runs (ext_sendmsg E sockfd msg iov flags) w (-ENOMEM) w := by
      unfold ext_sendmsg
      rw [if_pos (by simpa using hbuffer)]
      exact .pure _ _
    exact iff_of_false (not_reported hraw (by decide)) hbuffer

/-- The two calls for the protocol library fail in one way only, and do not convert it. -/
theorem library_not_reported {x : Act L Int} {ok : Act L Bool}
    (hx : x = do
      match ← (do return Unconverted.done (- EIO) (← ok) : Act L Reply) with
      | .internal result | .final result => return result)
    (h : Runs (do return Unconverted.done (- EIO) (← ok)) w (.internal (-e)) w') (he : 0 < e) :
    ¬ Runs x w (-1) (w'.setErrno e) := by
  have hraw : Runs x w (-e) w' := by
    rw [hx]
    exact h.bind (.pure _ _)
  obtain ⟨b, w₁, -, hdone⟩ := Runs.bind_iff.mp h
  have hresult : (if b then 0 else - EIO) = -e := Reply.internal.inj (EStateM.Result.ok.inj hdone).1
  refine not_reported hraw ?_
  cases b with
  | true =>
    have hzero : (0 : Int) = -e := hresult
    omega
  | false =>
    have hfailed : - EIO = -e := hresult
    rw [← hfailed]
    decide

theorem Reports.runs_iff {α : Type} {result : α → Int} {x : Act L α} {y : Act L Reply} (h : Reports result x y)
    (hy : Runs y w (.internal (-e)) w') (he : 0 < e) : Runs (result <$> x) w (-1) (w'.setErrno e) ↔ True :=
  iff_true_intro (h.runs hy he)

theorem Reports.runs_id_iff {x : Act L Int} {y : Act L Reply} (h : Reports id x y) (hy : Runs y w (.internal (-e)) w')
    (he : 0 < e) : Runs x w (-1) (w'.setErrno e) ↔ True :=
  iff_true_intro (h.runs_id hy he)

end

/-- A protocol library whose parameters cannot be read. -/
def noParameters : LibraryAccess Sctplib.small where
  getLibraryParameters _ := none
  setLibraryParameters stack _ := (false, stack)

def readUnused : FdSets
  | .read => some {4}
  | .write => some ∅
  | .except => some ∅

end SocketApi
