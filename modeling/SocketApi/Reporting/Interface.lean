import SocketApi.Reporting.Options

/-!
# The remaining calls unconverted

The calls that change the protocol library leave out their conversion.
-/

namespace SocketApi

open Effect ExtSocketDescriptorMaster

variable {L : Sctplib} (E : Environment L)

/-- Names and packed addresses come with a result. -/
theorem reports_pair {β : Type} (r : Int × β) :
    Reports Prod.fst (do return (← errnoReturn r.1, r.2) : Act L (Int × β)) (pure (.internal r.1)) :=
  reports_errnoReturn' (fun _ => rfl) r.1

namespace Unconverted

/-! ## Names and addresses -/

def getName (addresses : SCTPSocketDesc → Act L (Int × Option (List SocketAddress))) (sockfd : Int)
    (namelen : Option Nat) : Act L Reply := do
  match getSocket sockfd with
  | none => return .internal (-EBADF)
  | some slot =>
    match ← descriptorAt slot with
    | .sctp desc => return .internal (systemName desc.domain namelen (← addresses desc)).1
    | .system systemSocketID => return .final (E.systemCall systemSocketID)
    | .invalid => return .internal (- ENXIO)

theorem getName_reports (addresses : SCTPSocketDesc → Act L (Int × Option (List SocketAddress))) (sockfd : Int)
    (namelen : Option Nat) :
    Reports Prod.fst (SocketApi.getName E addresses sockfd namelen) (getName E addresses sockfd namelen) :=
  reports_call (reports_pair (-EBADF, none)) (fun _ desc => .bind fun r => reports_pair (systemName desc.domain namelen r))
    (fun _ _ => reports_final _) (reports_pair (- ENXIO, none))

def ext_getsockname (sockfd : Int) (namelen : Option Nat) : Act L Reply := getName E (localAddresses E) sockfd namelen
def ext_getpeername (sockfd : Int) (namelen : Option Nat) : Act L Reply := getName E (remoteAddresses E) sockfd namelen

def sctp_getlpaddrs (sockfd : Int) (id : AssocID) (peerAddresses : Bool) : Act L Reply := do
  match getSocket sockfd with
  | none => return .internal (-EBADF)
  | some slot =>
    match ← descriptorAt slot with
    | .sctp desc => return .internal (packAddresses E (← localOrPeerAddresses E desc id peerAddresses)).1
    | .system _ => return .internal (-EOPNOTSUPP)
    | .invalid => return .internal (- ENXIO)

theorem sctp_getlpaddrs_reports (sockfd : Int) (id : AssocID) (peerAddresses : Bool) :
    Reports Prod.fst (SocketApi.sctp_getlpaddrs E sockfd id peerAddresses) (sctp_getlpaddrs E sockfd id peerAddresses) :=
  reports_call (reports_pair (-EBADF, [])) (fun _ _ => .bind fun r => reports_pair (packAddresses E r))
    (fun _ _ => reports_pair (-EOPNOTSUPP, [])) (reports_pair (- ENXIO, []))

def sctp_getpaddrs (sockfd : Int) (id : AssocID) : Act L Reply := sctp_getlpaddrs E sockfd id true
def sctp_getladdrs (sockfd : Int) (id : AssocID) : Act L Reply := sctp_getlpaddrs E sockfd id false

/-! ## Flags and options -/

def ext_fcntl (sockfd : Int) (cmd : FcntlCommand) : Act L Reply := do
  match getSocket sockfd with
  | none => return .internal (-EBADF)
  | some slot =>
    match ← descriptorAt slot with
    | .sctp desc =>
      match cmd with
      | .getFl => return .internal desc.flags.toInt
      | .setFl arg =>
        setDesc slot (·.setFlags arg)
        return .internal 0
      | .other => return .internal (-EOPNOTSUPP)
    | .system systemSocketID => return .final (E.systemCall systemSocketID)
    | .invalid => return .internal (- ENXIO)

theorem ext_fcntl_reports (sockfd : Int) (cmd : FcntlCommand) :
    Reports id (SocketApi.ext_fcntl E sockfd cmd) (ext_fcntl E sockfd cmd) := by
  refine reports_call (reports_errnoReturn _) (fun slot desc => ?_) (fun _ _ => reports_final _) (reports_errnoReturn _)
  cases cmd with
  | getFl => exact reports_errnoReturn _
  | setFl arg => exact .bind fun _ => reports_errnoReturn 0
  | other => exact reports_errnoReturn _

def ext_ioctl (sockfd : Int) : Act L Reply := do
  match getSocket sockfd with
  | none => return .internal (-EBADF)
  | some slot =>
    match ← descriptorAt slot with
    | .sctp _ => return .internal (-EOPNOTSUPP)
    | .system systemSocketID => return .final (E.systemCall systemSocketID)
    | .invalid => return .internal (- ENXIO)

theorem ext_ioctl_reports (sockfd : Int) : Reports id (SocketApi.ext_ioctl E sockfd) (ext_ioctl E sockfd) :=
  reports_call (reports_errnoReturn _) (fun _ _ => reports_errnoReturn _) (fun _ _ => reports_final _)
    (reports_errnoReturn _)

def otherOption (result : Int) (sockfd : Int) : Act L Reply := do
  match getSocket sockfd with
  | none => return .internal (-EBADF)
  | some slot =>
    match ← descriptorAt slot with
    | .sctp _ => return .internal result
    | .system systemSocketID => return .final (E.systemCall systemSocketID)
    | .invalid => return .internal (- ENXIO)

theorem otherOption_reports (result sockfd : Int) :
    Reports id (SocketApi.otherOption E result sockfd) (otherOption E result sockfd) :=
  reports_call (reports_errnoReturn _) (fun _ _ => reports_errnoReturn _) (fun _ _ => reports_final _)
    (reports_errnoReturn _)

def ext_getsockoptOther (sockfd : Int) (option : OtherOption) : Act L Reply := otherOption E option.getResult sockfd
def ext_setsockoptOther (sockfd : Int) (option : OtherOption) : Act L Reply := otherOption E option.setResult sockfd

def setPeerAddrParams (sockfd : Int) (params : SctpPaddrparams) (fits : Bool) : Act L Reply := do
  match getSocket sockfd with
  | none => return .internal (-EBADF)
  | some slot =>
    match ← descriptorAt slot with
    | .sctp desc =>
      if fits then configurePeerAddressParams E desc params false
      else return .internal (-EINVAL)
    | .system systemSocketID => return .final (E.systemCall systemSocketID)
    | .invalid => return .internal (- ENXIO)

theorem setPeerAddrParams_reports (sockfd : Int) (params : SctpPaddrparams) (fits : Bool) :
    Reports Prod.fst (SocketApi.setPeerAddrParams E sockfd params fits) (setPeerAddrParams E sockfd params fits) :=
  reports_call (reports_errnoResult _ _)
    (fun _ desc => .ite (configurePeerAddressParams_reports E desc params false) (reports_errnoResult _ _))
    (fun _ _ => reports_final _) (reports_errnoResult _ _)

def sctp_opt_info (sd : Int) (assocID : AssocID) (arg : SockOpt) (fits : Bool) : Act L Reply :=
  match arg with
  | .rtoInfo rtoinfo => ext_getsockopt E sd (.rtoInfo { rtoinfo with srto_assoc_id := assocID }) fits
  | .assocInfo assocparams => ext_getsockopt E sd (.assocInfo { assocparams with sasoc_assoc_id := assocID }) fits
  | .status status => ext_getsockopt E sd (.status { status with sstat_assoc_id := assocID }) fits
  | .peerAddrInfo paddrinfo => ext_getsockopt E sd (.peerAddrInfo { paddrinfo with spinfo_assoc_id := assocID }) fits
  | .primaryAddr _ _ | .peerPrimaryAddr _ _ | .streamTimeouts _ _ _ _ => ext_setsockopt E sd arg fits
  | .peerAddrParams params => setPeerAddrParams E sd params fits
  | _ => return .internal (-EOPNOTSUPP)

theorem sctp_opt_info_reports (sd : Int) (assocID : AssocID) (arg : SockOpt) (fits : Bool) :
    Reports Prod.fst (SocketApi.sctp_opt_info E sd assocID arg fits) (sctp_opt_info E sd assocID arg fits) := by
  cases arg with
  | rtoInfo rtoinfo => exact ext_getsockopt_reports E sd _ fits
  | assocInfo assocparams => exact ext_getsockopt_reports E sd _ fits
  | status status => exact ext_getsockopt_reports E sd _ fits
  | peerAddrInfo paddrinfo => exact ext_getsockopt_reports E sd _ fits
  | primaryAddr id address => exact .project (ext_setsockopt_reports E sd fits nofun)
  | peerPrimaryAddr id address => exact .project (ext_setsockopt_reports E sd fits nofun)
  | streamTimeouts id timeout start stop => exact .project (ext_setsockopt_reports E sd fits nofun)
  | peerAddrParams params => exact setPeerAddrParams_reports E sd params fits
  | delayedSack sackInfo => exact reports_errnoResult _ _
  | autoClose seconds => exact reports_errnoResult _ _
  | initMsg initmsg => exact reports_errnoResult _ _
  | linger onoff linger => exact reports_errnoResult _ _
  | sndBuf size => exact reports_errnoResult _ _
  | rcvBuf size => exact reports_errnoResult _ _
  | events flags => exact reports_errnoResult _ _
  | defaultSendParam sndrcvinfo => exact reports_errnoResult _ _
  | trafficClass tos => exact reports_errnoResult _ _
  | nodelay => exact reports_errnoResult _ _

/-! ## The protocol library -/

variable (T : LibraryAccess L)

def sctp_enableOOTBHandling (enable : Nat) : Act L Reply := do
  return done (- EIO) (← SCTPSocketMaster.enableOOTBHandling E T (enable ≠ 0))

def sctp_enableCRC32 (enable : Nat) : Act L Reply := do
  return done (- EIO) (← SCTPSocketMaster.enableCRC32 E T (enable ≠ 0))

end Unconverted

/-- Two calls return their internal result as it is. -/
theorem sctp_enableOOTBHandling_raw (T : LibraryAccess L) (enable : Nat) :
    sctp_enableOOTBHandling E T enable = do
      match ← Unconverted.sctp_enableOOTBHandling E T enable with
      | .internal result | .final result => return result := by
  simp only [sctp_enableOOTBHandling, Unconverted.sctp_enableOOTBHandling, bind_assoc, pure_bind]
  congr 1
  funext ok
  cases ok <;> rfl

theorem sctp_enableCRC32_raw (T : LibraryAccess L) (enable : Nat) :
    sctp_enableCRC32 E T enable = do
      match ← Unconverted.sctp_enableCRC32 E T enable with
      | .internal result | .final result => return result := by
  simp only [sctp_enableCRC32, Unconverted.sctp_enableCRC32, bind_assoc, pure_bind]
  congr 1
  funext ok
  cases ok <;> rfl

end SocketApi
