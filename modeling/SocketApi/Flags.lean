import Mathlib.Algebra.Order.Ring.Int
import Mathlib.Order.Lattice.Nat

/-!
# Flag words and error numbers

A flag word of the C interface is a record with one Boolean for each bit the library tests
or sets. The bits are pairwise distinct on a platform that defines `MSG_RST` and `MSG_PROXY`.
-/

namespace SocketApi

/-! ## Message flags -/

/-- `msg_flags`, `sinfo_flags` and the `flags` argument of the send and receive calls. -/
structure MsgFlags where
  notification : Bool := false
  eor : Bool := false
  dontwait : Bool := false
  peek : Bool := false
  unordered : Bool := false
  unbundled : Bool := false
  eof : Bool := false
  abort : Bool := false
  sendToAll : Bool := false
  addrOver : Bool := false
  multiAddrs : Bool := false
  prSctpTTL : Bool := false
  deriving DecidableEq, Repr

/-- `f | g`. -/
def MsgFlags.or (f g : MsgFlags) : MsgFlags where
  notification := f.notification || g.notification
  eor := f.eor || g.eor
  dontwait := f.dontwait || g.dontwait
  peek := f.peek || g.peek
  unordered := f.unordered || g.unordered
  unbundled := f.unbundled || g.unbundled
  eof := f.eof || g.eof
  abort := f.abort || g.abort
  sendToAll := f.sendToAll || g.sendToAll
  addrOver := f.addrOver || g.addrOver
  multiAddrs := f.multiAddrs || g.multiAddrs
  prSctpTTL := f.prSctpTTL || g.prSctpTTL

/-! ## Notification flags -/

/-- `SCTP_RECVxxxx`: what a reader has subscribed to. -/
structure NotificationFlags where
  recvDataIOEvnt : Bool := false
  recvAssocEvnt : Bool := false
  recvPaddrEvnt : Bool := false
  recvSendFailEvnt : Bool := false
  recvPeerErr : Bool := false
  recvShutdownEvnt : Bool := false
  recvPDEvnt : Bool := false
  recvAdaptationIndication : Bool := false
  deriving DecidableEq, Repr

/-! ## Socket flags -/

/-- `SSF_GlobalQueue`, `SSF_AutoConnect` and `SSF_Listening`. -/
structure SocketFlags where
  globalQueue : Bool := false
  autoConnect : Bool := false
  listening : Bool := false
  deriving DecidableEq, Repr

/-! ## Error numbers -/

def EIO : Int := 5
def ENXIO : Int := 6
def EBADF : Int := 9
def EAGAIN : Int := 11
def ENOMEM : Int := 12
def EBUSY : Int := 16
def EINVAL : Int := 22
def EMFILE : Int := 24
def ENAMETOOLONG : Int := 36
def ENOPROTOOPT : Int := 92
def EPROTONOSUPPORT : Int := 93
def EOPNOTSUPP : Int := 95
def EADDRINUSE : Int := 98
def EADDRNOTAVAIL : Int := 99
def ECONNABORTED : Int := 103
def ECONNRESET : Int := 104
def ENOBUFS : Int := 105
def EISCONN : Int := 106
def ENOTCONN : Int := 107
def EINPROGRESS : Int := 115

end SocketApi
