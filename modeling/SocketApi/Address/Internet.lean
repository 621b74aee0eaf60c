import SocketApi.Lib.Inet

/-!
# Internet addresses

`InternetAddress` holds IPv6 addresses and, as IPv4-mapped ones, IPv4 addresses. Words, ports
and scope IDs are numbers here: the conversions between network and host byte order cancel.
-/

namespace SocketApi

open Inet

/-! ## The object -/

/-- `SocketAddress::PrintFormat`. -/
structure PrintFormat where
  address : Bool := false
  hostname : Bool := false
  hidePort : Bool := false
  legacy : Bool := false
  deriving DecidableEq, Repr

def PF_Address : PrintFormat := { address := true }
def PF_Default : PrintFormat := { address := true, legacy := true }

structure InternetAddress where
  host16 : Vector Word 8
  port : BitVec 16
  scopeID : BitVec 16
  valid : Bool
  format : PrintFormat
  deriving DecidableEq, Repr

/-- `sockaddr_in`, `sockaddr_in6` or a socket address of another family. -/
inductive Sockaddr where
  | inet (sin_addr : BitVec 32) (sin_port : BitVec 16)
  | inet6 (sin6_addr : Vector Word 8) (sin6_port : BitVec 16) (sin6_flowinfo sin6_scope_id : BitVec 32)
  | other
  deriving DecidableEq, Repr

inductive AddressFamily where
  | unspec | inet | inet6 | other
  deriving DecidableEq, Repr

namespace Sockaddr

def family : Sockaddr → AddressFamily
  | inet _ _ => .inet
  | inet6 _ _ _ _ => .inet6
  | other => .other

/-- `sizeof` the structure. -/
def size : Sockaddr → Nat
  | inet _ _ => 16
  | inet6 _ _ _ _ => 28
  | other => 16

/-- The same family, address, port and scope ID. -/
def Same : Sockaddr → Sockaddr → Prop
  | inet addr port, inet addr' port' => addr = addr' ∧ port = port'
  | inet6 addr port _ scope, inet6 addr' port' _ scope' => addr = addr' ∧ port = port' ∧ scope = scope'
  | _, _ => False

end Sockaddr

namespace InternetAddress

/-- `reset()`. -/
def reset : InternetAddress where
  host16 := Vector.replicate 8 0
  port := 0
  scopeID := 0
  valid := true
  format := PF_Default

/-! ## Kinds of addresses -/

/-- `IN6_IS_ADDR_V4MAPPED`. -/
def isV4Mapped (a : InternetAddress) : Bool :=
  a.host16[0] = 0 ∧ a.host16[1] = 0 ∧ a.host16[2] = 0 ∧ a.host16[3] = 0 ∧ a.host16[4] = 0 ∧ a.host16[5] = 0xffff

/-- `IN6_IS_ADDR_UNSPECIFIED`. -/
def isUnspecified6 (a : InternetAddress) : Bool := a.host16 = Vector.replicate 8 0

def isIPv6 (a : InternetAddress) : Bool := !a.isV4Mapped
def isIPv4 (a : InternetAddress) : Bool := a.isV4Mapped || a.isUnspecified6

/-- `IN6_IS_ADDR_LINKLOCAL`. -/
def isLinkLocal6 (host16 : Vector Word 8) : Bool := host16[0] &&& 0xffc0 = 0xfe80

/-- 127 is the loopback net. -/
def isLinkLocal (a : InternetAddress) : Bool :=
  if a.isIPv6 then isLinkLocal6 a.host16 else a.host16[6] >>> 8 = 127

/-! ## Socket addresses -/

/-- The words of an IPv4 address. -/
def mapped (s_addr : BitVec 32) : Vector Word 8 :=
  #v[0, 0, 0, 0, 0, 0xffff, s_addr.extractLsb' 16 16, s_addr.extractLsb' 0 16]

/-- `setSystemAddress`: the object and the result. -/
def setSystemAddress (a : InternetAddress) : Sockaddr → InternetAddress × Bool
  | .inet sin_addr sin_port => ({ a with port := sin_port, host16 := mapped sin_addr, valid := true }, true)
  | .inet6 sin6_addr sin6_port _ sin6_scope_id =>
    ({ a with port := sin6_port, host16 := sin6_addr, scopeID := sin6_scope_id.setWidth 16, valid := true }, true)
  | .other => (reset, false)

/-- `getSystemAddress` for a buffer of `length` bytes, `none` for the result 0. -/
def getSystemAddress (useIPv6 : Bool) (a : InternetAddress) (length : Nat) (type : AddressFamily) : Option Sockaddr :=
  let newType := if type = .unspec then (if useIPv6 then .inet6 else .inet) else type
  match newType with
  | .inet6 => if 28 ≤ length then some (.inet6 a.host16 a.port 0 (a.scopeID.setWidth 32)) else none
  | .inet =>
    if 16 ≤ length then
      if a.isIPv4 then some (.inet (a.host16[6] ++ a.host16[7]) a.port) else none
    else none
  | _ => none

/-! ## From a socket address and back -/

/-- What an address means, less its validity and its print format. -/
def contents (a : InternetAddress) : Vector Word 8 × BitVec 16 × BitVec 16 := (a.host16, a.port, a.scopeID)

/-- `setSystemAddress(s)` makes an object that gives back `s`. -/
def Reproduces (useIPv6 : Bool) (a : InternetAddress) (s : Sockaddr) : Prop :=
  ∀ length, s.size ≤ length →
    ∃ t, (a.setSystemAddress s).1.getSystemAddress useIPv6 length s.family = some t ∧ t.Same s

/-- What the object means after `setSystemAddress(s)` does not depend on what it was. -/
def Determined (s : Sockaddr) : Prop :=
  ∀ a a' : InternetAddress, (a.setSystemAddress s).1.contents = (a'.setSystemAddress s).1.contents

theorem isV4Mapped_mapped {a : InternetAddress} {s_addr : BitVec 32} (h : a.host16 = mapped s_addr) :
    a.isV4Mapped = true := by
  simp [isV4Mapped, h, mapped]

theorem halves (x : BitVec 32) : x.extractLsb' 16 16 ++ x.extractLsb' 0 16 = x := by
  have h : (16 : Nat) = 0 + 16 := rfl
  rw [BitVec.extractLsb'_append_extractLsb'_eq_extractLsb' h]
  exact BitVec.extractLsb'_eq_self

theorem setWidth_scope (scope : BitVec 32) : (scope.setWidth 16).setWidth 32 = scope ↔ scope.toNat < 2 ^ 16 := by
  rw [← BitVec.toNat_inj]
  simp only [BitVec.toNat_setWidth]
  omega

variable {useIPv6 : Bool} {a : InternetAddress}

theorem reproduces_inet (sin_addr : BitVec 32) (sin_port : BitVec 16) :
    Reproduces useIPv6 a (.inet sin_addr sin_port) := by
  intro length hlength
  have h4 : (a.setSystemAddress (.inet sin_addr sin_port)).1.isIPv4 = true := by
    unfold isIPv4
    rw [isV4Mapped_mapped rfl, Bool.true_or]
  refine ⟨.inet sin_addr sin_port, ?_, rfl, rfl⟩
  have hlength : 16 ≤ length := hlength
  unfold getSystemAddress
  simp only [Sockaddr.family, reduceCtorEq, if_false, h4, hlength, if_true]
  exact congrArg (fun addr => some (Sockaddr.inet addr sin_port)) (halves sin_addr)

theorem reproduces_inet6 {sin6_addr : Vector Word 8} {sin6_port : BitVec 16} {flowinfo scope : BitVec 32} :
    Reproduces useIPv6 a (.inet6 sin6_addr sin6_port flowinfo scope) ↔ scope.toNat < 2 ^ 16 := by
  have hget (length : Nat) (h : 28 ≤ length) :
      (a.setSystemAddress (.inet6 sin6_addr sin6_port flowinfo scope)).1.getSystemAddress useIPv6 length .inet6 =
        some (.inet6 sin6_addr sin6_port 0 ((scope.setWidth 16).setWidth 32)) := by
    simp [getSystemAddress, setSystemAddress, h]
  rw [← setWidth_scope]
  constructor
  · intro h
    obtain ⟨t, ht, hs⟩ := h 28 (Nat.le_refl 28)
    rw [Sockaddr.family, hget 28 (Nat.le_refl 28)] at ht
    cases ht
    exact hs.2.2
  · intro h length hlength
    exact ⟨_, hget length hlength, rfl, rfl, h⟩

theorem determined_inet6 {sin6_addr : Vector Word 8} {sin6_port : BitVec 16} {flowinfo scope : BitVec 32} :
    Determined (.inet6 sin6_addr sin6_port flowinfo scope) := fun _ _ => rfl

/-- An IPv4 address leaves the old scope ID in the object. -/
theorem not_determined_inet {sin_addr : BitVec 32} {sin_port : BitVec 16} : ¬Determined (.inet sin_addr sin_port) := by
  intro h
  have hscope : (0 : BitVec 16) = 1 := congrArg (fun c => c.2.2) (h reset { reset with scopeID := 1 })
  exact absurd hscope (by decide)

/-- The address survives the way through an object exactly if it is an IPv6 address whose
scope ID has 16 bits. -/
theorem sockaddr_round_trip (useIPv6 : Bool) (a : InternetAddress) (s : Sockaddr) :
    Reproduces useIPv6 a s ∧ Determined s ↔
      ∃ sin6_addr sin6_port flowinfo scope,
        s = .inet6 sin6_addr sin6_port flowinfo scope ∧ scope.toNat < 2 ^ 16 := by
  cases s with
  | inet sin_addr sin_port =>
    refine ⟨fun h => absurd h.2 not_determined_inet, ?_⟩
    rintro ⟨_, _, _, _, h, -⟩
    cases h
  | inet6 sin6_addr sin6_port flowinfo scope =>
    refine ⟨fun h => ⟨_, _, _, _, rfl, reproduces_inet6.mp h.1⟩, ?_⟩
    rintro ⟨_, _, _, _, h, hscope⟩
    cases h
    exact ⟨reproduces_inet6.mpr hscope, determined_inet6⟩
  | other =>
    constructor
    · rintro ⟨h, -⟩
      obtain ⟨t, ht, -⟩ := h 16 (Nat.le_refl 16)
      cases ht
    · rintro ⟨_, _, _, _, h, -⟩
      cases h

/-- A scope ID of 17 bits is cut off, and an object that had a scope ID keeps it for an IPv4
address. -/
theorem sockaddr_loses_scope :
    ¬Reproduces true reset (.inet6 (Vector.replicate 8 1) 80 0 0x10000) ∧
      ((reset.setSystemAddress (.inet6 (Vector.replicate 8 1) 80 0 5)).1.setSystemAddress (.inet 0x01020304 80)).1.contents
        ≠ (reset.setSystemAddress (.inet 0x01020304 80)).1.contents := by
  refine ⟨fun h => ?_, by decide⟩
  exact absurd (reproduces_inet6.mp h) (by decide)

end InternetAddress

end SocketApi
