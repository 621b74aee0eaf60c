import SocketApi.Address.Text
import SocketApi.Address.Unix

/-!
# Copies of addresses

The three classes of addresses copy themselves: internet addresses and flows by their fields,
Unix addresses by way of a text that has lost its prefix.
-/

namespace SocketApi

/-! ## Flows -/

/-- An internet address with flow label and traffic class. -/
structure InternetFlow where
  address : InternetAddress
  flowInfo : BitVec 32
  deriving DecidableEq

namespace InternetFlow

def getFlowLabel (f : InternetFlow) : BitVec 32 := f.flowInfo &&& 0x000fffff
def getTrafficClass (f : InternetFlow) : BitVec 8 := ((f.flowInfo &&& 0x0ff00000) >>> 20).setWidth 8

/-- "%0<width>x". -/
def hexPadded (width n : Nat) : List Char :=
  List.replicate (width - (Nat.toDigits 16 n).length) '0' ++ Nat.toDigits 16 n

def getAddressString (N : NameSystem) (f : InternetFlow) (format : PrintFormat) : List Char :=
  f.address.getAddressString N format ++ "/$".toList ++ hexPadded 5 f.getFlowLabel.toNat ++ ", $".toList ++
    hexPadded 2 f.getTrafficClass.toNat

def getSystemAddress (useIPv6 : Bool) (f : InternetFlow) (length : Nat) (type : AddressFamily) : Option Sockaddr :=
  match f.address.getSystemAddress useIPv6 length type with
  | some (.inet6 addr port flowinfo scope) =>
    some (.inet6 addr port (if type = .inet6 then f.flowInfo else flowinfo) scope)
  | address => address

end InternetFlow

/-- `init(address)`, which is the copy constructor and `operator=`; `memory` is the object
before. -/
def InternetAddress.copy (memory address : InternetAddress) : InternetAddress :=
  { memory with
    port := address.port, host16 := address.host16, scopeID := address.scopeID, valid := address.valid
    format := address.format }

/-- The copy constructor and `operator=`. -/
def InternetFlow.copy (memory flow : InternetFlow) : InternetFlow :=
  { memory with address := memory.address.copy flow.address, flowInfo := flow.flowInfo }

/-! ## Addresses of any class -/

inductive AnyAddress where
  | internet (a : InternetAddress)
  | flow (f : InternetFlow)
  | unix (u : UnixAddress)
  deriving DecidableEq

/-- A system's socket address. -/
inductive SystemAddress where
  | internet (s : Sockaddr)
  | unix (s : SockaddrUn)
  deriving DecidableEq

/-- The family of a number. -/
def AddressFamily.ofNumber (n : Nat) : AddressFamily :=
  if n = 0 then .unspec else if n = 2 then .inet else if n = 10 then .inet6 else .other

/-- The memory for a new object of each class. -/
structure FreshMemory where
  internet : InternetAddress
  flow : InternetFlow
  unix : UnixAddress.Memory

namespace AnyAddress

variable (N : NameSystem)

def isUnix : AnyAddress → Bool
  | unix _ => true
  | _ => false

def isValid : AnyAddress → Bool
  | internet a => a.valid
  | flow f => f.address.valid
  | unix u => u.isValid

def getAddressString (format : PrintFormat) : AnyAddress → List Char
  | internet a => a.getAddressString N format
  | flow f => f.getAddressString N format
  | unix u => u.getAddressString.bytes.map fun b => Char.ofNat b.toNat

/-- `getSystemAddress` into a buffer, `none` for a write outside of it. -/
def getSystemAddress (sun_path : List.Vector UInt8 MaxNameLength) (length type : Nat) :
    AnyAddress → Option (Option SystemAddress)
  | internet a => some ((a.getSystemAddress N.useIPv6 length (.ofNumber type)).map .internet)
  | flow f => some ((f.getSystemAddress N.useIPv6 length (.ofNumber type)).map .internet)
  | unix u => (u.getSystemAddress sun_path length type).map (·.map .unix)

/-- `operator==` of a class. -/
def eq : AnyAddress → AnyAddress → Bool
  | internet a, internet b => a.host16 = b.host16
  | flow f, flow g => f.address.host16 = g.address.host16
  | unix u, unix v => u.eq v
  | _, _ => false

/-- The copy constructor. -/
def construct (memory : FreshMemory) : AnyAddress → Option AnyAddress
  | internet a => some (internet (memory.internet.copy a))
  | flow f => some (flow (memory.flow.copy f))
  | unix u => (UnixAddress.copy memory.unix u).map unix

/-- `duplicate()`, a new object by the copy constructor. -/
def duplicate (memory : FreshMemory) (a : AnyAddress) : Option AnyAddress := construct memory a

/-- `operator=` of a class. -/
def assign : AnyAddress → AnyAddress → Option AnyAddress
  | internet target, internet a => some (internet (target.copy a))
  | flow target, flow f => some (flow (target.copy f))
  | unix target, unix u => (UnixAddress.copy target.name.memory u).map unix
  | _, _ => none

/-- Two objects of one class. -/
def SameClass : AnyAddress → AnyAddress → Prop
  | internet _, internet _ => True
  | flow _, flow _ => True
  | unix _, unix _ => True
  | _, _ => False

/-! ## Faithful copies -/

/-- The copy `b` cannot be told from `a`. -/
structure Indistinguishable (a b : AnyAddress) : Prop where
  valid : b.isValid = true
  text : ∀ format, b.getAddressString N format = a.getAddressString N format
  system : ∀ sun_path length type, b.getSystemAddress N sun_path length type = a.getSystemAddress N sun_path length type
  equal : b.eq a = true

/-- All ways to copy `a` are faithful. -/
structure FaithfulCopies (a : AnyAddress) : Prop where
  construct : ∀ memory, ∃ b, construct memory a = some b ∧ Indistinguishable N a b
  duplicate : ∀ memory, ∃ b, duplicate memory a = some b ∧ Indistinguishable N a b
  assign : ∀ target : AnyAddress, target.SameClass a → ∃ b, target.assign a = some b ∧ Indistinguishable N a b
  self : a.assign a = some a

variable {N} {a : AnyAddress}

theorem indistinguishable_refl (hvalid : a.isValid = true) (heq : a.eq a = true) : Indistinguishable N a a :=
  ⟨hvalid, fun _ => rfl, fun _ _ _ => rfl, heq⟩

theorem eq_refl (a : AnyAddress) : a.eq a = true := by
  cases a <;> simp [eq, UnixAddress.eq]

/-- Copies by fields are the object itself. -/
theorem faithful_of_fields (hvalid : a.isValid = true) (hunix : a.isUnix = false) : FaithfulCopies N a := by
  have hself := indistinguishable_refl (N := N) hvalid a.eq_refl
  have hconstruct (memory : FreshMemory) : construct memory a = some a := by
    cases a with
    | internet a => rfl
    | flow f => rfl
    | unix u => cases hunix
  have hassign (target : AnyAddress) (h : target.SameClass a) : target.assign a = some a := by
    cases a with
    | internet a =>
      cases target with
      | internet t => rfl
      | flow t => cases h
      | unix t => cases h
    | flow f =>
      cases target with
      | internet t => cases h
      | flow t => rfl
      | unix t => cases h
    | unix u => cases hunix
  have hsame : a.SameClass a := by cases a <;> trivial
  refine ⟨fun memory => ⟨a, hconstruct memory, hself⟩, fun memory => ⟨a, hconstruct memory, hself⟩, ?_, hassign a hsame⟩
  intro target htarget
  exact ⟨a, hassign target htarget, hself⟩

/-- What is left of a name without its prefix is another name. -/
theorem nameOf_ne {name : CString} (h : name ≠ .empty) : UnixAddress.nameOf name ≠ name := by
  have hpos : 0 < name.bytes.length := by
    apply List.length_pos_iff.mpr
    intro hnil
    apply h
    ext1
    exact hnil
  unfold UnixAddress.nameOf PathText.mid
  intro he
  have hlen := congrArg (fun s => s.bytes.length) he
  by_cases hinside : PathText.length name < MaxNameLength ∧ PathText.left name 5 = PathText.unixPrefix
  · simp only [hinside, and_self, if_true] at hlen
    by_cases hshort : PathText.length name ≤ 5
    · simp only [hshort, if_true] at hlen
      have hempty : CString.empty.bytes.length = 0 := rfl
      omega
    · simp only [hshort, if_false, CString.take, CString.drop, List.length_take, List.length_drop] at hlen
      omega
  · rw [if_neg hinside] at he
    exact h he.symm

/-- The copy of a Unix address is never equal to it. -/
theorem not_faithful_unix {u : UnixAddress} (h : u.isValid = true) : ¬FaithfulCopies N (.unix u) := by
  intro hf
  have memory : UnixAddress.Memory := List.Vector.replicate _ 0
  obtain ⟨b, hb, hsame⟩ :=
    hf.construct { internet := .reset, flow := { address := .reset, flowInfo := 0 }, unix := memory }
  obtain ⟨v, hv, htext⟩ := UnixAddress.init_some memory u.name.text
  have hcopy : UnixAddress.copy memory u = some v := hv
  rw [construct, hcopy] at hb
  cases hb
  have hequal : v.name.text = u.name.text := by simpa [eq, UnixAddress.eq] using hsame.equal
  exact nameOf_ne (UnixAddress.isValid_iff.mp h) (htext ▸ hequal)

/-- The copies of a valid address are faithful exactly if it is no Unix address. -/
theorem faithful_copies_iff (N : NameSystem) (a : AnyAddress) (h : a.isValid = true) :
    FaithfulCopies N a ↔ a.isUnix = false := by
  constructor
  · intro hf
    cases a with
    | internet a => rfl
    | flow f => rfl
    | unix u => exact absurd hf (not_faithful_unix h)
  · intro hunix
    exact faithful_of_fields h hunix

/-- An IPv6 flow. -/
theorem faithful_copies_iff_flow :
    let a := flow { address := .reset, flowInfo := 0x0bcabcde }
    FaithfulCopies {} a ↔ a.isUnix = false :=
  faithful_copies_iff {} _ rfl

/-- The address of the path "a". -/
theorem not_faithful_copies : ¬∀ a : AnyAddress, a.isValid = true → FaithfulCopies {} a := by
  intro h
  let name : CString := ⟨[97], by decide⟩
  obtain ⟨u, -, htext⟩ := UnixAddress.init_some (List.Vector.replicate _ 0) (PathText.unixPrefix.append name)
  rw [UnixAddress.nameOf_short (show name.bytes.length + 5 < MaxNameLength by decide)] at htext
  have hvalid : u.isValid = true := by
    rw [UnixAddress.isValid_iff, htext]
    decide
  exact not_faithful_unix hvalid (h (.unix u) hvalid)

end AnyAddress

end SocketApi
