import SocketApi.Lib.CString

/-!
# Unix addresses

`UnixAddress` holds a path in an array. A text is stripped of its prefix by `init`, whose limit
is on the length with the prefix.
-/

namespace SocketApi

/-! ## Texts -/

namespace PathText

/-- `String::length`, of 32 bits. -/
def length (s : CString) : Nat := s.bytes.length % 2 ^ 32

/-- `String::left`. -/
def left (s : CString) (maxChars : Nat) : CString := s.take (min (length s) maxChars)

/-- `String::mid`. -/
def mid (s : CString) (start : Nat) : CString :=
  if length s ≤ start then .empty else (s.drop start).take (min (length s - start) 0xffffffff)

/-- "unix:" -/
def unixPrefix : CString := ⟨[117, 110, 105, 120, 58], by decide⟩

/-- "(invalid)" -/
def invalid : CString := ⟨[40, 105, 110, 118, 97, 108, 105, 100, 41], by decide⟩

end PathText

/-- The size of `sun_path`. -/
def MaxNameLength : Nat := 108

structure SockaddrUn where
  sun_family : Nat
  sun_path : List.Vector UInt8 MaxNameLength
  deriving DecidableEq

namespace SockaddrUn

def AF_UNSPEC : Nat := 0
def AF_UNIX : Nat := 1

/-- `sizeof(sockaddr_un)`. -/
def size : Nat := 110

end SockaddrUn

open SockaddrUn PathText

@[ext]
structure UnixAddress where
  name : CArray (MaxNameLength + 1)
  deriving DecidableEq

namespace UnixAddress

/-! ## The functions

The result is `none` where a write is outside of its array. -/

/-- The memory of an object. -/
abbrev Memory := List.Vector UInt8 (MaxNameLength + 1)

def reset (memory : Memory) : Option UnixAddress := (CArray.terminate memory 0).map UnixAddress.mk

/-- `init(name)`. -/
def init (memory : Memory) (name : CString) : Option UnixAddress := do
  let empty ← CArray.terminate memory 0
  if length name < MaxNameLength then
    if left name 5 = unixPrefix then return ⟨← CArray.strcpy empty.memory (mid name 5)⟩
    else return ⟨empty⟩
  else return ⟨empty⟩

/-- `init(address)`, which is the copy constructor and `operator=`. -/
def copy (memory : Memory) (address : UnixAddress) : Option UnixAddress := init memory address.name.text

def isNull (a : UnixAddress) : Bool := a.name.bytes.head? = some 0
def isValid (a : UnixAddress) : Bool := !a.isNull

def getAddressString (a : UnixAddress) : CString :=
  if a.name.bytes.head? = some 0 then invalid else unixPrefix.append a.name.text

/-- `getSystemAddress` into a buffer of `length` bytes, the inner `none` for the result 0. -/
def getSystemAddress (a : UnixAddress) (sun_path : List.Vector UInt8 MaxNameLength) (length type : Nat) :
    Option (Option SockaddrUn) :=
  if type = AF_UNSPEC ∨ type = AF_UNIX then
    if size ≤ length then
      (CArray.memcpy sun_path a.name.memory MaxNameLength).map fun sun_path => some { sun_family := AF_UNIX, sun_path }
    else some none
  else some none

def setSystemAddress (a : UnixAddress) (address : SockaddrUn) : Option (UnixAddress × Bool) :=
  if address.sun_family = AF_UNIX then do
    let name ← CArray.memcpy a.name.memory address.sun_path MaxNameLength
    return (⟨← CArray.terminate name MaxNameLength⟩, true)
  else (reset a.name.memory).map fun a => (a, false)

/-- `operator==`, which is `strcmp(..) == 0`. -/
def eq (a b : UnixAddress) : Bool := a.name.text = b.name.text

/-! ## What they do -/

theorem isValid_iff {a : UnixAddress} : a.isValid = true ↔ a.name.text ≠ .empty := by
  rw [ne_eq, a.name.text_eq_empty_iff]
  simp [isValid, isNull]

/-- The name that `init` finds in a text. -/
def nameOf (name : CString) : CString :=
  if length name < MaxNameLength ∧ left name 5 = unixPrefix then mid name 5 else .empty

theorem length_mid {s : CString} (h : length s < MaxNameLength) (start : Nat) :
    (mid s start).bytes.length < MaxNameLength := by
  unfold mid
  by_cases hs : length s ≤ start
  · rw [if_pos hs]
    decide
  · rw [if_neg hs]
    have := List.length_take_le (min (length s - start) 0xffffffff) (s.drop start).bytes
    unfold CString.take
    dsimp only
    omega

theorem text_terminated {memory : Memory} {a : CArray (MaxNameLength + 1)} (h : a.bytes = memory.toList.set 0 0) :
    a.text = .empty := by
  have hlen : memory.toList.length = MaxNameLength + 1 := by simp
  rw [a.text_eq_empty_iff, h]
  cases hm : memory.toList with
  | nil =>
    rw [hm] at hlen
    cases hlen
  | cons b bytes => rfl

/-- `init` stays inside the array. -/
theorem init_some (memory : Memory) (name : CString) : ∃ a, init memory name = some a ∧ a.name.text = nameOf name := by
  obtain ⟨empty, hempty, hbytes⟩ := CArray.terminate_of_lt (Nat.succ_pos MaxNameLength) memory
  have htext := text_terminated hbytes
  unfold init nameOf
  simp only [hempty, Option.bind_eq_bind, Option.bind_some]
  by_cases hlength : length name < MaxNameLength
  · by_cases hleft : left name 5 = unixPrefix
    · have hmid := length_mid hlength 5
      obtain ⟨a, ha, hbytes⟩ := CArray.strcpy_of_lt (n := MaxNameLength + 1) (Nat.lt_succ_of_lt hmid) empty.memory
      refine ⟨⟨a⟩, by simp [hlength, hleft, ha], ?_⟩
      rw [if_pos ⟨hlength, hleft⟩]
      exact CArray.text_eq hbytes
    · refine ⟨⟨empty⟩, by simp [hlength, hleft], ?_⟩
      rw [if_neg (fun h => hleft h.2)]
      exact htext
  · refine ⟨⟨empty⟩, by simp [hlength], ?_⟩
    rw [if_neg (fun h => hlength h.1)]
    exact htext

theorem reset_some (memory : Memory) : ∃ a, reset memory = some a := by
  obtain ⟨name, h, -⟩ := CArray.terminate_of_lt (Nat.succ_pos MaxNameLength) memory
  exact ⟨⟨name⟩, by simp [reset, h]⟩

/-- `getSystemAddress` copies the name without the last byte of its array. -/
theorem getSystemAddress_some (a : UnixAddress) (sun_path : List.Vector UInt8 MaxNameLength) {length type : Nat}
    (htype : type = AF_UNSPEC ∨ type = AF_UNIX) (hlength : size ≤ length) :
    ∃ s, a.getSystemAddress sun_path length type = some (some s) ∧ s.sun_family = AF_UNIX ∧
      s.sun_path.toList = a.name.bytes.take MaxNameLength := by
  obtain ⟨path, hpath, hbytes⟩ :=
    CArray.memcpy_of_le ⟨Nat.le_refl MaxNameLength, Nat.le_succ MaxNameLength⟩ sun_path a.name.memory
  refine ⟨{ sun_family := AF_UNIX, sun_path := path }, ?_, rfl, ?_⟩
  · unfold getSystemAddress
    rw [if_pos htype, if_pos hlength, hpath]
    rfl
  · have hrest : sun_path.toList.drop MaxNameLength = [] := List.drop_of_length_le (by simp)
    rw [hbytes, hrest, List.append_nil]
    rfl

/-- `setSystemAddress` copies the path and terminates it. -/
theorem setSystemAddress_unix (a : UnixAddress) {s : SockaddrUn} (hs : s.sun_family = AF_UNIX) :
    ∃ b, a.setSystemAddress s = some (b, true) ∧ ∃ rest, b.name.bytes = s.sun_path.toList ++ 0 :: rest := by
  obtain ⟨memory, hmemory, hcopied⟩ :=
    CArray.memcpy_of_le ⟨Nat.le_succ MaxNameLength, Nat.le_refl MaxNameLength⟩ a.name.memory s.sun_path
  obtain ⟨name, hname, hbytes⟩ := CArray.terminate_of_lt (Nat.lt_succ_self MaxNameLength) memory
  refine ⟨⟨name⟩, by simp [setSystemAddress, hs, hmemory, hname], ?_⟩
  have hlen : s.sun_path.toList.length = MaxNameLength := by simp
  have htake : s.sun_path.toList.take MaxNameLength = s.sun_path.toList := List.take_of_length_le (Nat.le_of_eq hlen)
  obtain ⟨last, hlast⟩ : ∃ last, a.name.memory.toList.drop MaxNameLength = [last] := by
    apply List.length_eq_one_iff.mp
    simp
  refine ⟨[], ?_⟩
  rw [hbytes, hcopied, htake, hlast, List.set_append_right _ _ (Nat.le_of_eq hlen), hlen, Nat.sub_self]
  rfl

theorem setSystemAddress_some (a : UnixAddress) (s : SockaddrUn) : ∃ b, a.setSystemAddress s = some b := by
  by_cases hs : s.sun_family = AF_UNIX
  · obtain ⟨b, hb, -⟩ := a.setSystemAddress_unix hs
    exact ⟨(b, true), hb⟩
  · obtain ⟨b, hb⟩ := reset_some a.name.memory
    exact ⟨(b, false), by simp [setSystemAddress, hs, hb]⟩

/-! ## The name of a text with the prefix -/

theorem length_prefixed (name : CString) :
    length (unixPrefix.append name) = (name.bytes.length + 5) % 2 ^ 32 := by
  unfold length CString.append
  rw [List.length_append]
  exact congrArg (· % 2 ^ 32) (Nat.add_comm 5 name.bytes.length)

/-- The limit is on the length with the prefix, of which 32 bits are left. -/
theorem nameOf_prefixed (name : CString) :
    nameOf (unixPrefix.append name) =
      let k := (name.bytes.length + 5) % 2 ^ 32
      if 5 ≤ k ∧ k < MaxNameLength then name.take (k - 5) else .empty := by
  unfold nameOf left mid
  rw [length_prefixed]
  generalize hk : (name.bytes.length + 5) % 2 ^ 32 = k
  have hpos : k < 2 ^ 32 := hk ▸ Nat.mod_lt _ (by decide)
  have hdrop : (unixPrefix.append name).drop 5 = name := CString.drop_append unixPrefix name
  dsimp only
  by_cases h5 : 5 ≤ k
  · have hleft : (unixPrefix.append name).take (min k 5) = unixPrefix := by
      rw [Nat.min_eq_right h5]
      exact CString.take_append unixPrefix name
    have hmin : min (k - 5) 0xffffffff = k - 5 := by omega
    rw [hleft, hdrop, hmin]
    simp only [and_true, h5, true_and]
    by_cases hle : k ≤ 5
    · have hk0 : k - 5 = 0 := by omega
      rw [if_pos hle, hk0]
      simp [CString.take, CString.empty]
    · rw [if_neg hle]
  · have hleft : (unixPrefix.append name).take (min k 5) ≠ unixPrefix := by
      intro he
      have hlen := congrArg (fun s => s.bytes.length) he
      have hle : ((unixPrefix.append name).take (min k 5)).bytes.length ≤ min k 5 := List.length_take_le _ _
      have h5' : unixPrefix.bytes.length = 5 := rfl
      omega
    rw [if_neg (fun h => hleft h.2), if_neg (fun h => h5 h.1)]

theorem nameOf_short {name : CString} (h : name.bytes.length + 5 < MaxNameLength) :
    nameOf (unixPrefix.append name) = name := by
  unfold MaxNameLength at *
  have hk : (name.bytes.length + 5) % 2 ^ 32 = name.bytes.length + 5 := Nat.mod_eq_of_lt (by omega)
  rw [nameOf_prefixed, hk]
  dsimp only
  rw [if_pos (by unfold MaxNameLength; omega), Nat.add_sub_cancel]
  ext1
  exact List.take_of_length_le (Nat.le_refl _)

/-! ## The round trip -/

/-- No operation writes outside of the name. -/
structure Inside : Prop where
  reset : ∀ memory, (reset memory).isSome
  init : ∀ memory name, (init memory name).isSome
  copy : ∀ memory address, (copy memory address).isSome
  getSystemAddress : ∀ (a : UnixAddress) sun_path length type, (a.getSystemAddress sun_path length type).isSome
  setSystemAddress : ∀ (a : UnixAddress) s, (a.setSystemAddress s).isSome

/-- The path is the terminated name. -/
def Holds (sun_path : List.Vector UInt8 MaxNameLength) (name : CString) : Prop :=
  ∃ rest, sun_path.toList = name.bytes ++ 0 :: rest

/-- An address that gives its name back. -/
structure Reproduces (a : UnixAddress) (name : CString) : Prop where
  valid : a.isValid = true
  system : ∀ sun_path length type, size ≤ length → type = AF_UNSPEC ∨ type = AF_UNIX →
    ∃ s, a.getSystemAddress sun_path length type = some (some s) ∧ s.sun_family = AF_UNIX ∧ Holds s.sun_path name ∧
      ∀ old : UnixAddress, ∃ b, old.setSystemAddress s = some (b, true) ∧ b.eq a = true
  text : ∀ memory, ∃ b, UnixAddress.init memory a.getAddressString = some b ∧ b.eq a = true

/-- What is to hold of the address of "unix:" and a name. -/
structure RoundTrip (name : CString) : Prop where
  inside : Inside
  fits : 1 ≤ name.bytes.length → name.bytes.length < MaxNameLength →
    ∀ memory, ∃ a, init memory (unixPrefix.append name) = some a ∧ Reproduces a name
  tooLong : MaxNameLength ≤ name.bytes.length →
    ∀ memory, ∃ a, init memory (unixPrefix.append name) = some a ∧ a.isValid = false

theorem inside : Inside where
  reset := fun memory => by
    obtain ⟨a, h⟩ := reset_some memory
    exact h ▸ rfl
  init := fun memory name => by
    obtain ⟨a, h, -⟩ := init_some memory name
    exact h ▸ rfl
  copy := fun memory address => by
    obtain ⟨a, h, -⟩ := init_some memory address.name.text
    exact Option.isSome_of_mem h
  getSystemAddress := fun a sun_path length type => by
    by_cases htype : type = AF_UNSPEC ∨ type = AF_UNIX
    · by_cases hlength : size ≤ length
      · obtain ⟨s, h, -⟩ := a.getSystemAddress_some sun_path htype hlength
        exact h ▸ rfl
      · simp [UnixAddress.getSystemAddress, htype, hlength]
    · simp [UnixAddress.getSystemAddress, htype]
  setSystemAddress := fun a s => by
    obtain ⟨b, h⟩ := a.setSystemAddress_some s
    exact h ▸ rfl

theorem getAddressString_valid {a : UnixAddress} (h : a.isValid = true) :
    a.getAddressString = unixPrefix.append a.name.text := by
  have hnull : ¬a.name.bytes.head? = some 0 := by simpa [isValid, isNull] using h
  unfold getAddressString
  rw [if_neg hnull]

/-- An address with a short name gives it back. -/
theorem reproduces_short {a : UnixAddress} {name : CString} (ha : a.name.text = name) (hne : name ≠ .empty)
    (h : name.bytes.length + 5 < MaxNameLength) : Reproduces a name := by
  have hvalid : a.isValid = true := isValid_iff.mpr (ha ▸ hne)
  refine ⟨hvalid, ?_, ?_⟩
  · intro sun_path length type hlength htype
    obtain ⟨s, hs, hfamily, hpath⟩ := a.getSystemAddress_some sun_path htype hlength
    obtain ⟨rest, hbytes⟩ := a.name.bytes_eq
    have hholds : s.sun_path.toList = name.bytes ++ 0 :: rest.take (MaxNameLength - (name.bytes.length + 1)) := by
      rw [hpath, hbytes, ha, List.take_append, List.take_of_length_le (by omega)]
      rw [show MaxNameLength - name.bytes.length = MaxNameLength - (name.bytes.length + 1) + 1 by omega]
      rfl
    refine ⟨s, hs, hfamily, ⟨_, hholds⟩, fun old => ?_⟩
    obtain ⟨b, hb, rest', hb'⟩ := old.setSystemAddress_unix hfamily
    refine ⟨b, hb, ?_⟩
    rw [hholds, List.append_assoc, List.cons_append] at hb'
    simp [eq, ha, CArray.text_eq hb']
  · intro memory
    obtain ⟨b, hb, htext⟩ := init_some memory a.getAddressString
    refine ⟨b, hb, ?_⟩
    rw [getAddressString_valid hvalid, ha, nameOf_short h] at htext
    simp [eq, ha, htext]

/-- The name of an address that gives back a name is that name. -/
theorem Reproduces.short {a : UnixAddress} {name : CString} (h : Reproduces a name)
    (ha : a.name.text = nameOf (unixPrefix.append name)) :
    name.bytes.length + 5 < MaxNameLength ∨ 2 ^ 32 ≤ name.bytes.length + 5 := by
  by_contra hnot
  rw [not_or] at hnot
  have hk : (name.bytes.length + 5) % 2 ^ 32 = name.bytes.length + 5 := Nat.mod_eq_of_lt (by omega)
  rw [nameOf_prefixed, hk] at ha
  dsimp only at ha
  rw [if_neg (by omega)] at ha
  exact isValid_iff.mp h.valid ha

/-- The round trip succeeds exactly for the names that fit into the path together with their
prefix, and for longer ones unless their length wraps around. -/
theorem roundTrip_iff (name : CString) :
    RoundTrip name ↔
      ¬(MaxNameLength ≤ name.bytes.length + 5 ∧ name.bytes.length < MaxNameLength) ∧
      ¬(MaxNameLength ≤ name.bytes.length ∧
        6 ≤ (name.bytes.length + 5) % 2 ^ 32 ∧ (name.bytes.length + 5) % 2 ^ 32 < MaxNameLength) := by
  have memory : Memory := List.Vector.replicate _ 0
  constructor
  · intro h
    constructor
    · rintro ⟨hlong, hshort⟩
      unfold MaxNameLength at *
      obtain ⟨a, ha, hrep⟩ := h.fits (by omega) hshort memory
      obtain ⟨b, hb, htext⟩ := init_some memory (unixPrefix.append name)
      cases ha.symm.trans hb
      have hcase := hrep.short htext
      unfold MaxNameLength at *
      omega
    · rintro ⟨hlong, h6, hk⟩
      obtain ⟨a, ha, hvalid⟩ := h.tooLong hlong memory
      obtain ⟨b, hb, htext⟩ := init_some memory (unixPrefix.append name)
      cases ha.symm.trans hb
      rw [nameOf_prefixed] at htext
      dsimp only at htext
      rw [if_pos ⟨by omega, hk⟩] at htext
      have hne : a.name.text ≠ .empty := by
        intro he
        have hlen := congrArg (fun s => s.bytes.length) (htext.symm.trans he)
        have htake : (name.take ((name.bytes.length + 5) % 2 ^ 32 - 5)).bytes.length =
            min ((name.bytes.length + 5) % 2 ^ 32 - 5) name.bytes.length := List.length_take
        have hempty : CString.empty.bytes.length = 0 := rfl
        unfold MaxNameLength at *
        omega
      rw [isValid_iff.mpr hne] at hvalid
      cases hvalid
  · rintro ⟨hfits, hlong⟩
    refine ⟨inside, fun hpos hshort memory => ?_, fun hle memory => ?_⟩
    · have h : name.bytes.length + 5 < MaxNameLength := by omega
      obtain ⟨a, ha, htext⟩ := init_some memory (unixPrefix.append name)
      refine ⟨a, ha, reproduces_short (htext.trans (nameOf_short h)) ?_ h⟩
      rintro rfl
      cases hpos
    · obtain ⟨a, ha, htext⟩ := init_some memory (unixPrefix.append name)
      refine ⟨a, ha, ?_⟩
      have hempty : a.name.text = .empty := by
        rw [htext, nameOf_prefixed]
        dsimp only
        by_cases h5 : (name.bytes.length + 5) % 2 ^ 32 = 5
        · rw [h5]
          rfl
        · rw [if_neg (by omega)]
      rw [Bool.eq_false_iff, ne_eq, isValid_iff, not_not]
      exact hempty

/-- A name of 103 bytes. -/
theorem not_roundTrip_103 : ¬∀ name : CString, RoundTrip name := by
  intro h
  let name : CString := ⟨List.replicate 103 97, by simp⟩
  have hlen : name.bytes.length = 103 := rfl
  have hmax : MaxNameLength = 108 := rfl
  have memory : Memory := List.Vector.replicate _ 0
  obtain ⟨a, ha, hrep⟩ := (h name).fits (by omega) (by omega) memory
  obtain ⟨b, hb, htext⟩ := init_some memory (unixPrefix.append name)
  cases ha.symm.trans hb
  have hshort := hrep.short htext
  omega

end UnixAddress

end SocketApi
