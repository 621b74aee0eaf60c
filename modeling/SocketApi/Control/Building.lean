import SocketApi.Lib.Cmsg

/-!
# Building control data

`SocketMessage::addHeader` writes a control header where `NextMsg` points to, or starts again
at the first one. `NextMsg` is taken from `CMSG_NXTHDR` with a `msg_controllen` that ends with
the header just written, so that there is never a next one.
-/

namespace SocketApi

open Cmsg

/-! ## The object -/

/-- `SocketMessage<size>`, as far as its control data is concerned. `NextMsg` is a position in
`Control`; `hasControl` says that `msg_control` points to `Control`. -/
structure SocketMessage (size : Nat) where
  hasControl : Bool
  controllen : Nat
  nextMsg : Option Nat
  control : Bytes
  fits : control.length = space size
  deriving DecidableEq

/-- `assert` has failed, or memory outside of `Control` is written. -/
inductive BuildFault where
  | assertion | outside
  deriving DecidableEq, Repr

/-- The arguments of `addHeader`. -/
structure HeaderCall where
  payloadLength : Nat
  level : BitVec 32
  type : BitVec 32
  deriving DecidableEq, Repr

/-- The header that a call asks for. -/
def HeaderCall.header (call : HeaderCall) : Header where
  cmsg_len := align headerSize + call.payloadLength
  cmsg_level := call.level
  cmsg_type := call.type

namespace SocketMessage

variable {size : Nat}

/-- `clear()`. -/
def clear (size : Nat) : SocketMessage size where
  hasControl := false
  controllen := 0
  nextMsg := none
  control := List.replicate (space size) 0
  fits := List.length_replicate

/-- "Initialize": the first header of the whole block. -/
def startOver (msg : SocketMessage size) : SocketMessage size :=
  if msg.nextMsg = none then { msg with hasControl := true, nextMsg := first size, controllen := 0 } else msg

/-- The header of a call is written at `cmsg`. -/
def writeHeader (msg : SocketMessage size) (cmsg : Nat) (call : HeaderCall) :
    Except BuildFault (Option Nat × SocketMessage size) :=
  let h : Header := { cmsg_len := length call.payloadLength, cmsg_level := call.level, cmsg_type := call.type }
  match hput : putHeader msg.control cmsg h with
  | none => .error .outside
  | some control =>
    let controllen := (msg.controllen + h.cmsg_len) % 2 ^ 64
    .ok (some (data cmsg),
      { msg with
        control, controllen, nextMsg := next controllen cmsg h.cmsg_len
        fits := (length_putHeader hput).trans msg.fits })

/-- `addHeader`: the position of the payload, `none` for NULL. -/
def addHeader (msg : SocketMessage size) (call : HeaderCall) : Except BuildFault (Option Nat × SocketMessage size) :=
  let msg := msg.startOver
  match msg.nextMsg with
  | none => .error .assertion
  | some cmsg => if size < msg.controllen then .ok (none, msg) else msg.writeHeader cmsg call

/-- `getFirstHeader`, `none` for NULL. -/
def getFirstHeader (msg : SocketMessage size) : Option Nat := if 0 < msg.controllen then first msg.controllen else none

/-- `getNextHeader` behind the header at `prev`. -/
def getNextHeader (msg : SocketMessage size) (prev : Nat) : Option Nat :=
  (header msg.control prev).bind fun h => next msg.controllen prev h.cmsg_len

/-- `getNextHeader` gives these headers from a position on. -/
inductive Enumerates (msg : SocketMessage size) : Option Nat → List Header → Prop
  | done : Enumerates msg none []
  | step {a : Nat} {h : Header} {rest : List Header} : header msg.control a = some h →
    Enumerates msg (msg.getNextHeader a) rest → Enumerates msg (some a) (h :: rest)

/-! ## What is to hold -/

/-- Two areas, by position and length, that share no byte. -/
def Apart (x y : Nat × Nat) : Prop := x.1 + x.2 ≤ y.1 ∨ y.1 + y.2 ≤ x.1

/-- The calls are answered as documented, on a block of which `used` bytes are taken by the
headers `added` with payloads in `areas`. -/
def Documented (used : Nat) (areas : List (Nat × Nat)) (added : List Header) :
    SocketMessage size → List HeaderCall → Prop
  | msg, [] =>
    (∀ area ∈ areas, area.1 + area.2 ≤ msg.control.length) ∧ areas.Pairwise Apart ∧
      msg.Enumerates msg.getFirstHeader added
  | msg, call :: calls =>
    if used + space call.payloadLength ≤ msg.control.length then
      ∃ p msg', msg.addHeader call = .ok (some p, msg') ∧
        Documented (used + space call.payloadLength) (areas ++ [(p, call.payloadLength)]) (added ++ [call.header])
          msg' calls
    else msg.addHeader call = .ok (none, msg) ∧ Documented used areas added msg calls

/-! ## One call -/

variable {msg : SocketMessage size} {call : HeaderCall}

/-- The only header of the block is at its start, and the block ends with it. -/
structure Written (msg : SocketMessage size) (h : Header) : Prop where
  nextMsg : msg.nextMsg = none
  controllen : msg.controllen = h.cmsg_len
  header : header msg.control 0 = some h

theorem startOver_none (hnext : msg.nextMsg = none) :
    msg.startOver = { msg with hasControl := true, nextMsg := first size, controllen := 0 } := if_pos hnext

theorem addHeader_small (hnext : msg.nextMsg = none) (hsize : size < headerSize) :
    msg.addHeader call = .error .assertion := by
  have hfirst : first size = none := if_neg (Nat.not_le_of_lt hsize)
  unfold addHeader
  simp only [startOver_none hnext, hfirst]

/-- A first header ends the block. -/
theorem writeHeader_first (hempty : msg.controllen = 0) (hroom : headerSize ≤ msg.control.length) :
    ∃ msg', msg.writeHeader 0 call = .ok (some headerSize, msg') ∧
      msg'.Written { call.header with cmsg_len := length call.payloadLength } := by
  have hlen : length call.payloadLength < 2 ^ 64 := Nat.mod_lt _ (by decide)
  have hcontrollen : (msg.controllen + length call.payloadLength) % 2 ^ 64 = length call.payloadLength := by
    rw [hempty, Nat.zero_add]
    exact Nat.mod_eq_of_lt hlen
  unfold writeHeader
  dsimp only
  split
  next hnone =>
    have hput := putHeader_of_le
      { cmsg_len := length call.payloadLength, cmsg_level := call.level, cmsg_type := call.type }
      (show 0 + headerSize ≤ msg.control.length by omega)
    rw [hnone] at hput
    cases hput
  next control hput =>
    refine ⟨_, rfl, ?_, hcontrollen, header_put hlen hput⟩
    show next ((msg.controllen + length call.payloadLength) % 2 ^ 64) 0 (length call.payloadLength) = none
    rw [hcontrollen]
    exact next_end _

/-- Each call starts again at the first header, and never says that there is no space. -/
theorem addHeader_large (call : HeaderCall) (hnext : msg.nextMsg = none) (hsize : headerSize ≤ size) :
    ∃ msg', msg.addHeader call = .ok (some headerSize, msg') ∧
      msg'.Written { call.header with cmsg_len := length call.payloadLength } := by
  have hfirst : first size = some 0 := if_pos hsize
  have hroom : headerSize ≤ msg.control.length := by
    rw [msg.fits]
    unfold space align
    unfold headerSize
    omega
  unfold addHeader
  simp only [startOver_none hnext, hfirst, Nat.not_lt_zero, if_false]
  exact writeHeader_first rfl hroom

theorem addHeader_some {r : Option Nat} {msg' : SocketMessage size} (hnext : msg.nextMsg = none)
    (h : msg.addHeader call = .ok (r, msg')) :
    headerSize ≤ size ∧ r = some headerSize ∧
      msg'.Written { call.header with cmsg_len := length call.payloadLength } := by
  by_cases hsize : headerSize ≤ size
  · obtain ⟨msg'', hadd, hwritten⟩ := addHeader_large call hnext hsize
    cases hadd.symm.trans h
    exact ⟨hsize, rfl, hwritten⟩
  · rw [addHeader_small hnext (by omega)] at h
    cases h

/-! ## All calls -/

theorem enumerates_none {hs : List Header} (h : msg.Enumerates none hs) : hs = [] := by
  cases h
  rfl

theorem enumerates_first {a : Nat} {hd : Header} {hs : List Header} (hhd : header msg.control a = some hd)
    (h : msg.Enumerates (some a) hs) : ∃ rest, hs = hd :: rest ∧ msg.Enumerates (msg.getNextHeader a) rest := by
  cases h with
  | step hh hrest =>
    cases hhd.symm.trans hh
    exact ⟨_, rfl, hrest⟩

theorem getNextHeader_written {h : Header} (hw : msg.Written h) : msg.getNextHeader 0 = none := by
  unfold getNextHeader
  rw [hw.header, hw.controllen]
  exact next_end h.cmsg_len

/-- The walk finds one header at most. -/
theorem enumerates_written {h : Header} (hw : msg.Written h) {hs : List Header}
    (henum : msg.Enumerates msg.getFirstHeader hs) : hs.length ≤ 1 := by
  unfold getFirstHeader at henum
  by_cases hpos : 0 < msg.controllen
  · rw [if_pos hpos] at henum
    by_cases hsize : headerSize ≤ msg.controllen
    · have hfirst : first msg.controllen = some 0 := if_pos hsize
      rw [hfirst] at henum
      obtain ⟨rest, rfl, hrest⟩ := enumerates_first hw.header henum
      rw [getNextHeader_written hw] at hrest
      rw [enumerates_none hrest]
      exact Nat.le_refl 1
    · have hfirst : first msg.controllen = none := if_neg hsize
      rw [hfirst] at henum
      rw [enumerates_none henum]
      exact Nat.zero_le 1
  · rw [if_neg hpos] at henum
    rw [enumerates_none henum]
    exact Nat.zero_le 1

/-- Behind a first header no other one is kept. -/
theorem documented_written {h : Header} (hw : msg.Written h) {used : Nat} {areas : List (Nat × Nat)}
    {added : List Header} {calls : List HeaderCall} (hdoc : Documented used areas added msg calls) :
    added.length + calls.length ≤ 1 := by
  induction calls generalizing msg h used areas added with
  | nil => exact enumerates_written hw hdoc.2.2
  | cons call calls ih =>
    unfold Documented at hdoc
    by_cases hfits : used + space call.payloadLength ≤ msg.control.length
    · rw [if_pos hfits] at hdoc
      obtain ⟨p, msg', hadd, hrest⟩ := hdoc
      obtain ⟨-, -, hw'⟩ := addHeader_some hw.nextMsg hadd
      have hle := ih hw' hrest
      rw [List.length_append, List.length_singleton] at hle
      rw [List.length_cons]
      omega
    · rw [if_neg hfits] at hdoc
      obtain ⟨-, hsome, -⟩ := addHeader_some hw.nextMsg hdoc.1
      cases hsome

/-- A single call that fits. -/
theorem documented_single (hsize : headerSize ≤ size) (hmemory : space size < 2 ^ 64)
    (hfits : space call.payloadLength ≤ space size) : Documented 0 [] [] (clear size) [call] := by
  have hroom : 0 + space call.payloadLength ≤ (clear size).control.length := by
    rw [(clear size).fits, Nat.zero_add]
    exact hfits
  have hpayload : call.payloadLength ≤ align call.payloadLength := by
    rw [align_eq]
    omega
  have hlength : length call.payloadLength = align headerSize + call.payloadLength := by
    unfold space at *
    exact Nat.mod_eq_of_lt (by omega)
  obtain ⟨msg', hadd, hw⟩ := addHeader_large call (show (clear size).nextMsg = none from rfl) hsize
  unfold Documented
  rw [if_pos hroom]
  refine ⟨headerSize, msg', hadd, ?_⟩
  have hheader : { call.header with cmsg_len := length call.payloadLength } = call.header := by
    rw [hlength]
    rfl
  rw [hheader] at hw
  have hlarge : headerSize ≤ msg'.controllen := by
    rw [hw.controllen]
    exact Nat.le_add_right _ _
  refine ⟨?_, List.pairwise_singleton _ _, ?_⟩
  · intro area harea
    cases List.mem_singleton.mp harea
    rw [msg'.fits]
    unfold space at *
    have halign : align headerSize = headerSize := rfl
    omega
  · have hfirst : msg'.getFirstHeader = some 0 := by
      unfold getFirstHeader
      rw [if_pos (Nat.lt_of_lt_of_le (by decide) hlarge)]
      exact if_pos hlarge
    rw [hfirst]
    refine .step hw.header ?_
    rw [getNextHeader_written hw]
    exact .done

/-- Headers are added as documented exactly by no call at all and by a single one that fits, on
a block of at least one header. -/
theorem documented_iff (size : Nat) (hmemory : space size < 2 ^ 64) (calls : List HeaderCall) :
    Documented 0 [] [] (clear size) calls ↔
      calls = [] ∨ ∃ call, calls = [call] ∧ headerSize ≤ size ∧ space call.payloadLength ≤ space size := by
  constructor
  · intro h
    cases calls with
    | nil => exact Or.inl rfl
    | cons call calls =>
      unfold Documented at h
      by_cases hfits : 0 + space call.payloadLength ≤ (clear size).control.length
      · rw [if_pos hfits] at h
        obtain ⟨p, msg', hadd, hrest⟩ := h
        obtain ⟨hsize, -, hw⟩ := addHeader_some (show (clear size).nextMsg = none from rfl) hadd
        have hle := documented_written hw hrest
        have hnil : calls = [] := by
          apply List.length_eq_zero_iff.mp
          rw [List.nil_append, List.length_singleton] at hle
          omega
        rw [(clear size).fits, Nat.zero_add] at hfits
        exact Or.inr ⟨call, by rw [hnil], hsize, hfits⟩
      · rw [if_neg hfits] at h
        obtain ⟨-, hsome, -⟩ := addHeader_some (show (clear size).nextMsg = none from rfl) h.1
        cases hsome
  · rintro (rfl | ⟨call, rfl, hsize, hfits⟩)
    · exact ⟨fun _ h => absurd h List.not_mem_nil, List.Pairwise.nil, .done⟩
    · exact documented_single hsize hmemory hfits

/-- One `sctp_sndrcvinfo` in a block for one. -/
theorem documented_iff_sndrcv :
    Documented 0 [] [] (clear 32) [{ payloadLength := 32, level := 132, type := 2 }] ↔
      [({ payloadLength := 32, level := 132, type := 2 } : HeaderCall)] = [] ∨
        ∃ call, [({ payloadLength := 32, level := 132, type := 2 } : HeaderCall)] = [call] ∧ headerSize ≤ 32 ∧
          space call.payloadLength ≤ space 32 :=
  documented_iff 32 (by decide) _

/-- Two headers in a block with space for both. -/
theorem not_documented_two : ¬∀ size calls, space size < 2 ^ 64 → Documented 0 [] [] (clear size) calls := by
  intro h
  let call : HeaderCall := { payloadLength := 8, level := 132, type := 1 }
  have hdoc := h 64 [call, call] (by decide)
  unfold Documented at hdoc
  have hfits : 0 + space call.payloadLength ≤ (clear 64).control.length := by
    rw [(clear 64).fits]
    decide
  rw [if_pos hfits] at hdoc
  obtain ⟨p, msg', hadd, hrest⟩ := hdoc
  obtain ⟨-, -, hw⟩ := addHeader_some (show (clear 64).nextMsg = none from rfl) hadd
  exact absurd (documented_written hw hrest) (by decide)

end SocketMessage

end SocketApi
