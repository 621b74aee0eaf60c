import SocketApi.Messages
import SocketApi.Lib.Cmsg
import SocketApi.Lib.Traced

/-!
# Reading control data

The loop of `ext_sendmsg` over the control headers of a message, on the bytes of the control
buffer: what it reads is recorded, and so is the descriptor before and after each header.
`cmsg_len` counts the header as well, but is compared with the size of the payload alone, and
for `SCTP_INIT` with nothing.
-/

namespace SocketApi

open Effect Cmsg

variable {L : Sctplib} (E : Environment L)

/-! ## Payloads -/

def IPPROTO_SCTP : BitVec 32 := 132
def SCTP_INIT : BitVec 32 := 1
def SCTP_SNDRCV : BitVec 32 := 2

/-- `sizeof(sctp_sndrcvinfo)`. -/
def sizeofSndrcvinfo : Nat := 32

/-- `sizeof(sctp_initmsg)`. -/
def sizeofInitmsg : Nat := 8

/-- The bits of a flag word, as `ext_socket.h` borrows them from the system's `MSG_xxxx`. -/
def MsgFlags.ofWord (word : Nat) : MsgFlags where
  notification := word.testBit 0
  peek := word.testBit 1
  unordered := word.testBit 2
  unbundled := word.testBit 3
  sendToAll := word.testBit 4
  multiAddrs := word.testBit 5
  dontwait := word.testBit 6
  eor := word.testBit 7
  eof := word.testBit 9
  abort := word.testBit 12
  prSctpTTL := word.testBit 13
  addrOver := word.testBit 15

/-- The `sctp_sndrcvinfo` at `a`. -/
def sndrcvinfoAt (m : Bytes) (a : Nat) : SctpSndrcvinfo where
  sinfo_stream := load m a 2
  sinfo_ssn := load m (a + 2) 2
  sinfo_flags := .ofWord (load m (a + 4) 4)
  sinfo_ppid := load m (a + 8) 4
  sinfo_context := load m (a + 12) 4
  sinfo_timetolive := load m (a + 16) 4
  sinfo_tsn := load m (a + 20) 4
  sinfo_cumtsn := load m (a + 24) 4
  sinfo_assoc_id := load m (a + 28) 4

/-- The `sctp_initmsg` at `a`. -/
def initmsgAt (m : Bytes) (a : Nat) : InitMsg where
  numOstreams := load m a 2
  maxInstreams := load m (a + 2) 2
  maxAttempts := load m (a + 4) 2
  maxInitTimeo := load m (a + 6) 2

/-! ## The loop -/

/-- A header and its position. -/
abbrev ControlHeader := Nat × Header

/-- The payload of a header is read, or the header has been dealt with. -/
inductive ControlEvent where
  | read (cmsg : ControlHeader) (size : Nat)
  | done (cmsg : ControlHeader) (before after : ExtSocketDescriptor)

abbrev TracedAct (L : Sctplib) (α : Type) := Traced ControlEvent Halt (World L) α

/-- The payload of a header, of which `size` bytes are read. -/
def readPayload {α : Type} (m : Bytes) (cmsg : ControlHeader) (size : Nat) (decode : Bytes → Nat → α) :
    TracedAct L α := do
  emit (.read cmsg size)
  if data cmsg.1 + size ≤ m.length then return decode m (data cmsg.1) else throw .undefinedBehaviour

/-- An action that deals with a header. -/
def dealWith {α : Type} (slot : Nat) (cmsg : ControlHeader) (x : TracedAct L α) : TracedAct L α := fun s =>
  let done (t : World L × List ControlEvent) :=
    (t.1, t.2 ++ [.done cmsg (s.1.shared.descriptors slot) (t.1.shared.descriptors slot)])
  match x s with
  | .ok a t => .ok a (done t)
  | .error e t => .error e (done t)

/-- An association that could not be set up ends the send. -/
def afterInit (info : Option ControlHeader) : Option Int → Except Int (Option ControlHeader)
  | some error => .error error
  | none => .ok info

/-- The body of the loop. `info` is the header whose payload `info` points to. -/
def controlHeader (slot : Nat) (name : Option (List (Option SocketAddress))) (m : Bytes) (cmsg : ControlHeader)
    (info : Option ControlHeader) : TracedAct L (Except Int (Option ControlHeader)) :=
  if cmsg.2.cmsg_level = IPPROTO_SCTP then
    if cmsg.2.cmsg_type = SCTP_SNDRCV then
      if sizeofSndrcvinfo ≤ cmsg.2.cmsg_len then return .ok (some cmsg) else return .error (-EINVAL)
    else if cmsg.2.cmsg_type = SCTP_INIT then do
      let initMsg ← readPayload m cmsg sizeofInitmsg initmsgAt
      return afterInit info (← untraced (sendInit E slot initMsg name))
    else return .ok info
  else return .ok info

def controlLoop (slot : Nat) (name : Option (List (Option SocketAddress))) (m : Bytes) :
    List ControlHeader → Option ControlHeader → TracedAct L (Except Int (Option ControlHeader))
  | [], info => return .ok info
  | cmsg :: rest, info => do
    match ← dealWith slot cmsg (controlHeader E slot name m cmsg info) with
    | .error error => return .error error
    | .ok info => controlLoop slot name m rest info

/-- The send parameters are read behind the loop. -/
def lastInfo (m : Bytes) : Except Int (Option ControlHeader) → TracedAct L (Except Int (Option SctpSndrcvinfo))
  | .error error => return .error error
  | .ok none => return .ok none
  | .ok (some cmsg) => return .ok (some (← readPayload m cmsg sizeofSndrcvinfo sndrcvinfoAt))

/-- The control data of a send: the last send parameters, or the error that ends the send. -/
def sendControlData (slot : Nat) (name : Option (List (Option SocketAddress))) (m : Bytes) :
    TracedAct L (Except Int (Option SctpSndrcvinfo)) := do
  lastInfo m (← controlLoop E slot name m (headers m) none)

/-! ## What is to hold -/

/-- A header and `size` bytes of payload are inside its `cmsg_len` and inside the buffer. -/
def Fits (m : Bytes) (cmsg : ControlHeader) (size : Nat) : Prop :=
  headerSize + size ≤ cmsg.2.cmsg_len ∧ cmsg.1 + headerSize + size ≤ m.length

instance (m : Bytes) (cmsg : ControlHeader) (size : Nat) : Decidable (Fits m cmsg size) :=
  inferInstanceAs (Decidable (_ ∧ _))

def isSndrcv (h : Header) : Bool := h.cmsg_level = IPPROTO_SCTP && h.cmsg_type = SCTP_SNDRCV
def isInit (h : Header) : Bool := h.cmsg_level = IPPROTO_SCTP && h.cmsg_type = SCTP_INIT

/-- A header without space for the payload of its type. -/
def TooShort (h : Header) : Prop :=
  (isSndrcv h ∧ h.cmsg_len < headerSize + sizeofSndrcvinfo) ∨ (isInit h ∧ h.cmsg_len < headerSize + sizeofInitmsg)

def SafeEvent (m : Bytes) : ControlEvent → Prop
  | .read cmsg size => Fits m cmsg size
  | .done cmsg before after => TooShort cmsg.2 → after = before

/-- The walk over the control data of a send ends, stays inside the buffer and its headers, and
passes over headers that are too short. -/
structure InBounds (slot : Nat) (name : Option (List (Option SocketAddress))) (m : Bytes) (w : World L) : Prop where
  terminates : headerSize * (headers m).length ≤ m.length
  safe : ∀ e ∈ events (sendControlData E slot name m) w, SafeEvent m e

/-- A header that does not end the send with `EINVAL`. -/
def admitted (cmsg : ControlHeader) : Bool := !isSndrcv cmsg.2 || decide (sizeofSndrcvinfo ≤ cmsg.2.cmsg_len)

/-- From `hs` on, with the send parameters of `info` so far: each `SCTP_INIT` that is met has its
payload, and so have the send parameters that are used in the end. -/
def ProperFrom (m : Bytes) (info : Option ControlHeader) (hs : List ControlHeader) : Prop :=
  (∀ cmsg ∈ hs.takeWhile admitted, isInit cmsg.2 → Fits m cmsg sizeofInitmsg) ∧
    (hs.all admitted → ∀ cmsg, (hs.filter fun c => isSndrcv c.2).getLast?.or info = some cmsg →
      Fits m cmsg sizeofSndrcvinfo)

/-- All `SCTP_INIT` headers in front of the first `SCTP_SNDRCV` with a `cmsg_len` below the size
of its payload have theirs; if there is no such, the last `SCTP_SNDRCV` has its payload. -/
def Proper (m : Bytes) : Prop := ProperFrom m none (headers m)

/-! ## Traced programs -/

section

variable {α : Type} {slot : Nat} {name : Option (List (Option SocketAddress))} {m : Bytes} {cmsg : ControlHeader}
  {info : Option ControlHeader} {s : World L × List ControlEvent} {Q : α → World L × List ControlEvent → Prop}
  {H : Halt → World L × List ControlEvent → Prop}

theorem post_dealWith {x : TracedAct L α} :
    Post (dealWith slot cmsg x) s Q H ↔
      Post x s
        (fun a t => Q a (t.1, t.2 ++ [.done cmsg (s.1.shared.descriptors slot) (t.1.shared.descriptors slot)]))
        (fun e t => H e (t.1, t.2 ++ [.done cmsg (s.1.shared.descriptors slot) (t.1.shared.descriptors slot)])) := by
  unfold Post dealWith
  cases x s <;> rfl

theorem post_readPayload {size : Nat} {decode : Bytes → Nat → α} :
    Post (readPayload m cmsg size decode) s Q H ↔
      if data cmsg.1 + size ≤ m.length then Q (decode m (data cmsg.1)) (s.1, s.2 ++ [.read cmsg size])
      else H .undefinedBehaviour (s.1, s.2 ++ [.read cmsg size]) := by
  unfold readPayload
  rw [post_bind, post_emit]
  by_cases hin : data cmsg.1 + size ≤ m.length
  · simp only [hin, if_true, post_pure]
  · simp only [hin, if_false, post_throw]

/-! ## One header -/

theorem isSndrcv_iff {h : Header} : isSndrcv h ↔ h.cmsg_level = IPPROTO_SCTP ∧ h.cmsg_type = SCTP_SNDRCV := by
  unfold isSndrcv
  simp

theorem isInit_iff {h : Header} : isInit h ↔ h.cmsg_level = IPPROTO_SCTP ∧ h.cmsg_type = SCTP_INIT := by
  unfold isInit
  simp

theorem not_sndrcv_of_init {h : Header} (hinit : isInit h) : ¬isSndrcv h := by
  intro hsndrcv
  have hne : SCTP_INIT ≠ SCTP_SNDRCV := by decide
  exact hne ((isInit_iff.mp hinit).2.symm.trans (isSndrcv_iff.mp hsndrcv).2)

theorem admitted_of_init (hinit : isInit cmsg.2) : admitted cmsg := by
  unfold admitted
  simp [not_sndrcv_of_init hinit]

theorem properFrom_cons {rest : List ControlHeader} :
    ProperFrom m info (cmsg :: rest) ↔
      (admitted cmsg → (isInit cmsg.2 → Fits m cmsg sizeofInitmsg) ∧
        ProperFrom m (if isSndrcv cmsg.2 then some cmsg else info) rest) := by
  unfold ProperFrom
  by_cases hacc : admitted cmsg
  · have hlast : ((cmsg :: rest).filter fun c => isSndrcv c.2).getLast?.or info =
        (rest.filter fun c => isSndrcv c.2).getLast?.or (if isSndrcv cmsg.2 then some cmsg else info) := by
      by_cases hs : isSndrcv cmsg.2
      · rw [List.filter_cons_of_pos (p := fun c : ControlHeader => isSndrcv c.2) hs, List.getLast?_cons, if_pos hs]
        cases (rest.filter fun c => isSndrcv c.2).getLast? <;> rfl
      · rw [List.filter_cons_of_neg (p := fun c : ControlHeader => isSndrcv c.2) hs, if_neg hs]
    rw [List.takeWhile_cons_of_pos hacc, List.all_cons, hacc, Bool.true_and, hlast, List.forall_mem_cons]
    simp only [true_imp_iff, and_assoc]
  · rw [List.takeWhile_cons_of_neg hacc, List.all_cons]
    simp [hacc]

theorem controlHeader_sndrcv (hsndrcv : isSndrcv cmsg.2) :
    controlHeader E slot name m cmsg info =
      if sizeofSndrcvinfo ≤ cmsg.2.cmsg_len then pure (.ok (some cmsg)) else pure (.error (-EINVAL)) := by
  obtain ⟨hlevel, htype⟩ := isSndrcv_iff.mp hsndrcv
  unfold controlHeader
  rw [if_pos hlevel, if_pos htype]

theorem controlHeader_init (hinit : isInit cmsg.2) :
    controlHeader E slot name m cmsg info = (do
      let initMsg ← readPayload m cmsg sizeofInitmsg initmsgAt
      return afterInit info (← untraced (sendInit E slot initMsg name))) := by
  obtain ⟨hlevel, htype⟩ := isInit_iff.mp hinit
  have hsndrcv : cmsg.2.cmsg_type ≠ SCTP_SNDRCV := by
    rw [htype]
    decide
  unfold controlHeader
  rw [if_pos hlevel, if_neg hsndrcv, if_pos htype]

theorem controlHeader_other (hsndrcv : ¬isSndrcv cmsg.2) (hinit : ¬isInit cmsg.2) :
    controlHeader E slot name m cmsg info = pure (.ok info) := by
  rw [isSndrcv_iff] at hsndrcv
  rw [isInit_iff] at hinit
  unfold controlHeader
  by_cases hlevel : cmsg.2.cmsg_level = IPPROTO_SCTP
  · rw [if_pos hlevel, if_neg fun h => hsndrcv ⟨hlevel, h⟩, if_neg fun h => hinit ⟨hlevel, h⟩]
  · rw [if_neg hlevel]

/-- A header that has its payload is dealt with safely. -/
theorem controlHeader_safe (hsafe : ∀ e ∈ s.2, SafeEvent m e) (hinit : isInit cmsg.2 → Fits m cmsg sizeofInitmsg) :
    Post (dealWith slot cmsg (controlHeader E slot name m cmsg info)) s
      (fun r t => (∀ e ∈ t.2, SafeEvent m e) ∧
        ∀ info', r = .ok info' → admitted cmsg ∧ info' = if isSndrcv cmsg.2 then some cmsg else info)
      (fun _ t => ∀ e ∈ t.2, SafeEvent m e) := by
  -- Only `SCTP_INIT` changes the descriptor.
  have hdone : ∀ after, SafeEvent m (.done cmsg after after) := fun _ _ => rfl
  rw [post_dealWith]
  by_cases hsndrcv : isSndrcv cmsg.2
  · rw [controlHeader_sndrcv E hsndrcv]
    by_cases hlen : sizeofSndrcvinfo ≤ cmsg.2.cmsg_len
    · rw [if_pos hlen, post_pure]
      refine ⟨List.forall_mem_append.mpr ⟨hsafe, List.forall_mem_singleton.mpr (hdone _)⟩, ?_⟩
      intro info' h
      cases h
      simp [admitted, hlen, hsndrcv]
    · rw [if_neg hlen, post_pure]
      refine ⟨List.forall_mem_append.mpr ⟨hsafe, List.forall_mem_singleton.mpr (hdone _)⟩, ?_⟩
      intro info' h
      cases h
  · by_cases hi : isInit cmsg.2
    · have hfits := hinit hi
      have hinit_done : ∀ before after, SafeEvent m (.done cmsg before after) := by
        intro before after hshort
        rcases hshort with ⟨h, -⟩ | ⟨-, h⟩
        · exact absurd h hsndrcv
        · exact absurd hfits.1 (Nat.not_le_of_lt h)
      have hin : data cmsg.1 + sizeofInitmsg ≤ m.length := hfits.2
      have hall : ∀ before after,
          ∀ e ∈ s.2 ++ [.read cmsg sizeofInitmsg] ++ [.done cmsg before after], SafeEvent m e := by
        intro before after
        simp only [List.forall_mem_append, List.forall_mem_singleton]
        exact ⟨⟨hsafe, hfits⟩, hinit_done before after⟩
      rw [controlHeader_init E hi, post_bind, post_readPayload, if_pos hin, post_bind, post_untraced]
      apply post_true.mono
      · intro r w _
        rw [post_pure]
        refine ⟨hall _ _, ?_⟩
        intro info' h
        cases r with
        | some error => cases h
        | none =>
          cases h
          exact ⟨admitted_of_init hi, by rw [if_neg hsndrcv]⟩
      · intro e w _
        exact hall _ _
    · rw [controlHeader_other E hsndrcv hi, post_pure]
      refine ⟨List.forall_mem_append.mpr ⟨hsafe, List.forall_mem_singleton.mpr (hdone _)⟩, ?_⟩
      intro info' h
      cases h
      simp [admitted, hsndrcv]

/-! ## All headers -/

theorem controlLoop_safe {hs : List ControlHeader} (hsafe : ∀ e ∈ s.2, SafeEvent m e)
    (hproper : ProperFrom m info hs) :
    Post (controlLoop E slot name m hs info) s
      (fun r t => (∀ e ∈ t.2, SafeEvent m e) ∧ ∀ last, r = .ok (some last) → Fits m last sizeofSndrcvinfo)
      (fun _ t => ∀ e ∈ t.2, SafeEvent m e) := by
  induction hs generalizing s info with
  | nil =>
    refine ⟨hsafe, ?_⟩
    intro last h
    cases h
    exact hproper.2 rfl last rfl
  | cons cmsg rest ih =>
    have hcons := properFrom_cons.mp hproper
    apply (controlHeader_safe E hsafe fun hi => (hcons (admitted_of_init hi)).1 hi).bind
    intro r t h
    obtain ⟨ht, hr⟩ := h
    cases r with
    | error e =>
      refine ⟨ht, ?_⟩
      intro last h
      cases h
    | ok info' =>
      obtain ⟨hacc, rfl⟩ := hr info' rfl
      exact ih ht (hcons hacc).2

/-- Control data that is proper is read safely, whatever the destination. -/
theorem inBounds_of_proper {w : World L} (hproper : Proper m) : InBounds E slot name m w := by
  refine ⟨length_headers m, ?_⟩
  apply (events_of_post (P := fun l => ∀ e ∈ l, SafeEvent m e)).mpr
  have hnone : ∀ e ∈ ((w, []) : World L × List ControlEvent).2, SafeEvent m e := fun e h => absurd h List.not_mem_nil
  apply (controlLoop_safe E hnone hproper).bind
  intro r t h
  obtain ⟨ht, hr⟩ := h
  cases r with
  | error e => exact ht
  | ok last =>
    cases last with
    | none => exact ht
    | some cmsg =>
      have hfits := hr cmsg rfl
      have hin : data cmsg.1 + sizeofSndrcvinfo ≤ m.length := hfits.2
      have hall : ∀ e ∈ t.2 ++ [.read cmsg sizeofSndrcvinfo], SafeEvent m e :=
        List.forall_mem_append.mpr ⟨ht, List.forall_mem_singleton.mpr hfits⟩
      apply (post_bind _).mpr
      rw [post_readPayload, if_pos hin]
      exact hall

/-! ## Without a destination -/

/-- With no destination, `SCTP_INIT` changes the descriptor and nothing else. -/
theorem sendInit_none {initMsg : InitMsg} {w : World L} :
    Post (sendInit E slot initMsg none) w (fun r _ => r = none) (fun _ _ => False) := by
  unfold sendInit setDesc ExtSocketDescriptorMaster.descriptorAt
  rw [post_bind, post_update, post_bind, post_bind, post_shared, post_pure]
  split
  next hname => cases hname
  next => rfl

/-- What is unsafe about a header shows in the events. -/
theorem controlHeader_none :
    Post (dealWith slot cmsg (controlHeader E slot none m cmsg info)) s
      (fun r t => s.2 ⊆ t.2 ∧ (isInit cmsg.2 → .read cmsg sizeofInitmsg ∈ t.2) ∧
        (admitted cmsg → r = .ok (if isSndrcv cmsg.2 then some cmsg else info)))
      (fun _ t => s.2 ⊆ t.2 ∧ ¬∀ e ∈ t.2, SafeEvent m e) := by
  rw [post_dealWith]
  by_cases hsndrcv : isSndrcv cmsg.2
  · have hinit : ¬isInit cmsg.2 := fun hi => not_sndrcv_of_init hi hsndrcv
    rw [controlHeader_sndrcv E hsndrcv]
    by_cases hlen : sizeofSndrcvinfo ≤ cmsg.2.cmsg_len
    · rw [if_pos hlen, post_pure]
      exact ⟨List.subset_append_left _ _, fun hi => absurd hi hinit, fun _ => by rw [if_pos hsndrcv]⟩
    · rw [if_neg hlen, post_pure]
      refine ⟨List.subset_append_left _ _, fun hi => absurd hi hinit, ?_⟩
      intro hacc
      simp [admitted, hsndrcv, hlen] at hacc
  · by_cases hi : isInit cmsg.2
    · rw [controlHeader_init E hi, post_bind, post_readPayload]
      by_cases hin : data cmsg.1 + sizeofInitmsg ≤ m.length
      · rw [if_pos hin, post_bind, post_untraced]
        apply (sendInit_none E).mono
        · intro r w hr
          rw [post_pure, hr]
          simp [afterInit, hsndrcv]
        · intro e w h
          exact h.elim
      · rw [if_neg hin]
        simp only [List.append_assoc]
        refine ⟨List.subset_append_left _ _, ?_⟩
        intro hall
        have hread := hall (.read cmsg sizeofInitmsg) (by simp)
        exact hin hread.2
    · rw [controlHeader_other E hsndrcv hi, post_pure]
      exact ⟨List.subset_append_left _ _, fun h => absurd h hi, fun _ => by rw [if_neg hsndrcv]⟩

theorem controlLoop_none {hs : List ControlHeader} :
    Post (controlLoop E slot none m hs info) s
      (fun r t => s.2 ⊆ t.2 ∧ ((∀ e ∈ t.2, SafeEvent m e) →
        (∀ last, r = .ok (some last) → Fits m last sizeofSndrcvinfo) → ProperFrom m info hs))
      (fun _ t => s.2 ⊆ t.2 ∧ ¬∀ e ∈ t.2, SafeEvent m e) := by
  induction hs generalizing s info with
  | nil =>
    refine ⟨List.Subset.refl _, ?_⟩
    intro _ hlast
    refine ⟨fun _ h => absurd h List.not_mem_nil, ?_⟩
    intro _ last h
    exact hlast last (congrArg Except.ok h)
  | cons cmsg rest ih =>
    apply (controlHeader_none E).bind
    intro r t h
    obtain ⟨hsub, hread, hr⟩ := h
    -- A safe run reads the payload of this `SCTP_INIT` only if it is there.
    have hfits : ∀ u : World L × List ControlEvent, t.2 ⊆ u.2 → (∀ e ∈ u.2, SafeEvent m e) → isInit cmsg.2 →
        Fits m cmsg sizeofInitmsg := fun u hu hall hi => hall _ (hu (hread hi))
    cases r with
    | error e =>
      refine ⟨hsub, ?_⟩
      intro _ _
      rw [properFrom_cons]
      intro hacc
      cases hr hacc
    | ok info' =>
      apply ih.mono
      · intro r' u h
        obtain ⟨hsub', hrest⟩ := h
        refine ⟨List.Subset.trans hsub hsub', ?_⟩
        intro hall hlast
        rw [properFrom_cons]
        intro hacc
        cases hr hacc
        exact ⟨hfits u hsub' hall, hrest hall hlast⟩
      · intro e u h
        obtain ⟨hsub', hunsafe⟩ := h
        exact ⟨List.Subset.trans hsub hsub', hunsafe⟩

theorem proper_of_inBounds {w : World L} (h : InBounds E slot none m w) : Proper m := by
  have hpost : Post (sendControlData E slot none m) (w, []) (fun _ t => (∀ e ∈ t.2, SafeEvent m e) → Proper m)
      (fun _ t => (∀ e ∈ t.2, SafeEvent m e) → Proper m) := by
    apply ((controlLoop_none E).mono (fun _ _ hq => hq) fun e t he hall => absurd hall he.2).bind
    intro r t h
    obtain ⟨-, hr⟩ := h
    cases r with
    | error e =>
      intro hall
      exact hr hall fun last h => by cases h
    | ok last =>
      cases last with
      | none =>
        intro hall
        exact hr hall fun last h => by cases h
      | some cmsg =>
        apply (post_bind _).mpr
        rw [post_readPayload]
        have hproper : (∀ e ∈ t.2 ++ [.read cmsg sizeofSndrcvinfo], SafeEvent m e) → Proper m := by
          intro hall
          rw [List.forall_mem_append, List.forall_mem_singleton] at hall
          apply hr hall.1
          intro last h
          cases h
          exact hall.2
        by_cases hin : data cmsg.1 + sizeofSndrcvinfo ≤ m.length
        · rw [if_pos hin]
          exact hproper
        · rw [if_neg hin]
          exact hproper
  exact (events_of_post (P := fun l => (∀ e ∈ l, SafeEvent m e) → Proper m)).mpr hpost h.safe

end

/-! ## The loop over decoded headers -/

section

variable {α : Type} {slot : Nat} {name : Option (List (Option SocketAddress))} {m : Bytes} {cmsg : ControlHeader}

theorem forgets_dealWith {x : TracedAct L α} {y : Act L α} (h : Forgets x y) :
    Forgets (dealWith slot cmsg x) y := by
  intro s
  obtain ⟨t, ht⟩ := h s
  unfold dealWith
  rw [ht]
  cases y s.1 <;> exact ⟨_, rfl⟩

/-- A payload inside the buffer is decoded. -/
theorem forgets_readPayload {size : Nat} (decode : Bytes → Nat → α) (hin : data cmsg.1 + size ≤ m.length) :
    Forgets (readPayload m cmsg size decode : TracedAct L α) (pure (decode m (data cmsg.1))) := by
  intro s
  refine ⟨s.2 ++ [.read cmsg size], ?_⟩
  unfold readPayload
  rw [if_pos hin]
  rfl

/-- The message that a header stands for. -/
def controlMessage (m : Bytes) (cmsg : ControlHeader) : ControlMessage :=
  if isSndrcv cmsg.2 then
    if sizeofSndrcvinfo ≤ cmsg.2.cmsg_len then .sndrcv (sndrcvinfoAt m (data cmsg.1)) else .truncatedSndrcv
  else if isInit cmsg.2 then .init (initmsgAt m (data cmsg.1))
  else .other

/-- The payload of a header is inside the buffer. -/
structure PayloadInside (m : Bytes) (cmsg : ControlHeader) : Prop where
  sndrcv : isSndrcv cmsg.2 → data cmsg.1 + sizeofSndrcvinfo ≤ m.length
  init : isInit cmsg.2 → data cmsg.1 + sizeofInitmsg ≤ m.length

theorem forgets_controlLoop {hs : List ControlHeader} {info : Option ControlHeader} (hin : ∀ c ∈ hs, PayloadInside m c)
    (hinfo : ∀ c, info = some c → data c.1 + sizeofSndrcvinfo ≤ m.length) :
    Forgets (controlLoop E slot name m hs info >>= lastInfo m)
      (sendControl E slot name (info.map fun c => sndrcvinfoAt m (data c.1)) (hs.map (controlMessage m))) := by
  induction hs generalizing info with
  | nil =>
    cases info with
    | none => exact forgets_pure _
    | some c => exact (forgets_readPayload _ (hinfo c rfl)).bind fun a => forgets_pure _
  | cons cmsg rest ih =>
    rw [List.forall_mem_cons] at hin
    obtain ⟨hhere, hrest⟩ := hin
    unfold controlLoop
    rw [bind_assoc, List.map_cons]
    by_cases hsndrcv : isSndrcv cmsg.2
    · rw [controlHeader_sndrcv E hsndrcv]
      by_cases hlen : sizeofSndrcvinfo ≤ cmsg.2.cmsg_len
      · have hmessage : controlMessage m cmsg = .sndrcv (sndrcvinfoAt m (data cmsg.1)) := by
          unfold controlMessage
          rw [if_pos hsndrcv, if_pos hlen]
        rw [hmessage, if_pos hlen]
        apply (forgets_dealWith (forgets_pure (Except.ok (some cmsg)))).pure_bind
        apply ih hrest
        intro c h
        cases h
        exact hhere.sndrcv hsndrcv
      · have hmessage : controlMessage m cmsg = .truncatedSndrcv := by
          unfold controlMessage
          rw [if_pos hsndrcv, if_neg hlen]
        rw [hmessage, if_neg hlen]
        apply (forgets_dealWith (forgets_pure (Except.error (-EINVAL)))).pure_bind
        exact forgets_pure _
    · by_cases hi : isInit cmsg.2
      · have hmessage : controlMessage m cmsg = .init (initmsgAt m (data cmsg.1)) := by
          unfold controlMessage
          rw [if_neg hsndrcv, if_pos hi]
        rw [hmessage, controlHeader_init E hi]
        have hbody := (forgets_readPayload initmsgAt (hhere.init hi)).bind fun initMsg =>
          (forgets_untraced (sendInit E slot initMsg name)).bind fun r => forgets_pure (afterInit info r)
        apply (forgets_dealWith hbody).bind_handed (k := afterInit info)
        intro r
        cases r with
        | some error => exact forgets_pure _
        | none => exact ih hrest hinfo
      · have hmessage : controlMessage m cmsg = .other := by
          unfold controlMessage
          rw [if_neg hsndrcv, if_neg hi]
        rw [hmessage, controlHeader_other E hsndrcv hi]
        apply (forgets_dealWith (forgets_pure (Except.ok info))).pure_bind
        exact ih hrest hinfo

/-- Where all payloads are inside the buffer, the bytes are dealt with as the messages they stand
for. -/
theorem forgets_sendControlData (hin : ∀ c ∈ headers m, PayloadInside m c) :
    Forgets (sendControlData E slot name m) (sendControl E slot name none ((headers m).map (controlMessage m))) := by
  apply forgets_controlLoop E hin
  intro c h
  cases h

end

/-! ## The condition -/

/-- The control data of a send is read safely, whatever the destination, exactly when it is
proper: in any state of the library and of the descriptor. -/
theorem inBounds_iff (slot : Nat) (m : Bytes) (w : World L) :
    (∀ name, InBounds E slot name m w) ↔ Proper m := by
  constructor
  · intro h
    exact proper_of_inBounds E (h none)
  · intro hproper name
    exact inBounds_of_proper E hproper

/-- A descriptor for SCTP in the first slot. -/
def oneDescriptor : World Sctplib.small where
  shared := {
    stack := {}
    descriptors := fun slot => if slot = 0 then .sctp { domain := .inet, type := .seqpacket } else .invalid }

/-- A header of `SCTP_INIT` and nothing behind it. -/
def bareInit : Bytes := [16, 0, 0, 0, 0, 0, 0, 0, 132, 0, 0, 0, 1, 0, 0, 0]

theorem headers_bareInit : headers bareInit = [(0, { cmsg_len := 16, cmsg_level := 132, cmsg_type := 1 })] := by
  have hfirst : first bareInit.length = some 0 := by decide
  have hheader : header bareInit 0 = some { cmsg_len := 16, cmsg_level := 132, cmsg_type := 1 } := by decide
  unfold headers
  rw [hfirst]
  dsimp only
  rw [headersFrom, hheader]
  dsimp only
  split
  next => rfl
  next a' hnext =>
    have hnone : next bareInit.length 0 16 = none := by decide
    rw [hnone] at hnext
    cases hnext

theorem not_inBounds_bareInit : ¬∀ name m, InBounds {} 0 name m oneDescriptor := by
  intro h
  have hproper := proper_of_inBounds {} (h none bareInit)
  unfold Proper at hproper
  rw [headers_bareInit, properFrom_cons] at hproper
  have hfits := (hproper (by decide)).1 (by decide)
  exact absurd hfits (by decide)

end SocketApi
