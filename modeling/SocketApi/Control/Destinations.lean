import SocketApi.Interface
import SocketApi.Address.Packed
import SocketApi.Address.Text
import SocketApi.Lib.Cmsg
import SocketApi.Lib.Traced
import SocketApi.Lib.Runs

/-!
# The addresses of a send

`ext_sendmsg` and `sctp_sendx` with `MSG_MULTIADDRS`, on the bytes of the caller's block:
`msg_namelen` is the number of addresses, and each one takes a slot of the fixed array
`destinationAddressList`. Every access to one of the two is recorded. The number of addresses is
compared with nothing.
-/

namespace SocketApi

open Effect Packed

variable {L : Sctplib} (E : Environment L) (N : NameSystem)

/-! ## Memory -/

/-- An access to `size` bytes of the caller's block, to a slot of `destinationAddressList`, or a
call of `SCTPSocket::sendTo`. -/
inductive SendEvent where
  | block (position size : Nat)
  | slot (index : Nat)
  | sending
  deriving DecidableEq

/-- The access is inside of what it is to. -/
def Allowed (m : Bytes) : SendEvent → Prop
  | .block position size => position + size ≤ m.length
  | .slot index => index < SCTP_MAX_NUM_ADDRESSES + 1
  | .sending => True

instance (m : Bytes) : DecidablePred (Allowed m) := fun e =>
  match e with
  | .block _ _ => inferInstanceAs (Decidable (_ ≤ _))
  | .slot _ => inferInstanceAs (Decidable (_ < _))
  | .sending => inferInstanceAs (Decidable True)

abbrev SendAct (L : Sctplib) (α : Type) := Traced SendEvent Halt (World L) α

def access (m : Bytes) (e : SendEvent) : SendAct L Unit := do
  emit e
  if Allowed m e then return () else throw .undefinedBehaviour

/-! ## Addresses -/

/-- A number in network byte order. -/
def networkNumber (m : Bytes) (a n : Nat) : Nat := ((m.drop a).take n).foldl (fun x b => 256 * x + b.toNat) 0

/-- The socket address at `a`. -/
def sockaddrAt (m : Bytes) (a family : Nat) : Sockaddr :=
  let port := BitVec.ofNat 16 (networkNumber m (a + 2) 2)
  if family = AF_INET then .inet (BitVec.ofNat 32 (networkNumber m (a + 4) 4)) port
  else if family = AF_INET6 then
    .inet6 (Vector.ofFn fun i : Fin 8 => BitVec.ofNat 16 (networkNumber m (a + 8 + 2 * i) 2)) port
      (BitVec.ofNat 32 (networkNumber m (a + 4) 4)) (BitVec.ofNat 32 (Cmsg.load m (a + 24) 4))
  else .other

/-- The object made of it, by its numeric text and port. -/
def socketAddressOf (s : Sockaddr) : SocketAddress :=
  let object := (InternetAddress.reset.setSystemAddress s).1
  { host := String.ofList (object.getAddressString N { address := true, hidePort := true, legacy := true })
    port := object.port.toNat }

/-- `SocketAddress::createSocketAddress(0, sa, ..)`, with the size of the structure. The callers
end with an error for other families, whether there is an object for them or not. -/
def createSocketAddressAt (m : Bytes) (a : Nat) : SendAct L (Option (SocketAddress × Nat)) := do
  access m (.block a 2)
  match sa_family m a with
  | .ok family =>
    if family = AF_INET then
      access m (.block a sizeofSockaddrIn)
      return some (socketAddressOf N (sockaddrAt m a family), sizeofSockaddrIn)
    else if family = AF_INET6 then
      access m (.block a sizeofSockaddrIn6)
      return some (socketAddressOf N (sockaddrAt m a family), sizeofSockaddrIn6)
    else return none
  | .error _ => throw .undefinedBehaviour

/-- The object made of an entry of the block. -/
def blockAddress (b : Block) : SocketAddress :=
  socketAddressOf N (sockaddrAt b.bytes 0 (if sa_family b.bytes 0 = .ok AF_INET then AF_INET else AF_INET6))

/-- The loop with `left` rounds to go, at slot `i` and block position `a`, and the NULL behind it. -/
def destinationLoop (m : Bytes) : (left i a : Nat) → SendAct L (Option (List SocketAddress))
  | 0, i, _ => do
    access m (.slot i)
    return some []
  | left + 1, i, a => do
    let address ← createSocketAddressAt N m a
    access m (.slot i)
    match address with
    | some (address, size) => return (← destinationLoop m left (i + 1) (a + size)).map (address :: ·)
    | none => return none

/-- The `destinationAddressList` of a send, `none` if it ends with `EINVAL`. -/
def destinationList (m : Bytes) (namelen : Nat) (flags : MsgFlags) : SendAct L (Option (List SocketAddress)) := do
  if flags.multiAddrs then destinationLoop N m namelen 0 0
  else
    let address ← createSocketAddressAt N m 0
    access m (.slot 0)
    access m (.slot 1)
    return some (address.map Prod.fst).toList

/-- A loop over the slots from `i` on, of `left` rounds or up to the NULL behind `count` addresses. -/
def scanSlots (m : Bytes) (count : Nat) : (left i : Nat) → SendAct L Unit
  | 0, _ => return ()
  | left + 1, i => do
    access m (.slot i)
    if i < count then scanSlots m count left (i + 1) else return ()

/-! ## The calls -/

/-- The `msghdr` of a send whose `msg_name` points to a block. -/
structure BlockMsgHdr where
  name : Bytes
  namelen : BitVec 32
  control : List ControlMessage := []
  flags : MsgFlags := {}

/-- `SCTP_INIT` makes an object of the first address when it has an association to set up. -/
def firstAddress (slot : Nat) (m : Bytes) : SendAct L (List (Option SocketAddress)) := do
  match ← untraced (ExtSocketDescriptorMaster.descriptorAt slot) with
  | .sctp desc =>
    if desc.connectionOriented && desc.sctpAssociationPtr.isNone then
      return [(← createSocketAddressAt N m 0).map Prod.fst]
    else return []
  | _ => return []

/-- `sendControl` with a block for the name. -/
def sendControlBlock (slot : Nat) (m : Bytes) :
    Option SctpSndrcvinfo → List ControlMessage → SendAct L (Except Int (Option SctpSndrcvinfo))
  | info, [] => return .ok info
  | _, .sndrcv info :: rest => sendControlBlock slot m (some info) rest
  | _, .truncatedSndrcv :: _ => return .error (-EINVAL)
  | info, .other :: rest => sendControlBlock slot m info rest
  | info, .init initMsg :: rest => do
    let addresses ← firstAddress N slot m
    match ← untraced (sendInit E slot initMsg (some addresses)) with
    | some error => return .error error
    | none => sendControlBlock slot m info rest

/-- The call of `sendTo`, which looks at the list up to its NULL, and the loop that deletes the
addresses. -/
def sendToBlock (m : Bytes) (s : SocketPtr) (call : List SocketAddress → SendCall) (addresses : List SocketAddress) :
    SendAct L Int := do
  scanSlots m addresses.length (addresses.length + 1) 0
  emit .sending
  let r ← untraced (SCTPSocket.sendTo E s (call addresses))
  scanSlots m addresses.length SCTP_MAX_NUM_ADDRESSES 0
  untraced (errnoReturn r.1)

/-- `ext_sendmsg_singlebuffer` with a block for the name. -/
def sendmsgBlock (sockfd : Int) (msg : BlockMsgHdr) (buffer : List UInt8) (flags : MsgFlags) : SendAct L Int := do
  match ExtSocketDescriptorMaster.getSocket sockfd with
  | none => untraced (errnoReturn (-EBADF))
  | some slot =>
    match ← untraced (ExtSocketDescriptorMaster.descriptorAt slot) with
    | .sctp _ =>
      discard (untraced (bindToAny E slot))
      match ← sendControlBlock E N slot msg.name none msg.control with
      | .error error => untraced (errnoReturn error)
      | .ok info =>
        match ← untraced (ExtSocketDescriptorMaster.descriptorAt slot) with
        | .sctp desc =>
          let flags := (flags.or msg.flags).or ((info.map (·.sinfo_flags)).getD {})
          let flags := { flags with dontwait := flags.dontwait || desc.nonBlock }
          match desc.sctpSocketPtr with
          | some s =>
            match ← destinationList N msg.name msg.namelen.toNat flags with
            | some addresses => sendToBlock E msg.name s (fun l => sendCall desc buffer flags info (some l)) addresses
            | none => untraced (errnoReturn (-EINVAL))
          | none => untraced (errnoReturn (-EBADF))
        | _ => throw .undefinedBehaviour
    | .system systemSocketID => return E.systemCall systemSocketID
    | .invalid => untraced (errnoReturn (- ENXIO))

/-- `ext_sendmsg`: the buffers as one message. -/
def ext_sendmsg_block (sockfd : Int) (msg : BlockMsgHdr) (iov : List (List UInt8)) (flags : MsgFlags) : SendAct L Int :=
  if 1 < iov.length ∧ !E.allocates .messageBuffer then return -ENOMEM
  else sendmsgBlock E N sockfd msg iov.flatten flags

/-- `sctp_sendx`. -/
def sctp_sendx_block (sd : Int) (buffer : List UInt8) (addrs : Bytes) (addrcnt : BitVec 32)
    (sinfo : Option SctpSndrcvinfo) (flags : MsgFlags) : SendAct L Int :=
  let sri := sinfo.getD {}
  ext_sendmsg_block E N sd
    { name := addrs, namelen := addrcnt, flags := { flags with multiAddrs := true }
      control := [.sndrcv { sri with sinfo_flags := { sri.sinfo_flags with multiAddrs := true } }] } [buffer] {}

/-! ## What is to hold -/

/-- The descriptor of a call is one for SCTP with a socket. -/
def HasSocket (w : World L) (sockfd : Int) : Prop :=
  ∃ slot desc s, ExtSocketDescriptorMaster.getSocket sockfd = some slot ∧ w.shared.descriptors slot = .sctp desc ∧
    desc.sctpSocketPtr = some s

/-- The accesses of a call with `count` addresses are inside of what they are to, and too many
addresses are rejected with `EINVAL`. -/
structure Bounded (m : Bytes) (count : Int) (sockfd : Int) (w : World L) (x : SendAct L Int) : Prop where
  inside : ∀ e ∈ events x w, Allowed m e
  rejected : (SCTP_MAX_NUM_ADDRESSES : Int) < count → HasSocket w sockfd →
    Post x (w, []) (fun r t => r = -1 ∧ t.1.thread.errno = EINVAL ∧ .sending ∉ t.2) fun _ _ => False

/-- The addresses of a `sctp_sendx`. -/
structure SendxAddresses where
  addrcnt : BitVec 32
  blocks : List Block
  complete : 0 ≤ addrcnt.toInt → blocks.length = addrcnt.toNat

/-- The addresses of a `ext_sendmsg`. -/
structure SendmsgAddresses where
  namelen : BitVec 32
  blocks : List Block
  complete : blocks.length = namelen.toNat

/-- All calls of `sctp_sendx` with these addresses are bounded. -/
def SendxAddresses.Bounded (a : SendxAddresses) : Prop :=
  ∀ (L : Sctplib) (E : Environment L) (N : NameSystem) (w : World L) (sd : Int) (buffer : List UInt8)
    (sinfo : Option SctpSndrcvinfo) (flags : MsgFlags),
    SocketApi.Bounded (image Block.bytes a.blocks) a.addrcnt.toInt sd w
      (sctp_sendx_block E N sd buffer (image Block.bytes a.blocks) a.addrcnt sinfo flags)

/-- The flags of the last send parameters, `flags` if there are none. -/
def lastFlags (flags : MsgFlags) : List ControlMessage → MsgFlags
  | [] => flags
  | .sndrcv info :: rest => lastFlags info.sinfo_flags rest
  | _ :: rest => lastFlags flags rest

/-- All calls of `ext_sendmsg` with these addresses and `MSG_MULTIADDRS` are bounded. -/
def SendmsgAddresses.Bounded (a : SendmsgAddresses) : Prop :=
  ∀ (L : Sctplib) (E : Environment L) (N : NameSystem) (w : World L) (sockfd : Int) (iov : List (List UInt8))
    (control : List ControlMessage) (msgFlags flags : MsgFlags),
    ((flags.or msgFlags).or (lastFlags {} control)).multiAddrs →
    SocketApi.Bounded (image Block.bytes a.blocks) a.namelen.toNat sockfd w
      (ext_sendmsg_block E N sockfd
        { name := image Block.bytes a.blocks, namelen := a.namelen, control, flags := msgFlags } iov flags)

/-! ## Calls with few addresses -/

section

variable {m : Bytes}

theorem allowed_slot {i : Nat} (h : i ≤ SCTP_MAX_NUM_ADDRESSES) : Allowed m (.slot i) := Nat.lt_succ_of_le h

theorem not_allowed_slot {i : Nat} (h : SCTP_MAX_NUM_ADDRESSES < i) :
    ¬Allowed m (.slot i) := fun hi => Nat.not_lt_of_le h hi

theorem allows_access {e : SendEvent} (h : Allowed m e) :
    Allows (Allowed m) (access m e : SendAct L Unit) fun _ => True := by
  unfold access
  rw [if_pos h]
  apply (Allows.emit h).bind
  intro _ _
  exact Allows.pure trivial

theorem allows_scanSlots {count : Nat} (hcount : count ≤ SCTP_MAX_NUM_ADDRESSES) (left i : Nat) (hi : i ≤ count) :
    Allows (Allowed m) (scanSlots m count left i : SendAct L Unit) fun _ => True := by
  induction left generalizing i with
  | zero => exact Allows.pure trivial
  | succ left ih =>
    apply (allows_access (allowed_slot (Nat.le_trans hi hcount))).bind
    intro _ _
    by_cases hlt : i < count
    · rw [if_pos hlt]
      exact ih (i + 1) hlt
    · rw [if_neg hlt]
      exact Allows.pure trivial

theorem runs_access {e : SendEvent} (h : Allowed m e) (s : World L × List SendEvent) :
    Runs (access m e) s () (s.1, s.2 ++ [e]) := by
  unfold access
  rw [if_pos h]
  rfl

theorem take_drop_inside {b : Bytes} {k n : Nat} (h : k + n ≤ b.length) (before behind : Bytes) :
    ((before ++ b ++ behind).drop (before.length + k)).take n = (b.drop k).take n := by
  have hrest : n ≤ (b.drop k).length := by
    rw [List.length_drop]
    omega
  rw [List.append_assoc, ← List.drop_drop, List.drop_left, List.drop_append_of_le_length (by omega),
    List.take_append_of_le_length hrest]

/-- A socket address inside of the block. -/
theorem sockaddrAt_inside (family : Nat) {b : Bytes} (before behind : Bytes)
    (h4 : family = AF_INET → b.length = sizeofSockaddrIn) (h6 : family = AF_INET6 → b.length = sizeofSockaddrIn6) :
    sockaddrAt (before ++ b ++ behind) before.length family = sockaddrAt b 0 family := by
  have hnumber {k n : Nat} (h : k + n ≤ b.length) :
      networkNumber (before ++ b ++ behind) (before.length + k) n = networkNumber b (0 + k) n := by
    unfold networkNumber
    rw [take_drop_inside h, Nat.zero_add]
  have hload {k n : Nat} (h : k + n ≤ b.length) :
      Cmsg.load (before ++ b ++ behind) (before.length + k) n = Cmsg.load b (0 + k) n := by
    unfold Cmsg.load
    rw [take_drop_inside h, Nat.zero_add]
  unfold sockaddrAt
  by_cases hinet : family = AF_INET
  · have hlength : b.length = 16 := h4 hinet
    rw [if_pos hinet, if_pos hinet, hnumber (by omega), hnumber (by omega)]
  · by_cases hinet6 : family = AF_INET6
    · have hlength : b.length = 28 := h6 hinet6
      have hwords : ∀ i : Fin 8, networkNumber (before ++ b ++ behind) (before.length + 8 + 2 * i) 2 =
          networkNumber b (0 + 8 + 2 * i) 2 := by
        intro i
        rw [Nat.add_assoc, Nat.add_assoc]
        exact hnumber (by omega)
      rw [if_neg hinet, if_pos hinet6, if_neg hinet, if_pos hinet6]
      simp only [hwords]
      rw [hnumber (by omega), hnumber (by omega), hload (by omega)]
    · rw [if_neg hinet, if_neg hinet6, if_neg hinet, if_neg hinet6]

/-- An entry of the block is read. -/
theorem runs_createSocketAddressAt {b : Block} {before behind : Bytes} (hm : m = before ++ b.bytes ++ behind)
    (s : World L × List SendEvent) :
    Runs (createSocketAddressAt N m before.length) s (some (blockAddress N b, b.bytes.length))
      (s.1, s.2 ++ [.block before.length 2] ++ [.block before.length b.bytes.length]) := by
  have hin : before.length + b.bytes.length ≤ m.length := by
    rw [hm]
    simp only [List.length_append]
    omega
  have htwo := b.two_le
  have hfamily : sa_family m before.length = sa_family b.bytes 0 := by
    rw [hm]
    exact sa_family_prefix htwo before behind
  have hsa : Allowed m (.block before.length 2) := by
    show before.length + 2 ≤ m.length
    omega
  have hblock : Allowed m (.block before.length b.bytes.length) := hin
  unfold createSocketAddressAt blockAddress
  rw [hfamily]
  rcases b.wellFormed with ⟨hb, hl⟩ | ⟨hb, hl⟩
  · have hinside := sockaddrAt_inside AF_INET before behind (fun _ => hl) (fun h => absurd h (by decide))
    rw [← hm] at hinside
    rw [hb, if_pos rfl, ← hinside]
    rw [hl] at hblock ⊢
    exact (runs_access hsa s).bind ((runs_access hblock _).bind (Runs.pure _ _))
  · have hinside := sockaddrAt_inside AF_INET6 before behind (fun h => absurd h (by decide)) (fun _ => hl)
    rw [← hm] at hinside
    rw [hb, if_neg (by decide), ← hinside]
    rw [hl] at hblock ⊢
    exact (runs_access hsa s).bind ((runs_access hblock _).bind (Runs.pure _ _))

theorem allows_createSocketAddressAt {b : Block} {before behind : Bytes} (hm : m = before ++ b.bytes ++ behind) :
    Allows (Allowed m) (createSocketAddressAt N m before.length : SendAct L _)
      fun r => r = some (blockAddress N b, b.bytes.length) := by
  intro s hs
  have hin : before.length + b.bytes.length ≤ m.length := by
    rw [hm]
    simp only [List.length_append]
    omega
  have hsa : Allowed m (.block before.length 2) := Nat.le_trans (Nat.add_le_add_left b.two_le _) hin
  have hblock : Allowed m (.block before.length b.bytes.length) := hin
  rw [(runs_createSocketAddressAt N hm s).post]
  simp only [List.forall_mem_append, List.forall_mem_singleton]
  exact ⟨⟨⟨hs, hsa⟩, hblock⟩, trivial⟩

theorem allows_destinationLoop (bs : List Block) (before : Bytes) (i : Nat) (hm : m = before ++ image Block.bytes bs)
    (hi : i + bs.length ≤ SCTP_MAX_NUM_ADDRESSES) :
    Allows (Allowed m) (destinationLoop N m bs.length i before.length : SendAct L _)
      fun r => ∃ l, r = some l ∧ l.length = bs.length := by
  have hslot : Allowed m (.slot i) := allowed_slot (by omega)
  induction bs generalizing before i with
  | nil =>
    apply (allows_access hslot).bind
    intro _ _
    exact Allows.pure ⟨[], rfl, rfl⟩
  | cons b bs ih =>
    rw [image_cons, ← List.append_assoc] at hm
    rw [List.length_cons] at hi
    apply (allows_createSocketAddressAt N hm).bind
    intro r hr
    rw [hr]
    apply (allows_access hslot).bind
    intro _ _
    have hnext : Allowed m (.slot (i + 1)) := allowed_slot (by omega)
    have hrest := ih (before ++ b.bytes) (i + 1) hm (by omega) hnext
    rw [List.length_append] at hrest
    apply hrest.bind
    intro r hr
    obtain ⟨l, rfl, hl⟩ := hr
    exact Allows.pure ⟨blockAddress N b :: l, rfl, congrArg (· + 1) hl⟩

/-- The first address is there, or not looked for. -/
theorem allows_firstAddress {slot : Nat} {bs : List Block} (hne : bs ≠ []) :
    Allows (Allowed (image Block.bytes bs)) (firstAddress N slot (image Block.bytes bs) : SendAct L _)
      fun _ => True := by
  unfold firstAddress
  apply (Allows.untraced _).bind
  intro d _
  cases d with
  | invalid => exact Allows.pure trivial
  | system _ => exact Allows.pure trivial
  | sctp desc =>
    dsimp only
    by_cases hconnect : (desc.connectionOriented && desc.sctpAssociationPtr.isNone) = true
    · rw [if_pos hconnect]
      cases bs with
      | nil => exact absurd rfl hne
      | cons b bs =>
        have hm : image Block.bytes (b :: bs) = [] ++ b.bytes ++ image Block.bytes bs := image_cons _ _ _
        apply (allows_createSocketAddressAt N hm).bind
        intro _ _
        exact Allows.pure trivial
    · rw [if_neg hconnect]
      exact Allows.pure trivial

theorem allows_sendControlBlock {slot : Nat} {bs : List Block} (info : Option SctpSndrcvinfo)
    (control : List ControlMessage) (hinit : bs = [] → ∀ initMsg, .init initMsg ∉ control) :
    Allows (Allowed (image Block.bytes bs)) (sendControlBlock E N slot (image Block.bytes bs) info control)
      fun _ => True := by
  induction control generalizing info with
  | nil => exact Allows.pure trivial
  | cons c control ih =>
    have hrest : bs = [] → ∀ initMsg, .init initMsg ∉ control := fun hb initMsg h =>
      hinit hb initMsg (List.mem_cons_of_mem _ h)
    cases c with
    | sndrcv info => exact ih _ hrest
    | truncatedSndrcv => exact Allows.pure trivial
    | other => exact ih _ hrest
    | init initMsg =>
      have hne : bs ≠ [] := fun hb => hinit hb initMsg List.mem_cons_self
      unfold sendControlBlock
      apply (allows_firstAddress N hne).bind
      intro addresses _
      apply (Allows.untraced _).bind
      intro r _
      cases r with
      | some error => exact Allows.pure trivial
      | none => exact ih _ hrest

theorem allows_destinationList {bs : List Block} {flags : MsgFlags} (hle : bs.length ≤ SCTP_MAX_NUM_ADDRESSES)
    (hmulti : bs = [] → flags.multiAddrs) :
    Allows (Allowed (image Block.bytes bs))
      (destinationList N (image Block.bytes bs) bs.length flags : SendAct L _)
      fun r => ∀ l, r = some l → l.length ≤ SCTP_MAX_NUM_ADDRESSES := by
  unfold destinationList
  by_cases hflags : flags.multiAddrs
  · rw [if_pos hflags]
    intro s hs
    apply (allows_destinationLoop N bs [] 0 (List.nil_append _).symm (by omega) s hs).imp
    intro r t h
    obtain ⟨hall, l, rfl, hl⟩ := h
    refine ⟨hall, ?_⟩
    intro l' h
    cases h
    rw [hl]
    exact hle
  · rw [if_neg hflags]
    cases bs with
    | nil => exact absurd (hmulti rfl) hflags
    | cons b bs =>
      have hm : image Block.bytes (b :: bs) = [] ++ b.bytes ++ image Block.bytes bs := image_cons _ _ _
      apply (allows_createSocketAddressAt N hm).bind
      intro r hr
      rw [hr]
      apply (allows_access (allowed_slot (by decide))).bind
      intro _ _
      apply (allows_access (allowed_slot (by decide))).bind
      intro _ _
      apply Allows.pure
      intro l h
      cases h
      show 1 ≤ SCTP_MAX_NUM_ADDRESSES
      decide

theorem allows_sendToBlock {s : SocketPtr} {call : List SocketAddress → SendCall} {addresses : List SocketAddress}
    (hle : addresses.length ≤ SCTP_MAX_NUM_ADDRESSES) :
    Allows (Allowed m) (sendToBlock E m s call addresses) fun _ => True := by
  unfold sendToBlock
  apply (allows_scanSlots hle _ 0 (Nat.zero_le _)).bind
  intro _ _
  apply (Allows.emit trivial).bind
  intro _ _
  apply (Allows.untraced _).bind
  intro r _
  apply (allows_scanSlots hle _ 0 (Nat.zero_le _)).bind
  intro _ _
  exact Allows.untraced _

/-- A call with few addresses stays inside: the first one is there if it is looked for. -/
theorem allows_sendmsgBlock {sockfd : Int} {bs : List Block} {msg : BlockMsgHdr} {buffer : List UInt8}
    {flags : MsgFlags} (hname : msg.name = image Block.bytes bs) (hlength : bs.length = msg.namelen.toNat)
    (hle : bs.length ≤ SCTP_MAX_NUM_ADDRESSES)
    (hempty : bs = [] → (∀ initMsg, .init initMsg ∉ msg.control) ∧ (flags.or msg.flags).multiAddrs) :
    Allows (Allowed (image Block.bytes bs)) (sendmsgBlock E N sockfd msg buffer flags) fun _ => True := by
  unfold sendmsgBlock
  rw [hname, ← hlength]
  cases ExtSocketDescriptorMaster.getSocket sockfd with
  | none => exact Allows.untraced _
  | some slot =>
    apply (Allows.untraced _).bind
    intro d _
    cases d with
    | invalid => exact Allows.untraced _
    | system _ => exact Allows.pure trivial
    | sctp _ =>
      have hbind : Allows (Allowed (image Block.bytes bs)) (discard (untraced (bindToAny E slot))) fun _ => True := by
        intro t ht
        rw [post_discard]
        exact Allows.untraced _ t ht
      apply hbind.bind
      intro _ _
      apply (allows_sendControlBlock E N none msg.control fun hb => (hempty hb).1).bind
      intro r _
      cases r with
      | error error => exact Allows.untraced _
      | ok info =>
        apply (Allows.untraced _).bind
        intro d _
        cases d with
        | invalid => exact Allows.throw _
        | system _ => exact Allows.throw _
        | sctp desc =>
          dsimp only
          cases desc.sctpSocketPtr with
          | none => exact Allows.untraced _
          | some s =>
            have hmulti : bs = [] → ((flags.or msg.flags).or ((info.map (·.sinfo_flags)).getD {})).multiAddrs := by
              intro hb
              unfold MsgFlags.or
              simp only [Bool.or_eq_true]
              have h := (hempty hb).2
              unfold MsgFlags.or at h
              simp only [Bool.or_eq_true] at h
              exact Or.inl h
            apply (allows_destinationList N hle hmulti).bind
            intro r hr
            cases r with
            | none => exact Allows.untraced _
            | some addresses => exact allows_sendToBlock E (hr _ rfl)

theorem allows_ext_sendmsg_block {sockfd : Int} {bs : List Block} {msg : BlockMsgHdr} {iov : List (List UInt8)}
    {flags : MsgFlags} (hname : msg.name = image Block.bytes bs) (hlength : bs.length = msg.namelen.toNat)
    (hle : bs.length ≤ SCTP_MAX_NUM_ADDRESSES)
    (hempty : bs = [] → (∀ initMsg, .init initMsg ∉ msg.control) ∧ (flags.or msg.flags).multiAddrs) :
    Allows (Allowed (image Block.bytes bs)) (ext_sendmsg_block E N sockfd msg iov flags) fun _ => True := by
  unfold ext_sendmsg_block
  by_cases hmemory : 1 < iov.length ∧ (!E.allocates .messageBuffer) = true
  · rw [if_pos hmemory]
    exact Allows.pure trivial
  · rw [if_neg hmemory]
    exact allows_sendmsgBlock E N hname hlength hle hempty

end

/-! ## Calls with many addresses -/

section

variable {m : Bytes} {s : World L × List SendEvent}

/-- A program that makes an access outside. -/
def Escapes {α : Type} (m : Bytes) (x : SendAct L α) (s : World L × List SendEvent) : Prop :=
  Post x s (fun _ _ => False) (fun _ t => ∃ e ∈ t.2, ¬Allowed m e)

theorem Escapes.bind {α β : Type} {x : SendAct L α} {f : α → SendAct L β} (h : Escapes m x s) : Escapes m (x >>= f) s :=
  Post.bind h fun _ _ hfalse => hfalse.elim

theorem Escapes.after {α β : Type} {x : SendAct L α} {f : α → SendAct L β} {a : α} {t : World L × List SendEvent}
    (h : Runs x s a t) (hf : Escapes m (f a) t) : Escapes m (x >>= f) s := by
  unfold Escapes
  rw [post_bind, h.post]
  exact hf

theorem Escapes.not_inside {α : Type} {x : SendAct L α} {w : World L} (h : Escapes m x (w, [])) :
    ¬∀ e ∈ events x w, Allowed m e := by
  intro hall
  have hpost : Post x (w, []) (fun _ t => ∃ e ∈ t.2, ¬Allowed m e) (fun _ t => ∃ e ∈ t.2, ¬Allowed m e) :=
    h.mono (fun _ _ hfalse => hfalse.elim) fun _ _ he => he
  obtain ⟨e, he, hnot⟩ := (events_of_post (P := fun l => ∃ e ∈ l, ¬Allowed m e)).mpr hpost
  exact hnot (hall e he)

theorem escapes_access {e : SendEvent} (h : ¬Allowed m e) : Escapes m (access m e) s := by
  unfold access Escapes
  rw [if_neg h, post_bind, post_emit, post_throw]
  exact ⟨e, List.mem_append_right _ (List.mem_singleton_self e), h⟩

/-- There is no entry at the end of the block. -/
theorem escapes_createSocketAddressAt : Escapes m (createSocketAddressAt N m m.length) s := by
  have hend : ¬Allowed m (.block m.length 2) := by
    show ¬m.length + 2 ≤ m.length
    omega
  exact (escapes_access hend).bind

/-- Too many rounds end outside of the array, or outside of the block before that. -/
theorem escapes_destinationLoop (left : Nat) (bs : List Block) (before : Bytes) (i : Nat)
    (hm : m = before ++ image Block.bytes bs) (hmany : SCTP_MAX_NUM_ADDRESSES < i + left) :
    Escapes m (destinationLoop N m left i before.length) s := by
  induction left generalizing bs before i s with
  | zero => exact (escapes_access (not_allowed_slot (by omega))).bind
  | succ left ih =>
    cases bs with
    | nil =>
      have hend : before.length = m.length := by
        rw [hm]
        exact congrArg List.length (List.append_nil before).symm
      rw [hend]
      exact (escapes_createSocketAddressAt N).bind
    | cons b bs =>
      rw [image_cons, ← List.append_assoc] at hm
      apply Escapes.after (runs_createSocketAddressAt N hm s)
      by_cases hi : i ≤ SCTP_MAX_NUM_ADDRESSES
      · apply Escapes.after (runs_access (allowed_slot hi) _)
        have hrest := fun t => ih (s := t) bs (before ++ b.bytes) (i + 1) hm (by omega)
        rw [List.length_append] at hrest
        exact (hrest _).bind
      · exact (escapes_access (not_allowed_slot (by omega))).bind

/-- A descriptor for SCTP with a socket that is bound. -/
def oneSocket (connectionOriented : Bool) : World Sctplib.small where
  shared := {
    stack := {}
    sockets := fun s => if s = 0 then some { instanceName := 1 } else none
    descriptors := fun slot =>
      if slot = 0 then .sctp { domain := .inet, type := .seqpacket, sctpSocketPtr := some 0, connectionOriented }
      else .invalid }

theorem runs_descriptorAt_oneSocket (c : Bool) :
    Runs (untraced (ExtSocketDescriptorMaster.descriptorAt 0)) (oneSocket c, ([] : List SendEvent))
      (.sctp { domain := .inet, type := .seqpacket, sctpSocketPtr := some 0, connectionOriented := c })
      (oneSocket c, []) := rfl

theorem runs_bindToAny_oneSocket (c : Bool) :
    Runs (discard (untraced (bindToAny {} 0))) (oneSocket c, ([] : List SendEvent)) () (oneSocket c, []) := by
  have hbind : Runs (bindToAny {} 0) (oneSocket c) 0 (oneSocket c) := rfl
  apply Runs.discard
  show untraced (bindToAny {} 0) (oneSocket c, ([] : List SendEvent)) = _
  unfold untraced
  rw [hbind]

variable {c : Bool} (msg : BlockMsgHdr) (buffer : List UInt8) (flags : MsgFlags)

/-- What the control data does wrong, the call does wrong. -/
theorem escapes_sendmsgBlock_control
    (h : Escapes m (sendControlBlock ({} : Environment Sctplib.small) N 0 msg.name none msg.control)
      (oneSocket c, [])) :
    Escapes m (sendmsgBlock {} N 0 msg buffer flags) (oneSocket c, []) := by
  have hslot : ExtSocketDescriptorMaster.getSocket 0 = some 0 := by decide
  unfold sendmsgBlock
  rw [hslot]
  apply Escapes.after (runs_descriptorAt_oneSocket c)
  apply Escapes.after (runs_bindToAny_oneSocket c)
  exact h.bind

/-- What the list of addresses does wrong, the call does wrong. -/
theorem escapes_sendmsgBlock_list {info : Option SctpSndrcvinfo}
    (hcontrol : Runs (sendControlBlock ({} : Environment Sctplib.small) N 0 msg.name none msg.control) (oneSocket c, [])
      (.ok info) (oneSocket c, []))
    (hflags : (flags.or msg.flags).multiAddrs)
    (h : Escapes m (destinationLoop N msg.name msg.namelen.toNat 0 0) (oneSocket c, [])) :
    Escapes m (sendmsgBlock {} N 0 msg buffer flags) (oneSocket c, []) := by
  have hslot : ExtSocketDescriptorMaster.getSocket 0 = some 0 := by decide
  have hmulti : ((flags.or msg.flags).or ((info.map (·.sinfo_flags)).getD {})).multiAddrs = true := by
    show ((flags.or msg.flags).multiAddrs || _) = true
    rw [hflags, Bool.true_or]
  unfold sendmsgBlock
  rw [hslot]
  apply Escapes.after (runs_descriptorAt_oneSocket c)
  apply Escapes.after (runs_bindToAny_oneSocket c)
  apply Escapes.after hcontrol
  apply Escapes.after (runs_descriptorAt_oneSocket c)
  apply Escapes.bind
  unfold destinationList
  rw [if_pos hmulti]
  exact h

end

/-! ## The condition -/

theorem toInt_bounds (x : BitVec 32) :
    (0 ≤ x.toInt ∧ x.toInt ≤ SCTP_MAX_NUM_ADDRESSES) ↔ x.toNat ≤ SCTP_MAX_NUM_ADDRESSES := by
  rw [BitVec.toInt_eq_toNat_cond]
  unfold SCTP_MAX_NUM_ADDRESSES
  by_cases h : 2 * x.toNat < 2 ^ 32
  · rw [if_pos h]
    omega
  · rw [if_neg h]
    omega

theorem SendxAddresses.bounded_of_le {a : SendxAddresses} (h : a.addrcnt.toNat ≤ SCTP_MAX_NUM_ADDRESSES) :
    a.Bounded := by
  have hint := (toInt_bounds a.addrcnt).mpr h
  have hlength := a.complete hint.1
  intro L E N w sd buffer sinfo flags
  refine ⟨?_, ?_⟩
  · have hflags : ((({} : MsgFlags).or { flags with multiAddrs := true })).multiAddrs = true := rfl
    have hcontrol : ∀ initMsg (info : SctpSndrcvinfo), ControlMessage.init initMsg ∉ [ControlMessage.sndrcv info] := by
      intro initMsg info hmem
      cases List.mem_singleton.mp hmem
    exact (allows_ext_sendmsg_block E N rfl hlength (hlength ▸ h) fun _ => ⟨fun i => hcontrol i _, hflags⟩).events w
  · intro hmany
    exact absurd hint.2 (Int.not_le.mpr hmany)

theorem SendxAddresses.le_of_bounded {a : SendxAddresses} (h : a.Bounded) :
    a.addrcnt.toNat ≤ SCTP_MAX_NUM_ADDRESSES := by
  by_contra hmany
  have hloop := escapes_destinationLoop (s := (oneSocket false, [])) {} a.addrcnt.toNat a.blocks [] 0
    (List.nil_append _).symm (by omega)
  have hcall := escapes_sendmsgBlock_list {}
    { name := image Block.bytes a.blocks, namelen := a.addrcnt, flags := { multiAddrs := true }
      control := [.sndrcv { sinfo_flags := { multiAddrs := true } }] } [] {} (Runs.pure _ _) rfl hloop
  exact hcall.not_inside (h Sctplib.small {} {} (oneSocket false) 0 [] none {}).inside

theorem SendmsgAddresses.bounded_of_le {a : SendmsgAddresses} (hne : 1 ≤ a.namelen.toNat)
    (h : a.namelen.toNat ≤ SCTP_MAX_NUM_ADDRESSES) : a.Bounded := by
  have hlength := a.complete
  intro L E N w sockfd iov control msgFlags flags _
  refine ⟨?_, ?_⟩
  · have hblocks : a.blocks ≠ [] := by
      intro hnil
      rw [hnil, List.length_nil] at hlength
      omega
    exact (allows_ext_sendmsg_block E N rfl hlength (hlength ▸ h) fun hnil => absurd hnil hblocks).events w
  · intro hmany
    exact absurd (Int.ofNat_le.mpr h) (Int.not_le.mpr hmany)

theorem SendmsgAddresses.le_of_bounded {a : SendmsgAddresses} (h : a.Bounded) :
    1 ≤ a.namelen.toNat ∧ a.namelen.toNat ≤ SCTP_MAX_NUM_ADDRESSES := by
  constructor
  · by_contra hnone
    have hblocks : a.blocks = [] := by
      apply List.length_eq_zero_iff.mp
      rw [a.complete]
      omega
    -- `SCTP_INIT` on a connection-oriented descriptor reads an address that is not there.
    have hcontrol : Escapes [] (sendControlBlock ({} : Environment Sctplib.small) {} 0 [] none [.init {}])
        (oneSocket true, []) := by
      have hfirst : Escapes [] (firstAddress {} 0 []) (oneSocket true, []) :=
        Escapes.after (runs_descriptorAt_oneSocket true) (escapes_createSocketAddressAt {}).bind
      exact hfirst.bind
    have hcall := escapes_sendmsgBlock_control {}
      { name := [], namelen := a.namelen, control := [.init {}], flags := { multiAddrs := true } } [] {} hcontrol
    have hinside := (h Sctplib.small {} {} (oneSocket true) 0 [] [.init {}] { multiAddrs := true } {} rfl).inside
    rw [hblocks] at hinside
    exact hcall.not_inside hinside
  · by_contra hmany
    have hloop := escapes_destinationLoop (s := (oneSocket false, [])) {} a.namelen.toNat a.blocks [] 0
      (List.nil_append _).symm (by omega)
    have hcall := escapes_sendmsgBlock_list {}
      { name := image Block.bytes a.blocks, namelen := a.namelen, flags := { multiAddrs := true } } [] {}
      (Runs.pure _ _) rfl hloop
    exact hcall.not_inside (h Sctplib.small {} {} (oneSocket false) 0 [] [] { multiAddrs := true } {} rfl).inside

/-- All accesses of the calls of `sctp_sendx` with some addresses are inside, and too many
addresses are rejected, exactly if there are no more addresses than the array has space for; a
negative number is one that is too large. The calls of `ext_sendmsg` need at least one address:
`SCTP_INIT` looks at the first one. -/
theorem bounded_iff (a : SendxAddresses) (b : SendmsgAddresses) :
    (a.Bounded ↔ 0 ≤ a.addrcnt.toInt ∧ a.addrcnt.toInt ≤ SCTP_MAX_NUM_ADDRESSES) ∧
      (b.Bounded ↔ 1 ≤ b.namelen.toNat ∧ b.namelen.toNat ≤ SCTP_MAX_NUM_ADDRESSES) := by
  constructor
  · rw [toInt_bounds]
    exact ⟨SendxAddresses.le_of_bounded, SendxAddresses.bounded_of_le⟩
  · constructor
    · intro h
      exact SendmsgAddresses.le_of_bounded h
    · intro h
      exact SendmsgAddresses.bounded_of_le h.1 h.2

/-- 21 addresses of IPv4. -/
def tooMany : SendxAddresses where
  addrcnt := 21
  blocks := List.replicate 21
    { bytes := [2, 0, 0, 9, 10, 0, 0, 1, 0, 0, 0, 0, 0, 0, 0, 0], wellFormed := Or.inl ⟨rfl, rfl⟩ }
  complete := fun _ => List.length_replicate

theorem not_bounded_tooMany : ¬∀ a : SendxAddresses, a.Bounded := by
  intro h
  have hle := SendxAddresses.le_of_bounded (h tooMany)
  exact absurd hle (by decide)

end SocketApi
