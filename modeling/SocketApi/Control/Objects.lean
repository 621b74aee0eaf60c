import SocketApi.Control.Destinations
import Mathlib.Data.List.TakeWhile

/-!
# The addresses of a send as objects

Where the block holds from one to `SCTP_MAX_NUM_ADDRESSES` addresses, the sends on its bytes do
what the sends do on the objects that are made of them.
-/

namespace SocketApi

open Effect Packed

variable {L : Sctplib} (E : Environment L) (N : NameSystem)

section

variable {m : Bytes} {bs : List Block}

/-! ## The block -/

theorem forgets_access {e : SendEvent} (h : Allowed m e) : Forgets (access m e : SendAct L Unit) (pure ()) := by
  unfold access
  rw [if_pos h]
  apply (forgets_emit e).pure_bind
  exact forgets_pure ()

theorem forgets_createSocketAddressAt {b : Block} {before behind : Bytes} (hm : m = before ++ b.bytes ++ behind) :
    Forgets (createSocketAddressAt N m before.length : SendAct L _)
      (pure (some (blockAddress N b, b.bytes.length))) := by
  intro s
  exact ⟨_, runs_createSocketAddressAt N hm s⟩

theorem forgets_destinationLoop (bs : List Block) (before : Bytes) (i : Nat) (hm : m = before ++ image Block.bytes bs)
    (hi : i + bs.length ≤ SCTP_MAX_NUM_ADDRESSES) :
    Forgets (destinationLoop N m bs.length i before.length : SendAct L _) (pure (some (bs.map (blockAddress N)))) := by
  have hslot : Allowed m (.slot i) := allowed_slot (by omega)
  induction bs generalizing before i with
  | nil =>
    apply (forgets_access hslot).pure_bind
    exact forgets_pure _
  | cons b bs ih =>
    rw [image_cons, ← List.append_assoc] at hm
    rw [List.length_cons] at hi
    apply (forgets_createSocketAddressAt N hm).pure_bind
    apply (forgets_access hslot).pure_bind
    have hnext : Allowed m (.slot (i + 1)) := allowed_slot (by omega)
    have hrest := ih (before ++ b.bytes) (i + 1) hm (by omega) hnext
    rw [List.length_append] at hrest
    apply hrest.pure_bind
    exact forgets_pure _

/-- The objects that stand for a block. -/
def blockObjects (bs : List Block) : List (Option SocketAddress) := bs.map fun b => some (blockAddress N b)

theorem mapM_blockObjects (bs : List Block) : (blockObjects N bs).mapM id = some (bs.map (blockAddress N)) := by
  induction bs with
  | nil => rfl
  | cons b bs ih =>
    unfold blockObjects at *
    rw [List.map_cons, List.mapM_cons, ih]
    rfl

theorem takeWhile_blockObjects (bs : List Block) : (blockObjects N bs).takeWhile Option.isSome = blockObjects N bs := by
  apply List.takeWhile_eq_self_iff.mpr
  intro x hx
  obtain ⟨b, -, rfl⟩ := List.mem_map.mp hx
  rfl

theorem forgets_destinationList {flags : MsgFlags} (hne : bs ≠ []) (hle : bs.length ≤ SCTP_MAX_NUM_ADDRESSES) :
    Forgets (destinationList N (image Block.bytes bs) bs.length flags : SendAct L _)
      (pure (destinations flags (blockObjects N bs))) := by
  unfold destinationList destinations
  by_cases hflags : flags.multiAddrs
  · rw [if_pos hflags, if_pos hflags, mapM_blockObjects]
    exact forgets_destinationLoop N bs [] 0 (List.nil_append _).symm (by omega)
  · rw [if_neg hflags, if_neg hflags]
    cases bs with
    | nil => exact absurd rfl hne
    | cons b bs =>
      have hm : image Block.bytes (b :: bs) = [] ++ b.bytes ++ image Block.bytes bs := image_cons _ _ _
      apply (forgets_createSocketAddressAt N hm).pure_bind
      apply (forgets_access (allowed_slot (by decide))).pure_bind
      apply (forgets_access (allowed_slot (by decide))).pure_bind
      exact forgets_pure _

theorem forgets_scanSlots {count : Nat} (hcount : count ≤ SCTP_MAX_NUM_ADDRESSES) (left i : Nat) (hi : i ≤ count) :
    Forgets (scanSlots m count left i : SendAct L Unit) (pure ()) := by
  induction left generalizing i with
  | zero => exact forgets_pure ()
  | succ left ih =>
    apply (forgets_access (allowed_slot (Nat.le_trans hi hcount))).pure_bind
    by_cases hlt : i < count
    · rw [if_pos hlt]
      exact ih (i + 1) hlt
    · rw [if_neg hlt]
      exact forgets_pure ()

theorem forgets_sendToBlock {s : SocketPtr} {call : List SocketAddress → SendCall} {addresses : List SocketAddress}
    (hle : addresses.length ≤ SCTP_MAX_NUM_ADDRESSES) :
    Forgets (sendToBlock E m s call addresses)
      (SCTPSocket.sendTo E s (call addresses) >>= fun r => errnoReturn r.1) := by
  unfold sendToBlock
  apply (forgets_scanSlots hle _ 0 (Nat.zero_le _)).pure_bind
  apply (forgets_emit SendEvent.sending).pure_bind
  apply (forgets_untraced _).bind
  intro r
  apply (forgets_scanSlots hle _ 0 (Nat.zero_le _)).pure_bind
  exact forgets_untraced _

/-! ## The control data -/

/-- The descriptor behind the step of `sendInit` that notes the parameters. -/
def notedInit (initMsg : InitMsg) : ExtSocketDescriptor → ExtSocketDescriptor
  | .sctp desc => .sctp { desc with initMsg }
  | d => d

theorem sendInit_noted (slot : Nat) (initMsg : InitMsg) (w : World L) :
    ∃ w', Runs (setDesc slot fun d => { d with initMsg }) w () w' ∧
      w'.shared.descriptors slot = notedInit initMsg (w.shared.descriptors slot) := by
  refine ⟨_, rfl, ?_⟩
  dsimp only
  split
  next desc hd =>
    rw [hd]
    exact Function.update_self _ _ _
  next hd =>
    cases hslot : w.shared.descriptors slot with
    | sctp desc => exact absurd hslot (hd desc)
    | system _ => rfl
    | invalid => rfl

/-- `sendInit` looks at the first destination only, and at none if there is no association to set up. -/
theorem sendInit_congr {slot : Nat} {initMsg : InitMsg} {w : World L} {name name' : List (Option SocketAddress)}
    (h : ∀ desc, w.shared.descriptors slot = .sctp desc →
      (desc.connectionOriented && desc.sctpAssociationPtr.isNone) = true → name.head? = name'.head?) :
    sendInit E slot initMsg (some name) w = sendInit E slot initMsg (some name') w := by
  obtain ⟨w', hset, hnoted⟩ := sendInit_noted slot initMsg w
  have hget :
      Runs (ExtSocketDescriptorMaster.descriptorAt slot) w' (notedInit initMsg (w.shared.descriptors slot)) w' := by
    rw [← hnoted]
    rfl
  unfold sendInit
  rw [hset.bind_eq, hset.bind_eq, hget.bind_eq, hget.bind_eq]
  cases hd : w.shared.descriptors slot with
  | invalid => rfl
  | system _ => rfl
  | sctp desc =>
    unfold notedInit
    dsimp only
    by_cases hconnect : desc.connectionOriented = true
    · by_cases hassociation : desc.sctpAssociationPtr.isNone = true
      · rw [h desc hd (by rw [hconnect, hassociation]; rfl)]
      · have hsome : desc.sctpAssociationPtr.isSome = true := by
          rw [← Option.not_isNone, Bool.eq_false_iff.mpr hassociation]
          rfl
        simp only [hconnect, hsome, if_true]
    · simp only [hconnect]
      rfl

/-- The object of the first address is all that `SCTP_INIT` needs. -/
theorem forgets_firstAddress {slot : Nat} {initMsg : InitMsg} (hne : bs ≠ []) :
    Forgets (firstAddress N slot (image Block.bytes bs) >>= fun addresses =>
        untraced (sendInit E slot initMsg (some addresses)))
      (sendInit E slot initMsg (some (blockObjects N bs))) := by
  intro s
  have hget : Runs (untraced (ExtSocketDescriptorMaster.descriptorAt slot)) s (s.1.shared.descriptors slot) s := rfl
  have hsend (l : List (Option SocketAddress)) (events : List SendEvent)
      (h : ∀ desc, s.1.shared.descriptors slot = .sctp desc →
        (desc.connectionOriented && desc.sctpAssociationPtr.isNone) = true → l.head? = (blockObjects N bs).head?) :
      ∃ t, untraced (sendInit E slot initMsg (some l)) (s.1, events) =
        withEvents t (sendInit E slot initMsg (some (blockObjects N bs)) s.1) := by
    rw [← sendInit_congr E h]
    exact forgets_untraced _ (s.1, events)
  unfold firstAddress
  rw [bind_assoc, hget.bind_eq]
  cases hd : s.1.shared.descriptors slot with
  | invalid =>
    apply hsend [] s.2
    intro desc h
    cases hd.symm.trans h
  | system _ =>
    apply hsend [] s.2
    intro desc h
    cases hd.symm.trans h
  | sctp desc =>
    dsimp only
    by_cases hconnect : (desc.connectionOriented && desc.sctpAssociationPtr.isNone) = true
    · rw [if_pos hconnect]
      cases bs with
      | nil => exact absurd rfl hne
      | cons b bs =>
        have hm : image Block.bytes (b :: bs) = [] ++ b.bytes ++ image Block.bytes bs := image_cons _ _ _
        have hcreate := runs_createSocketAddressAt N hm s
        rw [List.length_nil] at hcreate
        rw [bind_assoc, hcreate.bind_eq]
        apply hsend [some (blockAddress N b)]
        intro _ _ _
        rfl
    · rw [if_neg hconnect]
      apply hsend [] s.2
      intro desc' h hconnect'
      cases hd.symm.trans h
      exact absurd hconnect' hconnect

theorem forgets_sendControlBlock {slot : Nat} (hne : bs ≠ []) (info : Option SctpSndrcvinfo)
    (control : List ControlMessage) :
    Forgets (sendControlBlock E N slot (image Block.bytes bs) info control)
      (sendControl E slot (some (blockObjects N bs)) info control) := by
  induction control generalizing info with
  | nil => exact forgets_pure _
  | cons c control ih =>
    cases c with
    | sndrcv info => exact ih _
    | truncatedSndrcv => exact forgets_pure _
    | other => exact ih _
    | init initMsg =>
      unfold sendControlBlock sendControl
      rw [← bind_assoc]
      apply (forgets_firstAddress E N hne).bind
      intro r
      cases r with
      | some error => exact forgets_pure _
      | none => exact ih _

/-! ## The calls -/

theorem length_destinations {flags : MsgFlags} {addresses : List SocketAddress}
    (h : destinations flags (blockObjects N bs) = some addresses) : addresses.length ≤ bs.length := by
  unfold destinations at h
  by_cases hflags : flags.multiAddrs
  · rw [if_pos hflags, mapM_blockObjects] at h
    cases h
    rw [List.length_map]
  · rw [if_neg hflags] at h
    cases h
    refine (List.length_filterMap_le _ _).trans ?_
    rw [List.length_take]
    unfold blockObjects
    rw [List.length_map]
    exact Nat.min_le_right _ _

/-- The message with the objects for the block. -/
def BlockMsgHdr.objects (msg : BlockMsgHdr) (bs : List Block) : SendMsgHdr where
  name := some (blockObjects N bs)
  control := msg.control
  flags := msg.flags

theorem forgets_sendmsgBlock {sockfd : Int} {msg : BlockMsgHdr} {buffer : List UInt8} {flags : MsgFlags}
    (hname : msg.name = image Block.bytes bs) (hlength : bs.length = msg.namelen.toNat) (hne : bs ≠ [])
    (hle : bs.length ≤ SCTP_MAX_NUM_ADDRESSES) :
    Forgets (sendmsgBlock E N sockfd msg buffer flags)
      (ext_sendmsg_singlebuffer E sockfd (msg.objects N bs) buffer flags) := by
  unfold sendmsgBlock ext_sendmsg_singlebuffer
  rw [hname, ← hlength]
  cases ExtSocketDescriptorMaster.getSocket sockfd with
  | none => exact forgets_untraced _
  | some slot =>
    apply (forgets_untraced _).bind
    intro d
    cases d with
    | invalid => exact forgets_untraced _
    | system _ => exact forgets_pure _
    | sctp _ =>
      have hbind : Forgets (discard (untraced (bindToAny E slot) : SendAct L Int)) (discard (bindToAny E slot)) :=
        (forgets_untraced (bindToAny E slot)).bind fun _ => forgets_pure ()
      apply hbind.bind
      intro _
      apply (forgets_sendControlBlock E N hne none msg.control).bind
      intro r
      cases r with
      | error error => exact forgets_untraced _
      | ok info =>
        apply (forgets_untraced _).bind
        intro d
        cases d with
        | invalid => exact forgets_throw _
        | system _ => exact forgets_throw _
        | sctp desc =>
          unfold BlockMsgHdr.objects
          dsimp only
          cases desc.sctpSocketPtr with
          | none => exact forgets_untraced _
          | some s =>
            have hfew : ¬SCTP_MAX_NUM_ADDRESSES < ((blockObjects N bs).takeWhile Option.isSome).length := by
              rw [takeWhile_blockObjects]
              unfold blockObjects
              rw [List.length_map]
              exact Nat.not_lt_of_le hle
            dsimp only
            rw [if_neg (not_and_of_not_right _ hfew)]
            apply (forgets_destinationList N hne hle).pure_bind
            cases hlist : destinations _ (blockObjects N bs) with
            | none => exact forgets_untraced _
            | some addresses => exact forgets_sendToBlock E ((length_destinations N hlist).trans hle)

theorem forgets_ext_sendmsg_block {sockfd : Int} {msg : BlockMsgHdr} {iov : List (List UInt8)} {flags : MsgFlags}
    (hname : msg.name = image Block.bytes bs) (hlength : bs.length = msg.namelen.toNat) (hne : bs ≠ [])
    (hle : bs.length ≤ SCTP_MAX_NUM_ADDRESSES) :
    Forgets (ext_sendmsg_block E N sockfd msg iov flags) (ext_sendmsg E sockfd (msg.objects N bs) iov flags) := by
  unfold ext_sendmsg_block ext_sendmsg
  by_cases hmemory : 1 < iov.length ∧ (!E.allocates .messageBuffer) = true
  · rw [if_pos hmemory, if_pos hmemory]
    exact forgets_pure _
  · rw [if_neg hmemory, if_neg hmemory]
    exact forgets_sendmsgBlock E N hname hlength hne hle

/-- With from one address to as many as the array has space for, `sctp_sendx` on a block does what
it does on the objects for it. -/
theorem forgets_sctp_sendx_block {sd : Int} {buffer : List UInt8} {addrcnt : BitVec 32} {sinfo : Option SctpSndrcvinfo}
    {flags : MsgFlags} (hlength : bs.length = addrcnt.toNat) (hne : bs ≠ [])
    (hle : bs.length ≤ SCTP_MAX_NUM_ADDRESSES) :
    Forgets (sctp_sendx_block E N sd buffer (image Block.bytes bs) addrcnt sinfo flags)
      (sctp_sendx E sd buffer (some (blockObjects N bs)) sinfo flags) :=
  forgets_ext_sendmsg_block E N rfl hlength hne hle

end

end SocketApi
