import SocketApi.Options.Instant
import Mathlib.Data.Finset.Card
import Mathlib.Data.Finset.Range

/-!
# Calls that find the descriptor table full

Six calls of the C interface first acquire what a new descriptor is for and look for a slot
afterwards. Without a slot all of them return -1 with `EMFILE`; which of them give back what
they have acquired is decided here.
-/

namespace SocketApi

open Effect ExtSocketDescriptorMaster

variable {L : Sctplib} (E : Environment L)

/-! ## The calls -/

inductive SlotCall where
  | socket (domain : Family) (type : SocketType) (isSCTP : Bool)
  | open
  | creat
  | pipe (fds : Int × Int)
  | accept (sockfd : Int) (addrlen : Option Nat)
  | peeloff (sockfd : Int) (id : AssocID)

namespace SlotCall

def run : SlotCall → Act L Int
  | .socket domain type isSCTP => ext_socket E domain type isSCTP
  | .open => ext_open E
  | .creat => ext_creat E
  | .pipe fds => Prod.fst <$> ext_pipe E fds
  | .accept sockfd addrlen => Prod.fst <$> ext_accept E sockfd addrlen
  | .peeloff sockfd id => sctp_peeloff E sockfd id

/-- The slots that the call needs. -/
def slots : SlotCall → Nat
  | .pipe _ => 2
  | _ => 1

/-- The call gets what it makes a descriptor for; a new object is where no other object is. -/
def Acquires (w : World L) : SlotCall → Prop
  | .socket _ type true => E.initialized = true ∧ type ≠ .other ∧ w.shared.sockets w.shared.nextSocket = none
  | .socket _ _ false | .open | .creat => 0 ≤ E.openSystem w.shared.openFDs
  | .pipe _ => 0 ≤ E.openSystem w.shared.openFDs ∧
      0 ≤ E.openSystem (E.openSystem w.shared.openFDs :: w.shared.openFDs)
  | .accept sockfd _ => ∃ slot, getSocket sockfd = some slot ∧
      match w.shared.descriptors slot with
      | .sctp desc => ∃ s p addresses w', desc.sctpSocketPtr = some s ∧
          SCTPSocket.accept E s true (!desc.nonBlock) w = .ok (some p, addresses) w'
      | .system _ => 0 ≤ E.openSystem w.shared.openFDs
      | .invalid => False
  | .peeloff sockfd id => ∃ slot desc s p w', getSocket sockfd = some slot ∧
      w.shared.descriptors slot = .sctp desc ∧ desc.sctpSocketPtr = some s ∧ desc.type ≠ .stream ∧
      SCTPSocket.peelOff E s id w = .ok (some p) w'

/-- The call gives back what it has acquired. -/
def RollsBack (descriptors : Nat → ExtSocketDescriptor) : SlotCall → Prop
  | .socket _ _ isSCTP => isSCTP = true
  | .open | .creat | .pipe _ => True
  | .accept sockfd _ => ∀ slot desc, getSocket sockfd = some slot → descriptors slot ≠ .sctp desc
  | .peeloff _ _ => False

end SlotCall

/-! ## The resources -/

/-- Open descriptors of the system, live objects, and the owners of the associations. -/
structure Resources where
  openFDs : List Int
  sockets : SocketPtr → Bool
  associations : AssocPtr → Bool
  connectionRequests : SocketPtr → List AssocPtr
  connectionlessAssociations : SocketPtr → List AssocPtr
  descriptors : Nat → ExtSocketDescriptor
  holders : List AssocPtr

def Shared.resources (s : Shared L) : Resources where
  openFDs := s.openFDs
  sockets t := (s.sockets t).isSome
  associations p := (s.associations p).isSome
  connectionRequests t := ((s.sockets t).map fun o => o.connectionRequests.map (·.association)).getD []
  connectionlessAssociations t := ((s.sockets t).map (·.connectionlessAssociationList.values)).getD []
  descriptors := s.descriptors
  holders := s.holders

/-- The slots that `setSocket` can use. -/
def freeSlots (descriptors : Nat → ExtSocketDescriptor) : Nat :=
  ((Finset.range (min MaxSockets E.dtablesize)).filter fun slot => descriptors slot = .invalid).card

/-- The call fails with `EMFILE`, without undefined behaviour, and leaves the resources `R`. -/
def FailsWith (R : Resources) (call : Act L Int) (w : World L) : Prop :=
  Post call w (fun result w' => result = -1 ∧ w'.thread.errno = EMFILE ∧ w'.shared.resources = R) fun _ _ => False

/-- The call fails and changes none of the resources. -/
def Atomic (call : Act L Int) (w : World L) : Prop := FailsWith w.shared.resources call w

/-! ## The search for a slot -/

section

variable {E} {descriptors : Nat → ExtSocketDescriptor}

theorem freeSlot_some : ∀ {n i : Nat}, freeSlot descriptors n = some i → i < n ∧ descriptors i = .invalid
  | n + 1, i, h => by
    unfold freeSlot at h
    by_cases hn : descriptors n = .invalid
    · rw [if_pos hn] at h
      obtain rfl := Option.some.inj h
      exact ⟨Nat.lt_succ_self n, hn⟩
    · rw [if_neg hn] at h
      obtain ⟨hi, hfree⟩ := freeSlot_some h
      exact ⟨Nat.lt_succ_of_lt hi, hfree⟩

theorem freeSlot_none {n : Nat} (h : ∀ i < n, descriptors i ≠ .invalid) : freeSlot descriptors n = none := by
  cases hs : freeSlot descriptors n with
  | none => rfl
  | some i =>
    obtain ⟨hi, hfree⟩ := freeSlot_some hs
    exact absurd hfree (h i hi)

theorem freeSlot_full (h : freeSlots E descriptors < 1) :
    freeSlot descriptors (min MaxSockets E.dtablesize) = none := by
  have hempty := Finset.card_eq_zero.mp (Nat.lt_one_iff.mp h)
  refine freeSlot_none fun i hi hfree => ?_
  have hmem : i ∈ (Finset.range (min MaxSockets E.dtablesize)).filter fun slot => descriptors slot = .invalid :=
    Finset.mem_filter.mpr ⟨Finset.mem_range.mpr hi, hfree⟩
  rw [hempty] at hmem
  exact absurd hmem (Finset.notMem_empty i)

/-- A slot that is taken is no longer free. -/
theorem freeSlots_update {i : Nat} {td : ExtSocketDescriptor}
    (hi : freeSlot descriptors (min MaxSockets E.dtablesize) = some i) (htd : td ≠ .invalid) :
    freeSlots E (Function.update descriptors i td) + 1 = freeSlots E descriptors := by
  obtain ⟨hlt, hfree⟩ := freeSlot_some hi
  have hmem : i ∈ (Finset.range (min MaxSockets E.dtablesize)).filter fun slot => descriptors slot = .invalid :=
    Finset.mem_filter.mpr ⟨Finset.mem_range.mpr hlt, hfree⟩
  unfold freeSlots
  rw [← Finset.card_erase_add_one hmem]
  congr 2
  ext slot
  by_cases hslot : slot = i
  · subst hslot
    simp [htd]
  · simp [hslot]

end

/-! ## Runs in which no other thread runs -/

section

variable {E} {α β : Type}

/-- In the shared state `s` the program returns `a` and leaves the state `s'`. -/
def ReturnsWith (x : Act L α) (s : Shared L) (a : α) (s' : Shared L) : Prop :=
  ∀ w, w.shared = s → Post x w
    (fun b w' => b = a ∧ w'.shared = s' ∧ w'.thread.lockLevel = w.thread.lockLevel) fun _ _ => False

theorem Denotes.returns {x : Act L α} {f : Shared L → Option (α × Shared L)} (h : Denotes x f) {s s' : Shared L}
    {a : α} (hf : f s = some (a, s')) : ReturnsWith x s a s' := by
  rintro w rfl
  refine (h w).mono (fun b w' ⟨hb, hlevel⟩ => ?_) fun _ _ hnone => ?_
  · obtain ⟨rfl, rfl⟩ := Prod.mk.inj (Option.some.inj (hf.symm.trans hb))
    exact ⟨rfl, rfl, hlevel⟩
  · rw [hf] at hnone
    cases hnone

theorem FailsWith.seq {R : Resources} {x : Act L α} {f : α → Act L Int} {w : World L} {P : α → World L → Prop}
    (h : Post x w P fun _ _ => False) (hf : ∀ a w', P a w' → FailsWith R (f a) w') : FailsWith R (x >>= f) w :=
  Post.bind h hf

theorem FailsWith.bind {R : Resources} {x : Act L α} {f : α → Act L Int} {w : World L} {a : α} {s : Shared L}
    (h : ReturnsWith x w.shared a s) (hf : ∀ w', w'.shared = s → FailsWith R (f a) w') :
    FailsWith R (x >>= f) w := by
  refine .seq (h w rfl) fun b w' ⟨hb, hs, _⟩ => ?_
  rw [hb]
  exact hf w' hs

theorem FailsWith.fst_bind {R : Resources} {x : Act L α} {f : α → Act L (Int × β)} {w : World L} {a : α}
    {s : Shared L} (h : ReturnsWith x w.shared a s) (hf : ∀ w', w'.shared = s → FailsWith R (Prod.fst <$> f a) w') :
    FailsWith R (Prod.fst <$> (x >>= f)) w := by
  rw [map_bind]
  exact .bind h hf

theorem FailsWith.fst {R : Resources} {x : Act L Int} {w : World L} {b : β} (h : FailsWith R x w) :
    FailsWith R (Prod.fst <$> (do return (← x, b))) w := by
  unfold FailsWith at h ⊢
  rwa [post_map, post_bind]

theorem failsWith_errnoReturn {w : World L} : FailsWith w.shared.resources (errnoReturn (-EMFILE)) w := by
  unfold FailsWith errnoReturn
  rw [if_pos (by decide)]
  exact ⟨rfl, rfl, rfl⟩

theorem denotes_setSocket (hE : E.Instant) (td : ExtSocketDescriptor) :
    Denotes (ExtSocketDescriptorMaster.setSocket E td) fun s =>
      match freeSlot s.descriptors (min MaxSockets E.dtablesize) with
      | some i => some (i, { s with descriptors := Function.update s.descriptors i td })
      | none => some (-EMFILE, s) := by
  unfold ExtSocketDescriptorMaster.setSocket
  refine Denotes.locked hE fun w => ?_
  rw [post_bind, post_shared]
  cases freeSlot w.shared.descriptors (min MaxSockets E.dtablesize) with
  | none => exact ⟨rfl, rfl⟩
  | some i => exact ⟨rfl, rfl⟩

theorem returns_setSocket_full (hE : E.Instant) {s : Shared L} (h : freeSlots E s.descriptors < 1)
    (td : ExtSocketDescriptor) : ReturnsWith (ExtSocketDescriptorMaster.setSocket E td) s (-EMFILE) s := by
  refine (denotes_setSocket hE td).returns ?_
  rw [freeSlot_full h]

theorem returns_openSystem {s : Shared L} (h : 0 ≤ E.openSystem s.openFDs) :
    ReturnsWith (openSystem E) s (E.openSystem s.openFDs) { s with openFDs := E.openSystem s.openFDs :: s.openFDs } := by
  rintro w rfl
  unfold openSystem
  rw [post_bind, post_shared]
  dsimp only
  rw [if_pos h]
  exact ⟨rfl, rfl, rfl⟩

theorem returns_closeSystem (s : Shared L) (fd : Int) :
    ReturnsWith (closeSystem fd) s () { s with openFDs := s.openFDs.erase fd } := by
  rintro w rfl
  exact ⟨rfl, rfl, rfl⟩

theorem returns_setDescriptor (s : Shared L) (slot : Nat) (td : ExtSocketDescriptor) :
    ReturnsWith (setDescriptor slot td) s () { s with descriptors := Function.update s.descriptors slot td } := by
  rintro w rfl
  exact ⟨rfl, rfl, rfl⟩

end

/-! ## System descriptors -/

section

variable {E} (hE : E.Instant)
include hE

theorem atomic_openDescriptor {w : World L} (hfull : freeSlots E w.shared.descriptors < 1)
    (hopen : 0 ≤ E.openSystem w.shared.openFDs) : Atomic (openDescriptor E) w := by
  unfold Atomic openDescriptor
  refine .bind (returns_openSystem hopen) fun w₁ h₁ => ?_
  rw [if_pos hopen]
  refine .bind (returns_setSocket_full hE (by rwa [h₁]) _) fun w₂ h₂ => ?_
  rw [if_pos (by decide)]
  refine .bind (returns_closeSystem _ _) fun w₃ h₃ => ?_
  have hshared : w₃.shared = w.shared := by
    rw [h₃, h₂, h₁]
    dsimp only
    rw [List.erase_cons_head]
  rw [← hshared]
  exact failsWith_errnoReturn

theorem atomic_systemAccept {w : World L} {sockfd : Int} {addrlen : Option Nat} {slot : Nat} {id : Int}
    (hfull : freeSlots E w.shared.descriptors < 1) (hopen : 0 ≤ E.openSystem w.shared.openFDs)
    (hslot : getSocket sockfd = some slot) (hdesc : w.shared.descriptors slot = .system id) :
    Atomic (Prod.fst <$> ext_accept E sockfd addrlen) w := by
  unfold Atomic ext_accept
  rw [hslot]
  refine .fst_bind ((Denotes.descriptorAt slot).returns rfl) fun w₀ h₀ => ?_
  rw [hdesc]
  dsimp only
  rw [← h₀] at hopen ⊢
  refine .fst_bind (returns_openSystem hopen) fun w₁ h₁ => ?_
  rw [if_pos hopen]
  refine .fst_bind (returns_setSocket_full hE (by rwa [h₁, h₀]) _) fun w₂ h₂ => ?_
  rw [if_pos (by decide)]
  refine .fst_bind (returns_closeSystem _ _) fun w₃ h₃ => ?_
  have hshared : w₃.shared = w₀.shared := by
    rw [h₃, h₂, h₁]
    dsimp only
    rw [List.erase_cons_head]
  rw [← hshared]
  exact failsWith_errnoReturn.fst

/-- The descriptor of the system stays open. -/
theorem not_atomic_systemSocket {w : World L} (hfull : freeSlots E w.shared.descriptors < 1)
    (hopen : 0 ≤ E.openSystem w.shared.openFDs) (domain : Family) (type : SocketType) :
    ¬ Atomic (ext_socket E domain type false) w := by
  have hleak : FailsWith { w.shared.resources with openFDs := E.openSystem w.shared.openFDs :: w.shared.openFDs }
      (ext_socket E domain type false) w := by
    unfold ext_socket
    rw [if_neg Bool.false_ne_true]
    refine .bind (returns_openSystem hopen) fun w₁ h₁ => ?_
    rw [if_pos hopen]
    refine .bind (returns_setSocket_full hE (by rwa [h₁]) _) fun w₂ h₂ => ?_
    have hresources : w₂.shared.resources =
        { w.shared.resources with openFDs := E.openSystem w.shared.openFDs :: w.shared.openFDs } := by
      rw [h₂, h₁]
      rfl
    rw [← hresources]
    exact failsWith_errnoReturn
  intro h
  obtain ⟨result, w', hrun, -, -, hsame⟩ := Post.exists_ok h
  have hopenFDs := congrArg Resources.openFDs (hsame.symm.trans (Post.of_ok hleak hrun).2.2)
  exact (List.cons_ne_self _ _) hopenFDs.symm

theorem returns_close {s : Shared L} {slot : Nat} {id : Int} (hslot : slot < MaxSockets)
    (hdesc : s.descriptors slot = .system id) : ReturnsWith (discard (ext_close E slot)) s ()
      { s with openFDs := s.openFDs.erase id, descriptors := Function.update s.descriptors slot .invalid } := by
  have hget : getSocket (slot : Int) = some slot := by
    unfold getSocket
    rw [if_pos ⟨by exact_mod_cast hslot, Int.natCast_nonneg slot⟩, Int.toNat_natCast]
  rintro w rfl
  rw [post_discard]
  unfold ext_close
  rw [hget]
  dsimp only
  rw [post_bind, post_lock, post_bind]
  unfold descriptorAt
  rw [post_bind, post_shared, post_pure]
  dsimp only
  rw [hdesc]
  dsimp only
  rw [post_bind]
  refine (returns_closeSystem _ id _ rfl).mono (fun _ w₁ ⟨_, h₁, hlevel₁⟩ => ?_) fun _ _ h => h
  rw [post_bind]
  refine (returns_setDescriptor _ slot .invalid w₁ rfl).mono (fun _ w₂ ⟨_, h₂, hlevel₂⟩ => ?_) fun _ _ h => h
  have hlevel : w₂.thread.lockLevel = w.thread.lockLevel + 1 := hlevel₂.trans hlevel₁
  rw [post_bind]
  refine (hE.unlock (hlevel ▸ Nat.succ_pos _)).mono (fun _ w₃ ⟨h₃, hlevel₃⟩ => ?_) fun _ _ h => h
  refine ((Denotes.errnoReturn 0).returns rfl w₃ rfl).mono (fun _ w₄ ⟨_, h₄, hlevel₄⟩ => ?_) fun _ _ h => h
  refine ⟨rfl, ?_, ?_⟩
  · rw [h₄, h₃, h₂, h₁]
  · omega

omit hE in
theorem erase_pipe (fds : List Int) (id₀ id₁ : Int) : ((id₁ :: id₀ :: fds).erase id₀).erase id₁ = fds := by
  rw [List.erase_comm, List.erase_cons_head, List.erase_cons_head]

omit hE in
theorem returns_pipeSystem {s : Shared L} {id₀ id₁ : Int} (h₀ : E.openSystem s.openFDs = id₀)
    (h₁ : E.openSystem (id₀ :: s.openFDs) = id₁) (hopen₀ : 0 ≤ id₀) (hopen₁ : 0 ≤ id₁) :
    ReturnsWith (pipeSystem E) s (some (id₀, id₁)) { s with openFDs := id₁ :: id₀ :: s.openFDs } := by
  rintro w rfl
  unfold pipeSystem
  rw [post_bind, post_shared]
  dsimp only
  rw [h₀, h₁, if_pos ⟨hopen₀, hopen₁⟩]
  exact ⟨rfl, rfl, rfl⟩

/-- Without a slot for its second end a pipe is closed. -/
theorem atomic_pipe {w : World L} (hfull : freeSlots E w.shared.descriptors < 2)
    (hopen : 0 ≤ E.openSystem w.shared.openFDs)
    (hopen' : 0 ≤ E.openSystem (E.openSystem w.shared.openFDs :: w.shared.openFDs)) (fds : Int × Int) :
    Atomic (Prod.fst <$> ext_pipe E fds) w := by
  generalize hid₀ : E.openSystem w.shared.openFDs = id₀ at hopen hopen'
  generalize hid₁ : E.openSystem (id₀ :: w.shared.openFDs) = id₁ at hopen'
  unfold Atomic ext_pipe
  refine .fst_bind (returns_pipeSystem hid₀ hid₁ hopen hopen') fun w₁ h₁ => ?_
  dsimp only
  cases hslot : freeSlot w.shared.descriptors (min MaxSockets E.dtablesize) with
  | none =>
    have hset : ReturnsWith (ExtSocketDescriptorMaster.setSocket E (.system id₀)) w₁.shared (-EMFILE) w₁.shared := by
      refine (denotes_setSocket hE _).returns ?_
      rw [h₁]
      dsimp only
      rw [hslot]
    refine .fst_bind hset fun w₂ h₂ => ?_
    rw [if_pos (by decide)]
    refine .fst_bind (returns_closeSystem _ _) fun w₃ h₃ => ?_
    refine .fst_bind (returns_closeSystem _ _) fun w₄ h₄ => ?_
    have hshared : w₄.shared = w.shared := by
      rw [h₄, h₃, h₂, h₁]
      dsimp only
      rw [erase_pipe]
    rw [← hshared]
    exact failsWith_errnoReturn.fst
  | some i =>
    obtain ⟨hi, hfree⟩ := freeSlot_some hslot
    have hset : ReturnsWith (ExtSocketDescriptorMaster.setSocket E (.system id₀)) w₁.shared i
        { w₁.shared with descriptors := Function.update w₁.shared.descriptors i (.system id₀) } := by
      refine (denotes_setSocket hE _).returns ?_
      rw [h₁]
      dsimp only
      rw [hslot]
    refine .fst_bind hset fun w₂ h₂ => ?_
    rw [if_neg (Int.natCast_nonneg i).not_gt]
    have hfull' : freeSlots E w₂.shared.descriptors < 1 := by
      have hsystem : ExtSocketDescriptor.system id₀ ≠ .invalid := nofun
      have hcount := freeSlots_update hslot hsystem
      rw [h₂, h₁]
      dsimp only
      omega
    refine .fst_bind (returns_setSocket_full hE hfull' _) fun w₃ h₃ => ?_
    rw [if_pos (by decide)]
    have hdesc : w₃.shared.descriptors i = .system id₀ := by
      rw [h₃, h₂]
      exact Function.update_self ..
    have hbound : i < MaxSockets := lt_of_lt_of_le hi (min_le_left MaxSockets E.dtablesize)
    have hclose := @returns_close L E hE w₃.shared i id₀ hbound hdesc
    generalize ext_close E i = close at hclose ⊢
    refine .fst_bind hclose fun w₄ h₄ => ?_
    refine .fst_bind (returns_closeSystem _ _) fun w₅ h₅ => ?_
    have hshared : w₅.shared = w.shared := by
      rw [h₅, h₄, h₃, h₂, h₁]
      dsimp only
      rw [erase_pipe, Function.update_idem, ← hfree, Function.update_eq_self]
    rw [← hshared]
    exact failsWith_errnoReturn.fst

/-! ## SCTP sockets -/

omit hE in
/-- A socket that is not bound is deleted without a trace. -/
theorem returns_delete {s : Shared L} {t : SocketPtr} {o : SCTPSocket} (ho : s.sockets t = some o)
    (hunbound : o.instanceName = 0) :
    ReturnsWith (SCTPSocket.delete E t) s () { s with sockets := Function.update s.sockets t none } := by
  rintro w rfl
  unfold SCTPSocket.delete SCTPSocket.unbind
  simp only [post_bind, post_socketAt, ho, hunbound, post_update]
  exact ⟨trivial, rfl, rfl⟩

omit hE in
/-- The change from `w` to `w'` is that there is the new socket `t`, which is not bound. -/
def Created (t : SocketPtr) (w w' : World L) : Prop :=
  (∃ o, w'.shared.sockets t = some o ∧ o.instanceName = 0) ∧
    ({ w'.shared with sockets := Function.update w'.shared.sockets t none } : Shared L).resources =
      ({ w.shared with sockets := Function.update w.shared.sockets t none } : Shared L).resources

omit hE in
theorem created_new (family : Family) (flags : SocketFlags) (w : World L) :
    Post (SCTPSocket.new family flags) w (fun t w' => t = w.shared.nextSocket ∧ Created t w w') fun _ _ => False := by
  refine ⟨rfl, ⟨_, Function.update_self .., rfl⟩, ?_⟩
  dsimp only
  rw [Function.update_idem]
  rfl

omit hE in
theorem Created.setNotificationFlags {t : SocketPtr} {w w' : World L} (h : Created t w w') (flags : NotificationFlags) :
    Post (SCTPSocket.setNotificationFlags t flags) w' (fun _ w'' => Created t w w'') fun _ _ => False := by
  obtain ⟨⟨o, ho, hunbound⟩, hsame⟩ := h
  unfold SCTPSocket.setNotificationFlags
  rw [post_setSocket, ho]
  refine ⟨⟨{ o with notificationFlags := flags }, ?_, hunbound⟩, hsame ▸ ?_⟩
  · unfold Shared.setSocket
    rw [ho]
    exact Function.update_self ..
  · unfold Shared.setSocket
    dsimp only
    rw [Function.update_idem]

/-- The end of `ext_socket` for a new socket. -/
theorem failsWith_socket {w w₁ : World L} {t : SocketPtr} (td : ExtSocketDescriptor)
    (hfull : freeSlots E w.shared.descriptors < 1) (ht : w.shared.sockets t = none) (h : Created t w w₁) :
    FailsWith w.shared.resources (do
      let result ← ExtSocketDescriptorMaster.setSocket E td
      if result < 0 then
        SCTPSocket.delete E t
      errnoReturn result) w₁ := by
  obtain ⟨⟨o, ho, hunbound⟩, hsame⟩ := h
  have hdescriptors : w₁.shared.descriptors = w.shared.descriptors := congrArg Resources.descriptors hsame
  refine .bind (returns_setSocket_full hE (by rwa [hdescriptors]) td) fun w₂ h₂ => ?_
  rw [if_pos (by decide)]
  refine .bind (returns_delete (by rwa [h₂]) hunbound) fun w₃ h₃ => ?_
  have hresources : w₃.shared.resources = w.shared.resources := by
    rw [h₃, h₂, hsame, ← ht, Function.update_eq_self]
  rw [← hresources]
  exact failsWith_errnoReturn

/-- A new socket is at an address where no object is. -/
theorem atomic_sctpSocket {w : World L} {type : SocketType} (hfull : freeSlots E w.shared.descriptors < 1)
    (havailable : E.initialized = true) (htype : type ≠ .other)
    (hfresh : w.shared.sockets w.shared.nextSocket = none) (domain : Family) :
    Atomic (ext_socket E domain type true) w := by
  unfold Atomic ext_socket
  rw [if_pos rfl, havailable]
  simp only [Bool.not_true, Bool.false_eq_true, if_false, if_neg htype]
  refine .seq (created_new ..) fun t w₁ ⟨ht, hcreated⟩ => ?_
  rw [← ht] at hfresh
  split
  · refine .seq (hcreated.setNotificationFlags defaultFlags) fun _ w₂ hcreated => ?_
    exact failsWith_socket hE _ hfull hfresh hcreated
  · exact failsWith_socket hE _ hfull hfresh hcreated

/-! ## Associations -/

omit hE in
theorem errnoReturn_nonneg {result : Int} (h : ¬ result < 0) (w : World L) :
    Post (errnoReturn result) w (fun r _ => 0 ≤ r) fun _ _ => True := by
  unfold errnoReturn
  rw [if_neg h]
  exact Int.not_lt.mp h

omit hE in
/-- Without a slot the null pointer is used, with one the call succeeds. -/
theorem not_atomic_accept {w w' : World L} {sockfd : Int} {addrlen : Option Nat} {slot : Nat} {desc : SCTPSocketDesc}
    {s : SocketPtr} {p : AssocPtr} {addresses : Option (List SocketAddress)} (hslot : getSocket sockfd = some slot)
    (hdesc : w.shared.descriptors slot = .sctp desc) (hs : desc.sctpSocketPtr = some s)
    (haccept : SCTPSocket.accept E s true (!desc.nonBlock) w = .ok (some p, addresses) w') :
    ¬ Atomic (Prod.fst <$> ext_accept E sockfd addrlen) w := by
  have hresult : Post (ext_accept E sockfd addrlen) w (fun r _ => 0 ≤ r.1) fun _ _ => True := by
    unfold ext_accept descriptorAt
    rw [hslot]
    dsimp only
    rw [post_bind, post_bind, post_shared, post_pure, hdesc]
    dsimp only
    rw [hs]
    dsimp only
    rw [post_bind, post_of_ok haccept]
    dsimp only
    rw [post_bind]
    refine post_true.imp fun newFD w₁ _ => ?_
    rw [post_ite]
    split
    · trivial
    · rename_i hnewFD
      rw [post_bind]
      refine post_true.imp fun _ w₂ _ => ?_
      rw [post_bind]
      exact (errnoReturn_nonneg hnewFD w₂).imp fun _ _ h => h
  have hmapped : Post (Prod.fst <$> ext_accept E sockfd addrlen) w (fun r _ => 0 ≤ r) fun _ _ => True :=
    (post_map Prod.fst).mpr hresult
  intro h
  obtain ⟨result, w₁, hrun, hfails, -⟩ := Post.exists_ok h
  have hnonneg := hmapped.of_ok hrun
  rw [hfails] at hnonneg
  exact absurd hnonneg (by decide)

omit hE in
theorem peelOff_live (s : SocketPtr) (id : AssocID) (w : World L) :
    Post (SCTPSocket.peelOff E s id) w (fun found _ => ∀ p, found = some p → (w.shared.associations p).isSome)
      fun _ _ => True := by
  unfold SCTPSocket.peelOff locked
  rw [post_bind, post_lock, post_bind]
  have hunlock {found : Option AssocPtr} (w₁ : World L)
      (h : ∀ p, found = some p → (w.shared.associations p).isSome) :
      Post (do
        unlock E
        return found) w₁ (fun found _ => ∀ p, found = some p → (w.shared.associations p).isSome) fun _ _ => True := by
    rw [post_bind]
    exact post_true.imp fun _ _ _ => h
  rw [post_bind, post_socketAt]
  dsimp only
  cases w.shared.sockets s with
  | none => trivial
  | some o =>
    dsimp only
    cases o.connectionlessAssociationList.find id with
    | none => exact hunlock _ nofun
    | some p =>
      dsimp only
      rw [post_bind, post_associationAt]
      dsimp only
      cases hp : w.shared.associations p with
      | none => trivial
      | some a =>
        have hlive : ∀ q, some p = some q → (w.shared.associations q).isSome := by
          rintro q ⟨⟩
          rw [hp]
          rfl
        dsimp only
        split
        · exact hunlock _ nofun
        · rw [post_bind]
          refine post_true.imp fun _ w₁ _ => ?_
          rw [post_bind]
          refine post_true.imp fun _ w₂ _ => ?_
          rw [post_bind]
          refine post_true.imp fun _ w₃ _ => hunlock _ hlive

omit hE in
/-- Without a slot the association is deleted. -/
theorem newDescriptor_deletes (slot : Nat) (p : AssocPtr) (w : World L) :
    Post (newDescriptor E slot p) w (fun newFD w' => newFD < 0 → w'.shared.associations p = none)
      fun _ _ => True := by
  unfold newDescriptor descriptorAt
  rw [post_bind, post_bind, post_shared, post_pure]
  cases w.shared.descriptors slot with
  | invalid => trivial
  | system _ => trivial
  | sctp desc =>
    dsimp only
    rw [post_bind]
    refine post_true.imp fun newFD w₁ _ => ?_
    rw [post_ite]
    split
    · unfold SCTPAssociation.delete
      rw [post_bind, post_bind]
      refine post_true.imp fun _ w₂ _ => ?_
      rw [post_update]
      exact fun _ => Function.update_self ..
    · rename_i hnewFD
      exact fun h => absurd h hnewFD

omit hE in
theorem not_atomic_peeloff {w w' : World L} {sockfd : Int} {id : AssocID} {slot : Nat} {desc : SCTPSocketDesc}
    {s : SocketPtr} {p : AssocPtr} (hslot : getSocket sockfd = some slot)
    (hdesc : w.shared.descriptors slot = .sctp desc) (hs : desc.sctpSocketPtr = some s) (htype : desc.type ≠ .stream)
    (hpeel : SCTPSocket.peelOff E s id w = .ok (some p) w') : ¬ Atomic (sctp_peeloff E sockfd id) w := by
  have hresult : Post (sctp_peeloff E sockfd id) w (fun r w' => r < 0 → w'.shared.associations p = none)
      fun _ _ => True := by
    unfold sctp_peeloff descriptorAt
    rw [hslot]
    dsimp only
    rw [post_bind, post_bind, post_shared, post_pure, hdesc]
    dsimp only
    rw [hs]
    dsimp only
    rw [if_pos htype, post_bind, post_of_ok hpeel]
    dsimp only
    rw [post_bind]
    refine (newDescriptor_deletes slot p w').imp fun newFD w₁ hdeleted => ?_
    unfold errnoReturn
    split
    · rename_i hnewFD
      exact fun _ => hdeleted hnewFD
    · rename_i hnewFD
      exact fun h => absurd h hnewFD
  intro h
  obtain ⟨result, w₁, hrun, hfails, -, hsame⟩ := Post.exists_ok h
  have hdeleted := hresult.of_ok hrun (by rw [hfails]; decide)
  have hlive := (peelOff_live s id w).of_ok hpeel p rfl
  have hassociation : (w₁.shared.associations p).isSome = (w.shared.associations p).isSome :=
    congrFun (congrArg Resources.associations hsame) p
  rw [hdeleted, hlive] at hassociation
  cases hassociation

end

/-! ## All six calls -/

/-- With a full table the call is atomic if and only if it is one of those that roll back. -/
theorem atomic_iff_rollsBack (hE : E.Instant) (w : World L) (call : SlotCall)
    (hfull : freeSlots E w.shared.descriptors < call.slots) (hacquires : call.Acquires E w) :
    Atomic (call.run E) w ↔ call.RollsBack w.shared.descriptors := by
  cases call with
  | socket domain type isSCTP =>
    cases isSCTP with
    | true =>
      obtain ⟨havailable, htype, hfresh⟩ := hacquires
      exact iff_of_true (atomic_sctpSocket hE hfull havailable htype hfresh domain) rfl
    | false => exact iff_of_false (not_atomic_systemSocket hE hfull hacquires domain type) nofun
  | «open» => exact iff_of_true (atomic_openDescriptor hE hfull hacquires) trivial
  | creat => exact iff_of_true (atomic_openDescriptor hE hfull hacquires) trivial
  | pipe fds => exact iff_of_true (atomic_pipe hE hfull hacquires.1 hacquires.2 fds) trivial
  | accept sockfd addrlen =>
    obtain ⟨slot, hslot, h⟩ := hacquires
    cases hdesc : w.shared.descriptors slot with
    | invalid => rw [hdesc] at h; exact h.elim
    | system id =>
      rw [hdesc] at h
      refine iff_of_true (atomic_systemAccept hE hfull h hslot hdesc) fun slot' desc hslot' hdesc' => ?_
      obtain rfl := Option.some.inj (hslot.symm.trans hslot')
      cases hdesc.symm.trans hdesc'
    | sctp desc =>
      rw [hdesc] at h
      obtain ⟨s, p, addresses, w', hs, haccept⟩ := h
      exact iff_of_false (not_atomic_accept hslot hdesc hs haccept) fun h => h slot desc hslot hdesc
  | peeloff sockfd id =>
    obtain ⟨slot, desc, s, p, w', hslot, hdesc, hs, htype, hpeel⟩ := hacquires
    exact iff_of_false (not_atomic_peeloff hslot hdesc hs htype hpeel) nofun

/-- A process with four descriptors, three of which are open. -/
def fourSlots : Environment Sctplib.small := { dtablesize := 4 }

/-- The last slot is not enough for a pipe. -/
theorem atomic_iff_rollsBack_pipe :
    Atomic ((SlotCall.pipe (0, 0)).run fourSlots) (World.initial (SmallStack.mk 0 0 [] [] [])) ↔ True :=
  atomic_iff_rollsBack (E := fourSlots) (fun _ _ => rfl) _ (.pipe (0, 0)) (by decide +kernel) ⟨by decide, by decide⟩

/-- A SCTP descriptor takes the last slot, and the next descriptor of the system is lost. -/
theorem systemSocket_not_atomic : ∃ fd w,
    ext_socket fourSlots .inet .seqpacket true (World.initial (SmallStack.mk 0 0 [] [] [])) = .ok fd w ∧
      freeSlots fourSlots w.shared.descriptors < 1 ∧ SlotCall.Acquires fourSlots w (.socket .inet .stream false) ∧
      ¬ Atomic ((SlotCall.socket .inet .stream false).run fourSlots) w := by
  have hfirst : Post (ext_socket fourSlots .inet .seqpacket true) (World.initial (SmallStack.mk 0 0 [] [] []))
      (fun _ w => freeSlots fourSlots w.shared.descriptors < 1 ∧ 0 ≤ fourSlots.openSystem w.shared.openFDs)
      fun _ _ => False := by decide +kernel
  obtain ⟨fd, w, hrun, hfull, hopen⟩ := hfirst.exists_ok
  exact ⟨fd, w, hrun, hfull, hopen, not_atomic_systemSocket (fun _ _ => rfl) hfull hopen .inet .stream⟩

end SocketApi
