import SocketApi.Lib.Handles
import SocketApi.Sessions.Interface

/-!
# Opening and closing descriptors

The calls that make or delete a `SCTPSocket` or change which one a slot refers to, as steps of handles that share
objects. `mayRemoveSocket` looks at the slots from 1 on.
-/

namespace SocketApi

open Effect Handles ExtSocketDescriptorMaster SCTPSocketMaster

set_option synthInstance.maxSize 2000

variable {L : Sctplib} {E : Environment L}

/-! ## The table as handles -/

def Shared.handles (s : Shared L) : Table Nat SocketPtr where
  refers i := (s.descriptors i).socket.join
  alive := {k | (s.sockets k).isSome}

/-- The slots that `mayRemoveSocket` looks at. -/
def watched : Set Nat := {i | 1 ≤ i ∧ i < MaxSockets}

/-- Every SCTP descriptor has a socket, the next socket is new, and slot 0 is what it was at the start if that is to
be kept. -/
structure Shared.Regular (keep : Prop) (s : Shared L) : Prop where
  named : ∀ i, (s.descriptors i).socket ≠ some none
  bounded : ∀ i, (s.descriptors i).socket.isSome → i < MaxSockets
  fresh : ∀ k, s.nextSocket ≤ k → s.sockets k = none
  unknown : ∀ k, s.nextSocket ≤ k → ∀ i, (s.descriptors i).socket ≠ some (some k)
  zero : keep → ∃ fd, s.descriptors 0 = .system fd

variable {s t u : Shared L} {keep : Prop}

theorem Shared.Unmoved.handles (h : s.Unmoved t) : t.handles = s.handles := by
  simp only [Shared.handles, h.slots, h.sockets]

theorem Shared.Regular.unmoved (hs : s.Regular keep) (h : s.Unmoved t) : t.Regular keep where
  named i := by
    rw [h.slots]
    exact hs.named i
  bounded i := by
    rw [h.slots]
    exact hs.bounded i
  fresh k hk := by
    have hnone := hs.fresh k (h.nextSocket ▸ hk)
    have hsome := h.sockets k
    simpa [hnone] using hsome
  unknown k hk i := by
    rw [h.slots]
    exact hs.unknown k (h.nextSocket ▸ hk) i
  zero hkeep := by
    obtain ⟨fd, hfd⟩ := hs.zero hkeep
    exact ⟨fd, h.system 0 fd hfd⟩

theorem refers_eq_some {i : Nat} {k : SocketPtr} : s.handles.refers i = some k ↔ (s.descriptors i).socket = some (some k) := by
  simp only [Shared.handles]
  cases (s.descriptors i).socket with
  | none => simp
  | some p => simp

theorem refers_free {i : Nat} (hi : s.descriptors i = .invalid) : s.handles.refers i = none := by
  simp [Shared.handles, hi, ExtSocketDescriptor.socket]

/-! ## Changes of a slot -/

/-- A SCTP descriptor in a slot that is not used. -/
def Shared.setSlot (s : Shared L) (i : Nat) (td : ExtSocketDescriptor) : Shared L :=
  { s with descriptors := Function.update s.descriptors i td }

theorem refers_setSlot (i : Nat) (td : ExtSocketDescriptor) :
    (s.setSlot i td).handles.refers = Function.update s.handles.refers i td.socket.join := by
  funext j
  by_cases hj : j = i
  · simp [Shared.setSlot, Shared.handles, hj]
  · simp [Shared.setSlot, Shared.handles, hj]

theorem Shared.Regular.setSlot {i : Nat} {desc : SCTPSocketDesc} {k : SocketPtr} (hs : s.Regular keep)
    (hlt : i < MaxSockets) (hi : s.descriptors i = .invalid) (hdesc : desc.sctpSocketPtr = some k) (hk : k < s.nextSocket) :
    (s.setSlot i (.sctp desc)).Regular keep where
  named j := by
    by_cases hj : j = i
    · simp [Shared.setSlot, hj, ExtSocketDescriptor.socket, hdesc]
    · simpa [Shared.setSlot, hj] using hs.named j
  bounded j := by
    by_cases hj : j = i
    · exact fun _ => hj ▸ hlt
    · simpa [Shared.setSlot, hj] using hs.bounded j
  fresh := hs.fresh
  unknown k' hk' j := by
    by_cases hj : j = i
    · have hne : k ≠ k' := fun h => absurd hk (Nat.not_lt.mpr (h ▸ hk'))
      simpa [Shared.setSlot, hj, ExtSocketDescriptor.socket, hdesc] using hne
    · simpa [Shared.setSlot, hj] using hs.unknown k' hk' j
  zero hkeep := by
    obtain ⟨fd, hfd⟩ := hs.zero hkeep
    have hzero : 0 ≠ i := by
      intro h
      simp [h ▸ hfd] at hi
    exact ⟨fd, by simpa [Shared.setSlot, hzero] using hfd⟩

/-- A new socket that no slot refers to. -/
structure Shared.Made (s t : Shared L) : Prop where
  slots : ∀ i, (t.descriptors i).socket = (s.descriptors i).socket
  system : ∀ i fd, s.descriptors i = .system fd → t.descriptors i = .system fd
  sockets : ∀ k, (t.sockets k).isSome = ((s.sockets k).isSome || k == s.nextSocket)
  nextSocket : t.nextSocket = s.nextSocket + 1

theorem Shared.Made.unmoved (h : s.Made t) (h' : t.Unmoved u) : s.Made u where
  slots i := (h'.slots i).trans (h.slots i)
  system i fd hi := h'.system i fd (h.system i fd hi)
  sockets k := (h'.sockets k).trans (h.sockets k)
  nextSocket := h'.nextSocket.trans h.nextSocket

theorem Shared.Made.regular (h : s.Made t) (hs : s.Regular keep) : t.Regular keep where
  named i := by
    rw [h.slots]
    exact hs.named i
  bounded i := by
    rw [h.slots]
    exact hs.bounded i
  fresh k hk := by
    rw [h.nextSocket] at hk
    have hnone := hs.fresh k (Nat.le_of_succ_le hk)
    have hne : k ≠ s.nextSocket := (Nat.lt_of_succ_le hk).ne'
    have hsome := h.sockets k
    rw [hnone, beq_eq_false_iff_ne.mpr hne] at hsome
    simpa using hsome
  unknown k hk i := by
    rw [h.nextSocket] at hk
    rw [h.slots]
    exact hs.unknown k (Nat.le_of_succ_le hk) i
  zero hkeep := by
    obtain ⟨fd, hfd⟩ := hs.zero hkeep
    exact ⟨fd, h.system 0 fd hfd⟩

theorem Shared.Made.refers (h : s.Made t) : t.handles.refers = s.handles.refers := by
  simp only [Shared.handles, h.slots]

theorem Shared.Made.alive (h : s.Made t) : t.handles.alive = insert s.nextSocket s.handles.alive := by
  ext k
  simp [Shared.handles, h.sockets, or_comm]

theorem Shared.Made.opening {i : Nat} {desc : SCTPSocketDesc} (h : s.Made t) (hs : s.Regular keep)
    (hi : t.descriptors i = .invalid) (hdesc : desc.sctpSocketPtr = some s.nextSocket) :
    Opening s.handles (t.setSlot i (.sctp desc)).handles := by
  have hhandles : (t.setSlot i (.sctp desc)).handles =
      ⟨Function.update s.handles.refers i (some s.nextSocket), insert s.nextSocket s.handles.alive⟩ := by
    rw [← h.alive, ← h.refers]
    have hrefers := refers_setSlot (s := t) i (.sctp desc)
    simp only [ExtSocketDescriptor.socket, Option.join_some, hdesc] at hrefers
    rw [← hrefers]
    rfl
  rw [hhandles]
  refine .create ?_ ?_ ?_
  · rw [← h.refers]
    exact refers_free hi
  · simp [Shared.handles, hs.fresh s.nextSocket le_rfl]
  · intro j hj
    exact hs.unknown s.nextSocket le_rfl j (refers_eq_some.mp hj)

/-- The socket is deleted again, since there is no slot for it. -/
theorem Shared.Made.deleted (h : s.Made t) (hs : s.Regular keep) (hu : u.descriptors = t.descriptors)
    (hsockets : ∀ k, u.sockets k = if k = s.nextSocket then none else t.sockets k) :
    u.handles = s.handles := by
  simp only [Shared.handles, hu, h.slots, hsockets, Table.mk.injEq, true_and]
  ext k
  by_cases hk : k = s.nextSocket
  · simp [hk, hs.fresh s.nextSocket le_rfl]
  · simp [hk, h.sockets]

/-! ## Programs -/

theorem post_unmoved {α : Type} {x : Act L α} (h : Anywhere Unmoving AnyHalt x) (w : World L) :
    Post x w (fun _ w' => w.shared.Unmoved w'.shared) fun _ _ => True :=
  (h.post w).mono (fun _ _ hw => (hw (Nat.zero_le _)).1) fun _ _ _ => trivial

theorem unlock_unmoved [Rely E Unmoving] (w : World L) :
    Post (unlock E) w (fun _ w' => w.shared.Unmoved w'.shared) fun _ _ => True := by
  unfold unlock
  rw [post_bind, post_get]
  dsimp only
  by_cases hzero : w.thread.lockLevel = 0
  · simp [hzero]
  · rw [if_neg hzero, post_bind, post_modify]
    split
    · exact (post_yield (R := Unmoving) _).mono (fun _ _ h => h.1) fun _ _ _ => trivial
    · exact .refl w.shared

section

variable [Rely E Unmoving] {w : World L}

/-- What a locked section has reached, if other threads cannot undo it. -/
theorem post_section {α : Type} {body : Act L α} {P : α → Shared L → Prop} (hP : ∀ r s t, P r s → s.Unmoved t → P r t)
    (h : ∀ thread, Post body { thread, shared := w.shared } (fun r w' => P r w'.shared) fun _ _ => True) :
    Post (locked E body) w (fun r w' => P r w'.shared) fun _ _ => True := by
  unfold locked
  rw [post_bind, post_lock]
  refine (h _).bind fun r w₁ hr => ?_
  exact (unlock_unmoved w₁).bind fun _ w₂ h₂ => hP r w₁.shared w₂.shared hr h₂

/-- What `setSocket` has done, with the state in which it has found a slot. -/
inductive Placed (td : ExtSocketDescriptor) (s : Shared L) : Int → Shared L → Prop
  | full {r t} (hr : r < 0) (h : s.Unmoved t) : Placed td s r t
  | slot {i : Nat} {t u} (hi : i < MaxSockets) (h : s.Unmoved t) (hfree : t.descriptors i = .invalid)
    (h' : (t.setSlot i td).Unmoved u) : Placed td s i u

theorem Placed.unmoved {td : ExtSocketDescriptor} {r : Int} (h : Placed td s r t) (htu : t.Unmoved u) : Placed td s r u := by
  cases h with
  | full hr h => exact .full hr (h.trans htu)
  | slot hi h hfree h' => exact .slot hi h hfree (h'.trans htu)

theorem setSocket_placed (td : ExtSocketDescriptor) (w : World L) :
    Post (ExtSocketDescriptorMaster.setSocket E td) w (fun r w' => Placed td w.shared r w'.shared) fun _ _ => True := by
  unfold ExtSocketDescriptorMaster.setSocket
  refine post_section (fun _ _ _ h htu => h.unmoved htu) fun thread => ?_
  rw [post_bind, post_shared]
  cases hslot : freeSlot w.shared.descriptors (min MaxSockets E.dtablesize) with
  | none => exact .full (by decide) (.refl _)
  | some i =>
    obtain ⟨hlt, hfree⟩ := freeSlot_some hslot
    exact .slot (hlt.trans_le (min_le_left _ _)) (.refl _) hfree (.refl _)

theorem new_made (family : Family) (flags : SocketFlags) (w : World L) :
    Post (SCTPSocket.new family flags) w (fun k w' => k = w.shared.nextSocket ∧ w.shared.Made w'.shared)
      fun _ _ => True := by
  unfold SCTPSocket.new
  rw [post_bind, post_shared, post_bind, post_update]
  refine ⟨rfl, fun _ => rfl, fun _ _ h => h, fun k => ?_, rfl⟩
  by_cases hk : k = w.shared.nextSocket
  · simp [hk]
  · simp [hk]

/-- The state without a socket. -/
def Shared.without (s : Shared L) (k : SocketPtr) : Shared L := { s with sockets := Function.update s.sockets k none }

theorem delete_without (k : SocketPtr) (w : World L) :
    Post (SCTPSocket.delete E k) w (fun _ w' => ∃ t, w.shared.Unmoved t ∧ w'.shared = t.without k) fun _ _ => True := by
  unfold SCTPSocket.delete
  exact (post_unmoved inferInstance w).bind fun _ w' hw' => ⟨w'.shared, hw', rfl⟩

/-! ## Calls that open descriptors -/

/-- The call keeps its promises, and makes at most one handle. -/
structure Shared.Opens (keep : Prop) (s t : Shared L) : Prop where
  regular : t.Regular keep
  handles : t.handles = s.handles ∨ Opening s.handles t.handles

theorem Shared.Opens.unmoved (h : s.Opens keep t) (htu : t.Unmoved u) : s.Opens keep u := by
  refine ⟨h.regular.unmoved htu, ?_⟩
  rw [htu.handles]
  exact h.handles

theorem Shared.Unmoved.opens (h : s.Unmoved t) (hs : s.Regular keep) : s.Opens keep t :=
  ⟨hs.unmoved h, .inl h.handles⟩

theorem Shared.Opens.after (h : t.Opens keep u) (hst : s.Unmoved t) : s.Opens keep u := by
  refine ⟨h.regular, ?_⟩
  rw [← hst.handles]
  exact h.handles

theorem Placed.system {fd r : Int} (h : Placed (.system fd) s r t) : s.Unmoved t := by
  cases h with
  | full hr h => exact h
  | slot hi h hfree h' =>
    refine h.trans (.trans (unmoved_setSlot ?_ ?_) h')
    · simp [hfree, ExtSocketDescriptor.socket]
    · simp [hfree]

/-- One more descriptor for a socket. -/
theorem Placed.share {desc : SCTPSocketDesc} {k : SocketPtr} {j : Nat} {r : Int} (h : Placed (.sctp desc) s r t)
    (hs : s.Regular keep) (hdesc : desc.sctpSocketPtr = some k) (hj : (s.descriptors j).socket = some (some k))
    (hk : (s.sockets k).isSome) : s.Opens keep t := by
  cases h with
  | full hr h => exact h.opens hs
  | @slot i s' _ hi h hfree h' =>
    have hs' := hs.unmoved h
    have hj' : (s'.descriptors j).socket = some (some k) := by rw [h.slots, hj]
    have hlt : k < s'.nextSocket := by
      by_contra hge
      exact hs'.unknown k (Nat.not_lt.mp hge) j hj'
    have hshare : Opening s'.handles (s'.setSlot i (.sctp desc)).handles := by
      have hrefers := refers_setSlot (s := s') i (.sctp desc)
      simp only [ExtSocketDescriptor.socket, Option.join_some, hdesc] at hrefers
      have hhandles : (s'.setSlot i (.sctp desc)).handles =
          ⟨Function.update s'.handles.refers i (some k), s'.handles.alive⟩ := by
        rw [← hrefers]
        rfl
      rw [hhandles]
      refine .share j (refers_free hfree) (refers_eq_some.mpr hj') ?_
      simpa [Shared.handles, h.sockets] using hk
    exact .after (.unmoved ⟨hs'.setSlot hi hfree hdesc hlt, .inr hshare⟩ h') h

/-- The first descriptor of a socket. -/
theorem Placed.create {desc : SCTPSocketDesc} {r : Int} (h : Placed (.sctp desc) t r u) (hmade : s.Made t)
    (hs : s.Regular keep) (hdesc : desc.sctpSocketPtr = some s.nextSocket) :
    (0 ≤ r ∧ s.Opens keep u) ∨ (r < 0 ∧ s.Made u) := by
  cases h with
  | full hr h => exact .inr ⟨hr, hmade.unmoved h⟩
  | @slot i t' _ hi h hfree h' =>
    have hmade' := hmade.unmoved h
    have hlt : s.nextSocket < t'.nextSocket := by simp [hmade'.nextSocket]
    refine .inl ⟨Int.natCast_nonneg i, ?_⟩
    exact .unmoved ⟨(hmade'.regular hs).setSlot hi hfree hdesc hlt, .inr (hmade'.opening hs hfree hdesc)⟩ h'

theorem Shared.Made.without_opens (h : s.Made t) (hs : s.Regular keep) : s.Opens keep (t.without s.nextSocket) := by
  refine ⟨?_, .inl (h.deleted hs rfl fun k => Function.update_apply ..)⟩
  have ht := h.regular hs
  refine ⟨ht.named, ht.bounded, fun k hk => ?_, ht.unknown, ht.zero⟩
  by_cases hkn : k = s.nextSocket
  · simp [Shared.without, hkn]
  · simpa [Shared.without, hkn] using ht.fresh k hk

theorem post_errnoReturn_opens {result : Int} (h : s.Opens keep w.shared) :
    Post (errnoReturn result) w (fun _ w' => s.Opens keep w'.shared) fun _ _ => True :=
  (post_unmoved inferInstance w).imp fun _ _ hw' => h.unmoved hw'

theorem ext_socket_opens {domain : Family} {type : SocketType} {isSCTP : Bool} (hs : w.shared.Regular keep) :
    Post (ext_socket E domain type isSCTP) w (fun _ w' => w.shared.Opens keep w'.shared) fun _ _ => True := by
  have hsame : w.shared.Opens keep w.shared := (Shared.Unmoved.refl w.shared).opens hs
  unfold ext_socket
  cases isSCTP with
  | false =>
    simp only [Bool.false_eq_true, if_false]
    refine (post_unmoved inferInstance w).bind fun fd w₁ h₁ => ?_
    split
    · refine (setSocket_placed _ w₁).bind fun r w₂ h₂ => ?_
      exact post_errnoReturn_opens ((h₁.trans h₂.system).opens hs)
    · exact post_errnoReturn_opens (h₁.opens hs)
  | true =>
    simp only [if_true]
    split
    · exact post_errnoReturn_opens hsame
    · split
      · exact post_errnoReturn_opens hsame
      · refine (new_made _ _ w).bind fun k w₁ ⟨hk, hmade⟩ => ?_
        subst hk
        have hset (w₂ : World L) (h₂ : w.shared.Made w₂.shared) : Post (do
            let result ← ExtSocketDescriptorMaster.setSocket E (.sctp
              { domain, type, sctpSocketPtr := some w.shared.nextSocket, connectionOriented := decide (type = .stream) })
            if result < 0 then
              SCTPSocket.delete E w.shared.nextSocket
            errnoReturn result) w₂ (fun _ w' => w.shared.Opens keep w'.shared) fun _ _ => True := by
          refine (setSocket_placed _ w₂).bind fun r w₃ h₃ => ?_
          rcases h₃.create h₂ hs rfl with ⟨hr, hopens⟩ | ⟨hr, hmade⟩
          · rw [if_neg (Int.not_lt.mpr hr)]
            exact post_errnoReturn_opens hopens
          · rw [if_pos hr]
            refine (delete_without _ w₃).bind fun _ w₄ ⟨t, ht, hw₄⟩ => ?_
            refine post_errnoReturn_opens ?_
            rw [hw₄]
            exact (hmade.unmoved ht).without_opens hs
        split
        · have hflags : Anywhere (L := L) Unmoving AnyHalt
              (SCTPSocket.setNotificationFlags w.shared.nextSocket defaultFlags) := by
            unfold SCTPSocket.setNotificationFlags
            infer_instance
          exact (post_unmoved hflags w₁).bind fun _ w₂ h₂ => hset w₂ (hmade.unmoved h₂)
        · exact hset w₁ hmade

theorem newDescriptor_opens {slot : Nat} {p : AssocPtr} {k : SocketPtr} (hs : w.shared.Regular keep)
    (hslot : (w.shared.descriptors slot).socket = some (some k)) (hk : (w.shared.sockets k).isSome) :
    Post (newDescriptor E slot p) w (fun _ w' => w.shared.Opens keep w'.shared) fun _ _ => True := by
  unfold newDescriptor descriptorAt
  rw [post_bind, post_bind, post_shared, post_pure]
  cases htd : w.shared.descriptors slot with
  | invalid => trivial
  | system fd => trivial
  | sctp desc =>
    have hdesc : desc.sctpSocketPtr = some k := by simpa [htd, ExtSocketDescriptor.socket] using hslot
    have hend (r : Int) (w₁ : World L) (h₁ : w.shared.Opens keep w₁.shared) : Post (do
        release p
        return r : Act L Int) w₁ (fun _ w' => w.shared.Opens keep w'.shared) fun _ _ => True :=
      (post_unmoved inferInstance w₁).imp fun _ _ h₂ => h₁.unmoved h₂
    refine (setSocket_placed _ w).bind fun r w₁ h₁ => ?_
    have hopens := h₁.share hs hdesc hslot hk
    split
    · exact (post_unmoved inferInstance w₁).bind fun _ w₂ h₂ => hend r w₂ (hopens.unmoved h₂)
    · exact hend r w₁ hopens

/-- A program that begins with the socket goes on only if it is there. -/
theorem post_socketAt_alive {α : Type} {k : SocketPtr} {f : SCTPSocket → Act L α} (w : World L) :
    Post (socketAt k >>= f) w (fun _ _ => (w.shared.sockets k).isSome) fun _ _ => True := by
  rw [post_bind, post_socketAt]
  cases w.shared.sockets k with
  | none => trivial
  | some o => exact post_true.imp fun _ _ _ => rfl

theorem unmoved_and {α : Type} {x : Act L α} {C : Prop} (hx : Anywhere Unmoving AnyHalt x)
    (h : Post x w (fun _ _ => C) fun _ _ => True) :
    Post x w (fun _ w' => w.shared.Unmoved w'.shared ∧ C) fun _ _ => True :=
  ((post_unmoved hx w).and h).mono (fun _ _ h => h) fun _ _ _ => trivial

theorem accept_alive {k : SocketPtr} {withAddresses wait : Bool} :
    Post (SCTPSocket.accept E k withAddresses wait) w (fun _ w' => w.shared.Unmoved w'.shared ∧ (w.shared.sockets k).isSome)
      fun _ _ => True := by
  refine unmoved_and inferInstance ?_
  unfold SCTPSocket.accept SCTPSocket.acceptWith
  rw [post_bind, post_lock]
  exact post_socketAt_alive _

theorem peelOff_alive {k : SocketPtr} {id : AssocID} :
    Post (SCTPSocket.peelOff E k id) w (fun _ w' => w.shared.Unmoved w'.shared ∧ (w.shared.sockets k).isSome)
      fun _ _ => True := by
  refine unmoved_and inferInstance ?_
  unfold SCTPSocket.peelOff locked
  rw [post_bind, post_lock, post_bind]
  refine (post_socketAt_alive _).imp fun _ _ h => ?_
  exact post_true.imp fun _ _ _ => h

theorem ext_accept_opens {sockfd : Int} {addrlen : Option Nat} (hs : w.shared.Regular keep) :
    Post (ext_accept E sockfd addrlen) w (fun _ w' => w.shared.Opens keep w'.shared) fun _ _ => True := by
  have hreturn (r : Int) (length : Option Nat) (w₁ : World L) (h₁ : w.shared.Opens keep w₁.shared) : Post (do
      return (← errnoReturn r, length) : Act L (Int × Option Nat)) w₁ (fun _ w' => w.shared.Opens keep w'.shared)
      fun _ _ => True := (post_errnoReturn_opens h₁).bind fun _ _ h => h
  have hsame : w.shared.Opens keep w.shared := (Shared.Unmoved.refl w.shared).opens hs
  unfold ext_accept
  cases getSocket sockfd with
  | none => exact hreturn _ _ w hsame
  | some slot =>
    unfold descriptorAt
    rw [post_bind, post_bind, post_shared, post_pure]
    cases htd : w.shared.descriptors slot with
    | invalid => exact hreturn _ _ w hsame
    | system fd =>
      refine (post_unmoved inferInstance w).bind fun fd w₁ h₁ => ?_
      split
      · refine (setSocket_placed _ w₁).bind fun r w₂ h₂ => ?_
        have hopens := (h₁.trans h₂.system).opens hs
        split
        · exact (post_unmoved inferInstance w₂).bind fun _ w₃ h₃ => hreturn _ _ w₃ (hopens.unmoved h₃)
        · exact hreturn _ _ w₂ hopens
      · exact hreturn _ _ w₁ (h₁.opens hs)
    | sctp desc =>
      dsimp only
      cases hdesc : desc.sctpSocketPtr with
      | none => exact hreturn _ _ w hsame
      | some k =>
        refine accept_alive.bind fun result w₁ ⟨h₁, hk⟩ => ?_
        obtain ⟨association, addresses⟩ := result
        cases association with
        | none => exact hreturn _ _ w₁ (h₁.opens hs)
        | some p =>
          have hslot : (w₁.shared.descriptors slot).socket = some (some k) := by
            rw [h₁.slots, htd]
            simp [ExtSocketDescriptor.socket, hdesc]
          have halive : (w₁.shared.sockets k).isSome := by rwa [h₁.sockets]
          refine (newDescriptor_opens (hs.unmoved h₁) hslot halive).bind fun fd w₂ h₂ => ?_
          have hopens := h₂.after h₁
          have hflags : Anywhere (L := L) Unmoving AnyHalt (SCTPAssociation.setNotificationFlags p defaultFlags) := by
            unfold SCTPAssociation.setNotificationFlags
            infer_instance
          split
          · trivial
          · exact (post_unmoved hflags w₂).bind fun _ w₃ h₃ => hreturn _ _ w₃ (hopens.unmoved h₃)

theorem sctp_peeloff_opens {sockfd : Int} {id : AssocID} (hs : w.shared.Regular keep) :
    Post (sctp_peeloff E sockfd id) w (fun _ w' => w.shared.Opens keep w'.shared) fun _ _ => True := by
  have hsame : w.shared.Opens keep w.shared := (Shared.Unmoved.refl w.shared).opens hs
  unfold sctp_peeloff
  cases getSocket sockfd with
  | none => exact hsame
  | some slot =>
    unfold descriptorAt
    rw [post_bind, post_bind, post_shared, post_pure]
    cases htd : w.shared.descriptors slot with
    | invalid => exact post_errnoReturn_opens hsame
    | system fd => exact post_errnoReturn_opens hsame
    | sctp desc =>
      dsimp only
      cases hdesc : desc.sctpSocketPtr with
      | none =>
        dsimp only
        rw [post_bind, post_pure]
        exact post_errnoReturn_opens hsame
      | some k =>
        dsimp only
        split
        · refine peelOff_alive.bind fun association w₁ ⟨h₁, hk⟩ => ?_
          cases association with
          | none => exact post_errnoReturn_opens (h₁.opens hs)
          | some p =>
            have hslot : (w₁.shared.descriptors slot).socket = some (some k) := by
              rw [h₁.slots, htd]
              simp [ExtSocketDescriptor.socket, hdesc]
            have halive : (w₁.shared.sockets k).isSome := by rwa [h₁.sockets]
            refine (newDescriptor_opens (hs.unmoved h₁) hslot halive).bind fun fd w₂ h₂ => ?_
            exact post_errnoReturn_opens (h₂.after h₁)
        · rw [post_bind, post_pure]
          exact post_errnoReturn_opens hsame

/-! ## Closing -/

theorem refers_sctp {i : Nat} {k : SocketPtr} :
    s.handles.refers i = some k ↔ ∃ desc, s.descriptors i = .sctp desc ∧ desc.sctpSocketPtr = some k := by
  rw [refers_eq_some]
  cases s.descriptors i <;> simp [ExtSocketDescriptor.socket]

theorem mayRemoveSocket_iff {slot : Nat} {k : SocketPtr} :
    mayRemoveSocket s.descriptors slot k = true ↔ Last watched s.handles slot k := by
  have hslots (j : Nat) (hj : j < MaxSockets) : getSocket j = some j := by simp [getSocket, hj]
  unfold mayRemoveSocket
  rw [List.all_eq_true]
  constructor
  · intro h j hj hne hk
    have hround := h j (List.mem_range'_1.mpr ⟨hj.1, Nat.lt_add_left 1 hj.2⟩)
    obtain ⟨desc, htd, hdesc⟩ := refers_sctp.mp hk
    rw [hslots j hj.2] at hround
    simp [htd, hdesc, hne] at hround
  · intro h j hj
    obtain ⟨hone, -⟩ := List.mem_range'_1.mp hj
    by_cases hmax : j < MaxSockets
    · rw [hslots j hmax]
      cases htd : s.descriptors j with
      | invalid => simp [htd]
      | system fd => simp [htd]
      | sctp desc =>
        by_cases hne : j = slot
        · simp [hne]
        · have hk : desc.sctpSocketPtr ≠ some k := fun hk => h j ⟨hone, hmax⟩ hne (refers_sctp.mpr ⟨desc, htd, hk⟩)
          simp [htd, hk]
    · have hnone : getSocket j = none := by simp [getSocket, hmax]
      rw [hnone]

instance {desc : SCTPSocketDesc} : Anywhere Unmoving AnyHalt (closeAssociation E desc) := by
  have habort (p : AssocPtr) : Anywhere Unmoving AnyHalt (SCTPAssociation.abort E (notif E) p) := by
    unfold SCTPAssociation.abort
    infer_instance
  unfold closeAssociation
  cases desc.sctpAssociationPtr <;> infer_instance

/-- What `closeSocket` has done: the socket of the descriptor is deleted if no other slot refers to it. -/
inductive Shared.Released (slot : Nat) (desc : SCTPSocketDesc) (s : Shared L) : Shared L → Prop
  | kept {t : Shared L} (h : s.Unmoved t) (hshared : ∀ k, desc.sctpSocketPtr = some k → ¬Last watched s.handles slot k) :
    Released slot desc s t
  | deleted {t k} (h : s.Unmoved t) (hk : desc.sctpSocketPtr = some k) (hlast : Last watched s.handles slot k) :
    Released slot desc s (t.without k)

theorem closeSocket_released {slot : Nat} {desc : SCTPSocketDesc} :
    Post (closeSocket E slot desc) w (fun _ w' => w.shared.Released slot desc w'.shared) fun _ _ => True := by
  unfold closeSocket
  cases hdesc : desc.sctpSocketPtr with
  | none =>
    refine .kept (.refl _) fun k hk => ?_
    simp [hdesc] at hk
  | some k =>
    dsimp only
    rw [post_bind, post_shared]
    by_cases hlast : Last watched w.shared.handles slot k
    · rw [if_pos (mayRemoveSocket_iff.mpr hlast)]
      have hdelete (w₁ : World L) (h₁ : w.shared.Unmoved w₁.shared) : Post (SCTPSocket.delete E k) w₁
          (fun _ w' => w.shared.Released slot desc w'.shared) fun _ _ => True :=
        (delete_without k w₁).imp fun _ w' ⟨t, ht, hw'⟩ => hw' ▸ .deleted (h₁.trans ht) hdesc hlast
      split
      · exact (post_unmoved inferInstance w).bind fun _ w₁ h₁ => hdelete w₁ h₁
      · exact hdelete w (.refl _)
    · rw [if_neg (mt mayRemoveSocket_iff.mp hlast)]
      refine .kept (.refl _) fun k' hk' => ?_
      rwa [← Option.some.inj (hdesc.symm.trans hk')]

theorem Shared.Released.handles {slot : Nat} {desc : SCTPSocketDesc} (h : s.Released slot desc t)
    (hslot : s.descriptors slot = .sctp desc) : (t.setSlot slot .invalid).handles = s.handles.close watched slot := by
  have hrefers (k : SocketPtr) : s.handles.refers slot = some k ↔ desc.sctpSocketPtr = some k := by
    rw [refers_eq_some, hslot]
    simp [ExtSocketDescriptor.socket]
  have hupdate (u : Shared L) : (u.setSlot slot .invalid).handles = ⟨Function.update u.handles.refers slot none, u.handles.alive⟩ := by
    have hslots := refers_setSlot (s := u) slot .invalid
    simp only [ExtSocketDescriptor.socket, Option.join_none] at hslots
    rw [← hslots]
    rfl
  cases h with
  | kept h hshared =>
    have hnothing : Destroyed watched s.handles slot = ∅ := by
      ext k
      simpa [Destroyed, hrefers] using hshared k
    rw [hupdate, h.handles, Table.close, hnothing, Set.sdiff_empty]
  | @deleted t k h hk hlast =>
    have hone : Destroyed watched s.handles slot = {k} := by
      ext k'
      simp only [Destroyed, Set.mem_ofPred_eq, hrefers, hk, Option.some.injEq, Set.mem_singleton_iff]
      constructor
      · rintro ⟨hkk, -⟩
        exact hkk.symm
      · rintro rfl
        exact ⟨rfl, hlast⟩
    have halive : (t.without k).handles.alive = t.handles.alive \ {k} := by
      ext k'
      by_cases hkk : k' = k
      · simp [Shared.without, Shared.handles, hkk]
      · simp [Shared.without, Shared.handles, hkk]
    have hwithout : (t.without k).handles.refers = t.handles.refers := rfl
    rw [hupdate, halive, hwithout, h.handles, Table.close, hone]

/-- A slot is closed. -/
structure Shared.Closes (keep : Prop) (i : Nat) (s t : Shared L) : Prop where
  regular : t.Regular keep
  handles : t.handles = s.handles.close watched i

theorem Shared.Closes.unmoved {i : Nat} (h : s.Closes keep i t) (htu : t.Unmoved u) : s.Closes keep i u := by
  refine ⟨h.regular.unmoved htu, ?_⟩
  rw [htu.handles]
  exact h.handles

theorem Shared.Regular.closeSlot {slot : Nat} (hs : s.Regular keep) (hkeep : keep → slot ≠ 0) :
    (s.setSlot slot .invalid).Regular keep where
  named j := by
    by_cases hj : j = slot
    · simp [Shared.setSlot, hj, ExtSocketDescriptor.socket]
    · simpa [Shared.setSlot, hj] using hs.named j
  bounded j := by
    by_cases hj : j = slot
    · simp [Shared.setSlot, hj, ExtSocketDescriptor.socket]
    · simpa [Shared.setSlot, hj] using hs.bounded j
  fresh := hs.fresh
  unknown k hk j := by
    by_cases hj : j = slot
    · simp [Shared.setSlot, hj, ExtSocketDescriptor.socket]
    · simpa [Shared.setSlot, hj] using hs.unknown k hk j
  zero hk := by
    obtain ⟨fd, hfd⟩ := hs.zero hk
    exact ⟨fd, by simpa [Shared.setSlot, (hkeep hk).symm] using hfd⟩

theorem Shared.Released.regular {slot : Nat} {desc : SCTPSocketDesc} (h : s.Released slot desc t)
    (hs : s.Regular keep) : t.Regular keep := by
  cases h with
  | kept h => exact hs.unmoved h
  | @deleted t k h =>
    have ht := hs.unmoved h
    refine ⟨ht.named, ht.bounded, fun k' hk' => ?_, ht.unknown, ht.zero⟩
    by_cases hkk : k' = k
    · simp [Shared.without, hkk]
    · simpa [Shared.without, hkk] using ht.fresh k' hk'

theorem closes_unused {slot : Nat} (hs : s.Regular keep) (h : s.Unmoved t) (hkeep : keep → slot ≠ 0)
    (hslot : s.handles.refers slot = none) : s.Closes keep slot (t.setSlot slot .invalid) := by
  refine ⟨(hs.unmoved h).closeSlot hkeep, ?_⟩
  have hslots := refers_setSlot (s := t) slot .invalid
  have hrefers : Function.update t.handles.refers slot none = t.handles.refers := by
    rw [h.handles, ← hslot, Function.update_eq_self]
  simp only [ExtSocketDescriptor.socket, Option.join_none, hrefers] at hslots
  rw [close_unused hslot, ← h.handles]
  exact Table.mk.injEq .. ▸ ⟨hslots, rfl⟩

theorem Shared.Unmoved.closes {slot : Nat} (h : s.Unmoved t) (hs : s.Regular keep)
    (hslot : s.handles.refers slot = none) : s.Closes keep slot t := by
  refine ⟨hs.unmoved h, ?_⟩
  rw [close_unused hslot, h.handles]

theorem Shared.Released.after {slot : Nat} {desc : SCTPSocketDesc} (h : t.Released slot desc u) (hst : s.Unmoved t) :
    s.Released slot desc u := by
  cases h with
  | kept h hshared => exact .kept (hst.trans h) (hst.handles ▸ hshared)
  | deleted h hk hlast => exact .deleted (hst.trans h) hk (hst.handles ▸ hlast)

theorem setSlot_setDesc (slot : Nat) (f : SCTPSocketDesc → SCTPSocketDesc) (w : World L) :
    Post (setDesc slot f) w (fun _ w' => w'.shared.setSlot slot .invalid = w.shared.setSlot slot .invalid)
      fun _ _ => True := by
  unfold setDesc
  rw [post_update]
  cases w.shared.descriptors slot <;> simp [Shared.setSlot]

theorem ext_close_closes {sockfd : Int} {slot : Nat} (hs : w.shared.Regular keep) (hfd : getSocket sockfd = some slot)
    (hkeep : keep → slot ≠ 0) :
    Post (ext_close E sockfd) w (fun _ w' => w.shared.Closes keep slot w'.shared) fun _ _ => True := by
  have hend (w₁ : World L) (h₁ : w.shared.Closes keep slot (w₁.shared.setSlot slot .invalid)) : Post (do
      setDescriptor slot .invalid
      unlock E
      errnoReturn 0 : Act L Int) w₁ (fun _ w' => w.shared.Closes keep slot w'.shared) fun _ _ => True := by
    unfold setDescriptor
    rw [post_bind, post_update]
    refine (unlock_unmoved _).bind fun _ w₂ h₂ => ?_
    exact (post_unmoved inferInstance w₂).imp fun _ _ h₃ => h₁.unmoved (h₂.trans h₃)
  unfold ext_close
  rw [hfd]
  dsimp only
  rw [post_bind, post_lock]
  unfold descriptorAt
  rw [post_bind, post_bind, post_shared, post_pure]
  cases htd : w.shared.descriptors slot with
  | invalid =>
    refine (unlock_unmoved _).bind fun _ w₁ h₁ => ?_
    have hslot : w.shared.handles.refers slot = none := refers_free htd
    exact (post_unmoved inferInstance w₁).imp fun _ _ h₂ => (h₁.trans h₂).closes hs hslot
  | system fd =>
    have hslot : w.shared.handles.refers slot = none := by simp [Shared.handles, htd, ExtSocketDescriptor.socket]
    exact (post_unmoved inferInstance _).bind fun _ w₁ h₁ => hend w₁ (closes_unused hs h₁ hkeep hslot)
  | sctp desc =>
    refine (post_unmoved inferInstance _).bind fun _ w₁ h₁ => ?_
    refine (post_unmoved inferInstance w₁).bind fun _ w₂ h₂ => ?_
    refine closeSocket_released.bind fun _ w₃ h₃ => ?_
    have hreleased : w.shared.Released slot desc w₃.shared := h₃.after (h₁.trans h₂)
    refine (setSlot_setDesc slot _ w₃).bind fun _ w₄ h₄ => hend w₄ ?_
    rw [h₄]
    exact ⟨(hreleased.regular hs).closeSlot hkeep, hreleased.handles htd⟩

theorem Shared.Closes.opens {i : Nat} (h : s.Closes keep i t) (hi : s.handles.refers i = none) : s.Opens keep t :=
  ⟨h.regular, .inl (h.handles.trans (close_unused hi))⟩

/-- The slot of a new descriptor of the system. -/
theorem Placed.system_slot {fd r : Int} (h : Placed (.system fd) s r t) (hs : s.Regular keep) (hr : ¬r < 0) :
    ∃ i : Nat, getSocket r = some i ∧ (keep → i ≠ 0) ∧ t.handles.refers i = none := by
  cases h with
  | full hneg h => exact absurd hneg hr
  | @slot i s' _ hi h hfree h' =>
    refine ⟨i, by simp [getSocket, hi], fun hkeep hzero => ?_, ?_⟩
    · obtain ⟨fd, hfd⟩ := (hs.unmoved h).zero hkeep
      simp [hzero, hfd] at hfree
    · rw [h'.handles, refers_setSlot]
      simp [ExtSocketDescriptor.socket]

theorem ext_pipe_opens {fds : Int × Int} (hs : w.shared.Regular keep) :
    Post (ext_pipe E fds) w (fun _ w' => w.shared.Opens keep w'.shared) fun _ _ => True := by
  have hpipe : Anywhere Unmoving AnyHalt (pipeSystem E) := by
    unfold pipeSystem
    dsimp only
    infer_instance
  have hreturn (r : Int) (fds : Int × Int) (w₁ : World L) (h₁ : w.shared.Opens keep w₁.shared) : Post (do
      return (← errnoReturn r, fds) : Act L (Int × Int × Int)) w₁ (fun _ w' => w.shared.Opens keep w'.shared)
      fun _ _ => True := (post_errnoReturn_opens h₁).bind fun _ _ h => h
  unfold ext_pipe
  refine (post_unmoved hpipe w).bind fun newPipe w₁ h₁ => ?_
  cases newPipe with
  | none => exact h₁.opens hs
  | some newPipe =>
    refine (setSocket_placed _ w₁).bind fun fd0 w₂ h₂ => ?_
    have hopens₂ := (h₁.trans h₂.system).opens hs
    split
    · refine (post_unmoved inferInstance w₂).bind fun _ w₃ h₃ => ?_
      exact (post_unmoved inferInstance w₃).bind fun _ w₄ h₄ => hreturn _ _ w₄ (hopens₂.unmoved (h₃.trans h₄))
    · rename_i hfd0
      refine (setSocket_placed _ w₂).bind fun fd1 w₃ h₃ => ?_
      have hopens₃ := hopens₂.unmoved h₃.system
      split
      · obtain ⟨i, hi, hzero, hslot⟩ := h₂.system_slot (hs.unmoved h₁) hfd0
        have hslot₃ : w₃.shared.handles.refers i = none := by rw [h₃.system.handles, hslot]
        have hclose : Post (discard (ext_close E fd0)) w₃ (fun _ w' => w₃.shared.Closes keep i w'.shared)
            fun _ _ => True := post_discard.mpr (ext_close_closes hopens₃.regular hi hzero)
        refine hclose.bind fun _ w₄ h₄ => ?_
        have hopens₄ := (h₄.opens hslot₃).after ((h₁.trans h₂.system).trans h₃.system)
        exact (post_unmoved inferInstance w₄).bind fun _ w₅ h₅ => hreturn _ _ w₅ (hopens₄.unmoved h₅)
      · exact hreturn _ _ w₃ hopens₃

/-! ## All calls -/

/-- The slot that a call closes. -/
def Call.closes : Call → Option Nat
  | .ext_close sockfd => getSocket sockfd
  | _ => none

/-- What a call does to the handles. -/
def Call.Leads (call : Call) (s t : Shared L) : Prop :=
  match call.closes with
  | some i => t.handles = s.handles.close watched i
  | none => t.handles = s.handles ∨ Opening s.handles t.handles

theorem Call.leads_of_opens {call : Call} (hcloses : call.closes = none) (h : s.Opens keep t) :
    t.Regular keep ∧ call.Leads s t := by
  refine ⟨h.regular, ?_⟩
  rw [Call.Leads, hcloses]
  exact h.handles

theorem getSocket_zero {sockfd : Int} (h : getSocket sockfd = some 0) : sockfd = 0 := by
  unfold getSocket at h
  split at h
  · simp only [Option.some.injEq] at h
    omega
  · cases h

variable (S : SelectEnvironment) (T : LibraryAccess L)

theorem call_leads (call : Call) (hs : w.shared.Regular keep) (hkeep : keep → call ≠ .ext_close 0) :
    Post (call.run E S T) w (fun _ w' => w'.shared.Regular keep ∧ call.Leads w.shared w'.shared) fun _ _ => True := by
  by_cases hmoves : call.moves = false
  · have hcloses : call.closes = none := by
      cases call <;> first | rfl | cases hmoves
    refine (post_unmoved (call_unmoving S T hmoves) w).imp fun _ _ hw' => ?_
    exact Call.leads_of_opens hcloses (hw'.opens hs)
  cases call with
  | ext_socket domain type isSCTP => exact (ext_socket_opens hs).imp fun _ _ => Call.leads_of_opens rfl
  | ext_pipe fds =>
    unfold Call.run
    rw [post_map]
    exact (ext_pipe_opens hs).imp fun _ _ => Call.leads_of_opens rfl
  | ext_close sockfd =>
    cases hfd : getSocket sockfd with
    | none =>
      have hunmoved : Anywhere Unmoving AnyHalt (ext_close E sockfd) := by
        unfold ext_close
        rw [hfd]
        infer_instance
      exact (post_unmoved hunmoved w).imp fun _ _ hw' => Call.leads_of_opens hfd (hw'.opens hs)
    | some i =>
      have hzero : keep → i ≠ 0 := by
        intro hk hi
        subst hi
        rw [getSocket_zero hfd] at hkeep
        exact hkeep hk rfl
      refine (ext_close_closes hs hfd hzero).imp fun _ _ hw' => ⟨hw'.regular, ?_⟩
      simp only [Call.Leads, Call.closes, hfd]
      exact hw'.handles
  | ext_accept sockfd addrlen =>
    unfold Call.run
    rw [post_map]
    exact (ext_accept_opens hs).imp fun _ _ => Call.leads_of_opens rfl
  | sctp_peeloff sockfd id => exact (sctp_peeloff_opens hs).imp fun _ _ => Call.leads_of_opens rfl
  | _ => exact absurd rfl hmoves

end

end SocketApi
