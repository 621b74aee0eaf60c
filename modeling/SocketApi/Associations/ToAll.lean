import SocketApi.Frame.Alone

/-!
# Operations for all associations

Four operations of a socket are for all of its connectionless associations. Their loops are written with `if`
where `while` is meant, so that they end after the first association.
-/

namespace SocketApi

open Effect

variable {L : Sctplib} {E : Environment L} {w : World L} {s : SocketPtr} {o : SCTPSocket} {p : AssocPtr}

inductive ToAll where
  | setSendBuffer (size : Nat)
  | setReceiveBuffer (size : Nat)
  | addAddress (address : SocketAddress)
  | deleteAddress (address : SocketAddress)

namespace ToAll

def onSocket (E : Environment L) (s : SocketPtr) : ToAll → Act L Bool
  | setSendBuffer size => SCTPSocket.setSendBuffer E s size
  | setReceiveBuffer size => SCTPSocket.setReceiveBuffer E s size
  | addAddress address => SCTPSocket.addAddress E s 0 address
  | deleteAddress address => SCTPSocket.deleteAddress E s 0 address

def onAssociation (E : Environment L) (p : AssocPtr) : ToAll → Act L Bool
  | setSendBuffer size => SCTPAssociation.setSendBuffer E p size
  | setReceiveBuffer size => SCTPAssociation.setReceiveBuffer E p size
  | addAddress address => SCTPAssociation.addAddress E p address
  | deleteAddress address => SCTPAssociation.deleteAddress E p address

end ToAll

/-! ## Statements -/

/-- Every association gets its turn, and the answer is `true` if every turn's is. -/
def turns (f : AssocPtr → Act L Bool) : List AssocPtr → Act L Bool
  | [] => return true
  | p :: rest => do
    let ok ← f p
    let rest ← turns f rest
    return ok && rest

/-- For a socket with these connectionless associations, the operation is one turn for each of them, in some
order; whatever the turns do. No association has the ID 0. -/
def ToAll.AppliesTo (op : ToAll) (list : Multimap AssocID AssocPtr) : Prop :=
  ∃ order, List.Perm order list.values ∧
    ∀ (L : Sctplib) (E : Environment L) (w : World L) (s : SocketPtr) (o : SCTPSocket),
      w.shared.sockets s = some o → o.connectionlessAssociationList = list →
      (∀ p a, w.shared.associations p = some a → a.associationID ≠ 0) →
      op.onSocket E s w = locked E (turns (op.onAssociation E) order) w

/-! ## One association at most -/

theorem locked_congr {α : Type} {x y : Act L α} (h : x w.up = y w.up) : locked E x w = locked E y w := by
  change (lock >>= fun _ => x >>= _) w = (lock >>= fun _ => y >>= _) w
  rw [runs_lock.bind_eq, runs_lock.bind_eq]
  exact run_bind_congr h

theorem turns_one (f : AssocPtr → Act L Bool) (p : AssocPtr) : turns f [p] = f p := by
  simp [turns]

/-- The association the loops come to. -/
def SCTPSocket.first (o : SCTPSocket) : List AssocPtr := (Multimap.values o.connectionlessAssociationList).take 1

theorem firstAnswer_eq (f : AssocPtr → Act L Bool) (ho : w.shared.sockets s = some o) :
    SCTPSocket.firstAnswer s f w = turns f o.first w := by
  unfold SCTPSocket.firstAnswer SCTPSocket.first
  rw [(runs_socketAt ho).bind_eq]
  cases o.connectionlessAssociationList with
  | nil => rfl
  | cons e rest => exact (congrFun (turns_one f e.2) w).symm

theorem turns_first {f g : AssocPtr → Act L Bool} (h : ∀ p, f p w = g p w) : turns f o.first w = turns g o.first w := by
  unfold SCTPSocket.first
  cases Multimap.values o.connectionlessAssociationList with
  | nil => rfl
  | cons p rest =>
    rw [List.take_succ_cons, List.take_zero, turns_one, turns_one]
    exact h p

/-- The operation of a socket is a turn of its first association. -/
theorem ToAll.onSocket_eq (op : ToAll) (ho : w.shared.sockets s = some o)
    (hid : ∀ p a, w.shared.associations p = some a → a.associationID ≠ 0) :
    op.onSocket E s w = locked E (turns (op.onAssociation E) o.first) w := by
  have hchange (address : SocketAddress) :
      SCTPSocket.addAddress E s 0 address w = locked E (turns (SCTPAssociation.addAddress E · address) o.first) w := by
    unfold SCTPSocket.addAddress
    rw [if_pos rfl]
    refine locked_congr ?_
    rw [firstAnswer_eq (w := w.up) _ ho]
    -- The function calls itself with the ID of the association, which is not 0.
    refine turns_first fun p => associationAt_congr fun a ha => ?_
    unfold SCTPSocket.addAddress
    rw [if_neg (hid p a ha), if_neg (hid p a ha)]
  cases op with
  | setSendBuffer size => exact locked_congr (firstAnswer_eq (w := w.up) _ ho)
  | setReceiveBuffer size => exact locked_congr (firstAnswer_eq (w := w.up) _ ho)
  | addAddress address => exact hchange address
  | deleteAddress address => exact hchange address

/-! ## Two associations or more -/

/-- A protocol library that knows every association and counts how often parameters are set. -/
def Sctplib.counting : Sctplib := { Sctplib.small with
  getAssocStatus := fun _ _ => some {}
  setAssocStatus := fun (stack : SmallStack) _ _ => (true, { stack with lastInstance := stack.lastInstance + 1 }) }

def Shared.counted (t : Shared Sctplib.counting) : Nat :=
  SmallStack.lastInstance t.stack + ((t.sockets 0).map (·.correlationID)).getD 0

/-- One socket with these connectionless associations. -/
structure Counts (list : Multimap AssocID AssocPtr) (t : Shared Sctplib.counting) : Prop where
  socket : ∃ o, t.sockets 0 = some o ∧ o.connectionlessAssociationList = list
  associations : ∀ p, t.associations p = some { socket := 0, associationID := 1 }

def manyAssociations (list : Multimap AssocID AssocPtr) : World Sctplib.counting where
  shared := {
    stack := ({} : SmallStack)
    sockets := fun s => if s = 0 then some { connectionlessAssociationList := list } else none
    associations := fun _ => some { socket := 0, associationID := 1 } }

section

variable {list : Multimap AssocID AssocPtr} {v : World Sctplib.counting} {E : Environment Sctplib.counting}

theorem manyAssociations_counts (list : Multimap AssocID AssocPtr) : Counts list (manyAssociations list).shared :=
  ⟨⟨_, rfl, rfl⟩, fun _ => rfl⟩

theorem counted_setStatusField (hE : E.Instant) (h : Counts list v.shared) (p : AssocPtr)
    (change : AssociationStatus → AssociationStatus) :
    LevelPost (SCTPAssociation.setStatusField E change p) v
      (fun _ t => Counts list t ∧ t.counted = v.shared.counted + 1) fun _ => False := by
  refine Alone.locked (.inl hE) (levelPost_of_runs (a := true)
    (.bind (runs_associationAt (h.associations p)) (.bind runs_shared (runs_library rfl))) ⟨⟨h.socket, h.associations⟩, ?_⟩)
  show SmallStack.lastInstance v.shared.stack + 1 + _ = SmallStack.lastInstance v.shared.stack + _ + 1
  exact Nat.add_right_comm _ _ _

theorem counted_addAddress (hE : E.Instant) (h : Counts list v.shared) (p : AssocPtr) (address : SocketAddress) :
    LevelPost (SCTPAssociation.addAddress E p address) v
      (fun _ t => Counts list t ∧ t.counted = v.shared.counted + 1) fun _ => False := by
  obtain ⟨o, ho, hlist⟩ := h.socket
  unfold LevelPost SCTPAssociation.addAddress SCTPSocket.addAddress
  rw [post_bind, (runs_associationAt (h.associations p)).post, if_neg (by decide)]
  have hrun : Runs (do
      setSocket 0 fun o => { o with correlationID := o.correlationID + 1 }
      return false : Act Sctplib.counting Bool) v.up false
      (v.up.with (v.shared.setSocket 0 fun o => { o with correlationID := o.correlationID + 1 })) :=
    .bind (runs_setSocket (w := v.up) ho _) (.pure _ _)
  change LevelPost (SCTPSocket.changeAddressOf E 0) v (fun _ t => Counts list t ∧ t.counted = v.shared.counted + 1)
    fun _ => False
  refine Alone.locked (.inl hE) (levelPost_of_runs hrun ⟨⟨⟨_, setSocket_sockets ho _, hlist⟩, h.associations⟩, ?_⟩)
  unfold Shared.counted
  rw [setSocket_sockets ho, ho]
  rfl

/-- Every turn is counted. -/
theorem ToAll.counted (op : ToAll) (hE : E.Instant) (h : Counts list v.shared) (p : AssocPtr) :
    LevelPost (op.onAssociation E p) v (fun _ t => Counts list t ∧ t.counted = v.shared.counted + 1) fun _ => False := by
  cases op with
  | setSendBuffer size => exact counted_setStatusField hE h p fun status => { status with maxSendQueue := size }
  | setReceiveBuffer size => exact counted_setStatusField hE h p fun status => { status with maxRecvQueue := size }
  | addAddress address => exact counted_addAddress hE h p address
  | deleteAddress address => exact counted_addAddress hE h p address

theorem ToAll.counted_turns (op : ToAll) (hE : E.Instant) (h : Counts list v.shared) (order : List AssocPtr) :
    LevelPost (turns (op.onAssociation E) order) v (fun _ t => t.counted = v.shared.counted + order.length)
      fun _ => False := by
  induction order generalizing v with
  | nil => exact levelPost_pure rfl
  | cons p rest ih =>
    refine (op.counted hE h p).bind fun ok v₁ _ ⟨hcounts, hone⟩ => ?_
    refine (ih hcounts).bind fun ok' v₂ _ hrest => levelPost_pure ?_
    rw [hrest, hone, List.length_cons]
    omega

/-- The counts tell one turn from many. -/
theorem ToAll.not_appliesTo (op : ToAll) (h : 2 ≤ list.length) : ¬ op.AppliesTo list := by
  rintro ⟨order, hperm, hall⟩
  have hE : ({} : Environment Sctplib.counting).Instant := fun _ _ => rfl
  have hup : Counts list (manyAssociations list).up.shared := manyAssociations_counts list
  have hid : ∀ p a, (manyAssociations list).shared.associations p = some a → a.associationID ≠ 0 := by
    intro p a ha
    obtain rfl := Option.some.inj ha
    decide
  have hsame := hall Sctplib.counting {} (manyAssociations list) 0 _ rfl rfl hid
  rw [op.onSocket_eq rfl hid] at hsame
  obtain ⟨r, t, hrun, -, hcode⟩ := (Alone.locked (.inl hE) (op.counted_turns hE hup _)).exists_ok
  obtain ⟨r', t', hrun', -, hturns⟩ := (Alone.locked (.inl hE) (op.counted_turns hE hup order)).exists_ok
  rw [hrun, hrun'] at hsame
  cases hsame
  have hone : order.length = (Multimap.values list |>.take 1).length := by
    have := hturns.symm.trans hcode
    simpa [SCTPSocket.first, manyAssociations] using this
  have hlength : order.length = list.length := by
    rw [hperm.length_eq]
    exact List.length_map ..
  rw [hlength, List.length_take] at hone
  omega

end

/-- The operations reach all associations exactly of a socket with one at most. -/
theorem ToAll.appliesTo_iff (op : ToAll) (list : Multimap AssocID AssocPtr) : op.AppliesTo list ↔ list.length ≤ 1 := by
  constructor
  · intro h
    by_contra hlength
    exact op.not_appliesTo (by omega) h
  · intro hlength
    refine ⟨list.values, .refl _, fun L E w s o ho hlist hid => ?_⟩
    have hfirst : o.first = list.values := by
      unfold SCTPSocket.first
      rw [hlist]
      exact List.take_of_length_le ((List.length_map ..).trans_le hlength)
    rw [op.onSocket_eq ho hid, hfirst]

theorem setSendBuffer_misses_second : ¬ (ToAll.setSendBuffer 65536).AppliesTo [(1, 0), (2, 1)] :=
  ToAll.not_appliesTo _ (by decide)

end SocketApi
