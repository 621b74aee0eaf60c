import SocketApi.Locking.Operations

/-!
# Lock balance of the public operations

Every public operation of `SCTPSocket` and `SCTPAssociation` as data, and which of them
return with the nesting level they were called with.
-/

namespace SocketApi

open Effect

set_option synthInstance.maxSize 2000

variable {L : Sctplib} {E : Environment L} {α β : Type}

/-! ## The operations -/

/-- The public operations of `SCTPSocket`. -/
inductive SocketOperation where
  | getID
  | bind (localPort noOfInStreams noOfOutStreams : Nat) (localAddressList : List SocketAddress)
  | unbind (sendAbort : Bool)
  | associate (noOfOutStreams maxAttempts maxInitTimeout : Nat) (destinationAddressList : List SocketAddress)
      (blocking : Bool)
  | listen (backlog : Nat)
  | accept (withAddresses blocking : Bool)
  | peelOff (assocID : AssocID)
  | peelOffAddress (destinationAddress : SocketAddress)
  | getLocalAddresses
  | getRemoteAddresses (assocID : AssocID)
  | receive (io : ReceiveIO)
  | receiveFrom (io : ReceiveIO) (wantAddress : Bool)
  | sendTo (c : SendCall)
  | hasData
  | getNotificationFlags
  | setNotificationFlags (flags : NotificationFlags)
  | getAssocDefaults
  | setAssocDefaults (assocDefaults : InstanceParameters)
  | getAssocIODefaults (assocID : AssocID)
  | setAssocIODefaults (assocID : AssocID) (defaults : AssocIODefaults)
  | setDefaultStreamTimeouts (assocID : AssocID) (timeout start stop : Nat)
  | getDefaultStreamTimeout (assocID : AssocID) (streamID : StreamID)
  | getAssocStatus (assocID : AssocID)
  | setAssocStatus (assocID : AssocID) (associationParameters : AssociationStatus)
  | getPathParameters (assocID : AssocID) (address : Option SocketAddress)
  | setPathParameters (assocID : AssocID) (address : Option SocketAddress) (pathParameters : PathStatus)
  | getPrimaryAddress (assocID : AssocID)
  | setPrimary (assocID : AssocID) (primary : SocketAddress)
  | setPeerPrimary (assocID : AssocID) (primary : SocketAddress)
  | addAddress (assocID : AssocID) (address : SocketAddress)
  | deleteAddress (assocID : AssocID) (address : SocketAddress)
  | getAutoClose
  | setAutoClose (timeout : Nat)
  | setSendBuffer (size : Nat)
  | setReceiveBuffer (size : Nat)
  | getDefaultTrafficClass
  | setTrafficClass (trafficClass : Nat)
  | getUpdateCondition (type : UpdateConditionType)
  | delete

def SCTPSocket.perform (E : Environment L) (s : SocketPtr) : SocketOperation → Act L Unit
  | .getID => discard (getID s)
  | .bind localPort noOfInStreams noOfOutStreams localAddressList =>
    discard (SCTPSocket.bind E s localPort noOfInStreams noOfOutStreams localAddressList)
  | .unbind sendAbort => unbind E s sendAbort
  | .associate noOfOutStreams maxAttempts maxInitTimeout destinationAddressList blocking =>
    discard (associate E s noOfOutStreams maxAttempts maxInitTimeout destinationAddressList blocking)
  | .listen backlog => listen E s backlog
  | .accept withAddresses blocking => discard (accept E s withAddresses blocking)
  | .peelOff assocID => discard (peelOff E s assocID)
  | .peelOffAddress destinationAddress => discard (peelOffAddress E s destinationAddress)
  | .getLocalAddresses => discard (getLocalAddresses E s)
  | .getRemoteAddresses assocID => discard (getRemoteAddresses E s assocID)
  | .receive io => discard (receive E s io)
  | .receiveFrom io wantAddress => discard (receiveFrom E s io wantAddress)
  | .sendTo c => discard (sendTo E s c)
  | .hasData => discard (hasData E s)
  | .getNotificationFlags => discard (getNotificationFlags s)
  | .setNotificationFlags flags => setNotificationFlags s flags
  | .getAssocDefaults => discard (getAssocDefaults E s)
  | .setAssocDefaults assocDefaults => discard (setAssocDefaults E s assocDefaults)
  | .getAssocIODefaults assocID => discard (getAssocIODefaults E s assocID)
  | .setAssocIODefaults assocID defaults => discard (setAssocIODefaults E s assocID defaults)
  | .setDefaultStreamTimeouts assocID timeout start stop =>
    discard (setDefaultStreamTimeouts E s assocID timeout start stop)
  | .getDefaultStreamTimeout assocID streamID => discard (getDefaultStreamTimeout E s assocID streamID)
  | .getAssocStatus assocID => discard (getAssocStatus E assocID)
  | .setAssocStatus assocID associationParameters => discard (setAssocStatus E assocID associationParameters)
  | .getPathParameters assocID address => discard (getPathParameters E assocID address)
  | .setPathParameters assocID address pathParameters =>
    discard (setPathParameters E assocID address pathParameters)
  | .getPrimaryAddress assocID => discard (getPrimaryAddress E assocID)
  | .setPrimary assocID primary => discard (setPrimary E assocID primary)
  | .setPeerPrimary assocID primary => discard (setPeerPrimary E assocID primary)
  | .addAddress assocID address => discard (addAddress E s assocID address)
  | .deleteAddress assocID address => discard (deleteAddress E s assocID address)
  | .getAutoClose => discard (getAutoClose s)
  | .setAutoClose timeout => setAutoClose s timeout
  | .setSendBuffer size => discard (setSendBuffer E s size)
  | .setReceiveBuffer size => discard (setReceiveBuffer E s size)
  | .getDefaultTrafficClass => discard (getDefaultTrafficClass s)
  | .setTrafficClass trafficClass => discard (setTrafficClass E s trafficClass)
  | .getUpdateCondition type => discard (getUpdateCondition s type)
  | .delete => delete E s

/-- The public operations of `SCTPAssociation`. -/
inductive AssociationOperation where
  | getID
  | getLocalAddresses
  | getRemoteAddresses
  | receive (io : ReceiveIO)
  | receiveFrom (io : ReceiveIO) (wantAddress : Bool)
  | send (buffer : List UInt8) (params : SendParams) (useDefaults : Bool)
  | sendTo (buffer : List UInt8) (params : SendParams) (useDefaults : Bool)
      (pathDestinationAddress : Option SocketAddress)
  | shutdown
  | abort
  | hasData
  | getNotificationFlags
  | setNotificationFlags (flags : NotificationFlags)
  | getAssocIODefaults
  | setAssocIODefaults (defaults : AssocIODefaults)
  | setDefaultStreamTimeouts (timeout start stop : Nat)
  | getDefaultStreamTimeout (streamID : StreamID)
  | getAssocStatus
  | setAssocStatus (assocStatus : AssociationStatus)
  | getPathParameters (address : Option SocketAddress)
  | setPathParameters (address : Option SocketAddress) (pathParameters : PathStatus)
  | getPrimaryAddress
  | setPrimary (primary : SocketAddress)
  | setPeerPrimary (primary : SocketAddress)
  | addAddress (address : SocketAddress)
  | deleteAddress (address : SocketAddress)
  | getSendBuffer
  | setSendBuffer (size : Nat)
  | getReceiveBuffer
  | setReceiveBuffer (size : Nat)
  | getTrafficClass
  | setTrafficClass (trafficClass : Nat)
  | getUpdateCondition (type : UpdateConditionType)
  | delete

def SCTPAssociation.perform (E : Environment L) (p : AssocPtr) : AssociationOperation → Act L Unit
  | .getID => discard (getID p)
  | .getLocalAddresses => discard (getLocalAddresses E p)
  | .getRemoteAddresses => discard (getRemoteAddresses E p)
  | .receive io => discard (receive E p io)
  | .receiveFrom io wantAddress => discard (receiveFrom E p io wantAddress)
  | .send buffer params useDefaults => discard (send E p buffer params useDefaults)
  | .sendTo buffer params useDefaults pathDestinationAddress =>
    discard (sendTo E p buffer params useDefaults pathDestinationAddress)
  | .shutdown => shutdown E (SCTPSocketMaster.notif E) p
  | .abort => abort E (SCTPSocketMaster.notif E) p
  | .hasData => discard (hasData E p)
  | .getNotificationFlags => discard (getNotificationFlags p)
  | .setNotificationFlags flags => setNotificationFlags p flags
  | .getAssocIODefaults => discard (getAssocIODefaults E p)
  | .setAssocIODefaults defaults => setAssocIODefaults E p defaults
  | .setDefaultStreamTimeouts timeout start stop => discard (setDefaultStreamTimeouts E p timeout start stop)
  | .getDefaultStreamTimeout streamID => discard (getDefaultStreamTimeout E p streamID)
  | .getAssocStatus => discard (getAssocStatus E p)
  | .setAssocStatus assocStatus => discard (setAssocStatus E p assocStatus)
  | .getPathParameters address => discard (getPathParameters E p address)
  | .setPathParameters address pathParameters => discard (setPathParameters E p address pathParameters)
  | .getPrimaryAddress => discard (getPrimaryAddress E p)
  | .setPrimary primary => discard (setPrimary E p primary)
  | .setPeerPrimary primary => discard (setPeerPrimary E p primary)
  | .addAddress address => discard (addAddress E p address)
  | .deleteAddress address => discard (deleteAddress E p address)
  | .getSendBuffer => discard (getSendBuffer E p)
  | .setSendBuffer size => discard (setSendBuffer E p size)
  | .getReceiveBuffer => discard (getReceiveBuffer E p)
  | .setReceiveBuffer size => discard (setReceiveBuffer E p size)
  | .getTrafficClass => discard (getTrafficClass E p)
  | .setTrafficClass trafficClass => discard (setTrafficClass p trafficClass)
  | .getUpdateCondition type => discard (getUpdateCondition p type)
  | .delete => delete E (SCTPSocketMaster.notif E) p

/-- A public operation and the object it is called on. -/
inductive Operation where
  | socket (s : SocketPtr) (op : SocketOperation)
  | association (p : AssocPtr) (op : AssociationOperation)

def Operation.run (E : Environment L) : Operation → Act L Unit
  | .socket s op => SCTPSocket.perform E s op
  | .association p op => SCTPAssociation.perform E p op

/-! ## Balance -/

/-- A call returns, if it does, with the level it was made with and never unlocks at level 0. -/
def Balanced (x : Act L α) (w : World L) : Prop :=
  Post x w (fun _ w' => w'.thread.lockLevel = w.thread.lockLevel) fun h _ => h ≠ .abort .unlockAtZero

/-- A balanced call that also waits only at the level it was made with. -/
def Courteous (x : Act L α) (w : World L) : Prop :=
  Post x w (fun _ w' => PoliteStep w w') fun h w' => PoliteHalt h w w'

theorem Courteous.of_polite {x : Act L α} {w : World L} (h : Polite x) : Courteous x w := h.post w

theorem Courteous.balanced {x : Act L α} {w : World L} (h : Courteous x w) : Balanced x w :=
  h.mono (fun _ _ h => h.1) fun _ _ h => h.1

theorem courteous_discard {x : Act L α} {w : World L} : Courteous (discard x) w ↔ Courteous x w := post_discard

theorem courteous_bind_pure {x : Act L α} {f : α → β} {w : World L} :
    Courteous (x >>= fun a => pure (f a)) w ↔ Courteous x w := post_bind _

theorem Courteous.of_tidy {x : Act L α} {w : World L}
    (h : Post x w (fun _ w' => TidyStep w w') fun h w' => TidyHalt h w w') : Courteous x w :=
  h.mono (fun _ _ h => ⟨h.1, 0, h.2⟩) fun _ _ h => ⟨h.1, 0, h.2⟩

theorem Courteous.of_undefined {x : Act L α} {w : World L}
    (h : Post x w (fun _ _ => False) fun h w' => h = .undefinedBehaviour ∧ w'.thread.waits = w.thread.waits) :
    Courteous x w :=
  h.mono (fun _ _ h => h.elim) fun _ _ h => ⟨h.1 ▸ Halt.noConfusion, 0, h.2⟩

theorem not_balanced {x : Act L α} {w : World L}
    (h : Post x w (fun _ w' => w'.thread.lockLevel = w.thread.lockLevel + 1) fun _ _ => False) :
    ¬Balanced x w := by
  unfold Balanced Post at *
  cases hx : x w with
  | ok a w' => rw [hx] at h; simp only [h]; omega
  | error e w' => rw [hx] at h; exact h.elim

theorem balanced_discard {x : Act L α} {w : World L} : Balanced (discard x) w ↔ Balanced x w := post_discard

theorem balanced_bind_pure {x : Act L α} {f : α → β} {w : World L} :
    Balanced (x >>= fun a => pure (f a)) w ↔ Balanced x w := post_bind _

/-! ## The operations that return without `unlock` -/

/-- The socket and the first of its connectionless associations, if it has one, are objects. -/
def FirstUsable (s : SocketPtr) (w : World L) : Prop :=
  ∃ o, w.shared.sockets s = some o ∧
    ∀ e ∈ o.connectionlessAssociationList.head?, (w.shared.associations e.2).isSome

/-- `getRemoteAddresses` of the association gets a status and no memory. -/
def LosesAddresses (E : Environment L) (p : AssocPtr) (w : World L) : Prop :=
  ∃ a, w.shared.associations p = some a ∧ (L.getAssocStatus w.shared.stack a.associationID).isSome ∧
    E.allocates .addressList = false

/-- The association `SCTPSocket::getRemoteAddresses` finds. -/
def SCTPSocket.addressee (o : SCTPSocket) (assocID : AssocID) : Option AssocPtr :=
  (o.associationList.find assocID).or (o.connectionlessAssociationList.find assocID)

/-- When a public operation releases what it locks. -/
def Operation.Releases (E : Environment L) (w : World L) : Operation → Prop
  | .socket s (.accept _ _) => ∀ o, w.shared.sockets s = some o → o.flags.listening = true
  | .socket s (.getAssocIODefaults _) | .socket s (.setAssocIODefaults _ _)
  | .socket s (.setDefaultStreamTimeouts _ _ _ _) | .socket s (.getDefaultStreamTimeout _ _) => ¬FirstUsable s w
  | .socket s (.getRemoteAddresses assocID) =>
    ¬∃ o p, w.shared.sockets s = some o ∧ o.addressee assocID = some p ∧ LosesAddresses E p w
  | .association p .getRemoteAddresses => ¬LosesAddresses E p w
  | _ => True

section

variable {w : World L} {s : SocketPtr} {p : AssocPtr}

/-- The call comes back. -/
def Returns (x : Act L α) (w : World L) : Prop := Post x w (fun _ _ => True) fun _ _ => False

theorem returns_locked {body : Act L α} [hb : Tidy body] (hw : 0 < w.thread.lockLevel)
    (h : ∀ w' : World L, w'.shared = w.shared → Returns body w') : Returns (locked E body) w := by
  obtain ⟨n, hn⟩ : ∃ n, w.thread.lockLevel = n + 1 := ⟨_, (Nat.succ_pred_eq_of_pos hw).symm⟩
  unfold Returns locked at *
  simp only [post_bind, post_lock]
  refine ((h _ ?_).and (hb.post _)).mono (fun a w' h' => ?_) fun _ _ h' => h'.1
  · rfl
  exact (post_unlock_held (n := n) (h'.2.1.trans (congrArg (· + 1) hn))).mpr trivial

theorem returns_associationAt (h : (w.shared.associations p).isSome) : Returns (associationAt p) w := by
  obtain ⟨a, ha⟩ := Option.isSome_iff_exists.mp h
  simp only [Returns, post_associationAt, ha]

theorem returns_setAssociation {f : SCTPAssociation → SCTPAssociation}
    (h : (w.shared.associations p).isSome) : Returns (setAssociation p f) w := by
  obtain ⟨a, ha⟩ := Option.isSome_iff_exists.mp h
  simp only [Returns, post_setAssociation, ha]

theorem returns_setDefaultStreamTimeouts {timeout start stop : Nat} (hw : 0 < w.thread.lockLevel)
    (hp : (w.shared.associations p).isSome) :
    Returns (SCTPAssociation.setDefaultStreamTimeouts E p timeout start stop) w := by
  unfold SCTPAssociation.setDefaultStreamTimeouts
  by_cases hs : stop < start
  · rw [if_pos hs]
    trivial
  · rw [if_neg hs]
    refine @returns_locked _ _ _ _ _ _ hw fun w' h => ?_
    obtain ⟨a, ha⟩ := Option.isSome_iff_exists.mp (h ▸ hp)
    simp only [Returns, post_bind, post_associationAt, ha, post_ite, post_setAssociation, post_pure, ite_self]

theorem tidy_findStreamTimeout (p : AssocPtr) (id : StreamID) : Tidy (L := L) (do
    let a ← associationAt p
    match a.streamDefaultTimeoutArray[id]? with
    | some t => return (if t.valid then some t.timeout else none)
    | none => return none) := by
  refine .seq fun a => ?_
  cases a.streamDefaultTimeoutArray[id]? <;> infer_instance

theorem returns_getDefaultStreamTimeout {id : StreamID} (hw : 0 < w.thread.lockLevel)
    (hp : (w.shared.associations p).isSome) : Returns (SCTPAssociation.getDefaultStreamTimeout E p id) w := by
  unfold SCTPAssociation.getDefaultStreamTimeout
  have := tidy_findStreamTimeout (L := L) p id
  refine returns_locked hw fun w' h => ?_
  obtain ⟨a, ha⟩ := Option.isSome_iff_exists.mp (h ▸ hp)
  simp only [Returns, post_bind, post_associationAt, ha]
  cases a.streamDefaultTimeoutArray[id]? <;> trivial

/-- An operation that works on every object leaves the master locked. -/
theorem onFirstLocked_leaks {f : AssocPtr → Act L α} [hf : ∀ p, Tidy (f p)]
    (hret : ∀ p w, 0 < w.thread.lockLevel → (w.shared.associations p).isSome → Returns (f p) w)
    (hs : FirstUsable s w) : ¬Balanced (SCTPSocket.onFirstLocked s f) w := by
  obtain ⟨o, ho, he⟩ := hs
  apply not_balanced
  unfold SCTPSocket.onFirstLocked
  simp only [post_bind, post_lock, post_socketAt, ho]
  rcases hl : o.connectionlessAssociationList with _ | ⟨⟨k, p⟩, list⟩
  · rfl
  · rw [hl] at he
    have hp : (w.shared.associations p).isSome := he (k, p) rfl
    obtain ⟨a, ha⟩ := Option.isSome_iff_exists.mp hp
    simp only [post_bind, post_discard, post_associationAt, ha]
    refine ((hret p _ ?_ ?_).and ((hf p).post _)).mono (fun _ w' h => h.2.1) fun _ _ h => h.1
    · exact Nat.succ_pos _
    · exact hp

theorem onFirstLocked_undefined {f : AssocPtr → Act L α} (hs : ¬FirstUsable s w) :
    Courteous (SCTPSocket.onFirstLocked s f) w := by
  apply Courteous.of_undefined
  unfold SCTPSocket.onFirstLocked
  simp only [post_bind, post_lock, post_socketAt]
  cases ho : w.shared.sockets s with
  | none => exact ⟨trivial, trivial⟩
  | some o =>
    rcases hl : o.connectionlessAssociationList with _ | ⟨⟨k, p⟩, list⟩
    · exact absurd ⟨o, ho, by simp [hl]⟩ hs
    · cases ha : w.shared.associations p with
      | none => simp only [hl, post_bind, post_discard, post_associationAt, ha, and_self]
      | some a => exact absurd ⟨o, ho, by simp [hl, ha]⟩ hs

/-- A section of a thread that holds the lock already: nobody else runs. -/
theorem post_locked_held {body : Act L α} [hb : Tidy body] {n : Nat} (hw : w.thread.lockLevel = n + 1)
    {Q : α → World L → Prop} {H : Halt → World L → Prop} :
    Post (locked E body) w Q H ↔ Post body { w with thread := { w.thread with lockLevel := n + 2 } }
      (fun a w' => Q a { w' with thread := { w'.thread with lockLevel := n + 1 } }) H := by
  unfold locked
  simp only [post_bind, post_lock, hw, post_pure]
  have h := hb.post { w with thread := { w.thread with lockLevel := n + 2 } }
  unfold Post at h ⊢
  cases hx : body { w with thread := { w.thread with lockLevel := n + 2 } } with
  | error e w' => rfl
  | ok a w' =>
    rw [hx] at h
    exact post_unlock_held h.1

theorem tidy_findAssociation (s : SocketPtr) (id : AssocID) (activeOnly : Bool) : Tidy (L := L) (do
    let o ← socketAt s
    match o.associationList.find id with
    | some p =>
      let a ← associationAt p
      return (if a.isShuttingDown && activeOnly then none else some p)
    | none => return none) := by
  refine .seq fun o => ?_
  cases o.associationList.find id <;> infer_instance

/-- The lookup of a thread that holds the lock. -/
theorem post_getAssociationForAssociationID {id : AssocID} {activeOnly : Bool} {n : Nat}
    (hw : w.thread.lockLevel = n + 1) {Q : Option AssocPtr → World L → Prop} {H : Halt → World L → Prop} :
    Post (SCTPSocket.getAssociationForAssociationID E s id activeOnly) w Q H ↔
      match w.shared.sockets s with
      | none => H .undefinedBehaviour { w with thread := { w.thread with lockLevel := n + 2 } }
      | some o =>
        match o.associationList.find id with
        | none => Q none w
        | some p =>
          match w.shared.associations p with
          | none => H .undefinedBehaviour { w with thread := { w.thread with lockLevel := n + 2 } }
          | some a => Q (if a.isShuttingDown && activeOnly then none else some p) w := by
  have hback : ({ w with thread := { w.thread with lockLevel := n + 1 } } : World L) = w := by rw [← hw]
  have := tidy_findAssociation (L := L) s id activeOnly
  unfold SCTPSocket.getAssociationForAssociationID
  rw [post_locked_held hw]
  simp only [post_bind, post_socketAt]
  cases w.shared.sockets s with
  | none => rfl
  | some o =>
    dsimp only
    cases o.associationList.find id with
    | none => simp only [post_pure, hback]
    | some p =>
      simp only [post_bind, post_associationAt]
      cases w.shared.associations p with
      | none => rfl
      | some a => simp only [post_pure, hback]

/-! ### `getRemoteAddresses` -/

theorem post_getRemoteAddresses_lost (h : LosesAddresses E p w) :
    Post (SCTPAssociation.getRemoteAddresses E p) w
      (fun _ w' => w' = { w with thread := { w.thread with lockLevel := w.thread.lockLevel + 1 } })
      fun _ _ => False := by
  obtain ⟨a, ha, hs, hE⟩ := h
  obtain ⟨status, hstatus⟩ := Option.isSome_iff_exists.mp hs
  unfold SCTPAssociation.getRemoteAddresses
  simp only [post_bind, post_lock, post_associationAt, ha, post_shared, hstatus, hE, Bool.not_false, if_true,
    post_pure]

theorem post_getRemoteAddresses (h : ¬LosesAddresses E p w) :
    Post (SCTPAssociation.getRemoteAddresses E p) w (fun _ w' => TidyStep w w') fun h w' => TidyHalt h w w' := by
  have hunlock : ∀ result : Bool × Option (List SocketAddress), Post (do unlock E; return result)
      { w with thread := { w.thread with lockLevel := w.thread.lockLevel + 1 } }
      (fun _ w' => TidyStep w w') fun h w' => TidyHalt h w w' := by
    intro result
    exact (post_bind _).mpr (post_unlock rfl (fun _ _ => ⟨rfl, rfl⟩) ⟨Halt.noConfusion, rfl⟩)
  unfold SCTPAssociation.getRemoteAddresses
  simp only [post_bind, post_lock, post_associationAt]
  cases ha : w.shared.associations p with
  | none => exact ⟨Halt.noConfusion, rfl⟩
  | some a =>
    simp only [post_shared]
    cases hs : L.getAssocStatus w.shared.stack a.associationID with
    | none => exact hunlock _
    | some status =>
      cases hE : E.allocates .addressList with
      | false => exact absurd ⟨a, ha, by rw [hs]; rfl, hE⟩ h
      | true => exact hunlock _

/-- What `getRemoteAddresses` of a socket does once it holds the lock. -/
theorem post_findAssociation {id : AssocID} {n : Nat} (hw : w.thread.lockLevel = n + 1) {o : SCTPSocket}
    (ho : w.shared.sockets s = some o) {Q : Option AssocPtr → World L → Prop} {H : Halt → World L → Prop}
    (hQ : Q (o.addressee id) w)
    (hH : ∀ p, o.addressee id = some p → w.shared.associations p = none →
      ∀ w' : World L, w'.thread.waits = w.thread.waits → H .undefinedBehaviour w') :
    Post (SCTPSocket.findAssociation E s id) w Q H := by
  unfold SCTPSocket.addressee at hQ hH
  unfold SCTPSocket.findAssociation
  rw [post_bind, post_getAssociationForAssociationID hw]
  simp only [ho]
  cases hp : o.associationList.find id with
  | none =>
    rw [hp] at hQ
    simp only [post_bind, post_socketAt, ho, post_pure]
    exact hQ
  | some p =>
    rw [hp] at hQ hH
    cases ha : w.shared.associations p with
    | none =>
      simp only [ha]
      exact hH p rfl ha _ rfl
    | some a =>
      simp only [ha, Bool.and_false, Bool.false_eq_true, if_false]
      exact hQ

theorem getRemoteAddresses_leaks {id : AssocID} {o : SCTPSocket} (ho : w.shared.sockets s = some o)
    (hp : o.addressee id = some p) (hlost : LosesAddresses E p w) :
    ¬Balanced (SCTPSocket.getRemoteAddresses E s id) w := by
  let v : World L := { w with thread := { w.thread with lockLevel := w.thread.lockLevel + 1 } }
  apply not_balanced
  unfold SCTPSocket.getRemoteAddresses locked
  rw [post_bind, post_lock, post_bind, post_bind]
  refine post_findAssociation (w := v) (n := w.thread.lockLevel) rfl ho ?_ ?_
  · rw [hp]
    refine (post_getRemoteAddresses_lost (w := v) hlost).imp fun r w' hw' => ?_
    rw [post_bind, post_unlock_held (n := w.thread.lockLevel) (by rw [hw'])]
    rfl
  · intro q hq hnone
    obtain rfl : p = q := Option.some.inj (hp.symm.trans hq)
    obtain ⟨a, ha, -⟩ := hlost
    exact nomatch ha.symm.trans hnone

theorem post_getRemoteAddresses_socket {id : AssocID}
    (h : ¬∃ o p, w.shared.sockets s = some o ∧ o.addressee id = some p ∧ LosesAddresses E p w) :
    Post (SCTPSocket.getRemoteAddresses E s id) w (fun _ w' => TidyStep w w') fun h w' => TidyHalt h w w' := by
  let v : World L := { w with thread := { w.thread with lockLevel := w.thread.lockLevel + 1 } }
  unfold SCTPSocket.getRemoteAddresses locked
  rw [post_bind, post_lock, post_bind, post_bind]
  cases ho : w.shared.sockets s with
  | none =>
    unfold SCTPSocket.findAssociation
    rw [post_bind, post_getAssociationForAssociationID (w := v) (n := w.thread.lockLevel) rfl]
    simp only [v, ho]
    exact ⟨Halt.noConfusion, rfl⟩
  | some o =>
    refine post_findAssociation (w := v) (n := w.thread.lockLevel) rfl ho ?_ fun _ _ _ w' hw' => ?_
    · cases hp : o.addressee id with
      | none =>
        exact (post_bind _).mpr (post_unlock rfl (fun _ _ => ⟨rfl, rfl⟩) ⟨Halt.noConfusion, rfl⟩)
      | some p =>
        have hv := post_getRemoteAddresses (w := v) fun hl => h ⟨o, p, ho, hp, hl⟩
        refine hv.mono (fun r w' hw' => ?_) fun _ _ h => h
        exact (post_bind _).mpr (post_unlock hw'.1 (fun _ _ => ⟨rfl, hw'.2⟩) ⟨Halt.noConfusion, hw'.2⟩)
    · exact ⟨Halt.noConfusion, hw'⟩

/-! ### `accept` -/

theorem accept_leaks {withAddresses wait : Bool} {o : SCTPSocket} (ho : w.shared.sockets s = some o)
    (hl : ¬o.flags.listening = true) : ¬Balanced (SCTPSocket.accept E s withAddresses wait) w := by
  apply not_balanced
  unfold SCTPSocket.accept SCTPSocket.acceptWith
  simp only [post_bind, post_lock, post_socketAt, ho, post_ite, hl, post_pure]
  trivial

theorem courteous_accept {withAddresses wait : Bool}
    (h : ∀ o, w.shared.sockets s = some o → o.flags.listening = true) :
    Courteous (SCTPSocket.accept E s withAddresses wait) w := by
  unfold Courteous SCTPSocket.accept SCTPSocket.acceptWith
  simp only [post_bind, post_lock, post_socketAt]
  cases ho : w.shared.sockets s with
  | none => exact ⟨Halt.noConfusion, 0, rfl⟩
  | some o =>
    simp only [h o ho, if_true]
    exact locks_acceptListening inferInstance _ w.thread.lockLevel rfl
/-! ## Every operation -/

theorem SCTPSocket.leaks {op : SocketOperation} (h : ¬(Operation.socket s op).Releases E w) :
    ¬Balanced (SCTPSocket.perform E s op) w := by
  cases op with
  | accept withAddresses wait =>
    obtain ⟨o, ho⟩ := not_forall.mp h
    obtain ⟨ho, hl⟩ := Classical.not_imp.mp ho
    exact fun hb => accept_leaks ho hl (balanced_discard.mp hb)
  | getRemoteAddresses assocID =>
    obtain ⟨o, p, ho, hp, hl⟩ := not_not.mp h
    exact fun hb => getRemoteAddresses_leaks ho hp hl (balanced_discard.mp hb)
  | getAssocIODefaults assocID =>
    have hret : ∀ p w, 0 < w.thread.lockLevel → (w.shared.associations p).isSome →
        Returns (SCTPAssociation.getAssocIODefaults E p) w := by
      intro p w hw hp
      refine returns_locked hw fun w' h => ?_
      exact (post_bind _).mpr ((returns_associationAt (h ▸ hp)).imp fun _ _ _ => trivial)
    exact fun hb => onFirstLocked_leaks hret (not_not.mp h) (balanced_discard.mp hb)
  | setAssocIODefaults assocID defaults =>
    have hret : ∀ p w, 0 < w.thread.lockLevel → (w.shared.associations p).isSome →
        Returns (SCTPAssociation.setAssocIODefaults E p defaults) w := by
      intro p w hw hp
      exact returns_locked hw fun w' h => returns_setAssociation (h ▸ hp)
    exact fun hb => onFirstLocked_leaks hret (not_not.mp h) (balanced_bind_pure.mp (balanced_discard.mp hb))
  | setDefaultStreamTimeouts assocID timeout start stop =>
    have hret := fun p w => @returns_setDefaultStreamTimeouts L E w p timeout start stop
    exact fun hb => onFirstLocked_leaks hret (not_not.mp h) (balanced_bind_pure.mp (balanced_discard.mp hb))
  | getDefaultStreamTimeout assocID streamID =>
    have hret := fun p w => @returns_getDefaultStreamTimeout L E w p streamID
    exact fun hb => onFirstLocked_leaks hret (not_not.mp h) (balanced_bind_pure.mp (balanced_discard.mp hb))
  | _ => exact absurd trivial h

/-- A send to all associations of a socket is the one that waits with the master locked. -/
def SocketOperation.SendsToAll : SocketOperation → Prop
  | .sendTo c => c.params.flags.sendToAll = true
  | _ => False

theorem SCTPSocket.courteous {op : SocketOperation} (h : (Operation.socket s op).Releases E w)
    (hall : ¬op.SendsToAll) : Courteous (SCTPSocket.perform E s op) w := by
  cases op with
  | accept withAddresses wait => exact courteous_discard.mpr (courteous_accept h)
  | getRemoteAddresses assocID => exact courteous_discard.mpr (.of_tidy (post_getRemoteAddresses_socket h))
  | getAssocIODefaults assocID => exact courteous_discard.mpr (onFirstLocked_undefined h)
  | setAssocIODefaults assocID defaults =>
    exact courteous_discard.mpr (courteous_bind_pure.mpr (onFirstLocked_undefined h))
  | setDefaultStreamTimeouts assocID timeout start stop =>
    exact courteous_discard.mpr (courteous_bind_pure.mpr (onFirstLocked_undefined h))
  | getDefaultStreamTimeout assocID streamID =>
    exact courteous_discard.mpr (courteous_bind_pure.mpr (onFirstLocked_undefined h))
  | sendTo c =>
    have := SCTPSocket.polite_sendTo (E := E) (s := s) (Bool.eq_false_iff.mpr hall)
    exact courteous_discard.mpr (.of_polite this)
  | _ => exact .of_polite (by unfold SCTPSocket.perform; infer_instance)

theorem balanced_sendTo {c : SendCall} : Balanced (SCTPSocket.sendTo E s c) w := by
  cases hall : c.params.flags.sendToAll with
  | false => exact (Courteous.of_polite (SCTPSocket.polite_sendTo hall)).balanced
  | true =>
    have hbody : Polite (do SCTPSocket.sendToAll E c (← socketAt s).connectionlessAssociationList) := inferInstance
    unfold Balanced SCTPSocket.sendTo locked
    simp only [hall, Bool.not_true, Bool.false_eq_true, if_false]
    rw [post_bind, post_bind, post_lock, post_bind]
    refine (hbody.post _).mono (fun _ w' h => ?_) fun _ _ h => h.1
    rw [post_bind]
    exact post_unlock h.1 (fun _ _ => rfl) Halt.noConfusion

theorem SCTPAssociation.courteous {op : AssociationOperation} (h : (Operation.association p op).Releases E w) :
    Courteous (SCTPAssociation.perform E p op) w := by
  cases op with
  | getRemoteAddresses => exact courteous_discard.mpr (.of_tidy (post_getRemoteAddresses h))
  | _ => exact .of_polite (by unfold SCTPAssociation.perform; infer_instance)

theorem SCTPAssociation.leaks {op : AssociationOperation} (h : ¬(Operation.association p op).Releases E w) :
    ¬Balanced (SCTPAssociation.perform E p op) w := by
  cases op with
  | getRemoteAddresses =>
    intro hb
    refine not_balanced ?_ (balanced_discard.mp hb)
    exact (post_getRemoteAddresses_lost (not_not.mp h)).imp fun _ w' hw' => by rw [hw']
  | _ => exact absurd trivial h

end

/-- Every return path of every public operation, in every state. -/
theorem lock_balance (E : Environment L) (w : World L) (op : Operation) :
    Balanced (op.run E) w ↔ op.Releases E w := by
  constructor
  · intro hb
    by_contra h
    cases op with
    | socket s op => exact SCTPSocket.leaks h hb
    | association p op => exact SCTPAssociation.leaks h hb
  · intro h
    cases op with
    | association p op => exact (SCTPAssociation.courteous h).balanced
    | socket s op =>
      by_cases hall : op.SendsToAll
      · cases op with
        | sendTo c => exact balanced_discard.mpr balanced_sendTo
        | _ => exact hall.elim
      · exact (SCTPSocket.courteous h hall).balanced

/-- `accept` of a socket that was just made, without `listen`. -/
theorem accept_keeps_lock : ∃ (s : SocketPtr) (w : World Sctplib.small),
    SCTPSocket.new .inet {} (.initial (SmallStack.mk 0 0 [] [] [])) = .ok s w ∧
    ¬Balanced (Operation.run {} (.socket s (.accept false true))) w :=
  ⟨_, _, rfl, not_balanced rfl⟩

end SocketApi
