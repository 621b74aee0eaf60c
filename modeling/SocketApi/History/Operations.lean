import SocketApi.Locking.Balance
import SocketApi.History.Calls
import SocketApi.Frame.Inside
import SocketApi.Frame.Establishing

/-!
# All operations go on

Every public operation and every callback, under the relation of `SocketApi.History.Steps`. A
request is put into the queue of a socket only with the association that has just been made for it.
-/

namespace SocketApi

open Effect SCTPSocketMaster SCTPSocket Sliding

set_option synthInstance.maxSize 2000

variable {L : Sctplib} {E : Environment L} {s₀ : Shared L} {k : SocketPtr} {p : AssocPtr}

/-! ## A request -/

/-- The state with one more association. -/
def Shared.added (s : Shared L) (a : SCTPAssociation) (conditions : ConditionRef → Condition) : Shared L :=
  { s with
    nextAssociation := s.nextAssociation + 1
    associations := Function.update s.associations s.nextAssociation (some a), conditions }

/-- A new association, and its request behind those of older ones. -/
theorem later_request {s : Shared L} {a : SCTPAssociation} {conditions : ConditionRef → Condition}
    {f : SCTPSocket → SCTPSocket} {r : IncomingConnection} (ha : a.Sound) (hr : r.association = s.nextAssociation)
    (hqueue : ∀ o : SCTPSocket, (f o).globalQueue = o.globalQueue)
    (hrequests : ∀ o : SCTPSocket, (f o).connectionRequests = o.connectionRequests ++ [r]) :
    s.Later ((s.added a conditions).setSocket k f) where
  nextAssociation := Nat.le_succ _
  nextSocket := le_rfl
  association := (later_newAssociation s ha conditions).association
  socket j o' ho' := by
    change Function.update s.sockets k ((s.sockets k).map f) j = some o' at ho'
    refine .inl ?_
    by_cases hj : j = k
    · subst hj
      rw [Function.update_self] at ho'
      obtain ⟨o, ho, rfl⟩ := Option.map_eq_some_iff.mp ho'
      refine ⟨o, ho, ?_, ?_, ?_⟩
      · rw [hqueue]
        exact .same _
      · rw [hrequests]
        exact .push _ r
      · rw [hrequests]
        exact fun h => h.push hr
    · rw [Function.update_of_ne hj] at ho'
      exact ⟨o', ho', .of_core rfl (Nat.le_succ _)⟩

theorem post_newAssociation_with {id : AssocID} {flags : NotificationFlags} {udpLike : Bool} {w : World L}
    {o : SCTPSocket} (hw : 0 < w.thread.lockLevel) (ho : w.shared.sockets k = some o) :
    Post (SCTPAssociation.new E k id flags udpLike) w (fun q w' => q = w.shared.nextAssociation ∧
      ∃ a conditions, a.Sound ∧ w' = w.with ((w.shared.added a conditions).setSocket k fun o =>
        { o with associationList := o.associationList.insert id q })) fun _ _ => False := by
  have hinsert (s : Shared L) (hs : s.sockets = w.shared.sockets) (p : AssocPtr) : Runs (locked E (setSocket k fun o =>
      { o with associationList := o.associationList.insert id p })) (w.with s) ()
        (w.with (s.setSocket k fun o => { o with associationList := o.associationList.insert id p })) :=
    runs_locked hw (runs_setSocket (w := (w.with s).up) (by rw [← ho, ← hs]; rfl) _)
  unfold SCTPAssociation.new
  rw [post_bind, post_shared]
  dsimp only
  rw [post_bind, post_update, post_bind]
  refine ((hinsert _ ?_ _).post).mpr ⟨rfl, ?_⟩
  · rfl
  · exact ⟨_, _, Bool.noConfusion, rfl⟩

theorem added_changed {s : Shared L} {a : SCTPAssociation} (conditions : ConditionRef → Condition)
    (f h : SCTPSocket → SCTPSocket) (g : SCTPAssociation → SCTPAssociation) :
    (((s.added a conditions).setSocket k f).setAssociation s.nextAssociation g).setSocket k h =
      (s.added (g a) conditions).setSocket k (h ∘ f) := by
  simp [Shared.added, Shared.setSocket, Shared.setAssociation, Function.update_idem]

instance [Rely E (GoesOn s₀)] {assocID : AssocID} {n : SCTPNotification} :
    UnderLock (GoesOn s₀) AnyHalt (incoming E k assocID n) := by
  refine ⟨fun w => ?_⟩
  by_cases hw : 0 < w.thread.lockLevel
  swap
  · exact post_true.mono (fun _ _ _ h => absurd h hw) fun _ _ _ h => absurd h hw
  unfold incoming
  rw [post_bind, post_socketAt]
  cases ho : w.shared.sockets k with
  | none => exact stops_undefined w
  | some o =>
    dsimp only
    split
    · exact within_later (.refl _) le_rfl
    · rw [post_bind]
      refine (post_newAssociation_with hw ho).mono (fun q w₁ ⟨hq, a, conditions, ha, hw₁⟩ => ?_) fun _ _ h => h.elim
      subst hq hw₁
      let up : SCTPAssociation → SCTPAssociation := fun a => { a with communicationUpNotification := true }
      let insert : SCTPSocket → SCTPSocket := fun o =>
        { o with associationList := o.associationList.insert assocID w.shared.nextAssociation }
      let s₁ := ((w.shared.added a conditions).setSocket k insert).setAssociation w.shared.nextAssociation up
      have hnew : ((w.shared.added a conditions).setSocket k insert).associations w.shared.nextAssociation = some a :=
        Function.update_self ..
      have hsocket : s₁.sockets k = some (insert o) := setSocket_sockets (s := w.shared.added a conditions) ho insert
      have hadded : w.shared.Later (w.shared.added a conditions) := later_newAssociation w.shared ha conditions
      have hinsert : (w.shared.added a conditions).Later ((w.shared.added a conditions).setSocket k insert) :=
        .setSocket fun _ _ => ⟨.same _, .same _, id⟩
      have hup : ((w.shared.added a conditions).setSocket k insert).Later s₁ :=
        .setAssociation fun _ _ => ⟨rfl, .inl rfl, fun _ => rfl, id, id, id, id, .same _, .same _⟩
      have hend : UnderLock (GoesOn s₀) AnyHalt (do
          setAssociation w.shared.nextAssociation fun a => { a with writeReady := true, hasException := false }
          return some w.shared.nextAssociation : Act L (Option AssocPtr)) := inferInstance
      rw [post_bind]
      refine (runs_setAssociation (w := w.with ((w.shared.added a conditions).setSocket k insert)) hnew up).post.mpr ?_
      split
      · have hrest : UnderLock (GoesOn s₀) AnyHalt (do
            broadcast (.socket k .establish)
            setAssociation w.shared.nextAssociation fun a => { a with writeReady := true, hasException := false }
            return some w.shared.nextAssociation : Act L (Option AssocPtr)) := inferInstance
        rw [post_bind]
        refine (runs_setSocket (w := w.with s₁) hsocket _).post.mpr ?_
        refine hrest.after (within_later ?_ le_rfl)
        have hrequest := added_changed (k := k) (s := w.shared) (a := a) conditions insert (fun o => { o with
          connectionRequests := o.connectionRequests ++ [{ association := w.shared.nextAssociation, notification := n }]
          readReady := true }) up
        rw [World.with_with, World.with_shared]
        refine hrequest ▸ later_request (r := ⟨w.shared.nextAssociation, n⟩) ha rfl (fun _ => rfl) fun _ => rfl
      · exact hend.after (within_later (hadded.trans (hinsert.trans hup)) le_rfl)

/-! ## Binding and unbinding -/

section

variable [Rely E (GoesOn s₀)]

instance {sendAbort : Bool} {rest : Act L Unit} [UnderLock (GoesOn s₀) AnyHalt rest] :
    UnderLock (GoesOn s₀) AnyHalt (unbindConnectionless E k sendAbort rest) := by
  unfold unbindConnectionless
  refine .seq fun o => ?_
  cases o.connectionlessAssociationList <;> infer_instance

instance {sendAbort : Bool} {rest : Act L Unit} [UnderLock (GoesOn s₀) AnyHalt rest] :
    UnderLock (GoesOn s₀) AnyHalt (unbindAssociations E k sendAbort rest) := by
  unfold unbindAssociations
  refine .seq fun o => ?_
  cases o.associationList <;> infer_instance

instance {rest : Act L Unit} [UnderLock (GoesOn s₀) AnyHalt rest] :
    UnderLock (GoesOn s₀) AnyHalt (unbindRequests E k rest) := by
  refine ⟨fun w => ?_⟩
  unfold unbindRequests
  rw [post_bind, post_socketAt]
  cases ho : w.shared.sockets k with
  | none => exact stops_undefined w
  | some o =>
    dsimp only
    cases hr : o.connectionRequests with
    | nil => exact within_later (.refl _) le_rfl
    | cons r requests => exact stays_takeFirst ho hr inferInstance

instance {sendAbort : Bool} : Anywhere (GoesOn s₀) AnyHalt (unbind E k sendAbort) := by
  have hconnectionless (n : Nat) :
      UnderLock (GoesOn s₀) AnyHalt (loop .waiting (unbindConnectionless E k sendAbort) n) :=
    .loop (fun _ _ => inferInstance) n
  have hassociations (n : Nat) : UnderLock (GoesOn s₀) AnyHalt (loop .waiting (unbindAssociations E k sendAbort) n) :=
    .loop (fun _ _ => inferInstance) n
  have hrequests (n : Nat) : UnderLock (GoesOn s₀) AnyHalt (loop .waiting (unbindRequests E k) n) :=
    .loop (fun _ _ => inferInstance) n
  have hinstance : UnderLock (L := L) (GoesOn s₀) AnyHalt (unbindInstance k) := by
    unfold unbindInstance SCTPSocketMaster.delayedDeleteSocket
    refine .seq fun o => .seq fun w => ?_
    cases w.socketList.find o.instanceName <;> infer_instance
  unfold unbind unbindLocked
  infer_instance

instance : Anywhere (GoesOn s₀) AnyHalt (SCTPSocket.delete E k) := by
  unfold SCTPSocket.delete
  infer_instance

instance {port ins outs : Nat} {addresses : List SocketAddress} :
    Anywhere (GoesOn s₀) AnyHalt (SCTPSocket.bind E k port ins outs addresses) := by
  have hrandom (hosts : List String) (n i : Nat) :
      UnderLock (GoesOn s₀) AnyHalt (registerRandomPort E k ins outs hosts n i) := by
    induction n generalizing i with
    | zero => unfold registerRandomPort; infer_instance
    | succ n ih => unfold registerRandomPort; infer_instance
  have hport (hosts : List String) : UnderLock (GoesOn s₀) AnyHalt (registerPort E k port ins outs hosts) := by
    unfold registerPort
    infer_instance
  have hlocked : UnderLock (GoesOn s₀) AnyHalt (bindLocked E k port ins outs addresses) := by
    unfold bindLocked
    dsimp only
    split
    · infer_instance
    · split
      · infer_instance
      · split <;> infer_instance
  unfold SCTPSocket.bind
  infer_instance

/-! ## Peeling off -/

instance {id : AssocID} : Anywhere (GoesOn s₀) AnyHalt (peelOff E k id) := by
  unfold peelOff hold
  refine Guarded.locked (.seq fun o => ?_)
  cases o.connectionlessAssociationList.find id <;> infer_instance

instance {a : SocketAddress} {list : Multimap AssocID AssocPtr} :
    UnderLock (GoesOn s₀) AnyHalt (peelOffSearch a list : Act L _) := by
  induction list with
  | nil => unfold peelOffSearch; infer_instance
  | cons e list ih =>
    unfold peelOffSearch
    refine .seq fun o => .seq fun w => ?_
    cases L.getAssocStatus w.stack o.associationID <;> infer_instance

instance {a : SocketAddress} : Anywhere (GoesOn s₀) AnyHalt (peelOffAddress E k a) := by
  unfold peelOffAddress hold
  refine Guarded.locked (.seq fun o => .seq fun found => ?_)
  cases found <;> infer_instance

/-! ## Other operations -/

instance {α : Type} {f : AssocPtr → Act L α} [∀ q, Anywhere (GoesOn s₀) AnyHalt (f q)] :
    Anywhere (GoesOn s₀) AnyHalt (onFirstLocked k f) := by
  have hsocket : Anywhere (L := L) (GoesOn s₀) AnyHalt (socketAt k) := inferInstance
  have hassociation (q : AssocPtr) : Anywhere (L := L) (GoesOn s₀) AnyHalt (discard (associationAt q)) := inferInstance
  have hf (q : AssocPtr) : Anywhere (GoesOn s₀) AnyHalt (f q) := inferInstance
  refine Moves.keeps (.bind .lock fun _ => .bind (.anywhere hsocket) fun o => ?_)
  cases o.connectionlessAssociationList with
  | nil => exact .pure (Nat.zero_le _)
  | cons e _ => exact .bind (.anywhere (hassociation _)) fun _ => .bind (.anywhere (hf _)) fun _ => .pure (Nat.zero_le _)

/-- It returns with the master locked if there is no memory for the addresses. -/
instance : Anywhere (GoesOn s₀) AnyHalt (SCTPAssociation.getRemoteAddresses E p) := by
  have hassociation : Anywhere (L := L) (GoesOn s₀) AnyHalt (associationAt p) := inferInstance
  have hshared : Anywhere (L := L) (GoesOn s₀) AnyHalt shared := inferInstance
  refine Moves.keeps (.bind .lock fun _ => .bind (.anywhere hassociation) fun a => .bind (.anywhere hshared) fun s => ?_)
  dsimp only
  cases L.getAssocStatus s.stack a.associationID with
  | none => exact .bind (.unlock (a := 0)) fun _ => .pure le_rfl
  | some status => exact .ite (.pure (Nat.zero_le _)) (.bind (.unlock (a := 0)) fun _ => .pure le_rfl)

instance {timeout start stop : Nat} :
    Anywhere (GoesOn s₀) AnyHalt (SCTPAssociation.setDefaultStreamTimeouts E p timeout start stop) := by
  unfold SCTPAssociation.setDefaultStreamTimeouts
  infer_instance

instance {flags : NotificationFlags} : Anywhere (GoesOn s₀) AnyHalt (SCTPSocket.setNotificationFlags k flags : Act L _) := by
  unfold SCTPSocket.setNotificationFlags
  infer_instance

instance {timeout : Nat} : Anywhere (GoesOn s₀) AnyHalt (SCTPSocket.setAutoClose k timeout : Act L _) := by
  unfold SCTPSocket.setAutoClose
  infer_instance

instance {flags : NotificationFlags} :
    Anywhere (GoesOn s₀) AnyHalt (SCTPAssociation.setNotificationFlags p flags : Act L _) := by
  unfold SCTPAssociation.setNotificationFlags
  infer_instance

instance {id : AssocID} : Anywhere (GoesOn s₀) AnyHalt (SCTPSocket.getRemoteAddresses E k id) := by
  have hfind : UnderLock (GoesOn s₀) AnyHalt (findAssociation E k id) := by
    unfold findAssociation
    refine .seq fun found => ?_
    cases found <;> infer_instance
  unfold SCTPSocket.getRemoteAddresses
  refine Guarded.locked (.seq fun found => ?_)
  cases found <;> infer_instance

instance {op : SocketOperation} : Anywhere (GoesOn s₀) AnyHalt (SCTPSocket.perform E k op) := by
  cases op with
  | getAssocIODefaults id => unfold SCTPSocket.perform SCTPSocket.getAssocIODefaults; infer_instance
  | setAssocIODefaults id defaults => unfold SCTPSocket.perform SCTPSocket.setAssocIODefaults; infer_instance
  | setDefaultStreamTimeouts id timeout start stop =>
    unfold SCTPSocket.perform SCTPSocket.setDefaultStreamTimeouts
    infer_instance
  | getDefaultStreamTimeout id streamID => unfold SCTPSocket.perform SCTPSocket.getDefaultStreamTimeout; infer_instance
  | receive io => exact inferInstanceAs (Anywhere (GoesOn s₀) AnyHalt (discard (SCTPSocket.receiveFrom E k io false)))
  | _ => unfold SCTPSocket.perform; infer_instance

instance {op : AssociationOperation} : Anywhere (GoesOn s₀) AnyHalt (SCTPAssociation.perform E p op) := by
  cases op with
  | receive io => exact inferInstanceAs (Anywhere (GoesOn s₀) AnyHalt (discard (SCTPAssociation.receiveFrom E p io false)))
  | send buffer params useDefaults =>
    exact inferInstanceAs (Anywhere (GoesOn s₀) AnyHalt
      (discard (SCTPAssociation.sendTo E p buffer params useDefaults none)))
  | _ => unfold SCTPAssociation.perform; infer_instance

end

end SocketApi
