import SocketApi.Messages
import SocketApi.Lib.Keeps

/-!
# The master's lock

What every function does to the calling thread's nesting level and where it waits. A `Tidy`
program leaves the level as it was and executes no wait; a `Polite` one waits only at the
level it was entered with.
-/

namespace SocketApi

open Effect

set_option synthInstance.maxSize 2000


variable {L : Sctplib} {E : Environment L} {α β : Type}

/-! ## Programs that leave the level as it was -/

def TidyStep (w w' : World L) : Prop :=
  w'.thread.lockLevel = w.thread.lockLevel ∧ w'.thread.waits = w.thread.waits

def TidyHalt (h : Halt) (w w' : World L) : Prop :=
  h ≠ .abort .unlockAtZero ∧ w'.thread.waits = w.thread.waits

/-- All waits from `w` to `w'` were executed at the level of `w`. -/
def WaitsAt (w w' : World L) : Prop :=
  ∃ n, w'.thread.waits = List.replicate n w.thread.lockLevel ++ w.thread.waits

def PoliteStep (w w' : World L) : Prop := w'.thread.lockLevel = w.thread.lockLevel ∧ WaitsAt w w'

def PoliteHalt (h : Halt) (w w' : World L) : Prop := h ≠ .abort .unlockAtZero ∧ WaitsAt w w'

abbrev Tidy (x : Act L α) : Prop := Keeps TidyStep TidyHalt x

abbrev Polite (x : Act L α) : Prop := Keeps PoliteStep PoliteHalt x

instance : Steps (TidyStep (L := L)) TidyHalt where
  refl _ := ⟨rfl, rfl⟩
  trans h h' := ⟨h'.1.trans h.1, h'.2.trans h.2⟩
  absorb h h' := ⟨h'.1, h'.2.trans h.2⟩

theorem WaitsAt.trans {w w' w'' : World L} (hl : w'.thread.lockLevel = w.thread.lockLevel)
    (h : WaitsAt w w') (h' : WaitsAt w' w'') : WaitsAt w w'' := by
  obtain ⟨n, hn⟩ := h
  obtain ⟨m, hm⟩ := h'
  refine ⟨m + n, ?_⟩
  rw [hm, hn, hl, List.replicate_add, List.append_assoc]

instance : Steps (PoliteStep (L := L)) PoliteHalt where
  refl _ := ⟨rfl, 0, rfl⟩
  trans h h' := ⟨h'.1.trans h.1, h.2.trans h.1 h'.2⟩
  absorb h h' := ⟨h'.1, h.2.trans h.1 h'.2⟩

instance (priority := low) Polite.of_tidy {x : Act L α} [h : Tidy x] : Polite x :=
  h.mono (fun _ _ h => ⟨h.1, 0, h.2⟩) fun _ _ _ h => ⟨h.1, 0, h.2⟩

/-! ## Accessors -/

instance : Tidy (shared (L := L)) where
  post _ := ⟨rfl, rfl⟩

instance {f : Shared L → Shared L} : Tidy (update f) where
  post _ := ⟨rfl, rfl⟩

instance {call : L.State → α × L.State} : Tidy (library call) where
  post _ := ⟨rfl, rfl⟩

theorem tidy_abort {e : AbortSite} (h : e ≠ .unlockAtZero) : Tidy (throw (.abort e) : Act L α) where
  post _ := ⟨fun he => h (Halt.abort.inj he), rfl⟩

instance : Tidy (throw .undefinedBehaviour : Act L α) where
  post _ := ⟨Halt.noConfusion, rfl⟩

instance : Tidy (throw .waiting : Act L α) where
  post _ := ⟨Halt.noConfusion, rfl⟩

instance {p : AssocPtr} : Tidy (associationAt p : Act L _) := by
  unfold associationAt
  refine .seq fun w => ?_
  cases w.associations p <;> infer_instance

instance {s : SocketPtr} : Tidy (socketAt s : Act L _) := by
  unfold socketAt
  refine .seq fun w => ?_
  cases w.sockets s <;> infer_instance

instance {p : AssocPtr} {f : SCTPAssociation → SCTPAssociation} : Tidy (setAssociation p f : Act L _) := by
  unfold setAssociation; infer_instance

instance {s : SocketPtr} {f : SCTPSocket → SCTPSocket} : Tidy (setSocket s f : Act L _) := by
  unfold setSocket; infer_instance

instance {c : ConditionRef} : Tidy (broadcast c : Act L _) := by
  unfold broadcast; infer_instance

instance {c : ConditionRef} : Tidy (fired c : Act L _) := by
  unfold fired; infer_instance

instance {p : AssocPtr} : Tidy (enter p : Act L _) := by unfold enter; infer_instance
instance {p : AssocPtr} : Tidy (leave p : Act L _) := by unfold leave; infer_instance
instance {p : AssocPtr} : Tidy (hold p : Act L _) := by unfold hold; infer_instance
instance {p : AssocPtr} : Tidy (release p : Act L _) := by unfold release; infer_instance

/-! ## Locking -/

/-- The rule of `unlock` for a thread that holds the lock, forgetting what other threads do. -/
theorem post_unlock {w : World L} {Q : Unit → World L → Prop} {H : Halt → World L → Prop} {n : Nat}
    (hn : w.thread.lockLevel = n + 1)
    (hQ : ∀ turns s, Q () { thread := { w.thread with lockLevel := n, turns }, shared := s })
    (hH : H .suspended { w with thread := { w.thread with lockLevel := n } }) : Post (unlock E) w Q H := by
  unfold unlock
  simp only [post_bind, post_get, hn, Nat.succ_ne_zero, if_false, post_pure, post_modify, post_ite,
    Nat.add_sub_cancel, Nat.add_eq_right]
  split
  · unfold yield
    simp only [post_bind, post_get]
    cases E.interfere w.thread.turns w.shared with
    | none => exact hH
    | some s => exact hQ _ _
  · exact hQ _ _

/-- The rule of an inner `unlock`, which lets nobody run. -/
theorem post_unlock_held {w : World L} {Q : Unit → World L → Prop} {H : Halt → World L → Prop} {n : Nat}
    (hn : w.thread.lockLevel = n + 2) :
    Post (unlock E) w Q H ↔ Q () { w with thread := { w.thread with lockLevel := n + 1 } } := by
  have h1 : n + 2 ≠ 1 := by omega
  unfold unlock
  simp only [post_bind, post_get, hn, Nat.succ_ne_zero, h1, if_false, post_pure, post_modify, post_ite,
    Nat.reduceSubDiff]

/-- Inside a locked section the level is positive. -/
theorem tidy_section {body : Act L α}
    (h : ∀ w, 0 < w.thread.lockLevel → Post body w (fun _ w' => TidyStep w w') fun e w' => TidyHalt e w w') :
    Tidy (locked E body) where
  post w := by
    unfold locked
    simp only [post_bind, post_lock]
    refine (h _ (Nat.succ_pos _)).mono (fun a w' h' => ?_) fun _ _ h' => h'
    refine post_unlock h'.1 (fun turns s => ⟨rfl, h'.2⟩) ⟨Halt.noConfusion, h'.2⟩

theorem tidy_locked {body : Act L α} (h : Tidy body) : Tidy (locked E body) := tidy_section fun w _ => h.post w

instance {body : Act L α} [h : Tidy body] : Tidy (locked E body) := tidy_locked h

/-! ## Programs that change the level -/

/-- From level `n + i` to level `n + j a`, with all waits at level `n`. -/
def Locks (i : Nat) (x : Act L α) (j : α → Nat) : Prop :=
  ∀ w n, w.thread.lockLevel = n + i → Post x w
    (fun a w' => w'.thread.lockLevel = n + j a ∧ ∃ k, w'.thread.waits = List.replicate k n ++ w.thread.waits)
    (fun h w' => h ≠ .abort .unlockAtZero ∧ ∃ k, w'.thread.waits = List.replicate k n ++ w.thread.waits)

namespace Locks

variable {i : Nat} {j : α → Nat} {x : Act L α}

theorem of_tidy (h : Tidy x) : Locks i x fun _ => i := fun w _ hw =>
  (h.post w).mono (fun _ _ h => ⟨h.1.trans hw, 0, h.2⟩) fun _ _ h => ⟨h.1, 0, h.2⟩

theorem of_polite (h : Polite x) : Locks 0 x fun _ => 0 := by
  rintro w n (rfl : _ = n)
  exact h.post w

theorem polite (h : Locks 0 x fun _ => 0) : Polite x where
  post w := h w _ rfl

theorem bind {f : α → Act L β} {k : β → Nat} (hx : Locks i x j) (hf : ∀ a, Locks (j a) (f a) k) :
    Locks i (x >>= f) k := by
  intro w n hw
  refine (hx w n hw).bind ?_
  rintro a w' ⟨hw', m, hm⟩
  refine (hf a w' n hw').mono ?_ ?_
  · rintro b w'' ⟨hw'', m', hm'⟩
    exact ⟨hw'', m' + m, by rw [hm', hm, List.replicate_add, List.append_assoc]⟩
  · rintro e w'' ⟨he, m', hm'⟩
    exact ⟨he, m' + m, by rw [hm', hm, List.replicate_add, List.append_assoc]⟩

theorem pure (a : α) (h : j a = i) : Locks i (Pure.pure a : Act L α) j := fun _ _ hw => ⟨by rw [h, hw], 0, rfl⟩

theorem ite {c : Prop} [Decidable c] {y : Act L α} (hx : Locks i x j) (hy : Locks i y j) :
    Locks i (if c then x else y) j := by
  split
  · exact hx
  · exact hy

theorem lock : Locks (L := L) i SocketApi.lock fun _ => i + 1 := fun _ _ hw =>
  ⟨congrArg (· + 1) hw, 0, rfl⟩

theorem unlock : Locks (i + 1) (SocketApi.unlock E) fun _ => i := fun _ n hw =>
  post_unlock (hw.trans (Nat.add_assoc n i 1).symm) (fun _ _ => ⟨rfl, 0, rfl⟩) ⟨Halt.noConfusion, 0, rfl⟩

theorem loop {body : Act L α → Act L α} (h : ∀ rest, Locks i rest j → Locks i (body rest) j) (n : Nat) :
    Locks i (Effect.loop .waiting body n) j := by
  induction n with
  | zero => exact h _ fun _ _ _ => ⟨Halt.noConfusion, 0, rfl⟩
  | succ n ih => exact h _ ih

end Locks

/-! ## Lookup and queueing -/

instance {s : SocketPtr} {id : AssocID} {b : Bool} : Tidy (SCTPSocket.getAssociationForAssociationID E s id b) := by
  unfold SCTPSocket.getAssociationForAssociationID
  refine tidy_locked (.seq fun o => ?_)
  cases o.associationList.find id <;> infer_instance

instance {id : AssocID} : Tidy (SCTPSocketMaster.getSocketForAssociationID id : Act L _) := by
  unfold SCTPSocketMaster.getSocketForAssociationID
  refine .seq fun w => ?_
  cases L.getInstanceID w.stack id <;> infer_instance

instance {s : SocketPtr} : Tidy (SCTPSocket.hasData E s) := by unfold SCTPSocket.hasData; infer_instance
instance {p : AssocPtr} : Tidy (SCTPAssociation.hasData E p) := by unfold SCTPAssociation.hasData; infer_instance

instance {s : SocketPtr} {id : AssocID} : Tidy (SCTPSocket.getErrorCode E s id) := by
  unfold SCTPSocket.getErrorCode
  refine .seq fun association => ?_
  cases association <;> infer_instance

instance {s : SocketPtr} : Tidy (SCTPSocket.getAssocDefaults E s) := by
  unfold SCTPSocket.getAssocDefaults; infer_instance

instance {s : SocketPtr} {d : InstanceParameters} : Tidy (SCTPSocket.setAssocDefaults E s d) := by
  unfold SCTPSocket.setAssocDefaults; infer_instance

instance {id : AssocID} : Tidy (SCTPSocket.getAssocStatus E id) := by
  unfold SCTPSocket.getAssocStatus; infer_instance

instance {id : AssocID} {status : AssociationStatus} : Tidy (SCTPSocket.setAssocStatus E id status) := by
  unfold SCTPSocket.setAssocStatus; infer_instance

instance {id : AssocID} : Tidy (SCTPSocketMaster.initNotification id : Act L _) := by
  unfold SCTPSocketMaster.initNotification
  refine .seq fun w => ?_
  dsimp only
  cases L.getAssocStatus w.stack id <;> infer_instance

instance {s : SocketPtr} {id : AssocID} {n : SCTPNotification} :
    Tidy (SCTPSocketMaster.addNotification E s id n) := by
  unfold SCTPSocketMaster.addNotification
  refine .seq fun association => ?_
  cases association <;> dsimp only <;> infer_instance

/-! ## Closing -/

instance {i : InstanceID} {id : AssocID} : Tidy (SCTPSocketMaster.delayedDeleteAssociation i id : Act L _) := by
  unfold SCTPSocketMaster.delayedDeleteAssociation; infer_instance

instance {i : InstanceID} : Tidy (SCTPSocketMaster.delayedDeleteSocket i : Act L _) := by
  unfold SCTPSocketMaster.delayedDeleteSocket; infer_instance

instance {s : SocketPtr} {id : AssocID} {flags : NotificationFlags} {udpLike : Bool} :
    Tidy (SCTPAssociation.new E s id flags udpLike) := by
  unfold SCTPAssociation.new; dsimp only; infer_instance

section

variable {deliver : Deliver L} [∀ t id, Tidy (deliver t id)]

instance {id : AssocID} : Tidy (sctp_shutdown deliver id) := by
  unfold sctp_shutdown
  refine .seq fun notif => ?_
  cases notif <;> infer_instance

instance {id : AssocID} : Tidy (sctp_abort deliver id) := by
  unfold sctp_abort
  refine .seq fun notif => ?_
  cases notif <;> infer_instance

instance {p : AssocPtr} : Tidy (SCTPAssociation.shutdown E deliver p) := by
  unfold SCTPAssociation.shutdown; infer_instance

instance {p : AssocPtr} : Tidy (SCTPAssociation.abort E deliver p) := by
  unfold SCTPAssociation.abort; infer_instance

instance {p : AssocPtr} {a : SCTPAssociation} : Tidy (SCTPAssociation.destructorShutdown E deliver p a) := by
  have : Tidy (throw (.abort .destructorDeleteAssociation) : Act L PUnit) := tidy_abort nofun
  unfold SCTPAssociation.destructorShutdown; infer_instance

instance {a : SCTPAssociation} : Tidy (SCTPAssociation.destructorUnlist a : Act L _) := by
  have : Tidy (throw (.abort .destructorAssociationList) : Act L Unit) := tidy_abort nofun
  unfold SCTPAssociation.destructorUnlist
  refine .seq fun o => ?_
  cases o.associationList.find a.associationID <;> infer_instance

instance {p : AssocPtr} : Tidy (SCTPAssociation.destructor E deliver p) := by
  have : Tidy (throw (.abort .destructorCalledTwice) : Act L PUnit) := tidy_abort nofun
  unfold SCTPAssociation.destructor; dsimp only; infer_instance

instance {p : AssocPtr} : Tidy (SCTPAssociation.delete E deliver p) := by
  unfold SCTPAssociation.delete; infer_instance

instance {s : SocketPtr} {p : AssocPtr} : Tidy (SCTPSocket.reclaim E deliver s p) := by
  unfold SCTPSocket.reclaim; infer_instance

instance {s : SocketPtr} {now n : Nat} {iterator : Option AssocPtr} :
    Tidy (SCTPSocket.autoCloseSweep E deliver s now n iterator) := by
  induction n generalizing iterator with
  | zero => cases iterator <;> unfold SCTPSocket.autoCloseSweep <;> infer_instance
  | succ n ih =>
    cases iterator with
    | none => unfold SCTPSocket.autoCloseSweep; infer_instance
    | some p => unfold SCTPSocket.autoCloseSweep; dsimp only; infer_instance

instance {s : SocketPtr} {rest : Act L Unit} [Tidy rest] : Tidy (SCTPSocket.autoClosePass E deliver s rest) := by
  unfold SCTPSocket.autoClosePass; dsimp only; infer_instance

instance {s : SocketPtr} : Tidy (SCTPSocket.checkAutoClose E deliver s) := by
  have : Tidy (loop .waiting (SCTPSocket.autoClosePass E deliver s) E.patience) :=
    .loop (fun rest _ => inferInstance) _
  unfold SCTPSocket.checkAutoClose; infer_instance

instance {list : List SocketPtr} : Tidy (SCTPSocketMaster.checkAutoCloseAll E deliver list) := by
  induction list with
  | nil => unfold SCTPSocketMaster.checkAutoCloseAll; infer_instance
  | cons s rest ih => unfold SCTPSocketMaster.checkAutoCloseAll; infer_instance

instance {list : List InstanceID} : Tidy (SCTPSocketMaster.unregisterUnused list : Act L _) := by
  have : Tidy (throw (.abort .unregisterInstance) : Act L PUnit) := tidy_abort nofun
  induction list with
  | nil => unfold SCTPSocketMaster.unregisterUnused; infer_instance
  | cons i rest ih => unfold SCTPSocketMaster.unregisterUnused; dsimp only; infer_instance

instance : Tidy (SCTPSocketMaster.socketGarbageCollection E deliver) := by
  unfold SCTPSocketMaster.socketGarbageCollection; infer_instance

instance {id : AssocID} {sendAbort : Bool} :
    Tidy (SCTPSocketMaster.associationGarbageCollection E deliver id sendAbort) := by
  have : Tidy (throw (.abort .garbageDeleteAssociation) : Act L PUnit) := tidy_abort nofun
  unfold SCTPSocketMaster.associationGarbageCollection
  refine .seq fun w => ?_
  cases w.closingAssociations.find id <;> dsimp only <;> infer_instance

end

/-! ## Waiting and accepting -/

instance {c : ConditionRef} : Polite (timedWait E c) where
  post w := by
    unfold timedWait
    simp only [post_bind, post_get, post_modify, post_ite]
    split
    · unfold yield
      simp only [post_bind, post_get]
      cases E.interfere w.thread.turns w.shared with
      | none => exact ⟨Halt.noConfusion, 1, rfl⟩
      | some s =>
        simp only [post_set, post_shared]
        split
        · exact ((inferInstance : Tidy (fired c)).post _).mono (fun _ _ h => ⟨h.1, 1, h.2⟩)
            fun _ _ h => ⟨h.1, 1, h.2⟩
        · exact ⟨rfl, 1, rfl⟩
    · simp only [post_pure, post_shared]
      split
      · exact ((inferInstance : Tidy (fired c)).post _).mono (fun _ _ h => ⟨h.1, 1, h.2⟩)
          fun _ _ h => ⟨h.1, 1, h.2⟩
      · exact ⟨rfl, 1, rfl⟩

instance {c : ConditionRef} {maintain : Act L Unit} [Polite maintain] : Polite (waitFor E c maintain) := by
  unfold waitFor
  exact .loop (fun rest _ => inferInstance) _

instance {s : SocketPtr} {backlog : Nat} : Tidy (SCTPSocket.listen E s backlog) := by
  unfold SCTPSocket.listen; infer_instance

instance {port : Nat} {hosts : List String} : Tidy (SCTPSocket.requestAddresses E port hosts) := by
  induction hosts with
  | nil => unfold SCTPSocket.requestAddresses; infer_instance
  | cons host rest ih =>
    unfold SCTPSocket.requestAddresses
    cases createSocketAddress E host port <;> infer_instance

theorem locks_awaitRequest {s : SocketPtr} {maintain : Act L Unit} {wait : Bool} (h : Polite maintain) :
    Locks 1 (SCTPSocket.awaitRequest E s maintain wait) fun found => if found then 1 else 0 := by
  unfold SCTPSocket.awaitRequest
  refine .loop (fun rest hrest => ?_) _
  refine .bind (.of_tidy inferInstance) fun o => ?_
  refine .ite (.pure _ rfl) (.bind .unlock fun _ => .ite (.pure _ rfl) ?_)
  exact .bind (.of_polite inferInstance) fun _ => .bind .lock fun _ => hrest

instance {s : SocketPtr} {withAddresses : Bool} : Tidy (SCTPSocket.takeRequest E s withAddresses) := by
  unfold SCTPSocket.takeRequest
  refine .seq fun o => ?_
  cases o.connectionRequests <;> dsimp only <;> infer_instance

theorem locks_acceptListening {s : SocketPtr} {maintain : Act L Unit} {withAddresses wait : Bool}
    (h : Polite maintain) : Locks 1 (SCTPSocket.acceptListening E maintain s withAddresses wait) fun _ => 0 := by
  unfold SCTPSocket.acceptListening
  refine .bind (locks_awaitRequest h) fun found => ?_
  cases found
  · exact .pure _ rfl
  · exact .bind (.of_tidy inferInstance) fun result => .bind .unlock fun _ => .pure _ rfl

/-! ## Accepting without waiting -/

/-- A `Tidy` step of a thread that may hold the lock; if it does, the flags of `s` stay. -/
def SteadyStep (s : SocketPtr) (w w' : World L) : Prop :=
  TidyStep w w' ∧ (0 < w.thread.lockLevel →
    (w'.shared.sockets s).map (·.flags) = (w.shared.sockets s).map (·.flags))

abbrev Steady (s : SocketPtr) (x : Act L α) : Prop := Keeps (SteadyStep s) TidyHalt x

section

variable {s : SocketPtr}

instance : Steps (SteadyStep (L := L) s) TidyHalt where
  refl _ := ⟨⟨rfl, rfl⟩, fun _ => rfl⟩
  trans h h' := ⟨Steps.trans TidyHalt h.1 h'.1, fun hl => (h'.2 (h.1.1.symm ▸ hl)).trans (h.2 hl)⟩
  absorb h h' := Steps.absorb h.1 h'

theorem steady_of_shared {x : Act L α} (h : Tidy x)
    (hs : ∀ w, Post x w (fun _ w' => w'.shared = w.shared) fun _ _ => True) : Steady s x where
  post w := ((h.post w).and (hs w)).mono (fun _ _ h => ⟨h.1, fun _ => by rw [h.2]⟩) fun _ _ h => h.1

instance : Steady s (shared (L := L)) := steady_of_shared inferInstance fun _ => rfl

instance {t : SocketPtr} : Steady s (socketAt t : Act L _) := by
  refine steady_of_shared inferInstance fun w => post_socketAt.mpr ?_
  split <;> trivial

instance {p : AssocPtr} : Steady s (associationAt p : Act L _) := by
  refine steady_of_shared inferInstance fun w => post_associationAt.mpr ?_
  split <;> trivial

instance {p : AssocPtr} : Steady s (hold p : Act L _) where
  post _ := ⟨⟨rfl, rfl⟩, fun _ => rfl⟩

instance {p : AssocPtr} : Steady s (release p : Act L _) where
  post _ := ⟨⟨rfl, rfl⟩, fun _ => rfl⟩

theorem steady_setSocket {t : SocketPtr} {f : SCTPSocket → SCTPSocket} (hf : ∀ o, (f o).flags = o.flags) :
    Steady s (setSocket t f : Act L _) where
  post w := by
    rw [post_setSocket]
    split
    · refine ⟨⟨rfl, rfl⟩, fun _ => ?_⟩
      simp only [Shared.setSocket, Function.update_apply]
      split
      · subst t
        cases w.shared.sockets s with
        | none => rfl
        | some o => exact congrArg some (hf o)
      · rfl
    · exact ⟨Halt.noConfusion, rfl⟩

theorem steady_locked {body : Act L α} (h : Steady s body) : Steady s (locked E body) where
  post w := by
    unfold locked
    simp only [post_bind, post_lock]
    refine (h.post _).mono (fun a w' h' => ?_) fun _ _ h' => h'
    obtain ⟨⟨hl, hw⟩, hf⟩ := h'
    cases h0 : w.thread.lockLevel with
    | zero =>
      exact post_unlock (hl.trans (congrArg (· + 1) h0))
        (fun _ _ => ⟨⟨h0.symm, hw⟩, fun h => absurd h0 (Nat.ne_of_gt h)⟩) ⟨Halt.noConfusion, hw⟩
    | succ n =>
      refine (post_unlock_held (hl.trans (congrArg (· + 1) h0))).mpr ⟨⟨h0.symm, hw⟩, fun _ => hf (Nat.succ_pos _)⟩

instance {t : SocketPtr} : Steady s (SCTPSocket.hasData E t) := by
  unfold SCTPSocket.hasData; exact steady_locked inferInstance

instance {port : Nat} {hosts : List String} : Steady s (SCTPSocket.requestAddresses E port hosts) := by
  induction hosts with
  | nil => unfold SCTPSocket.requestAddresses; infer_instance
  | cons host rest ih =>
    have : Steady s (throw .undefinedBehaviour : Act L (Option (List SocketAddress))) :=
      steady_of_shared inferInstance fun _ => trivial
    unfold SCTPSocket.requestAddresses
    cases createSocketAddress E host port <;> infer_instance

instance {t : SocketPtr} {withAddresses : Bool} : Steady s (SCTPSocket.takeRequest E t withAddresses) := by
  unfold SCTPSocket.takeRequest
  refine .seq fun o => ?_
  cases o.connectionRequests with
  | nil => infer_instance
  | cons request rest =>
    have (f : SCTPSocket → List IncomingConnection) :
        Steady s (setSocket t fun o => { o with connectionRequests := f o } : Act L _) :=
      steady_setSocket fun _ => rfl
    have (f : SCTPSocket → Bool) : Steady s (setSocket t fun o => { o with readReady := f o } : Act L _) :=
      steady_setSocket fun _ => rfl
    dsimp only
    infer_instance

/-- The flags of a socket that is an object. -/
def Listening (s : SocketPtr) (w : World L) : Prop :=
  (w.shared.sockets s).map (·.flags.listening) = some true

theorem post_awaitRequest_nowait {maintain : Act L Unit} {w : World L} {n : Nat} (hw : w.thread.lockLevel = n + 2) :
    Post (SCTPSocket.awaitRequest E s maintain false) w
      (fun found w' => w' = if found then w else { w with thread := { w.thread with lockLevel := n + 1 } })
      (fun h w' => h ≠ .abort .unlockAtZero ∧ w'.thread.waits = w.thread.waits) := by
  have (rest : Act L Bool) : Post (do
      if !(← socketAt s).connectionRequests.isEmpty then return true
      unlock E
      if !false then return false
      waitFor E (.socket s .establish) maintain
      lock
      rest) w (fun found w' => w' = if found then w else { w with thread := { w.thread with lockLevel := n + 1 } })
      (fun h w' => h ≠ .abort .unlockAtZero ∧ w'.thread.waits = w.thread.waits) := by
    simp only [post_bind, post_socketAt]
    split
    · simp only [post_ite, post_pure, post_bind, post_unlock_held hw]
      split <;> rfl
    · exact ⟨Halt.noConfusion, trivial⟩
  unfold SCTPSocket.awaitRequest
  cases E.patience <;> exact this _

theorem post_acceptWith_nowait {maintain : Act L Unit} {withAddresses : Bool} {w : World L}
    (hw : 0 < w.thread.lockLevel) (hs : Listening s w) :
    Post (SCTPSocket.acceptWith E maintain s withAddresses false) w (fun _ w' => SteadyStep s w w')
      (fun h w' => TidyHalt h w w') := by
  obtain ⟨n, hn⟩ : ∃ n, w.thread.lockLevel = n + 1 := ⟨_, (Nat.succ_pred_eq_of_pos hw).symm⟩
  unfold SCTPSocket.acceptWith
  simp only [post_bind, post_lock, post_socketAt]
  unfold Listening at hs
  cases ho : w.shared.sockets s with
  | none => rw [ho] at hs; cases hs
  | some o =>
    rw [ho] at hs
    have hl : o.flags.listening = true := Option.some.inj hs
    simp only [hl, if_true]
    unfold SCTPSocket.acceptListening
    rw [post_bind]
    refine (post_awaitRequest_nowait (n := n) (congrArg (· + 1) hn)).mono ?_ fun _ _ h => h
    rintro found w' rfl
    cases found
    · exact ⟨⟨hn.symm, rfl⟩, fun _ => rfl⟩
    · have h := (inferInstance : Steady s (SCTPSocket.takeRequest E s withAddresses)).post
        { w with thread := { w.thread with lockLevel := w.thread.lockLevel + 1 } }
      refine h.bind fun r w'' h'' => ?_
      rw [post_bind, post_unlock_held (n := n) (h''.1.1.trans (congrArg (· + 1) hn))]
      exact ⟨⟨hn.symm, h''.1.2⟩, fun _ => h''.2 (Nat.succ_pos _)⟩

theorem SteadyStep.listening {w w' : World L} (h : SteadyStep s w w') (hw : 0 < w.thread.lockLevel)
    (hs : Listening s w) : Listening s w' := by
  have hf := congrArg (Option.map SocketFlags.listening) (h.2 hw)
  simp only [Option.map_map] at hf
  exact hf.trans hs

instance {p : AssocPtr} : Steady s (SCTPSocket.addConnectionless s p : Act L _) := by
  have (f : SCTPSocket → Multimap AssocID AssocPtr) :
      Steady s (setSocket s fun o => { o with connectionlessAssociationList := f o } : Act L _) :=
    steady_setSocket fun _ => rfl
  unfold SCTPSocket.addConnectionless; infer_instance

theorem post_acceptAll {w : World L} (hw : 0 < w.thread.lockLevel) (hs : Listening s w) :
    Post (SCTPSocket.acceptAll E s) w (fun _ w' => TidyStep w w') (fun h w' => TidyHalt h w w') := by
  let I (w' : World L) : Prop := TidyStep w w' ∧ Listening s w'
  unfold SCTPSocket.acceptAll
  simp only [post_bind, post_socketAt]
  split
  case h_2 => exact ⟨Halt.noConfusion, rfl⟩
  refine @Post.loop _ _ _ _ _ I _ _ (fun w' h => ⟨Halt.noConfusion, h.1.2⟩) (fun rest hrest w' h => ?_) _ _
    ⟨⟨rfl, rfl⟩, hs⟩
  have hw' : 0 < w'.thread.lockLevel := h.1.1.symm ▸ hw
  refine ((post_acceptWith_nowait hw' h.2).mono (fun _ _ h' => h') fun _ _ h' => Steps.absorb h.1 h').bind
    fun r w'' h'' => ?_
  have hI : I w'' := ⟨Steps.trans TidyHalt h.1 h''.1, h''.listening hw' h.2⟩
  have hw'' : 0 < w''.thread.lockLevel := hI.1.1.symm ▸ hw
  cases r.1 with
  | none => exact hI.1
  | some p =>
    have h₃ := (inferInstance : Steady s (SCTPSocket.addConnectionless (L := L) s p)).post w''
    exact (h₃.mono (fun _ _ h' => h') fun _ _ h' => Steps.absorb hI.1 h').bind fun _ w₃ h₃ =>
      hrest w₃ ⟨Steps.trans TidyHalt hI.1 h₃.1, h₃.listening hw'' hI.2⟩

end

theorem post_acceptIncoming {s : SocketPtr} {w : World L} (hw : 0 < w.thread.lockLevel) :
    Post (SCTPSocket.acceptIncoming E s) w (fun _ w' => TidyStep w w') (fun h w' => TidyHalt h w w') := by
  unfold SCTPSocket.acceptIncoming
  simp only [post_bind, post_socketAt, post_setSocket]
  cases ho : w.shared.sockets s with
  | none => exact ⟨Halt.noConfusion, rfl⟩
  | some o =>
    show Post (SCTPSocket.acceptAll E s) _ _ _
    refine (post_acceptAll ?_ ?_).imp fun _ w' h' => ?_
    · exact hw
    · simp only [Listening, Shared.setSocket, Function.update_self, ho, Option.map_some]
    · split
      · exact h'
      · exact ⟨Halt.noConfusion, h'.2⟩

instance {s : SocketPtr} : Tidy (SCTPSocket.checkAutoConnect E s) := by
  unfold SCTPSocket.checkAutoConnect
  have : Tidy (locked E (SCTPSocket.acceptIncoming E s)) := tidy_section fun w => post_acceptIncoming
  infer_instance

end SocketApi
