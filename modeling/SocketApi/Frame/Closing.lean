import SocketApi.Frame.Stable

/-!
# Closing under a relation

What closing an association, the sweeps and the garbage collections do to the shared state,
from what the calls of the library and the deletion of one association do. `Closing` collects
these parts; the callbacks delivered meanwhile are assumed to stay inside of the relation.
-/

namespace SocketApi

open Effect

set_option synthInstance.maxSize 2000

variable {L : Sctplib} {E : Environment L} {R : Bool → Shared L → Shared L → Prop} {V : Halt → Shared L → Prop}

/-- The socket `s` has the association `p` under the ID. -/
def Shared.Lists (w : Shared L) (s : SocketPtr) (id : AssocID) (p : AssocPtr) : Prop :=
  ∃ o, w.sockets s = some o ∧ o.associationList.find id = some p

/-- The association `p` is connectionless, ended and not in use. -/
def Shared.Unused (w : Shared L) (s : SocketPtr) (p : AssocPtr) : Prop :=
  ∃ o a, w.sockets s = some o ∧ p ∈ o.connectionlessAssociationList.values ∧ w.associations p = some a ∧
    a.useCount = 0 ∧ (a.shutdownCompleteNotification || a.communicationLostNotification) = true

/-- The calls of the library that close an association. `Due` is known of the state in which it
delivers a notification meanwhile. -/
class Ends (R : Bool → Shared L → Shared L → Prop) where
  Due : TerminalNotif → AssocID → Shared L → Prop
  lasting : ∀ {t id s s'}, R true s s' → Due t id s → Due t id s'
  shutdown : ∀ id (s : Shared L), R true s { s with stack := (L.shutdown s.stack id).2 } ∧
    ∀ t, (L.shutdown s.stack id).1 = some t → Due t id { s with stack := (L.shutdown s.stack id).2 }
  abort : ∀ id (s : Shared L), R true s { s with stack := (L.abort s.stack id).2 } ∧
    ∀ t, (L.abort s.stack id).1 = some t → Due t id { s with stack := (L.abort s.stack id).2 }

/-- A due notification may be delivered. -/
class Delivers (R : Bool → Shared L → Shared L → Prop) (V : Halt → Shared L → Prop) [Ends R] (deliver : Deliver L) :
    Prop where
  stays : ∀ {t id w}, Ends.Due R t id w.shared → StaysFrom R V (deliver t id) w

/-- The parts of closing. -/
class Closing (E : Environment L) (R : Bool → Shared L → Shared L → Prop) (V : Halt → Shared L → Prop) [Ends R] : Prop where
  delete : ∀ {deliver : Deliver L}, Delivers R V deliver → ∀ p, Anywhere R V (SCTPAssociation.delete E deliver p)
  reclaim : ∀ {deliver : Deliver L}, Delivers R V deliver → ∀ {s p w}, w.shared.Unused s p →
    StaysFrom R V (SCTPSocket.reclaim E deliver s p) w
  unregister : UnderLock R V (do SCTPSocketMaster.unregisterUnused (← shared).closingSockets)
  collect : ∀ {id w}, (w.shared.closingAssociations.find id).isSome → StaysFrom R V (do
    if !(← library (L.deleteAssociation · id)) then
      throw (.abort .garbageDeleteAssociation)
    update fun w => { w with closingAssociations := w.closingAssociations.eraseKey id }) w

variable [Stable R V]

theorem stops_undefined {held : Bool} (w : World L) : Stops R V held .undefinedBehaviour w w :=
  fun _ => ⟨Stable.undefined R w.shared, Halt.noConfusion⟩

theorem StaysFrom.bind {α β : Type} {x : Act L α} {f : α → Act L β} {w : World L} (hx : StaysFrom R V x w)
    (hf : ∀ a, UnderLock R V (f a)) : StaysFrom R V (x >>= f) w :=
  Post.bind hx fun a _ h => (hf a).after h

/-- The rest of a program may rely on what is true after a locked step. -/
theorem StaysFrom.next {α β : Type} {x : Act L α} {f : α → Act L β} {w : World L} (hx : UnderLock R V x)
    (hf : ∀ a w', R true w.shared w'.shared → StaysFrom R V (f a) w') : StaysFrom R V (x >>= f) w := by
  by_cases hw : 0 < w.thread.lockLevel
  · refine Post.bind (hx.post w) fun a w' h => ?_
    obtain ⟨hR, hlevel⟩ := h hw
    rw [decide_eq_true hw] at hR
    refine (hf a w' hR).mono (fun b w'' h' => ?_) fun e w'' h' => ?_
    · exact Steps.trans (Stops R V true) h h'
    · exact Steps.absorb h h'
  · unfold StaysFrom
    rw [post_bind]
    refine post_true.mono (fun _ w' _ => ?_) fun _ _ _ h => absurd h hw
    exact post_true.mono (fun _ _ _ h => absurd h hw) fun _ _ _ h => absurd h hw

theorem StaysFrom.update {α : Type} {x : Act L α} {w : World L} {f : Shared L → Shared L}
    (hf : R true w.shared (f w.shared))
    (hx : StaysFrom R V x { w with shared := f w.shared }) : StaysFrom R V (do SocketApi.update f; x) w := by
  have hstep : Within R true w { w with shared := f w.shared } := fun _ => ⟨Stable.under V hf, le_rfl⟩
  unfold StaysFrom
  rw [post_bind, post_update]
  exact Post.mono hx (fun _ _ h => Steps.trans (Stops R V true) hstep h) fun _ _ h => Steps.absorb hstep h

variable [Ends R] {deliver : Deliver L} [hdeliver : Delivers R V deliver]

section

/-- The end of a call that closes an association and has left the library in the state `stack`. -/
theorem stays_delivered {id : AssocID} {w : World L} {stack : L.State} {result : Option TerminalNotif}
    (hR : R true w.shared { w.shared with stack }) (hdue : ∀ t, result = some t → Ends.Due R t id { w.shared with stack }) :
    Post (match result with
      | some t => deliver t id
      | none => Pure.pure ()) { w with shared := { w.shared with stack } } (fun _ w' => Within R true w w')
      fun h w' => Stops R V true h w w' := by
  let w₁ : World L := { w with shared := { w.shared with stack } }
  have hstep : Within R true w w₁ := fun _ => ⟨Stable.under V hR, le_rfl⟩
  cases result with
  | none => exact hstep
  | some t =>
    have hstays : StaysFrom R V (deliver t id) w₁ := hdeliver.stays (hdue t rfl)
    exact hstays.mono (fun _ _ h => Steps.trans (Stops R V true) hstep h) fun _ _ h => Steps.absorb hstep h

instance {id : AssocID} : UnderLock R V (sctp_shutdown deliver id) := by
  refine ⟨fun w => ?_⟩
  unfold sctp_shutdown
  rw [post_bind, post_library]
  exact stays_delivered (Ends.shutdown id w.shared).1 (Ends.shutdown id w.shared).2

instance {id : AssocID} : UnderLock R V (sctp_abort deliver id) := by
  refine ⟨fun w => ?_⟩
  unfold sctp_abort
  rw [post_bind, post_library]
  exact stays_delivered (Ends.abort id w.shared).1 (Ends.abort id w.shared).2

variable [Rely E R]

instance {p : AssocPtr} : Anywhere R V (SCTPAssociation.shutdown E deliver p) := by
  unfold SCTPAssociation.shutdown; infer_instance

instance {p : AssocPtr} : Anywhere R V (SCTPAssociation.abort E deliver p) := by
  unfold SCTPAssociation.abort; infer_instance

end

variable [Rely E R] [Closing E R V]

instance {p : AssocPtr} : Anywhere R V (SCTPAssociation.delete E deliver p) := Closing.delete hdeliver p

/-! ## The auto-close sweep -/

instance {s : SocketPtr} {now n : Nat} {p : Option AssocPtr} :
    UnderLock R V (SCTPSocket.autoCloseSweep E deliver s now n p) := by
  induction n generalizing p with
  | zero => cases p <;> unfold SCTPSocket.autoCloseSweep <;> infer_instance
  | succ n ih =>
    cases p with
    | none => unfold SCTPSocket.autoCloseSweep; infer_instance
    | some p =>
      unfold SCTPSocket.autoCloseSweep
      refine ⟨fun w => ?_⟩
      rw [post_bind, post_socketAt]
      cases hs : w.shared.sockets s with
      | none => exact stops_undefined w
      | some o =>
        dsimp only
        by_cases hp : p ∈ o.connectionlessAssociationList.values
        · rw [if_neg (not_not.mpr hp), post_bind, post_associationAt]
          cases ha : w.shared.associations p with
          | none => exact stops_undefined w
          | some a =>
            dsimp only
            by_cases huse : a.useCount = 0
            · rw [if_pos huse]
              by_cases hended : (a.shutdownCompleteNotification || a.communicationLostNotification) = true
              · rw [if_pos hended]
                have hunused : w.shared.Unused s p := ⟨o, a, hs, hp, ha, huse, hended⟩
                exact StaysFrom.bind (Closing.reclaim hdeliver hunused) fun _ => ih
              · rw [if_neg hended]
                have hrest : UnderLock R V (SCTPSocket.autoCloseSweep E deliver s now n
                    (o.connectionlessAssociationList.next p)) := ih
                exact Keeps.post w
            · rw [if_neg huse]
              exact ih.post w
        · rw [if_pos hp, post_bind]
          exact stops_undefined w

instance {s : SocketPtr} {rest : Act L Unit} [UnderLock R V rest] :
    UnderLock R V (SCTPSocket.autoClosePass E deliver s rest) := by
  unfold SCTPSocket.autoClosePass; dsimp only; infer_instance

instance {s : SocketPtr} : UnderLock R V (SCTPSocket.checkAutoClose E deliver s) := by
  have : UnderLock R V (loop .waiting (SCTPSocket.autoClosePass E deliver s) E.patience) :=
    .loop (fun _ _ => inferInstance) E.patience
  unfold SCTPSocket.checkAutoClose
  infer_instance

/-! ## Garbage collection -/

namespace SCTPSocketMaster

instance {list : List SocketPtr} : UnderLock R V (checkAutoCloseAll E deliver list) := by
  induction list with
  | nil => unfold checkAutoCloseAll; infer_instance
  | cons s rest ih => unfold checkAutoCloseAll; infer_instance

instance : Anywhere R V (socketGarbageCollection E deliver) := by
  have : UnderLock R V (do unregisterUnused (← shared).closingSockets) := Closing.unregister E
  unfold socketGarbageCollection
  infer_instance

instance {id : AssocID} : UnderLock R V (associationGarbageCollection E deliver id false) := by
  unfold associationGarbageCollection
  refine ⟨fun w => ?_⟩
  rw [post_bind, post_shared]
  cases hfind : w.shared.closingAssociations.find id with
  | none => exact Keeps.post w
  | some i =>
    have hcollect := Closing.collect E (R := R) (V := V) (w := w) (by rw [hfind]; rfl)
    have hrest : UnderLock R V (do
        socketGarbageCollection E deliver
        return true) := inferInstance
    have hwhole := hcollect.bind fun _ => hrest
    refine cast ?_ hwhole
    unfold StaysFrom
    congr 1
    dsimp only
    rw [if_neg Bool.false_ne_true, bind_assoc]
    congr 1
    funext ok
    cases ok <;> rfl

end SCTPSocketMaster

end SocketApi
