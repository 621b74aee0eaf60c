import SocketApi.Frame.Closing

/-!
# Callbacks under a relation

The callbacks run with the master locked. The two that end an association are also delivered
while an association is being closed; `notif` stays inside of the relation by induction on the
depth of the delivery.
-/

namespace SocketApi

open Effect SCTPSocketMaster

set_option synthInstance.maxSize 2000

variable {L : Sctplib} {E : Environment L} {R : Bool → Shared L → Shared L → Prop} {V : Halt → Shared L → Prop}

/-! ## Lookups -/

/-- With the master locked a lookup changes nothing. -/
theorem lists_getAssociation {s : SocketPtr} {id : AssocID} {activeOnly : Bool} {w : World L}
    (hw : 0 < w.thread.lockLevel) :
    Post (SCTPSocket.getAssociationForAssociationID E s id activeOnly) w
      (fun found w' => w' = w ∧ ∀ p, found = some p → w.shared.Lists s id p) fun h w' => h = .undefinedBehaviour ∧
        w'.shared = w.shared := by
  have hlevel : w.thread.lockLevel + 1 ≠ 0 := Nat.succ_ne_zero _
  have hnot : w.thread.lockLevel + 1 ≠ 1 := by omega
  have hunlock (found : Option AssocPtr) (hfound : ∀ p, found = some p → w.shared.Lists s id p) : Post (do
      unlock E
      return found) { w with thread := { w.thread with lockLevel := w.thread.lockLevel + 1 } }
      (fun found w' => w' = w ∧ ∀ p, found = some p → w.shared.Lists s id p)
      fun h w' => h = .undefinedBehaviour ∧ w'.shared = w.shared := by
    unfold unlock
    simp only [post_bind, post_get, hlevel, hnot, if_false, post_pure, post_modify, Nat.add_sub_cancel]
    exact ⟨trivial, hfound⟩
  unfold SCTPSocket.getAssociationForAssociationID locked
  rw [post_bind, post_lock, post_bind, post_bind, post_socketAt]
  dsimp only
  cases hs : w.shared.sockets s with
  | none => exact ⟨rfl, rfl⟩
  | some o =>
    dsimp only
    cases hp : o.associationList.find id with
    | none => exact hunlock none fun _ h => by cases h
    | some p =>
      dsimp only
      rw [post_bind, post_associationAt]
      dsimp only
      cases w.shared.associations p with
      | none => exact ⟨rfl, rfl⟩
      | some a =>
        refine hunlock _ fun q hq => ⟨o, hs, ?_⟩
        split at hq
        · cases hq
        · cases hq
          exact hp

/-- A lookup and what is done with its result. -/
theorem StaysFrom.lookup [Stable R V] {β : Type} {s : SocketPtr} {id : AssocID} {activeOnly : Bool} {w : World L}
    {f : Option AssocPtr → Act L β} (hnone : StaysFrom R V (f none) w)
    (hsome : ∀ p, w.shared.Lists s id p → StaysFrom R V (f (some p)) w) :
    StaysFrom R V (SCTPSocket.getAssociationForAssociationID E s id activeOnly >>= f) w := by
  unfold StaysFrom at *
  rw [post_bind]
  by_cases hw : 0 < w.thread.lockLevel
  · refine (lists_getAssociation hw).mono (fun found w' h => ?_) fun e w' h => ?_
    · obtain ⟨rfl, hfound⟩ := h
      cases found with
      | none => exact hnone
      | some p => exact hsome p (hfound p rfl)
    · obtain ⟨rfl, hshared⟩ := h
      exact fun _ => ⟨Stable.undefined R w.shared, Halt.noConfusion⟩
  · refine post_true.mono (fun found w' _ => ?_) fun _ _ _ h => absurd h hw
    exact post_true.mono (fun _ _ _ h => absurd h hw) fun _ _ _ h => absurd h hw

/-! ## The end of an association -/

/-- What `communicationLostNotif` does to the association `p`. -/
def loseAssociation (E : Environment L) (s : SocketPtr) (p : AssocPtr) (assocID : AssocID) : Act L Unit := do
  restoreRTOMax E p assocID
  setAssociation p fun a => { a with communicationLostNotification := true, shutdownCompleteNotification := true }
  broadcast (.assoc p .shutdownComplete)
  broadcast (.assoc p .readUpdate)
  addNotification E s assocID { content := assocChange assocID .commLost 0 0 }
  setAssociation p fun a => { a with hasException := true, writeReady := true, readReady := true }
  broadcast (.assoc p .establish)
  broadcast (.assoc p .readyForTransmit)

/-- What `shutdownCompleteNotif` does to the association `p`. -/
def completeShutdown (E : Environment L) (s : SocketPtr) (p : AssocPtr) (assocID : AssocID) : Act L Unit := do
  setAssociation p fun a => { a with
    writeReady := true, readReady := true, hasException := true, shutdownCompleteNotification := true }
  broadcast (.assoc p .shutdownComplete)
  broadcast (.assoc p .readyForTransmit)
  broadcast (.assoc p .readUpdate)
  addNotification E s assocID { content := assocChange assocID .shutdownComp 0 0 }

/-- The ends that the library has announced. -/
class Ending (E : Environment L) (R : Bool → Shared L → Shared L → Prop) (V : Halt → Shared L → Prop) [Ends R] : Prop where
  lose : ∀ {s id p w}, w.shared.Lists s id p → Ends.Due R .communicationLost id w.shared →
    StaysFrom R V (loseAssociation E s p id) w
  complete : ∀ {s id p w}, w.shared.Lists s id p → Ends.Due R .shutdownComplete id w.shared →
    StaysFrom R V (completeShutdown E s p id) w

section

variable [Stable R V] [Ends R] [Rely E R] [Closing E R V] [Ending E R V] {deliver : Deliver L}

theorem communicationLostNotif_stays [Delivers R V deliver] {id : AssocID} {w : World L}
    (h : Ends.Due R .communicationLost id w.shared) : StaysFrom R V (communicationLostNotif E deliver id) w := by
  have hclose (s : SocketPtr) : UnderLock R V (SCTPSocket.checkAutoClose E deliver s) := inferInstance
  unfold communicationLostNotif
  refine .next inferInstance fun collected w₁ hR₁ => ?_
  cases collected with
  | true => exact Keeps.post (x := Pure.pure ()) w₁
  | false =>
    refine .next inferInstance fun socket w₂ hR₂ => ?_
    cases socket with
    | none => exact Keeps.post (x := Pure.pure ()) w₂
    | some s =>
      refine .lookup (Keeps.post w₂) fun p hp => ?_
      have hend : StaysFrom R V (loseAssociation E s p id) w₂ := Ending.lose hp (Ends.lasting hR₂ (Ends.lasting hR₁ h))
      have hlose := hend.bind fun _ => hclose s
      unfold loseAssociation at hlose
      simpa only [bind_assoc] using hlose

theorem shutdownCompleteNotif_stays [Delivers R V deliver] {id : AssocID} {w : World L}
    (h : Ends.Due R .shutdownComplete id w.shared) : StaysFrom R V (shutdownCompleteNotif E deliver id) w := by
  have hclose (s : SocketPtr) : UnderLock R V (SCTPSocket.checkAutoClose E deliver s) := inferInstance
  unfold shutdownCompleteNotif
  refine .next inferInstance fun collected w₁ hR₁ => ?_
  cases collected with
  | true => exact Keeps.post (x := Pure.pure ()) w₁
  | false =>
    refine .next inferInstance fun socket w₂ hR₂ => ?_
    cases socket with
    | none => exact Keeps.post (x := Pure.pure ()) w₂
    | some s =>
      refine .lookup (Keeps.post w₂) fun p hp => ?_
      have hend : StaysFrom R V (completeShutdown E s p id) w₂ :=
        Ending.complete hp (Ends.lasting hR₂ (Ends.lasting hR₁ h))
      have hcomplete := hend.bind fun _ => hclose s
      unfold completeShutdown at hcomplete
      simpa only [bind_assoc] using hcomplete

/-- The callbacks delivered while an association is being closed. -/
instance {depth : Nat} : Delivers R V (notifAt E depth) := by
  induction depth with
  | zero => exact ⟨fun {t id w} _ => by cases t <;> exact Keeps.post (x := Pure.pure ()) w⟩
  | succ depth ih =>
    refine ⟨fun {t id w} h => ?_⟩
    cases t with
    | communicationLost => exact communicationLostNotif_stays h
    | shutdownComplete => exact shutdownCompleteNotif_stays h

instance : Delivers R V (notif E) := (inferInstance : Delivers R V (notifAt E E.nesting))

end

end SocketApi
