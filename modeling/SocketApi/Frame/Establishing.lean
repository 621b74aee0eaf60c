import SocketApi.Frame.Sending

/-!
# Establishing under a relation

The callback for an association that is up, and the one for room in a send queue: both send what
has been kept back meanwhile.
-/

namespace SocketApi

open Effect SCTPSocketMaster

set_option synthInstance.maxSize 2000

variable {L : Sctplib} {E : Environment L} {R : Bool → Shared L → Shared L → Prop} {V : Halt → Shared L → Prop}

/-- What `communicationUpNotif` does to the association `p` of the API before it sends. -/
def establishAssociation (E : Environment L) (p : AssocPtr) (assocID : AssocID) : Act L Unit := do
  restoreRTOMax E p assocID
  setAssociation p fun a => { a with communicationUpNotification := true }
  broadcast (.assoc p .establish)
  setAssociation p fun a => { a with writeReady := true, hasException := false, preEstablishmentAddressList := none }

/-- What `queueStatusChangeNotif` does to the association `p` before it sends. -/
def offerRoom (p : AssocPtr) : Act L Unit := do
  broadcast (.assoc p .readyForTransmit)
  setAssociation p fun a => { a with writeReady := true }

section

variable [Stable R V]

theorem StaysFrom.socketAt {β : Type} {s : SocketPtr} {w : World L} {f : SCTPSocket → Act L β}
    (h : ∀ o, w.shared.sockets s = some o → StaysFrom R V (f o) w) : StaysFrom R V (socketAt s >>= f) w := by
  unfold StaysFrom
  rw [post_bind, post_socketAt]
  cases hs : w.shared.sockets s with
  | none => exact stops_undefined w
  | some o => exact h o hs

variable [Rely E R] [Sends R V]

theorem upAssociation_stays {id : AssocID} {n : SCTPNotification} {w : World L}
    (hestablish : ∀ s p, w.shared.socketOf id = some s → w.shared.Lists s id p →
      StaysFrom R V (establishAssociation E p id) w)
    (hincoming : ∀ s, w.shared.socketOf id = some s → StaysFrom R V (incoming E s id n) w) :
    StaysFrom R V (upAssociation E id n) w := by
  unfold upAssociation
  refine .socketOf ?_
  cases hs : w.shared.socketOf id with
  | none => exact Keeps.post (x := Pure.pure none) w
  | some s =>
    refine .lookup (.socketAt fun o _ => ?_) fun p hp => ?_
    · split
      · exact (hincoming s hs).bind fun _ => inferInstance
      · exact Keeps.post (x := Pure.pure none) w
    · have hflush : UnderLock R V (do
          discard (SCTPAssociation.sendPreEstablishmentPackets E p)
          return some (s, p)) := inferInstance
      have hwhole := (hestablish s p hs hp).bind fun _ => hflush
      unfold establishAssociation at hwhole
      unfold establish
      simpa only [bind_assoc] using hwhole

theorem communicationUpNotif_stays [Ends R] {deliver : Deliver L} [Delivers R V deliver] {id : AssocID}
    {ins outs : Nat} {w : World L} [∀ s n, UnderLock R V (addNotification E s id n)]
    (hestablish : ∀ s p, w.shared.socketOf id = some s → w.shared.Lists s id p →
      StaysFrom R V (establishAssociation E p id) w)
    (hincoming : ∀ s n, w.shared.socketOf id = some s → StaysFrom R V (incoming E s id n) w)
    (hreject : UnderLock R V (do
      if !(← library (L.deleteAssociation · id)) then
        throw (.abort .rejectedDeleteAssociation))) :
    StaysFrom R V (communicationUpNotif E deliver id ins outs) w := by
  unfold communicationUpNotif StaysFrom
  rw [post_bind]
  refine (peek_initNotification id w).mono (fun n w' ⟨hw, _⟩ => ?_) fun _ _ h => h.elim
  rw [hw]
  refine (upAssociation_stays hestablish fun s => hincoming s n).bind fun up => ?_
  cases up with
  | some up => infer_instance
  | none => exact .seq fun _ => hreject

theorem queueStatusChangeNotif_stays {id : AssocID} {w : World L}
    (h : ∀ s p, w.shared.socketOf id = some s → w.shared.Lists s id p → StaysFrom R V (offerRoom p) w) :
    StaysFrom R V (queueStatusChangeNotif E id) w := by
  unfold queueStatusChangeNotif
  refine .socketOf ?_
  cases hs : w.shared.socketOf id with
  | none => exact Keeps.post (x := Pure.pure ()) w
  | some s =>
    refine .lookup (Keeps.post (x := Pure.pure ()) w) fun p hp => ?_
    have hflush : UnderLock R V (discard (SCTPAssociation.sendPreEstablishmentPackets E p)) := inferInstance
    have hwhole := (h s p hs hp).bind fun _ => hflush
    unfold offerRoom at hwhole
    simpa only [bind_assoc] using hwhole

end

end SocketApi
