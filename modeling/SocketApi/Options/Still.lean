import SocketApi.Options.Changes
import SocketApi.Lib.Keeps

/-!
# What the options do not see

A `Calm` relation contains every change outside of the view and of the descriptors. If no
other thread runs, this is all that most functions of the API do, also those that leave the
lock held.
-/

namespace SocketApi

open Effect ExtSocketDescriptorMaster

variable {L : Sctplib} {E : Environment L} {α : Type}

/-- Nothing changes that a get of an option reads. -/
def Still (w w' : World L) : Prop := w'.shared.view = w.shared.view ∧ w'.shared.descriptors = w.shared.descriptors

/-- Every halt will do. -/
def Unread (_ : Halt) (_ _ : World L) : Prop := True

class Calm (S : World L → World L → Prop) : Prop where
  refl : ∀ w, S w w
  trans : ∀ {w w' w''}, S w w' → S w' w'' → S w w''
  still : ∀ {w w'}, Still w w' → S w w'

instance {S : World L → World L → Prop} [h : Calm S] : Steps S Unread where
  refl := h.refl
  trans := h.trans
  absorb _ _ := trivial

instance : Calm (Still (L := L)) where
  refl _ := ⟨rfl, rfl⟩
  trans h h' := ⟨h'.1.trans h.1, h'.2.trans h.2⟩
  still h := h

/-! ## Accessors -/

section

variable {S : World L → World L → Prop} [Calm S]

theorem Calm.update {f : Shared L → Shared L} (hview : ∀ w, (f w).view = w.view)
    (hdescriptors : ∀ w, (f w).descriptors = w.descriptors) : Keeps S Unread (update f) where
  post w := Calm.still ⟨hview w.shared, hdescriptors w.shared⟩

instance {h : Halt} : Keeps S Unread (throw h : Act L α) := ⟨fun _ => trivial⟩

instance : Keeps S Unread (shared (L := L)) := ⟨fun w => Calm.refl w⟩

instance {p : AssocPtr} : Keeps S Unread (associationAt p) := by
  unfold associationAt
  refine .seq fun w => ?_
  cases w.associations p <;> infer_instance

instance {t : SocketPtr} : Keeps S Unread (socketAt t) := by
  unfold socketAt
  refine .seq fun w => ?_
  cases w.sockets t <;> infer_instance

instance {slot : Nat} : Keeps S Unread (descriptorAt slot : Act L _) := ⟨fun w => Calm.refl w⟩

theorem Calm.setAssociation (p : AssocPtr) {f : SCTPAssociation → SCTPAssociation} (hf : ∀ a, (f a).view = a.view) :
    Keeps S Unread (setAssociation p f) := by
  have : Keeps S Unread (SocketApi.update fun w : Shared L => w.setAssociation p f) := by
    refine Calm.update (fun w => ?_) fun _ => rfl
    rw [view_setAssociation]
    have hself : Function.update w.view.association p ((w.associations p).map fun a => (f a).view) =
        w.view.association := by
      rw [Function.update_eq_self_iff, Shared.view_association]
      cases w.associations p with
      | none => rfl
      | some a => exact congrArg some (hf a)
    rw [hself]
  unfold SocketApi.setAssociation
  infer_instance

theorem Calm.setSocket (t : SocketPtr) {f : SCTPSocket → SCTPSocket} (hf : ∀ o, (f o).view = o.view) :
    Keeps S Unread (setSocket t f) := by
  have : Keeps S Unread (SocketApi.update fun w : Shared L => w.setSocket t f) := by
    refine Calm.update (fun w => ?_) fun _ => rfl
    have hself : (fun u => (Function.update w.sockets t ((w.sockets t).map f) u).map SCTPSocket.view) =
        w.view.socket := by
      funext u
      rw [Function.update_apply]
      split
      · rename_i hu
        rw [hu, Shared.view_socket]
        cases w.sockets t with
        | none => rfl
        | some o => exact congrArg some (hf o)
      · rfl
    unfold Shared.view at hself ⊢
    dsimp only [Shared.setSocket] at hself ⊢
    rw [hself]
  unfold SocketApi.setSocket
  infer_instance

instance : Keeps S Unread (lock : Act L _) := ⟨fun _ => Calm.still ⟨rfl, rfl⟩⟩

instance {result : Int} : Keeps S Unread (errnoReturn result : Act L _) where
  post w := (Denotes.errnoReturn result w).mono
    (fun r w' h => by
      obtain ⟨-, hw⟩ := Prod.mk.inj (Option.some.inj h.1)
      refine Calm.still ?_
      unfold Still
      rw [← hw]
      exact ⟨rfl, rfl⟩) fun _ _ _ => trivial

omit [Calm S] in
theorem Calm.dispatch (desc : SCTPSocketDesc) {onAssociation : AssocPtr → Act L α} {onSocket : SocketPtr → Act L α}
    {neither : Act L α} (hassociation : ∀ p, Keeps S Unread (onAssociation p))
    (hsocket : ∀ t, Keeps S Unread (onSocket t)) (hneither : Keeps S Unread neither) :
    Keeps S Unread (desc.dispatch onAssociation onSocket neither) := by
  obtain ⟨p, -, -, hp⟩ | ⟨t, -, ht⟩ | hn := desc.shape
  · rw [hp]
    exact hassociation p
  · rw [ht]
    exact hsocket t
  · rw [hn]
    exact hneither

/-! ## Locks -/

section

variable [hE : Fact E.Instant]

instance : Keeps S Unread (yield E) where
  post w := by
    unfold yield
    simp only [post_bind, post_get]
    rw [hE.out w.thread.turns w.shared]
    exact Calm.still ⟨rfl, rfl⟩

instance : Keeps S Unread (unlock E) := by
  have (level : Nat) : Keeps S Unread (modify fun w : World L =>
      { w with thread := { w.thread with lockLevel := level } }) := ⟨fun _ => Calm.still ⟨rfl, rfl⟩⟩
  have : Keeps S Unread (get : Act L _) := ⟨fun w => Calm.refl w⟩
  unfold unlock
  infer_instance

instance {body : Act L α} [Keeps S Unread body] : Keeps S Unread (locked E body) := by
  unfold locked
  infer_instance

end

/-! ## Options outside of the view -/

/-- An operation of the first connectionless association, which leaves the lock held. -/
instance {t : SocketPtr} {f : AssocPtr → Act L α} [∀ p, Keeps S Unread (f p)] :
    Keeps S Unread (SCTPSocket.onFirstLocked t f) := by
  unfold SCTPSocket.onFirstLocked
  refine .seq fun _ => .seq fun o => ?_
  cases o.connectionlessAssociationList with
  | nil => exact .pure none
  | cons e list => infer_instance

theorem calm_setEvents (fd : Int) (flags : NotificationFlags) : Keeps S Unread (setEvents E fd flags) := by
  have (p : AssocPtr) : Keeps S Unread (SCTPAssociation.setNotificationFlags p flags) :=
    Calm.setAssociation p fun _ => rfl
  have (t : SocketPtr) : Keeps S Unread (SCTPSocket.setNotificationFlags t flags) :=
    Calm.setSocket t fun _ => rfl
  unfold setEvents
  cases getSocket fd with
  | none => infer_instance
  | some slot =>
    refine .seq fun td => ?_
    cases td with
    | invalid => infer_instance
    | system id => exact .pure _
    | sctp desc => exact Calm.dispatch desc (fun p => inferInstance) (fun t => inferInstance) (.pure _)

variable (hE : E.Instant)
include hE

theorem calm_trafficClass (desc : SCTPSocketDesc) (tos : Nat) : Keeps S Unread (setOn desc (-EOPNOTSUPP)
    (SCTPAssociation.setTrafficClass · tos) (SCTPSocket.setTrafficClass E · tos)) := by
  have := Fact.mk hE
  have (p : AssocPtr) : Keeps S Unread (SCTPAssociation.setTrafficClass p tos) := .pure true
  have (t : SocketPtr) : Keeps S Unread (SCTPSocket.firstAnswer t (SCTPAssociation.setTrafficClass · tos)) := by
    unfold SCTPSocket.firstAnswer
    refine .seq fun o => ?_
    cases o.connectionlessAssociationList with
    | nil => exact .pure true
    | cons e list => exact .pure true
  have (t : SocketPtr) : Keeps S Unread (SCTPSocket.setTrafficClass E t tos) := by
    have : Keeps S Unread (setSocket t fun o => { o with defaultTrafficClass := tos }) := Calm.setSocket t fun _ => rfl
    unfold SCTPSocket.setTrafficClass
    infer_instance
  exact Calm.dispatch desc (fun p => .seq fun ok => inferInstance) (fun t => .seq fun ok => inferInstance) inferInstance

theorem calm_defaultSendParams (desc : SCTPSocketDesc) (sndrcvinfo : SctpSndrcvinfo) :
    Keeps S Unread (setDefaultSendParams E desc sndrcvinfo) := by
  have := Fact.mk hE
  have (p : AssocPtr) (defaults : AssocIODefaults) :
      Keeps S Unread (SCTPAssociation.setAssocIODefaults E p defaults) := by
    have : Keeps S Unread (setAssociation p fun a => { a with defaults }) := Calm.setAssociation p fun _ => rfl
    unfold SCTPAssociation.setAssocIODefaults
    infer_instance
  have (t : SocketPtr) (id : AssocID) (defaults : AssocIODefaults) :
      Keeps S Unread (SCTPSocket.setAssocIODefaults E t id defaults) := by
    unfold SCTPSocket.setAssocIODefaults
    infer_instance
  exact Calm.dispatch desc (fun p => .seq fun _ => inferInstance) (fun t => .seq fun ok => inferInstance) inferInstance

theorem calm_streamTimeouts (desc : SCTPSocketDesc) (id : AssocID) (timeout start stop : Nat) :
    Keeps S Unread (setDefaultStreamTimeouts E desc id timeout start stop) := by
  have := Fact.mk hE
  have (p : AssocPtr) : Keeps S Unread (SCTPAssociation.setDefaultStreamTimeouts E p timeout start stop) := by
    have (array : SCTPAssociation → List StreamDefaultTimeout) : Keeps S Unread
        (setAssociation p fun a => { a with streamDefaultTimeoutArray := array a }) :=
      Calm.setAssociation p fun _ => rfl
    have := this fun a => SCTPAssociation.streamTimeouts a.streamDefaultTimeoutArray timeout start stop
    unfold SCTPAssociation.setDefaultStreamTimeouts
    infer_instance
  have (t : SocketPtr) : Keeps S Unread (SCTPSocket.setDefaultStreamTimeouts E t id timeout start stop) := by
    unfold SCTPSocket.setDefaultStreamTimeouts
    infer_instance
  exact Calm.dispatch desc (fun p => .seq fun _ => .pure 0) (fun t => .seq fun ok => inferInstance) inferInstance

end

end SocketApi
