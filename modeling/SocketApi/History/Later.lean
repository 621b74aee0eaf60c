import SocketApi.Frame.Basic
import SocketApi.Lib.Sliding

/-!
# What objects become

`s.Later t` says what the objects of a state `t` may be if the state was once `s`. An association
keeps its socket and its ID until it is deleted, what it has been told of is never taken back, and
its queues have only been taken from at the front and added to at the end. The connection requests
of a socket stand in the order in which their associations were made.
-/

namespace SocketApi

open Effect Sliding

variable {L : Sctplib}

/-! ## Records of a queue -/

/-- The content of a record that has been read in part: data has become less, the rest is as it was. -/
inductive SctpNotification.Read : SctpNotification → SctpNotification → Prop
  | same (c : SctpNotification) : Read c c
  | less (sda : SctpDataArrive) {left : Nat} (h : left ≤ sda.sda_bytes_arrived) :
    Read (.dataArrive sda) (.dataArrive { sda with sda_bytes_arrived := left })

/-- A record that has been read in part. -/
structure SCTPNotification.Read (n n' : SCTPNotification) : Prop where
  content : n.content.Read n'.content
  remotePort : n'.remotePort = n.remotePort
  remoteAddress : n'.remoteAddress = n.remoteAddress

theorem SctpNotification.Read.trans {c c' c'' : SctpNotification} (h : c.Read c') (h' : c'.Read c'') : c.Read c'' := by
  cases h with
  | same => exact h'
  | less sda hle =>
    cases h' with
    | same => exact .less sda hle
    | less _ hle' => exact .less sda (hle'.trans hle)

instance : IsTrans SCTPNotification SCTPNotification.Read where
  trans _ _ _ h h' := ⟨h.content.trans h'.content, h'.remotePort.trans h.remotePort,
    h'.remoteAddress.trans h.remoteAddress⟩

theorem SCTPNotification.Read.rfl (n : SCTPNotification) : n.Read n := ⟨.same n.content, Eq.refl _, Eq.refl _⟩

/-! ## Objects -/

/-- A lost association is also shut down. -/
def SCTPAssociation.Sound (a : SCTPAssociation) : Prop :=
  a.communicationLostNotification = true → a.shutdownCompleteNotification = true

structure SCTPAssociation.Later (a a' : SCTPAssociation) : Prop where
  socket : a'.socket = a.socket
  associationID : a'.associationID = a.associationID ∨ a'.associationID = 0
  up : a.communicationUpNotification = true → a'.communicationUpNotification = true
  lost : a.communicationLostNotification = true → a'.communicationLostNotification = true
  complete : a.shutdownCompleteNotification = true → a'.shutdownCompleteNotification = true
  peeledOff : a.peeledOff = true → a'.peeledOff = true
  sound : a.Sound → a'.Sound
  inQueue : Slides SCTPNotification.Read a.inQueue a'.inQueue
  packets : Slides Eq a.preEstablishmentPackets a'.preEstablishmentPackets

/-- Requests in the order in which their associations were made, before the association `next`. -/
structure InOrder (next : AssocPtr) (requests : List IncomingConnection) : Prop where
  sorted : requests.Pairwise fun r r' => r.association < r'.association
  made : ∀ r ∈ requests, r.association < next

structure SCTPSocket.Later (next next' : AssocPtr) (o o' : SCTPSocket) : Prop where
  globalQueue : Slides SCTPNotification.Read o.globalQueue o'.globalQueue
  requests : Slides Eq o.connectionRequests o'.connectionRequests
  inOrder : InOrder next o.connectionRequests → InOrder next' o'.connectionRequests

structure Shared.Later (s t : Shared L) : Prop where
  nextAssociation : s.nextAssociation ≤ t.nextAssociation
  nextSocket : s.nextSocket ≤ t.nextSocket
  association : ∀ p a', t.associations p = some a' →
    (∃ a, s.associations p = some a ∧ a.Later a') ∨ (s.nextAssociation ≤ p ∧ p < t.nextAssociation ∧ a'.Sound)
  socket : ∀ k o', t.sockets k = some o' →
    (∃ o, s.sockets k = some o ∧ o.Later s.nextAssociation t.nextAssociation o') ∨
      (s.nextSocket ≤ k ∧ k < t.nextSocket ∧ InOrder t.nextAssociation o'.connectionRequests)

/-! ## Composition -/

theorem SCTPAssociation.Later.of_core {a a' : SCTPAssociation} (h : a'.core = a.core) : a.Later a' := by
  have hlost : a'.communicationLostNotification = a.communicationLostNotification :=
    (congrArg SCTPAssociation.communicationLostNotification h :)
  have hcomplete : a'.shutdownCompleteNotification = a.shutdownCompleteNotification :=
    (congrArg SCTPAssociation.shutdownCompleteNotification h :)
  have hqueue : a'.inQueue = a.inQueue := (congrArg SCTPAssociation.inQueue h :)
  have hpackets : a'.preEstablishmentPackets = a.preEstablishmentPackets :=
    (congrArg SCTPAssociation.preEstablishmentPackets h :)
  exact {
    socket := (congrArg SCTPAssociation.socket h :)
    associationID := .inl (congrArg SCTPAssociation.associationID h :)
    up := (congrArg SCTPAssociation.communicationUpNotification h :).trans
    lost := hlost.trans
    complete := hcomplete.trans
    peeledOff := (congrArg SCTPAssociation.peeledOff h :).trans
    sound := fun hs => by
      unfold SCTPAssociation.Sound
      rw [hlost, hcomplete]
      exact hs
    inQueue := by rw [hqueue]; exact .same _
    packets := by rw [hpackets]; exact .same _ }

theorem SCTPAssociation.Later.trans {a a' a'' : SCTPAssociation} (h : a.Later a') (h' : a'.Later a'') : a.Later a'' where
  socket := h'.socket.trans h.socket
  associationID := by
    rcases h'.associationID with h' | h'
    · rw [h']
      exact h.associationID
    · exact .inr h'
  up := h'.up ∘ h.up
  lost := h'.lost ∘ h.lost
  complete := h'.complete ∘ h.complete
  peeledOff := h'.peeledOff ∘ h.peeledOff
  sound := h'.sound ∘ h.sound
  inQueue := h.inQueue.trans h'.inQueue
  packets := h.packets.trans h'.packets

theorem InOrder.mono {next next' : AssocPtr} {requests : List IncomingConnection} (h : InOrder next requests)
    (hle : next ≤ next') : InOrder next' requests :=
  ⟨h.sorted, fun r hr => (h.made r hr).trans_le hle⟩

theorem InOrder.tail {next : AssocPtr} {requests : List IncomingConnection} (h : InOrder next requests) :
    InOrder next requests.tail :=
  ⟨h.sorted.tail, fun r hr => h.made r (List.mem_of_mem_tail hr)⟩

/-- The request of a new association comes last. -/
theorem InOrder.push {next : AssocPtr} {requests : List IncomingConnection} {r : IncomingConnection}
    (h : InOrder next requests) (hr : r.association = next) : InOrder (next + 1) (requests ++ [r]) where
  sorted := by
    refine List.pairwise_append.mpr ⟨h.sorted, List.pairwise_singleton .., fun r' hr' r'' hr'' => ?_⟩
    rw [List.mem_singleton.mp hr'', hr]
    exact h.made r' hr'
  made r' hr' := by
    rcases List.mem_append.mp hr' with hr' | hr'
    · exact (h.made r' hr').trans (Nat.lt_succ_self next)
    · rw [List.mem_singleton.mp hr', hr]
      exact Nat.lt_succ_self next

theorem SCTPSocket.Later.of_core {next next' : AssocPtr} {o o' : SCTPSocket} (h : o'.core = o.core)
    (hle : next ≤ next') : o.Later next next' o' := by
  have hqueue : o'.globalQueue = o.globalQueue := (congrArg SCTPSocket.globalQueue h :)
  have hrequests : o'.connectionRequests = o.connectionRequests := (congrArg SCTPSocket.connectionRequests h :)
  exact {
    globalQueue := by rw [hqueue]; exact .same _
    requests := by rw [hrequests]; exact .same _
    inOrder := fun ho => by rw [hrequests]; exact ho.mono hle }

theorem SCTPSocket.Later.trans {m n n' : AssocPtr} {o o' o'' : SCTPSocket} (h : o.Later m n o')
    (h' : o'.Later n n' o'') : o.Later m n' o'' where
  globalQueue := h.globalQueue.trans h'.globalQueue
  requests := h.requests.trans h'.requests
  inOrder := h'.inOrder ∘ h.inOrder

namespace Shared.Later

variable {s t u : Shared L}

/-- A step after which every object is one of before. -/
theorem of_objects (hnext : t.nextAssociation = s.nextAssociation) (hsocket : t.nextSocket = s.nextSocket)
    (ha : ∀ p a', t.associations p = some a' → ∃ a, s.associations p = some a ∧ a.Later a')
    (hs : ∀ k o', t.sockets k = some o' →
      ∃ o, s.sockets k = some o ∧ o.Later s.nextAssociation s.nextAssociation o') : s.Later t where
  nextAssociation := hnext.ge
  nextSocket := hsocket.ge
  association p a' ha' := .inl (ha p a' ha')
  socket k o' ho' := by
    rw [hnext]
    exact .inl (hs k o' ho')

theorem of_core (h : t.core = s.core) : s.Later t := by
  refine of_objects ?_ ?_ (fun p a' ha' => ?_) fun k o' ho' => ?_
  · exact (congrArg Shared.nextAssociation h :)
  · exact (congrArg Shared.nextSocket h :)
  · have hp : (t.associations p).map SCTPAssociation.core = (s.associations p).map SCTPAssociation.core :=
      congrFun (congrArg Shared.associations h) p
    rw [ha'] at hp
    obtain ⟨a, ha, hcore⟩ := Option.map_eq_some_iff.mp hp.symm
    exact ⟨a, ha, .of_core hcore.symm⟩
  · have hk : (t.sockets k).map SCTPSocket.core = (s.sockets k).map SCTPSocket.core :=
      congrFun (congrArg Shared.sockets h) k
    rw [ho'] at hk
    obtain ⟨o, ho, hcore⟩ := Option.map_eq_some_iff.mp hk.symm
    exact ⟨o, ho, .of_core hcore.symm le_rfl⟩

/-- A step that leaves the objects alone. -/
theorem of_eq (hnext : t.nextAssociation = s.nextAssociation) (hsocket : t.nextSocket = s.nextSocket)
    (ha : t.associations = s.associations) (hs : t.sockets = s.sockets) : s.Later t :=
  of_objects hnext hsocket (fun _ a' ha' => ⟨a', ha ▸ ha', .of_core rfl⟩) fun _ o' ho' => ⟨o', hs ▸ ho', .of_core rfl le_rfl⟩

theorem refl (s : Shared L) : s.Later s := of_eq rfl rfl rfl rfl

theorem trans (h : s.Later t) (h' : t.Later u) : s.Later u where
  nextAssociation := h.nextAssociation.trans h'.nextAssociation
  nextSocket := h.nextSocket.trans h'.nextSocket
  association p a'' ha'' := by
    rcases h'.association p a'' ha'' with ⟨a', ha', hlater'⟩ | ⟨hge, hlt, hsound⟩
    · rcases h.association p a' ha' with ⟨a, ha, hlater⟩ | ⟨hge, hlt, hsound⟩
      · exact .inl ⟨a, ha, hlater.trans hlater'⟩
      · exact .inr ⟨hge, hlt.trans_le h'.nextAssociation, hlater'.sound hsound⟩
    · exact .inr ⟨h.nextAssociation.trans hge, hlt, hsound⟩
  socket k o'' ho'' := by
    rcases h'.socket k o'' ho'' with ⟨o', ho', hlater'⟩ | ⟨hge, hlt, hinOrder⟩
    · rcases h.socket k o' ho' with ⟨o, ho, hlater⟩ | ⟨hge, hlt, hinOrder⟩
      · exact .inl ⟨o, ho, hlater.trans hlater'⟩
      · exact .inr ⟨hge, hlt.trans_le h'.nextSocket, hlater'.inOrder hinOrder⟩
    · exact .inr ⟨h.nextSocket.trans hge, hlt, hinOrder⟩

theorem setAssociation {p : AssocPtr} {f : SCTPAssociation → SCTPAssociation}
    (hf : ∀ a, s.associations p = some a → a.Later (f a)) : s.Later (s.setAssociation p f) := by
  refine of_objects rfl rfl (fun q a' ha' => ?_) fun k o' ho' => ⟨o', ho', .of_core rfl le_rfl⟩
  change Function.update s.associations p ((s.associations p).map f) q = some a' at ha'
  by_cases hq : q = p
  · subst hq
    rw [Function.update_self] at ha'
    obtain ⟨a, ha, rfl⟩ := Option.map_eq_some_iff.mp ha'
    exact ⟨a, ha, hf a ha⟩
  · rw [Function.update_of_ne hq] at ha'
    exact ⟨a', ha', .of_core rfl⟩

theorem setSocket {k : SocketPtr} {f : SCTPSocket → SCTPSocket}
    (hf : ∀ o, s.sockets k = some o → o.Later s.nextAssociation s.nextAssociation (f o)) : s.Later (s.setSocket k f) := by
  refine of_objects rfl rfl (fun p a' ha' => ⟨a', ha', .of_core rfl⟩) fun j o' ho' => ?_
  change Function.update s.sockets k ((s.sockets k).map f) j = some o' at ho'
  by_cases hj : j = k
  · subst hj
    rw [Function.update_self] at ho'
    obtain ⟨o, ho, rfl⟩ := Option.map_eq_some_iff.mp ho'
    exact ⟨o, ho, hf o ho⟩
  · rw [Function.update_of_ne hj] at ho'
    exact ⟨o', ho', .of_core rfl le_rfl⟩

theorem deleteAssociation (p : AssocPtr) : s.Later { s with associations := Function.update s.associations p none } := by
  refine of_objects rfl rfl (fun q a' ha' => ?_) fun k o' ho' => ⟨o', ho', .of_core rfl le_rfl⟩
  change Function.update s.associations p none q = some a' at ha'
  by_cases hq : q = p
  · rw [hq, Function.update_self] at ha'
    cases ha'
  · rw [Function.update_of_ne hq] at ha'
    exact ⟨a', ha', .of_core rfl⟩

theorem deleteSocket (k : SocketPtr) : s.Later { s with sockets := Function.update s.sockets k none } := by
  refine of_objects rfl rfl (fun p a' ha' => ⟨a', ha', .of_core rfl⟩) fun j o' ho' => ?_
  change Function.update s.sockets k none j = some o' at ho'
  by_cases hj : j = k
  · rw [hj, Function.update_self] at ho'
    cases ho'
  · rw [Function.update_of_ne hj] at ho'
    exact ⟨o', ho', .of_core rfl le_rfl⟩

end Shared.Later

end SocketApi
