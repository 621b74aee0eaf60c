import SocketApi.Sessions.Slots

/-!
# Descriptors and their sockets

The calls of one thread, with whatever the thread of the protocol library does before, between and during them. A
`SCTPSocket` lives as long as a descriptor refers to it, and no descriptor outlives its socket.
-/

namespace SocketApi

open Effect Handles ExtSocketDescriptorMaster SCTPSocketMaster SCTPSocket

set_option synthInstance.maxSize 2000

variable {L : Sctplib} {E : Environment L}

/-! ## The thread of the library -/

instance [Rely E Unmoving] {k : SocketPtr} {assocID : AssocID} {n : SCTPNotification} :
    UnderLock Unmoving AnyHalt (incoming E k assocID n) := by
  unfold incoming
  infer_instance

theorem callback_unmoving [Rely E Unmoving] (c : Callback) : UnderLock Unmoving AnyHalt (c.run E) := by
  have hestablish (p : AssocPtr) (id : AssocID) : UnderLock Unmoving AnyHalt (establishAssociation E p id) := by
    unfold establishAssociation
    infer_instance
  have hroom (p : AssocPtr) : UnderLock (L := L) Unmoving AnyHalt (offerRoom p) := by
    unfold offerRoom
    infer_instance
  have hadd (s : SocketPtr) (id : AssocID) (n : SCTPNotification) (w : World L) :
      StaysFrom Unmoving AnyHalt (addNotification E s id n) w := Keeps.post w
  have hincoming (s : SocketPtr) (id : AssocID) (n : SCTPNotification) (w : World L) :
      StaysFrom Unmoving AnyHalt (incoming E s id n) w := Keeps.post w
  refine ⟨fun w => ?_⟩
  cases c with
  | dataArrive id streamID length protoID unordered => exact dataArriveNotif_stays fun s c _ _ _ => hadd s id c w
  | sendFailure id => exact sendFailureNotif_stays fun s c _ _ _ => hadd s id c w
  | networkStatusChange id path state => exact networkStatusChangeNotif_stays fun _ s c _ _ _ => hadd s id c w
  | communicationError id => exact communicationErrorNotif_stays fun s c _ _ _ => hadd s id c w
  | restart id => exact restartNotif_stays fun _ _ s c _ _ _ => hadd s id c w
  | shutdownReceived id => exact shutdownReceivedNotif_stays fun s c _ _ _ => hadd s id c w
  | communicationUp id ins outs =>
    exact communicationUpNotif_stays (fun _ p _ _ => (hestablish p id).post w) (fun s n _ => hincoming s id n w)
      inferInstance
  | communicationLost id => exact communicationLostNotif_stays trivial
  | shutdownComplete id => exact shutdownCompleteNotif_stays trivial
  | queueStatusChange id => exact queueStatusChangeNotif_stays fun _ p _ _ => (hroom p).post w

/-- A callback, a collection, what the library does on its own, or a reading of the clock. -/
def Event.InBackground : Event L → Prop
  | .openSocket .. | .perform _ => False
  | _ => True

/-- A step of the library's thread. It holds the lock until it is done, so that no other thread can run. -/
inductive Background (s t : Shared L) : Prop
  | step (E : Environment L) (event : Event L) (hevent : event.InBackground) (halone : E.interfere = fun _ s => some s)
    {thread thread' : Thread} (h : event.run E ⟨thread, s⟩ = .ok () ⟨thread', t⟩)

theorem Background.unmoved {s t : Shared L} (h : Background s t) : s.Unmoved t := by
  obtain ⟨E, event, hevent, halone, h⟩ := h
  have : Rely E Unmoving := by
    refine ⟨fun {n s t} ht => ?_⟩
    rw [halone] at ht
    cases ht
    exact .refl s
  cases event with
  | openSocket | perform => exact hevent.elim
  | callback c =>
    have hc : UnderLock Unmoving AnyHalt (c.run E) := callback_unmoving c
    have hlocked : Anywhere Unmoving AnyHalt (locked E (c.run E)) := inferInstance
    exact (post_unmoved hlocked _).of_ok h
  | collect =>
    have hcollect : Anywhere Unmoving AnyHalt (socketGarbageCollection E (notif E)) := inferInstance
    exact (post_unmoved hcollect _).of_ok h
  | progress step =>
    cases h
    exact .of_sockets rfl (fun _ => rfl) rfl
  | clock reading =>
    cases h
    exact .of_sockets rfl (fun _ => rfl) rfl

/-- While the thread of the user waits or is between two calls, only the library's thread runs. -/
def Environment.Single (E : Environment L) : Prop :=
  ∀ n s t, E.interfere n s = some t → Relation.ReflTransGen Background s t

theorem unmoved_background {s t : Shared L} (h : Relation.ReflTransGen Background s t) : s.Unmoved t := by
  induction h with
  | refl => exact .refl s
  | tail _ hstep ih => exact ih.trans hstep.unmoved

theorem Environment.Single.rely (h : E.Single) : Rely E Unmoving :=
  ⟨fun ht => unmoved_background (h _ _ _ ht)⟩

theorem single_alone (hE : E.interfere = fun _ s => some s) : E.Single := by
  intro n s t ht
  rw [hE] at ht
  cases ht
  exact .refl

/-! ## Sessions -/

inductive Session : List Call → World L → World L → Prop
  | nil (w) : Session [] w w
  | library {calls w w₁ t} (h : Session calls w w₁) (hstep : Background w₁.shared t) :
    Session calls w { w₁ with shared := t }
  | call {calls w w₁ w₂ r} (h : Session calls w w₁) (E : Environment L) (S : SelectEnvironment) (T : LibraryAccess L)
    (hE : E.Single) (call : Call) (hrun : call.run E S T w₁ = .ok r w₂) : Session (calls ++ [call]) w w₂

variable {calls : List Call} {w w' : World L} {keep : Prop}

theorem Call.Leads.run {call : Call} {s t : Shared L} (h : call.Leads s t) : Run watched s.handles t.handles := by
  unfold Call.Leads at h
  cases hcloses : call.closes with
  | none =>
    rw [hcloses] at h
    rcases h with h | h
    · rw [h]
    · exact .single (.opening h)
  | some i =>
    rw [hcloses] at h
    dsimp only at h
    rw [h]
    exact .single (.close i)

theorem session_handles (h : Session calls w w') (hw : w.shared.Regular keep) (hkeep : keep → .ext_close 0 ∉ calls) :
    w'.shared.Regular keep ∧ Run watched w.shared.handles w'.shared.handles := by
  induction h with
  | nil w => exact ⟨hw, .refl⟩
  | library h hstep ih =>
    obtain ⟨hregular, hrun⟩ := ih hw hkeep
    have hmoved := hstep.unmoved
    refine ⟨hregular.unmoved hmoved, ?_⟩
    rw [hmoved.handles]
    exact hrun
  | call h E S T hE call hcall ih =>
    have hrely := hE.rely
    obtain ⟨hregular, hrun⟩ := ih hw fun hk hmem => hkeep hk (List.mem_append_left _ hmem)
    have hzero : keep → call ≠ .ext_close 0 := by
      intro hk hc
      exact hkeep hk (by simp [hc])
    obtain ⟨hregular', hleads⟩ := (call_leads S T call hregular hzero).of_ok hcall
    exact ⟨hregular', hrun.trans hleads.run⟩

theorem regular_initial (stack : L.State) : (World.initial stack).shared.Regular keep where
  named i := by
    simp only [World.initial]
    split <;> simp [ExtSocketDescriptor.socket]
  bounded i := by
    simp only [World.initial]
    split <;> simp [ExtSocketDescriptor.socket]
  fresh _ _ := rfl
  unknown _ _ i := by
    simp only [World.initial]
    split <;> simp [ExtSocketDescriptor.socket]
  zero _ := ⟨0, rfl⟩

theorem sound_initial (stack : L.State) : Sound watched (World.initial stack).shared.handles where
  alive i _ k hk := by
    have hregular : (World.initial stack).shared.Regular True := regular_initial stack
    exact absurd (refers_eq_some.mp hk) (hregular.unknown k (Nat.zero_le _) i)
  owned k hk := by
    have hnone : (World.initial stack).shared.sockets k = none := rfl
    simp [Shared.handles, hnone] at hk

theorem Call.closes_iff {call : Call} {i : Nat} (hi : i < MaxSockets) : call.closes = some i ↔ call = .ext_close i := by
  constructor
  · intro h
    cases call with
    | ext_close sockfd =>
      simp only [Call.closes, getSocket, Option.ite_none_right_eq_some, Option.some.injEq] at h
      rw [← h.2, Int.toNat_of_nonneg h.1.2]
    | _ => cases h
  · rintro rfl
    simp [Call.closes, getSocket, hi]

/-! ## Sockets of descriptors -/

/-- A descriptor has its socket until it is closed, and a socket is there only as long as it has a descriptor. -/
theorem session_sockets {stack : L.State} (h : Session calls (World.initial stack) w) :
    (∀ i desc, w.shared.descriptors i = .sctp desc → i ≠ 0 ∨ .ext_close 0 ∉ calls →
      ∃ k o, desc.sctpSocketPtr = some k ∧ w.shared.sockets k = some o) ∧
    ∀ k o, w.shared.sockets k = some o →
      ∃ i < MaxSockets, ∃ desc, w.shared.descriptors i = .sctp desc ∧ desc.sctpSocketPtr = some k := by
  have hkeep : Call.ext_close 0 ∉ calls → Call.ext_close 0 ∉ calls := id
  obtain ⟨hregular, hrun⟩ := session_handles h (regular_initial stack) hkeep
  have hsound := (sound_initial stack).run hrun
  constructor
  · intro i desc hi hzero
    have hsocket : (w.shared.descriptors i).socket = some desc.sctpSocketPtr := by simp [hi, ExtSocketDescriptor.socket]
    cases hk : desc.sctpSocketPtr with
    | none => exact absurd (hsocket.trans (congrArg some hk)) (hregular.named i)
    | some k =>
      have hne : i ≠ 0 := by
        rintro rfl
        rcases hzero with hzero | hkept
        · exact hzero rfl
        · obtain ⟨fd, hfd⟩ := hregular.zero hkept
          simp [hfd] at hi
      have hlt : i < MaxSockets := hregular.bounded i (by simp [hsocket])
      have halive := hsound.alive i ⟨Nat.one_le_iff_ne_zero.mpr hne, hlt⟩ k (refers_sctp.mpr ⟨desc, hi, hk⟩)
      obtain ⟨o, ho⟩ := Option.isSome_iff_exists.mp halive
      exact ⟨k, o, rfl, ho⟩
  · intro k o ho
    have halive : k ∈ w.shared.handles.alive := by simp [Shared.handles, ho]
    obtain ⟨i, hi⟩ := hsound.owned k halive
    have hlt : i < MaxSockets := hregular.bounded i (by simp [refers_eq_some.mp hi])
    obtain ⟨desc, htd, hdesc⟩ := refers_sctp.mp hi
    exact ⟨i, hlt, desc, htd, hdesc⟩

/-! ## Sessions that are computed -/

/-- The state that a session ends in if every call finds what it has left. -/
def Session.play (E : Environment L) (T : LibraryAccess L) : List (Call ⊕ Event L) → World L → Option (World L)
  | [], w => some w
  | .inl c :: rest, w =>
    match c.run E {} T w with
    | .ok _ w' => play E T rest w'
    | .error _ _ => none
  | .inr event :: rest, w =>
    match event.run E ⟨{}, w.shared⟩ with
    | .ok _ w' => play E T rest { w with shared := w'.shared }
    | .error _ _ => none

theorem play_call {T : LibraryAccess L} {c : Call} (h : Session.play E T [.inl c] w = some w') :
    ∃ r, c.run E {} T w = .ok r w' := by
  unfold Session.play at h
  split at h
  · rename_i r w₁ hrun
    cases h
    exact ⟨r, hrun⟩
  · cases h

theorem session_play {T : LibraryAccess L} (hE : E.interfere = fun _ s => some s) {turns : List (Call ⊕ Event L)}
    (hturns : ∀ event, .inr event ∈ turns → event.InBackground) {w₁ : World L} (h : Session calls w w₁)
    (hplay : Session.play E T turns w₁ = some w') : Session (calls ++ turns.filterMap Sum.getLeft?) w w' := by
  have hsingle := single_alone hE
  induction turns generalizing calls w₁ with
  | nil =>
    cases hplay
    simpa using h
  | cons turn rest ih =>
    have hrest := fun event hevent => hturns event (List.mem_cons_of_mem turn hevent)
    cases turn with
    | inl c =>
      unfold Session.play at hplay
      split at hplay
      · rename_i hrun
        have hsession := ih hrest (h.call E {} T hsingle c hrun) hplay
        rwa [List.append_assoc] at hsession
      · cases hplay
    | inr event =>
      unfold Session.play at hplay
      split at hplay
      · rename_i hrun
        have hstep := Background.step E event (hturns event (List.mem_cons_self ..)) hE hrun
        exact ih hrest (h.library hstep) hplay
      · cases hplay

/-- A socket listens, and one of its associations is accepted. -/
def accepting : List (Call ⊕ Event Sctplib.small) := [
  .inl (.ext_socket .inet .stream true),
  .inl (.ext_bind 1023 (some { host := "10.0.0.1", port := 5000 })),
  .inl (.ext_listen 1023 5),
  .inr (.progress fun s => { s with associations := [(7, 1)] }),
  .inr (.callback (.communicationUp 7 1 1)),
  .inl (.ext_accept 1023 none),
  .inl (.ext_close 1023)]

theorem accepting_background : ∀ event, .inr event ∈ accepting → event.InBackground := by
  simp [accepting, Event.InBackground]

/-- The other descriptor still has the socket. -/
theorem session_sockets_accepting : ∃ w, Session.play {} noParameters accepting (World.initial ({} : SmallStack)) = some w ∧
    ∃ desc, w.shared.descriptors 1022 = .sctp desc ∧
      ∃ k o, desc.sctpSocketPtr = some k ∧ w.shared.sockets k = some o := by
  have hplay : ((Session.play {} noParameters accepting (World.initial ({} : SmallStack))).map fun w =>
      (w.shared.descriptors 1022).socket) = some (some (some 0)) := by decide +kernel
  obtain ⟨w, hw, hsocket⟩ := Option.map_eq_some_iff.mp hplay
  obtain ⟨desc, hdesc, -⟩ := refers_sctp.mp (refers_eq_some.mpr hsocket)
  have halone : Environment.interfere ({} : Environment Sctplib.small) = fun _ s => some s := rfl
  have hsession := session_play halone accepting_background (.nil _) hw
  exact ⟨w, hw, desc, hdesc, (session_sockets hsession).1 1022 desc hdesc (.inl (by decide))⟩

/-- A socket listens in slot 0, which `mayRemoveSocket` does not look at. The descriptor that it has accepted is
closed. -/
def accepting_zero : List (Call ⊕ Event Sctplib.small) := [
  .inl (.ext_close 0),
  .inl (.ext_socket .inet .stream true),
  .inl (.ext_socket .inet .stream true),
  .inl (.ext_close 3),
  .inl (.ext_bind 0 (some { host := "10.0.0.1", port := 5000 })),
  .inl (.ext_listen 0 5),
  .inr (.progress fun s => { s with associations := [(7, 1)] }),
  .inr (.callback (.communicationUp 7 1 1)),
  .inl (.ext_accept 0 none),
  .inl (.ext_close 3)]

/-- Slot 0 is an exception: its descriptor can outlive its socket. -/
theorem zero_outlives : ∃ calls w, Session calls (World.initial ({} : SmallStack) : World Sctplib.small) w ∧
    ∃ desc, w.shared.descriptors 0 = .sctp desc ∧ desc.sctpSocketPtr = some 1 ∧ w.shared.sockets 1 = none := by
  have hplay : ((Session.play { dtablesize := 4 } noParameters accepting_zero (World.initial ({} : SmallStack))).map
      fun w => ((w.shared.descriptors 0).socket, (w.shared.sockets 1).isNone)) = some (some (some 1), true) := by
    decide +kernel
  have hbackground : ∀ event, .inr event ∈ accepting_zero → event.InBackground := by
    simp [accepting_zero, Event.InBackground]
  obtain ⟨w, hw, hboth⟩ := Option.map_eq_some_iff.mp hplay
  obtain ⟨hsocket, hnone⟩ := Prod.mk.inj hboth
  obtain ⟨desc, hdesc, hk⟩ := refers_sctp.mp (refers_eq_some.mpr hsocket)
  have halone : Environment.interfere ({ dtablesize := 4 } : Environment Sctplib.small) = fun _ s => some s := rfl
  have hsession := session_play halone hbackground (.nil _) hw
  exact ⟨_, w, hsession, desc, hdesc, hk, Option.isNone_iff_eq_none.mp hnone⟩

/-- The call that deletes a socket is the `ext_close` of the last descriptor for it. -/
theorem session_deletes {stack : L.State} {S : SelectEnvironment} {T : LibraryAccess L} {call : Call} {r : Int}
    {k : SocketPtr} {o : SCTPSocket} (h : Session calls (World.initial stack) w) (hE : E.Single)
    (hrun : call.run E S T w = .ok r w') (ho : w.shared.sockets k = some o) :
    w'.shared.sockets k = none ↔ ∃ (i : Nat) (desc : SCTPSocketDesc), call = .ext_close i ∧
      w.shared.descriptors i = .sctp desc ∧ desc.sctpSocketPtr = some k ∧
      ∀ j desc', j ≠ 0 → j ≠ i → w.shared.descriptors j = .sctp desc' → desc'.sctpSocketPtr ≠ some k := by
  have hrely := hE.rely
  have hkeep : False → Call.ext_close 0 ∉ calls := False.elim
  obtain ⟨hregular, -⟩ := session_handles h (regular_initial stack) hkeep
  obtain ⟨-, hleads⟩ := (call_leads S T call hregular False.elim).of_ok hrun
  have halive : k ∈ w.shared.handles.alive := by simp [Shared.handles, ho]
  have hdead : w'.shared.sockets k = none ↔ k ∉ w'.shared.handles.alive := by simp [Shared.handles]
  have hbounded {i : Nat} {desc : SCTPSocketDesc} (hi : w.shared.descriptors i = .sctp desc) : i < MaxSockets :=
    hregular.bounded i (by simp [hi, ExtSocketDescriptor.socket])
  have hlast (i : Nat) : Last watched w.shared.handles i k ↔ ∀ j desc', j ≠ 0 → j ≠ i →
      w.shared.descriptors j = .sctp desc' → desc'.sctpSocketPtr ≠ some k := by
    constructor
    · intro hlast j desc' hzero hne hj hk
      exact hlast j ⟨Nat.one_le_iff_ne_zero.mpr hzero, hbounded hj⟩ hne (refers_sctp.mpr ⟨desc', hj, hk⟩)
    · intro hlast j hj hne hjk
      obtain ⟨desc', hj', hk⟩ := refers_sctp.mp hjk
      exact hlast j desc' (Nat.one_le_iff_ne_zero.mp hj.1) hne hj' hk
  rw [hdead]
  unfold Call.Leads at hleads
  constructor
  · intro hgone
    cases hcloses : call.closes with
    | none =>
      rw [hcloses] at hleads
      rcases hleads with hleads | hleads
      · exact absurd (hleads ▸ halive) hgone
      · exact absurd (hleads.alive halive) hgone
    | some i =>
      rw [hcloses] at hleads
      dsimp only at hleads
      have hdestroyed : k ∈ Destroyed watched w.shared.handles i := by
        by_contra hnot
        exact hgone (hleads ▸ ⟨halive, hnot⟩)
      obtain ⟨desc, hi, hk⟩ := refers_sctp.mp hdestroyed.1
      exact ⟨i, desc, (Call.closes_iff (hbounded hi)).mp hcloses, hi, hk, (hlast i).mp hdestroyed.2⟩
  · rintro ⟨i, desc, hcall, hi, hk, hothers⟩ hkept
    rw [(Call.closes_iff (hbounded hi)).mpr hcall] at hleads
    dsimp only at hleads
    rw [hleads] at hkept
    exact hkept.2 ⟨refers_sctp.mpr ⟨desc, hi, hk⟩, (hlast i).mpr hothers⟩

theorem session_deletes_accepting : ∃ w r w', Session.play {} noParameters accepting (World.initial ({} : SmallStack)) =
    some w ∧ Call.run {} {} noParameters (.ext_close 1022) w = .ok r w' ∧ (w'.shared.sockets 0 = none ↔
      ∃ (i : Nat) (desc : SCTPSocketDesc), Call.ext_close 1022 = .ext_close i ∧
        w.shared.descriptors i = .sctp desc ∧ desc.sctpSocketPtr = some 0 ∧
        ∀ j desc', j ≠ 0 → j ≠ i → w.shared.descriptors j = .sctp desc' → desc'.sctpSocketPtr ≠ some 0) := by
  have hplay : ((Session.play {} noParameters accepting (World.initial ({} : SmallStack))).bind fun w =>
      (Session.play {} noParameters [.inl (.ext_close 1022)] w).map fun _ => (w.shared.sockets 0).isSome) =
      some true := by decide +kernel
  obtain ⟨w, hw, hplay⟩ := Option.bind_eq_some_iff.mp hplay
  obtain ⟨w', hw', hsome⟩ := Option.map_eq_some_iff.mp hplay
  obtain ⟨r, hrun⟩ := play_call hw'
  obtain ⟨o, ho⟩ := Option.isSome_iff_exists.mp hsome
  have halone : Environment.interfere ({} : Environment Sctplib.small) = fun _ s => some s := rfl
  have hsession := session_play halone accepting_background (.nil _) hw
  exact ⟨w, r, w', hw, hrun, session_deletes hsession (single_alone halone) hrun ho⟩

end SocketApi
