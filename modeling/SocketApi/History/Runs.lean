import SocketApi.System
import SocketApi.History.Operations

/-!
# Histories

Runs of any calls, callbacks and collections, in which what an object has been stays to be seen:
what an association has been told of, the queues of sockets and associations, and the order in
which `accept` hands out associations.
-/

namespace SocketApi

open Effect SCTPSocketMaster SCTPSocket Sliding

set_option synthInstance.maxSize 2000

variable {L : Sctplib} {E : Environment L} {s₀ : Shared L}

/-- The steps of a run: a new socket, any public operation, a callback, a collection of the event loop,
what the library does on its own, and a reading of the clock. -/
inductive Event (L : Sctplib) where
  | openSocket (family : Family) (flags : SocketFlags)
  | perform (op : Operation)
  | callback (c : Callback)
  | collect
  | progress (step : L.State → L.State)
  | clock (reading : UInt64)

def Event.run : Event L → Environment L → Act L Unit
  | .openSocket family flags, _ => discard (SCTPSocket.new family flags)
  | .perform op, E => op.run E
  | .callback c, E => locked E (c.run E)
  | .collect, E => socketGarbageCollection E (notif E)
  | .progress step, _ => update fun s => { s with stack := step s.stack }
  | .clock reading, _ => update fun s => { s with now := reading.toNat }

/-- Every event may happen at any time. -/
def Event.Free (_ : Event L) (_ : Shared L) : Prop := True

theorem callback_goesOn [Rely E (GoesOn s₀)] (c : Callback) : UnderLock (GoesOn s₀) AnyHalt (c.run E) := by
  have hestablish (p : AssocPtr) (id : AssocID) : UnderLock (GoesOn s₀) AnyHalt (establishAssociation E p id) := by
    unfold establishAssociation
    infer_instance
  have hroom (p : AssocPtr) : UnderLock (L := L) (GoesOn s₀) AnyHalt (offerRoom p) := by
    unfold offerRoom
    infer_instance
  have hadd (s : SocketPtr) (id : AssocID) (n : SCTPNotification) (w : World L) :
      StaysFrom (GoesOn s₀) AnyHalt (addNotification E s id n) w := Keeps.post w
  have hincoming (s : SocketPtr) (id : AssocID) (n : SCTPNotification) (w : World L) :
      StaysFrom (GoesOn s₀) AnyHalt (incoming E s id n) w := Keeps.post w
  refine ⟨fun w => ?_⟩
  cases c with
  | dataArrive id streamID length protoID unordered => exact dataArriveNotif_stays fun s c _ _ _ => hadd s id c w
  | sendFailure id => exact sendFailureNotif_stays fun s c _ _ _ => hadd s id c w
  | networkStatusChange id path state => exact networkStatusChangeNotif_stays fun _ s c _ _ _ => hadd s id c w
  | communicationError id => exact communicationErrorNotif_stays fun s c _ _ _ => hadd s id c w
  | restart id => exact restartNotif_stays fun _ _ s c _ _ _ => hadd s id c w
  | shutdownReceived id => exact shutdownReceivedNotif_stays fun s c _ _ _ => hadd s id c w
  | communicationUp id ins outs =>
    exact communicationUpNotif_stays (fun _ p _ _ => (hestablish p id).post w) (fun s n _ => hincoming s id n w)
      inferInstance
  | communicationLost id => exact communicationLostNotif_stays trivial
  | shutdownComplete id => exact shutdownCompleteNotif_stays trivial
  | queueStatusChange id => exact queueStatusChangeNotif_stays fun _ p _ _ => (hroom p).post w

theorem post_later {x : Act L Unit} {s : Shared L} (h : Anywhere (GoesOn s₀) AnyHalt x) (hs : s₀.Later s) :
    Post x { shared := s } (fun _ w => s₀.Later w.shared) fun e w => e = .suspended → s₀.Later w.shared := by
  refine (h.post _).mono (fun _ w hw => ?_) fun e w hw he => ?_
  · exact (hw (Nat.zero_le _)).1 hs
  · exact ((hw (Nat.zero_le _)).2 he).2 hs

/-- No event takes anything back. -/
theorem event_preserved : Preserved E (Event.run (L := L)) Event.Free s₀.Later := by
  intro event turns s _ hs hturns
  have : Rely (E.replay turns) (GoesOn s₀) := ⟨fun ht _ => hturns _ (List.mem_of_getElem? ht)⟩
  cases event with
  | openSocket family flags => exact post_later (x := discard (SCTPSocket.new family flags)) inferInstance hs
  | perform op =>
    cases op with
    | socket k op => exact post_later (x := SCTPSocket.perform (E.replay turns) k op) inferInstance hs
    | association p op => exact post_later (x := SCTPAssociation.perform (E.replay turns) p op) inferInstance hs
  | callback c =>
    have hc : UnderLock (GoesOn s₀) AnyHalt (c.run (E.replay turns)) := callback_goesOn c
    exact post_later (x := locked _ _) inferInstance hs
  | collect => exact post_later (x := socketGarbageCollection _ _) inferInstance hs
  | progress step => exact hs.trans (.of_eq rfl rfl rfl rfl)
  | clock reading => exact hs.trans (.of_eq rfl rfl rfl rfl)

theorem later_of_run {σ₀ σ : System (Event L) L} (hpending : σ₀.pending = [])
    (hrun : System.Run E Event.run Event.Free σ₀ σ) : σ₀.shared.Later σ.shared := by
  have hsound : σ₀.Sound Event.Free σ₀.shared.Later := ⟨.refl _, by rw [hpending]; exact List.forall_mem_nil _⟩
  exact (hsound.run event_preserved hrun).1

/-! ## Objects over a run -/

/-- A socket that listens has been told of an association. -/
def greeting : List (Event Sctplib.small) := [
  .openSocket .inet {},
  .perform (.socket 0 (.bind 5000 1 1 [{ host := "10.0.0.1", port := 5000 }])),
  .perform (.socket 0 (.listen 5)),
  .progress fun s => { s with associations := [(7, 1), (8, 1)] },
  .callback (.communicationUp 7 1 1)]

/-- Another association comes up, and the first one is lost. -/
def parting : List (Event Sctplib.small) := [.callback (.communicationUp 8 1 1), .callback (.communicationLost 7)]

theorem greeting_parting : ((System.play {} Event.run 9 greeting (World.initial ({} : SmallStack)).shared).bind fun s =>
    (System.play {} Event.run 9 parting s).map fun t => (decide (0 < s.nextAssociation),
      (t.associations 0).map (·.communicationLostNotification))) = some (true, some true) := by
  decide +kernel

/-- In every reachable state `accept` will take the associations in the order in which they were made, each
of them once, and a lost association is also shut down. -/
theorem reachable_history {stack : L.State} {σ : System (Event L) L}
    (hrun : System.Run E Event.run Event.Free ⟨(World.initial stack).shared, []⟩ σ) :
    (∀ k o, σ.shared.sockets k = some o → InOrder σ.shared.nextAssociation o.connectionRequests) ∧
    ∀ p a, σ.shared.associations p = some a → a.Sound := by
  have hlater := later_of_run rfl hrun
  constructor
  · intro k o ho
    rcases hlater.socket k o ho with ⟨o₀, ho₀, -⟩ | ⟨-, -, hinOrder⟩
    · cases ho₀
    · exact hinOrder
  · intro p a ha
    rcases hlater.association p a ha with ⟨a₀, ha₀, -⟩ | ⟨-, -, hsound⟩
    · cases ha₀
    · exact hsound

theorem reachable_history_greeting : ∃ s, System.play {} Event.run 9 (greeting ++ parting)
    (World.initial ({} : SmallStack)).shared = some s ∧ ∃ o, s.sockets 0 = some o ∧
      o.connectionRequests.map (·.association) = [0, 1] ∧ InOrder s.nextAssociation o.connectionRequests := by
  have hplay : ((System.play {} Event.run 9 (greeting ++ parting) (World.initial ({} : SmallStack)).shared).bind fun s =>
      (s.sockets 0).map fun o => o.connectionRequests.map (·.association)) = some [0, 1] := by decide +kernel
  obtain ⟨s, hs, hsocket⟩ := Option.bind_eq_some_iff.mp hplay
  obtain ⟨o, ho, hrequests⟩ := Option.map_eq_some_iff.mp hsocket
  have hrun : System.Run {} Event.run Event.Free ⟨(World.initial ({} : SmallStack)).shared, []⟩ ⟨s, []⟩ :=
    System.run_play (fun _ _ => trivial) hs
  exact ⟨s, hs, o, ho, hrequests, (reachable_history hrun).1 0 o ho⟩

end SocketApi
