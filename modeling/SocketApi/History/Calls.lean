import SocketApi.History.Steps

/-!
# Calls that go on from a state

The parts of closing, sending, accepting, associating and receiving, under the relation of
`SocketApi.History.Steps`. A request is taken and a record is changed only while it stands first.
-/

namespace SocketApi

open Effect SCTPSocketMaster SCTPSocket Sliding

set_option synthInstance.maxSize 2000

variable {L : Sctplib} {E : Environment L} {s₀ : Shared L}

/-! ## The first entry of a queue -/

theorem later_takeFirst {s : Shared L} {k : SocketPtr} {o : SCTPSocket} (ho : s.sockets k = some o) :
    s.Later (s.setSocket k fun o' => { o' with connectionRequests := o.connectionRequests.tail }) :=
  .setSocket fun o' ho' => by
    obtain rfl := Option.some.inj (ho.symm.trans ho')
    exact ⟨.same _, .tail _, InOrder.tail⟩

/-- The record `n` stands first in a queue. -/
def QueueRef.Front (s : Shared L) (n : SCTPNotification) : QueueRef → Prop
  | .global k => ∃ o, s.sockets k = some o ∧ o.globalQueue.getNotification = some n
  | .inQueue p => ∃ a, s.associations p = some a ∧ a.inQueue.getNotification = some n

theorem slides_update {q : SCTPNotificationQueue} {n m : SCTPNotification} (hq : q.getNotification = some n)
    (h : n.Read m) : Slides SCTPNotification.Read q (q.updateNotification m) := by
  cases q with
  | nil => cases hq
  | cons n' q =>
    obtain rfl := Option.some.inj hq
    exact .touch h q

theorem within_update {queue : QueueRef} {n m : SCTPNotification} {w : World L} (hfront : queue.Front w.shared n)
    (h : n.Read m) : Post (queue.modify (·.updateNotification m) : Act L Unit) w
      (fun _ w' => Within (GoesOn s₀) false w w') fun e w' => Stops (GoesOn s₀) AnyHalt false e w w' := by
  cases queue with
  | global k =>
    obtain ⟨o, ho, hq⟩ := hfront
    unfold QueueRef.modify
    simp only [post_setSocket, ho]
    refine within_later (.setSocket fun o' ho' => ?_) le_rfl
    obtain rfl := Option.some.inj (ho.symm.trans ho')
    exact ⟨slides_update hq h, .same _, id⟩
  | inQueue p =>
    obtain ⟨a, ha, hq⟩ := hfront
    unfold QueueRef.modify
    simp only [post_setAssociation, ha]
    refine within_later (.setAssociation fun a' ha' => ?_) le_rfl
    obtain rfl := Option.some.inj (ha.symm.trans ha')
    exact ⟨rfl, .inl rfl, id, id, id, id, id, slides_update hq h, .same _⟩

instance {queue : QueueRef} : Anywhere (GoesOn s₀) AnyHalt (queue.modify (·.dropNotification) : Act L Unit) := by
  cases queue <;> unfold QueueRef.modify <;> infer_instance

/-! ## Closing -/

instance : Ends (GoesOn s₀) where
  Due _ _ _ := True
  lasting _ _ := trivial
  shutdown _ s := ⟨Shared.Later.goesOn (t := { s with stack := _ }) (.of_eq rfl rfl rfl rfl), fun _ _ => trivial⟩
  abort _ s := ⟨Shared.Later.goesOn (t := { s with stack := _ }) (.of_eq rfl rfl rfl rfl), fun _ _ => trivial⟩

instance {k : SocketPtr} {id : AssocID} {n : SCTPNotification} :
    UnderLock (GoesOn s₀) AnyHalt (addNotification E k id n) := by
  unfold addNotification
  refine .seq fun found => ?_
  cases found <;> infer_instance

variable [Rely E (GoesOn s₀)]

section

variable {deliver : Deliver L} [Delivers (GoesOn s₀) AnyHalt deliver]

instance {p : AssocPtr} {a : SCTPAssociation} :
    UnderLock (GoesOn s₀) AnyHalt (SCTPAssociation.destructorShutdown E deliver p a) := by
  unfold SCTPAssociation.destructorShutdown SCTPSocketMaster.delayedDeleteAssociation
  infer_instance

omit [Rely E (GoesOn s₀)] in
instance {a : SCTPAssociation} : UnderLock (GoesOn s₀) AnyHalt (SCTPAssociation.destructorUnlist a : Act L _) := by
  unfold SCTPAssociation.destructorUnlist
  refine .seq fun o => ?_
  cases o.associationList.find a.associationID <;> infer_instance

omit [Rely E (GoesOn s₀)] in
instance {list : List InstanceID} : UnderLock (GoesOn s₀) AnyHalt (unregisterUnused list : Act L _) := by
  induction list with
  | nil => unfold unregisterUnused; infer_instance
  | cons i rest ih => unfold unregisterUnused; infer_instance

instance {p : AssocPtr} : Anywhere (GoesOn s₀) AnyHalt (SCTPAssociation.delete E deliver p) := by
  unfold SCTPAssociation.delete SCTPAssociation.destructor
  infer_instance

end

instance : Closing E (GoesOn s₀) AnyHalt where
  delete _ _ := inferInstance
  reclaim _ _ _ w _ := by
    unfold SCTPSocket.reclaim
    exact Keeps.post w
  unregister := inferInstance
  collect _ := Keeps.post _

instance : Ending E (GoesOn s₀) AnyHalt where
  lose {_ _ _ w} _ _ := by
    unfold loseAssociation
    exact Keeps.post w
  complete {_ _ _ w} _ _ := by
    unfold completeShutdown
    exact Keeps.post w

/-! ## Sending -/

instance : Sends (GoesOn s₀) AnyHalt where
  attempt id buffer params a := by
    unfold SCTPSocket.sendAttempt
    dsimp only
    infer_instance
  append _ _ := inferInstance
  tail _ := inferInstance

/-! ## Accepting -/

omit [Rely E (GoesOn s₀)] in
theorem post_requestAddresses (port : Nat) (hosts : List String) (w : World L) :
    Post (requestAddresses E port hosts) w (fun _ w' => w' = w) fun e w' => e = .undefinedBehaviour ∧ w' = w := by
  induction hosts with
  | nil => exact rfl
  | cons host rest ih =>
    unfold requestAddresses
    cases createSocketAddress E host port with
    | some a =>
      rw [post_bind]
      exact ih.imp fun _ _ h => h
    | none =>
      dsimp only
      split
      · exact rfl
      · exact ⟨rfl, rfl⟩

/-- Programs that stay on the way behind the request that has been taken. -/
theorem stays_takeFirst {β : Type} {held : Bool} {k : SocketPtr} {o : SCTPSocket} {r : IncomingConnection}
    {requests : List IncomingConnection} {w : World L} {x : Act L β} (ho : w.shared.sockets k = some o)
    (hr : o.connectionRequests = r :: requests) (hx : Keeps (Within (GoesOn s₀) held) (Stops (GoesOn s₀) AnyHalt held) x) :
    Post (do
      setSocket k fun o => { o with connectionRequests := requests }
      x) w (fun _ w' => Within (GoesOn s₀) held w w') fun e w' => Stops (GoesOn s₀) AnyHalt held e w w' := by
  have hlater := later_takeFirst ho
  rw [hr, List.tail_cons] at hlater
  rw [post_bind, post_setSocket]
  simp only [ho]
  exact hx.after (within_later hlater le_rfl)

instance {k : SocketPtr} {withAddresses : Bool} :
    UnderLock (GoesOn s₀) AnyHalt (takeRequest E k withAddresses) := by
  refine ⟨fun w => ?_⟩
  unfold takeRequest
  rw [post_bind, post_socketAt]
  cases ho : w.shared.sockets k with
  | none => exact stops_undefined w
  | some o =>
    dsimp only
    cases hr : o.connectionRequests with
    | nil => exact within_later (.refl _) le_rfl
    | cons r requests =>
      have hrest (addresses : Option (List SocketAddress)) : UnderLock (GoesOn s₀) AnyHalt (do
          hold r.association
          let data ← hasData E k
          setSocket k fun o => { o with readReady := data || !o.connectionRequests.isEmpty }
          return (some r.association, addresses) : Act L _) := by
        unfold hold
        infer_instance
      dsimp only
      rw [post_ite]
      split
      · rw [post_bind]
        refine (post_requestAddresses _ _ w).mono (fun addresses w' hw' => ?_) fun e w' hw' => ?_
        · subst hw'
          exact stays_takeFirst ho hr (hrest addresses)
        · obtain ⟨rfl, rfl⟩ := hw'
          exact stops_undefined _
      · exact stays_takeFirst ho hr (hrest none)

instance {k : SocketPtr} {p : AssocPtr} : UnderLock (GoesOn s₀) AnyHalt (addConnectionless k p : Act L _) := by
  unfold addConnectionless release
  infer_instance

instance : Accepts E (GoesOn s₀) AnyHalt where
  take _ _ := inferInstance
  acceptIncoming _ := underLock_acceptIncoming inferInstance (fun _ => inferInstance) fun _ => inferInstance

/-! ## Associating -/

instance : Connects E (GoesOn s₀) AnyHalt where
  associateBegin s streams attempts timeout addresses := by
    unfold associateBegin associateID hold enter
    infer_instance
  associateEnd p := by unfold leave; infer_instance
  enter p := by unfold enter; infer_instance
  leave p := by unfold leave; infer_instance
  release p := by unfold release; infer_instance
  connect s p := by unfold enter; infer_instance
  unlist s p := by infer_instance
  sendToEnd p := by unfold sendToEnd leave; infer_instance

/-! ## Receiving -/

omit [Rely E (GoesOn s₀)] in
theorem post_receiveAddress (id : AssocID) (i : Int) (wanted : Bool) (w : World L) :
    Post (receiveAddress E id i wanted) w (fun _ w' => w' = w) fun _ _ => False := by
  unfold receiveAddress
  rw [post_bind, post_shared]
  dsimp only
  split
  · exact rfl
  · split <;> exact rfl

omit [Rely E (GoesOn s₀)] in
/-- A receive of data changes nothing but the amount that is left of the first record. -/
theorem within_receiveData {queue : QueueRef} {n : SCTPNotification} {sda : SctpDataArrive} {io : ReceiveIO}
    {wantAddress : Bool} {w : World L} (hfront : queue.Front w.shared n) (hn : n.content = .dataArrive sda) :
    Post (receiveData E queue n sda io wantAddress) w
      (fun _ w' => Within (GoesOn s₀) false w w') fun e w' => Stops (GoesOn s₀) AnyHalt false e w w' := by
  have hsame : Within (GoesOn s₀) false w w := within_later (.refl _) le_rfl
  unfold receiveData
  dsimp only
  split
  · exact hsame
  · rw [post_bind, post_library]
    let w₁ : World L := { w with shared := { w.shared with stack :=
      (L.receive w.shared.stack sda.sda_assoc_id sda.sda_stream (min sda.sda_bytes_arrived io.bufferSize) io.flags.peek).2 } }
    have hfirst : Within (GoesOn s₀) false w w₁ := within_later (.of_eq rfl rfl rfl rfl) le_rfl
    have hfront₁ : queue.Front w₁.shared n := by
      cases queue with
      | global k => exact hfront
      | inQueue p => exact hfront
    have hupdate {m : SCTPNotification} (hm : n.Read m) (r : ReceiveResult × Bool) : Post (do
        queue.modify (·.updateNotification m)
        return r : Act L _) w₁ (fun _ w' => Within (GoesOn s₀) false w w') fun e w' =>
          Stops (GoesOn s₀) AnyHalt false e w w' := by
      rw [post_bind]
      exact (within_update hfront₁ hm).mono (fun _ _ h => Steps.trans (Stops (GoesOn s₀) AnyHalt false) hfirst h)
        fun _ _ h => Steps.absorb hfirst h
    cases (L.receive w.shared.stack sda.sda_assoc_id sda.sda_stream (min sda.sda_bytes_arrived io.bufferSize)
      io.flags.peek).1 with
    | none => exact hfirst
    | some r =>
      rw [post_bind, post_shared, post_bind]
      refine (post_receiveAddress _ _ _ _).mono (fun address w' hw' => ?_) fun _ _ h => h.elim
      subst hw'
      split
      · exact hupdate (.rfl n) _
      · split
        · have hless (left : Nat) (hleft : left ≤ sda.sda_bytes_arrived) :
              n.Read { n with content := .dataArrive { sda with sda_bytes_arrived := left } } := by
            refine ⟨?_, rfl, rfl⟩
            rw [hn]
            exact .less sda hleft
          exact hupdate (hless _ (Nat.sub_le _ _)) _
        · exact hfirst

/-- A receive of a notification changes nothing but the position in the first record. -/
theorem within_receiveNotification {k : SocketPtr} {queue : QueueRef} {n : SCTPNotification} {io : ReceiveIO}
    {flags : NotificationFlags} {w : World L} (hfront : queue.Front w.shared n) :
    Post (receiveNotification E k queue n io flags) w
      (fun _ w' => Within (GoesOn s₀) false w w') fun e w' => Stops (GoesOn s₀) AnyHalt false e w w' := by
  have hupdate (position : Nat) (f : Unit → ReceiveResult × Bool) : Post (do
      let u ← queue.modify (·.updateNotification { n with contentPosition := position })
      return f u : Act L _) w (fun _ w' => Within (GoesOn s₀) false w w') fun e w' =>
        Stops (GoesOn s₀) AnyHalt false e w w' := by
    rw [post_bind]
    exact within_update hfront ⟨.same _, rfl, rfl⟩
  have hcode (io : ReceiveIO) : Anywhere (GoesOn s₀) AnyHalt (do
      let result ← getErrorCode E k io.assocID
      if result = 0 then
        return ({ result := -EAGAIN, io := { io with flags := { io.flags with notification := false } } }, false)
      return ({ result, io }, false) : Act L (ReceiveResult × Bool)) := inferInstance
  have habort {h : Halt} (hh : h ≠ .suspended) (f : Unit → Act L (ReceiveResult × Bool)) : Post (throw h >>= f) w
      (fun _ w' => Within (GoesOn s₀) false w w') fun e w' => Stops (GoesOn s₀) AnyHalt false e w w' := by
    rw [post_bind]
    exact fun _ => ⟨trivial, fun h' => absurd h' hh⟩
  unfold receiveNotification
  dsimp only
  split
  · exact habort Halt.noConfusion _
  · split
    · split
      · exact hupdate _ _
      · split
        · exact hupdate _ _
        · exact within_later (.refl _) le_rfl
    · exact (hcode { io with assocID := n.content.headerAssocID }).post w

theorem within_receiveHead {k : SocketPtr} {queue : QueueRef} {n : SCTPNotification} {io : ReceiveIO}
    {wantAddress : Bool} {flags : NotificationFlags} {w : World L} (hfront : queue.Front w.shared n) :
    Post (receiveHead E k queue n io wantAddress flags) w
      (fun _ w' => Within (GoesOn s₀) false w w') fun e w' => Stops (GoesOn s₀) AnyHalt false e w w' := by
  unfold receiveHead
  cases hn : n.content with
  | dataArrive sda => exact within_receiveData hfront hn
  | undefined | assocChange | paddrChange | remoteError | sendFailed | shutdownEvent =>
    exact within_receiveNotification hfront

omit [Rely E (GoesOn s₀)] in
theorem post_get_front (queue : QueueRef) (w : World L) :
    Post (queue.get : Act L _) w (fun q w' => w' = w ∧ ∀ n, q.getNotification = some n → queue.Front w.shared n)
      fun _ _ => True := by
  cases queue with
  | global k =>
    unfold QueueRef.get
    rw [post_bind, post_socketAt]
    cases ho : w.shared.sockets k with
    | none => trivial
    | some o => exact ⟨rfl, fun n hn => ⟨o, ho, hn⟩⟩
  | inQueue p =>
    unfold QueueRef.get
    rw [post_bind, post_associationAt]
    cases ha : w.shared.associations p with
    | none => trivial
    | some a => exact ⟨rfl, fun n hn => ⟨a, ha, hn⟩⟩

omit [Rely E (GoesOn s₀)] in
/-- What `fetchNotification` leaves with stands first. -/
theorem post_fetch_front (k : SocketPtr) (queue : QueueRef) (io : ReceiveIO) (flags : NotificationFlags) (w : World L) :
    Post (fetchNotification E k queue io flags) w
      (fun fetched w' => ∀ n, fetched = .notification n → queue.Front w'.shared n) fun _ _ => True := by
  refine Post.loop (I := fun _ => True) (fun _ _ => trivial) (fun rest hrest w _ => ?_) E.patience w trivial
  have hany {β : Type} {x : Act L β} {f : β → Act L Fetched} (w : World L)
      (hf : ∀ b w', Post (f b) w' (fun fetched w' => ∀ n, fetched = .notification n → queue.Front w'.shared n)
        fun _ _ => True) : Post (x >>= f) w (fun fetched w' => ∀ n, fetched = .notification n → queue.Front w'.shared n)
          fun _ _ => True := (post_bind f).mpr (post_true.imp fun b w' _ => hf b w')
  rw [post_bind]
  refine (post_get_front queue w).imp fun q w' ⟨hw', hfront⟩ => ?_
  subst hw'
  cases hq : q.getNotification with
  | some n =>
    intro m hm
    cases hm
    exact hfront n hq
  | none =>
    refine hany _ fun code _ => hany _ fun _ _ => ?_
    dsimp only
    rw [post_ite]
    split
    · refine hany _ fun q _ => ?_
      rw [post_ite]
      split <;> exact fun _ => Fetched.noConfusion
    · rw [post_ite]
      split
      · exact fun _ => Fetched.noConfusion
      · exact hany _ fun _ _ => hany _ fun _ w' => hrest w' trivial

instance {k : SocketPtr} {queue : QueueRef} {id : AssocID} : UnderLock (GoesOn s₀) AnyHalt (dropHead E k queue id) := by
  have hmodify : UnderLock (GoesOn s₀) AnyHalt (queue.modify (·.dropNotification) : Act L Unit) :=
    within_of_anywhere inferInstance
  unfold dropHead
  refine .seq fun _ => .seq fun found => ?_
  cases found <;> infer_instance

variable (E s₀) in
/-- What follows on the fetch of a record. -/
theorem moves_receiveRest (k : SocketPtr) {queue : QueueRef} {n : SCTPNotification} (io : ReceiveIO)
    (wantAddress : Bool) (flags : NotificationFlags) {w : World L} (hw : 1 ≤ w.thread.lockLevel)
    (hfront : queue.Front w.shared n) : Post (do
      let r ← receiveHead E k queue n io wantAddress flags
      if !r.2 then
        dropHead E k queue r.1.io.assocID
      unlock E
      return r.1) w
      (fun _ w' => GoesOn s₀ (decide (1 < w.thread.lockLevel)) w.shared w'.shared ∧
        w.thread.lockLevel + 0 ≤ w'.thread.lockLevel + 1)
      fun h w' => AnyHalt h w.shared ∧ (h = .suspended → w.thread.lockLevel ≤ 1 ∧ GoesOn s₀ false w.shared w'.shared) := by
  have hend (r : ReceiveResult × Bool) : Moves (GoesOn s₀) AnyHalt 1 (fun _ => 0) (do
      if !r.2 then
        dropHead E k queue r.1.io.assocID
      unlock E
      return r.1) := by
    have hunlock : Moves (GoesOn s₀) AnyHalt 1 (fun _ => 0) (do
        unlock E
        return r.1 : Act L ReceiveResult) := .bind (.unlock (a := 0)) fun _ => .pure le_rfl
    have hdrop : UnderLock (GoesOn s₀) AnyHalt (dropHead E k queue r.1.io.assocID) := inferInstance
    exact .ite (.bind (.underLock hdrop) fun _ => hunlock) hunlock
  rw [post_bind]
  have hhead : Post (receiveHead E k queue n io wantAddress flags) w
      (fun _ w' => Within (GoesOn s₀) false w w') fun e w' => Stops (GoesOn s₀) AnyHalt false e w w' :=
    within_receiveHead hfront
  refine hhead.mono (fun r w₁ hr => ?_) fun e w₁ hr => ?_
  · obtain ⟨hR, hlevel⟩ := hr (Nat.zero_le _)
    refine (hend r w₁ (hw.trans hlevel)).mono (fun _ w₂ ⟨hR', hlevel'⟩ => ?_) fun e w₂ ⟨hV, hs⟩ => ?_
    · exact ⟨hR' ∘ hR, by omega⟩
    · refine ⟨trivial, fun h => ?_⟩
      obtain ⟨hlevel', hR'⟩ := hs h
      exact ⟨by omega, hR' ∘ hR⟩
  · refine ⟨trivial, fun h => ?_⟩
    obtain ⟨hlevel, hR⟩ := (hr (Nat.zero_le _)).2 h
    exact ⟨by omega, hR⟩

instance {k : SocketPtr} {queue : QueueRef} {io : ReceiveIO} {wantAddress : Bool} {flags : NotificationFlags} :
    Anywhere (GoesOn s₀) AnyHalt (internalReceive E k queue io wantAddress flags) := by
  refine Moves.keeps (.ite (.pure le_rfl) (.bind .lock fun _ w hw => ?_))
  have hfetch : Moves (GoesOn s₀) AnyHalt 1 _ (fetchNotification E k queue io flags) := moves_fetchNotification
  rw [post_bind]
  refine ((hfetch w hw).and (post_fetch_front k queue io flags w)).mono ?_ ?_
  · intro fetched w₁ ⟨⟨hR, hlevel⟩, hfront⟩
    cases fetched with
    | returned r => exact ⟨hR, hlevel⟩
    | notification n =>
      dsimp only at hlevel ⊢
      have hheld : 1 ≤ w₁.thread.lockLevel := by omega
      have hrest := moves_receiveRest E s₀ k io wantAddress flags hheld (hfront n rfl)
      refine hrest.mono (fun _ w₂ ⟨hR', hlevel'⟩ => ?_) fun e w₂ ⟨_, hs⟩ => ?_
      · exact ⟨hR' ∘ hR, by omega⟩
      · refine ⟨trivial, fun h => ?_⟩
        obtain ⟨hlevel', hR'⟩ := hs h
        exact ⟨by omega, hR' ∘ hR⟩
  · exact fun _ _ h => h.1

instance {k : SocketPtr} {io : ReceiveIO} {wantAddress : Bool} :
    Anywhere (GoesOn s₀) AnyHalt (SCTPSocket.receiveFrom E k io wantAddress) := by
  unfold SCTPSocket.receiveFrom
  infer_instance

instance {p : AssocPtr} {io : ReceiveIO} {wantAddress : Bool} :
    Anywhere (GoesOn s₀) AnyHalt (SCTPAssociation.receiveFrom E p io wantAddress) := by
  unfold SCTPAssociation.receiveFrom
  infer_instance

end SocketApi
