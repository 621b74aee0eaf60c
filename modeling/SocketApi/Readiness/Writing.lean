import SocketApi.Readiness.Flags
import SocketApi.System

/-!
# Write readiness

An association is ready for writing from the moment its communication is up, lost or shut down,
and nothing ever takes this back: the answer of a send is noted in the socket only. So the
association is as ready as select is told if and only if no send was refused for want of room.
-/

namespace SocketApi

open Effect SCTPSocketMaster

set_option synthInstance.maxSize 2000

variable {L : Sctplib} {E : Environment L.watched} {α β : Type} {φ ψ χ : AssocPtr → Bool → Bool → Prop}
  {X : Set AssocPtr} {p : AssocPtr}

/-! ## Changing from one property to another -/

/-- With the master locked the program leads from the property `φ` to the property `ψ`. -/
def Shifts (φ ψ : AssocPtr → Bool → Bool → Prop) (X : Set AssocPtr) (x : Act L.watched α) : Prop :=
  ∀ w, 0 < w.thread.lockLevel → Post x w
    (fun _ w' => FlagShift φ ψ X true w.shared w'.shared ∧ w.thread.lockLevel ≤ w'.thread.lockLevel)
    fun h _ => h ≠ .suspended

namespace Shifts

theorem of_underLock {x : Act L.watched α} (h : UnderLock (FlagStep φ X) AnyHalt x) : Shifts φ φ X x := by
  intro w hw
  refine (h.post w).mono (fun _ w' hr => ?_) fun _ _ hr hs => ?_
  · obtain ⟨hstep, hlevel⟩ := hr hw
    rw [decide_eq_true hw] at hstep
    exact ⟨hstep, hlevel⟩
  · have := ((hr hw).2 hs).1
    omega

/-- With the master unlocked nothing is claimed. -/
theorem stays_of_held {R : Bool → Shared L.watched → Shared L.watched → Prop} {x : Act L.watched α}
    {w : World L.watched}
    (h : 0 < w.thread.lockLevel → Post x w
      (fun _ w' => R true w.shared w'.shared ∧ w.thread.lockLevel ≤ w'.thread.lockLevel) fun h _ => h ≠ .suspended) :
    StaysFrom R AnyHalt x w := by
  by_cases hw : 0 < w.thread.lockLevel
  · refine (h hw).mono (fun _ w' ⟨hR, hlevel⟩ _ => ⟨?_, hlevel⟩) fun _ _ hr _ => ⟨trivial, fun hs => absurd hs hr⟩
    rwa [decide_eq_true hw]
  · exact post_true.mono (fun _ _ _ h => absurd h hw) fun _ _ _ h => absurd h hw

/-- A change of an association that was told of. -/
theorem notice {x : Act L.watched α} (h : Shifts φ ψ {p} x) {w : World L.watched} {s : SocketPtr} {id : AssocID}
    (hp : w.shared.Lists s id p) (htold : w.shared.record.told id = true) (hw : 0 < w.thread.lockLevel) : Post x w
      (fun _ w' => FlagShift φ ψ ∅ true w.shared w'.shared ∧ w.thread.lockLevel ≤ w'.thread.lockLevel)
      fun h _ => h ≠ .suspended := by
  refine (h w hw).imp fun _ w' ⟨hshift, hlevel⟩ => ⟨?_, hlevel⟩
  refine ⟨hshift.flagged, hshift.listed, fun _ => (hshift.changes rfl).notice fun hlisted a ha => ?_⟩
  obtain ⟨o, ho, hfind⟩ := hp
  obtain ⟨_, hid⟩ := hlisted.entry s o ho _ (Multimap.find_eq_some_mem hfind)
  rcases hid a ha with hid | hid
  · exact .inr (hid ▸ htold)
  · exact .inl hid

theorem stays {x : Act L.watched α} (h : Shifts φ φ {p} x) {w : World L.watched} {s : SocketPtr} {id : AssocID}
    (hp : w.shared.Lists s id p) (htold : w.shared.record.told id = true) : StaysFrom (FlagStep φ ∅) AnyHalt x w :=
  stays_of_held (h.notice hp htold)

theorem bind {x : Act L.watched α} {f : α → Act L.watched β} (hx : Shifts φ ψ X x) (hf : ∀ a, Shifts ψ χ X (f a)) :
    Shifts φ χ X (x >>= f) := by
  intro w hw
  refine (hx w hw).bind fun a w₁ ⟨hshift, hlevel⟩ => ?_
  exact (hf a w₁ (hw.trans_le hlevel)).imp fun _ w₂ ⟨hshift', hlevel'⟩ => ⟨hshift.trans hshift', hlevel.trans hlevel'⟩

/-- A change of the flags of one association. -/
theorem setAssociation {f : SCTPAssociation → SCTPAssociation} (hX : p ∈ X) (hid : ∀ a, (f a).Follows a)
    (hp : ∀ a, φ p a.writeReady a.established → ψ p (f a).writeReady (f a).established)
    (hq : ∀ q write established, q ≠ p → φ q write established → ψ q write established) :
    Shifts φ ψ X (setAssociation p f : Act L.watched _) := by
  intro w _
  rw [post_setAssociation]
  cases hassociation : w.shared.associations p with
  | none => exact Halt.noConfusion
  | some a =>
    have hself : (w.shared.setAssociation p f).associations p = some (f a) := by
      unfold Shared.setAssociation
      dsimp only
      rw [Function.update_self, hassociation]
      rfl
    have hother {q : AssocPtr} (hqp : q ≠ p) : (w.shared.setAssociation p f).associations q = w.shared.associations q :=
      Function.update_of_ne hqp ..
    refine ⟨⟨fun h q a' ha' => ?_, fun h => ⟨fun q a' ha' => ?_, fun t o ho e he => ?_⟩,
      fun _ => ⟨fun _ h => h, le_rfl, fun _ q a' ha' _ => ?_⟩⟩, le_rfl⟩
    · by_cases hqp : q = p
      · subst hqp
        obtain rfl := Option.some.inj (hself.symm.trans ha')
        exact hp a (h q a hassociation)
      · exact hq q _ _ hqp (h q a' ((hother hqp).symm.trans ha'))
    · by_cases hqp : q = p
      · exact h.bound q a (hqp ▸ hassociation)
      · exact h.bound q a' ((hother hqp).symm.trans ha')
    · obtain ⟨hlt, hentry⟩ := h.entry t o ho e he
      refine ⟨hlt, fun a' ha' => ?_⟩
      by_cases hep : e.2 = p
      · rw [hep] at ha'
        obtain rfl := Option.some.inj (hself.symm.trans ha')
        rcases hid a with h' | h'
        · rw [h']
          exact hentry a (hep ▸ hassociation)
        · exact .inr h'
      · exact hentry a' ((hother hep).symm.trans ha')
    · by_cases hqp : q = p
      · subst hqp
        obtain rfl := Option.some.inj (hself.symm.trans ha')
        exact ⟨a, hassociation, hid a, fun h => absurd hX h⟩
      · exact ⟨a', (hother hqp).symm.trans ha', .inl rfl, fun _ _ _ => ⟨rfl, rfl⟩⟩

end Shifts

/-! ## Readiness -/

/-- The association is ready for writing if and only if it is established. -/
def WriteReady (_ : AssocPtr) (write established : Bool) : Prop := write = established

/-- The same, for the association `p` only that it is established. -/
def WriteReadyBut (p q : AssocPtr) (write established : Bool) : Prop :=
  if q = p then established = true else write = established

theorem shifts_end {f : SCTPAssociation → SCTPAssociation} (hid : ∀ a, (f a).Follows a)
    (hf : ∀ a, (f a).established = true) :
    Shifts WriteReady (WriteReadyBut p) {p} (setAssociation p f : Act L.watched _) := by
  refine .setAssociation rfl hid (fun a _ => ?_) fun q write established hq h => ?_
  · unfold WriteReadyBut
    rw [if_pos rfl, hf a]
  · unfold WriteReadyBut
    rwa [if_neg hq]

theorem shifts_ready {f : SCTPAssociation → SCTPAssociation} (hid : ∀ a, (f a).Follows a)
    (hready : ∀ a, (f a).writeReady = true) (hf : ∀ a, (f a).established = a.established) :
    Shifts (WriteReadyBut p) WriteReady {p} (setAssociation p f : Act L.watched _) := by
  refine .setAssociation rfl hid (fun a h => ?_) fun q write established hq h => ?_
  · unfold WriteReadyBut at h
    rw [if_pos rfl] at h
    unfold WriteReady
    rw [hready a, hf a, h]
  · unfold WriteReadyBut at h
    rwa [if_neg hq] at h

theorem established_up (a : SCTPAssociation) :
    ({ a with communicationUpNotification := true } : SCTPAssociation).established = true := by
  simp [SCTPAssociation.established]

theorem established_lost (a : SCTPAssociation) : ({ a with
    communicationLostNotification := true, shutdownCompleteNotification := true } : SCTPAssociation).established = true := by
  simp [SCTPAssociation.established]

section

variable {id : AssocID} {s : SocketPtr}

theorem shifts_loseAssociation : Shifts WriteReady WriteReady {p} (loseAssociation E s p id) := by
  have hrestore : UnderLock (FlagStep WriteReady {p}) AnyHalt (restoreRTOMax E p id) := inferInstance
  have hbroadcast (φ : AssocPtr → Bool → Bool → Prop) (c : ConditionRef) :
      UnderLock (FlagStep φ {p}) AnyHalt (broadcast c : Act L.watched _) := inferInstance
  have hadd (c : SCTPNotification) : UnderLock (FlagStep (WriteReadyBut p) {p}) AnyHalt (addNotification E s id c) :=
    inferInstance
  unfold loseAssociation
  refine .bind (.of_underLock hrestore) fun _ => .bind (shifts_end (fun _ => .inl rfl) established_lost) fun _ => ?_
  refine .bind (.of_underLock (hbroadcast _ _)) fun _ => .bind (.of_underLock (hbroadcast _ _)) fun _ => ?_
  refine .bind (.of_underLock (hadd _)) fun _ => ?_
  refine .bind (shifts_ready (fun _ => .inl rfl) (fun _ => rfl) fun _ => rfl) fun _ => ?_
  exact .bind (.of_underLock (hbroadcast _ _)) fun _ => .of_underLock (hbroadcast _ _)

theorem shifts_establishAssociation : Shifts WriteReady WriteReady {p} (establishAssociation E p id) := by
  have hrestore : UnderLock (FlagStep WriteReady {p}) AnyHalt (restoreRTOMax E p id) := inferInstance
  have hbroadcast :
      UnderLock (FlagStep (WriteReadyBut p) {p}) AnyHalt (broadcast (.assoc p .establish) : Act L.watched _) :=
    inferInstance
  unfold establishAssociation
  refine .bind (.of_underLock hrestore) fun _ => .bind (shifts_end (fun _ => .inl rfl) established_up) fun _ => ?_
  exact .bind (.of_underLock hbroadcast) fun _ => shifts_ready (fun _ => .inl rfl) (fun _ => rfl) fun _ => rfl

theorem shifts_completeShutdown : Shifts WriteReady WriteReady {p} (completeShutdown E s p id) := by
  have hbroadcast (c : ConditionRef) : UnderLock (FlagStep WriteReady {p}) AnyHalt (broadcast c : Act L.watched _) :=
    inferInstance
  have hadd (c : SCTPNotification) : UnderLock (FlagStep WriteReady {p}) AnyHalt (addNotification E s id c) :=
    inferInstance
  unfold completeShutdown
  refine .bind (.setAssociation rfl (fun _ => .inl rfl) (fun a _ => ?_) fun _ _ _ _ h => h) fun _ => ?_
  · simp [WriteReady, SCTPAssociation.established]
  · exact .bind (.of_underLock (hbroadcast _)) fun _ => .bind (.of_underLock (hbroadcast _)) fun _ =>
      .bind (.of_underLock (hbroadcast _)) fun _ => .of_underLock (hadd _)

/-- The state with a new association, which is neither established nor ready. -/
theorem flagStep_new {s₀ : Shared L.watched} {a : SCTPAssociation} {conditions : ConditionRef → Condition}
    (ha : a.writeReady = a.established) : FlagStep WriteReady ∅ true s₀ { s₀ with
      nextAssociation := s₀.nextAssociation + 1
      associations := Function.update s₀.associations s₀.nextAssociation (some a), conditions := conditions } := by
  have hother {q : AssocPtr} (hq : q ≠ s₀.nextAssociation) :
      Function.update s₀.associations s₀.nextAssociation (some a) q = s₀.associations q := Function.update_of_ne hq ..
  refine ⟨fun h q b hb => ?_, fun h => ⟨fun q b hb => ?_, fun t o ho e he => ?_⟩,
    fun _ => ⟨fun _ h => h, Nat.le_succ _, fun _ q b hb hq => ?_⟩⟩
  · by_cases hq : q = s₀.nextAssociation
    · subst hq
      dsimp only at hb
      rw [Function.update_self] at hb
      obtain rfl := Option.some.inj hb
      exact ha
    · exact h q b ((hother hq).symm.trans hb)
  · by_cases hq : q = s₀.nextAssociation
    · exact hq ▸ Nat.lt_succ_self _
    · exact (h.bound q b ((hother hq).symm.trans hb)).trans (Nat.lt_succ_self _)
  · obtain ⟨hlt, hid⟩ := h.entry t o ho e he
    exact ⟨hlt.trans (Nat.lt_succ_self _), fun b hb => hid b ((hother hlt.ne).symm.trans hb)⟩
  · exact ⟨b, (hother hq.ne).symm.trans hb, .inl rfl, fun _ _ _ => ⟨rfl, rfl⟩⟩

/-- The state with another association in a list of the sockets, under its ID. -/
theorem flagStep_insert {s₀ : Shared L.watched} {q : AssocPtr} {a : SCTPAssociation} (ha : s₀.associations q = some a)
    (hid : a.associationID = id) (hq : q < s₀.nextAssociation) : FlagStep φ X true s₀ (s₀.setSocket s fun o =>
      { o with associationList := o.associationList.insert id q }) := by
  refine ⟨fun h => h, fun h => ⟨h.bound, fun t o' ho' e he => ?_⟩, fun _ => ⟨fun _ h => h, le_rfl, fun _ r b hb _ => ?_⟩⟩
  · unfold Shared.setSocket at ho'
    dsimp only at ho'
    by_cases ht : t = s
    · subst ht
      rw [Function.update_self] at ho'
      obtain ⟨o, ho, rfl⟩ := Option.map_eq_some_iff.mp ho'
      rcases (Multimap.mem_insert _ _ _ _).mp he with rfl | he
      · refine ⟨hq, fun b hb => .inl ?_⟩
        obtain rfl := Option.some.inj (ha.symm.trans hb)
        exact hid
      · exact h.entry t o ho e he
    · rw [Function.update_of_ne ht] at ho'
      exact h.entry t o' ho' e he
  · exact ⟨b, hb, .inl rfl, fun _ _ _ => ⟨rfl, rfl⟩⟩

theorem post_newAssociation {flags : NotificationFlags} {udpLike : Bool} {w : World L.watched}
    (hw : 0 < w.thread.lockLevel) :
    Post (SCTPAssociation.new E s id flags udpLike) w
      (fun q w' => q = w.shared.nextAssociation ∧ FlagStep WriteReady ∅ true w.shared w'.shared ∧
        w.thread.lockLevel ≤ w'.thread.lockLevel) fun h _ => h ≠ .suspended := by
  unfold SCTPAssociation.new
  rw [post_bind, post_shared]
  dsimp only
  rw [post_bind, post_update, post_bind]
  have hself {a : SCTPAssociation} : Function.update w.shared.associations w.shared.nextAssociation (some a)
      w.shared.nextAssociation = some a := Function.update_self ..
  refine Post.mono (StaysFrom.locked (R := FlagStep WriteReady ∅) (V := AnyHalt) ?_) (fun _ w' h => ?_) fun e _ h hs => ?_
  · unfold StaysFrom
    rw [post_setSocket]
    split
    · refine fun _ => ⟨?_, le_rfl⟩
      rw [decide_eq_true (Nat.succ_pos _)]
      exact flagStep_insert hself rfl (Nat.lt_succ_self _)
    · exact stops_undefined _
  · obtain ⟨hstep, hlevel⟩ := h hw
    rw [decide_eq_true hw] at hstep
    exact ⟨rfl, FlagShift.trans (flagStep_new (by rfl)) hstep, hlevel⟩
  · have := ((h hw).2 hs).1
    dsimp only at this
    omega

instance {flags : NotificationFlags} {udpLike : Bool} :
    UnderLock (FlagStep WriteReady ∅) AnyHalt (SCTPAssociation.new E s id flags udpLike) :=
  ⟨fun _ => Shifts.stays_of_held fun hw => (post_newAssociation hw).imp fun _ _ ⟨_, hstep, hlevel⟩ => ⟨hstep, hlevel⟩⟩

/-- The request for a new association `p` that is up. -/
theorem shifts_request {c : SCTPNotification} : Shifts WriteReady WriteReady {p} (do
    setAssociation p fun a => { a with communicationUpNotification := true }
    if E.allocates .connection then
      setSocket s fun o => { o with
        connectionRequests := o.connectionRequests ++ [{ association := p, notification := c }], readReady := true }
      broadcast (.socket s .establish)
    setAssociation p fun a => { a with writeReady := true, hasException := false }
    return some p : Act L.watched _) := by
  have hset (f : SCTPSocket → List IncomingConnection) : UnderLock (FlagStep (WriteReadyBut p) {p}) AnyHalt
      (setSocket s fun o => { o with connectionRequests := f o, readReady := true } : Act L.watched _) := inferInstance
  have hbroadcast :
      UnderLock (FlagStep (WriteReadyBut p) {p}) AnyHalt (broadcast (.socket s .establish) : Act L.watched _) :=
    inferInstance
  have hsome : UnderLock (FlagStep WriteReady {p}) AnyHalt (Pure.pure (some p) : Act L.watched _) := inferInstance
  have hend : Shifts (WriteReadyBut p) WriteReady {p} (do
      setAssociation p fun a => { a with writeReady := true, hasException := false }
      return some p : Act L.watched _) :=
    .bind (shifts_ready (fun _ => .inl rfl) (fun _ => rfl) fun _ => rfl) fun _ => .of_underLock hsome
  refine .bind (shifts_end (fun _ => .inl rfl) established_up) fun _ => ?_
  split
  · exact .bind (.of_underLock (hset _)) fun _ => .bind (.of_underLock hbroadcast) fun _ => hend
  · exact hend

theorem incoming_stays {c : SCTPNotification} {w : World L.watched} :
    StaysFrom (FlagStep WriteReady ∅) AnyHalt (incoming E s id c) w := by
  unfold incoming
  refine .socketAt fun o _ => ?_
  split
  · exact Keeps.post (x := Pure.pure none) w
  · refine Shifts.stays_of_held fun hw => ?_
    refine (post_newAssociation hw).bind fun q w₁ ⟨hq, hnew, hlevel⟩ => ?_
    subst hq
    refine (shifts_request w₁ (hw.trans_le hlevel)).imp fun _ w₂ ⟨hshift, hlevel'⟩ => ⟨?_, hlevel.trans hlevel'⟩
    exact ⟨fun h => hshift.flagged (hnew.flagged h), fun h => hshift.listed (hnew.listed h),
      fun _ => (hnew.changes rfl).trans_fresh hnew.listed (hshift.changes rfl)⟩

theorem offerRoom_stays {w : World L.watched} (hp : w.shared.Lists s id p) (htold : w.shared.record.told id = true)
    (h : ∀ a, w.shared.associations p = some a → a.established = true) :
    StaysFrom (FlagStep WriteReady ∅) AnyHalt (offerRoom p) w := by
  have hbroadcast :
      UnderLock (FlagStep (WriteReadyBut p) {p}) AnyHalt (broadcast (.assoc p .readyForTransmit) : Act L.watched _) :=
    inferInstance
  have hoffer : Shifts (WriteReadyBut p) WriteReady {p} (offerRoom p : Act L.watched _) :=
    .bind (.of_underLock hbroadcast) fun _ => shifts_ready (fun _ => .inl rfl) (fun _ => rfl) fun _ => rfl
  refine Shifts.stays_of_held fun hw => (hoffer.notice hp htold hw).imp fun _ w' ⟨hshift, hlevel⟩ => ⟨?_, hlevel⟩
  refine ⟨fun hflags => hshift.flagged fun q a ha => ?_, hshift.listed, hshift.changes⟩
  unfold WriteReadyBut
  by_cases hq : q = p
  · subst hq
    rw [if_pos rfl]
    exact h a ha
  · rw [if_neg hq]
    exact hflags q a ha

end

/-! ## Sends and callbacks -/

section

variable [Rely E (FlagStep (L := L) WriteReady ∅)]

instance : Ending E (FlagStep WriteReady ∅) AnyHalt where
  lose hp htold := shifts_loseAssociation.stays hp htold
  complete hp htold := shifts_completeShutdown.stays hp htold

instance : SCTPSocket.Connects E (FlagStep WriteReady ∅) AnyHalt where
  associateBegin s streams attempts timeout addresses := by
    have hcreate (created : AssocID × InstanceParameters) : UnderLock (FlagStep WriteReady ∅) AnyHalt (do
        let o ← socketAt s
        let p ← SCTPAssociation.new E s created.1 o.notificationFlags o.flags.globalQueue
        hold p
        enter p
        setAssociation p fun a => { a with
          useCount := a.useCount + 1, rtoMaxIsInitTimeout := true, rtoMax := created.2.rtoMax
          initTimeout := timeout
          preEstablishmentAddressList := if E.allocates .addressList then some addresses else none }
        return some p : Act L.watched _) := by
      unfold hold enter
      refine .seq fun o => ?_
      cases o.flags.globalQueue <;> infer_instance
    have habort (id : AssocID) : UnderLock (FlagStep WriteReady ∅) AnyHalt (sctp_abort (notif E) id) := inferInstance
    have hid : UnderLock (FlagStep WriteReady ∅) AnyHalt
        (SCTPSocket.associateID E s streams attempts timeout addresses) := by
      unfold SCTPSocket.associateID
      refine .seq fun defaults => ?_
      dsimp only
      infer_instance
    unfold SCTPSocket.associateBegin
    infer_instance
  associateEnd p := by unfold leave; infer_instance
  enter p := by unfold enter; infer_instance
  leave p := by unfold leave; infer_instance
  release p := by unfold release; infer_instance
  connect s p := by unfold enter; infer_instance
  unlist s p := by dsimp only; infer_instance
  sendToEnd p := by unfold SCTPSocket.sendToEnd leave; infer_instance

end

end SocketApi
