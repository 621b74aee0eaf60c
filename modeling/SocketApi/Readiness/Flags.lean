import Mathlib.Data.Set.Insert
import SocketApi.Frame.Connecting
import SocketApi.Readiness.Watched

/-!
# Properties of write readiness

Programs under the relation that keeps a property of the flags of every association: whether it
is ready for writing and whether its communication has been up, lost or shut down. With the master
locked, no association changes its flags but those that the library has told of.
-/

namespace SocketApi

open Effect SCTPSocketMaster

set_option synthInstance.maxSize 2000

variable {L : Sctplib} {E : Environment L.watched} {α : Type} {φ : AssocPtr → Bool → Bool → Prop}
  {X : Set AssocPtr}

/-- The communication is up, lost or shut down. -/
def SCTPAssociation.established (a : SCTPAssociation) : Bool :=
  a.communicationUpNotification || a.communicationLostNotification || a.shutdownCompleteNotification

/-- `φ` holds of every association, its write readiness and whether it is established. -/
def Flagged (φ : AssocPtr → Bool → Bool → Prop) (s : Shared L) : Prop :=
  ∀ p a, s.associations p = some a → φ p a.writeReady a.established

/-- The sockets list every association under its ID, which is 0 while it is being deleted. -/
structure Listed (s : Shared L) : Prop where
  bound : ∀ p a, s.associations p = some a → p < s.nextAssociation
  entry : ∀ t o, s.sockets t = some o → ∀ e ∈ o.associationList, e.2 < s.nextAssociation ∧
    ∀ a, s.associations e.2 = some a → a.associationID = e.1 ∨ a.associationID = 0

/-- The same association, possibly being deleted by now. -/
def SCTPAssociation.Follows (a' a : SCTPAssociation) : Prop := a'.associationID = a.associationID ∨ a'.associationID = 0

/-- Outside of `X` the flags are those of before unless the association was told of. -/
structure Changes (X : Set AssocPtr) (s s' : Shared L.watched) : Prop where
  told : ∀ id, s.record.told id = true → s'.record.told id = true
  fresh : s.nextAssociation ≤ s'.nextAssociation
  old : Listed s → ∀ q a', s'.associations q = some a' → q < s.nextAssociation → ∃ a, s.associations q = some a ∧ a'.Follows a ∧
    (q ∉ X → a'.associationID ≠ 0 → s'.record.told a'.associationID = false →
      a'.writeReady = a.writeReady ∧ a'.established = a.established)

structure FlagShift (φ ψ : AssocPtr → Bool → Bool → Prop) (X : Set AssocPtr) (b : Bool)
    (s s' : Shared L.watched) : Prop where
  flagged : Flagged φ s → Flagged ψ s'
  listed : Listed s → Listed s'
  changes : b = true → Changes X s s'

abbrev FlagStep (φ : AssocPtr → Bool → Bool → Prop) (X : Set AssocPtr) :
    Bool → Shared L.watched → Shared L.watched → Prop := FlagShift φ φ X

/-! ## Composition -/

theorem SCTPAssociation.Follows.trans {a a' a'' : SCTPAssociation} (h' : a''.Follows a') (h : a'.Follows a) :
    a''.Follows a := by
  rcases h' with h' | h'
  · rcases h with h | h
    · exact .inl (h'.trans h)
    · exact .inr (h'.trans h)
  · exact .inr h'

theorem Changes.refl (s : Shared L.watched) : Changes X s s where
  told _ h := h
  fresh := le_rfl
  old _ _ a ha _ := ⟨a, ha, .inl rfl, fun _ _ _ => ⟨rfl, rfl⟩⟩

theorem told_before {s s' : Shared L.watched} (h : Changes X s s') {id : AssocID} (hs : s'.record.told id = false) :
    s.record.told id = false := by
  cases htold : s.record.told id with
  | false => rfl
  | true => exact (h.told id htold).symm.trans hs

/-- The second step may change more associations, provided that these are new. -/
theorem Changes.trans_of {s t u : Shared L.watched} {Y : Set AssocPtr} (hlisted : Listed s → Listed t)
    (h : Changes X s t) (h' : Changes Y t u) (hY : ∀ q < s.nextAssociation, q ∉ X → q ∉ Y) : Changes X s u where
  told id hs := h'.told id (h.told id hs)
  fresh := h.fresh.trans h'.fresh
  old hs q a'' ha'' hq := by
    obtain ⟨a', ha', hfollows', hflags'⟩ := h'.old (hlisted hs) q a'' ha'' (hq.trans_le h.fresh)
    obtain ⟨a, ha, hfollows, hflags⟩ := h.old hs q a' ha' hq
    refine ⟨a, ha, hfollows'.trans hfollows, fun hX hne htold => ?_⟩
    obtain ⟨hready', hestablished'⟩ := hflags' (hY q hq hX) hne htold
    have hid : a''.associationID = a'.associationID := hfollows'.resolve_right hne
    rw [hid] at hne htold
    obtain ⟨hready, hestablished⟩ := hflags hX hne (told_before h' htold)
    exact ⟨hready'.trans hready, hestablished'.trans hestablished⟩

theorem Changes.trans {s t u : Shared L.watched} (hlisted : Listed s → Listed t) (h : Changes X s t)
    (h' : Changes X t u) : Changes X s u :=
  h.trans_of hlisted h' fun _ _ hq => hq

/-- An association that was told of may change. -/
theorem Changes.notice {p : AssocPtr} {s s' : Shared L.watched} (h : Changes {p} s s')
    (hp : Listed s → ∀ a, s.associations p = some a → a.associationID = 0 ∨ s.record.told a.associationID = true) :
    Changes ∅ s s' where
  told := h.told
  fresh := h.fresh
  old hs q a' ha' hq := by
    obtain ⟨a, ha, hfollows, hflags⟩ := h.old hs q a' ha' hq
    refine ⟨a, ha, hfollows, fun _ hne htold => ?_⟩
    by_cases hqp : q = p
    · subst hqp
      have hid : a'.associationID = a.associationID := hfollows.resolve_right hne
      rw [hid] at hne htold
      have htold' := h.told _ ((hp hs a ha).resolve_left hne)
      rw [htold] at htold'
      cases htold'
    · exact hflags hqp hne htold

/-- An association that is new may change. -/
theorem Changes.trans_fresh {s t u : Shared L.watched} (hlisted : Listed s → Listed t) (h : Changes ∅ s t)
    (h' : Changes {s.nextAssociation} t u) : Changes ∅ s u :=
  h.trans_of hlisted h' fun _ hq _ => Nat.ne_of_lt hq

section

variable {ψ χ : AssocPtr → Bool → Bool → Prop} {b : Bool}

theorem FlagShift.trans {s t u : Shared L.watched} (h : FlagShift φ ψ X b s t) (h' : FlagShift ψ χ X b t u) :
    FlagShift φ χ X b s u where
  flagged hs := h'.flagged (h.flagged hs)
  listed hs := h'.listed (h.listed hs)
  changes hb := (h.changes hb).trans h.listed (h'.changes hb)

/-- A step that leaves the flags alone and lists nothing new. -/
theorem FlagShift.same {s s' : Shared L.watched}
    (hassociations : ∀ p a', s'.associations p = some a' → ∃ a, s.associations p = some a ∧ a'.Follows a ∧
      a'.writeReady = a.writeReady ∧ a'.established = a.established)
    (hsockets : ∀ t o', s'.sockets t = some o' → ∃ o, s.sockets t = some o ∧ ∀ e ∈ o'.associationList, e ∈ o.associationList)
    (hnext : s'.nextAssociation = s.nextAssociation) (htold : ∀ id, s.record.told id = true → s'.record.told id = true) :
    FlagStep φ X b s s' where
  flagged hs p a' ha' := by
    obtain ⟨a, ha, _, hready, hestablished⟩ := hassociations p a' ha'
    rw [hready, hestablished]
    exact hs p a ha
  listed hs :=
    { bound := fun p a' ha' => by
        obtain ⟨a, ha, _⟩ := hassociations p a' ha'
        exact hnext ▸ hs.bound p a ha
      entry := fun t o' ho' e he => by
        obtain ⟨o, ho, hlist⟩ := hsockets t o' ho'
        obtain ⟨hlt, hid⟩ := hs.entry t o ho e (hlist e he)
        refine ⟨hnext ▸ hlt, fun a' ha' => ?_⟩
        obtain ⟨a, ha, hfollows, _⟩ := hassociations e.2 a' ha'
        rcases hfollows with h | h
        · rw [h]
          exact hid a ha
        · exact .inr h }
  changes _ :=
    { told := htold
      fresh := hnext.ge
      old := fun _ q a' ha' _ => by
        obtain ⟨a, ha, hfollows, hflags⟩ := hassociations q a' ha'
        exact ⟨a, ha, hfollows, fun _ _ _ => hflags⟩ }

/-- A step outside of the associations, their lists and the library. -/
theorem FlagShift.elsewhere {s s' : Shared L.watched} (hassociations : s'.associations = s.associations)
    (hsockets : s'.sockets = s.sockets) (hnext : s'.nextAssociation = s.nextAssociation)
    (htold : ∀ id, s.record.told id = true → s'.record.told id = true) : FlagStep φ X b s s' :=
  .same (fun _ a' ha' => ⟨a', hassociations ▸ ha', .inl rfl, rfl, rfl⟩)
    (fun _ o' ho' => ⟨o', hsockets ▸ ho', fun _ he => he⟩) hnext htold

end

instance : Stable (FlagStep (L := L) φ X) AnyHalt where
  refl b s := ⟨fun h => h, fun h => h, fun _ => Changes.refl s⟩
  trans h h' := h.trans h'
  weaken h := ⟨h.flagged, h.listed, nofun⟩
  absorb _ _ := trivial
  undefined _ := trivial
  endless _ := trivial
  suspended _ := trivial
  calm {s s'} hcore _ := by
    refine .same (fun p a' ha' => ?_) (fun t o' ho' => ?_) ?_ fun id h => ?_
    · have hmap : (s'.associations p).map SCTPAssociation.core = (s.associations p).map SCTPAssociation.core :=
        congrFun (congrArg Shared.associations hcore) p
      rw [ha'] at hmap
      obtain ⟨a, ha, heq⟩ := Option.map_eq_some_iff.mp hmap.symm
      have hid : a'.associationID = a.associationID := (congrArg SCTPAssociation.associationID heq).symm
      have hestablished : a'.established = a.established := (congrArg SCTPAssociation.established heq).symm
      exact ⟨a, ha, .inl hid, (congrArg SCTPAssociation.writeReady heq).symm, hestablished⟩
    · have hmap : (s'.sockets t).map SCTPSocket.core = (s.sockets t).map SCTPSocket.core :=
        congrFun (congrArg Shared.sockets hcore) t
      rw [ho'] at hmap
      obtain ⟨o, ho, heq⟩ := Option.map_eq_some_iff.mp hmap.symm
      have hlist : o'.associationList = o.associationList := (congrArg SCTPSocket.associationList heq).symm
      exact ⟨o, ho, fun e he => hlist ▸ he⟩
    · have hnext : s'.core.nextAssociation = s.core.nextAssociation := congrArg Shared.nextAssociation hcore
      exact hnext
    · have hrecord : s'.core.record = s.core.record := congrArg Shared.record hcore
      exact (congrArg (fun r : Record => r.told id) hrecord).trans h
  adjust {s stack} h := .elsewhere rfl rfl rfl fun id hs => by rwa [h.record]

/-! ## Changes that leave the flags alone -/

section

variable {held : Bool}

theorem FlagShift.update {f : Shared L.watched → Shared L.watched} (hf : ∀ s, FlagStep φ X true s (f s)) :
    Keeps (Within (FlagStep φ X) held) (Stops (FlagStep φ X) AnyHalt held) (update f) :=
  ⟨fun w _ => ⟨Stable.under AnyHalt (hf w.shared), le_rfl⟩⟩

theorem FlagShift.library {call : L.watched.State → α × L.watched.State}
    (h : ∀ s id, (s : L.State × Record).2.told id = true → ((call s).2 : L.State × Record).2.told id = true) :
    Keeps (Within (FlagStep φ X) held) (Stops (FlagStep φ X) AnyHalt held) (library call) :=
  ⟨fun w _ => ⟨.elsewhere rfl rfl rfl (h w.shared.stack), le_rfl⟩⟩

instance {site : AbortSite} :
    Keeps (Within (FlagStep φ X) held) (Stops (FlagStep (L := L) φ X) AnyHalt held) (throw (.abort site) : Act _ α) :=
  ⟨fun _ _ => ⟨trivial, nofun⟩⟩

instance {id : AssocID} : Keeps (Within (FlagStep φ X) held) (Stops (FlagStep φ X) AnyHalt held)
    (library (L.watched.deleteAssociation · id)) := FlagShift.library fun _ _ h => h
instance {i : InstanceID} : Keeps (Within (FlagStep φ X) held) (Stops (FlagStep φ X) AnyHalt held)
    (library (L.watched.unregisterInstance · i)) := FlagShift.library fun _ _ h => h
instance {i : InstanceID} {streams port : Nat} {addresses : List String} :
    Keeps (Within (FlagStep φ X) held) (Stops (FlagStep φ X) AnyHalt held)
      (library (L.watched.associatex · i streams addresses port)) := FlagShift.library fun _ _ h => h
instance {request : SendRequest} : Keeps (Within (FlagStep φ X) held) (Stops (FlagStep φ X) AnyHalt held)
    (library (L.watched.send · request)) := FlagShift.library fun _ id h => (congrFun (Record.told_answer ..) id).trans h

theorem FlagShift.setSocket {s : SocketPtr} {f : SCTPSocket → SCTPSocket}
    (hf : ∀ o, ∀ e ∈ (f o).associationList, e ∈ o.associationList) :
    Keeps (Within (FlagStep φ X) held) (Stops (FlagStep φ X) AnyHalt held) (setSocket s f : Act L.watched _) := by
  have : Keeps (Within (FlagStep φ X) held) (Stops (FlagStep φ X) AnyHalt held)
      (SocketApi.update fun w : Shared L.watched => w.setSocket s f) := by
    refine FlagShift.update fun w => .same (fun _ a ha => ⟨a, ha, .inl rfl, rfl, rfl⟩) (fun t o' ho' => ?_) rfl fun _ h => h
    unfold Shared.setSocket at ho'
    dsimp only at ho'
    by_cases ht : t = s
    · subst ht
      rw [Function.update_self] at ho'
      obtain ⟨o, ho, rfl⟩ := Option.map_eq_some_iff.mp ho'
      exact ⟨o, ho, hf o⟩
    · rw [Function.update_of_ne ht] at ho'
      exact ⟨o', ho', fun _ he => he⟩
  unfold SocketApi.setSocket
  infer_instance

/-- Every change of a socket outside of the list of its associations. -/
instance {s : SocketPtr} {flags : SCTPSocket → SocketFlags} {queue : SCTPSocket → SCTPNotificationQueue}
    {requests : SCTPSocket → List IncomingConnection} {list : SCTPSocket → Multimap AssocID AssocPtr}
    {read : SCTPSocket → Bool} :
    Keeps (Within (FlagStep φ X) held) (Stops (FlagStep φ X) AnyHalt held) (SocketApi.setSocket s fun o => { o with
      flags := flags o, globalQueue := queue o, connectionRequests := requests o
      connectionlessAssociationList := list o, readReady := read o } : Act L.watched _) :=
  FlagShift.setSocket fun _ _ he => he

instance {s : SocketPtr} {id : AssocID} :
    Keeps (Within (FlagStep φ X) held) (Stops (FlagStep φ X) AnyHalt held) (SocketApi.setSocket s fun o =>
      { o with associationList := o.associationList.eraseKey id } : Act L.watched _) :=
  FlagShift.setSocket fun _ _ he => Multimap.mem_of_mem_eraseKey he

theorem FlagShift.setAssociation {p : AssocPtr} {f : SCTPAssociation → SCTPAssociation} (hid : ∀ a, (f a).Follows a)
    (hready : ∀ a, (f a).writeReady = a.writeReady) (hestablished : ∀ a, (f a).established = a.established) :
    Keeps (Within (FlagStep φ X) held) (Stops (FlagStep φ X) AnyHalt held) (setAssociation p f : Act L.watched _) := by
  have : Keeps (Within (FlagStep φ X) held) (Stops (FlagStep φ X) AnyHalt held)
      (SocketApi.update fun w : Shared L.watched => w.setAssociation p f) := by
    refine FlagShift.update fun s => .same (fun q a' ha' => ?_) (fun _ o ho => ⟨o, ho, fun _ he => he⟩) rfl fun _ h => h
    unfold Shared.setAssociation at ha'
    dsimp only at ha'
    by_cases hq : q = p
    · subst hq
      rw [Function.update_self] at ha'
      obtain ⟨a, ha, rfl⟩ := Option.map_eq_some_iff.mp ha'
      exact ⟨a, ha, hid a, hready a, hestablished a⟩
    · rw [Function.update_of_ne hq] at ha'
      exact ⟨a', ha', .inl rfl, rfl, rfl⟩
  unfold SocketApi.setAssociation
  infer_instance

/-- Every change of an association outside of its flags. -/
instance {p : AssocPtr} {queue : SCTPAssociation → SCTPNotificationQueue}
    {lastUsage useCount rtoMax initTimeout : SCTPAssociation → Nat}
    {read exception peeled init : SCTPAssociation → Bool} {packets : SCTPAssociation → List PreEstablishmentPacket}
    {addresses : SCTPAssociation → Option (List SocketAddress)} :
    Keeps (Within (FlagStep φ X) held) (Stops (FlagStep φ X) AnyHalt held) (SocketApi.setAssociation p fun a => { a with
      inQueue := queue a, lastUsage := lastUsage a, useCount := useCount a
      readReady := read a, hasException := exception a, rtoMaxIsInitTimeout := init a, initTimeout := initTimeout a
      rtoMax := rtoMax a, preEstablishmentPackets := packets a, preEstablishmentAddressList := addresses a
      peeledOff := peeled a } : Act L.watched _) :=
  FlagShift.setAssociation (fun _ => .inl rfl) (fun _ => rfl) fun _ => rfl

instance {p : AssocPtr} : Keeps (Within (FlagStep φ X) held) (Stops (FlagStep φ X) AnyHalt held)
    (SocketApi.setAssociation p fun a => { a with associationID := 0 } : Act L.watched _) :=
  FlagShift.setAssociation (fun _ => .inr rfl) (fun _ => rfl) fun _ => rfl

instance {p : AssocPtr} : Keeps (Within (FlagStep φ X) held) (Stops (FlagStep φ X) AnyHalt held)
    (update fun w : Shared L.watched => { w with associations := Function.update w.associations p none }) := by
  refine FlagShift.update fun s => .same (fun q a' ha' => ?_) (fun _ o ho => ⟨o, ho, fun _ he => he⟩) rfl fun _ h => h
  dsimp only at ha'
  by_cases hq : q = p
  · subst hq
    rw [Function.update_self] at ha'
    cases ha'
  · rw [Function.update_of_ne hq] at ha'
    exact ⟨a', ha', .inl rfl, rfl, rfl⟩

/-- Every change outside of the associations and sockets. -/
instance {socketList : Shared L.watched → Multimap InstanceID SocketPtr}
    {closingSockets : Shared L.watched → List InstanceID}
    {closingAssociations : Shared L.watched → Multimap AssocID InstanceID} {sendLog : Shared L.watched → List SendRequest}
    {users holders : Shared L.watched → List AssocPtr} :
    Keeps (Within (FlagStep φ X) held) (Stops (FlagStep φ X) AnyHalt held) (update fun w : Shared L.watched => { w with
      socketList := socketList w, closingSockets := closingSockets w, closingAssociations := closingAssociations w
      sendLog := sendLog w, users := users w, holders := holders w }) :=
  FlagShift.update fun _ => .elsewhere rfl rfl rfl fun _ h => h

end

/-! ## The parts of the calls -/

instance {s : SocketPtr} {id : AssocID} {c : SCTPNotification} :
    UnderLock (FlagStep φ X) AnyHalt (addNotification E s id c) := by
  unfold addNotification
  refine .seq fun found => ?_
  cases found <;> infer_instance

instance : Ends (FlagStep (L := L) φ X) where
  Due _ id s := s.record.told id = true
  lasting h hs := (h.changes rfl).told _ hs
  shutdown id s := by
    refine ⟨.elsewhere rfl rfl rfl fun _ h => Record.told_close h, fun t ht => ?_⟩
    change (s.record.close id (L.watched.shutdown s.stack id).1).told id = true
    rw [ht]
    exact Record.told_tell ..
  abort id s := by
    refine ⟨.elsewhere rfl rfl rfl fun _ h => Record.told_close h, fun t ht => ?_⟩
    change (s.record.close id (L.watched.abort s.stack id).1).told id = true
    rw [ht]
    exact Record.told_tell ..

section

variable [Rely E (FlagStep φ X)] {deliver : Deliver L.watched} [Delivers (FlagStep φ X) AnyHalt deliver]

instance {p : AssocPtr} {a : SCTPAssociation} :
    UnderLock (FlagStep φ X) AnyHalt (SCTPAssociation.destructorShutdown E deliver p a) := by
  unfold SCTPAssociation.destructorShutdown SCTPSocketMaster.delayedDeleteAssociation
  infer_instance

omit [Rely E (FlagStep φ X)] in
instance {a : SCTPAssociation} :
    UnderLock (FlagStep φ X) AnyHalt (SCTPAssociation.destructorUnlist a : Act L.watched _) := by
  unfold SCTPAssociation.destructorUnlist
  refine .seq fun o => ?_
  cases o.associationList.find a.associationID <;> infer_instance

instance {list : List InstanceID} : UnderLock (FlagStep φ X) AnyHalt (unregisterUnused list : Act L.watched _) := by
  induction list with
  | nil => unfold unregisterUnused; infer_instance
  | cons i rest ih => unfold unregisterUnused; infer_instance

instance {p : AssocPtr} : Anywhere (FlagStep φ X) AnyHalt (SCTPAssociation.delete E deliver p) := by
  unfold SCTPAssociation.delete SCTPAssociation.destructor
  infer_instance

end

section

variable [Rely E (FlagStep (L := L) φ X)]

instance : Closing E (FlagStep φ X) AnyHalt where
  delete _ _ := inferInstance
  reclaim _ _ _ w _ := by
    unfold SCTPSocket.reclaim
    exact Keeps.post w
  unregister := inferInstance
  collect _ := Keeps.post _

instance : Sends (FlagStep (L := L) φ X) AnyHalt where
  attempt id buffer params a := by
    unfold SCTPSocket.sendAttempt
    dsimp only
    infer_instance
  append _ _ := inferInstance
  tail _ := inferInstance

instance {s : SocketPtr} {withAddresses : Bool} :
    UnderLock (FlagStep φ X) AnyHalt (SCTPSocket.takeRequest E s withAddresses) := by
  unfold SCTPSocket.takeRequest hold
  refine .seq fun o => ?_
  cases o.connectionRequests <;> infer_instance

instance {s : SocketPtr} {p : AssocPtr} :
    UnderLock (FlagStep φ X) AnyHalt (SCTPSocket.addConnectionless s p : Act L.watched _) := by
  unfold SCTPSocket.addConnectionless release
  infer_instance

instance : SCTPSocket.Accepts E (FlagStep φ X) AnyHalt where
  take _ _ := inferInstance
  acceptIncoming _ := SCTPSocket.underLock_acceptIncoming inferInstance (fun _ => inferInstance) fun _ => inferInstance

end

end SocketApi
