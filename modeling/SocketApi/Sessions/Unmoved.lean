import SocketApi.History.Runs

/-!
# What leaves sockets and slots alone

Most of the API neither makes nor deletes a `SCTPSocket`, nor changes to which one a descriptor refers. A slot may
come to be used by a descriptor of the system.
-/

namespace SocketApi

open Effect SCTPSocketMaster SCTPSocket

set_option synthInstance.maxSize 2000

variable {L : Sctplib} {E : Environment L} {α : Type}

/-- The `SCTPSocket` of a SCTP descriptor. -/
def ExtSocketDescriptor.socket : ExtSocketDescriptor → Option (Option SocketPtr)
  | .sctp desc => some desc.sctpSocketPtr
  | _ => none

structure Shared.Unmoved (s t : Shared L) : Prop where
  slots : ∀ i, (t.descriptors i).socket = (s.descriptors i).socket
  system : ∀ i fd, s.descriptors i = .system fd → t.descriptors i = .system fd
  sockets : ∀ k, (t.sockets k).isSome = (s.sockets k).isSome
  nextSocket : t.nextSocket = s.nextSocket

theorem Shared.Unmoved.refl (s : Shared L) : s.Unmoved s := ⟨fun _ => rfl, fun _ _ h => h, fun _ => rfl, rfl⟩

theorem Shared.Unmoved.trans {s t u : Shared L} (h : s.Unmoved t) (h' : t.Unmoved u) : s.Unmoved u where
  slots i := (h'.slots i).trans (h.slots i)
  system i fd hi := h'.system i fd (h.system i fd hi)
  sockets k := (h'.sockets k).trans (h.sockets k)
  nextSocket := h'.nextSocket.trans h.nextSocket

theorem Shared.Unmoved.of_sockets {s t : Shared L} (hdescriptors : t.descriptors = s.descriptors)
    (hsockets : ∀ k, (t.sockets k).isSome = (s.sockets k).isSome) (hnext : t.nextSocket = s.nextSocket) : s.Unmoved t where
  slots i := by rw [hdescriptors]
  system i fd hi := by rw [hdescriptors, hi]
  sockets := hsockets
  nextSocket := hnext

theorem Shared.Unmoved.of_core {s t : Shared L} (h : t.core = s.core) : s.Unmoved t := by
  have hdescriptors : t.core.descriptors = s.core.descriptors := by rw [h]
  have hsockets (k : SocketPtr) : (t.core.sockets k).isSome = (s.core.sockets k).isSome := by rw [h]
  have hnext : t.core.nextSocket = s.core.nextSocket := by rw [h]
  simp only [Shared.core, Option.isSome_map] at hdescriptors hsockets hnext
  exact .of_sockets hdescriptors hsockets hnext

theorem unmoved_setSocket (s : Shared L) (k : SocketPtr) (f : SCTPSocket → SCTPSocket) : s.Unmoved (s.setSocket k f) := by
  refine .of_sockets rfl (fun j => ?_) rfl
  by_cases hj : j = k
  · subst hj
    simp [Shared.setSocket]
  · simp [Shared.setSocket, hj]

/-- The relation for programs. -/
def Unmoving (_ : Bool) (s t : Shared L) : Prop := s.Unmoved t

instance : Stable (Unmoving (L := L)) AnyHalt where
  refl _ := .refl
  trans h h' := h.trans h'
  weaken h := h
  absorb _ _ := trivial
  undefined _ := trivial
  endless _ := trivial
  suspended _ := trivial
  calm hcore _ := .of_core hcore
  adjust _ := .of_sockets rfl (fun _ => rfl) rfl

section

variable {held : Bool}

theorem within_unmoved {w w' : World L} (h : w.shared.Unmoved w'.shared)
    (hlevel : w.thread.lockLevel ≤ w'.thread.lockLevel) : Within Unmoving held w w' :=
  fun _ => ⟨h, hlevel⟩

theorem Unmoving.update {f : Shared L → Shared L} (hf : ∀ s : Shared L, s.Unmoved (f s)) :
    Keeps (Within Unmoving held) (Stops Unmoving AnyHalt held) (update f) :=
  ⟨fun w => within_unmoved (hf w.shared) le_rfl⟩

/-! ## Single changes -/

instance {call : L.State → α × L.State} :
    Keeps (Within Unmoving held) (Stops Unmoving AnyHalt held) (library call) :=
  ⟨fun _ => within_unmoved (.of_sockets rfl (fun _ => rfl) rfl) le_rfl⟩

instance {site : AbortSite} :
    Keeps (Within Unmoving held) (Stops Unmoving AnyHalt held) (throw (.abort site) : Act L α) :=
  ⟨fun _ _ => ⟨trivial, nofun⟩⟩

/-- Every change of a member but the table and the sockets. -/
instance {stack : Shared L → L.State} {now nextAssociation : Shared L → Nat}
    {associations : Shared L → AssocPtr → Option SCTPAssociation} {socketList : Shared L → Multimap InstanceID SocketPtr}
    {closingSockets : Shared L → List InstanceID} {closingAssociations : Shared L → Multimap AssocID InstanceID}
    {conditions : Shared L → ConditionRef → Condition} {openFDs : Shared L → List Int}
    {sendLog : Shared L → List SendRequest} {users holders : Shared L → List AssocPtr} :
    Keeps (Within Unmoving held) (Stops Unmoving AnyHalt held) (update fun w : Shared L => { w with
      stack := stack w, now := now w, nextAssociation := nextAssociation w, associations := associations w
      socketList := socketList w, closingSockets := closingSockets w, closingAssociations := closingAssociations w
      conditions := conditions w, openFDs := openFDs w, sendLog := sendLog w, users := users w, holders := holders w }) :=
  Unmoving.update fun _ => .of_sockets rfl (fun _ => rfl) rfl

instance {p : AssocPtr} {f : SCTPAssociation → SCTPAssociation} :
    Keeps (Within Unmoving held) (Stops Unmoving AnyHalt held) (setAssociation p f : Act L _) := by
  have : Keeps (Within Unmoving held) (Stops Unmoving AnyHalt held)
      (SocketApi.update fun w : Shared L => w.setAssociation p f) :=
    Unmoving.update fun _ => .of_sockets rfl (fun _ => rfl) rfl
  unfold SocketApi.setAssociation
  infer_instance

instance {k : SocketPtr} {f : SCTPSocket → SCTPSocket} :
    Keeps (Within Unmoving held) (Stops Unmoving AnyHalt held) (setSocket k f : Act L _) := by
  have : Keeps (Within Unmoving held) (Stops Unmoving AnyHalt held)
      (SocketApi.update fun w : Shared L => w.setSocket k f) :=
    Unmoving.update fun _ => unmoved_setSocket _ k f
  unfold SocketApi.setSocket
  infer_instance

instance {result : Int} : Keeps (Within Unmoving held) (Stops Unmoving AnyHalt held) (errnoReturn result : Act L _) := by
  have : Keeps (Within Unmoving held) (Stops Unmoving AnyHalt held)
      (modify fun w => { w with thread := { w.thread with errno := -result } } : Act L PUnit) :=
    ⟨fun w => within_unmoved (.refl w.shared) le_rfl⟩
  unfold errnoReturn
  infer_instance

end

/-! ## Closing -/

instance : Ends (Unmoving (L := L)) where
  Due _ _ _ := True
  lasting _ _ := trivial
  shutdown _ s := ⟨Shared.Unmoved.of_sockets (t := { s with stack := _ }) rfl (fun _ => rfl) rfl, fun _ _ => trivial⟩
  abort _ s := ⟨Shared.Unmoved.of_sockets (t := { s with stack := _ }) rfl (fun _ => rfl) rfl, fun _ _ => trivial⟩

instance {k : SocketPtr} {id : AssocID} {n : SCTPNotification} :
    UnderLock Unmoving AnyHalt (addNotification E k id n) := by
  unfold addNotification
  refine .seq fun found => ?_
  cases found <;> infer_instance

variable [Rely E Unmoving]

section

variable {deliver : Deliver L} [Delivers Unmoving AnyHalt deliver]

instance {p : AssocPtr} {a : SCTPAssociation} :
    UnderLock Unmoving AnyHalt (SCTPAssociation.destructorShutdown E deliver p a) := by
  unfold SCTPAssociation.destructorShutdown SCTPSocketMaster.delayedDeleteAssociation
  infer_instance

omit [Rely E Unmoving] in
instance {a : SCTPAssociation} : UnderLock Unmoving AnyHalt (SCTPAssociation.destructorUnlist a : Act L _) := by
  unfold SCTPAssociation.destructorUnlist
  refine .seq fun o => ?_
  cases o.associationList.find a.associationID <;> infer_instance

omit [Rely E Unmoving] in
instance {list : List InstanceID} : UnderLock Unmoving AnyHalt (unregisterUnused list : Act L _) := by
  induction list with
  | nil => unfold unregisterUnused; infer_instance
  | cons i rest ih => unfold unregisterUnused; infer_instance

instance {p : AssocPtr} : Anywhere Unmoving AnyHalt (SCTPAssociation.delete E deliver p) := by
  unfold SCTPAssociation.delete SCTPAssociation.destructor
  infer_instance

end

instance : Closing E Unmoving AnyHalt where
  delete _ _ := inferInstance
  reclaim _ _ _ w _ := by
    unfold SCTPSocket.reclaim
    exact Keeps.post w
  unregister := inferInstance
  collect _ := Keeps.post _

instance : Ending E Unmoving AnyHalt where
  lose {_ _ _ w} _ _ := by
    unfold loseAssociation
    exact Keeps.post w
  complete {_ _ _ w} _ _ := by
    unfold completeShutdown
    exact Keeps.post w

/-! ## Sending, accepting and receiving -/

instance : Sends (Unmoving (L := L)) AnyHalt where
  attempt id buffer params a := by
    unfold SCTPSocket.sendAttempt
    dsimp only
    infer_instance
  append _ _ := inferInstance
  tail _ := inferInstance

instance {k : SocketPtr} {withAddresses : Bool} : UnderLock Unmoving AnyHalt (takeRequest E k withAddresses) := by
  unfold takeRequest hold
  refine .seq fun o => ?_
  cases o.connectionRequests <;> infer_instance

omit [Rely E Unmoving] in
instance {k : SocketPtr} {p : AssocPtr} : UnderLock Unmoving AnyHalt (addConnectionless k p : Act L _) := by
  unfold addConnectionless release
  infer_instance

instance : Accepts E Unmoving AnyHalt where
  take _ _ := inferInstance
  acceptIncoming _ := underLock_acceptIncoming inferInstance (fun _ => inferInstance) fun _ => inferInstance

instance {held : Bool} {k : SocketPtr} {id : AssocID} {flags : NotificationFlags} {udpLike : Bool} :
    Keeps (Within Unmoving held) (Stops Unmoving AnyHalt held) (SCTPAssociation.new E k id flags udpLike) := by
  unfold SCTPAssociation.new
  infer_instance

instance : Connects E Unmoving AnyHalt where
  associateBegin s streams attempts timeout addresses := by
    unfold associateBegin associateID hold enter
    infer_instance
  associateEnd p := by unfold leave; infer_instance
  enter p := by unfold enter; infer_instance
  leave p := by unfold leave; infer_instance
  release p := by unfold release; infer_instance
  connect s p := by unfold enter; infer_instance
  unlist s p := by infer_instance
  sendToEnd p := by unfold sendToEnd leave; infer_instance

instance {queue : QueueRef} {f : SCTPNotificationQueue → SCTPNotificationQueue} :
    Anywhere Unmoving AnyHalt (queue.modify f : Act L Unit) := by
  cases queue <;> unfold QueueRef.modify <;> infer_instance

instance : Receives E Unmoving AnyHalt where
  library _ _ _ _ := inferInstance
  modify _ _ := inferInstance
  unexpected := inferInstance
  drop k queue id := by
    unfold dropHead
    refine .seq fun _ => .seq fun found => ?_
    cases found <;> infer_instance

end SocketApi
