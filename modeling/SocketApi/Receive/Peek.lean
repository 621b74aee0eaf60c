import SocketApi.Receive.Piecewise
import SocketApi.Frame.Connecting
import SocketApi.Options.Instant

/-!
# Peeking at a record

`MSG_PEEK` takes the way of a consuming read and puts the head of the queue back. When the queue is
then as before, and the read that follows returns the same.
-/

namespace SocketApi

open Effect SCTPSocket

set_option synthInstance.maxSize 2000

variable {L : Sctplib} {E : Environment L} {w : World L} {unread : AssocID → StreamID → L.State → List UInt8 → Prop}
  {s : SocketPtr} {queue : QueueRef} {o : SCTPSocket} {flags : NotificationFlags} {io : ReceiveIO}
  {n : SCTPNotification} {rest : SCTPNotificationQueue} {wantAddress : Bool}

/-! ## An empty queue -/

/-- No queue changes. -/
def SameQueues (_ : Bool) (t t' : Shared L) : Prop := ∀ queue, t'.queue queue = t.queue queue

theorem queue_core (t : Shared L) (queue : QueueRef) : t.core.queue queue = t.queue queue := by
  cases queue with
  | global k => simp [Shared.queue, Shared.core, SCTPSocket.core, Option.map_map, Function.comp_def]
  | inQueue p => simp [Shared.queue, Shared.core, SCTPAssociation.core, Option.map_map, Function.comp_def]

instance : Stable (SameQueues (L := L)) AnyHalt where
  refl _ _ _ := rfl
  trans h h' queue := (h' queue).trans (h queue)
  weaken h := h
  absorb _ _ := trivial
  undefined _ := trivial
  endless _ := trivial
  suspended _ := trivial
  calm {t t'} h _ queue := by rw [← queue_core t', h, queue_core]
  adjust _ queue := by cases queue <;> rfl

theorem Environment.Instant.rely (hE : E.Instant) : Rely E SameQueues where
  interfere h queue := by
    rw [hE] at h
    cases h
    rfl

section

variable {held : Bool}

theorem SameQueues.update {f : Shared L → Shared L} (hf : ∀ t queue, (f t).queue queue = t.queue queue) :
    Keeps (Within SameQueues held) (Stops SameQueues AnyHalt held) (update f) :=
  ⟨fun w _ => ⟨hf w.shared, le_rfl⟩⟩

theorem queue_setSocket (t : Shared L) (k : SocketPtr) {f : SCTPSocket → SCTPSocket}
    (hf : ∀ o, (f o).globalQueue = o.globalQueue) (queue : QueueRef) :
    (t.setSocket k f).queue queue = t.queue queue := by
  cases queue with
  | inQueue p => rfl
  | global j =>
    simp only [Shared.queue, Shared.setSocket, Function.update_apply]
    split
    · subst j
      rw [Option.map_map]
      exact Option.map_congr fun o _ => hf o
    · rfl

/-- Every change of a socket but of its queue. -/
instance {k : SocketPtr} {flags : SCTPSocket → SocketFlags} {requests : SCTPSocket → List IncomingConnection}
    {list : SCTPSocket → Multimap AssocID AssocPtr} {ready : SCTPSocket → Bool} :
    Keeps (Within SameQueues held) (Stops SameQueues AnyHalt held) (setSocket k fun o => { o with
      flags := flags o, connectionRequests := requests o, connectionlessAssociationList := list o
      readReady := ready o } : Act L _) := by
  have : Keeps (Within SameQueues held) (Stops SameQueues AnyHalt held)
      (update fun t : Shared L => t.setSocket k fun o => { o with
        flags := flags o, connectionRequests := requests o, connectionlessAssociationList := list o
        readReady := ready o }) := SameQueues.update fun t => queue_setSocket t k fun _ => rfl
  unfold setSocket
  infer_instance

instance {holders : Shared L → List AssocPtr} :
    Keeps (Within SameQueues held) (Stops SameQueues AnyHalt held) (update fun t => { t with holders := holders t }) :=
  SameQueues.update fun _ queue => by cases queue <;> rfl

instance {k : SocketPtr} {requests : List IncomingConnection} :
    Keeps (Within SameQueues held) (Stops SameQueues AnyHalt held)
      (setSocket k fun o => { o with connectionRequests := requests } : Act L _) :=
  inferInstanceAs (Keeps _ _ (setSocket k fun o => { o with
    flags := o.flags, connectionRequests := requests, connectionlessAssociationList := o.connectionlessAssociationList
    readReady := o.readReady }))

instance {k : SocketPtr} {withAddresses : Bool} [Rely E (SameQueues (L := L))] :
    UnderLock (L := L) SameQueues AnyHalt (takeRequest E k withAddresses) := by
  unfold takeRequest hold
  refine .seq fun o => ?_
  cases o.connectionRequests with
  | nil => infer_instance
  | cons request rest =>
    dsimp only
    infer_instance

instance {k : SocketPtr} {p : AssocPtr} : UnderLock (L := L) SameQueues AnyHalt (addConnectionless k p) := by
  unfold addConnectionless release
  infer_instance

instance [Rely E (SameQueues (L := L))] : Accepts E (SameQueues (L := L)) AnyHalt where
  take _ _ := inferInstance
  acceptIncoming _ := underLock_acceptIncoming inferInstance (fun _ => inferInstance) fun _ => inferInstance

end

/-- A read from an empty queue returns no bytes, if nothing gets into the queue meanwhile. -/
theorem post_fetchNotification_empty (hE : E.Instant) (hl : 0 < w.thread.lockLevel)
    (hq : w.shared.queue queue = some []) :
    Post (fetchNotification E s queue io flags) w (fun f _ => ∃ r, f = .returned r ∧ r.bytes = []) fun _ _ => True := by
  have := hE.rely
  refine Post.loop (I := fun w => 0 < w.thread.lockLevel ∧ w.shared.queue queue = some []) (fun _ _ => trivial)
    (fun rest hrest w ⟨hl, hq⟩ => ?_) _ _ ⟨hl, hq⟩
  rw [post_bind, (runs_queueGet hq).post]
  simp only [SCTPNotificationQueue.getNotification, List.head?_nil]
  have hcode : Moves SameQueues AnyHalt 1 (fun _ => 1) (getErrorCode E s io.assocID) := .anywhere inferInstance
  refine ((hcode w hl).mono (fun _ _ h => h) fun _ _ _ => trivial).bind fun code w₁ ⟨hR₁, hl₁⟩ => ?_
  dsimp only at hl₁
  have hunlock : Moves SameQueues AnyHalt 1 (fun _ => 0) (unlock E) := .unlock
  refine ((hunlock w₁ (by omega)).mono (fun _ _ h => h) fun _ _ _ => trivial).bind fun _ w₂ ⟨hR₂, hl₂⟩ => ?_
  have hq₂ : w₂.shared.queue queue = some [] := by rw [hR₂, hR₁, hq]
  by_cases hcode : code ≠ 0
  · rw [post_ite, if_pos hcode]
    refine Post.bind (R := fun _ _ => True) ((runs_queueGet hq₂).post.mpr trivial) fun _ _ _ => ?_
    rw [post_ite]
    split
    · exact ⟨_, rfl, rfl⟩
    · exact ⟨_, rfl, rfl⟩
  · rw [post_ite, if_neg hcode]
    by_cases hwait : io.flags.dontwait
    · rw [post_ite, if_pos hwait]
      exact ⟨_, rfl, rfl⟩
    · rw [post_ite, if_neg hwait]
      have hwait : Moves SameQueues AnyHalt 0 (fun _ => 0) (waitFor E queue.updateCondition (checkAutoConnect E s)) :=
        .anywhere inferInstance
      refine ((hwait w₂ (Nat.zero_le _)).mono (fun _ _ h => h) fun _ _ _ => trivial).bind fun _ w₃ ⟨hR₃, _⟩ => ?_
      rw [post_bind, runs_lock.post]
      exact hrest _ ⟨Nat.succ_pos _, by rw [World.up_shared, hR₃, hq₂]⟩

/-! ## Two calls -/

theorem Environment.Instant.hands {t t' : Shared L} (hE : E.Instant) (h : E.Hands t t') : t' = t := by
  rcases h with rfl | ⟨k, hk⟩
  · rfl
  · rw [hE] at hk
    exact (Option.some.inj hk).symm

theorem Environment.Instant.not_suspends {h : Halt} (hE : E.Instant) : ¬ E.Suspends h := by
  rintro ⟨-, k, t, hk⟩
  rw [hE] at hk
  cases hk

/-- The call with or without `MSG_PEEK`. -/
def ReceiveIO.withPeek (io : ReceiveIO) (peek : Bool) : ReceiveIO := { io with flags := { io.flags with peek } }

/-- The second call returns what the first did. -/
structure SameAnswer (r r' : ReceiveResult) : Prop where
  bytes : r'.bytes = r.bytes
  size : r'.io.bufferSize = r.io.bufferSize
  result : r'.result = r.result
  notification : r'.io.flags.notification = r.io.flags.notification
  eor : r'.io.flags.eor = r.io.flags.eor

/-- If a call that peeks returns bytes, then the queue is as before, and the same call without
`MSG_PEEK` returns the same. -/
def PeekSafe (E : Environment L) (s : SocketPtr) (queue : QueueRef) (io : ReceiveIO) (wantAddress : Bool)
    (flags : NotificationFlags) (w : World L) : Prop :=
  Post (internalReceive E s queue (io.withPeek true) wantAddress flags) w
    (fun r w₁ => r.bytes ≠ [] → w₁.shared.queue queue = w.shared.queue queue ∧
      Post (internalReceive E s queue (io.withPeek false) wantAddress flags) w₁ (fun r' _ => SameAnswer r r')
        fun _ _ => False)
    fun _ _ => True

/-- The records and calls for which peeking changes nothing. -/
def PeeksWell (io : ReceiveIO) (flags : NotificationFlags) (o : SCTPSocket) (t : Shared L) (n : SCTPNotification) :
    Prop :=
  match n.content with
  | .dataArrive sda =>
    sda.sda_bytes_arrived = 0 ∨ io.bufferSize < sda.sda_bytes_arrived ∨
      io.flags.eor = true ∧ t.InUse o sda.sda_assoc_id
  | _ =>
    (io.flags.notification && flags.selects n.content.snType) = false ∨ io.bufferSize % 2 ^ 32 = 0 ∨
      n.content.snLength ≤ n.contentPosition ∨
      n.contentPosition = 0 ∧ (io.bufferSize % 2 ^ 32 < n.content.snLength ∨ t.InUse o n.content.headerAssocID)

theorem peeksWell_notification {t : Shared L} (hn : n.content.isData = false) :
    PeeksWell io flags o t n ↔
      (io.flags.notification && flags.selects n.content.snType) = false ∨ io.bufferSize % 2 ^ 32 = 0 ∨
        n.content.snLength ≤ n.contentPosition ∨
        n.contentPosition = 0 ∧ (io.bufferSize % 2 ^ 32 < n.content.snLength ∨ t.InUse o n.content.headerAssocID) := by
  unfold PeeksWell
  cases hc : n.content with
  | dataArrive sda =>
    rw [hc] at hn
    cases hn
  | _ => rfl

/-- A call that finds a record returns what its branch for the record returned, unless the record
is dropped and its association has no use. -/
theorem post_internalReceive_iff {piece : Piece} {u : Shared L} {Q : ReceiveResult → Shared L → Prop} (hE : E.Instant)
    (hsize : io.bufferSize ≠ 0) (ho : w.shared.sockets s = some o) (hlive : Live w.shared s)
    (hq : w.shared.queue queue = some (n :: rest))
    (hhead : Inside (receiveHead E s queue n io wantAddress flags) w.up fun out t =>
      out = (piece.result, piece.left.isSome) ∧
        t.seen = (match piece.left with
          | some m => u.modifyQueue (·.updateNotification m) queue
          | none => u).seen)
    (hu : SameShape u w.shared) (huq : u.queue queue = some (n :: rest))
    (hQ : ∀ r t t', t.seen = t'.seen → Q r t → Q r t') :
    Post (internalReceive E s queue io wantAddress flags) w (fun r w' => Q r w'.shared) (fun _ _ => False) ↔
      (piece.left = none → u.InUse o piece.result.io.assocID) ∧ Q piece.result (u.advance queue o piece) := by
  by_cases huse : piece.left = none → u.InUse o piece.result.io.assocID
  · obtain ⟨r, w', hrun, hr, -, t, ht, hands⟩ :=
      ((post_internalReceive hsize ho hlive hq hhead hu huq huse).mono (fun _ _ h => h)
        fun _ _ h => hE.not_suspends h).exists_ok
    rw [post_of_ok hrun, hr, hE.hands hands]
    exact ⟨fun h => ⟨huse, hQ _ _ _ ht h⟩, fun h => hQ _ _ _ ht.symm h.2⟩
  · obtain ⟨hleft, hunused⟩ := Classical.not_imp.mp huse
    rw [hleft] at hhead
    have hcall := post_internalReceive_unused hsize ho hlive hq hhead hu huq hunused
    constructor
    · intro h
      obtain ⟨_, _, hrun, -⟩ := h.exists_ok
      exact (hcall.of_ok hrun).elim
    · exact fun h => absurd h.1 huse

/-- The state after a call that put a record back. -/
theorem after_update {t u : Shared L} {m : SCTPNotification} (hlive : Live u s) (ho : u.sockets s = some o)
    (hq : u.queue queue = some (n :: rest)) (ht : t.seen = (u.modifyQueue (·.updateNotification m) queue).seen) :
    Live t s ∧ t.queue queue = some (m :: rest) ∧ t.stack = u.stack ∧
      ∃ o', t.sockets s = some o' ∧ ∀ id, t.InUse o' id ↔ u.InUse o id := by
  have halike : SameShape t u := (SameShape.of_seen ht).trans (sameShape_modifyQueue _ queue)
  obtain ⟨o', ho', hshape⟩ := halike.socket ho
  have hlist := SCTPSocket.associationList_eq hshape
  have hcount (p : AssocPtr) := (useCount_seen ht p).trans (useCount_modifyQueue u _ queue p)
  refine ⟨hlive.sameShape halike, ?_, ?_, o', ho', fun id => ⟨fun h => ?_, fun h => ?_⟩⟩
  · rw [seen_queue ht, Shared.queue_modifyQueue, hq]
    rfl
  · rw [seen_stack ht, stack_modifyQueue]
  · exact inUse_of_counts (fun p => (hcount p).symm) hlist.symm h
  · exact inUse_of_counts hcount hlist h

theorem peekSafe_data {sda : SctpDataArrive} {m : List UInt8} (hE : E.Instant) (hL : L.Reads unread)
    (hsize : io.bufferSize ≠ 0) (hlive : Live w.shared s) (ho : w.shared.sockets s = some o)
    (hq : w.shared.queue queue = some (n :: rest)) (hn : n.content = .dataArrive sda)
    (hlength : sda.sda_bytes_arrived = m.length) (hm : m ≠ [])
    (hunread : unread sda.sda_assoc_id sda.sda_stream w.shared.stack m) :
    PeekSafe E s queue io wantAddress flags w ↔
      io.bufferSize < m.length ∨ io.flags.eor = true ∧ w.shared.InUse o sda.sda_assoc_id := by
  have hpos : 0 < sda.sda_bytes_arrived := hlength ▸ List.length_pos_iff.mpr hm
  have hsize' (peek : Bool) : (io.withPeek peek).bufferSize ≠ 0 := hsize
  obtain ⟨r, stack, hr, hbytes, hkept⟩ := hL.peek (n := min sda.sda_bytes_arrived io.bufferSize) hunread
  obtain ⟨address, hhead⟩ := inside_receiveHead_data (E := E) (io.withPeek true) s wantAddress flags hq hn hpos hr
  obtain ⟨r₁, w₁, hrun, rfl, -, t, ht, hands⟩ :=
    ((post_internalReceive (hsize' true) ho hlive hq hhead ⟨rfl, rfl⟩
      ((Shared.queue_withStack ..).trans hq) nofun).mono (fun _ _ h => h) fun _ _ h => hE.not_suspends h).exists_ok
  obtain ⟨hlive₁, hq₁, hstack₁, o₁, ho₁, huse₁⟩ := after_update (m := n) (t := w₁.shared)
    (u := w.shared.withStack stack) hlive ho ((Shared.queue_withStack ..).trans hq) (hE.hands hands ▸ ht)
  have htake : r.bytes = m.take io.bufferSize := by
    rw [hbytes, hlength, Nat.min_comm, ← List.take_take, List.take_length]
  have hne : r.bytes ≠ [] := by
    rw [htake, ne_eq, List.take_eq_nil_iff, not_or]
    exact ⟨hsize, hm⟩
  have hunread₁ : unread sda.sda_assoc_id sda.sda_stream w₁.shared.stack m := by
    rw [hstack₁]
    exact hkept hm
  obtain ⟨r', stack', hr', hbytes', -⟩ := hL.consume (n := min sda.sda_bytes_arrived io.bufferSize) hunread₁
  obtain ⟨address', hhead'⟩ := inside_receiveHead_data (E := E) (io.withPeek false) s wantAddress flags hq₁ hn hpos hr'
  have hcall := post_internalReceive_iff (Q := fun r' _ =>
    SameAnswer (dataPiece n sda (io.withPeek true) r address).result r') hE (hsize' false) ho₁ hlive₁ hq₁ hhead'
    ⟨rfl, rfl⟩ ((Shared.queue_withStack ..).trans hq₁) fun _ _ _ _ h => h
  have hsame : r'.bytes = r.bytes := by rw [hbytes', hbytes]
  have hlen : r.bytes.length = min io.bufferSize m.length := by rw [htake, List.length_take]
  have hleft : (dataPiece n sda (io.withPeek false) r' address').left = none ↔ m.length ≤ io.bufferSize := by
    have hremains : m.length - min io.bufferSize m.length = 0 ↔ m.length ≤ io.bufferSize := by omega
    simp [dataPiece, dataLeft, ReceiveIO.withPeek, hsame, hlen, hlength, hremains]
  have hanswer : SameAnswer (dataPiece n sda (io.withPeek true) r address).result
      (dataPiece n sda (io.withPeek false) r' address').result ↔ io.flags.eor = true ∨ io.bufferSize < m.length := by
    have heor : (dataPiece n sda (io.withPeek false) r' address').result.io.flags.eor =
        (io.flags.eor || (dataPiece n sda (io.withPeek false) r' address').left.isNone) := rfl
    have heor' : (dataPiece n sda (io.withPeek true) r address).result.io.flags.eor = io.flags.eor := by
      simp [dataPiece, dataLeft, ReceiveIO.withPeek]
    constructor
    · intro h
      have hend := h.eor
      rw [heor, heor'] at hend
      by_cases hmore : io.bufferSize < m.length
      · exact .inr hmore
      · rw [hleft.mpr (Nat.le_of_not_lt hmore)] at hend
        exact .inl (by simpa using hend.symm)
    · intro h
      refine ⟨hsame, congrArg List.length hsame, by simp only [dataPiece, hsame], rfl, ?_⟩
      rw [heor, heor']
      rcases h with heor | hmore
      · rw [heor, Bool.true_or]
      · have hsome : (dataPiece n sda (io.withPeek false) r' address').left ≠ none := fun h => by
          have := hleft.mp h
          omega
        rw [Option.isNone_eq_false_iff.mpr (Option.isSome_iff_ne_none.mpr hsome), Bool.or_false]
  unfold PeekSafe
  rw [post_of_ok hrun, hq₁, hq, hcall, hanswer, hleft]
  have huse : (w₁.shared.withStack stack').InUse o₁ sda.sda_assoc_id ↔ w.shared.InUse o sda.sda_assoc_id :=
    huse₁ sda.sda_assoc_id
  constructor
  · intro h
    obtain ⟨-, hdrop, hend⟩ := h hne
    by_cases hmore : io.bufferSize < m.length
    · exact .inl hmore
    · exact .inr ⟨hend.resolve_right hmore, huse.mp (hdrop (Nat.le_of_not_lt hmore))⟩
  · rintro (hmore | ⟨heor, hinuse⟩) _
    · exact ⟨rfl, fun hend => absurd hmore (Nat.not_lt.mpr hend), .inr hmore⟩
    · exact ⟨rfl, fun _ => huse.mpr hinuse, .inl heor⟩

theorem peekSafe_notification (hE : E.Instant) (hsize : io.bufferSize ≠ 0) (hlive : Live w.shared s)
    (ho : w.shared.sockets s = some o) (hq : w.shared.queue queue = some (n :: rest)) (hn : n.content.isData = false)
    (htype : n.content.snType ≠ .undefined) (hlength : n.content.snLength ≤ n.content.bytes.length)
    (hflag : io.flags.notification = true) (hselects : flags.selects n.content.snType = true) :
    PeekSafe E s queue io wantAddress flags w ↔ notificationCopy n io = 0 ∨
      n.contentPosition = 0 ∧ (notificationCopy n io < n.content.snLength ∨ w.shared.InUse o n.content.headerAssocID) := by
  have hsize' (peek : Bool) : (io.withPeek peek).bufferSize ≠ 0 := hsize
  have hhead := inside_receiveHead_notification (E := E) (io.withPeek true) s wantAddress hq hn htype hflag hselects
  obtain ⟨r₁, w₁, hrun, rfl, -, t, ht, hands⟩ :=
    ((post_internalReceive (hsize' true) ho hlive hq hhead (.refl _) hq nofun).mono
      (fun _ _ h => h) fun _ _ h => hE.not_suspends h).exists_ok
  have hbytes : (notificationPiece n (io.withPeek true)).result.bytes ≠ [] ↔ notificationCopy n io ≠ 0 := by
    change ((n.content.bytes.drop n.contentPosition).take (notificationCopy n io)) ≠ [] ↔ _
    rw [ne_eq, List.take_eq_nil_iff, List.drop_eq_nil_iff]
    unfold notificationCopy
    omega
  obtain ⟨hlive₁, hq₁, -, o₁, ho₁, huse₁⟩ := after_update (m := { n with contentPosition := 0 }) (t := w₁.shared)
    (u := w.shared) hlive ho hq (hE.hands hands ▸ ht)
  unfold PeekSafe
  rw [post_of_ok hrun, hq₁, hq, hbytes]
  by_cases hzero : notificationCopy n io = 0
  · exact ⟨fun _ => .inl hzero, fun _ h => absurd hzero h⟩
  by_cases hstart : n.contentPosition = 0
  · have hn₁ : { n with contentPosition := 0 } = n := by rw [← hstart]
    rw [hn₁] at hq₁ ⊢
    have hhead' :=
      inside_receiveHead_notification (E := E) (io.withPeek false) s wantAddress hq₁ hn htype hflag hselects
    have hcall := post_internalReceive_iff (Q := fun r' _ =>
      SameAnswer (notificationPiece n (io.withPeek true)).result r') hE (hsize' false) ho₁ hlive₁ hq₁ hhead'
      (.refl _) hq₁ fun _ _ _ _ h => h
    have hanswer : SameAnswer (notificationPiece n (io.withPeek true)).result
        (notificationPiece n (io.withPeek false)).result := ⟨rfl, rfl, by simp only [notificationPiece]; rfl, rfl, rfl⟩
    have hleft :
        (notificationPiece n (io.withPeek false)).left = none ↔ n.content.snLength ≤ notificationCopy n io := by
      have hcopy : notificationCopy n (io.withPeek false) = notificationCopy n io := rfl
      simp [notificationPiece, notificationLeft, hcopy, hstart]
      simp [ ReceiveIO.withPeek]
    rw [hcall, hleft]
    have huse := huse₁ n.content.headerAssocID
    constructor
    · intro h
      obtain ⟨-, hdrop, -⟩ := h hzero
      refine .inr ⟨hstart, ?_⟩
      by_cases hmore : notificationCopy n io < n.content.snLength
      · exact .inl hmore
      · exact .inr (huse.mp (hdrop (Nat.le_of_not_lt hmore)))
    · rintro (h | ⟨-, hmore | hinuse⟩) _
      · exact absurd h hzero
      · exact ⟨rfl, fun hend => absurd hmore (Nat.not_lt.mpr hend), hanswer⟩
      · exact ⟨rfl, fun _ => huse.mpr hinuse, hanswer⟩
  · constructor
    · intro h
      obtain ⟨hqueue, -⟩ := h hzero
      have hhead := List.head_eq_of_cons_eq (Option.some.inj hqueue)
      exact absurd (congrArg SCTPNotification.contentPosition hhead).symm hstart
    · rintro (h | ⟨h, -⟩)
      · exact absurd h hzero
      · exact absurd h hstart

/-! ## Calls that return no bytes -/

/-- The call returns no bytes, if it returns. -/
def NoBytes (x : Act L ReceiveResult) (w : World L) : Prop := Post x w (fun r _ => r.bytes = []) fun _ _ => True

theorem noBytes_zero (hsize : io.bufferSize = 0) : NoBytes (internalReceive E s queue io wantAddress flags) w := by
  unfold NoBytes internalReceive
  rw [post_ite, if_pos hsize]
  rfl

theorem noBytes_empty (hE : E.Instant) (hsize : io.bufferSize ≠ 0) (hq : w.shared.queue queue = some []) :
    NoBytes (internalReceive E s queue io wantAddress flags) w := by
  unfold NoBytes internalReceive
  rw [post_ite, if_neg hsize, post_bind, runs_lock.post, post_bind]
  refine (post_fetchNotification_empty (w := w.up) hE (Nat.succ_pos _) hq).imp fun f w₁ hf => ?_
  obtain ⟨r, rfl, hr⟩ := hf
  exact hr

theorem noBytes_skip (hsize : io.bufferSize ≠ 0) (hq : w.shared.queue queue = some (n :: rest))
    (hskip : Post (receiveHead E s queue n io wantAddress flags) w.up (fun out _ => out.1.bytes = []) fun _ _ => True) :
    NoBytes (internalReceive E s queue io wantAddress flags) w := by
  unfold NoBytes internalReceive
  rw [post_ite, if_neg hsize, post_bind, runs_lock.post, post_bind,
    (runs_fetchNotification (w := w.up) hq).post, post_bind]
  refine hskip.imp fun out w₁ hout => ?_
  have hend (w₂ : World L) : Post (do unlock E; return out.1) w₂ (fun r _ => r.bytes = []) fun _ _ => True :=
    Post.bind post_true fun _ _ _ => hout
  cases out.2 with
  | true => exact hend w₁
  | false => exact Post.bind post_true fun _ w₂ _ => hend w₂

theorem peekSafe_of_noBytes (h : NoBytes (internalReceive E s queue (io.withPeek true) wantAddress flags) w) :
    PeekSafe E s queue io wantAddress flags w :=
  Post.imp h fun _ _ h hne => absurd h hne

/-- Peeking is harmless exactly for the calls that `PeeksWell` names. -/
theorem peek_harmless {q : SCTPNotificationQueue} (hE : E.Instant) (hL : L.Reads unread) (hlive : Live w.shared s)
    (ho : w.shared.sockets s = some o) (hq : w.shared.queue queue = some q)
    (hhead : ∀ n, q.head? = some n → ∃ left, Remains unread w.shared.stack n left) :
    PeekSafe E s queue io wantAddress flags w ↔
      io.bufferSize = 0 ∨ ∀ n, q.head? = some n → PeeksWell io flags o w.shared n := by
  by_cases hsize : io.bufferSize = 0
  · have hpeek : (io.withPeek true).bufferSize = 0 := hsize
    have hsafe : PeekSafe E s queue io wantAddress flags w := peekSafe_of_noBytes (noBytes_zero hpeek)
    exact iff_of_true hsafe (.inl hsize)
  have hpeek : (io.withPeek true).bufferSize ≠ 0 := hsize
  cases q with
  | nil =>
    have hsafe : PeekSafe E s queue io wantAddress flags w := peekSafe_of_noBytes (noBytes_empty hE hpeek hq)
    exact iff_of_true hsafe (.inr (by simp))
  | cons n rest =>
    obtain ⟨left, hremains⟩ := hhead n rfl
    have hwell : (io.bufferSize = 0 ∨ ∀ m, (n :: rest).head? = some m → PeeksWell io flags o w.shared m) ↔
        PeeksWell io flags o w.shared n := by simp [hsize]
    rw [hwell]
    cases hremains with
    | @data sda _ hn hlength hunread =>
      unfold PeeksWell
      rw [hn]
      dsimp only
      by_cases hm : left = []
      · have hzero : sda.sda_bytes_arrived = 0 := by rw [hlength, hm]; rfl
        refine ⟨fun _ => .inl hzero, fun _ => peekSafe_of_noBytes (noBytes_skip hpeek hq ?_)⟩
        unfold receiveHead receiveData
        rw [hn]
        dsimp only
        rw [post_ite, if_pos hzero]
        rfl
      · rw [peekSafe_data hE hL hsize hlive ho hq hn hlength hm hunread, ← hlength]
        have hpos : sda.sda_bytes_arrived ≠ 0 := by
          rw [hlength]
          exact fun h => hm (List.length_eq_zero_iff.mp h)
        simp [hpos]
    | notification hn htype hlength =>
      have hnotification : PeeksWell io flags o w.shared n ↔
          ((io.flags.notification && flags.selects n.content.snType) = false ∨ notificationCopy n io = 0 ∨
            n.contentPosition = 0 ∧
              (notificationCopy n io < n.content.snLength ∨ w.shared.InUse o n.content.headerAssocID)) := by
        rw [peeksWell_notification hn]
        refine or_congr_right ?_
        unfold notificationCopy
        by_cases huse : w.shared.InUse o n.content.headerAssocID
        · simp only [huse, or_true, and_true]
          omega
        · simp only [huse, or_false]
          omega
      rw [hnotification]
      by_cases hwanted : io.flags.notification = true ∧ flags.selects n.content.snType = true
      · rw [peekSafe_notification hE hsize hlive ho hq hn htype hlength hwanted.1 hwanted.2]
        simp [hwanted]
      · have hskip : (io.flags.notification && flags.selects n.content.snType) = false := by
          rwa [← Bool.not_eq_true, Bool.and_eq_true]
        refine ⟨fun _ => .inl hskip, fun _ => peekSafe_of_noBytes (noBytes_skip hpeek hq ?_)⟩
        rw [receiveHead_notification hn]
        refine Post.mono (inside_skipNotification (io.withPeek true) (Nat.succ_pos _) ho hlive htype hskip)
          (fun out w₁ hout => ?_) fun _ _ h => h.elim
        rw [hout.2.1]
        unfold skipPiece
        split <;> rfl

theorem peek_harmless_two :
    PeekSafe {} 0 (.global 0) (sized 2) false { recvAssocEvnt := true } ({ shared := threeBytes } : World Sctplib.small) := by
  refine (peek_harmless (fun _ _ => rfl) small_reads threeBytes_reading.live rfl rfl fun n hn => ?_).mpr (.inr ?_)
  · cases hn
    exact ⟨_, .data rfl rfl rfl⟩
  · intro n hn
    cases hn
    exact .inr (.inl (by decide))

/-- A socket with a shutdown notification of which 8 bytes have been read. -/
def partlyRead : Shared Sctplib.small := threeBytes.setSocket 0 fun o => { o with
  notificationFlags := { recvShutdownEvnt := true }
  globalQueue := [
    { content := .shutdownEvent { sse_type := .shutdownEvent, sse_length := 20, sse_assoc_id := 1 }
      contentPosition := 8 }] }

def anything (bufferSize : Nat) : ReceiveIO := { sized bufferSize with flags := { notification := true } }

theorem partlyRead_peek :
    Post (internalReceive {} 0 (.global 0) ((anything 8).withPeek true) false { recvShutdownEvnt := true })
      ({ shared := partlyRead } : World Sctplib.small)
      (fun r w => r.bytes ≠ [] ∧ w.shared.queue (.global 0) ≠ partlyRead.queue (.global 0)) fun _ _ => False := by
  decide +kernel

/-- Peeking at a notification starts it from its first byte again. -/
theorem peek_rewinds :
    ¬ PeekSafe {} 0 (.global 0) (anything 8) false { recvShutdownEvnt := true }
      ({ shared := partlyRead } : World Sctplib.small) := by
  intro h
  obtain ⟨r, w, hrun, hbytes, hqueue⟩ := partlyRead_peek.exists_ok
  exact hqueue (Post.of_ok h hrun hbytes).1

end SocketApi
