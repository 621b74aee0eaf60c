import SocketApi.Receive.Piece

/-!
# Reading a record piece by piece

A record at the head of a queue is read by calls with any buffer sizes. Each takes as much as fits,
and the call that takes the last byte marks the end of the record and removes it.
-/

namespace SocketApi

open Effect SCTPSocket

variable {L : Sctplib} {E : Environment L} {w : World L}

/-! ## What is left of a record -/

/-- What `sctp_receive` is known to do: it returns what there is of the message that it reads, up
to the wanted length, and leaves the rest. `unread` says which bytes of the message are left. -/
structure Sctplib.Reads (L : Sctplib) (unread : AssocID → StreamID → L.State → List UInt8 → Prop) : Prop where
  consume : ∀ {s id stream m n}, unread id stream s m → ∃ r s', L.receive s id stream n false = (some r, s') ∧
    r.bytes = m.take n ∧ (n < m.length → unread id stream s' (m.drop n))
  peek : ∀ {s id stream m n}, unread id stream s m → ∃ r s', L.receive s id stream n true = (some r, s') ∧
    r.bytes = m.take n ∧ (m ≠ [] → unread id stream s' m)

/-- The bytes of a record that are still to be read: of a message, what the library has of it, of
a notification its first `sn_length` bytes without those in front of `ContentPosition`. -/
inductive Remains (unread : AssocID → StreamID → L.State → List UInt8 → Prop) (stack : L.State)
    (n : SCTPNotification) : List UInt8 → Prop
  | data {sda : SctpDataArrive} {m : List UInt8} (hn : n.content = .dataArrive sda)
      (hlength : sda.sda_bytes_arrived = m.length) (hunread : unread sda.sda_assoc_id sda.sda_stream stack m) :
      Remains unread stack n m
  | notification (hn : n.content.isData = false) (htype : n.content.snType ≠ .undefined)
      (hlength : n.content.snLength ≤ n.content.bytes.length) :
      Remains unread stack n ((n.content.bytes.take n.content.snLength).drop n.contentPosition)

/-- Only a notification of a type that the flags select is read. -/
def SCTPNotification.Wanted (n : SCTPNotification) (flags : NotificationFlags) : Prop :=
  n.content.isData = false → flags.selects n.content.snType = true

/-- A record of which `left` is still to be read is at the head of the queue, in front of `rest`. -/
structure Reading (unread : AssocID → StreamID → L.State → List UInt8 → Prop) (s : SocketPtr) (queue : QueueRef)
    (flags : NotificationFlags) (isData : Bool) (left : List UInt8) (rest : SCTPNotificationQueue) (t : Shared L) :
    Prop where
  live : Live t s
  record : ∃ o n, t.sockets s = some o ∧ t.queue queue = some (n :: rest) ∧ Remains unread t.stack n left ∧
    n.Wanted flags ∧ n.content.isData = isData ∧ t.InUse o n.content.headerAssocID

section

variable {unread : AssocID → StreamID → L.State → List UInt8 → Prop} {s : SocketPtr} {queue : QueueRef}
  {flags : NotificationFlags} {isData : Bool} {left : List UInt8} {rest : SCTPNotificationQueue} {io : ReceiveIO}
  {n : SCTPNotification} {o : SCTPSocket}

/-- A record stays to be read while only times and readiness flags change. -/
theorem Reading.seen {t t' : Shared L} (h : Reading unread s queue flags isData left rest t) (heq : t'.seen = t.seen) :
    Reading unread s queue flags isData left rest t' := by
  obtain ⟨o, n, ho, hq, hremains, hwanted, hdata, huse⟩ := h.record
  obtain ⟨o', ho', hseen⟩ := (SameShape.of_seen heq).socket ho
  refine ⟨h.live.sameShape (.of_seen heq), o', n, ho', ?_, ?_, hwanted, hdata, ?_⟩
  · rw [seen_queue heq, hq]
  · rw [seen_stack heq]
    exact hremains
  · exact huse.seen heq (SCTPSocket.associationList_eq hseen)

/-- The record with an updated head. -/
theorem Reading.update {u : Shared L} {m : SCTPNotification} (hlive : Live u s) (ho : u.sockets s = some o)
    (hq : u.queue queue = some (n :: rest)) (huse : u.InUse o m.content.headerAssocID)
    (hremains : Remains unread u.stack m left) (hwanted : m.Wanted flags) (hdata : m.content.isData = isData) :
    Reading unread s queue flags isData left rest (u.modifyQueue (·.updateNotification m) queue) := by
  have halike := sameShape_modifyQueue (s := u) (·.updateNotification m) queue
  obtain ⟨o', ho', hshape⟩ := halike.socket ho
  refine ⟨hlive.sameShape halike, o', m, ho', ?_, ?_, hwanted, hdata, ?_⟩
  · rw [Shared.queue_modifyQueue, hq]
    rfl
  · rw [stack_modifyQueue]
    exact hremains
  · exact inUse_modifyQueue (w := ⟨{}, u⟩) (SCTPSocket.associationList_eq hshape) huse

/-- A call that reads on: without `MSG_PEEK`, and with `MSG_NOTIFICATION` for a notification. -/
structure ReadsOn (isData : Bool) (io : ReceiveIO) : Prop where
  pos : 0 < io.bufferSize
  lt : io.bufferSize < 2 ^ 32
  peek : io.flags.peek = false
  eor : io.flags.eor = false
  notification : isData = false → io.flags.notification = true

/-- What a call returns that has `left` to read from. -/
structure IsPiece (left : List UInt8) (io : ReceiveIO) (r : ReceiveResult) : Prop where
  bytes : r.bytes = left.take io.bufferSize
  size : r.io.bufferSize = r.bytes.length
  result : r.result = intOfSize r.bytes.length
  eor : r.io.flags.eor = decide (left.length ≤ io.bufferSize)

/-- The queue after a call: without the record if it was read to its end. -/
def ReadTo (unread : AssocID → StreamID → L.State → List UInt8 → Prop) (s : SocketPtr) (queue : QueueRef)
    (flags : NotificationFlags) (isData : Bool) (left : List UInt8) (rest : SCTPNotificationQueue) (taken : Nat)
    (t : Shared L) : Prop :=
  if left.length ≤ taken then t.queue queue = some rest
  else Reading unread s queue flags isData (left.drop taken) rest t

theorem queue_lessUse (t : Shared L) (o : SCTPSocket) (id : AssocID) (queue : QueueRef) :
    (t.lessUse o id).queue queue = t.queue queue := by
  unfold Shared.lessUse
  split
  · cases queue with
    | global k => rfl
    | inQueue p =>
      simp only [Shared.queue, Shared.setAssociation, Function.update_apply]
      split
      · subst p
        rw [Option.map_map]
        rfl
      · rfl
  · rfl

/-- A piece of a message. -/
theorem piece_data {sda : SctpDataArrive} {wantAddress : Bool} (hL : L.Reads unread) (hio : ReadsOn isData io)
    (hlive : Live w.shared s) (ho : w.shared.sockets s = some o) (hq : w.shared.queue queue = some (n :: rest))
    (hn : n.content = .dataArrive sda) (hlength : sda.sda_bytes_arrived = left.length) (hleft : left ≠ [])
    (hunread : unread sda.sda_assoc_id sda.sda_stream w.shared.stack left) (hdata : n.content.isData = isData)
    (huse : w.shared.InUse o n.content.headerAssocID) :
    Post (internalReceive E s queue io wantAddress flags) w
      (fun r w' => IsPiece left io r ∧ w'.thread.lockLevel = w.thread.lockLevel ∧
        ∃ t, ReadTo unread s queue flags isData left rest io.bufferSize t ∧ E.Hands t w'.shared)
      fun e _ => e = .suspended := by
  have hpos : 0 < left.length := List.length_pos_iff.mpr hleft
  obtain ⟨r, stack, hr, hbytes, hrest⟩ := hL.consume (n := min left.length io.bufferSize) hunread
  have htake : r.bytes = left.take io.bufferSize := by
    rw [hbytes, Nat.min_comm, ← List.take_take, List.take_length]
  have hlen : r.bytes.length = min io.bufferSize left.length := by rw [htake, List.length_take]
  rw [← hlength, ← hio.peek] at hr
  obtain ⟨address, hhead⟩ := inside_receiveHead_data (E := E) io s wantAddress flags hq hn (hlength ▸ hpos) hr
  have hid : (dataPiece n sda io r address).result.io.assocID = n.content.headerAssocID := by rw [hn]; rfl
  have hcall := post_internalReceive hio.pos.ne' ho hlive hq hhead ⟨rfl, rfl⟩
    ((Shared.queue_withStack ..).trans hq) (fun _ => by rw [hid]; exact huse)
  refine hcall.mono (fun r' w' hpost => ?_) fun _ _ h => h.1
  obtain ⟨rfl, hlevel, u, hu, hands⟩ := hpost
  refine ⟨⟨htake, rfl, by simp only [dataPiece], ?_⟩, hlevel, u, ?_, hands⟩
  · by_cases hend : left.length ≤ io.bufferSize
    · simp [dataPiece, dataLeft, hio.peek, hio.eor, hlen, hlength, hend]
    · have hremains : 0 < left.length - min io.bufferSize left.length := by omega
      simp [dataPiece, dataLeft, hio.peek, hio.eor, hlen, hlength, hend, hremains]
  · unfold ReadTo
    by_cases hend : left.length ≤ io.bufferSize
    · have hnone : (dataPiece n sda io r address).left = none := by
        simp [dataPiece, dataLeft, hio.peek, hlen, hlength]
        omega
      rw [if_pos hend, seen_queue hu, Shared.advance, hnone, queue_lessUse, Shared.queue_modifyQueue,
        Shared.queue_withStack, hq]
      rfl
    · have hk : r.bytes.length = io.bufferSize := by omega
      have hsome : (dataPiece n sda io r address).left =
          some { n with content := .dataArrive { sda with sda_bytes_arrived := left.length - io.bufferSize } } := by
        simp [dataPiece, dataLeft, hio.peek, hk, hlength]
        omega
      have hmin : min left.length io.bufferSize = io.bufferSize := by omega
      rw [if_neg hend]
      refine Reading.seen ?_ hu
      rw [Shared.advance, hsome]
      refine Reading.update (u := w.shared.withStack stack) hlive ho ((Shared.queue_withStack ..).trans hq) ?_ ?_
        (fun h => by cases h) ?_
      · rw [hn] at huse
        exact huse
      · refine .data rfl (by rw [List.length_drop]) ?_
        rw [hmin] at hrest
        exact hrest (by omega)
      · rw [← hdata, hn]
        rfl

/-- A piece of a notification. -/
theorem piece_notification {wantAddress : Bool} (hio : ReadsOn isData io) (hlive : Live w.shared s)
    (ho : w.shared.sockets s = some o) (hq : w.shared.queue queue = some (n :: rest))
    (hn : n.content.isData = false) (htype : n.content.snType ≠ .undefined)
    (hlength : n.content.snLength ≤ n.content.bytes.length)
    (hremains : left = (n.content.bytes.take n.content.snLength).drop n.contentPosition) (hleft : left ≠ [])
    (hwanted : n.Wanted flags) (hdata : n.content.isData = isData) (huse : w.shared.InUse o n.content.headerAssocID) :
    Post (internalReceive E s queue io wantAddress flags) w
      (fun r w' => IsPiece left io r ∧ w'.thread.lockLevel = w.thread.lockLevel ∧
        ∃ t, ReadTo unread s queue flags isData left rest io.bufferSize t ∧ E.Hands t w'.shared)
      fun e _ => e = .suspended := by
  have hpos : 0 < left.length := List.length_pos_iff.mpr hleft
  have hlen : left.length = n.content.snLength - n.contentPosition := by
    rw [hremains, List.length_drop, List.length_take, Nat.min_eq_left hlength]
  have hcopy : notificationCopy n io = min left.length io.bufferSize := by
    rw [notificationCopy, hlen, Nat.mod_eq_of_lt hio.lt]
  have hbytes : (n.content.bytes.drop n.contentPosition).take (notificationCopy n io) = left.take io.bufferSize := by
    rw [hcopy, hlen, Nat.min_comm, hremains, List.drop_take, List.take_take]
  have hhead := inside_receiveHead_notification (E := E) io s wantAddress hq hn htype (hio.notification (hdata ▸ hn))
    (hwanted hn)
  have hcall := post_internalReceive hio.pos.ne' ho hlive hq hhead (.refl _) hq (fun _ => huse)
  refine hcall.mono (fun r' w' hpost => ?_) fun _ _ h => h.1
  obtain ⟨rfl, hlevel, u, hu, hands⟩ := hpost
  have hsize : left.length ≤ io.bufferSize ↔ n.content.snLength ≤ n.contentPosition + notificationCopy n io := by
    omega
  have hcount : notificationCopy n io = (left.take io.bufferSize).length := by
    rw [hcopy, List.length_take, Nat.min_comm]
  refine ⟨⟨hbytes, ?_, ?_, ?_⟩, hlevel, u, ?_, hands⟩
  · rw [← hbytes] at hcount
    exact hcount
  · rw [← hbytes] at hcount
    simp only [notificationPiece]
    rw [← hcount]
  · simp only [notificationPiece, hio.eor, Bool.false_or, hsize]
  · unfold ReadTo
    by_cases hend : left.length ≤ io.bufferSize
    · have hnone : (notificationPiece n io).left = none := by
        simp [notificationPiece, notificationLeft, hio.peek, hsize.mp hend]
      rw [if_pos hend, seen_queue hu, Shared.advance, hnone, queue_lessUse, Shared.queue_modifyQueue, hq]
      rfl
    · have hk : notificationCopy n io = io.bufferSize := by omega
      have hsome : (notificationPiece n io).left =
          some { n with contentPosition := n.contentPosition + io.bufferSize } := by
        have := mt hsize.mpr hend
        rw [hk] at this
        simp [notificationPiece, notificationLeft, hio.peek, hk, Nat.lt_of_not_le this]
      rw [if_neg hend]
      refine Reading.seen ?_ hu
      rw [Shared.advance, hsome]
      refine Reading.update hlive ho hq huse ?_ hwanted hdata
      rw [hremains, List.drop_drop]
      exact .notification hn htype hlength

/-- One call of `internalReceive` with a record to read from. -/
theorem Reading.piece {wantAddress : Bool} (hL : L.Reads unread) (hio : ReadsOn isData io)
    (h : Reading unread s queue flags isData left rest w.shared) (hleft : left ≠ []) :
    Post (internalReceive E s queue io wantAddress flags) w
      (fun r w' => IsPiece left io r ∧ w'.thread.lockLevel = w.thread.lockLevel ∧
        ∃ t, ReadTo unread s queue flags isData left rest io.bufferSize t ∧ E.Hands t w'.shared)
      fun e _ => e = .suspended := by
  obtain ⟨o, n, ho, hq, hremains, hwanted, hdata, huse⟩ := h.record
  cases hremains with
  | data hn hlength hunread => exact piece_data hL hio h.live ho hq hn hlength hleft hunread hdata huse
  | notification hn htype hlength =>
    exact piece_notification hio h.live ho hq hn htype hlength rfl hleft hwanted hdata huse

/-! ## A sequence of calls -/

/-- No other thread works on the queue: a record that is being read stays as it is, and so does
the queue behind it. -/
def Environment.Undisturbed (E : Environment L) (unread : AssocID → StreamID → L.State → List UInt8 → Prop)
    (s : SocketPtr) (queue : QueueRef) (flags : NotificationFlags) (isData : Bool) (rest : SCTPNotificationQueue) :
    Prop :=
  ∀ k t t', E.interfere k t = some t' →
    (∀ left, Reading unread s queue flags isData left rest t → Reading unread s queue flags isData left rest t') ∧
    (t.queue queue = some rest → t'.queue queue = some rest)

/-- The calls one after the other. -/
def receivePieces (E : Environment L) (s : SocketPtr) (queue : QueueRef) (wantAddress : Bool)
    (flags : NotificationFlags) : List ReceiveIO → Act L (List ReceiveResult)
  | [] => return []
  | io :: ios => do
    let r ← internalReceive E s queue io wantAddress flags
    return r :: (← receivePieces E s queue wantAddress flags ios)

/-- The room in the buffers of the calls. -/
def room (ios : List ReceiveIO) : Nat := (ios.map (·.bufferSize)).sum

theorem ReadTo.hands {taken : Nat} {t t' : Shared L} (hE : E.Undisturbed unread s queue flags isData rest)
    (h : ReadTo unread s queue flags isData left rest taken t) (hands : E.Hands t t') :
    ReadTo unread s queue flags isData left rest taken t' := by
  rcases hands with rfl | ⟨k, hk⟩
  · exact h
  · unfold ReadTo at h ⊢
    by_cases hend : left.length ≤ taken
    · rw [if_pos hend] at h ⊢
      exact (hE k t t' hk).2 h
    · rw [if_neg hend] at h ⊢
      exact (hE k t t' hk).1 _ h

/-- What the calls return, and when the end of the record is marked. -/
structure ArePieces (left : List UInt8) (ios : List ReceiveIO) (rs : List ReceiveResult) : Prop where
  length : rs.length = ios.length
  bytes : (rs.map (·.bytes)).flatten = left.take (room ios)
  sizes : List.Forall₂ (fun io r => 0 < r.bytes.length ∧ r.bytes.length ≤ io.bufferSize ∧
    r.io.bufferSize = r.bytes.length ∧ r.result = intOfSize r.bytes.length) ios rs
  eor : ∀ i r, rs[i]? = some r → (r.io.flags.eor = true ↔ left.length ≤ room (ios.take (i + 1)))

theorem ArePieces.cons {r : ReceiveResult} {ios : List ReceiveIO} {rs : List ReceiveResult} (hr : IsPiece left io r)
    (hio : 0 < io.bufferSize) (hleft : left ≠ []) (hrs : ArePieces (left.drop io.bufferSize) ios rs) :
    ArePieces left (io :: ios) (r :: rs) where
  length := by rw [List.length_cons, List.length_cons, hrs.length]
  bytes := by
    rw [List.map_cons, List.flatten_cons, hrs.bytes, hr.bytes, room, room, List.map_cons, List.sum_cons, List.take_add]
  sizes := by
    have hlen : r.bytes.length = min io.bufferSize left.length := by rw [hr.bytes, List.length_take]
    have hpos := List.length_pos_iff.mpr hleft
    exact .cons ⟨by omega, by omega, hr.size, hr.result⟩ hrs.sizes
  eor := by
    intro i r' hi
    cases i with
    | zero =>
      obtain rfl : r = r' := by simpa using hi
      rw [hr.eor, decide_eq_true_iff]
      simp [room]
    | succ i =>
      rw [hrs.eor i r' (by simpa using hi), List.length_drop]
      simp only [room, List.take_succ_cons, List.map_cons, List.sum_cons]
      omega

/-- Any calls that do not go on behind the end of the record return it piece by piece, and the
call that takes its last byte is the one that marks its end and removes it. -/
theorem receive_piecewise {wantAddress : Bool} (hL : L.Reads unread)
    (hE : E.Undisturbed unread s queue flags isData rest) (ios : List ReceiveIO) (hios : ∀ io ∈ ios, ReadsOn isData io)
    (h : Reading unread s queue flags isData left rest w.shared) (hfit : room ios.dropLast < left.length) :
    Post (receivePieces E s queue wantAddress flags ios) w
      (fun rs w' => ArePieces left ios rs ∧ ReadTo unread s queue flags isData left rest (room ios) w'.shared)
      fun e _ => e = .suspended := by
  induction ios generalizing left w with
  | nil =>
    refine ⟨⟨rfl, rfl, .nil, by simp⟩, ?_⟩
    unfold ReadTo
    have hfit : room [] < left.length := hfit
    rw [if_neg (Nat.not_le.mpr hfit)]
    exact h
  | cons io ios ih =>
    have hleft : left ≠ [] := by
      rintro rfl
      exact absurd hfit (Nat.not_lt_zero _)
    have hio := hios io List.mem_cons_self
    refine .bind (h.piece hL hio hleft) fun r w₁ hw₁ => ?_
    obtain ⟨hr, -, t, hread, hands⟩ := hw₁
    have hread := hread.hands hE hands
    have hroom : room (io :: ios) = io.bufferSize + room ios := by simp [room]
    cases ios with
    | nil =>
      have hnone : ArePieces (left.drop io.bufferSize) [] [] := ⟨rfl, rfl, .nil, by simp⟩
      refine (post_bind _).mpr ⟨.cons hr hio.pos hleft hnone, ?_⟩
      rw [hroom]
      exact hread
    | cons io' ios =>
      rw [List.dropLast_cons_cons, room, List.map_cons, List.sum_cons] at hfit
      have hmore : ¬ left.length ≤ io.bufferSize := by omega
      unfold ReadTo at hread
      rw [if_neg hmore] at hread
      have hfit' : room (io' :: ios).dropLast < (left.drop io.bufferSize).length := by
        rw [List.length_drop, room]
        omega
      refine .bind (ih (fun io hmem => hios io (List.mem_cons_of_mem _ hmem)) hread hfit') fun rs w₂ hw₂ => ?_
      refine ⟨.cons hr hio.pos hleft hw₂.1, ?_⟩
      have hlast := hw₂.2
      unfold ReadTo at hlast ⊢
      rw [List.length_drop, List.drop_drop] at hlast
      have hend : left.length - io.bufferSize ≤ room (io' :: ios) ↔ left.length ≤ room (io :: io' :: ios) := by omega
      rwa [if_congr hend rfl rfl, ← hroom] at hlast

end

/-! ## The small library -/

/-- The bytes of the oldest message of the stream that has not been read to its end. -/
def SmallStack.Unread (id : AssocID) (stream : StreamID) (s : SmallStack) (m : List UInt8) : Prop :=
  (s.unread.find? fun e => e.1 == id && e.2.1 == stream).map (·.2.2) = some m

theorem small_receive {id : AssocID} {stream : StreamID} {m : List UInt8} (n : Nat) (peek : Bool)
    (messages : List (AssocID × StreamID × List UInt8))
    (h : (messages.find? fun e => e.1 == id && e.2.1 == stream).map (·.2.2) = some m) :
    ∃ r rest, SmallStack.receive n id stream peek messages = (some r, rest) ∧ r.bytes = m.take n ∧
      ((if peek then m else m.drop n) ≠ [] →
        (rest.find? fun e => e.1 == id && e.2.1 == stream).map (·.2.2) = some (if peek then m else m.drop n)) := by
  induction messages with
  | nil => cases h
  | cons e messages ih =>
    obtain ⟨id', stream', bytes⟩ := e
    by_cases hmatch : id' = id ∧ stream' = stream
    · obtain rfl : bytes = m := by simpa [List.find?_cons, hmatch.1, hmatch.2] using h
      refine ⟨_, _, by rw [SmallStack.receive, if_pos hmatch], rfl, fun hleft => ?_⟩
      simp [hleft, hmatch.1, hmatch.2]
    · have hskip : (id' == id && stream' == stream) = false := by simpa [Bool.and_eq_false_iff] using hmatch
      rw [List.find?_cons_of_neg (by simp [hskip])] at h
      obtain ⟨r, rest, hr, hbytes, hrest⟩ := ih h
      refine ⟨r, (id', stream', bytes) :: rest, by rw [SmallStack.receive, if_neg hmatch, hr], hbytes, fun hleft => ?_⟩
      rw [List.find?_cons_of_neg (by simp [hskip])]
      exact hrest hleft

theorem small_reads : Sctplib.small.Reads SmallStack.Unread where
  consume {s id stream m n} h := by
    obtain ⟨r, rest, hr, hbytes, hrest⟩ := small_receive n false s.unread h
    refine ⟨r, { s with unread := rest }, ?_, hbytes, fun hn => hrest ?_⟩
    · simp only [Sctplib.small, hr]
    · simpa using hn
  peek {s id stream m n} h := by
    obtain ⟨r, rest, hr, hbytes, hrest⟩ := small_receive n true s.unread h
    exact ⟨r, { s with unread := rest }, by simp only [Sctplib.small, hr], hbytes, hrest⟩

/-- A socket with one message of three bytes of association 1 in its queue, and a notification. -/
def threeBytes : Shared Sctplib.small where
  stack := { unread := [(1, 0, [7, 8, 9])] }
  sockets := fun s => if s = 0 then some
    { flags := { globalQueue := true }, notificationFlags := { recvAssocEvnt := true }, associationList := [(1, 0)]
      globalQueue := [
        { content := .dataArrive { sda_type := .dataArrive, sda_length := 24, sda_unordered := false, sda_assoc_id := 1
                                   sda_stream := 0, sda_ppid := 5, sda_bytes_arrived := 3 } },
        { content := .shutdownEvent { sse_type := .shutdownEvent, sse_length := 20, sse_assoc_id := 1 } }] }
    else none
  associations := fun p => if p = 0 then some { socket := 0, associationID := 1, useCount := 2 } else none

def sized (bufferSize : Nat) : ReceiveIO :=
  { bufferSize, flags := {}, assocID := 0, streamID := 0, protoID := 0, ssn := 0, tsn := 0 }

theorem threeBytes_reading :
    Reading SmallStack.Unread 0 (.global 0) { recvAssocEvnt := true } true [7, 8, 9]
      [{ content := .shutdownEvent { sse_type := .shutdownEvent, sse_length := 20, sse_assoc_id := 1 } }] threeBytes where
  live := by
    intro o id p ho hp
    cases ho
    obtain ⟨rfl, rfl⟩ : id = 1 ∧ p = 0 := by simpa using Multimap.find_eq_some_mem hp
    rfl
  record := ⟨_, _, rfl, rfl, .data rfl rfl rfl, nofun, rfl, by
    intro p a hp ha
    obtain rfl : p = 0 := Option.some.inj hp.symm
    cases ha
    decide⟩

theorem sized_readsOn (n : Nat) (hpos : 0 < n) (hlt : n < 2 ^ 32) :
    ReadsOn true (sized n) := ⟨hpos, hlt, rfl, rfl, nofun⟩

theorem undisturbed_alone {unread : AssocID → StreamID → L.State → List UInt8 → Prop} {s : SocketPtr} {queue : QueueRef}
    {flags : NotificationFlags} {isData : Bool} {rest : SCTPNotificationQueue} :
    Environment.Undisturbed ({} : Environment L) unread s queue flags isData rest := by
  intro _ t t' h
  obtain rfl : t = t' := Option.some.inj h
  exact ⟨fun _ h => h, id⟩

theorem receive_piecewise_two :
    Post (receivePieces {} 0 (.global 0) false { recvAssocEvnt := true } [sized 2, sized 2])
      ({ shared := threeBytes } : World Sctplib.small)
      (fun rs w' => ArePieces [7, 8, 9] [sized 2, sized 2] rs ∧
        ReadTo SmallStack.Unread 0 (.global 0) { recvAssocEvnt := true } true [7, 8, 9]
          [{ content := .shutdownEvent { sse_type := .shutdownEvent, sse_length := 20, sse_assoc_id := 1 } }]
          (room [sized 2, sized 2]) w'.shared)
      fun e _ => e = .suspended := by
  have hios : ∀ io ∈ [sized 2, sized 2], ReadsOn true io := by
    simpa using sized_readsOn 2 (by decide) (by decide)
  have hfit : room [sized 2, sized 2].dropLast < [7, 8, 9].length := by decide
  exact receive_piecewise small_reads undisturbed_alone _ hios threeBytes_reading hfit

end SocketApi
