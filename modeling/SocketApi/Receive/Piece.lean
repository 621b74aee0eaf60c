import SocketApi.Receive.Head

/-!
# One call of `internalReceive`

A call that finds a record takes a piece of it, or skips it. The head of the queue is then
replaced by what is left, or dropped with one use of its association.
-/

namespace SocketApi

open Effect SCTPSocket

variable {L : Sctplib} {E : Environment L} {w : World L} {s : SocketPtr} {o : SCTPSocket} {queue : QueueRef}
  {n : SCTPNotification} {rest : SCTPNotificationQueue} {io : ReceiveIO} {notificationFlags : NotificationFlags}

/-- A piece of a record: the results of the call, and what is left of the record at the head. -/
structure Piece where
  result : ReceiveResult
  left : Option SCTPNotification

/-- The state after a call that took the piece, from the state in which the library was called. -/
def Shared.advance (w : Shared L) (queue : QueueRef) (o : SCTPSocket) (piece : Piece) : Shared L :=
  match piece.left with
  | some n => w.modifyQueue (·.updateNotification n) queue
  | none => (w.modifyQueue (·.dropNotification) queue).lessUse o piece.result.io.assocID

/-! ## Data -/

/-- What is left of a data record after a read of `taken` bytes. -/
def dataLeft (n : SCTPNotification) (sda : SctpDataArrive) (peek : Bool) (taken : Nat) : Option SCTPNotification :=
  if peek then some n
  else if 0 < sda.sda_bytes_arrived - taken then
    some { n with content := .dataArrive { sda with sda_bytes_arrived := sda.sda_bytes_arrived - taken } }
  else none

/-- What a read of a data record returns, if the library gives `r`. -/
def dataPiece (n : SCTPNotification) (sda : SctpDataArrive) (io : ReceiveIO) (r : Received)
    (address : Option SocketAddress) : Piece where
  left := dataLeft n sda io.flags.peek r.bytes.length
  result :=
    { result := intOfSize r.bytes.length, bytes := r.bytes, address
      io := { bufferSize := r.bytes.length, assocID := sda.sda_assoc_id, streamID := sda.sda_stream
              protoID := sda.sda_ppid, ssn := r.ssn, tsn := r.tsn
              flags := { io.flags with
                notification := false
                unordered := io.flags.unordered || sda.sda_unordered
                eor := io.flags.eor || (dataLeft n sda io.flags.peek r.bytes.length).isNone } } }

theorem runs_receiveAddress (assocID : AssocID) (pathIndex : Int) (wanted : Bool) :
    ∃ address, Runs (receiveAddress E assocID pathIndex wanted) w address w := by
  unfold receiveAddress
  cases wanted with
  | false => exact ⟨none, .bind runs_shared (.pure _ _)⟩
  | true =>
    cases hpath : L.getPathStatus w.shared.stack assocID pathIndex with
    | none => exact ⟨none, .bind runs_shared (by simp [hpath]; exact .pure _ _)⟩
    | some path =>
      cases hstatus : L.getAssocStatus w.shared.stack assocID with
      | none => exact ⟨none, .bind runs_shared (by simp [hpath, hstatus]; exact .pure _ _)⟩
      | some status => exact ⟨_, .bind runs_shared (by simp [hpath, hstatus]; exact .pure _ _)⟩

theorem inside_receiveData {sda : SctpDataArrive} {r : Received} {stack : L.State} (wantAddress : Bool)
    (hq : w.shared.queue queue = some (n :: rest)) (hpos : 0 < sda.sda_bytes_arrived)
    (hr : L.receive w.shared.stack sda.sda_assoc_id sda.sda_stream (min sda.sda_bytes_arrived io.bufferSize)
      io.flags.peek = (some r, stack)) :
    Inside (receiveData E queue n sda io wantAddress) w fun out t =>
      ∃ address, out = ((dataPiece n sda io r address).result, (dataPiece n sda io r address).left.isSome) ∧
        t = match (dataPiece n sda io r address).left with
          | some m => (w.shared.withStack stack).modifyQueue (·.updateNotification m) queue
          | none => w.shared.withStack stack := by
  unfold receiveData
  refine .ite_neg (Nat.pos_iff_ne_zero.mp hpos) ?_
  refine .bind (inside_of_runs (runs_library hr)) fun answer t ht => ?_
  obtain rfl : answer = some r := ht.1
  rw [← ht.2]
  have hq' : t.queue queue = some (n :: rest) := by rw [ht.2, Shared.queue_withStack, hq]
  obtain ⟨address, haddress⟩ := runs_receiveAddress (E := E) (w := w.with t) sda.sda_assoc_id
    (L.getPrimary t.stack sda.sda_assoc_id) wantAddress
  refine .read runs_shared (.read haddress ?_)
  by_cases hpeek : io.flags.peek
  · refine .ite_pos hpeek (.bind (inside_of_runs (runs_queueModify (w := w.with t) hq' _)) fun _ u hu => ?_)
    exact inside_pure ⟨address, by simp [dataPiece, dataLeft, hpeek], by simpa [dataPiece, dataLeft, hpeek] using hu.2⟩
  · refine .ite_neg hpeek ?_
    by_cases hleft : 0 < sda.sda_bytes_arrived - r.bytes.length
    · refine .ite_pos hleft (.bind (inside_of_runs (runs_queueModify (w := w.with t) hq' _)) fun _ u hu => ?_)
      exact inside_pure ⟨address, by simp [dataPiece, dataLeft, hpeek, hleft],
        by simpa [dataPiece, dataLeft, hpeek, hleft] using hu.2⟩
    · refine .ite_neg hleft ?_
      exact inside_pure ⟨address, by simp [dataPiece, dataLeft, hpeek, hleft], by simp [dataPiece, dataLeft, hpeek, hleft]⟩

/-! ## Notifications -/

def SctpNotification.isData : SctpNotification → Bool
  | .dataArrive _ => true
  | _ => false

/-- The bytes a notification read copies. -/
def notificationCopy (n : SCTPNotification) (io : ReceiveIO) : Nat :=
  min (n.content.snLength - n.contentPosition) (io.bufferSize % 2 ^ 32)

def notificationLeft (n : SCTPNotification) (io : ReceiveIO) : Option SCTPNotification :=
  if io.flags.peek then some { n with contentPosition := 0 }
  else if n.contentPosition + notificationCopy n io < n.content.snLength then
    some { n with contentPosition := n.contentPosition + notificationCopy n io }
  else none

/-- What a read of a notification returns that the reader wants. -/
def notificationPiece (n : SCTPNotification) (io : ReceiveIO) : Piece where
  left := notificationLeft n io
  result :=
    { result := intOfSize (notificationCopy n io)
      bytes := (n.content.bytes.drop n.contentPosition).take (notificationCopy n io)
      io := { io with
        bufferSize := notificationCopy n io, assocID := n.content.headerAssocID
        flags := { io.flags with
          notification := true
          eor := io.flags.eor || decide (n.content.snLength ≤ n.contentPosition + notificationCopy n io) } } }

/-- What a read returns that skips a notification, with the error code of its association. -/
def skipPiece (n : SCTPNotification) (io : ReceiveIO) (code : Int) : Piece where
  left := none
  result :=
    if code = 0 then
      { result := -EAGAIN
        io := { io with assocID := n.content.headerAssocID, flags := { io.flags with notification := false } } }
    else { result := code, io := { io with assocID := n.content.headerAssocID } }

theorem inside_receiveNotification (hq : w.shared.queue queue = some (n :: rest))
    (htype : n.content.snType ≠ .undefined)
    (hflag : io.flags.notification = true) (hselects : notificationFlags.selects n.content.snType = true) :
    Inside (receiveNotification E s queue n io notificationFlags) w fun out t =>
      out = ((notificationPiece n io).result, (notificationPiece n io).left.isSome) ∧
        t = match (notificationPiece n io).left with
          | some m => w.shared.modifyQueue (·.updateNotification m) queue
          | none => w.shared := by
  unfold receiveNotification
  refine .ite_neg htype (.ite_pos (by simp [hflag, hselects]) ?_)
  dsimp only
  change Inside (ite (n.contentPosition + notificationCopy n io < n.content.snLength) _ _) w _
  by_cases hmore : n.contentPosition + notificationCopy n io < n.content.snLength
  · refine .ite_pos hmore (.bind (inside_of_runs (runs_queueModify hq _)) fun _ t ht => inside_pure ?_)
    rw [ht.2]
    simp only [notificationCopy, Nat.reducePow] at hmore
    by_cases hpeek : io.flags.peek
    · simp [notificationPiece, notificationLeft, notificationCopy, hpeek, Nat.not_le.mpr hmore]
    · simp [notificationPiece, notificationLeft, notificationCopy, hpeek, hmore, Nat.not_le.mpr hmore]
  · refine .ite_neg hmore ?_
    simp only [notificationCopy, Nat.reducePow] at hmore
    by_cases hpeek : io.flags.peek
    · refine .ite_pos hpeek (.bind (inside_of_runs (runs_queueModify hq _)) fun _ t ht => inside_pure ?_)
      rw [ht.2]
      simp [notificationPiece, notificationLeft, notificationCopy, hpeek, Nat.le_of_not_lt hmore]
    · refine .ite_neg hpeek (inside_pure ?_)
      simp [notificationPiece, notificationLeft, notificationCopy, hpeek, hmore, Nat.le_of_not_lt hmore]

theorem inside_skipNotification (io : ReceiveIO) (hl : 0 < w.thread.lockLevel) (ho : w.shared.sockets s = some o)
    (hlive : Live w.shared s) (htype : n.content.snType ≠ .undefined)
    (hskip : (io.flags.notification && notificationFlags.selects n.content.snType) = false) :
    Inside (receiveNotification E s queue n io notificationFlags) w fun out t =>
      out = ((skipPiece n io (w.shared.errorCodeOf o n.content.headerAssocID)).result, false) ∧
        t.seen = w.shared.seen := by
  unfold receiveNotification
  refine .ite_neg htype (.ite_neg (by simp [hskip]) ?_)
  refine .bind (inside_getErrorCode hl ho hlive _) fun code t ht => ?_
  rw [← ht.1]
  by_cases hcode : code = 0
  · exact .ite_pos hcode (inside_pure ⟨by simp [skipPiece, hcode], ht.2⟩)
  · exact .ite_neg hcode (inside_pure ⟨by simp [skipPiece, hcode], ht.2⟩)

/-! ## The whole call -/

theorem inside_receiveHead_data {sda : SctpDataArrive} {r : Received} {stack : L.State} (io : ReceiveIO) (s : SocketPtr)
    (wantAddress : Bool) (notificationFlags : NotificationFlags)
    (hq : w.shared.queue queue = some (n :: rest)) (hn : n.content = .dataArrive sda) (hpos : 0 < sda.sda_bytes_arrived)
    (hr : L.receive w.shared.stack sda.sda_assoc_id sda.sda_stream (min sda.sda_bytes_arrived io.bufferSize)
      io.flags.peek = (some r, stack)) :
    ∃ address, Inside (receiveHead E s queue n io wantAddress notificationFlags) w.up fun out t =>
      out = ((dataPiece n sda io r address).result, (dataPiece n sda io r address).left.isSome) ∧
        t.seen = (match (dataPiece n sda io r address).left with
          | some m => (w.shared.withStack stack).modifyQueue (·.updateNotification m) queue
          | none => w.shared.withStack stack).seen := by
  obtain ⟨out, t, hrun, address, hout, ht⟩ := inside_iff.mp
    (inside_receiveData (E := E) (w := w.up) wantAddress hq hpos hr)
  refine ⟨address, ?_⟩
  unfold receiveHead
  rw [hn]
  exact inside_iff.mpr ⟨out, t, hrun, hout, congrArg Shared.seen ht⟩

theorem receiveHead_notification {wantAddress : Bool} (hn : n.content.isData = false) :
    receiveHead E s queue n io wantAddress notificationFlags = receiveNotification E s queue n io notificationFlags := by
  unfold receiveHead
  cases hc : n.content with
  | dataArrive sda =>
    rw [hc] at hn
    cases hn
  | _ => rfl

theorem inside_receiveHead_notification (io : ReceiveIO) (s : SocketPtr) (wantAddress : Bool)
    (hq : w.shared.queue queue = some (n :: rest)) (hn : n.content.isData = false)
    (htype : n.content.snType ≠ .undefined) (hflag : io.flags.notification = true)
    (hselects : notificationFlags.selects n.content.snType = true) :
    Inside (receiveHead E s queue n io wantAddress notificationFlags) w.up fun out t =>
      out = ((notificationPiece n io).result, (notificationPiece n io).left.isSome) ∧
        t.seen = (match (notificationPiece n io).left with
          | some m => w.shared.modifyQueue (·.updateNotification m) queue
          | none => w.shared).seen := by
  rw [receiveHead_notification hn]
  exact (inside_receiveNotification (w := w.up) hq htype hflag hselects).imp fun _ _ hout => ⟨hout.1, congrArg Shared.seen hout.2⟩

/-- What other threads make of the state when the call gives up the lock at last. -/
def Environment.Hands (E : Environment L) (t t' : Shared L) : Prop := t' = t ∨ ∃ k, E.interfere k t = some t'

/-- The call stays in another thread's hands. -/
def Environment.Suspends (E : Environment L) (h : Halt) : Prop := h = .suspended ∧ ∃ k t, E.interfere k t = none

theorem post_unlock_up {t : Shared L} : Post (unlock E) (w.with t).up
    (fun _ w' => w'.thread.lockLevel = w.thread.lockLevel ∧ E.Hands t w'.shared) fun h _ => E.Suspends h := by
  by_cases hl : 0 < w.thread.lockLevel
  · exact (runs_unlock (w := w.with t) hl).post.mpr ⟨rfl, .inl rfl⟩
  · have hlevel : (w.with t).up.thread.lockLevel = 1 := by
      rw [World.up_lockLevel, World.with_thread]
      omega
    unfold unlock yield
    simp only [post_bind, post_get, hlevel, Nat.one_ne_zero, if_false, post_modify, if_true, Nat.sub_self]
    cases hi : E.interfere (w.with t).up.thread.turns (w.with t).up.shared with
    | none => exact ⟨rfl, _, _, hi⟩
    | some t' =>
      exact ⟨(Nat.eq_zero_of_not_pos hl).symm, .inr ⟨_, hi⟩⟩

theorem runs_fetchNotification (hq : w.shared.queue queue = some (n :: rest)) :
    Runs (fetchNotification E s queue io notificationFlags) w (.notification n) w := by
  unfold fetchNotification
  refine .loop (fun _ => ?_) _
  refine .bind (runs_queueGet hq) ?_
  exact .pure _ _

/-- A call that finds a record, from what its branch for the record does. -/
theorem post_internalReceive {wantAddress : Bool} {piece : Piece} {u : Shared L} (hsize : io.bufferSize ≠ 0)
    (ho : w.shared.sockets s = some o) (hlive : Live w.shared s)
    (hq : w.shared.queue queue = some (n :: rest))
    (hhead : Inside (receiveHead E s queue n io wantAddress notificationFlags) w.up fun out t =>
      out = (piece.result, piece.left.isSome) ∧
        t.seen = (match piece.left with
          | some m => u.modifyQueue (·.updateNotification m) queue
          | none => u).seen)
    (hu : SameShape u w.shared) (huq : u.queue queue = some (n :: rest))
    (huse : piece.left = none → u.InUse o piece.result.io.assocID) :
    Post (internalReceive E s queue io wantAddress notificationFlags) w
      (fun r w' => r = piece.result ∧ w'.thread.lockLevel = w.thread.lockLevel ∧
        ∃ t, t.seen = (u.advance queue o piece).seen ∧ E.Hands t w'.shared)
      fun h _ => E.Suspends h := by
  obtain ⟨out, t, hrun, hout, ht⟩ := inside_iff.mp hhead
  unfold internalReceive
  rw [post_ite, if_neg hsize, post_bind, runs_lock.post, post_bind, (runs_fetchNotification (w := w.up) hq).post,
    post_bind, hrun.post, hout]
  cases hleft : piece.left with
  | some m =>
    rw [hleft] at ht
    simp only [Option.isSome_some, Bool.not_true, Bool.false_eq_true, if_false, post_bind]
    refine (post_unlock_up (w := w) (t := t)).imp fun _ w' hw' => ?_
    refine ⟨rfl, hw'.1, t, ?_, hw'.2⟩
    rw [ht, Shared.advance, hleft]
  | none =>
    rw [hleft] at ht
    have halike : SameShape t w.shared := (SameShape.of_seen ht).trans hu
    obtain ⟨o', ho', hshape⟩ := halike.socket ho
    have hlist := SCTPSocket.associationList_eq hshape
    obtain ⟨_, t', hdrop, ht'⟩ := inside_iff.mp (inside_dropHead (E := E) (w := w.up.with t) (Nat.succ_pos _) ho'
      (hlive.sameShape halike) ((seen_queue ht queue).trans huq) ((huse hleft).seen ht hlist))
    simp only [Option.isSome_none, Bool.not_false, if_true, post_bind]
    rw [hdrop.post]
    refine (post_unlock_up (w := w) (t := t')).imp fun _ w' hw' => ?_
    refine ⟨rfl, hw'.1, t', ?_, hw'.2⟩
    rw [ht', Shared.advance, hleft]
    exact seen_lessUse (seen_modifyQueue ht _ queue) hlist _

/-- A call that takes the last of a record whose association has no use. -/
theorem post_internalReceive_unused {wantAddress : Bool} {result : ReceiveResult} {u : Shared L}
    (hsize : io.bufferSize ≠ 0)
    (ho : w.shared.sockets s = some o) (hlive : Live w.shared s) (hq : w.shared.queue queue = some (n :: rest))
    (hhead : Inside (receiveHead E s queue n io wantAddress notificationFlags) w.up fun out t =>
      out = (result, false) ∧ t.seen = u.seen)
    (hu : SameShape u w.shared) (huq : u.queue queue = some (n :: rest)) (huse : ¬ u.InUse o result.io.assocID) :
    Post (internalReceive E s queue io wantAddress notificationFlags) w (fun _ _ => False) fun _ _ => True := by
  obtain ⟨out, t, hrun, hout, ht⟩ := inside_iff.mp hhead
  have halike : SameShape t w.shared := (SameShape.of_seen ht).trans hu
  obtain ⟨o', ho', hshape⟩ := halike.socket ho
  have hlist := SCTPSocket.associationList_eq hshape
  have huse' : ¬ t.InUse o' result.io.assocID := fun h => huse (h.seen ht.symm hlist.symm)
  unfold internalReceive
  rw [post_ite, if_neg hsize, post_bind, runs_lock.post, post_bind, (runs_fetchNotification (w := w.up) hq).post,
    post_bind, hrun.post, hout]
  simp only [Bool.not_false, if_true]
  refine .bind (R := fun _ _ => False) ?_ fun _ _ h => h.elim
  exact post_dropHead_unused (w := w.up.with t) (Nat.succ_pos _) ho' (hlive.sameShape halike)
    ((seen_queue ht queue).trans huq) huse'

end SocketApi
