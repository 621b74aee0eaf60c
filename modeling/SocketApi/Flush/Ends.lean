import SocketApi.Flush.Rounds

/-!
# The end of a flush

`sendPreEstablishmentPackets` sends the waiting packets until one is refused. It ends with every
packet either accepted or still waiting if the association is established, no accepted packet is too
long for an `int`, and the library does not answer for ever that its queue is full.
-/

namespace SocketApi

open Effect SCTPSocket SCTPAssociation

variable {L : Sctplib} {E : Environment L} {w w' : World L} {p : AssocPtr} {s : SocketPtr} {o : SCTPSocket} {id : AssocID}
  {packet : PreEstablishmentPacket} {packets rest : List PreEstablishmentPacket}

/-- One round of the loop of `sendPreEstablishmentPackets`. -/
def flushRound (E : Environment L) (p : AssocPtr) (rest : Act L Bool) : Act L Bool := do
  match (← associationAt p).preEstablishmentPackets with
  | [] => return true
  | packet :: _ =>
    let result ← SCTPAssociation.sendTo E p packet.data packet.params false none
    if result = packet.data.length then
      setAssociation p fun a => { a with preEstablishmentPackets := a.preEstablishmentPackets.tail }
      rest
    else
      return false

/-- `sendPreEstablishmentPackets` with at most `n + 1` evaluations of its loop condition. -/
def flushWithin (E : Environment L) (p : AssocPtr) (n : Nat) : Act L Bool := loop .waiting (flushRound E p) n

theorem sendPreEstablishmentPackets_eq : sendPreEstablishmentPackets E p = flushWithin E p E.patience := rfl

/-! ## What the answers make of the packets -/

/-- The requests that are accepted and the packets that still wait in the end. -/
inductive FlushEnd (L : Sctplib) (id : AssocID) :
    List PreEstablishmentPacket → L.State → List SendRequest → List PreEstablishmentPacket → Prop
  | done {stack : L.State} : FlushEnd L id [] stack [] []
  | refused {stack stack' : L.State} {r : SendResult} {q : SendRequest} {packet : PreEstablishmentPacket}
      {rest : List PreEstablishmentPacket} (h : Answered L id packet.data packet.params stack r q stack')
      (hr : r ≠ .success) : FlushEnd L id (packet :: rest) stack [] (packet :: rest)
  | accepted {stack stack' : L.State} {q : SendRequest} {qs : List SendRequest} {packet : PreEstablishmentPacket}
      {rest left : List PreEstablishmentPacket} (h : Answered L id packet.data packet.params stack .success q stack')
      (hlength : intOfSize packet.data.length = packet.data.length) (hrest : FlushEnd L id rest stack' qs left) :
      FlushEnd L id (packet :: rest) stack (q :: qs) left
  | misread {stack stack' : L.State} {q : SendRequest} {packet : PreEstablishmentPacket}
      {rest : List PreEstablishmentPacket} (h : Answered L id packet.data packet.params stack .success q stack')
      (hlength : intOfSize packet.data.length ≠ packet.data.length) :
      FlushEnd L id (packet :: rest) stack [q] (packet :: rest)

theorem sendReturn_eq {r : SendResult} {n : Nat} : sendReturn n r = n ↔ r = .success ∧ intOfSize n = n := by
  cases r with
  | success => simp [sendReturn]
  | _ => simp only [sendReturn, EINVAL, ENOBUFS, EIO, reduceCtorEq, false_and]

/-! ## Rounds -/

/-- The packets of the association that are being sent, on a socket that finds it with `code`. -/
structure Flushing (E : Environment L) (p : AssocPtr) (s : SocketPtr) (id : AssocID) (up : Bool) (code : Int)
    (packets : List PreEstablishmentPacket) (w : World L) : Prop where
  alone : Alone E w
  live : Live w.shared s
  socket : ∃ o, w.shared.sockets s = some o ∧ w.shared.errorCodeOf o id = code
  association : ∃ a, w.shared.associations p = some a ∧ a.socket = s ∧ a.associationID = id ∧
    a.communicationUpNotification = up ∧ a.preEstablishmentPackets = packets

def Shared.waitingPackets (t : Shared L) (p : AssocPtr) : Option (List PreEstablishmentPacket) :=
  (t.associations p).map (·.preEstablishmentPackets)

section

variable {up : Bool} {code : Int} {H : Halt → Prop}

theorem Flushing.waitingPackets (h : Flushing E p s id up code packets w) :
    w.shared.waitingPackets p = some packets := by
  obtain ⟨a, ha, -, -, -, hpackets⟩ := h.association
  rw [Shared.waitingPackets, ha, ← hpackets]
  rfl

theorem errorCodeOf_congr {t t' : Shared L} {o o' : SCTPSocket} (hlist : o'.associationList = o.associationList)
    (ha : ∀ q, (t'.associations q).map SCTPAssociation.errorCode = (t.associations q).map SCTPAssociation.errorCode) :
    t'.errorCodeOf o' id = t.errorCodeOf o id := by
  unfold Shared.errorCodeOf
  rw [hlist]
  cases o.associationList.find id with
  | none => rfl
  | some q =>
    have hq := ha q
    rw [Option.bind_some, Option.bind_some]
    cases h : t.associations q <;> cases h' : t'.associations q <;> simp_all

/-- A send of a packet changes the answers to come and the log. -/
theorem Flushing.sent (h : Flushing E p s id up code packets w) (hl : w'.thread.lockLevel = w.thread.lockLevel)
    (ha : w'.shared.associations = w.shared.associations) (hlists : SameLists w.shared w'.shared) :
    Flushing E p s id up code packets w' := by
  obtain ⟨o, ho, hcode⟩ := h.socket
  obtain ⟨o', ho', hlist⟩ := hlists.socket ho
  refine ⟨h.alone.level hl, hlists.live ha h.live, ⟨o', ho', ?_⟩, ?_⟩
  · rw [← hcode]
    exact errorCodeOf_congr hlist fun q => by rw [ha]
  · rw [ha]
    exact h.association

/-- A change of the association that leaves its place and its errors. -/
theorem Flushing.changed {up' : Bool} {packets' : List PreEstablishmentPacket} (h : Flushing E p s id up code packets w)
    {f : SCTPAssociation → SCTPAssociation}
    (hf : ∀ a, (f a).socket = a.socket ∧ (f a).associationID = a.associationID ∧ (f a).errorCode = a.errorCode)
    (hup : ∀ a, a.communicationUpNotification = up → (f a).communicationUpNotification = up')
    (hpackets : ∀ a, a.preEstablishmentPackets = packets → (f a).preEstablishmentPackets = packets') :
    Flushing E p s id up' code packets' (w.with (w.shared.setAssociation p f)) := by
  obtain ⟨o, ho, hcode⟩ := h.socket
  obtain ⟨a, ha, hs, hid, hup₀, hpackets₀⟩ := h.association
  refine ⟨h.alone.level rfl, h.live.setAssociation p f, ⟨o, ho, ?_⟩, f a, setAssociation_associations ha _,
    (hf a).1.trans hs, (hf a).2.1.trans hid, hup a hup₀, hpackets a hpackets₀⟩
  rw [← hcode]
  refine errorCodeOf_congr rfl fun q => ?_
  simp only [World.with_shared, Shared.setAssociation, Function.update_apply]
  split
  · subst q
    rw [Option.map_map]
    exact Option.map_congr fun a _ => (hf a).2.2
  · rfl

theorem Flushing.dequeued (h : Flushing E p s id up code (packet :: packets) w) :
    Flushing E p s id up code packets (w.with (w.shared.setAssociation p fun a =>
      { a with preEstablishmentPackets := a.preEstablishmentPackets.tail })) :=
  h.changed (fun _ => ⟨rfl, rfl, rfl⟩) (fun _ h => h) fun _ h => congrArg List.tail h

theorem Flushing.round_nil (h : Flushing E p s id up code [] w) {rest : Act L Bool} :
    Runs (flushRound E p rest) w true w := by
  obtain ⟨a, ha, -, -, -, hpackets⟩ := h.association
  refine .bind (runs_associationAt ha) ?_
  rw [hpackets]
  exact .pure _ _

theorem sendTo_up {a : SCTPAssociation} {buffer : List UInt8} {params : SendParams}
    (ha : w.shared.associations p = some a) (hup : a.communicationUpNotification = true) (P : Int → Shared L → Prop)
    (hsend : LevelPost (SCTPSocket.internalSend E a.socket buffer a.associationID params (some (.assoc p .readyForTransmit))
      none) w P H) :
    LevelPost (SCTPAssociation.sendTo E p buffer params false none) w P H := by
  unfold LevelPost SCTPAssociation.sendTo
  rw [post_bind, (runs_associationAt ha).post, post_ite, if_neg (by simp [hup]), post_ite, if_pos (by simp)]
  exact hsend

/-! ## An established association -/

theorem errorCodeOf_le (t : Shared L) (o : SCTPSocket) (id : AssocID) : t.errorCodeOf o id ≤ 0 := by
  unfold Shared.errorCodeOf
  split
  · unfold SCTPAssociation.errorCode ECONNRESET ECONNABORTED
    split
    · omega
    · split <;> omega
  · exact le_rfl

theorem sendLog_afterErrorCode (t : Shared L) (o : SCTPSocket) (id : AssocID) :
    (t.afterErrorCode o id).sendLog = t.sendLog := by
  unfold Shared.afterErrorCode
  split
  · split <;> rfl
  · rfl

theorem waitingPackets_setAssociation (t : Shared L) (q : AssocPtr) {f : SCTPAssociation → SCTPAssociation}
    (hf : ∀ a, (f a).preEstablishmentPackets = a.preEstablishmentPackets) :
    (t.setAssociation q f).waitingPackets p = t.waitingPackets p := by
  simp only [Shared.waitingPackets, Shared.setAssociation, Function.update_apply]
  split
  · subst q
    rw [Option.map_map]
    exact Option.map_congr fun a _ => hf a
  · rfl

theorem waitingPackets_afterErrorCode (t : Shared L) (o : SCTPSocket) (id : AssocID) :
    (t.afterErrorCode o id).waitingPackets p = t.waitingPackets p := by
  unfold Shared.afterErrorCode
  split
  · split
    · rfl
    · exact waitingPackets_setAssociation t _ fun _ => rfl
  · rfl

theorem Flushing.sendTo (h : Flushing E p s id true code packets w) (buffer : List UInt8) (params : SendParams) :
    LevelPost (SCTPAssociation.sendTo E p buffer params false none) w
      (fun r t => ∃ o, w.shared.sockets s = some o ∧ w.shared.errorCodeOf o id = code ∧
        SendEnd L o id buffer params w.shared r t) fun h => h = .waiting := by
  obtain ⟨o, ho, hcode⟩ := h.socket
  obtain ⟨a, ha, hs, hid, hup, -⟩ := h.association
  refine sendTo_up ha hup _ ?_
  rw [hs, hid]
  exact (h.alone.internalSend ho h.live).imp fun r t hend => ⟨o, ho, hcode, hend⟩

theorem Flushing.sendTo_returns (h : Flushing E p s id true code packets w) (buffer : List UInt8) (params : SendParams)
    (hrounds : code = 0 → ∀ w', Alone E w' → w'.shared.stack = w.shared.stack →
      LevelPost (loop .waiting (sendRound E buffer id params (some (.assoc p .readyForTransmit))) E.patience) w'
        (fun _ _ => True) fun _ => False) :
    LevelPost (SCTPAssociation.sendTo E p buffer params false none) w
      (fun r t => ∃ o, w.shared.sockets s = some o ∧ w.shared.errorCodeOf o id = code ∧
        SendEnd L o id buffer params w.shared r t) fun _ => False := by
  obtain ⟨o, ho, hcode⟩ := h.socket
  obtain ⟨a, ha, hs, hid, hup, -⟩ := h.association
  have hreturns :
      LevelPost (SCTPAssociation.sendTo E p buffer params false none) w (fun _ _ => True) fun _ => False := by
    refine sendTo_up ha hup _ ?_
    rw [hs, hid]
    exact h.alone.internalSend_returns ho h.live fun hzero => hrounds (hcode.symm.trans hzero)
  exact (Post.and hreturns (h.sendTo buffer params)).mono (fun _ _ h => h.2) fun _ _ h => h.1

/-- The association keeps its defaults. -/
def SameDefaults (p : AssocPtr) (t t' : Shared L) : Prop :=
  (t'.associations p).map (·.defaults) = (t.associations p).map (·.defaults)

/-- One round with a packet at the head. -/
theorem Flushing.round_up (h : Flushing E p s id true code (packet :: packets) w) {rest : Act L Bool}
    {P : Bool → Shared L → Prop} {H : Halt → Prop}
    (hsend : LevelPost (SCTPAssociation.sendTo E p packet.data packet.params false none) w
      (fun r t => ∃ o, w.shared.sockets s = some o ∧ w.shared.errorCodeOf o id = code ∧
        SendEnd L o id packet.data packet.params w.shared r t) H)
    (hlast : ∀ o result (w' : World L), w.shared.sockets s = some o → w.shared.errorCodeOf o id = code →
      SendEnd L o id packet.data packet.params w.shared result w'.shared → result ≠ packet.data.length →
      w'.thread.lockLevel = w.thread.lockLevel → P false w'.shared)
    (hrest : ∀ q (w' : World L), code = 0 → Answered L id packet.data packet.params w.shared.stack .success q w'.shared.stack →
      intOfSize packet.data.length = packet.data.length → w'.shared.sendLog = w.shared.sendLog ++ [q] →
      SameDefaults p w.shared w'.shared → Flushing E p s id true code packets w' → LevelPost rest w' P H) :
    LevelPost (flushRound E p rest) w P H := by
  obtain ⟨a, ha, -, -, -, hpackets⟩ := h.association
  unfold LevelPost flushRound
  rw [post_bind, (runs_associationAt ha).post, hpackets]
  dsimp only
  refine Post.bind hsend fun result w₁ ⟨hl₁, o, ho, hcode, hend⟩ => ?_
  by_cases hlength : result = packet.data.length
  · cases hend with
    | refused herror hresult =>
      have hle := errorCodeOf_le w.shared o id
      omega
    | @answered r q stack _ hzero hanswered hstack hlog hassociations hlists =>
      obtain ⟨hr, hint⟩ := sendReturn_eq.mp hlength
      have h₁ := h.sent hl₁ hassociations hlists
      obtain ⟨a₁, ha₁, hparts⟩ := h₁.association
      rw [hr, if_pos rfl] at hlog
      rw [hr, ← hstack] at hanswered
      rw [post_ite, if_pos hlength, post_bind, (runs_setAssociation ha₁ _).post]
      have hdefaults : SameDefaults p w.shared (w₁.shared.setAssociation p fun a =>
          { a with preEstablishmentPackets := a.preEstablishmentPackets.tail }) := by
        unfold SameDefaults
        rw [setAssociation_associations ha₁, ← hassociations, ha₁]
        rfl
      exact Post.imp (hrest q _ (hcode.symm.trans hzero) hanswered hint hlog hdefaults h₁.dequeued) fun _ _ h => ⟨h.1.trans hl₁, h.2⟩
  · rw [post_ite, if_neg hlength]
    exact ⟨hl₁, hlast o result w₁ ho hcode hend hlength hl₁⟩

/-- What a flush without an error comes to, if its rounds are enough. -/
theorem Flushing.flush (h : Flushing E p s id true 0 packets w) (n : Nat) :
    LevelPost (flushWithin E p n) w
      (fun _ t => ∃ qs left, FlushEnd L id packets w.shared.stack qs left ∧ t.sendLog = w.shared.sendLog ++ qs ∧
        t.waitingPackets p = some left) fun h => h = .waiting := by
  have hround (rest : Act L Bool) (hrest : ∀ packets w, Flushing E p s id true 0 packets w → LevelPost rest w
      (fun _ t => ∃ qs left, FlushEnd L id packets w.shared.stack qs left ∧ t.sendLog = w.shared.sendLog ++ qs ∧
        t.waitingPackets p = some left) fun h => h = .waiting) :
      ∀ packets w, Flushing E p s id true 0 packets w → LevelPost (flushRound E p rest) w
      (fun _ t => ∃ qs left, FlushEnd L id packets w.shared.stack qs left ∧ t.sendLog = w.shared.sendLog ++ qs ∧
        t.waitingPackets p = some left) fun h => h = .waiting := by
    intro packets w h
    cases packets with
    | nil => exact h.round_nil.post.mpr ⟨rfl, [], [], .done, (List.append_nil _).symm, h.waitingPackets⟩
    | cons packet packets =>
      refine h.round_up (h.sendTo packet.data packet.params) (fun o result w' ho hcode hend hlength hl => ?_)
        fun q w' _ hanswered hint hlog _ h' => ?_
      · cases hend with
        | refused herror => exact absurd hcode herror
        | @answered r q stack _ _ hanswered _ hlog hassociations hlists =>
          have h' := h.sent hl hassociations hlists
          refine ⟨_, _, ?_, hlog, h'.waitingPackets⟩
          by_cases hr : r = .success
          · subst hr
            exact .misread hanswered fun hint => hlength (sendReturn_eq.mpr ⟨rfl, hint⟩)
          · rw [if_neg hr]
            exact .refused hanswered hr
      · refine (hrest packets w' h').imp fun _ t ⟨qs, left, hflush, hlog', hleft⟩ => ?_
        rw [hlog, List.append_assoc] at hlog'
        exact ⟨q :: qs, left, .accepted hanswered hint hflush, hlog', hleft⟩
  induction n generalizing packets w with
  | zero => exact hround _ (fun _ _ _ => (post_throw Halt.waiting).mpr rfl) packets w h
  | succ n ih => exact hround _ (fun _ _ h => ih h) packets w h

/-- The answers, up to the first packet that is refused, let the flush end well. -/
def FlushesWell (L : Sctplib) (id : AssocID) : List PreEstablishmentPacket → L.State → Prop
  | [], _ => True
  | packet :: rest, stack => ∃ r q stack', Answered L id packet.data packet.params stack r q stack' ∧
      (r = .success → packet.data.length < 2 ^ 31 ∧ FlushesWell L id rest stack')

theorem intOfSize_eq {n : Nat} : intOfSize n = n ↔ n < 2 ^ 31 := by
  unfold intOfSize
  rw [Int.bmod_def]
  constructor
  · intro h
    split at h <;> omega
  · intro h
    split <;> omega

/-- A flush that is accounted for has gone well. -/
theorem FlushEnd.flushesWell {stack : L.State} {qs : List SendRequest} {left : List PreEstablishmentPacket}
    (h : FlushEnd L id packets stack qs left) (hlength : qs.length + left.length = packets.length) :
    FlushesWell L id packets stack := by
  induction h with
  | done => trivial
  | refused h hr => exact ⟨_, _, _, h, fun h => absurd h hr⟩
  | accepted h hint _ ih =>
    refine ⟨_, _, _, h, fun _ => ⟨intOfSize_eq.mp hint, ih ?_⟩⟩
    simp only [List.length_cons] at hlength
    omega
  | misread =>
    simp only [List.length_cons, List.length_nil] at hlength
    omega

/-- The accepted packets are the first ones, each of them with one request. -/
theorem FlushEnd.split {stack : L.State} {qs : List SendRequest} {left : List PreEstablishmentPacket}
    (h : FlushEnd L id packets stack qs left) (hwell : FlushesWell L id packets stack) :
    ∃ done, packets = done ++ left ∧
      List.Forall₂ (fun packet q => ∃ stack', q = packet.params.request L id packet.data stack') done qs := by
  induction h with
  | done => exact ⟨[], rfl, .nil⟩
  | refused => exact ⟨[], rfl, .nil⟩
  | @accepted _ _ _ _ packet _ _ h _ _ ih =>
    obtain ⟨r, q, stack', h', hrest⟩ := hwell
    obtain ⟨rfl, rfl, rfl⟩ := h.unique h'
    obtain ⟨done, hdone, hall⟩ := ih (hrest rfl).2
    exact ⟨packet :: done, congrArg (packet :: ·) hdone, .cons h.request hall⟩
  | misread h hint =>
    obtain ⟨r, q, stack', h', hrest⟩ := hwell
    obtain ⟨rfl, rfl, rfl⟩ := h.unique h'
    exact absurd (intOfSize_eq.mpr (hrest rfl).1) hint

/-- The environment in which every waiting loop may take `m` more rounds. -/
def Environment.patient (E : Environment L) (m : Nat) : Environment L := { E with patience := m }

theorem Flushing.patient (h : Flushing E p s id up code packets w) (m : Nat) :
    Flushing (E.patient m) p s id up code packets w := ⟨h.alone, h.live, h.socket, h.association⟩

/-- A flush that goes well ends in enough rounds, and needs one more than there are packets. -/
theorem FlushesWell.returns {stack : L.State} (hwell : FlushesWell L id packets stack) :
    ∃ N, ∀ (E : Environment L) w, N ≤ E.patience → Flushing E p s id true 0 packets w → w.shared.stack = stack →
      LevelPost (flushWithin E p packets.length) w (fun _ _ => True) fun _ => False := by
  induction packets generalizing stack with
  | nil =>
    exact ⟨0, fun E w _ h _ => h.round_nil.post.mpr ⟨rfl, trivial⟩⟩
  | cons packet packets ih =>
    obtain ⟨r, q, stack', hanswered, hrest⟩ := hwell
    obtain ⟨N, hN⟩ := hanswered.rounds (c := some (.assoc p .readyForTransmit))
    obtain ⟨M, hM⟩ : ∃ M, r = .success → ∀ (E : Environment L) w, M ≤ E.patience → Flushing E p s id true 0 packets w →
        w.shared.stack = stack' → LevelPost (flushWithin E p packets.length) w (fun _ _ => True) fun _ => False := by
      by_cases hr : r = .success
      · obtain ⟨M, hM⟩ := ih (hrest hr).2
        exact ⟨M, fun _ => hM⟩
      · exact ⟨0, fun h => absurd h hr⟩
    refine ⟨max N M, fun E w hpatience h hstack => ?_⟩
    have hsend := h.sendTo_returns packet.data packet.params fun _ w' hw' hstack' =>
      hN E w' E.patience hw' (hstack'.trans hstack) (by omega)
    refine h.round_up hsend (fun _ _ _ _ _ _ _ _ => trivial) fun q' w' _ hanswered' hint _ _ h' => ?_
    rw [hstack] at hanswered'
    obtain ⟨hr, -, hnext⟩ := hanswered.unique hanswered'
    exact hM hr.symm E w' (by omega) h' hnext

/-- An association with an error keeps its packets. -/
theorem Flushing.flush_error (h : Flushing E p s id true code packets w) (hcode : code ≠ 0) (n : Nat) :
    LevelPost (flushWithin E p n) w (fun _ t => t.sendLog = w.shared.sendLog ∧ t.waitingPackets p = some packets)
      fun _ => False := by
  have hround (rest : Act L Bool) : LevelPost (flushRound E p rest) w
      (fun _ t => t.sendLog = w.shared.sendLog ∧ t.waitingPackets p = some packets) fun _ => False := by
    cases packets with
    | nil => exact h.round_nil.post.mpr ⟨rfl, rfl, h.waitingPackets⟩
    | cons packet packets =>
      have hsend := h.sendTo_returns packet.data packet.params fun hzero => absurd hzero hcode
      refine h.round_up hsend (fun o result w' ho hcode' hend _ _ => ?_) fun _ _ hzero => absurd hzero hcode
      cases hend with
      | answered hzero => exact absurd (hcode'.symm.trans hzero) hcode
      | refused _ _ ht =>
        rw [ht, waitingPackets_afterErrorCode]
        exact ⟨sendLog_afterErrorCode w.shared o id, h.waitingPackets⟩
  cases n with
  | zero => exact hround _
  | succ n => exact hround _

/-! ## An association that is not established -/

/-- A packet is queued. -/
def Environment.Queues (E : Environment L) : Prop := (E.allocates .packet && E.allocates .packetData) = true

instance : Decidable E.Queues := inferInstanceAs (Decidable (_ = _))

theorem Flushing.sendTo_down (h : Flushing E p s id false code packets w) (packet : PreEstablishmentPacket)
    (useDefaults : Bool) :
    ∃ w', Runs (SCTPAssociation.sendTo E p packet.data packet.params useDefaults none) w (intOfSize packet.data.length) w' ∧
      w'.thread.lockLevel = w.thread.lockLevel ∧ w'.shared.sendLog = w.shared.sendLog ∧
      w'.shared.stack = w.shared.stack ∧ Flushing E p s id false code (if E.Queues then packets ++ [packet] else packets) w' := by
  obtain ⟨a, ha, -, -, hup, -⟩ := h.association
  by_cases hqueues : E.Queues
  · refine ⟨w.with (w.shared.setAssociation p fun a => { a with
      preEstablishmentPackets := a.preEstablishmentPackets ++ [packet] }),
      .bind (runs_associationAt ha) (.ite_pos (by simp [hup]) ?_), rfl, rfl, rfl, ?_⟩
    · exact .ite_pos hqueues (.bind (runs_setAssociation ha _) (.pure _ _))
    · rw [if_pos hqueues]
      exact h.changed (fun _ => ⟨rfl, rfl, rfl⟩) (fun _ h => h) fun _ h => congrArg (· ++ [packet]) h
  · refine ⟨w, .bind (runs_associationAt ha) (.ite_pos (by simp [hup]) ?_), rfl, rfl, rfl, ?_⟩
    · exact .ite_neg hqueues (.pure _ _)
    · rw [if_neg hqueues]
      exact h

/-- One round with a packet at the head. -/
theorem Flushing.round_down (h : Flushing E p s id false code (packet :: packets) w) {rest : Act L Bool}
    {P : Bool → Shared L → Prop} {H : Halt → Prop}
    (hlast : intOfSize packet.data.length ≠ packet.data.length → ∀ w', w'.shared.sendLog = w.shared.sendLog →
      Flushing E p s id false code (if E.Queues then packet :: packets ++ [packet] else packet :: packets) w' →
      P false w'.shared)
    (hrest : intOfSize packet.data.length = packet.data.length → ∀ w', w'.shared.sendLog = w.shared.sendLog →
      Flushing E p s id false code (if E.Queues then packets ++ [packet] else packets) w' → LevelPost rest w' P H) :
    LevelPost (flushRound E p rest) w P H := by
  obtain ⟨a, ha, -, -, hup, hpackets⟩ := h.association
  obtain ⟨w₁, hrun, hl₁, hlog₁, -, h₁⟩ := h.sendTo_down packet false
  generalize intOfSize packet.data.length = result at hrun hlast hrest
  unfold LevelPost flushRound
  rw [post_bind, (runs_associationAt ha).post, hpackets]
  dsimp only
  rw [post_bind, hrun.post, post_ite]
  by_cases hint : result = packet.data.length
  · obtain ⟨a₁, ha₁, hparts⟩ := h₁.association
    rw [if_pos hint, post_bind, (runs_setAssociation ha₁ _).post]
    have hsame : (if E.Queues then packet :: packets ++ [packet] else packet :: packets) =
        packet :: if E.Queues then packets ++ [packet] else packets := by split <;> rfl
    rw [hsame] at h₁
    exact Post.imp (hrest hint _ hlog₁ h₁.dequeued) fun _ _ h => ⟨h.1.trans hl₁, h.2⟩
  · rw [if_neg hint]
    exact ⟨hl₁, hlast hint w₁ hlog₁ h₁⟩

/-- While packets are queued, a flush takes none from the list. -/
theorem Flushing.flush_queues (h : Flushing E p s id false code packets w) (hqueues : E.Queues) (hne : packets ≠ [])
    (n : Nat) :
    LevelPost (flushWithin E p n) w
      (fun _ t => ∃ left, t.waitingPackets p = some left ∧ packets.length < left.length) fun h => h = .waiting := by
  have hround (rest : Act L Bool) (hrest : ∀ packets w, packets ≠ [] → Flushing E p s id false code packets w →
      LevelPost rest w (fun _ t => ∃ left, t.waitingPackets p = some left ∧ packets.length < left.length)
        fun h => h = .waiting) : ∀ packets w, packets ≠ [] → Flushing E p s id false code packets w →
      LevelPost (flushRound E p rest) w
        (fun _ t => ∃ left, t.waitingPackets p = some left ∧ packets.length < left.length) fun h => h = .waiting := by
    intro packets w hne h
    cases packets with
    | nil => exact absurd rfl hne
    | cons packet packets =>
      refine h.round_down (fun _ w' _ h' => ?_) fun _ w' _ h' => ?_
      · rw [if_pos hqueues] at h'
        exact ⟨_, h'.waitingPackets, by simp⟩
      · rw [if_pos hqueues] at h'
        refine (hrest _ w' (by simp) h').imp fun _ t ⟨left, hleft, hlt⟩ => ⟨left, hleft, ?_⟩
        simpa using hlt
  induction n generalizing packets w with
  | zero => exact hround _ (fun _ _ _ _ => (post_throw Halt.waiting).mpr rfl) packets w hne h
  | succ n ih => exact hround _ (fun _ _ hne h => ih h hne) packets w hne h

/-- Without memory for its copy a packet is lost. -/
theorem Flushing.flush_loses (h : Flushing E p s id false code packets w) (hqueues : ¬ E.Queues) (n : Nat) :
    LevelPost (flushWithin E p n) w (fun _ t => t.sendLog = w.shared.sendLog ∧ ∃ left, t.waitingPackets p = some left ∧
      left.length ≤ packets.length ∧
      (packets.head?.any (fun packet => decide (packet.data.length < 2 ^ 31)) = true → left.length < packets.length))
      fun h => h = .waiting := by
  have hround (rest : Act L Bool) (hrest : ∀ packets w, Flushing E p s id false code packets w →
      LevelPost rest w (fun _ t => t.sendLog = w.shared.sendLog ∧ ∃ left, t.waitingPackets p = some left ∧
        left.length ≤ packets.length) fun h => h = .waiting) : ∀ packets w, Flushing E p s id false code packets w →
      LevelPost (flushRound E p rest) w (fun _ t => t.sendLog = w.shared.sendLog ∧ ∃ left, t.waitingPackets p = some left ∧
        left.length ≤ packets.length ∧
        (packets.head?.any (fun packet => decide (packet.data.length < 2 ^ 31)) = true → left.length < packets.length))
        fun h => h = .waiting := by
    intro packets w h
    cases packets with
    | nil => exact h.round_nil.post.mpr ⟨rfl, rfl, [], h.waitingPackets, le_rfl, nofun⟩
    | cons packet packets =>
      refine h.round_down (fun hint w' hlog h' => ?_) fun _ w' hlog h' => ?_
      · rw [if_neg hqueues] at h'
        refine ⟨hlog, _, h'.waitingPackets, le_rfl, fun hshort => ?_⟩
        exact absurd (intOfSize_eq.mpr (by simpa using hshort)) hint
      · rw [if_neg hqueues] at h'
        refine (hrest _ w' h').imp fun _ t ⟨hlog', left, hleft, hle⟩ => ⟨hlog'.trans hlog, left, hleft, ?_, fun _ => ?_⟩
        · rw [List.length_cons]
          omega
        · rw [List.length_cons]
          omega
  induction n generalizing packets w with
  | zero => exact hround _ (fun _ _ _ => (post_throw Halt.waiting).mpr rfl) packets w h
  | succ n ih =>
    exact hround _ (fun _ _ h => (ih h).imp fun _ _ ⟨hlog, left, hleft, hle, _⟩ => ⟨hlog, left, hleft, hle⟩) packets w h

end

/-! ## When a flush ends -/

/-- The first packets have been accepted once, the others still wait in their order. -/
def Flushed (L : Sctplib) (p : AssocPtr) (id : AssocID) (packets : List PreEstablishmentPacket) (t t' : Shared L) :
    Prop :=
  ∃ done left qs, packets = done ++ left ∧ t'.waitingPackets p = some left ∧ t'.sendLog = t.sendLog ++ qs ∧
    List.Forall₂ (fun packet q => ∃ stack, q = packet.params.request L id packet.data stack) done qs

theorem Flushed.length {t t' : Shared L} (h : Flushed L p id packets t t') :
    ∃ left qs, t'.waitingPackets p = some left ∧ t'.sendLog = t.sendLog ++ qs ∧ qs.length + left.length = packets.length := by
  obtain ⟨done, left, qs, rfl, hleft, hlog, hall⟩ := h
  refine ⟨left, qs, hleft, hlog, ?_⟩
  rw [List.length_append, hall.length_eq]

/-- With enough patience for each send, the flush ends within one evaluation of its condition more
than there are packets. -/
def FlushEnds (E : Environment L) (p : AssocPtr) (id : AssocID) (packets : List PreEstablishmentPacket) (w : World L) :
    Prop :=
  ∃ N, ∀ m, N ≤ m → Post (flushWithin (E.patient m) p packets.length) w
    (fun _ w' => Flushed L p id packets w.shared w'.shared) fun _ _ => False

/-- The flush of an association ends exactly if nothing waits, or the association is established and
has an error or gets answers that let it end, or it is not, and a first packet that is too long for an
`int` cannot be copied. -/
theorem flush_ends {a : SCTPAssociation} (hw : Alone E w) (ha : w.shared.associations p = some a)
    (ho : w.shared.sockets a.socket = some o) (hlive : Live w.shared a.socket) :
    FlushEnds E p a.associationID a.preEstablishmentPackets w ↔
      a.preEstablishmentPackets = [] ∨
      a.communicationUpNotification = true ∧ (w.shared.errorCodeOf o a.associationID ≠ 0 ∨
        FlushesWell L a.associationID a.preEstablishmentPackets w.shared.stack) ∨
      a.communicationUpNotification = false ∧ ¬ E.Queues ∧
        ∀ packet, a.preEstablishmentPackets.head? = some packet → 2 ^ 31 ≤ packet.data.length := by
  have h : Flushing E p a.socket a.associationID a.communicationUpNotification
      (w.shared.errorCodeOf o a.associationID) a.preEstablishmentPackets w :=
    ⟨hw, hlive, ⟨o, ho, rfl⟩, a, ha, rfl, rfl, rfl, rfl⟩
  generalize a.preEstablishmentPackets = packets at h
  generalize a.associationID = id at h
  generalize a.communicationUpNotification = up at h
  generalize w.shared.errorCodeOf o id = code at h
  cases up with
  | true =>
    simp only [Bool.true_eq_false, false_and, or_false, true_and]
    by_cases hcode : code = 0
    · subst hcode
      simp only [ne_eq, not_true_eq_false, false_or]
      constructor
      · rintro ⟨N, hN⟩
        obtain ⟨_, w', hrun, hflushed⟩ := (hN N le_rfl).exists_ok
        obtain ⟨-, qs, left, hend, hlog, hleft⟩ := Post.of_ok ((h.patient N).flush packets.length) hrun
        obtain ⟨left', qs', hleft', hlog', hlength⟩ := hflushed.length
        obtain rfl : left' = left := Option.some.inj (hleft'.symm.trans hleft)
        obtain rfl : qs' = qs := List.append_cancel_left (hlog'.symm.trans hlog)
        exact .inr (hend.flushesWell hlength)
      · intro hcond
        have hwell : FlushesWell L id packets w.shared.stack := by
          rcases hcond with rfl | hwell
          · trivial
          · exact hwell
        obtain ⟨N, hN⟩ := hwell.returns (p := p) (s := a.socket)
        refine ⟨N, fun m hm => ?_⟩
        refine (Post.and (hN (E.patient m) w hm (h.patient m) rfl) ((h.patient m).flush packets.length)).mono
          (fun _ w' ⟨_, _, qs, left, hend, hlog, hleft⟩ => ?_) fun _ _ h => h.1
        obtain ⟨done, hdone, hall⟩ := hend.split hwell
        exact ⟨done, left, qs, hdone, hleft, hlog, hall⟩
    · refine iff_of_true ⟨0, fun m _ => ?_⟩ (.inr (.inl hcode))
      refine Post.imp ((h.patient m).flush_error hcode packets.length) fun _ w' ⟨_, hlog, hleft⟩ => ?_
      exact ⟨[], packets, [], rfl, hleft, by rw [hlog, List.append_nil], .nil⟩
  | false =>
    simp only [Bool.false_eq_true, false_and, false_or, true_and]
    cases packets with
    | nil =>
      refine iff_of_true ⟨0, fun m _ => ?_⟩ (.inl rfl)
      exact (h.patient m).round_nil.post.mpr ⟨[], [], [], rfl, h.waitingPackets, (List.append_nil _).symm, .nil⟩
    | cons packet packets =>
      simp only [reduceCtorEq, false_or, List.head?_cons, Option.some.injEq, forall_eq']
      by_cases hqueues : E.Queues
      · refine iff_of_false (fun ⟨N, hN⟩ => ?_) fun h => h.1 hqueues
        obtain ⟨_, w', hrun, hflushed⟩ := (hN N le_rfl).exists_ok
        obtain ⟨-, left, hleft, hlt⟩ := Post.of_ok ((h.patient N).flush_queues hqueues (by simp) _) hrun
        obtain ⟨left', qs, hleft', -, hlength⟩ := hflushed.length
        obtain rfl : left' = left := Option.some.inj (hleft'.symm.trans hleft)
        omega
      · by_cases hlong : 2 ^ 31 ≤ packet.data.length
        · refine iff_of_true ⟨0, fun m _ => ?_⟩ ⟨hqueues, hlong⟩
          have hround : LevelPost (flushWithin (E.patient m) p (packets.length + 1)) w
              (fun _ t => Flushed L p id (packet :: packets) w.shared t) fun _ => False := by
            refine (h.patient m).round_down (fun _ w' hlog h' => ?_) fun hint => ?_
            · have hqueues' : ¬ (E.patient m).Queues := hqueues
              rw [if_neg hqueues'] at h'
              exact ⟨[], _, [], rfl, h'.waitingPackets, by rw [hlog, List.append_nil], .nil⟩
            · exact absurd (intOfSize_eq.mp hint) (Nat.not_lt.mpr hlong)
          exact Post.imp hround fun _ _ h => h.2
        · refine iff_of_false (fun ⟨N, hN⟩ => ?_) fun h => hlong h.2
          obtain ⟨_, w', hrun, hflushed⟩ := (hN N le_rfl).exists_ok
          obtain ⟨-, hlog, left, hleft, -, hlt⟩ := Post.of_ok ((h.patient N).flush_loses hqueues _) hrun
          obtain ⟨left', qs, hleft', hlog', hlength⟩ := hflushed.length
          obtain rfl : left' = left := Option.some.inj (hleft'.symm.trans hleft)
          obtain rfl : qs = [] := List.append_right_eq_self.mp (hlog'.symm.trans hlog)
          have hless := hlt (by simpa using hlong)
          rw [List.length_nil] at hlength
          omega

def onePacket (up : Bool) : SCTPAssociation where
  socket := 0
  associationID := 1
  communicationUpNotification := up
  preEstablishmentPackets := [⟨{}, 0, 0, SCTP_INFINITE_LIFETIME, [104]⟩]

/-- A packet of one byte that waits in the one association of a socket; the callback thread holds
the lock. -/
def oneWaits (up : Bool) : World Sctplib.small where
  thread := { lockLevel := 1 }
  shared := {
    stack := { lastAssociation := 1, associations := [(1, 1)] }
    sockets := fun s => if s = 0 then some { associationList := [(1, 0)], instanceName := 1 } else none
    associations := fun p => if p = 0 then some (onePacket up) else none }

theorem oneWaits_live (up : Bool) : Live (oneWaits up).shared 0 := by
  intro o id p ho hp
  cases ho
  obtain ⟨rfl, rfl⟩ : id = 1 ∧ p = 0 := by simpa using Multimap.find_eq_some_mem hp
  rfl

theorem oneWaits_well :
    FlushesWell Sctplib.small 1 (onePacket true).preEstablishmentPackets (oneWaits true).shared.stack :=
  ⟨.success, _, _, .now rfl (.inr nofun), fun _ => ⟨by decide, trivial⟩⟩

theorem flush_ends_one :
    FlushEnds {} 0 1 (onePacket true).preEstablishmentPackets (oneWaits true) :=
  (flush_ends (a := onePacket true) (.inr Nat.one_pos) rfl rfl (oneWaits_live true)).mpr (.inr (.inl ⟨rfl, .inr oneWaits_well⟩))

/-- A flush of an association that is not established goes on for ever. -/
theorem flush_endless :
    ¬ FlushEnds {} 0 1 (onePacket false).preEstablishmentPackets (oneWaits false) := by
  rintro ⟨N, hN⟩
  have h : Flushing (Environment.patient {} N) 0 0 1 false 0
      (onePacket false).preEstablishmentPackets (oneWaits false) :=
    ⟨.inr Nat.one_pos, oneWaits_live false, ⟨_, rfl, rfl⟩, _, rfl, rfl, rfl, rfl, rfl⟩
  obtain ⟨_, w', hrun, hflushed⟩ := (hN N le_rfl).exists_ok
  obtain ⟨-, left, hleft, hlt⟩ := Post.of_ok (h.flush_queues rfl nofun 1) hrun
  obtain ⟨left', qs, hleft', -, hlength⟩ := hflushed.length
  obtain rfl : left' = left := Option.some.inj (hleft'.symm.trans hleft)
  omega

end SocketApi
