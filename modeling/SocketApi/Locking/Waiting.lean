import SocketApi.Locking.Balance

/-!
# Waiting without the lock

A thread that holds the master keeps the callback thread out, so that nothing can end its
wait. Which steps of a thread wait with the lock held depends on the answers of the protocol
library to the sends of that step.
-/

namespace SocketApi

open Effect

set_option synthInstance.maxSize 2000

variable {L : Sctplib} {E : Environment L} {α β : Type}

/-! ## What a send asks the protocol library -/

/-- The answer of `getErrorCode`. -/
def Shared.errorCode (w : Shared L) (s : SocketPtr) (assocID : AssocID) : Int :=
  match ((w.sockets s).bind (·.associationList.find assocID)).bind w.associations with
  | some a =>
    if a.shutdownCompleteNotification then -ECONNRESET
    else if a.communicationLostNotification then -ECONNABORTED
    else 0
  | none => 0

/-- The request of `internalSend` to the primary path. -/
def sendRequest (stack : L.State) (buffer : List UInt8) (assocID : AssocID) (params : SendParams) : SendRequest where
  assocID
  streamID := params.streamID
  buffer := buffer.take (buffer.length % 2 ^ 32)
  protoID := params.protoID
  pathIndex := L.getPrimary stack assocID
  timeToLive := params.timeToLive
  unordered := params.flags.unordered
  bundlingDisabled := params.flags.unbundled

/-- The parameters `SCTPAssociation::sendTo` passes on. -/
def SCTPAssociation.sendParams (a : SCTPAssociation) (params : SendParams) (useDefaults : Bool) : SendParams :=
  if useDefaults then
    { params with streamID := a.defaults.streamID, protoID := a.defaults.protoID, timeToLive := a.defaults.timeToLive }
  else params

/-- The request of `SCTPAssociation::sendTo`, if it makes one. -/
def Shared.request (w : Shared L) (stack : L.State) (p : AssocPtr) (buffer : List UInt8) (params : SendParams)
    (useDefaults : Bool) : Option SendRequest :=
  match w.associations p with
  | some a =>
    if a.communicationUpNotification && !(useDefaults && buffer.isEmpty) && w.errorCode a.socket a.associationID == 0 then
      some (sendRequest stack buffer a.associationID (a.sendParams params useDefaults))
    else none
  | none => none

/-- The library takes the message of `c` for every association it is sent to. -/
def Shared.RoomForAll (w : Shared L) (c : SendCall) : L.State → List AssocPtr → Prop
  | _, [] => True
  | stack, p :: ps =>
    match w.request stack p c.buffer c.params c.useDefaults with
    | some r => (L.send stack r).1 ≠ .queueExceeded ∧ w.RoomForAll c (L.send stack r).2 ps
    | none => w.RoomForAll c stack ps

/-- The library takes the packets one after the other, up to the first one it refuses for
good or may refuse without a wait. -/
def RoomToFlush (assocID : AssocID) : L.State → List PreEstablishmentPacket → Prop
  | _, [] => True
  | stack, packet :: packets =>
    match (L.send stack (sendRequest stack packet.data assocID packet.params)).1 with
    | .queueExceeded => packet.flags.dontwait = true
    | .success => intOfSize packet.data.length = packet.data.length →
      RoomToFlush assocID (L.send stack (sendRequest stack packet.data assocID packet.params)).2 packets
    | _ => True

/-! ## Sends of a thread that holds the lock -/

/-- The part of an association that decides about its sends. -/
def SCTPAssociation.sendView (a : SCTPAssociation) : SCTPAssociation where
  socket := a.socket
  associationID := a.associationID
  communicationUpNotification := a.communicationUpNotification
  communicationLostNotification := a.communicationLostNotification
  shutdownCompleteNotification := a.shutdownCompleteNotification
  defaults := a.defaults

/-- Nothing has changed that decides about sends, except for the stack. -/
def Alike (w w' : Shared L) : Prop :=
  (∀ s, (w'.sockets s).map (·.associationList) = (w.sockets s).map (·.associationList)) ∧
    ∀ p, (w'.associations p).map (·.sendView) = (w.associations p).map (·.sendView)

theorem Alike.refl (w : Shared L) : Alike w w := ⟨fun _ => rfl, fun _ => rfl⟩

theorem Alike.trans {w w' w'' : Shared L} (h : Alike w w') (h' : Alike w' w'') : Alike w w'' :=
  ⟨fun s => (h'.1 s).trans (h.1 s), fun p => (h'.2 p).trans (h.2 p)⟩

theorem Alike.setAssociation {w : Shared L} {p : AssocPtr} {f : SCTPAssociation → SCTPAssociation}
    (hf : ∀ a, (f a).sendView = a.sendView) : Alike w (w.setAssociation p f) := by
  refine ⟨fun _ => rfl, fun q => ?_⟩
  simp only [Shared.setAssociation, Function.update_apply]
  split
  · subst q
    cases w.associations p with
    | none => rfl
    | some a => exact congrArg some (hf a)
  · rfl

theorem Alike.setSocket {w : Shared L} {s : SocketPtr} {f : SCTPSocket → SCTPSocket}
    (hf : ∀ o, (f o).associationList = o.associationList) : Alike w (w.setSocket s f) := by
  refine ⟨fun t => ?_, fun _ => rfl⟩
  simp only [Shared.setSocket, Function.update_apply]
  split
  · subst t
    cases w.sockets s with
    | none => rfl
    | some o => exact congrArg some (hf o)
  · rfl

theorem Alike.association {w w' : Shared L} (h : Alike w w') {p : AssocPtr} {a' : SCTPAssociation}
    (ha : w'.associations p = some a') : ∃ a, w.associations p = some a ∧ a'.sendView = a.sendView := by
  have hp := h.2 p
  rw [ha] at hp
  obtain ⟨a, ha, hv⟩ := Option.map_eq_some_iff.mp hp.symm
  exact ⟨a, ha, hv.symm⟩

/-- What `getErrorCode` looks at. -/
theorem errorCode_congr {w w' : Shared L}
    (hs : ∀ s, (w'.sockets s).map (·.associationList) = (w.sockets s).map (·.associationList))
    (hp : ∀ p, (w'.associations p).map (fun a => (a.shutdownCompleteNotification, a.communicationLostNotification)) =
      (w.associations p).map fun a => (a.shutdownCompleteNotification, a.communicationLostNotification))
    (s : SocketPtr) (id : AssocID) : w'.errorCode s id = w.errorCode s id := by
  have hfind : (w'.sockets s).bind (·.associationList.find id) = (w.sockets s).bind (·.associationList.find id) := by
    have hs := congrArg (Option.bind · (Multimap.find · id)) (hs s)
    simpa only [Option.bind_map, Function.comp_def] using hs
  unfold Shared.errorCode
  rw [hfind]
  cases (w.sockets s).bind (·.associationList.find id) with
  | none => rfl
  | some p =>
    have hp := hp p
    simp only [Option.bind_some]
    cases ha : w.associations p with
    | none =>
      rw [ha] at hp
      rw [Option.map_eq_none_iff.mp hp]
    | some a =>
      rw [ha] at hp
      obtain ⟨a', ha', hv⟩ := Option.map_eq_some_iff.mp hp
      obtain ⟨h1, h2⟩ := Prod.mk.inj hv
      rw [ha']
      simp only [h1, h2]

theorem Alike.errorCode {w w' : Shared L} (h : Alike w w') (s : SocketPtr) (id : AssocID) :
    w'.errorCode s id = w.errorCode s id := by
  refine errorCode_congr h.1 (fun p => ?_) s id
  have hp := congrArg (Option.map fun a => (a.shutdownCompleteNotification, a.communicationLostNotification)) (h.2 p)
  simpa only [Option.map_map, Function.comp_def, SCTPAssociation.sendView] using hp

/-- The messages that wait for the establishment are the same. -/
def SamePackets (w w' : Shared L) : Prop :=
  ∀ p, (w'.associations p).map (·.preEstablishmentPackets) = (w.associations p).map (·.preEstablishmentPackets)

theorem SamePackets.setAssociation {w : Shared L} {p : AssocPtr} {f : SCTPAssociation → SCTPAssociation}
    (hf : ∀ a, (f a).preEstablishmentPackets = a.preEstablishmentPackets) :
    SamePackets w (w.setAssociation p f) := by
  intro q
  simp only [Shared.setAssociation, Function.update_apply]
  split
  · subst q
    cases w.associations p with
    | none => rfl
    | some a => exact congrArg some (hf a)
  · rfl

variable {w : World L} {s : SocketPtr} {p : AssocPtr} {n : Nat}

/-- The thread has come to the stack `stack` without changing anything that decides about sends. -/
structure Reaches (stack : L.State) (w w' : World L) : Prop where
  thread : w'.thread = w.thread
  alike : Alike w.shared w'.shared
  packets : SamePackets w.shared w'.shared
  stack : w'.shared.stack = stack

theorem Reaches.trans {stack stack' : L.State} {w w' w'' : World L} (h : Reaches stack w w')
    (h' : Reaches stack' w' w'') : Reaches stack' w w'' where
  thread := h'.thread.trans h.thread
  alike := h.alike.trans h'.alike
  packets p := (h'.packets p).trans (h.packets p)
  stack := h'.stack

theorem post_getErrorCode (hw : w.thread.lockLevel = n + 1) {id : AssocID} :
    Post (SCTPSocket.getErrorCode E s id) w
      (fun r w' => r = w.shared.errorCode s id ∧ Reaches w.shared.stack w w') fun h w' => TidyHalt h w w' := by
  unfold SCTPSocket.getErrorCode Shared.errorCode
  rw [post_bind, post_getAssociationForAssociationID hw]
  cases ho : w.shared.sockets s with
  | none => exact ⟨Halt.noConfusion, rfl⟩
  | some o =>
    dsimp only [Option.bind_some]
    cases hp : o.associationList.find id with
    | none => exact ⟨rfl, rfl, .refl _, fun _ => rfl, rfl⟩
    | some p =>
      cases ha : w.shared.associations p with
      | none =>
        simp only [ha]
        exact ⟨Halt.noConfusion, rfl⟩
      | some a =>
        have hset : Reaches w.shared.stack w
            { w with shared := w.shared.setAssociation p fun a => { a with hasException := true } } :=
          ⟨rfl, .setAssociation fun _ => rfl, .setAssociation fun _ => rfl, rfl⟩
        simp only [Option.bind_some, Bool.and_false, Bool.false_eq_true, if_false, post_bind, post_associationAt, ha,
          post_ite, post_setAssociation, post_pure]
        split
        · exact ⟨rfl, hset⟩
        · split
          · exact ⟨rfl, hset⟩
          · exact ⟨rfl, rfl, .refl _, fun _ => rfl, rfl⟩

theorem post_sendAttempt {id : AssocID} {buffer : List UInt8} {params : SendParams} {H : Halt → World L → Prop} :
    Post (SCTPSocket.sendAttempt id buffer params none) w
      (fun result w' => Reaches (L.send w.shared.stack (sendRequest w.shared.stack buffer id params)).2 w w' ∧
        result = (L.send w.shared.stack (sendRequest w.shared.stack buffer id params)).1) H := by
  unfold SCTPSocket.sendAttempt
  simp only [Option.isSome_none, Bool.false_and, Bool.false_eq_true, if_false, post_bind, post_shared, post_pure,
    post_library, post_ite, post_update, sendRequest]
  split <;> exact ⟨⟨rfl, .refl _, fun _ => rfl, rfl⟩, trivial⟩

theorem post_sendRounds (hw : w.thread.lockLevel = n + 1) {id : AssocID} {buffer : List UInt8}
    {params : SendParams} {c : Option ConditionRef}
    (hroom : (L.send w.shared.stack (sendRequest w.shared.stack buffer id params)).1 = .queueExceeded →
      params.flags.dontwait = true) :
    Post (SCTPSocket.sendRounds E buffer id params c none) w
      (fun result w' => Reaches (L.send w.shared.stack (sendRequest w.shared.stack buffer id params)).2 w w' ∧
        result = (L.send w.shared.stack (sendRequest w.shared.stack buffer id params)).1)
      fun h w' => TidyHalt h w w' := by
  have hround (rest : Act L SendResult) : Post (do
      lock
      let result ← SCTPSocket.sendAttempt id buffer params none
      if result = .queueExceeded ∧ !params.flags.dontwait then
        SCTPSocket.waitForRoom E c
      unlock E
      if !params.flags.dontwait ∧ result = .queueExceeded then rest else return result) w
      (fun result w' => Reaches (L.send w.shared.stack (sendRequest w.shared.stack buffer id params)).2 w w' ∧
        result = (L.send w.shared.stack (sendRequest w.shared.stack buffer id params)).1)
      fun h w' => TidyHalt h w w' := by
    rw [post_bind, post_lock]
    refine post_sendAttempt.bind ?_
    rintro result w' ⟨⟨hthread, halike, hpackets, hstack⟩, rfl⟩
    have hno : ¬((L.send w.shared.stack (sendRequest w.shared.stack buffer id params)).1 = .queueExceeded ∧
        (!params.flags.dontwait) = true) := by
      rintro ⟨hq, hd⟩
      rw [hroom hq] at hd
      cases hd
    have hlevel : w'.thread.lockLevel = n + 2 := by rw [hthread]; exact congrArg (· + 1) hw
    have hback : { w'.thread with lockLevel := n + 1 } = w.thread := by rw [hthread, ← hw]
    simp only [hno, if_false, post_bind, post_unlock_held hlevel]
    rw [if_neg fun h => hno h.symm]
    exact ⟨⟨hback, halike, hpackets, hstack⟩, rfl⟩
  unfold SCTPSocket.sendRounds
  cases E.patience <;> exact hround _

/-- One message for an established association: the answer it gets, without a wait. -/
theorem post_internalSend (hw : w.thread.lockLevel = n + 1) {id : AssocID} {buffer : List UInt8}
    {params : SendParams} {c : Option ConditionRef}
    (hroom : w.shared.errorCode s id = 0 →
      (L.send w.shared.stack (sendRequest w.shared.stack buffer id params)).1 = .queueExceeded →
      params.flags.dontwait = true) :
    Post (SCTPSocket.internalSend E s buffer id params c none) w
      (fun result w' =>
        if w.shared.errorCode s id = 0 then
          Reaches (L.send w.shared.stack (sendRequest w.shared.stack buffer id params)).2 w w' ∧ result = SCTPSocket.sendReturn buffer.length
            (L.send w.shared.stack (sendRequest w.shared.stack buffer id params)).1
        else Reaches w.shared.stack w w' ∧ result = w.shared.errorCode s id)
      fun h w' => TidyHalt h w w' := by
  unfold SCTPSocket.internalSend
  refine (post_getErrorCode hw).bind ?_
  rintro result w' ⟨rfl, hw'⟩
  by_cases h0 : w.shared.errorCode s id = 0
  · have hrounds := post_sendRounds (E := E) (c := c) (hw'.thread ▸ hw) (hw'.stack ▸ hroom h0)
    rw [hw'.stack] at hrounds
    simp only [h0, ne_eq, not_true_eq_false, if_false, if_true, post_bind, post_setSocket, post_pure]
    refine hrounds.mono ?_ fun _ _ h => ⟨h.1, h.2.trans (by rw [hw'.thread])⟩
    rintro result w'' ⟨hw'', rfl⟩
    have htrans := hw'.trans hw''
    split
    · exact ⟨⟨htrans.thread, htrans.alike.trans (.setSocket fun _ => rfl), htrans.packets, htrans.stack⟩, rfl⟩
    · exact ⟨Halt.noConfusion, by rw [htrans.thread]⟩
  · simp only [h0, ne_eq, not_false_eq_true, if_true, if_false, post_pure]
    exact ⟨hw', trivial⟩

/-- A message for an association that is established. -/
theorem post_sendTo_up (hw : w.thread.lockLevel = n + 1) {a : SCTPAssociation}
    (ha : w.shared.associations p = some a) (hup : a.communicationUpNotification = true) {buffer : List UInt8}
    {params : SendParams} (hroom : w.shared.errorCode a.socket a.associationID = 0 →
      (L.send w.shared.stack (sendRequest w.shared.stack buffer a.associationID params)).1 = .queueExceeded →
      params.flags.dontwait = true) :
    Post (SCTPAssociation.sendTo E p buffer params false none) w
      (fun result w' =>
        if w.shared.errorCode a.socket a.associationID = 0 then
          Reaches (L.send w.shared.stack (sendRequest w.shared.stack buffer a.associationID params)).2 w w' ∧
            result = SCTPSocket.sendReturn buffer.length
              (L.send w.shared.stack (sendRequest w.shared.stack buffer a.associationID params)).1
        else Reaches w.shared.stack w w' ∧ result = w.shared.errorCode a.socket a.associationID)
      fun h w' => TidyHalt h w w' := by
  unfold SCTPAssociation.sendTo
  simp only [post_bind, post_associationAt, ha, hup, Bool.not_true, Bool.false_eq_true, if_false, Bool.not_false,
    if_true]
  exact post_internalSend hw hroom

/-! ## Sending to all -/

theorem Alike.request {w w' : Shared L} (h : Alike w w') (stack : L.State) (p : AssocPtr) (buffer : List UInt8)
    (params : SendParams) (useDefaults : Bool) :
    w'.request stack p buffer params useDefaults = w.request stack p buffer params useDefaults := by
  unfold Shared.request
  cases ha : w'.associations p with
  | none =>
    have hp := h.2 p
    rw [ha] at hp
    rw [Option.map_eq_none_iff.mp hp.symm]
  | some a' =>
    obtain ⟨a, ha, hv⟩ := h.association ha
    simp only [SCTPAssociation.sendView, SCTPAssociation.mk.injEq] at hv
    obtain ⟨hs, hid, -, -, -, -, hd, -, hup, -⟩ := hv
    rw [ha]
    simp only [hs, hid, hup, h.errorCode, SCTPAssociation.sendParams, hd]

theorem post_getDefaultStreamTimeout (hw : w.thread.lockLevel = n + 1) {id : StreamID} :
    Post (SCTPAssociation.getDefaultStreamTimeout E p id) w (fun _ w' => w' = w) fun h w' => TidyHalt h w w' := by
  have hback : ({ w with thread := { w.thread with lockLevel := n + 1 } } : World L) = w := by rw [← hw]
  have := tidy_findStreamTimeout (L := L) p id
  unfold SCTPAssociation.getDefaultStreamTimeout
  rw [post_locked_held hw]
  simp only [post_bind, post_associationAt]
  cases w.shared.associations p with
  | none => exact ⟨Halt.noConfusion, rfl⟩
  | some a =>
    dsimp only
    cases a.streamDefaultTimeoutArray[id]? <;> exact hback

/-- The stack after the send to `p`. -/
def Shared.stackAfter (w : Shared L) (c : SendCall) (p : AssocPtr) : L.State :=
  match w.request w.stack p c.buffer c.params c.useDefaults with
  | some r => (L.send w.stack r).2
  | none => w.stack

section request

variable {m : Shared L} {c : SendCall} {a : SCTPAssociation}

theorem stackAfter_of_none (h : m.request m.stack p c.buffer c.params c.useDefaults = none) :
    m.stackAfter c p = m.stack := by
  unfold Shared.stackAfter
  rw [h]

theorem request_pending (ha : m.associations p = some a) (hup : a.communicationUpNotification = false) :
    m.request m.stack p c.buffer c.params c.useDefaults = none := by
  simp only [Shared.request, ha, hup, Bool.false_and, Bool.false_eq_true, if_false]

theorem request_empty (ha : m.associations p = some a) (hd : c.useDefaults = true) (hb : c.buffer.isEmpty = true) :
    m.request m.stack p c.buffer c.params c.useDefaults = none := by
  simp only [Shared.request, ha, hd, hb, Bool.and_true, Bool.not_true, Bool.and_false, Bool.false_and,
    Bool.false_eq_true, if_false]

theorem request_failed (ha : m.associations p = some a) (he : m.errorCode a.socket a.associationID ≠ 0) :
    m.request m.stack p c.buffer c.params c.useDefaults = none := by
  simp only [Shared.request, ha, beq_false_of_ne he, Bool.and_false, Bool.false_eq_true, if_false]

theorem request_up (ha : m.associations p = some a) (hup : a.communicationUpNotification = true)
    (hb : c.useDefaults = true → c.buffer.isEmpty = false) (he : m.errorCode a.socket a.associationID = 0) :
    m.request m.stack p c.buffer c.params c.useDefaults =
      some (sendRequest m.stack c.buffer a.associationID (a.sendParams c.params c.useDefaults)) := by
  have hb' : (c.useDefaults && c.buffer.isEmpty) = false := by
    cases hd : c.useDefaults with
    | false => rfl
    | true => exact hb hd
  simp only [Shared.request, ha, hup, hb', he, Bool.not_false, Bool.and_self, beq_self_eq_true, if_true]

end request

theorem post_sendTo_one (hw : w.thread.lockLevel = n + 1) {c : SendCall}
    (hroom : c.params.flags.dontwait = true ∨ ∀ r, w.shared.request w.shared.stack p c.buffer c.params c.useDefaults
      = some r → (L.send w.shared.stack r).1 ≠ .queueExceeded) :
    Post (SCTPAssociation.sendTo E p c.buffer c.params c.useDefaults none) w
      (fun _ w' => w'.thread = w.thread ∧ Alike w.shared w'.shared ∧ w'.shared.stack = w.shared.stackAfter c p)
      fun h w' => TidyHalt h w w' := by
  unfold SCTPAssociation.sendTo
  simp only [post_bind, post_associationAt]
  cases ha : w.shared.associations p with
  | none => exact ⟨Halt.noConfusion, rfl⟩
  | some a =>
    -- What is left of an established association's send once its parameters are known.
    have hsend (hup : a.communicationUpNotification = true) (hb : c.useDefaults = true → c.buffer.isEmpty = false) :
        Post (SCTPSocket.internalSend E a.socket c.buffer a.associationID (a.sendParams c.params c.useDefaults)
          (some (.assoc p .readyForTransmit)) none) w
          (fun _ w' => w'.thread = w.thread ∧ Alike w.shared w'.shared ∧ w'.shared.stack = w.shared.stackAfter c p)
          fun h w' => TidyHalt h w w' := by
      have hflags : (a.sendParams c.params c.useDefaults).flags = c.params.flags := by
        unfold SCTPAssociation.sendParams
        split <;> rfl
      refine (post_internalSend hw fun he hq => ?_).imp fun result w' hw' => ?_
      · rw [hflags]
        exact hroom.resolve_right fun h => h _ (request_up ha hup hb he) hq
      · by_cases he : w.shared.errorCode a.socket a.associationID = 0
        · rw [if_pos he] at hw'
          refine ⟨hw'.1.thread, hw'.1.alike, hw'.1.stack.trans ?_⟩
          unfold Shared.stackAfter
          rw [request_up ha hup hb he]
        · rw [if_neg he] at hw'
          exact ⟨hw'.1.thread, hw'.1.alike, hw'.1.stack.trans (stackAfter_of_none (request_failed ha he)).symm⟩
    cases hup : a.communicationUpNotification with
    | false =>
      rw [stackAfter_of_none (request_pending ha hup)]
      simp only [hup, Bool.not_false, if_true, post_ite, post_bind, post_setAssociation, ha, post_pure]
      split
      · exact ⟨trivial, .setAssociation fun _ => rfl, rfl⟩
      · exact ⟨trivial, .refl _, trivial⟩
    | true =>
      simp only [hup, Bool.not_true, Bool.false_eq_true, if_false]
      cases hd : c.useDefaults with
      | false =>
        rw [hd] at hsend
        exact hsend hup Bool.noConfusion
      | true =>
        rw [hd] at hsend
        cases hb : c.buffer.isEmpty with
        | false =>
          simp only [Bool.not_true, Bool.false_eq_true, if_false, Bool.not_false, if_true, post_bind, post_discard]
          refine (post_getDefaultStreamTimeout hw).mono ?_ fun _ _ h => h
          rintro timeout w' rfl
          simp only [post_associationAt, ha]
          exact hsend hup fun _ => hb
        | true =>
          rw [stackAfter_of_none (request_empty ha hd hb)]
          exact ⟨rfl, .refl _, rfl⟩

theorem roomForAll_cons {m : Shared L} {c : SendCall} {stack : L.State} {ps : List AssocPtr} :
    m.RoomForAll c stack (p :: ps) ↔ match m.request stack p c.buffer c.params c.useDefaults with
      | some r => (L.send stack r).1 ≠ .queueExceeded ∧ m.RoomForAll c (L.send stack r).2 ps
      | none => m.RoomForAll c stack ps := Iff.rfl

theorem post_sendToAll {c : SendCall} {m : Shared L} {list : Multimap AssocID AssocPtr}
    (hw : w.thread.lockLevel = n + 1) (hm : Alike m w.shared)
    (hroom : c.params.flags.dontwait = true ∨ m.RoomForAll c w.shared.stack list.values) :
    Post (SCTPSocket.sendToAll E c list) w (fun _ w' => w'.thread = w.thread) fun h w' => TidyHalt h w w' := by
  induction list generalizing w with
  | nil => exact rfl
  | cons e list ih =>
    have hrequest := hm.request w.shared.stack e.2 c.buffer c.params c.useDefaults
    have hone : c.params.flags.dontwait = true ∨ ∀ r, w.shared.request w.shared.stack e.2 c.buffer c.params
        c.useDefaults = some r → (L.send w.shared.stack r).1 ≠ .queueExceeded := by
      refine hroom.imp id fun h r hr => ?_
      have h := roomForAll_cons.mp h
      rw [← hrequest, hr] at h
      exact h.1
    have hrest :
        c.params.flags.dontwait = true ∨ m.RoomForAll c (w.shared.stackAfter c e.2) (Multimap.values list) := by
      refine hroom.imp id fun h => ?_
      have h := roomForAll_cons.mp h
      unfold Shared.stackAfter
      rw [hrequest]
      cases hr : m.request w.shared.stack e.2 c.buffer c.params c.useDefaults with
      | none => rwa [hr] at h
      | some r =>
        rw [hr] at h
        exact h.2
    unfold SCTPSocket.sendToAll
    rw [post_bind, post_discard]
    refine (post_sendTo_one hw hone).imp ?_
    rintro result w' ⟨hthread, halike, hstack⟩
    refine (ih (hthread ▸ hw) (hm.trans halike) (hstack ▸ hrest)).mono ?_ ?_
    · exact fun _ w'' h => h.trans hthread
    · exact fun h w'' h' => ⟨h'.1, h'.2.trans (by rw [hthread])⟩

/-- A send to all associations for which there is room waits nowhere. -/
theorem post_sendTo_all {c : SendCall} (hall : c.params.flags.sendToAll = true)
    (hroom : c.params.flags.dontwait = true ∨ ∀ o, w.shared.sockets s = some o →
      w.shared.RoomForAll c w.shared.stack o.connectionlessAssociationList.values) :
    Post (SCTPSocket.sendTo E s c) w (fun _ w' => TidyStep w w') fun h w' => TidyHalt h w w' := by
  let v : World L := { w with thread := { w.thread with lockLevel := w.thread.lockLevel + 1 } }
  unfold SCTPSocket.sendTo locked
  simp only [hall, Bool.not_true, Bool.false_eq_true, if_false]
  rw [post_bind, post_bind, post_lock, post_bind, post_bind, post_socketAt]
  cases ho : w.shared.sockets s with
  | none => exact ⟨Halt.noConfusion, rfl⟩
  | some o =>
    refine (post_sendToAll (w := v) (n := w.thread.lockLevel) (m := w.shared) rfl (.refl _) ?_).mono ?_ fun _ _ h => h
    · exact hroom.imp id fun h => h o ho
    · intro _ w' hthread
      rw [post_bind]
      exact post_unlock (by rw [hthread]) (fun _ _ => ⟨rfl, by rw [hthread]⟩) ⟨Halt.noConfusion, by rw [hthread]⟩

/-! ## The flush of the pre-establishment packets -/

/-- The association is established and the library takes its packets without a wait. -/
def FlushesAtOnce (p : AssocPtr) (w : Shared L) : Prop :=
  ∃ a, w.associations p = some a ∧ a.communicationUpNotification = true ∧
    (w.errorCode a.socket a.associationID = 0 → RoomToFlush a.associationID w.stack a.preEstablishmentPackets)

theorem Reaches.association {stack : L.State} {w' : World L} (h : Reaches stack w w') {a : SCTPAssociation}
    (ha : w.shared.associations p = some a) : ∃ a', w'.shared.associations p = some a' ∧ a'.sendView = a.sendView ∧
      a'.preEstablishmentPackets = a.preEstablishmentPackets := by
  have hv := h.alike.2 p
  have hp := h.packets p
  rw [ha] at hv hp
  obtain ⟨a', ha', hv⟩ := Option.map_eq_some_iff.mp hv
  rw [ha'] at hp
  exact ⟨a', ha', hv, Option.some.inj hp⟩

theorem sendReturn_eq_length {buffer : List UInt8} {result : SendResult}
    (h : SCTPSocket.sendReturn buffer.length result = buffer.length) :
    result = .success ∧ intOfSize buffer.length = buffer.length := by
  cases result with
  | success => exact ⟨rfl, h⟩
  | queueExceeded => simp only [SCTPSocket.sendReturn, ENOBUFS] at h; omega
  | parameterProblem => simp only [SCTPSocket.sendReturn, EINVAL] at h; omega
  | other => simp only [SCTPSocket.sendReturn, EIO] at h; omega

theorem errorCode_le_zero (w : Shared L) (s : SocketPtr) (id : AssocID) : w.errorCode s id ≤ 0 := by
  unfold Shared.errorCode
  split
  · split
    · decide
    · split <;> decide
  · exact Int.le_refl 0

theorem post_flush (hw : w.thread.lockLevel = n + 1) (h : FlushesAtOnce p w.shared) :
    Post (SCTPAssociation.sendPreEstablishmentPackets E p) w (fun _ w' => w'.thread = w.thread)
      fun h w' => TidyHalt h w w' := by
  let I (w' : World L) : Prop := w'.thread = w.thread ∧ FlushesAtOnce p w'.shared
  have hI {e : Halt} {w' w'' : World L} (h : I w') (h' : TidyHalt e w' w'') : TidyHalt e w w'' :=
    ⟨h'.1, h'.2.trans (by rw [h.1])⟩
  unfold SCTPAssociation.sendPreEstablishmentPackets
  refine @Post.loop _ _ _ _ _ I _ _ (fun w' h => ⟨Halt.noConfusion, by rw [h.1]⟩) ?_ _ _ ⟨rfl, h⟩
  rintro rest hrest w' hw'
  obtain ⟨hthread, a, ha, hup, hroom⟩ := id hw'
  simp only [post_bind, post_associationAt, ha]
  cases hp : a.preEstablishmentPackets with
  | nil => exact hthread
  | cons packet packets =>
    rw [hp] at hroom
    dsimp only
    rw [post_bind]
    have hdontwait : w'.shared.errorCode a.socket a.associationID = 0 →
        (L.send w'.shared.stack (sendRequest w'.shared.stack packet.data a.associationID packet.params)).1 =
          .queueExceeded → packet.params.flags.dontwait = true := by
      intro he hq
      have h := hroom he
      unfold RoomToFlush at h
      rwa [hq] at h
    refine (post_sendTo_up (hthread ▸ hw) ha hup hdontwait).mono ?_ fun _ _ h => hI hw' h
    rintro result w'' hw''
    by_cases hlength : result = packet.data.length
    · have he : w'.shared.errorCode a.socket a.associationID = 0 := by
        by_contra he
        rw [if_neg he] at hw''
        have hle := errorCode_le_zero w'.shared a.socket a.associationID
        have hr := hw''.2
        omega
      rw [if_pos he] at hw''
      obtain ⟨hreach, hr⟩ := hw''
      obtain ⟨hsuccess, hsize⟩ := sendReturn_eq_length (hr.symm.trans hlength)
      obtain ⟨a', ha', hview, hpackets⟩ := hreach.association ha
      have hnext := hroom he
      unfold RoomToFlush at hnext
      rw [hsuccess] at hnext
      rw [if_pos hlength]
      simp only [post_bind, post_setAssociation, ha']
      apply hrest
      refine ⟨hreach.thread.trans hthread, { a' with preEstablishmentPackets := a'.preEstablishmentPackets.tail }, ?_⟩
      simp only [SCTPAssociation.sendView, SCTPAssociation.mk.injEq] at hview
      obtain ⟨hs, hid, -, -, -, -, -, -, hu, -⟩ := hview
      refine ⟨?_, hu.trans hup, fun _ => ?_⟩
      · simp only [Shared.setAssociation, Function.update_self, ha', Option.map_some]
      · rw [show a'.preEstablishmentPackets.tail = packets by rw [hpackets, hp]; rfl, hid]
        simp only [Shared.setAssociation, hreach.stack]
        exact hnext hsize
    · rw [if_neg hlength]
      have : w''.thread = w'.thread := by
        split at hw''
        · exact hw''.1.thread
        · exact hw''.1.thread
      exact this.trans hthread

/-- The association is not established. -/
def Pending (p : AssocPtr) (w : Shared L) : Prop :=
  ∃ a, w.associations p = some a ∧ a.communicationUpNotification = false

theorem Pending.setAssociation {m : Shared L} {f : SCTPAssociation → SCTPAssociation} (h : Pending p m)
    (hf : ∀ a, (f a).communicationUpNotification = a.communicationUpNotification) :
    Pending p (m.setAssociation p f) := by
  obtain ⟨a, ha, hup⟩ := h
  refine ⟨f a, ?_, (hf a).trans hup⟩
  simp only [Shared.setAssociation, Function.update_self, ha, Option.map_some]

theorem post_sendTo_pending (h : Pending p w.shared) {buffer : List UInt8} {params : SendParams}
    {useDefaults : Bool} {H : Halt → World L → Prop} :
    Post (SCTPAssociation.sendTo E p buffer params useDefaults none) w
      (fun _ w' => w'.thread = w.thread ∧ Pending p w'.shared) H := by
  obtain ⟨a, ha, hup⟩ := id h
  unfold SCTPAssociation.sendTo
  simp only [post_bind, post_associationAt, ha, hup, Bool.not_false, if_true, post_ite, post_setAssociation,
    post_pure]
  split
  · exact ⟨trivial, h.setAssociation fun _ => rfl⟩
  · exact ⟨trivial, h⟩

/-- An association that is not established gets its packets back. -/
theorem post_flush_pending (h : Pending p w.shared) :
    Post (SCTPAssociation.sendPreEstablishmentPackets E p) w (fun _ w' => w'.thread = w.thread)
      fun h w' => TidyHalt h w w' := by
  let I (w' : World L) : Prop := w'.thread = w.thread ∧ Pending p w'.shared
  unfold SCTPAssociation.sendPreEstablishmentPackets
  refine @Post.loop _ _ _ _ _ I _ _ (fun w' h => ⟨Halt.noConfusion, by rw [h.1]⟩) ?_ _ _ ⟨rfl, h⟩
  rintro rest hrest w' ⟨hthread, hpending⟩
  obtain ⟨a, ha, hup⟩ := id hpending
  simp only [post_bind, post_associationAt, ha]
  cases hp : a.preEstablishmentPackets with
  | nil => exact hthread
  | cons packet packets =>
    refine (post_bind _).mpr ((post_sendTo_pending hpending).imp ?_)
    rintro result w'' ⟨hthread', hpending'⟩
    obtain ⟨a', ha', -⟩ := id hpending'
    split
    · simp only [post_bind, post_setAssociation, ha']
      apply hrest
      exact ⟨hthread'.trans hthread, hpending'.setAssociation fun _ => rfl⟩
    · exact hthread'.trans hthread

/-! ## Callbacks -/

/-- The socket `getSocketForAssociationID` finds. -/
def Shared.socketFor (w : Shared L) (assocID : AssocID) : Option SocketPtr :=
  match L.getInstanceID w.stack assocID with
  | some instanceID => if instanceID ≠ 0 then w.socketList.find instanceID else none
  | none => none

/-- The stack after "Correct RTOMax". -/
def restoredStack (stack : L.State) (a : SCTPAssociation) (assocID : AssocID) : L.State :=
  match a.rtoMaxIsInitTimeout, L.getAssocStatus stack assocID with
  | true, some status => (L.setAssocStatus stack assocID { status with rtoMax := a.rtoMax }).2
  | _, _ => stack

theorem post_getSocketForAssociationID {id : AssocID} {Q : Option SocketPtr → World L → Prop}
    {H : Halt → World L → Prop} :
    Post (SCTPSocketMaster.getSocketForAssociationID id) w Q H ↔ Q (w.shared.socketFor id) w := by
  unfold SCTPSocketMaster.getSocketForAssociationID Shared.socketFor
  simp only [post_bind, post_shared]
  cases L.getInstanceID w.shared.stack id <;> rfl

theorem post_initNotification {id : AssocID} {Q : SCTPNotification → World L → Prop} {H : Halt → World L → Prop}
    (hQ : ∀ n, Q n w) : Post (SCTPSocketMaster.initNotification id) w Q H := by
  unfold SCTPSocketMaster.initNotification
  simp only [post_bind, post_shared]
  cases L.getAssocStatus w.shared.stack id <;> exact hQ _

theorem post_restoreRTOMax (hw : w.thread.lockLevel = n + 1) {id : AssocID} {a : SCTPAssociation}
    (ha : w.shared.associations p = some a) :
    Post (SCTPSocketMaster.restoreRTOMax E p id) w
      (fun _ w' => Reaches (restoredStack w.shared.stack a id) w w') fun h w' => TidyHalt h w w' := by
  have hback : ({ w with thread := { w.thread with lockLevel := n + 1 } } : World L) = w := by rw [← hw]
  unfold SCTPSocketMaster.restoreRTOMax restoredStack
  simp only [post_bind, post_associationAt, ha]
  cases hr : a.rtoMaxIsInitTimeout with
  | false =>
    simp only [Bool.false_eq_true, if_false]
    exact ⟨rfl, .refl _, fun _ => rfl, rfl⟩
  | true =>
    simp only [if_true, post_bind]
    unfold SCTPSocket.getAssocStatus SCTPSocket.setAssocStatus
    rw [post_locked_held hw]
    simp only [post_bind, post_shared, post_pure, hback]
    cases L.getAssocStatus w.shared.stack id with
    | none =>
      simp only [post_setAssociation, ha]
      exact ⟨rfl, .setAssociation fun _ => rfl, .setAssociation fun _ => rfl, rfl⟩
    | some status =>
      simp only [post_bind, post_discard]
      rw [post_locked_held hw]
      simp only [post_library, post_setAssociation, ha]
      exact ⟨by rw [← hw], .setAssociation fun _ => rfl, .setAssociation fun _ => rfl, rfl⟩

theorem Reaches.broadcast {c : ConditionRef} {H : Halt → World L → Prop} :
    Post (broadcast c) w (fun _ w' => Reaches w.shared.stack w w') H := by
  obtain ⟨conditions, hfire⟩ := w.shared.fire_eq parentDepth c
  rw [post_broadcast, hfire]
  exact ⟨rfl, .refl _, fun _ => rfl, rfl⟩

theorem Reaches.setAssociation {f : SCTPAssociation → SCTPAssociation} (hf : ∀ a, (f a).sendView = a.sendView)
    (hpackets : ∀ a, (f a).preEstablishmentPackets = a.preEstablishmentPackets) :
    Post (setAssociation p f) w (fun _ w' => Reaches w.shared.stack w w') fun h w' => TidyHalt h w w' := by
  rw [post_setAssociation]
  split
  · exact ⟨rfl, .setAssociation hf, .setAssociation hpackets, rfl⟩
  · exact ⟨Halt.noConfusion, rfl⟩

theorem FlushesAtOnce.reaches {w' : World L} (h : FlushesAtOnce p w.shared) (hr : Reaches w.shared.stack w w') :
    FlushesAtOnce p w'.shared := by
  obtain ⟨a, ha, hup, hroom⟩ := h
  obtain ⟨a', ha', hview, hpackets⟩ := hr.association ha
  simp only [SCTPAssociation.sendView, SCTPAssociation.mk.injEq] at hview
  obtain ⟨hs, hid, -, -, -, -, -, -, hu, -⟩ := hview
  refine ⟨a', ha', hu.trans hup, ?_⟩
  rw [hs, hid, hpackets, hr.stack, hr.alike.errorCode]
  exact hroom

theorem errorCode_setAssociation {m : Shared L} {f : SCTPAssociation → SCTPAssociation}
    (hf : ∀ a, ((f a).shutdownCompleteNotification, (f a).communicationLostNotification) =
      (a.shutdownCompleteNotification, a.communicationLostNotification)) (s : SocketPtr) (id : AssocID) :
    (m.setAssociation p f).errorCode s id = m.errorCode s id := by
  have hsockets (t : SocketPtr) : ((m.setAssociation p f).sockets t).map (·.associationList) =
      (m.sockets t).map (·.associationList) := rfl
  refine errorCode_congr hsockets (fun q => ?_) s id
  simp only [Shared.setAssociation, Function.update_apply]
  split
  · subst q
    cases m.associations p with
    | none => rfl
    | some a => exact congrArg some (hf a)
  · rfl

/-- Flush of an association that has just been established. -/
theorem post_establish (hw : w.thread.lockLevel = n + 1) {id : AssocID} {a : SCTPAssociation}
    (ha : w.shared.associations p = some a) (hroom : w.shared.errorCode a.socket a.associationID = 0 →
      RoomToFlush a.associationID (restoredStack w.shared.stack a id) a.preEstablishmentPackets) :
    Post (SCTPSocketMaster.establish E p id) w (fun _ w' => w'.thread = w.thread)
      fun h w' => TidyHalt h w w' := by
  unfold SCTPSocketMaster.establish
  refine (post_restoreRTOMax hw ha).bind fun _ w₁ h₁ => ?_
  obtain ⟨a', ha', hview, hpackets⟩ := h₁.association ha
  simp only [SCTPAssociation.sendView, SCTPAssociation.mk.injEq] at hview
  obtain ⟨hs, hid, -, -, -, -, -, -, -, -⟩ := hview
  rw [post_bind, post_setAssociation, ha']
  -- From here on the association is established and nothing else has changed.
  have hflush :
      FlushesAtOnce p (w₁.shared.setAssociation p fun a => { a with communicationUpNotification := true }) := by
    have herror := errorCode_setAssociation (m := w₁.shared) (p := p)
      (f := fun a => { a with communicationUpNotification := true }) (fun _ => rfl) a'.socket a'.associationID
    rw [hs, hid, h₁.alike.errorCode] at herror
    refine ⟨{ a' with communicationUpNotification := true }, ?_, rfl, fun he => ?_⟩
    · simp only [Shared.setAssociation, Function.update_self, ha', Option.map_some]
    · dsimp only at he
      rw [hs, hid, herror] at he
      have := hroom he
      rwa [← hid, ← hpackets, ← h₁.stack] at this
  have hwaits {e : Halt} {w' w'' : World L} (h' : w'.thread = w.thread) (h : TidyHalt e w' w'') : TidyHalt e w w'' :=
    ⟨h.1, h.2.trans (by rw [h'])⟩
  refine Reaches.broadcast.bind fun _ w₂ h₂ => ?_
  have hset := Reaches.setAssociation (w := w₂) (p := p) (f := fun a =>
    { a with writeReady := true, hasException := false, preEstablishmentAddressList := none })
    (fun _ => rfl) fun _ => rfl
  have ht₂ : w₂.thread = w.thread := h₂.thread.trans h₁.thread
  refine (hset.mono (fun _ _ h => h) fun e w' h => hwaits ht₂ h).bind fun _ w₃ h₃ => ?_
  have ht₃ : w₃.thread = w.thread := h₃.thread.trans ht₂
  rw [post_discard]
  refine (post_flush (ht₃ ▸ hw) ?_).mono (fun _ w' h => h.trans ht₃) fun e w' h => hwaits ht₃ h
  exact FlushesAtOnce.reaches (FlushesAtOnce.reaches hflush h₂) h₃

/-- Callbacks that may flush do so at once. -/
def SCTPSocketMaster.Callback.FlushesAtOnce (w : Shared L) : SCTPSocketMaster.Callback → Prop
  | .communicationUp assocID _ _ => ∀ s o p a, w.socketFor assocID = some s → w.sockets s = some o →
      o.associationList.find assocID = some p → w.associations p = some a → a.isShuttingDown = false →
      w.errorCode a.socket a.associationID = 0 →
      RoomToFlush a.associationID (restoredStack w.stack a assocID) a.preEstablishmentPackets
  | .queueStatusChange assocID => ∀ s o p a, w.socketFor assocID = some s → w.sockets s = some o →
      o.associationList.find assocID = some p → w.associations p = some a →
      a.communicationUpNotification = true → w.errorCode a.socket a.associationID = 0 →
      RoomToFlush a.associationID w.stack a.preEstablishmentPackets
  | _ => True

theorem post_upAssociation (hw : w.thread.lockLevel = n + 1) {id : AssocID} {i o : Nat}
    {notification : SCTPNotification}
    (h : SCTPSocketMaster.Callback.FlushesAtOnce w.shared (.communicationUp id i o)) :
    Post (SCTPSocketMaster.upAssociation E id notification) w (fun _ w' => TidyStep w w')
      fun h w' => TidyHalt h w w' := by
  unfold SCTPSocketMaster.upAssociation
  rw [post_bind, post_getSocketForAssociationID]
  cases hs : w.shared.socketFor id with
  | none => exact ⟨rfl, rfl⟩
  | some s =>
    dsimp only
    have hunknown := (inferInstance : Tidy (SCTPSocketMaster.upUnknown E s id notification)).post w
    rw [post_bind, post_getAssociationForAssociationID hw]
    cases ho : w.shared.sockets s with
    | none => exact ⟨Halt.noConfusion, rfl⟩
    | some o =>
      cases hp : o.associationList.find id with
      | none => simpa only [hp] using hunknown
      | some p =>
        cases ha : w.shared.associations p with
        | none =>
          simp only [hp, ha]
          exact ⟨Halt.noConfusion, rfl⟩
        | some a =>
          simp only [hp, ha, Bool.and_true]
          cases hdown : a.isShuttingDown with
          | true => exact hunknown
          | false =>
            refine (post_bind _).mpr ((post_establish hw ha (h s o p a hs ho hp ha hdown)).mono ?_ fun _ _ h => h)
            exact fun _ w' hthread => ⟨by rw [hthread], by rw [hthread]⟩

theorem post_queueStatusChangeNotif (hw : w.thread.lockLevel = n + 1) {id : AssocID}
    (h : SCTPSocketMaster.Callback.FlushesAtOnce w.shared (.queueStatusChange id)) :
    Post (SCTPSocketMaster.queueStatusChangeNotif E id) w (fun _ w' => TidyStep w w') fun h w' => TidyHalt h w w' := by
  unfold SCTPSocketMaster.queueStatusChangeNotif
  rw [post_bind, post_getSocketForAssociationID]
  cases hs : w.shared.socketFor id with
  | none => exact ⟨rfl, rfl⟩
  | some s =>
    dsimp only
    rw [post_bind, post_getAssociationForAssociationID hw]
    cases ho : w.shared.sockets s with
    | none => exact ⟨Halt.noConfusion, rfl⟩
    | some o =>
      cases hp : o.associationList.find id with
      | none =>
        simp only [hp]
        exact ⟨rfl, rfl⟩
      | some p =>
        cases ha : w.shared.associations p with
        | none =>
          simp only [hp, ha]
          exact ⟨Halt.noConfusion, rfl⟩
        | some a =>
          simp only [hp, ha, Bool.and_false, Bool.false_eq_true, if_false]
          have hwaits {e : Halt} {w' w'' : World L} (h' : w'.thread = w.thread) (h : TidyHalt e w' w'') :
              TidyHalt e w w'' := ⟨h.1, h.2.trans (by rw [h'])⟩
          refine Reaches.broadcast.bind fun _ w₁ h₁ => ?_
          have hset := Reaches.setAssociation (w := w₁) (p := p) (f := fun a => { a with writeReady := true })
            (fun _ => rfl) fun _ => rfl
          refine (hset.mono (fun _ _ h => h) fun e w' h => hwaits h₁.thread h).bind fun _ w₂ h₂ => ?_
          have hr := h₁.trans h₂
          rw [post_discard]
          have hflush : Post (SCTPAssociation.sendPreEstablishmentPackets E p) w₂ (fun _ w' => w'.thread = w₂.thread)
              fun h w' => TidyHalt h w₂ w' := by
            cases hup : a.communicationUpNotification with
            | true =>
              refine post_flush (hr.thread ▸ hw) ?_
              exact .reaches (.reaches ⟨a, ha, hup, h s o p a hs ho hp ha hup⟩ h₁) h₂
            | false =>
              obtain ⟨a', ha', hview, -⟩ := hr.association ha
              simp only [SCTPAssociation.sendView, SCTPAssociation.mk.injEq] at hview
              exact post_flush_pending ⟨a', ha', hview.2.2.2.2.2.2.2.2.1.trans hup⟩
          refine hflush.mono (fun _ w' h => ?_) fun e w' h => hwaits hr.thread h
          have hthread := h.trans hr.thread
          exact ⟨by rw [hthread], by rw [hthread]⟩

variable {deliver : Deliver L} [∀ t id, Tidy (deliver t id)]

theorem post_communicationUpNotif (hw : w.thread.lockLevel = n + 1) {id : AssocID} {i o : Nat}
    (h : SCTPSocketMaster.Callback.FlushesAtOnce w.shared (.communicationUp id i o)) :
    Post (SCTPSocketMaster.communicationUpNotif E deliver id i o) w (fun _ w' => TidyStep w w')
      fun h w' => TidyHalt h w w' := by
  unfold SCTPSocketMaster.communicationUpNotif
  rw [post_bind]
  refine post_initNotification fun notification => (post_upAssociation hw h).bind fun up w' hw' => ?_
  have habort : Tidy (throw (.abort .rejectedDeleteAssociation) : Act L PUnit) := tidy_abort AbortSite.noConfusion
  cases up with
  | some up => exact Keeps.after (inferInstance : Tidy (SCTPSocketMaster.addNotification E up.1 id _)) hw'
  | none =>
    have : Tidy (do
        sctp_abort deliver id
        if !(← library (L.deleteAssociation · id)) then throw (.abort .rejectedDeleteAssociation)) := inferInstance
    exact this.after hw'

/-- A callback that flushes at once, if it flushes, waits nowhere. -/
theorem post_callback (hw : w.thread.lockLevel = n + 1) {c : SCTPSocketMaster.Callback}
    (h : c.FlushesAtOnce w.shared) :
    Post (c.run E) w (fun _ w' => TidyStep w w') fun h w' => TidyHalt h w w' := by
  unfold SCTPSocketMaster.Callback.run
  cases c with
  | communicationUp id i o => exact post_communicationUpNotif hw h
  | queueStatusChange id => exact post_queueStatusChangeNotif hw h
  | dataArrive id stream length protoID unordered =>
    exact (inferInstance : Tidy (SCTPSocketMaster.dataArriveNotif E id stream length protoID unordered)).post w
  | sendFailure id => exact (inferInstance : Tidy (SCTPSocketMaster.sendFailureNotif E id)).post w
  | networkStatusChange id path state =>
    exact (inferInstance : Tidy (SCTPSocketMaster.networkStatusChangeNotif E id path state)).post w
  | communicationLost id =>
    exact (inferInstance : Tidy (SCTPSocketMaster.communicationLostNotif E (SCTPSocketMaster.notif E) id)).post w
  | communicationError id => exact (inferInstance : Tidy (SCTPSocketMaster.communicationErrorNotif E id)).post w
  | restart id => exact (inferInstance : Tidy (SCTPSocketMaster.restartNotif E id)).post w
  | shutdownReceived id => exact (inferInstance : Tidy (SCTPSocketMaster.shutdownReceivedNotif E id)).post w
  | shutdownComplete id =>
    exact (inferInstance : Tidy (SCTPSocketMaster.shutdownCompleteNotif E (SCTPSocketMaster.notif E) id)).post w

/-! ## Runs of a thread -/

/-- What a thread does: the application calls operations, the callback thread holds the
master while it runs a callback. -/
inductive Activity where
  | operation (op : Operation)
  | callback (c : SCTPSocketMaster.Callback)

def Activity.run (E : Environment L) : Activity → Act L Unit
  | operation op => op.run E
  | callback c => locked E (c.run E)

/-- No wait of the activity finds the master locked. -/
def Activity.Unblocked (E : Environment L) (w : World L) : Activity → Prop
  | operation op => op.Releases E w ∧ match op with
    | .socket s (.sendTo c) => c.params.flags.sendToAll = true → c.params.flags.dontwait = true ∨
        ∀ o, w.shared.sockets s = some o → w.shared.RoomForAll c w.shared.stack o.connectionlessAssociationList.values
    | _ => True
  | callback c => c.FlushesAtOnce w.shared

theorem Activity.courteous {act : Activity} (h : act.Unblocked E w) : Courteous (act.run E) w := by
  cases act with
  | callback c =>
    refine .of_tidy ?_
    unfold Activity.run locked
    rw [post_bind, post_lock, post_bind]
    let v : World L := { w with thread := { w.thread with lockLevel := w.thread.lockLevel + 1 } }
    refine (post_callback (w := v) (n := w.thread.lockLevel) rfl h).mono (fun _ w' h' => ?_) fun _ _ h' => h'
    rw [post_bind]
    exact post_unlock h'.1 (fun _ _ => ⟨rfl, h'.2⟩) ⟨Halt.noConfusion, h'.2⟩
  | operation op =>
    cases op with
    | association p op => exact SCTPAssociation.courteous h.1
    | socket s op =>
      by_cases hall : op.SendsToAll
      · cases op with
        | sendTo c => exact courteous_discard.mpr (.of_tidy (post_sendTo_all hall (h.2 hall)))
        | _ => exact hall.elim
      · exact SCTPSocket.courteous h.1 hall

/-- The worlds a thread comes through between its activities. -/
inductive ThreadRun (E : Environment L) (w : World L) : World L → Prop
  | start : ThreadRun E w w
  | next {w' w'' : World L} (act : Activity) : ThreadRun E w w' → act.Unblocked E w' →
      act.run E w' = .ok () w'' → ThreadRun E w w''

/-- Step by step: level 0 between the activities, and no wait above it. -/
theorem ThreadRun.unlocked {w w' : World L} (hrun : ThreadRun E w w') (hlevel : w.thread.lockLevel = 0)
    (hwaits : ∀ level ∈ w.thread.waits, level = 0) :
    w'.thread.lockLevel = 0 ∧ ∀ level ∈ w'.thread.waits, level = 0 := by
  induction hrun with
  | start => exact ⟨hlevel, hwaits⟩
  | next act _ hact hstep ih =>
    obtain ⟨hlevel', hwaits'⟩ := ih
    obtain ⟨hl, n, hn⟩ := (Activity.courteous hact).of_ok hstep
    refine ⟨hl.trans hlevel', fun level hmem => ?_⟩
    rw [hn, hlevel', List.mem_append] at hmem
    rcases hmem with hmem | hmem
    · exact List.eq_of_mem_replicate hmem
    · exact hwaits' level hmem

/-- In every run of a thread, over any work of the other threads, all waits find the lock free. -/
theorem waits_unlocked (E : Environment L) (shared : Shared L) {w : World L} (hrun : ThreadRun E { shared } w)
    (act : Activity) (hact : act.Unblocked E w) :
    Post (act.run E) w (fun _ w' => ∀ level ∈ w'.thread.waits, level = 0)
      fun _ w' => ∀ level ∈ w'.thread.waits, level = 0 := by
  obtain ⟨hlevel, hwaits⟩ := hrun.unlocked rfl (fun _ h => absurd h List.not_mem_nil)
  have hall {w' : World L} (h : WaitsAt w w') : ∀ level ∈ w'.thread.waits, level = 0 := by
    obtain ⟨n, hn⟩ := h
    intro level hmem
    rw [hn, hlevel, List.mem_append] at hmem
    exact hmem.elim List.eq_of_mem_replicate (hwaits level)
  exact (Activity.courteous hact).mono (fun _ _ h => hall h.2) fun _ _ h => hall h.2

/-- A send to the one association of a socket, for which there is room. -/
theorem waits_unlocked_sendToAll :
    let o : SCTPSocket := { connectionlessAssociationList := [(1, 0)] }
    let a : SCTPAssociation := { socket := 0, associationID := 1, communicationUpNotification := true }
    let m : Shared Sctplib.small := { stack := SmallStack.mk 0 1 [(1, 1)] [] [], sockets := Function.update (fun _ => none) 0 (some o)
                                      associations := Function.update (fun _ => none) 0 (some a) }
    Post (Activity.run {} (.operation (.socket 0 (.sendTo { buffer := [1], params := { flags := { sendToAll := true } } }))))
      { shared := m }
      (fun _ w' => ∀ level ∈ w'.thread.waits, level = 0) fun _ w' => ∀ level ∈ w'.thread.waits, level = 0 := by
  refine waits_unlocked {} _ .start _ ⟨trivial, fun _ => .inr fun o ho => ?_⟩
  obtain rfl := Option.some.inj ho
  exact ⟨SendResult.noConfusion, trivial⟩

/-- A send to all associations while the send queue is full: it waits with the master locked. -/
theorem sendToAll_waits_locked :
    Post (do
        let s ← SCTPSocket.new .inet { globalQueue := true, autoConnect := true }
        discard (SCTPSocket.bind {} s 5000 10 10 [{ host := "10.0.0.1", port := 5000 }])
        discard (SCTPSocket.sendTo {} s
          { params := { flags := { dontwait := true } }, destinationAddressList := some [{ host := "10.0.0.2", port := 7 }] })
        locked {} (SCTPSocketMaster.Callback.run {} (.communicationUp 1 1 1))
        discard (SCTPSocket.sendTo {} s { buffer := [1], params := { flags := { sendToAll := true } } }))
      (World.initial (SmallStack.mk 0 0 [] [] [.queueExceeded]) : World Sctplib.small) (fun _ _ => False)
      fun h w' => h = .waiting ∧ w'.thread.waits = [1] := by
  decide +kernel

end SocketApi
