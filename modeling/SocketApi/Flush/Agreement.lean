import SocketApi.Flush.Ends

/-!
# Queued and direct sends

A message that is sent before the association is established waits in a packet, without the choice
of the defaults. What the protocol library is asked for in the end is the same as for a direct send
only if the defaults are not wanted, or are what the caller passed.
-/

namespace SocketApi

open Effect SCTPSocket

variable {L : Sctplib} {E : Environment L} {w : World L} {p : AssocPtr} {o : SCTPSocket} {id : AssocID}
  {buffer : List UInt8} {params : SendParams} {useDefaults : Bool} {a : SCTPAssociation}

/-! ## What a send hands to the library -/

/-- The message is sent after the establishment, when the packets before it are flushed. -/
def sendDirectly (E : Environment L) (p : AssocPtr) (buffer : List UInt8) (params : SendParams) (useDefaults : Bool) :
    Act L Unit := do
  setAssociation p fun a => { a with communicationUpNotification := true }
  discard (SCTPAssociation.sendPreEstablishmentPackets E p)
  discard (SCTPAssociation.sendTo E p buffer params useDefaults none)

/-- The message is sent before the establishment and flushed after it. -/
def sendQueued (E : Environment L) (p : AssocPtr) (buffer : List UInt8) (params : SendParams) (useDefaults : Bool) :
    Act L Unit := do
  discard (SCTPAssociation.sendTo E p buffer params useDefaults none)
  setAssociation p fun a => { a with communicationUpNotification := true }
  discard (SCTPAssociation.sendPreEstablishmentPackets E p)

/-- With enough patience, the program ends with these requests accepted. -/
def Hands (x : Nat → Act L Unit) (w : World L) (qs : List SendRequest) : Prop :=
  ∃ N, ∀ m, N ≤ m → Post (x m) w (fun _ w' => w'.shared.sendLog = w.shared.sendLog ++ qs) fun _ _ => False

/-- The requests a send comes to, for an association with the error `code`. -/
def Outcome (L : Sctplib) (code : Int) (id : AssocID) (buffer : List UInt8) (params : SendParams) (stack : L.State)
    (qs : List SendRequest) : Prop :=
  code ≠ 0 ∧ qs = [] ∨ code = 0 ∧
    ∃ r q stack', Answered L id buffer params stack r q stack' ∧ qs = if r = .success then [q] else []

section

variable {stack : L.State} {code : Int} {qs qs' : List SendRequest}

theorem Outcome.unique (h : Outcome L code id buffer params stack qs) (h' : Outcome L code id buffer params stack qs') :
    qs' = qs := by
  rcases h with ⟨herror, rfl⟩ | ⟨hzero, r, q, stack, h, rfl⟩
  · rcases h' with ⟨-, rfl⟩ | ⟨hzero, -⟩
    · rfl
    · exact absurd hzero herror
  · rcases h' with ⟨herror, -⟩ | ⟨-, r', q', stack', h', rfl⟩
    · exact absurd hzero herror
    · obtain ⟨rfl, rfl, -⟩ := h.unique h'
      rfl

theorem SendEnd.outcome {t t' : Shared L} {result : Int} (h : SendEnd L o id buffer params t result t')
    (hcode : t.errorCodeOf o id = code) :
    ∃ qs, Outcome L code id buffer params t.stack qs ∧ t'.sendLog = t.sendLog ++ qs := by
  subst hcode
  cases h with
  | refused herror _ ht =>
    refine ⟨[], .inl ⟨herror, rfl⟩, ?_⟩
    rw [ht, sendLog_afterErrorCode, List.append_nil]
  | answered hzero h _ hlog => exact ⟨_, .inr ⟨hzero, _, _, _, h, rfl⟩, hlog⟩

theorem FlushEnd.outcome {packet : PreEstablishmentPacket} {left : List PreEstablishmentPacket}
    (h : FlushEnd L id [packet] stack qs left) : Outcome L 0 id packet.data packet.params stack qs := by
  cases h with
  | refused h hr => exact .inr ⟨rfl, _, _, _, h, (if_neg hr).symm⟩
  | accepted h _ hrest =>
    cases hrest
    exact .inr ⟨rfl, _, _, _, h, rfl⟩
  | misread h => exact .inr ⟨rfl, _, _, _, h, rfl⟩

/-- A send that has an outcome is answered in enough rounds. -/
theorem Outcome.rounds (h : Outcome L code id buffer params stack qs) (c : Option ConditionRef) :
    ∃ N, ∀ (E : Environment L) w n, code = 0 → Alone E w → w.shared.stack = stack → N ≤ n →
      LevelPost (loop .waiting (sendRound E buffer id params c) n) w (fun _ _ => True) fun _ => False := by
  rcases h with ⟨herror, -⟩ | ⟨-, r, q, stack', h, -⟩
  · exact ⟨0, fun _ _ _ hzero => absurd hzero herror⟩
  · obtain ⟨N, hN⟩ := h.rounds (c := c)
    exact ⟨N, fun E w n _ hw hstack hn => hN E w n hw hstack hn⟩

/-- A program that ends as a send of the message after `earlier` requests. -/
theorem hands_iff {x : Nat → Act L Unit} {earlier : List SendRequest}
    (hlimit : ∃ N, ∀ m, N ≤ m → Post (x m) w (fun _ w' => ∃ last, Outcome L code id buffer params stack last ∧
      w'.shared.sendLog = w.shared.sendLog ++ (earlier ++ last)) fun h _ => h = .waiting)
    (hreturns : ∀ last, Outcome L code id buffer params stack last →
      ∃ N, ∀ m, N ≤ m → Post (x m) w (fun _ _ => True) fun _ _ => False) :
    Hands x w qs ↔ ∃ last, Outcome L code id buffer params stack last ∧ qs = earlier ++ last := by
  obtain ⟨M, hM⟩ := hlimit
  constructor
  · rintro ⟨N, hN⟩
    obtain ⟨_, w', hrun, hlog₁⟩ := (hN (max N M) (le_max_left _ _)).exists_ok
    obtain ⟨last, houtcome, hlog₂⟩ := (hM (max N M) (le_max_right _ _)).of_ok hrun
    exact ⟨last, houtcome, List.append_cancel_left (hlog₁.symm.trans hlog₂)⟩
  · rintro ⟨last, houtcome, rfl⟩
    obtain ⟨N, hN⟩ := hreturns last houtcome
    refine ⟨max N M, fun m hm => ?_⟩
    refine ((hN m (by omega)).and (hM m (by omega))).mono (fun _ w' ⟨_, last', houtcome', hlog'⟩ => ?_) fun _ _ h => h.1
    rw [hlog', houtcome.unique houtcome']

end

/-! ## The packets before the message -/

/-- The packets are all accepted, with these requests. -/
inductive Accepted (L : Sctplib) (id : AssocID) :
    List PreEstablishmentPacket → L.State → List SendRequest → L.State → Prop
  | nil {stack : L.State} : Accepted L id [] stack [] stack
  | cons {stack stack' stack'' : L.State} {packet : PreEstablishmentPacket} {rest : List PreEstablishmentPacket}
      {q : SendRequest} {qs : List SendRequest} (h : Answered L id packet.data packet.params stack .success q stack')
      (hlength : packet.data.length < 2 ^ 31) (hrest : Accepted L id rest stack' qs stack'') :
      Accepted L id (packet :: rest) stack (q :: qs) stack''

section

variable {s : SocketPtr} {code : Int} {packets : List PreEstablishmentPacket} {H : Halt → Prop}

theorem Accepted.flush {stack stack' : L.State} {before : List PreEstablishmentPacket} {earlier : List SendRequest}
    (h : Accepted L id before stack earlier stack') :
    ∃ N, ∀ (E : Environment L) w packets code n P H, N ≤ E.patience →
      Flushing E p s id true code (before ++ packets) w → (before ≠ [] → code = 0) → w.shared.stack = stack →
      (∀ w', Flushing E p s id true code packets w' → w'.shared.stack = stack' →
        w'.shared.sendLog = w.shared.sendLog ++ earlier → SameDefaults p w.shared w'.shared →
        LevelPost (flushWithin E p n) w' P H) →
      LevelPost (flushWithin E p (before.length + n)) w P H := by
  induction h with
  | nil =>
    refine ⟨0, fun E w packets code n P H _ h _ hstack hrest => ?_⟩
    rw [List.length_nil, Nat.zero_add]
    exact hrest w h hstack (List.append_nil _).symm rfl
  | @cons _ _ _ packet before q earlier hanswered hlength _ ih =>
    obtain ⟨M, hM⟩ := hanswered.rounds (c := some (.assoc p .readyForTransmit))
    obtain ⟨N, hN⟩ := ih
    refine ⟨max M N, fun E w packets code n P H hpatience h hcode hstack hrest => ?_⟩
    obtain rfl := hcode nofun
    have hsend := h.sendTo_returns packet.data packet.params fun _ w' hw' hstack' =>
      hM E w' E.patience hw' (hstack'.trans hstack) (by omega)
    rw [List.length_cons, Nat.add_right_comm]
    refine h.round_up (Post.mono hsend (fun _ _ h => h) fun _ _ h => h.elim)
      (fun o result w' _ hcode' hend hne _ => ?_) fun q' w' _ hanswered' _ hlog hdefaults h' => ?_
    · exfalso
      cases hend with
      | refused herror => exact herror hcode'
      | answered _ hanswered' =>
        rw [hstack] at hanswered'
        obtain ⟨rfl, -⟩ := hanswered.unique hanswered'
        exact hne (sendReturn_eq.mpr ⟨rfl, intOfSize_eq.mpr hlength⟩)
    · rw [hstack] at hanswered'
      obtain ⟨-, rfl, hstack'⟩ := hanswered.unique hanswered'
      refine hN E w' packets 0 n P H (by omega) h' (fun _ => rfl) hstack' fun w'' h'' hstack'' hlog'' hdefaults'' => ?_
      refine hrest w'' h'' hstack'' ?_ (hdefaults''.trans hdefaults)
      rw [hlog'', hlog, List.append_assoc]
      rfl

/-! ## A direct send -/

/-- The parameters a direct send uses. -/
def SendParams.withDefaults (params : SendParams) (d : AssocIODefaults) : SendParams :=
  { params with streamID := d.streamID, protoID := d.protoID, timeToLive := d.timeToLive }

/-- The association is established, and nothing else happens. -/
def Shared.established (t : Shared L) (p : AssocPtr) : Shared L :=
  t.setAssociation p fun a => { a with communicationUpNotification := true }

theorem Flushing.established {up : Bool} (h : Flushing E p s id up code packets w) :
    Flushing E p s id true code packets (w.with (w.shared.established p)) :=
  h.changed (fun _ => ⟨rfl, rfl, rfl⟩) (fun _ _ => rfl) fun _ h => h

theorem Alone.getDefaultStreamTimeout (hw : Alone E w) (ha : w.shared.associations p = some a) (stream : StreamID) :
    LevelPost (SCTPAssociation.getDefaultStreamTimeout E p stream) w (fun _ t => t = w.shared) H := by
  refine hw.locked ?_
  unfold LevelPost
  rw [post_bind, (runs_associationAt (w := w.up) ha).post]
  cases a.streamDefaultTimeoutArray[stream]? <;> exact ⟨rfl, rfl⟩

/-- A send with the defaults is a send with the parameters that they replace. -/
theorem levelPost_sendDefaults {P : Int → Shared L → Prop} (hw : Alone E w) (ha : w.shared.associations p = some a)
    (hup : a.communicationUpNotification = true) (hne : buffer ≠ [])
    (hsend : ∀ w', w'.thread.lockLevel = w.thread.lockLevel → w'.shared = w.shared →
      LevelPost (SCTPAssociation.sendTo E p buffer (params.withDefaults a.defaults) false none) w' P H) :
    LevelPost (SCTPAssociation.sendTo E p buffer params true none) w P H := by
  have htimeout := hw.getDefaultStreamTimeout (H := H) ha a.defaults.streamID
  unfold LevelPost SCTPAssociation.sendTo
  rw [post_bind, (runs_associationAt ha).post, post_ite, if_neg (by simp [hup]), post_ite, if_neg (by simp), post_ite,
    if_pos (by simpa using hne), post_bind, post_discard]
  refine Post.imp htimeout fun _ w' ⟨hl, hs⟩ => ?_
  have ha' : w'.shared.associations p = some a := by rw [hs, ha]
  have h' := hsend w' hl hs
  unfold LevelPost SCTPAssociation.sendTo at h'
  rw [post_bind, (runs_associationAt ha').post, post_ite, if_neg (by simp [hup]), post_ite, if_pos (by simp)] at h'
  rw [post_bind, (runs_associationAt ha').post]
  exact Post.imp h' fun _ _ h => ⟨h.1.trans hl, h.2⟩

/-- Either way a direct send is one with explicit parameters, after the flush. -/
theorem Flushing.sendDirectly (h : Flushing E p s id true code [] w) (ha : w.shared.associations p = some a)
    (hne : useDefaults = true → buffer ≠ []) {P : Shared L → Prop}
    (hsend : ∀ w', Flushing E p s id true code [] w' → w'.shared = w.shared →
      LevelPost (SCTPAssociation.sendTo E p buffer (if useDefaults then params.withDefaults a.defaults else params) false none)
        w' (fun _ => P) H) :
    LevelPost (SCTPAssociation.sendTo E p buffer params useDefaults none) w (fun _ => P) H := by
  cases useDefaults with
  | false => exact hsend w h rfl
  | true =>
    obtain ⟨a', ha', -, -, hup, -⟩ := h.association
    obtain rfl : a = a' := Option.some.inj (ha.symm.trans ha')
    refine levelPost_sendDefaults h.alone ha hup (hne rfl) fun w' hl hs => ?_
    exact hsend w' (h.sent hl (by rw [hs]) fun k => by rw [hs]) hs

theorem Flushing.moved {w' : World L} {up : Bool} (h : Flushing E p s id up code packets w) (hw : Alone E w')
    (hs : w'.shared = w.shared) : Flushing E p s id up code packets w' := by
  obtain ⟨-, hlive, hsocket, hassociation⟩ := h
  rw [← hs] at hlive hsocket hassociation
  exact ⟨hw, hlive, hsocket, hassociation⟩

/-- What a direct send comes to. -/
theorem hands_sendDirectly {stack : L.State} {earlier qs : List SendRequest} (hw : Alone E w)
    (ha : w.shared.associations p = some a) (ho : w.shared.sockets a.socket = some o) (hlive : Live w.shared a.socket)
    (hcode : a.preEstablishmentPackets ≠ [] → w.shared.errorCodeOf o a.associationID = 0)
    (haccepted : Accepted L a.associationID a.preEstablishmentPackets w.shared.stack earlier stack)
    (hne : useDefaults = true → buffer ≠ []) :
    Hands (fun m => sendDirectly (E.patient m) p buffer params useDefaults) w qs ↔
      ∃ last, Outcome L (w.shared.errorCodeOf o a.associationID) a.associationID buffer
        (if useDefaults then params.withDefaults a.defaults else params) stack last ∧ qs = earlier ++ last := by
  obtain ⟨M, hM⟩ := haccepted.flush (p := p) (s := a.socket)
  have h : Flushing E p a.socket a.associationID a.communicationUpNotification
      (w.shared.errorCodeOf o a.associationID) (a.preEstablishmentPackets ++ []) w :=
    ⟨hw, hlive, ⟨o, ho, rfl⟩, a, ha, rfl, rfl, rfl, (List.append_nil _).symm⟩
  generalize w.shared.errorCodeOf o a.associationID = code at *
  have hafter {m : Nat} {P : Shared L → Prop} {H : Halt → Prop} (hm : max M a.preEstablishmentPackets.length ≤ m)
      (hsend : ∀ w', Flushing (E.patient m) p a.socket a.associationID true code [] w' → w'.shared.stack = stack →
        w'.shared.sendLog = w.shared.sendLog ++ earlier →
        LevelPost (SCTPAssociation.sendTo (E.patient m) p buffer
          (if useDefaults then params.withDefaults a.defaults else params) false none) w' (fun _ => P) H) :
      Post (SocketApi.sendDirectly (E.patient m) p buffer params useDefaults) w (fun _ w' => P w'.shared) fun h _ => H h := by
    have hpatience : M ≤ (E.patient m).patience := (le_max_left _ _).trans hm
    obtain ⟨n, hn⟩ : ∃ n, m = a.preEstablishmentPackets.length + n := ⟨m - a.preEstablishmentPackets.length, by omega⟩
    have hflush := hM (E.patient m) _ [] code n (fun _ t => ∃ w', t = w'.shared ∧
        Flushing (E.patient m) p a.socket a.associationID true code [] w' ∧ w'.shared.stack = stack ∧
        w'.shared.sendLog = w.shared.sendLog ++ earlier ∧ SameDefaults p w.shared w'.shared) H hpatience
      (h.patient m).established hcode rfl fun w' h' hstack hlog hdefaults => ?_
    · unfold SocketApi.sendDirectly
      rw [post_bind, (runs_setAssociation ha _).post, post_bind, post_discard, sendPreEstablishmentPackets_eq]
      have hm' : (E.patient m).patience = a.preEstablishmentPackets.length + n := hn
      rw [hm']
      refine Post.imp hflush fun _ v ⟨hl, w', hs, h', hstack, hlog, hdefaults⟩ => ?_
      have hv := h'.moved ((h.patient m).alone.level hl) hs
      obtain ⟨a', ha', -⟩ := hv.association
      have hd : a'.defaults = a.defaults := by
        unfold SameDefaults at hdefaults
        rw [← hs, ha', ha] at hdefaults
        exact Option.some.inj hdefaults
      rw [post_discard]
      refine Post.imp (hv.sendDirectly ha' hne fun w'' hw'' hs'' => ?_) fun _ _ h => h.2
      rw [hd]
      exact hsend w'' hw'' (by rw [hs'', hs, hstack]) (by rw [hs'', hs, hlog])
    · have hnil : Runs (flushWithin (E.patient m) p n) w' true w' := by
        cases n with
        | zero => exact h'.round_nil
        | succ n => exact h'.round_nil
      refine hnil.post.mpr ⟨rfl, w', rfl, h', hstack, hlog, hdefaults.trans ?_⟩
      rw [World.with_shared, Shared.established, setAssociation_associations ha, ha]
      rfl
  refine hands_iff ⟨max M a.preEstablishmentPackets.length, fun m hm => ?_⟩ fun last houtcome => ?_
  · refine hafter (P := fun t => ∃ last, Outcome L code a.associationID buffer
      (if useDefaults then params.withDefaults a.defaults else params) stack last ∧
        t.sendLog = w.shared.sendLog ++ (earlier ++ last)) hm fun w' hw' hstack hlog => ?_
    refine (hw'.sendTo _ _).imp fun r t ⟨o₁, _, hcode, hend⟩ => ?_
    obtain ⟨last, houtcome, hlog'⟩ := hend.outcome hcode
    rw [hstack] at houtcome
    exact ⟨last, houtcome, by rw [hlog', hlog, List.append_assoc]⟩
  · obtain ⟨N, hN⟩ := houtcome.rounds (some (.assoc p .readyForTransmit))
    refine ⟨max N (max M a.preEstablishmentPackets.length), fun m hm => ?_⟩
    refine hafter (P := fun _ => True) (H := fun _ => False) (by omega) fun w' hw' hstack hlog => ?_
    refine (hw'.sendTo_returns _ _ fun hzero w'' hw'' hstack' => ?_).imp fun _ _ _ => trivial
    exact hN _ w'' m hzero hw'' (by rw [hstack', hstack]) (by omega)

/-! ## A queued send -/

/-- A queued send comes to the flush of one more packet. -/
theorem Flushing.sendQueued (h : Flushing E p s id false code packets w) (hqueues : E.Queues)
    (buffer : List UInt8) (params : SendParams) (useDefaults : Bool) :
    ∃ w', Flushing E p s id true code
        (packets ++ [⟨params.flags, params.protoID, params.streamID, params.timeToLive, buffer⟩]) w' ∧
      w'.shared.sendLog = w.shared.sendLog ∧ w'.shared.stack = w.shared.stack ∧
      ∀ {P : Shared L → Prop} {H : Halt → Prop}, LevelPost (flushWithin E p E.patience) w' (fun _ => P) H →
        Post (SocketApi.sendQueued E p buffer params useDefaults) w (fun _ w' => P w'.shared) fun h _ => H h := by
  obtain ⟨w₁, hrun, -, hlog₁, hstack₁, h₁⟩ := h.sendTo_down
    ⟨params.flags, params.protoID, params.streamID, params.timeToLive, buffer⟩ useDefaults
  rw [if_pos hqueues] at h₁
  refine ⟨_, h₁.established, hlog₁, hstack₁, fun hflush => ?_⟩
  obtain ⟨a₁, ha₁, -⟩ := h₁.association
  unfold SocketApi.sendQueued
  rw [post_bind, post_discard]
  refine hrun.post.mpr ?_
  rw [post_bind, (runs_setAssociation ha₁ _).post, post_discard]
  exact Post.imp hflush fun _ _ h => h.2

theorem Flushing.flush_outcome {packet : PreEstablishmentPacket} (h : Flushing E p s id true code [packet] w)
    (n : Nat) :
    LevelPost (flushWithin E p n) w (fun _ t => ∃ qs, Outcome L code id packet.data packet.params w.shared.stack qs ∧
      t.sendLog = w.shared.sendLog ++ qs) fun h => h = .waiting := by
  by_cases hzero : code = 0
  · subst hzero
    exact (h.flush n).imp fun _ t ⟨qs, left, hend, hlog, _⟩ => ⟨qs, hend.outcome, hlog⟩
  · refine Post.mono (h.flush_error hzero n) (fun _ w' ⟨hl, hlog, _⟩ => ⟨hl, [], .inl ⟨hzero, rfl⟩, ?_⟩) fun _ _ h => h.elim
    rw [hlog, List.append_nil]

/-- A packet that is answered at last is flushed in enough rounds. -/
theorem Flushing.flush_returns {packet : PreEstablishmentPacket} (h : Flushing E p s id true code [packet] w) (n : Nat)
    (hrounds : code = 0 → ∀ w', Alone E w' → w'.shared.stack = w.shared.stack →
      LevelPost (loop .waiting (sendRound E packet.data id packet.params (some (.assoc p .readyForTransmit))) E.patience) w'
        (fun _ _ => True) fun _ => False) :
    LevelPost (flushWithin E p (n + 1)) w (fun _ _ => True) fun _ => False := by
  refine h.round_up (h.sendTo_returns _ _ hrounds) (fun _ _ _ _ _ _ _ _ => trivial) fun _ w' _ _ _ _ _ h' => ?_
  cases n with
  | zero => exact h'.round_nil.post.mpr ⟨rfl, trivial⟩
  | succ n => exact h'.round_nil.post.mpr ⟨rfl, trivial⟩

/-- What a queued send comes to. -/
theorem hands_sendQueued {stack : L.State} {earlier qs : List SendRequest} (hw : Alone E w) (hqueues : E.Queues)
    (ha : w.shared.associations p = some a) (hdown : a.communicationUpNotification = false)
    (ho : w.shared.sockets a.socket = some o) (hlive : Live w.shared a.socket)
    (hcode : a.preEstablishmentPackets ≠ [] → w.shared.errorCodeOf o a.associationID = 0)
    (haccepted : Accepted L a.associationID a.preEstablishmentPackets w.shared.stack earlier stack) :
    Hands (fun m => sendQueued (E.patient m) p buffer params useDefaults) w qs ↔
      ∃ last, Outcome L (w.shared.errorCodeOf o a.associationID) a.associationID buffer params stack last ∧
        qs = earlier ++ last := by
  obtain ⟨M, hM⟩ := haccepted.flush (p := p) (s := a.socket)
  have h : Flushing E p a.socket a.associationID false (w.shared.errorCodeOf o a.associationID) a.preEstablishmentPackets w :=
    ⟨hw, hlive, ⟨o, ho, rfl⟩, a, ha, rfl, rfl, hdown, rfl⟩
  generalize w.shared.errorCodeOf o a.associationID = code at *
  have hafter {m : Nat} {P : Shared L → Prop} {H : Halt → Prop} (hm : max M (a.preEstablishmentPackets.length + 1) ≤ m)
      (hflush : ∀ n w', Flushing (E.patient m) p a.socket a.associationID true code
          [⟨params.flags, params.protoID, params.streamID, params.timeToLive, buffer⟩] w' → w'.shared.stack = stack →
        w'.shared.sendLog = w.shared.sendLog ++ earlier →
        LevelPost (flushWithin (E.patient m) p (n + 1)) w' (fun _ => P) H) :
      Post (SocketApi.sendQueued (E.patient m) p buffer params useDefaults) w (fun _ w' => P w'.shared) fun h _ => H h := by
    have hpatience : M ≤ (E.patient m).patience := (le_max_left _ _).trans hm
    obtain ⟨n, hn⟩ : ∃ n, m = a.preEstablishmentPackets.length + (n + 1) :=
      ⟨m - a.preEstablishmentPackets.length - 1, by omega⟩
    obtain ⟨w', h', hlog, hstack, hqueued⟩ := (h.patient m).sendQueued hqueues
      buffer params useDefaults
    have hm' : (E.patient m).patience = a.preEstablishmentPackets.length + (n + 1) := hn
    rw [hm'] at hqueued
    refine hqueued (hM (E.patient m) w' _ code (n + 1) _ H hpatience h' hcode hstack fun w'' h'' hstack'' hlog'' _ => ?_)
    exact hflush n w'' h'' hstack'' (by rw [hlog'', hlog])
  refine hands_iff ⟨max M (a.preEstablishmentPackets.length + 1), fun m hm => ?_⟩ fun last houtcome => ?_
  · refine hafter (P := fun t => ∃ last, Outcome L code a.associationID buffer params stack last ∧
      t.sendLog = w.shared.sendLog ++ (earlier ++ last)) hm fun n w' h' hstack hlog => ?_
    refine (h'.flush_outcome (n + 1)).imp fun _ t ⟨last, houtcome, hlog'⟩ => ?_
    rw [hstack] at houtcome
    exact ⟨last, houtcome, by rw [hlog', hlog, List.append_assoc]⟩
  · obtain ⟨N, hN⟩ := houtcome.rounds (some (.assoc p .readyForTransmit))
    refine ⟨max N (max M (a.preEstablishmentPackets.length + 1)), fun m hm => ?_⟩
    refine hafter (P := fun _ => True) (H := fun _ => False) (by omega) fun n w' h' hstack hlog => ?_
    refine (h'.flush_returns n fun hzero w'' hw'' hstack'' => ?_).imp fun _ _ _ => trivial
    exact hN _ w'' m hzero hw'' (hstack''.trans hstack) (by omega)

end

/-! ## When the two agree -/

/-- The two ways to send hand the same requests to the library: for every library, every state with
an association with the defaults that is not established, and every queue before the message whose
packets are accepted. -/
def QueuedAgrees (d : AssocIODefaults) (buffer : List UInt8) (params : SendParams) (useDefaults : Bool) : Prop :=
  ∀ (L : Sctplib) (E : Environment L) (w : World L) (p : AssocPtr) (a : SCTPAssociation) (o : SCTPSocket)
    (earlier : List SendRequest) (stack : L.State), Alone E w → E.Queues →
    w.shared.associations p = some a → a.defaults = d → a.communicationUpNotification = false →
    w.shared.sockets a.socket = some o → Live w.shared a.socket →
    (a.preEstablishmentPackets ≠ [] → w.shared.errorCodeOf o a.associationID = 0) →
    Accepted L a.associationID a.preEstablishmentPackets w.shared.stack earlier stack →
    ∀ qs, Hands (fun m => sendDirectly (E.patient m) p buffer params useDefaults) w qs ↔
      Hands (fun m => sendQueued (E.patient m) p buffer params useDefaults) w qs

/-- An association that is not established, with these defaults; the callback thread holds the lock. -/
def oneSends (d : AssocIODefaults) : World Sctplib.small where
  thread := { lockLevel := 1 }
  shared := {
    stack := { lastAssociation := 1, associations := [(1, 1)] }
    sockets := fun s => if s = 0 then some { associationList := [(1, 0)], instanceName := 1 } else none
    associations := fun p => if p = 0 then some { socket := 0, associationID := 1, defaults := d } else none }

theorem oneSends_live (d : AssocIODefaults) : Live (oneSends d).shared 0 := by
  intro o id p ho hp
  cases ho
  obtain ⟨rfl, rfl⟩ : id = 1 ∧ p = 0 := by simpa using Multimap.find_eq_some_mem hp
  rfl

theorem oneSends_outcome (d : AssocIODefaults) (buffer : List UInt8) (params : SendParams) :
    Outcome Sctplib.small 0 1 buffer params (oneSends d).shared.stack
      [params.request Sctplib.small 1 buffer (oneSends d).shared.stack] :=
  .inr ⟨rfl, .success, _, _, .now rfl (.inr nofun), rfl⟩

/-- An empty message is not sent with the defaults. -/
theorem hands_empty (d : AssocIODefaults) (params : SendParams) {qs : List SendRequest}
    (h : Hands (fun m => sendDirectly (Environment.patient {} m) 0 [] params true) (oneSends d) qs) : qs = [] := by
  obtain ⟨N, hN⟩ := h
  have h : Flushing (Environment.patient {} N) 0 0 1 false 0 [] (oneSends d) :=
    ⟨.inr Nat.one_pos, oneSends_live d, ⟨_, rfl, rfl⟩, _, rfl, rfl, rfl, rfl, rfl⟩
  have hflush : Runs (SCTPAssociation.sendPreEstablishmentPackets (Environment.patient {} N) 0)
      ((oneSends d).with ((oneSends d).shared.established 0)) true
      ((oneSends d).with ((oneSends d).shared.established 0)) := by
    rw [sendPreEstablishmentPackets_eq]
    cases (Environment.patient {} N).patience with
    | zero => exact h.established.round_nil
    | succ n => exact h.established.round_nil
  have hrun : Post (sendDirectly (Environment.patient {} N) 0 [] params true) (oneSends d)
      (fun _ w' => w'.shared.sendLog = []) fun _ _ => True := by
    obtain ⟨a, ha, -, -, hup, -⟩ := h.established.association
    unfold sendDirectly
    rw [post_bind, (runs_setAssociation (a := { socket := 0, associationID := 1, defaults := d }) rfl _).post,
      post_bind,
      post_discard]
    refine hflush.post.mpr ?_
    rw [post_discard]
    unfold SCTPAssociation.sendTo
    rw [post_bind]
    refine (runs_associationAt ha).post.mpr ?_
    rw [post_ite, if_neg (by simp [hup])]
    exact (rfl : (oneSends d).shared.sendLog = [])
  obtain ⟨_, w', hok, hlog⟩ := (hN N le_rfl).exists_ok
  exact hlog.symm.trans (hrun.of_ok hok)

/-- A message that wants the defaults shows whether they are what the caller passed. -/
theorem QueuedAgrees.eq {d : AssocIODefaults} (h : QueuedAgrees d buffer params true) :
    buffer ≠ [] ∧ params.streamID = d.streamID ∧ params.protoID = d.protoID ∧ params.timeToLive = d.timeToLive := by
  have h := h Sctplib.small {} (oneSends d) 0 _ _ [] _ (.inr Nat.one_pos) rfl rfl rfl rfl rfl (oneSends_live d)
    (fun h => absurd rfl h) .nil [params.request Sctplib.small 1 buffer (oneSends d).shared.stack]
  have hdirect := h.mpr ((hands_sendQueued (w := oneSends d) (p := 0) (E := {}) (.inr Nat.one_pos) rfl rfl rfl rfl
    (oneSends_live d) (fun h => absurd rfl h) .nil).mpr ⟨_, oneSends_outcome d buffer params, rfl⟩)
  have hne : buffer ≠ [] := by
    rintro rfl
    exact absurd (hands_empty d params hdirect) (List.cons_ne_nil _ _)
  obtain ⟨last, houtcome, hlast⟩ := (hands_sendDirectly (w := oneSends d) (p := 0) (E := {}) (.inr Nat.one_pos) rfl
    rfl (oneSends_live d) (fun h => absurd rfl h) .nil fun _ => hne).mp hdirect
  have hrequest := houtcome.unique (oneSends_outcome d buffer (params.withDefaults d))
  rw [← hlast.trans (List.nil_append _)] at hrequest
  have hrequest := List.singleton_inj.mp hrequest
  exact ⟨hne, congrArg SendRequest.streamID hrequest.symm, congrArg SendRequest.protoID hrequest.symm,
    congrArg SendRequest.timeToLive hrequest.symm⟩

/-- Queued and direct sends agree exactly if the defaults are not wanted, or the message is not empty
and what the caller passed is what they are. -/
theorem queued_agrees (d : AssocIODefaults) (buffer : List UInt8) (params : SendParams) (useDefaults : Bool) :
    QueuedAgrees d buffer params useDefaults ↔
      useDefaults = false ∨ buffer ≠ [] ∧ params.streamID = d.streamID ∧ params.protoID = d.protoID ∧
        params.timeToLive = d.timeToLive := by
  constructor
  · intro h
    cases useDefaults with
    | false => exact .inl rfl
    | true => exact .inr h.eq
  · intro hcond L E w p a o earlier stack hw hqueues ha hd hdown ho hlive hcode haccepted qs
    have hparams : (if useDefaults then params.withDefaults a.defaults else params) = params := by
      rcases hcond with rfl | ⟨-, hstream, hproto, httl⟩
      · rfl
      · subst hd
        unfold SendParams.withDefaults
        rw [← hstream, ← hproto, ← httl]
        exact ite_self _
    have hne : useDefaults = true → buffer ≠ [] := by
      rcases hcond with rfl | ⟨hne, -⟩
      · nofun
      · exact fun _ => hne
    rw [hands_sendDirectly hw ha ho hlive hcode haccepted hne,
      hands_sendQueued hw hqueues ha hdown ho hlive hcode haccepted,
      hparams]

/-- A message that wants the defaults is queued with what the caller passed. -/
theorem queued_differs : ¬ QueuedAgrees { streamID := 3 } [104] {} true := by
  intro h
  have hstream : (0 : StreamID) = 3 := h.eq.2.1
  exact absurd hstream (by decide)

end SocketApi
