import SocketApi.Options.Independence

/-!
# The maximum RTO of an association that is being set up

Until its communication is up an association runs with the timeout for INIT in place of its
maximum RTO, which the API keeps for it. Runs of gets and sets of the parameters, over the
association or over its socket, around the callback that ends the establishment.
-/

namespace SocketApi

open Effect SCTPSocketMaster

set_option synthInstance.maxSize 2000

variable {L : Sctplib} {E : Environment L} {p : AssocPtr} {id : AssocID}

/-- Parameters of an association that exists can be set, a new association has parameters, and
sending leaves them alone. -/
structure Sctplib.Reliable (L : Sctplib) : Prop where
  setAssocStatus : ∀ {s id status}, (L.getAssocStatus s id).isSome → (L.setAssocStatus s id status).1 = true
  associatex : ∀ {s i streams addresses port id s'}, L.associatex s i streams addresses port = (id, s') → id ≠ 0 →
    (L.getAssocStatus s' id).isSome
  send : ∀ {s request result s'} id, L.send s request = (result, s') →
    (L.getAssocStatus s' id).map (·.rtoMax) = (L.getAssocStatus s id).map (·.rtoMax)

/-! ## The rest of the API -/

/-- The maximum RTO of the association `p` with the ID `id` stays as it is. -/
def Kept (p : AssocPtr) (id : AssocID) (w w' : World L) : Prop :=
  w'.shared.view.association p = w.shared.view.association p ∧
    (w'.shared.view.status id).map (·.rtoMax) = (w.shared.view.status id).map (·.rtoMax)

instance : Calm (Kept (L := L) p id) where
  refl _ := ⟨rfl, rfl⟩
  trans h h' := ⟨h'.1.trans h.1, h'.2.trans h.2⟩
  still h := by
    unfold Kept
    rw [h.1]
    exact ⟨rfl, rfl⟩

section

variable {S : World L → World L → Prop} [Calm S]

/-- Every change of an association outside of the view. -/
instance {q : AssocPtr} {useCount : SCTPAssociation → Nat} {queue : SCTPAssociation → SCTPNotificationQueue}
    {up read write exception : SCTPAssociation → Bool} {packets : SCTPAssociation → List PreEstablishmentPacket}
    {addresses : SCTPAssociation → Option (List SocketAddress)} :
    Keeps S Unread (setAssociation q fun a => { a with
      inQueue := queue a, useCount := useCount a, communicationUpNotification := up a, readReady := read a
      writeReady := write a, hasException := exception a, preEstablishmentPackets := packets a
      preEstablishmentAddressList := addresses a }) := Calm.setAssociation q fun _ => rfl

instance {t : SocketPtr} {queue : SCTPSocket → SCTPNotificationQueue} {read write : SCTPSocket → Bool} :
    Keeps S Unread (setSocket t fun o => { o with
      globalQueue := queue o, readReady := read o, writeReady := write o }) := Calm.setSocket t fun _ => rfl

instance {c : ConditionRef} : Keeps S Unread (broadcast c : Act L _) where
  post w := by
    rw [post_broadcast]
    obtain ⟨conditions, h⟩ := w.shared.fire_eq parentDepth c
    rw [h]
    exact Calm.still ⟨rfl, rfl⟩

instance {c : ConditionRef} : Keeps S Unread (fired c : Act L _) := by
  have (f : Shared L → ConditionRef → Condition) :
      Keeps S Unread (update fun w => { w with conditions := f w }) :=
    Calm.update (fun _ => rfl) fun _ => rfl
  unfold fired
  infer_instance

theorem Reads.calm {α : Type} {x : Act L α} {g : Shared L → Option α} (h : Reads x g) : Keeps S Unread x where
  post w := (h w).mono (fun a w' hw => by
    obtain ⟨found, -, heq⟩ := Option.map_eq_some_iff.mp hw.1
    refine Calm.still ?_
    unfold Still
    rw [(Prod.mk.inj heq).2]
    exact ⟨rfl, rfl⟩) fun _ _ _ => trivial

variable [hE : Fact E.Instant]

instance {t : SocketPtr} {k : AssocID} {b : Bool} :
    Keeps S Unread (SCTPSocket.getAssociationForAssociationID E t k b) := by
  have (o : SCTPSocket) : Keeps S Unread (match o.associationList.find k with
      | some p => do return if (← associationAt p).isShuttingDown && b then none else some p
      | none => return none : Act L _) := by
    cases o.associationList.find k <;> infer_instance
  unfold SCTPSocket.getAssociationForAssociationID
  infer_instance

instance {t : SocketPtr} : Keeps S Unread (SCTPSocket.hasData E t) := by unfold SCTPSocket.hasData; infer_instance
instance {q : AssocPtr} : Keeps S Unread (SCTPAssociation.hasData E q) := by
  unfold SCTPAssociation.hasData; infer_instance

instance {t : SocketPtr} {k : AssocID} : Keeps S Unread (SCTPSocket.getErrorCode E t k) := by
  unfold SCTPSocket.getErrorCode
  refine .seq fun association => ?_
  cases association <;> infer_instance

instance {t : SocketPtr} {k : AssocID} {n : SCTPNotification} : Keeps S Unread (addNotification E t k n) := by
  unfold addNotification
  refine .seq fun association => ?_
  cases association with
  | none => infer_instance
  | some q => dsimp only; infer_instance

instance {q : AssocPtr} {stream : StreamID} : Keeps S Unread (SCTPAssociation.getDefaultStreamTimeout E q stream) := by
  have (a : SCTPAssociation) : Keeps S Unread (match a.streamDefaultTimeoutArray[stream]? with
      | some t => return if t.valid then some t.timeout else none
      | none => return none : Act L _) := by
    cases a.streamDefaultTimeoutArray[stream]? <;> infer_instance
  unfold SCTPAssociation.getDefaultStreamTimeout
  infer_instance

end

/-! ## Sending before the communication is up -/

section

variable [hE : Fact E.Instant]

instance {c : ConditionRef} : Keeps (Kept p id) Unread (timedWait E c) := by
  have (f : World L → Thread) : Keeps (Kept p id) Unread (modify fun w : World L => { w with thread := f w }) :=
    ⟨fun _ => ⟨rfl, rfl⟩⟩
  have : Keeps (Kept p id) Unread (get : Act L _) := ⟨fun _ => ⟨rfl, rfl⟩⟩
  unfold timedWait
  infer_instance

theorem kept_sendAttempt (hR : L.Reliable) (k : AssocID) (buffer : List UInt8) (params : SendParams)
    (a : Option SocketAddress) : Keeps (Kept p id) Unread (SCTPSocket.sendAttempt k buffer params a : Act L _) := by
  have (request : SendRequest) : Keeps (Kept (L := L) p id) Unread (library (L.send · request)) :=
    ⟨fun w => ⟨rfl, hR.send id rfl⟩⟩
  have (request : SendRequest) : Keeps (Kept (L := L) p id) Unread
      (update fun w : Shared L => { w with sendLog := w.sendLog ++ [request] }) := Calm.update (fun _ => rfl) fun _ => rfl
  have : Keeps (Kept (L := L) p id) Unread (SCTPSocket.getPathIndexForAddress k a) :=
    (SCTPSocket.reads_getPathIndexForAddress k a).calm
  unfold SCTPSocket.sendAttempt
  dsimp only
  infer_instance

theorem kept_internalSend (hR : L.Reliable) (t : SocketPtr) (buffer : List UInt8) (k : AssocID) (params : SendParams)
    (c : Option ConditionRef) (a : Option SocketAddress) :
    Keeps (Kept p id) Unread (SCTPSocket.internalSend E t buffer k params c a) := by
  have : Keeps (Kept p id) Unread (SCTPSocket.sendAttempt k buffer params a : Act L _) :=
    kept_sendAttempt hR k buffer params a
  have : Keeps (Kept p id) Unread (SCTPSocket.waitForRoom E c) := by
    unfold SCTPSocket.waitForRoom
    cases c <;> infer_instance
  have : Keeps (Kept p id) Unread (SCTPSocket.sendRounds E buffer k params c a) :=
    .loop (fun rest _ => inferInstance) E.patience
  unfold SCTPSocket.internalSend
  infer_instance

theorem kept_sendPreEstablishmentPackets (hR : L.Reliable) (q : AssocPtr) :
    Keeps (Kept p id) Unread (SCTPAssociation.sendPreEstablishmentPackets E q) := by
  have (t : SocketPtr) (buffer : List UInt8) (k : AssocID) (params : SendParams) (c : Option ConditionRef)
      (a : Option SocketAddress) : Keeps (Kept p id) Unread (SCTPSocket.internalSend E t buffer k params c a) :=
    kept_internalSend hR t buffer k params c a
  have (buffer : List UInt8) (params : SendParams) :
      Keeps (Kept p id) Unread (SCTPAssociation.sendTo E q buffer params false none) := by
    unfold SCTPAssociation.sendTo
    infer_instance
  refine .loop (fun rest _ => .seq fun a => ?_) E.patience
  cases a.preEstablishmentPackets <;> infer_instance

end

/-! ## The end of the establishment -/

/-- The association `p` is the one that its socket has for the ID. -/
def Known (p : AssocPtr) (id : AssocID) (s : Shared L) : Prop :=
  ∃ i t o a, L.getInstanceID s.stack id = some i ∧ i ≠ 0 ∧ s.socketList.find i = some t ∧ s.sockets t = some o ∧
    o.associationList.find id = some p ∧ s.associations p = some a ∧ a.isShuttingDown = false

/-- The API's view of the association: its parameters with the maximum RTO `rtoMax`, which the
protocol library has too if the communication is up. -/
def Agrees (p : AssocPtr) (id : AssocID) (rtoMax : Nat) (established : Bool) (s : Shared L) : Prop :=
  ∃ a status, s.view.association p = some a ∧ a.id = id ∧ s.view.status id = some status ∧
    (a.report status).rtoMax = rtoMax ∧ (established → a.userRTOMax = none)

theorem Agrees.kept {rtoMax : Nat} {established : Bool} {w w' : World L} (h : Agrees p id rtoMax established w.shared)
    (hkept : Kept p id w w') : Agrees p id rtoMax established w'.shared := by
  obtain ⟨a, status, ha, hid, hstatus, hreport, hup⟩ := h
  obtain ⟨hassociation, hrtoMax⟩ := hkept
  rw [hstatus] at hrtoMax
  obtain ⟨status', hstatus', heq⟩ := Option.map_eq_some_iff.mp hrtoMax
  refine ⟨a, status', hassociation.trans ha, hid, hstatus', ?_, hup⟩
  rw [← hreport]
  unfold AssociationView.report
  dsimp only
  rw [heq]

/-- `restoreRTOMax` for an association whose maximum RTO is kept. -/
def Shared.restored (s : Shared L) (p : AssocPtr) (id : AssocID) (rtoMax : Nat) : Shared L :=
  Shared.setAssociation
    (match L.getAssocStatus s.stack id with
    | some status => (s.setStatus id { status with rtoMax }).2
    | none => s) p fun a => { a with rtoMaxIsInitTimeout := false }

theorem denotes_restoreRTOMax (hE : E.Instant) (p : AssocPtr) (id : AssocID) :
    Denotes (restoreRTOMax E p id) fun s => (s.associations p).map fun a =>
      ((), if a.rtoMaxIsInitTimeout then s.restored p id a.rtoMax else s) := by
  unfold restoreRTOMax
  have hend (f : Shared L → Shared L) (hf : ∀ s, (f s).associations = s.associations) {x : Act L Unit}
      (hx : Denotes x fun s => some ((), f s)) : Denotes (do
        x
        setAssociation p fun a => { a with rtoMaxIsInitTimeout := false }) fun s => (s.associations p).map fun _ =>
          ((), (f s).setAssociation p fun a => { a with rtoMaxIsInitTimeout := false }) :=
    (hx.bind fun _ => Denotes.setAssociation p _).congr fun s => by
      dsimp only [Option.bind_some]
      rw [hf]
  have hfound (a : SCTPAssociation) (found : Option AssociationStatus) : Denotes (do
      match found with
      | some status => discard (SCTPSocket.setAssocStatus E id { status with rtoMax := a.rtoMax })
      | none => pure ()
      setAssociation p fun a => { a with rtoMaxIsInitTimeout := false }) fun s => (s.associations p).map fun _ =>
        ((), Shared.setAssociation (match found with
          | some status => (s.setStatus id { status with rtoMax := a.rtoMax }).2
          | none => s) p fun a => { a with rtoMaxIsInitTimeout := false }) := by
    cases found with
    | none => exact hend (fun s => s) (fun _ => rfl) (.pure ())
    | some status =>
      have hset := (SCTPSocket.denotes_setAssocStatus hE id { status with rtoMax := a.rtoMax }).discard
      have h := hend (fun s => (s.setStatus id { status with rtoMax := a.rtoMax }).2) (fun _ => rfl) hset
      exact h
  have hstep (a : SCTPAssociation) : Denotes (if a.rtoMaxIsInitTimeout then do
      match ← SCTPSocket.getAssocStatus E id with
      | some status => discard (SCTPSocket.setAssocStatus E id { status with rtoMax := a.rtoMax })
      | none => pure ()
      setAssociation p fun a => { a with rtoMaxIsInitTimeout := false }
      else pure ()) fun s =>
        if a.rtoMaxIsInitTimeout then (s.associations p).map fun _ => ((), s.restored p id a.rtoMax)
        else some ((), s) := by
    by_cases hinit : a.rtoMaxIsInitTimeout
    · simp only [if_pos hinit]
      exact Denotes.bind (SCTPSocket.reads_getAssocStatus hE id) (hfound a)
    · simp only [if_neg hinit]
      exact .pure ()
  refine ((Denotes.associationAt p).bind hstep).congr fun s => ?_
  cases ha : s.associations p with
  | none => rfl
  | some a =>
    dsimp only [Option.map_some, Option.bind_some]
    split
    · rw [ha]
      rfl
    · rfl

section

variable {rtoMax : Nat} {established : Bool} (hL : L.Lawful) (hR : L.Reliable)
include hL hR

theorem agrees_restored {s : Shared L} {a : SCTPAssociation} (ha : s.associations p = some a)
    (hinit : a.rtoMaxIsInitTimeout = true) (h : Agrees p id rtoMax established s) :
    Agrees p id rtoMax true (s.restored p id a.rtoMax) := by
  obtain ⟨v, status, hv, hid, hstatus, hreport, -⟩ := h
  obtain rfl : a.view = v := by
    rw [Shared.view_association, ha] at hv
    exact Option.some.inj hv
  have haccepted : (L.setAssocStatus s.stack id { status with rtoMax := a.rtoMax }).1 = true :=
    hR.setAssocStatus (by rw [show L.getAssocStatus s.stack id = some status from hstatus]; rfl)
  have hset : s.setStatus id { status with rtoMax := a.rtoMax } =
      (true, (s.setStatus id { status with rtoMax := a.rtoMax }).2) := Prod.ext haccepted rfl
  have hrtoMax : a.rtoMax = rtoMax := by
    rw [← hreport]
    unfold AssociationView.report SCTPAssociation.view
    simp only [hinit, if_true, Option.getD_some]
  have hrestored : s.restored p id a.rtoMax = (s.setStatus id { status with rtoMax := a.rtoMax }).2.setAssociation p
      fun a => { a with rtoMaxIsInitTimeout := false } := by
    unfold Shared.restored
    rw [show L.getAssocStatus s.stack id = some status from hstatus]
  rw [hrestored]
  refine ⟨{ id := a.associationID, userRTOMax := none }, { status with rtoMax := a.rtoMax }, ?_, hid, ?_, ?_, fun _ => rfl⟩
  · rw [view_setAssociation]
    refine (Function.update_self ..).trans ?_
    show (s.associations p).map _ = _
    rw [ha]
    rfl
  · rw [view_setAssociation, view_setStatus hL hset]
    exact Function.update_self ..
  · exact hrtoMax

/-- "Correct RTOMax". -/
theorem agrees_restoreRTOMax (hE : E.Instant) {w : World L} (h : Agrees p id rtoMax established w.shared) :
    Post (restoreRTOMax E p id) w (fun _ w' => Agrees p id rtoMax true w'.shared) fun _ _ => True := by
  refine (denotes_restoreRTOMax hE p id w).mono (fun _ w' hw => ?_) fun _ _ _ => trivial
  obtain ⟨a, ha, heq⟩ := Option.map_eq_some_iff.mp hw.1
  rw [← (Prod.mk.inj heq).2]
  split
  · rename_i hinit
    exact agrees_restored hL hR ha hinit h
  · rename_i hinit
    obtain ⟨v, status, hv, hid, hstatus, hreport, -⟩ := h
    refine ⟨v, status, hv, hid, hstatus, hreport, fun _ => ?_⟩
    rw [Shared.view_association, ha] at hv
    obtain rfl := Option.some.inj hv
    unfold SCTPAssociation.view
    simp only [hinit]
    rfl

omit hL hR in
theorem Reads.post {α : Type} {x : Act L α} {g : Shared L → Option α} (h : Reads x g) (w : World L) :
    Post x w (fun a w' => g w.shared = some a ∧ w'.shared = w.shared) fun _ _ => True :=
  (h w).mono (fun a w' hw => by
    obtain ⟨found, hfound, heq⟩ := Option.map_eq_some_iff.mp hw.1
    rw [← (Prod.mk.inj heq).1]
    exact ⟨hfound, (Prod.mk.inj heq).2.symm⟩) fun _ _ _ => trivial

omit hL hR in
theorem initNotification_shared (id : AssocID) (w : World L) :
    Post (initNotification id) w (fun _ w' => w'.shared = w.shared) fun _ _ => True := by
  unfold initNotification
  rw [post_bind, post_shared]
  dsimp only
  cases L.getAssocStatus w.shared.stack id <;> rfl

omit hL hR in
theorem reads_getSocketForAssociationID (id : AssocID) : Reads (L := L) (getSocketForAssociationID id) fun s =>
    some (match L.getInstanceID s.stack id with
      | some i => if i ≠ 0 then s.socketList.find i else none
      | none => none) := by
  have hstep (w : Shared L) (found : Option InstanceID) : Reads (L := L)
      (match found with
      | some i => return (if i ≠ 0 then w.socketList.find i else none)
      | none => return none) fun _ => some (match found with
        | some i => if i ≠ 0 then w.socketList.find i else none
        | none => none) := by
    cases found <;> exact .pure _
  exact Reads.shared.bind fun w => hstep w (L.getInstanceID w.stack id)

omit hL hR in
theorem reads_getAssociationForAssociationID (hE : E.Instant) (t : SocketPtr) (id : AssocID) (activeOnly : Bool) :
    Reads (SCTPSocket.getAssociationForAssociationID E t id activeOnly) fun s => (s.sockets t).bind fun o =>
      match o.associationList.find id with
      | some p => (s.associations p).map fun a => if a.isShuttingDown && activeOnly then none else some p
      | none => some none := by
  have hstep (found : Option AssocPtr) : Reads (L := L)
      (match found with
      | some p => do
        let a ← associationAt p
        return (if a.isShuttingDown && activeOnly then none else some p)
      | none => return none) fun s => match found with
        | some p => (s.associations p).map fun a => if a.isShuttingDown && activeOnly then none else some p
        | none => some none := by
    cases found with
    | none => exact .pure _
    | some p => exact (Reads.associationAt p).bindPure fun a => .pure _
  exact .locked hE ((Reads.socketAt t).bind fun o => hstep (o.associationList.find id))

theorem agrees_establish (hE : E.Instant) {w : World L} (h : Agrees p id rtoMax established w.shared) :
    Post (establish E p id) w (fun _ w' => Agrees p id rtoMax true w'.shared) fun _ _ => True := by
  have := Fact.mk hE
  have : Keeps (Kept p id) Unread (SCTPAssociation.sendPreEstablishmentPackets E p) :=
    kept_sendPreEstablishmentPackets hR p
  have hrest : Keeps (Kept p id) Unread (do
      setAssociation p fun a => { a with communicationUpNotification := true }
      broadcast (.assoc p .establish)
      setAssociation p fun a => { a with writeReady := true, hasException := false, preEstablishmentAddressList := none }
      discard (SCTPAssociation.sendPreEstablishmentPackets E p) : Act L Unit) := inferInstance
  unfold establish
  refine (agrees_restoreRTOMax hL hR hE h).bind fun _ w₁ h₁ => ?_
  exact (hrest.post w₁).mono (fun _ _ hkept => h₁.kept hkept) fun _ _ _ => trivial

theorem agrees_communicationUp (hE : E.Instant) (deliver : Deliver L) (ins outs : Nat) {w : World L}
    (h : Agrees p id rtoMax established w.shared) (hknown : Known p id w.shared) :
    Post (communicationUpNotif E deliver id ins outs) w (fun _ w' => Agrees p id rtoMax true w'.shared)
      fun _ _ => True := by
  have := Fact.mk hE
  obtain ⟨i, t, o, a, hi, hne, ht, ho, hp, ha, hdown⟩ := hknown
  unfold communicationUpNotif upAssociation
  refine (initNotification_shared id w).bind fun notification w₁ h₁ => ?_
  rw [post_bind, post_bind]
  refine ((reads_getSocketForAssociationID id).post w₁).imp fun found w₂ ⟨hfound, h₂⟩ => ?_
  rw [h₁, hi] at hfound
  obtain rfl : some t = found := by
    rw [← Option.some.inj hfound]
    simp only [if_pos hne, ht]
  rw [post_bind]
  refine ((reads_getAssociationForAssociationID hE t id true).post w₂).imp fun found w₃ ⟨hfound, h₃⟩ => ?_
  rw [h₂, h₁, ho] at hfound
  simp only [Option.bind_some, hp, ha, Option.map_some, hdown, Bool.false_and, Bool.false_eq_true, if_false,
    Option.some.injEq] at hfound
  subst hfound
  dsimp only
  rw [post_bind]
  rw [← h₁, ← h₂, ← h₃] at h
  refine (agrees_establish hL hR hE h).imp fun _ w₄ h₄ => ?_
  rw [post_pure]
  dsimp only
  have hrest : Keeps (Kept p id) Unread (addNotification E t id
      { notification with content := assocChange id .commUp outs ins }) := inferInstance
  exact (hrest.post w₄).mono (fun _ _ hkept => h₄.kept hkept) fun _ _ _ => trivial

end

/-! ## Runs -/

/-- What may happen to the parameters of an association. -/
inductive ParamCall (L : Sctplib) where
  | associationGet (E : Environment L)
  | associationSet (E : Environment L) (status : AssociationStatus)
  | socketGet (E : Environment L)
  | socketSet (E : Environment L) (status : AssociationStatus)
  | communicationUp (E : Environment L) (deliver : Deliver L) (noOfInStreams noOfOutStreams : Nat)
  | other (change : World L → World L)

/-- The maximum RTO the user has set last, and whether the communication is up. -/
structure Setting where
  rtoMax : Nat
  established : Bool := false

namespace ParamCall

/-- The calls with the association's own ID, and what they make of the setting. -/
inductive Step (p : AssocPtr) (id : AssocID) : ParamCall L → World L → Setting → World L → Setting → Prop where
  | associationGet {E w w' u answer} (h : SCTPAssociation.getAssocStatus E p w = .ok answer w') :
    Step p id (.associationGet E) w u w' u
  | associationSet {E w w' u status ok} (h : SCTPAssociation.setAssocStatus E p status w = .ok ok w') :
    Step p id (.associationSet E status) w u w' (if ok then { u with rtoMax := status.rtoMax } else u)
  | socketGet {E w w' u answer} (h : SCTPSocket.getAssocStatus E id w = .ok answer w') :
    Step p id (.socketGet E) w u w' u
  | socketSet {E w w' u status ok} (h : SCTPSocket.setAssocStatus E id status w = .ok ok w') :
    Step p id (.socketSet E status) w u w' (if ok then { u with rtoMax := status.rtoMax } else u)
  | communicationUp {E deliver ins outs w w' u} (h : communicationUpNotif E deliver id ins outs w = .ok () w') :
    Step p id (.communicationUp E deliver ins outs) w u w' { u with established := true }
  | other {change w u} : Step p id (.other change) w u (change w) u

/-- The condition on a call: nothing else happens in the middle of it, and over the socket the
maximum RTO is read and written during the establishment only where it makes no difference. -/
def Meets (p : AssocPtr) (id : AssocID) (w : World L) : ParamCall L → Prop
  | .associationGet E => E.Instant
  | .associationSet E _ => E.Instant
  | .socketGet E => E.Instant ∧ ∀ a, w.shared.associations p = some a → a.rtoMaxIsInitTimeout →
      (L.getAssocStatus w.shared.stack id).map (·.rtoMax) = some a.rtoMax
  | .socketSet E status => E.Instant ∧ ∀ a, w.shared.associations p = some a → a.rtoMaxIsInitTimeout →
      status.rtoMax = a.rtoMax
  | .communicationUp E _ _ _ => E.Instant ∧ Known p id w.shared
  | .other change => Kept p id w (change w)

end ParamCall

/-- The states of the runs whose calls all meet the condition. -/
inductive ParamRun (p : AssocPtr) (id : AssocID) (w₀ : World L) (u₀ : Setting) : World L → Setting → Prop where
  | start : ParamRun p id w₀ u₀ w₀ u₀
  | step {call w u w' u'} (hrun : ParamRun p id w₀ u₀ w u) (hmeets : call.Meets p id w)
    (hstep : ParamCall.Step p id call w u w' u') : ParamRun p id w₀ u₀ w' u'

section

variable {w w' : World L} {u u' : Setting} {rtoMax : Nat} {established : Bool}

theorem Agrees.shared_eq (h : Agrees p id rtoMax established w.shared) (hw : w'.shared = w.shared) :
    Agrees p id rtoMax established w'.shared := by
  rwa [hw]

/-- What a get over the association returns. -/
theorem associationGet_answer (hE : E.Instant) (h : Agrees p id rtoMax established w.shared) {answer}
    (hget : SCTPAssociation.getAssocStatus E p w = .ok answer w') :
    answer = (L.getAssocStatus w.shared.stack id).map ({ · with rtoMax }) := by
  obtain ⟨a, status, ha, hid, hstatus, hreport, -⟩ := h
  have hreads := (SCTPAssociation.reads_getAssocStatus hE p).run_iff.mp ⟨w', hget⟩
  rw [ha, Option.map_some, hid, hstatus] at hreads
  rw [← Option.some.inj hreads, show L.getAssocStatus w.shared.stack id = some status from hstatus, ← hreport]
  rfl

/-- What a get over the socket returns. -/
theorem socketGet_answer (h : Agrees p id rtoMax established w.shared)
    (hmeets : (ParamCall.socketGet E).Meets p id w) {answer}
    (hget : SCTPSocket.getAssocStatus E id w = .ok answer w') :
    answer = (L.getAssocStatus w.shared.stack id).map ({ · with rtoMax }) := by
  obtain ⟨hE, hsame⟩ := hmeets
  obtain ⟨a, status, ha, hid, hstatus, hreport, -⟩ := h
  have hreads := (SCTPSocket.reads_getAssocStatus hE id).run_iff.mp ⟨w', hget⟩
  have hstack : L.getAssocStatus w.shared.stack id = some status := hstatus
  rw [hstatus] at hreads
  rw [← Option.some.inj hreads, hstack]
  have hrtoMax : status.rtoMax = rtoMax := by
    rw [← hreport]
    rw [Shared.view_association] at ha
    obtain ⟨b, hb, rfl⟩ := Option.map_eq_some_iff.mp ha
    unfold AssociationView.report SCTPAssociation.view
    by_cases hinit : b.rtoMaxIsInitTimeout
    · have h := hsame b hb hinit
      rw [hstack] at h
      simp only [hinit, if_true, Option.getD_some]
      exact Option.some.inj h
    · simp only [hinit]
      rfl
  rw [← hrtoMax]
  rfl

section

variable (hL : L.Lawful) (hR : L.Reliable)
include hL hR

/-- Parameters that are written over the association. -/
theorem agrees_setAssociationStatus {s s' : Shared L} {a : SCTPAssociation} {status : AssociationStatus} {ok : Bool}
    (ha : s.associations p = some a) (h : Agrees p id rtoMax established s)
    (hset : s.setAssociationStatus p a status = (ok, s')) : ok = true ∧ Agrees p id status.rtoMax established s' := by
  obtain ⟨v, old, hv, hid, hold, -, hup⟩ := h
  rw [Shared.view_association, ha] at hv
  obtain rfl := Option.some.inj hv
  have haccepted (written : AssociationStatus) : (L.setAssocStatus s.stack a.associationID written).1 = true :=
    hR.setAssocStatus (by
      rw [show L.getAssocStatus s.stack a.associationID = some old from by rw [← hold, ← hid]; rfl]
      rfl)
  unfold Shared.setAssociationStatus at hset
  by_cases hinit : a.rtoMaxIsInitTimeout
  · rw [if_pos hinit] at hset
    obtain rfl : true = ok := (haccepted _).symm.trans (Prod.mk.inj hset).1
    refine ⟨rfl, { id := a.associationID, userRTOMax := some status.rtoMax }, { status with rtoMax := a.initTimeout },
      ?_, hid, ?_, rfl, fun hestablished => ?_⟩
    · rw [view_setStatus hL hset, view_setAssociation]
      refine (Function.update_self ..).trans ?_
      rw [ha, Option.map_some]
      unfold SCTPAssociation.view
      simp only [hinit, if_true]
    · rw [view_setStatus hL hset, ← hid]
      exact Function.update_self ..
    · have hnone := hup hestablished
      unfold SCTPAssociation.view at hnone
      simp only [hinit, if_true, reduceCtorEq] at hnone
  · rw [if_neg hinit] at hset
    obtain rfl : true = ok := (haccepted _).symm.trans (Prod.mk.inj hset).1
    refine ⟨rfl, a.view, status, ?_, hid, ?_, ?_, hup⟩
    · rw [view_setStatus hL hset]
      show s.view.association p = _
      rw [Shared.view_association, ha]
      rfl
    · rw [view_setStatus hL hset, ← hid]
      exact Function.update_self ..
    · unfold AssociationView.report SCTPAssociation.view
      simp only [hinit]
      rfl

/-- Parameters that are written over the socket. -/
theorem agrees_setStatus {s s' : Shared L} {status : AssociationStatus} {ok : Bool}
    (hsame : ∀ a, s.associations p = some a → a.rtoMaxIsInitTimeout → status.rtoMax = a.rtoMax)
    (h : Agrees p id rtoMax established s) (hset : s.setStatus id status = (ok, s')) :
    ok = true ∧ Agrees p id status.rtoMax established s' := by
  obtain ⟨v, old, hv, hid, hold, -, hup⟩ := h
  obtain rfl : true = ok := by
    rw [← (Prod.mk.inj hset).1]
    refine (hR.setAssocStatus ?_).symm
    rw [show L.getAssocStatus s.stack id = some old from hold]
    rfl
  refine ⟨rfl, v, status, ?_, hid, ?_, ?_, hup⟩
  · rw [view_setStatus hL hset]
    exact hv
  · rw [view_setStatus hL hset]
    exact Function.update_self ..
  · rw [Shared.view_association] at hv
    obtain ⟨a, ha, rfl⟩ := Option.map_eq_some_iff.mp hv
    unfold AssociationView.report SCTPAssociation.view
    by_cases hinit : a.rtoMaxIsInitTimeout
    · simp only [hinit, if_true, Option.getD_some]
      exact (hsame a ha hinit).symm
    · simp only [hinit]
      rfl

theorem agrees_step {call : ParamCall L} (h : Agrees p id u.rtoMax u.established w.shared)
    (hmeets : call.Meets p id w) (hstep : ParamCall.Step p id call w u w' u') :
    Agrees p id u'.rtoMax u'.established w'.shared := by
  cases hstep with
  | associationGet hget =>
    have hE : Environment.Instant _ := hmeets
    obtain ⟨_, -, heq⟩ := Option.map_eq_some_iff.mp
      (Denotes.ok (SCTPAssociation.reads_getAssocStatus hE p) hget)
    exact h.shared_eq (Prod.mk.inj heq).2.symm
  | socketGet hget =>
    obtain ⟨_, -, heq⟩ := Option.map_eq_some_iff.mp
      (Denotes.ok (SCTPSocket.reads_getAssocStatus hmeets.1 id) hget)
    exact h.shared_eq (Prod.mk.inj heq).2.symm
  | associationSet hset =>
    have hE : Environment.Instant _ := hmeets
    obtain ⟨a, ha, hset⟩ := Option.map_eq_some_iff.mp ((SCTPAssociation.denotes_setAssocStatus hE p _).ok hset)
    obtain ⟨rfl, hagrees⟩ := agrees_setAssociationStatus hL hR ha h hset
    exact hagrees
  | socketSet hset =>
    have hset := Option.some.inj ((SCTPSocket.denotes_setAssocStatus hmeets.1 id _).ok hset)
    obtain ⟨rfl, hagrees⟩ := agrees_setStatus hL hR hmeets.2 h hset
    exact hagrees
  | communicationUp hup => exact (agrees_communicationUp hL hR hmeets.1 _ _ _ h hmeets.2).of_ok hup
  | other => exact h.kept hmeets

theorem agrees_run {w₀ : World L} {u₀ : Setting} (h : Agrees p id u₀.rtoMax u₀.established w₀.shared)
    (hrun : ParamRun p id w₀ u₀ w u) : Agrees p id u.rtoMax u.established w.shared := by
  induction hrun with
  | start => exact h
  | step _ hmeets hstep ih => exact agrees_step hL hR ih hmeets hstep

end

end

/-! ## Associations that are set up -/

/-- The association `p` with the ID `id` has just been set up: by `associate`, which keeps the
default of the instance for it, or for an incoming association. -/
inductive SetUp (p : AssocPtr) (id : AssocID) : Nat → World L → Prop where
  | associate {E t o parameters streams attempts timeout addresses w₀ w a} (hE : E.Instant)
    (ho : w₀.shared.sockets t = some o) (hdefaults : L.getAssocDefaults w₀.shared.stack o.instanceName = some parameters)
    (hrun : SCTPSocket.associateBegin E t streams attempts timeout addresses w₀ = .ok (some p) w)
    (ha : w.shared.associations p = some a) (hid : a.associationID = id) : SetUp p id parameters.rtoMax w
  | incoming {E t flags udpLike w₀ w status} (hE : E.Instant)
    (hrun : SCTPAssociation.new E t id flags udpLike w₀ = .ok p w)
    (hstatus : L.getAssocStatus w.shared.stack id = some status) : SetUp p id status.rtoMax w

section

variable [hE : Fact E.Instant]

theorem post_locked {α : Type} {body : Act L α} {w : World L} {Q : α → OptionView → Prop}
    (h : ∀ w', w'.shared = w.shared → Post body w' (fun a w'' => Q a w''.shared.view) fun _ _ => True) :
    Post (locked E body) w (fun a w' => Q a w'.shared.view) fun _ _ => True := by
  unfold locked
  rw [post_bind, post_lock, post_bind]
  refine (h { w with thread := { w.thread with lockLevel := w.thread.lockLevel + 1 } } rfl).imp fun a w' hw' => ?_
  rw [post_bind]
  have hunlock : Keeps (Still (L := L)) Unread (unlock E) := inferInstance
  refine (hunlock.post w').mono (fun _ w'' hstill => ?_) fun _ _ _ => trivial
  rw [post_pure, hstill.1]
  exact hw'

/-- A new association runs with the parameters of the protocol library. -/
theorem post_new (t : SocketPtr) (k : AssocID) (flags : NotificationFlags) (udpLike : Bool) (w : World L) :
    Post (SCTPAssociation.new E t k flags udpLike) w
      (fun q w' => w'.shared.view.association q = some { id := k, userRTOMax := none } ∧
        w'.shared.view.status = w.shared.view.status) fun _ _ => True := by
  have (q : AssocPtr) : Keeps (Still (L := L)) Unread (setSocket t fun o =>
      { o with associationList := o.associationList.insert k q }) := Calm.setSocket t fun _ => rfl
  unfold SCTPAssociation.new
  rw [post_bind, post_shared]
  dsimp only
  rw [post_bind, post_update, post_bind]
  have hlist : Keeps (Still (L := L)) Unread (locked E (setSocket t fun o =>
      { o with associationList := o.associationList.insert k w.shared.nextAssociation })) := inferInstance
  refine (hlist.post _).mono (fun _ w' hstill => ?_) fun _ _ _ => trivial
  rw [post_pure, hstill.1]
  refine ⟨?_, rfl⟩
  show (Function.update w.shared.associations w.shared.nextAssociation (some _) w.shared.nextAssociation).map _ = _
  rw [Function.update_self]
  rfl

theorem post_setAssocDefaults (hL : L.Lawful) (t : SocketPtr) (parameters : InstanceParameters) (w : World L) :
    Post (SCTPSocket.setAssocDefaults E t parameters) w (fun _ w' => w'.shared.view.status = w.shared.view.status)
      fun _ _ => True := by
  refine (SCTPSocket.denotes_setAssocDefaults hE.out t parameters w).mono (fun ok w' hw => ?_) fun _ _ _ => trivial
  obtain ⟨o, -, heq⟩ := Option.map_eq_some_iff.mp hw.1
  obtain ⟨-, hw'⟩ := Prod.mk.inj heq
  rw [← hw']
  have hset := hL.setAssocDefaults (Prod.mk.eta (p := L.setAssocDefaults w.shared.stack o.instanceName parameters)).symm
  show (L.settings (L.setAssocDefaults w.shared.stack o.instanceName parameters).2).status = _
  rw [hset]
  split <;> rfl

theorem post_associateID (hL : L.Lawful) (hR : L.Reliable) {t : SocketPtr} {o : SCTPSocket}
    {parameters : InstanceParameters} {w : World L} (ho : w.shared.sockets t = some o)
    (hdefaults : L.getAssocDefaults w.shared.stack o.instanceName = some parameters)
    (streams attempts timeout : Nat) (addresses : List SocketAddress) :
    Post (SCTPSocket.associateID E t streams attempts timeout addresses) w
      (fun r w' => r.2 = parameters ∧ (r.1 ≠ 0 → (w'.shared.view.status r.1).isSome)) fun _ _ => True := by
  unfold SCTPSocket.associateID
  refine ((SCTPSocket.reads_getAssocDefaults hE.out t).post w).bind fun defaults w₁ ⟨hfound, _⟩ => ?_
  obtain rfl : some parameters = defaults := by
    rw [Shared.view_socket, ho] at hfound
    exact hdefaults.symm.trans (Option.some.inj hfound)
  simp only [Option.isSome_some, if_true, Option.getD_some]
  rw [post_bind]
  refine post_true.mono (fun _ w₂ _ => ?_) fun _ _ _ => trivial
  rw [post_bind]
  refine post_true.mono (fun o' w₃ _ => ?_) fun _ _ _ => trivial
  have hrest (k : AssocID) (w₄ : World L) (hk : k ≠ 0 → (w₄.shared.view.status k).isSome) : Post (do
      discard (SCTPSocket.setAssocDefaults E t parameters)
      return (k, parameters)) w₄
      (fun r w' => r.2 = parameters ∧ (r.1 ≠ 0 → (w'.shared.view.status r.1).isSome)) fun _ _ => True := by
    rw [post_bind, post_discard]
    refine (post_setAssocDefaults hL t parameters w₄).imp fun _ w₅ h₅ => ?_
    rw [post_pure, h₅]
    exact ⟨rfl, hk⟩
  split
  · exact hrest 0 w₃ fun hne => absurd rfl hne
  · rw [post_bind]
    exact hrest _ _ fun hne => hR.associatex rfl hne

theorem agrees_associateBegin (hL : L.Lawful) (hR : L.Reliable) {t : SocketPtr} {o : SCTPSocket}
    {parameters : InstanceParameters} {w : World L} (ho : w.shared.sockets t = some o)
    (hdefaults : L.getAssocDefaults w.shared.stack o.instanceName = some parameters)
    (streams attempts timeout : Nat) (addresses : List SocketAddress) :
    Post (SCTPSocket.associateBegin E t streams attempts timeout addresses) w
      (fun found w' => ∀ q ∈ found, ∃ k, w'.shared.view.association q =
        some { id := k, userRTOMax := some parameters.rtoMax } ∧ (w'.shared.view.status k).isSome) fun _ _ => True := by
  unfold SCTPSocket.associateBegin
  refine post_locked (Q := fun found v => ∀ q ∈ found, ∃ k, v.association q =
    some { id := k, userRTOMax := some parameters.rtoMax } ∧ (v.status k).isSome) fun w₁ h₁ => ?_
  rw [← h₁] at ho hdefaults
  refine (post_associateID hL hR ho hdefaults streams attempts timeout addresses).bind fun created w₂ ⟨hparameters, hid⟩ => ?_
  split
  · exact nofun
  rename_i hne
  split
  · rw [post_bind]
    refine post_true.mono (fun _ w₃ _ => ?_) fun _ _ _ => trivial
    rw [post_bind]
    exact post_true.mono (fun _ w₄ _ => nofun) fun _ _ _ => trivial
  rw [post_bind]
  refine ((Reads.socketAt t).post w₂).imp fun o' w₃ ⟨_, h₃⟩ => ?_
  refine (post_new t created.1 o'.notificationFlags o'.flags.globalQueue w₃).bind fun q w₄ ⟨hq, hstatus⟩ => ?_
  unfold hold enter
  simp only [post_bind, post_update, post_setAssociation]
  have hq' : (w₄.shared.associations q).map SCTPAssociation.view = some { id := created.1, userRTOMax := none } := hq
  obtain ⟨a, ha, hview⟩ := Option.map_eq_some_iff.mp hq'
  rw [ha]
  dsimp only
  rw [post_pure]
  rintro q' ⟨⟩
  refine ⟨created.1, ?_, ?_⟩
  · rw [view_setAssociation]
    refine (Function.update_self ..).trans ?_
    show (w₄.shared.associations q).map _ = _
    rw [ha, Option.map_some, hparameters]
    have hid' : a.associationID = created.1 := congrArg AssociationView.id hview
    unfold SCTPAssociation.view
    simp only [if_true, hid']
  · show (w₄.shared.view.status created.1).isSome
    rw [hstatus, h₃]
    exact hid hne

end

theorem setUp_agrees (hL : L.Lawful) (hR : L.Reliable) {rtoMax : Nat} {w : World L} (h : SetUp p id rtoMax w) :
    Agrees p id rtoMax false w.shared := by
  cases h with
  | associate hE ho hdefaults hrun ha hid =>
    have := Fact.mk hE
    obtain ⟨k, hview, hstatus⟩ := (agrees_associateBegin hL hR ho hdefaults _ _ _ _).of_ok hrun p rfl
    obtain ⟨status, hstatus⟩ := Option.isSome_iff_exists.mp hstatus
    rw [Shared.view_association, ha] at hview
    obtain rfl : k = id := (congrArg AssociationView.id (Option.some.inj hview)).symm.trans hid
    refine ⟨{ id := k, userRTOMax := some _ }, status, ?_, rfl, hstatus, rfl, Bool.noConfusion⟩
    rw [Shared.view_association, ha]
    exact hview
  | incoming hE hrun hstatus =>
    have := Fact.mk hE
    obtain ⟨hview, -⟩ := (post_new _ _ _ _ _).of_ok hrun
    exact ⟨_, _, hview, rfl, hstatus, rfl, Bool.noConfusion⟩

/-- In every state of a run whose calls meet the condition, both ways of getting the parameters
report the maximum RTO that was set last, and once the communication is up the protocol
library has it. -/
theorem reported_rtoMax (hL : L.Lawful) (hR : L.Reliable) {rtoMax : Nat} {w₀ w : World L} {u : Setting}
    (hsetUp : SetUp p id rtoMax w₀) (hrun : ParamRun p id w₀ { rtoMax } w u) :
    (∀ E answer w', (ParamCall.associationGet E).Meets p id w → SCTPAssociation.getAssocStatus E p w = .ok answer w' →
      answer = (L.getAssocStatus w.shared.stack id).map ({ · with rtoMax := u.rtoMax })) ∧
    (∀ E answer w', (ParamCall.socketGet E).Meets p id w → SCTPSocket.getAssocStatus E id w = .ok answer w' →
      answer = (L.getAssocStatus w.shared.stack id).map ({ · with rtoMax := u.rtoMax })) ∧
    (u.established → (L.getAssocStatus w.shared.stack id).map (·.rtoMax) = some u.rtoMax) := by
  have hagrees : Agrees p id u.rtoMax u.established w.shared := agrees_run hL hR (setUp_agrees hL hR hsetUp) hrun
  refine ⟨fun E answer w' hE hget => associationGet_answer hE hagrees hget,
    fun E answer w' hmeets hget => socketGet_answer hagrees hmeets hget, fun hestablished => ?_⟩
  obtain ⟨a, status, -, -, hstatus, hreport, hup⟩ := hagrees
  rw [show L.getAssocStatus w.shared.stack id = some status from hstatus, ← hreport]
  unfold AssociationView.report
  rw [hup hestablished]
  rfl

/-! ## An association that is set up by `associate` -/

/-- A table whose associations start with the defaults of their instance, and have the ID 1. -/
def Sctplib.starting : Sctplib :=
  { Sctplib.table with
    getInstanceID := fun _ _ => some 1
    associatex := fun s i _ _ _ =>
      (1, { s with status := Function.update s.status 1 (some { rtoMax := ((s.defaults i).map (·.rtoMax)).getD 0 }) }) }

theorem starting_lawful : Sctplib.starting.Lawful where
  setAssocStatus h := table_lawful.setAssocStatus h
  setAssocDefaults h := table_lawful.setAssocDefaults h
  requestHeartbeat h := table_lawful.requestHeartbeat h
  changeHeartBeat h := table_lawful.changeHeartBeat h
  setPrimary h := table_lawful.setPrimary h

theorem starting_reliable : Sctplib.starting.Reliable where
  setAssocStatus {s id status} h := by
    show (if (Settings.status s id).isSome then _ else _ : Bool × Settings).1 = true
    split
    · rfl
    · contradiction
  associatex {s i streams addresses port id s'} h hne := by
    obtain ⟨rfl, rfl⟩ := Prod.mk.inj h
    show (Function.update (Settings.status s) 1 _ 1).isSome
    rw [Function.update_self]
    rfl
  send {s request result s'} id h := by
    obtain ⟨-, rfl⟩ := Prod.mk.inj h
    rfl

/-- A bound socket whose associations have a maximum RTO of 60 seconds. -/
def bound : World Sctplib.starting where
  shared := {
    stack := ({ status := fun _ => none, defaults := fun _ => some { rtoMax := 60000 }, path := fun _ _ => none
                primary := fun _ => 0 } : Settings)
    sockets := fun t => if t = 0 then some { instanceName := 1 } else none
    socketList := [(1, 0)] }

theorem bound_defaults : Sctplib.starting.getAssocDefaults bound.shared.stack 1 = some { rtoMax := 60000 } := rfl

def quiet : Environment Sctplib.starting := {}

theorem quiet_instant : quiet.Instant := fun _ _ => rfl

theorem known_of {s : Shared Sctplib.starting} (hlist : s.socketList.find 1 = some 0)
    (hfind : (s.sockets 0).bind (·.associationList.find 1) = some 0)
    (hup : (s.associations 0).map (·.isShuttingDown) = some false) : Known 0 1 s := by
  obtain ⟨o, ho, hfind⟩ := Option.bind_eq_some_iff.mp hfind
  obtain ⟨a, ha, hup⟩ := Option.map_eq_some_iff.mp hup
  exact ⟨1, 0, o, a, rfl, by decide, hlist, ho, hfind, ha, hup⟩

/-- The maximum RTO that is set during the establishment is in force after it. -/
theorem reported_rtoMax_associate : ∃ w₀ w, SetUp 0 1 60000 w₀ ∧ ParamRun 0 1 w₀ { rtoMax := 60000 } w
      { rtoMax := 9000, established := true } ∧
    (Sctplib.starting.getAssocStatus w.shared.stack 1).map (·.rtoMax) = some 9000 := by
  have h : Post (SCTPSocket.associateBegin quiet 0 1 4 5000 [⟨"10.0.0.2", 7⟩]) bound (fun found w₀ =>
      found = some 0 ∧ (w₀.shared.associations 0).map (·.associationID) = some 1 ∧
      Post (SCTPAssociation.setAssocStatus quiet 0 { rtoMax := 9000 }) w₀ (fun ok w₁ => ok = true ∧
        w₁.shared.socketList.find 1 = some 0 ∧ (w₁.shared.sockets 0).bind (·.associationList.find 1) = some 0 ∧
        (w₁.shared.associations 0).map (·.isShuttingDown) = some false ∧
        Post (communicationUpNotif quiet (fun _ _ => pure ()) 1 1 1) w₁ (fun _ _ => True) fun _ _ => False)
        fun _ _ => False) fun _ _ => False := by
    decide +kernel
  obtain ⟨found, w₀, hbegin, rfl, hid, h⟩ := h.exists_ok
  obtain ⟨ok, w₁, hset, rfl, hlist, hfind, hshut, h⟩ := h.exists_ok
  obtain ⟨_, w₂, hup, -⟩ := h.exists_ok
  obtain ⟨a, ha, hid⟩ := Option.map_eq_some_iff.mp hid
  have hsetUp : SetUp 0 1 60000 w₀ := .associate quiet_instant rfl bound_defaults hbegin ha hid
  have hsetMeets : (ParamCall.associationSet quiet { rtoMax := 9000 }).Meets 0 1 w₀ := quiet_instant
  have hupMeets : (ParamCall.communicationUp quiet (fun _ _ => pure ()) 1 1).Meets 0 1 w₁ :=
    ⟨quiet_instant, known_of hlist hfind hshut⟩
  have hrun : ParamRun 0 1 w₀ { rtoMax := 60000 } w₂ { rtoMax := 9000, established := true } :=
    .step (.step .start hsetMeets (.associationSet hset)) hupMeets (.communicationUp hup)
  exact ⟨w₀, w₂, hsetUp, hrun, (reported_rtoMax starting_lawful starting_reliable hsetUp hrun).2.2 rfl⟩

/-- Over the socket the timeout for INIT is reported. -/
theorem socketGet_reports_initTimeout : ∃ w₀ w₁ w₂ status status', SetUp 0 1 60000 w₀ ∧
    SCTPAssociation.getAssocStatus quiet 0 w₀ = .ok (some status) w₁ ∧ status.rtoMax = 60000 ∧
    SCTPSocket.getAssocStatus quiet 1 w₁ = .ok (some status') w₂ ∧ status'.rtoMax = 5000 := by
  have h : Post (SCTPSocket.associateBegin quiet 0 1 4 5000 [⟨"10.0.0.2", 7⟩]) bound (fun found w₀ =>
      found = some 0 ∧ (w₀.shared.associations 0).map (·.associationID) = some 1 ∧
      Post (SCTPAssociation.getAssocStatus quiet 0) w₀ (fun answer w₁ => answer = some { rtoMax := 60000 } ∧
        Post (SCTPSocket.getAssocStatus quiet 1) w₁ (fun answer _ => answer = some { rtoMax := 5000 })
        fun _ _ => False) fun _ _ => False) fun _ _ => False := by
    decide +kernel
  obtain ⟨found, w₀, hbegin, rfl, hid, h⟩ := h.exists_ok
  obtain ⟨answer, w₁, hget, rfl, h⟩ := h.exists_ok
  obtain ⟨answer', w₂, hget', rfl⟩ := h.exists_ok
  obtain ⟨a, ha, hid⟩ := Option.map_eq_some_iff.mp hid
  exact ⟨w₀, w₁, w₂, _, _, .associate quiet_instant rfl bound_defaults hbegin ha hid,
    hget, rfl, hget', rfl⟩

end SocketApi
