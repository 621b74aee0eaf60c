import SocketApi.Frame.Inside

/-!
# What a receive does with the head of its queue

The branches of `internalReceive` as functions of the state: what each returns, and which queue,
use count and library state it leaves. All else it changes are times and readiness flags.
-/

namespace SocketApi

open Effect SCTPSocket

variable {L : Sctplib} {E : Environment L} {w : World L}

/-! ## Queues -/

def Shared.queue (w : Shared L) : QueueRef → Option SCTPNotificationQueue
  | .global s => (w.sockets s).map (·.globalQueue)
  | .inQueue p => (w.associations p).map (·.inQueue)

def Shared.modifyQueue (w : Shared L) (f : SCTPNotificationQueue → SCTPNotificationQueue) : QueueRef → Shared L
  | .global s => w.setSocket s fun o => { o with globalQueue := f o.globalQueue }
  | .inQueue p => w.setAssociation p fun a => { a with inQueue := f a.inQueue }

theorem Shared.queue_modifyQueue (w : Shared L) (f : SCTPNotificationQueue → SCTPNotificationQueue) (queue : QueueRef) :
    (w.modifyQueue f queue).queue queue = (w.queue queue).map f := by
  cases queue with
  | global s => simp [queue, modifyQueue, setSocket, Option.map_map, Function.comp_def]
  | inQueue p => simp [queue, modifyQueue, setAssociation, Option.map_map, Function.comp_def]

@[simp] theorem stack_modifyQueue (w : Shared L) (f : SCTPNotificationQueue → SCTPNotificationQueue)
    (queue : QueueRef) :
    (w.modifyQueue f queue).stack = w.stack := by
  cases queue <;> rfl

@[simp] theorem Shared.queue_withStack (w : Shared L) (stack : L.State) (queue : QueueRef) :
    (w.withStack stack).queue queue = w.queue queue := by
  cases queue <;> rfl

theorem runs_queueGet {queue : QueueRef} {q : SCTPNotificationQueue} (hq : w.shared.queue queue = some q) :
    Runs queue.get w q w := by
  cases queue with
  | global s =>
    obtain ⟨o, ho, rfl⟩ := Option.map_eq_some_iff.mp hq
    exact .bind (runs_socketAt ho) (.pure _ _)
  | inQueue p =>
    obtain ⟨a, ha, rfl⟩ := Option.map_eq_some_iff.mp hq
    exact .bind (runs_associationAt ha) (.pure _ _)

theorem runs_queueModify {queue : QueueRef} {q : SCTPNotificationQueue} (hq : w.shared.queue queue = some q)
    (f : SCTPNotificationQueue → SCTPNotificationQueue) :
    Runs (queue.modify f) w () (w.with (w.shared.modifyQueue f queue)) := by
  cases queue with
  | global s =>
    obtain ⟨o, ho, -⟩ := Option.map_eq_some_iff.mp hq
    exact runs_setSocket ho _
  | inQueue p =>
    obtain ⟨a, ha, -⟩ := Option.map_eq_some_iff.mp hq
    exact runs_setAssociation ha _

/-! ## Parts of the state -/

/-- The state with only a part of each object. -/
def Shared.through (w : Shared L) (fo : SCTPSocket → SCTPSocket) (fa : SCTPAssociation → SCTPAssociation) : Shared L :=
  { w with sockets := fun s => (w.sockets s).map fo, associations := fun p => (w.associations p).map fa }

section

variable {s t : Shared L} {fo : SCTPSocket → SCTPSocket} {fa : SCTPAssociation → SCTPAssociation}

theorem through_through (go : SCTPSocket → SCTPSocket) (ga : SCTPAssociation → SCTPAssociation) :
    (s.through fo fa).through go ga = s.through (go ∘ fo) (ga ∘ fa) := by
  simp [Shared.through, Option.map_map]

theorem through_setAssociation {p : AssocPtr} {f : SCTPAssociation → SCTPAssociation} (hf : ∀ a, fa (f a) = fa a) :
    (s.setAssociation p f).through fo fa = s.through fo fa := by
  have h : (fun q => (Function.update s.associations p ((s.associations p).map f) q).map fa) =
      fun q => (s.associations q).map fa := by
    funext q
    rw [Function.update_apply]
    split
    · subst q
      cases s.associations p with
      | none => rfl
      | some a => exact congrArg some (hf a)
    · rfl
  simp only [Shared.through, Shared.setAssociation, h]

theorem through_setSocket {k : SocketPtr} {f : SCTPSocket → SCTPSocket} (hf : ∀ o, fo (f o) = fo o) :
    (s.setSocket k f).through fo fa = s.through fo fa := by
  have h : (fun q => (Function.update s.sockets k ((s.sockets k).map f) q).map fo) =
      fun q => (s.sockets q).map fo := by
    funext q
    rw [Function.update_apply]
    split
    · subst q
      cases s.sockets k with
      | none => rfl
      | some o => exact congrArg some (hf o)
    · rfl
  simp only [Shared.through, Shared.setSocket, h]

theorem through_socket (h : (s.through fo fa).sockets = (t.through fo fa).sockets) {k : SocketPtr} {o : SCTPSocket}
    (ho : t.sockets k = some o) : ∃ o', s.sockets k = some o' ∧ fo o' = fo o := by
  have hk : (s.sockets k).map fo = (t.sockets k).map fo := congrFun h k
  rw [ho] at hk
  exact Option.map_eq_some_iff.mp hk

theorem through_association (h : (s.through fo fa).associations = (t.through fo fa).associations) {p : AssocPtr}
    {a : SCTPAssociation} (ha : t.associations p = some a) : ∃ a', s.associations p = some a' ∧ fa a' = fa a := by
  have hp : (s.associations p).map fa = (t.associations p).map fa := congrFun h p
  rw [ha] at hp
  exact Option.map_eq_some_iff.mp hp

end

/-! ## What receiving changes in objects -/

def SCTPAssociation.seen (a : SCTPAssociation) : SCTPAssociation :=
  { a with lastUsage := 0, readReady := false, hasException := false }

def SCTPSocket.seen (o : SCTPSocket) : SCTPSocket := { o with readReady := false }

/-- The state without times of use and the flags that mark readiness. -/
def Shared.seen (w : Shared L) : Shared L := w.through SCTPSocket.seen SCTPAssociation.seen

def SCTPAssociation.shape (a : SCTPAssociation) : SCTPAssociation := { a.seen with inQueue := [], useCount := 0 }

def SCTPSocket.shape (o : SCTPSocket) : SCTPSocket := { o.seen with globalQueue := [] }

/-- The objects are the same but for queues, use counts and what `seen` leaves out. -/
structure SameShape (s t : Shared L) : Prop where
  sockets : (s.through SCTPSocket.shape SCTPAssociation.shape).sockets =
    (t.through SCTPSocket.shape SCTPAssociation.shape).sockets
  associations : (s.through SCTPSocket.shape SCTPAssociation.shape).associations =
    (t.through SCTPSocket.shape SCTPAssociation.shape).associations

section

variable {s t u : Shared L}

theorem SameShape.refl (s : Shared L) : SameShape s s := ⟨rfl, rfl⟩

theorem SameShape.symm (h : SameShape s t) : SameShape t s := ⟨h.sockets.symm, h.associations.symm⟩

theorem SameShape.trans (h : SameShape s t) (h' : SameShape t u) : SameShape s u :=
  ⟨h.sockets.trans h'.sockets, h.associations.trans h'.associations⟩

theorem SameShape.of_through
    (h : s.through SCTPSocket.shape SCTPAssociation.shape = t.through SCTPSocket.shape SCTPAssociation.shape) :
    SameShape s t := by
  constructor <;> rw [h]

theorem shape_seen : s.seen.through SCTPSocket.shape SCTPAssociation.shape =
    s.through SCTPSocket.shape SCTPAssociation.shape := by
  rw [Shared.seen, through_through]
  rfl

theorem SameShape.of_seen (h : s.seen = t.seen) : SameShape s t :=
  .of_through (by rw [← shape_seen, h, shape_seen])

theorem through_modifyQueue (f : SCTPNotificationQueue → SCTPNotificationQueue) (queue : QueueRef) :
    (s.modifyQueue f queue).through (fun o => { o with globalQueue := [] }) (fun a => { a with inQueue := [] }) =
      s.through (fun o => { o with globalQueue := [] }) fun a => { a with inQueue := [] } := by
  cases queue with
  | global k => exact through_setSocket fun _ => rfl
  | inQueue p => exact through_setAssociation fun _ => rfl

theorem sameShape_modifyQueue (f : SCTPNotificationQueue → SCTPNotificationQueue) (queue : QueueRef) :
    SameShape (s.modifyQueue f queue) s := by
  cases queue with
  | global k => exact .of_through (through_setSocket fun _ => rfl)
  | inQueue p => exact .of_through (through_setAssociation fun _ => rfl)

/-- The socket in the other state finds the same associations. -/
theorem SameShape.socket (h : SameShape s t) {k : SocketPtr} {o : SCTPSocket} (ho : t.sockets k = some o) :
    ∃ o', s.sockets k = some o' ∧ o'.shape = o.shape := through_socket h.sockets ho

theorem SameShape.association (h : SameShape s t) {p : AssocPtr} {a : SCTPAssociation}
    (ha : t.associations p = some a) :
    ∃ a', s.associations p = some a' ∧ a'.shape = a.shape := through_association h.associations ha

theorem SCTPSocket.associationList_eq {o o' : SCTPSocket} (h : o'.shape = o.shape) :
    o'.associationList = o.associationList := congrArg (·.associationList) h

theorem Live.sameShape {k : SocketPtr} (hlive : Live t k) (h : SameShape s t) : Live s k := by
  intro o id p ho hp
  obtain ⟨o', ho', hshape⟩ := h.symm.socket ho
  rw [← SCTPSocket.associationList_eq hshape] at hp
  obtain ⟨a, ha⟩ := Option.isSome_iff_exists.mp (hlive o' id p ho' hp)
  obtain ⟨a', ha', -⟩ := h.association ha
  exact Option.isSome_iff_exists.mpr ⟨a', ha'⟩

theorem seen_afterErrorCode (o : SCTPSocket) (id : AssocID) : (s.afterErrorCode o id).seen = s.seen := by
  unfold Shared.afterErrorCode
  split
  · split
    · rfl
    · exact through_setAssociation fun _ => rfl
  · rfl

theorem seen_stack (h : s.seen = t.seen) : s.stack = t.stack := by
  change s.seen.stack = t.seen.stack
  rw [h]

theorem queue_seen (queue : QueueRef) : s.seen.queue queue = s.queue queue := by
  cases queue with
  | global k =>
    simp [Shared.queue, Shared.seen, Shared.through, SCTPSocket.seen, Option.map_map, Function.comp_def]
  | inQueue p =>
    simp [Shared.queue, Shared.seen, Shared.through, SCTPAssociation.seen, Option.map_map, Function.comp_def]

theorem seen_queue (h : s.seen = t.seen) (queue : QueueRef) : s.queue queue = t.queue queue := by
  rw [← queue_seen, h, queue_seen]

end

/-- Two states that are seen alike differ in their objects only. -/
theorem seen_rest {s t : Shared L} (h : s.seen = t.seen) :
    s = { t with sockets := s.sockets, associations := s.associations } := by
  obtain ⟨⟩ := s
  obtain ⟨⟩ := t
  simp only [Shared.seen, Shared.through, Shared.mk.injEq] at h ⊢
  simp [h]

/-- A change of an association that does not depend on what `seen` leaves out. -/
theorem seen_setAssociation {s t : Shared L} (h : s.seen = t.seen) (p : AssocPtr)
    {f : SCTPAssociation → SCTPAssociation} (hf : ∀ a b, a.seen = b.seen → (f a).seen = (f b).seen) :
    (s.setAssociation p f).seen = (t.setAssociation p f).seen := by
  have hassoc : ∀ q, (s.associations q).map SCTPAssociation.seen = (t.associations q).map SCTPAssociation.seen :=
    congrFun (congrArg Shared.associations h)
  have hsockets := congrArg Shared.sockets h
  rw [seen_rest h]
  simp only [Shared.seen, Shared.through, Shared.setAssociation, Shared.mk.injEq, true_and, and_true] at hsockets ⊢
  refine ⟨hsockets, ?_⟩
  funext q
  rw [Function.update_apply, Function.update_apply]
  split
  · subst q
    have hp := hassoc p
    rcases hs : s.associations p with _ | a <;> rcases ht : t.associations p with _ | b <;> simp only [hs, ht] at hp
    · rfl
    · simp at hp
    · simp at hp
    · exact congrArg some (hf a b (Option.some.inj hp))
  · exact hassoc q

theorem seen_setSocket {s t : Shared L} (h : s.seen = t.seen) (k : SocketPtr)
    {f : SCTPSocket → SCTPSocket} (hf : ∀ a b, a.seen = b.seen → (f a).seen = (f b).seen) :
    (s.setSocket k f).seen = (t.setSocket k f).seen := by
  have hsocket : ∀ q, (s.sockets q).map SCTPSocket.seen = (t.sockets q).map SCTPSocket.seen :=
    congrFun (congrArg Shared.sockets h)
  have hassocs := congrArg Shared.associations h
  rw [seen_rest h]
  simp only [Shared.seen, Shared.through, Shared.setSocket, Shared.mk.injEq, true_and, and_true] at hassocs ⊢
  refine ⟨?_, hassocs⟩
  funext q
  rw [Function.update_apply, Function.update_apply]
  split
  · subst q
    have hp := hsocket k
    rcases hs : s.sockets k with _ | a <;> rcases ht : t.sockets k with _ | b <;> simp only [hs, ht] at hp
    · rfl
    · simp at hp
    · simp at hp
    · exact congrArg some (hf a b (Option.some.inj hp))
  · exact hsocket q

theorem seen_modifyQueue {s t : Shared L} (h : s.seen = t.seen) (f : SCTPNotificationQueue → SCTPNotificationQueue)
    (queue : QueueRef) : (s.modifyQueue f queue).seen = (t.modifyQueue f queue).seen := by
  cases queue with
  | global k =>
    exact seen_setSocket h k fun a b h => congrArg (fun c : SCTPSocket => { c with globalQueue := f c.globalQueue }) h
  | inQueue p =>
    exact seen_setAssociation h p fun a b h => congrArg (fun c : SCTPAssociation => { c with inQueue := f c.inQueue }) h

/-! ## Dropping the head -/

/-- One use of the association of the ID less. -/
def Shared.lessUse (w : Shared L) (o : SCTPSocket) (id : AssocID) : Shared L :=
  match o.associationList.find id with
  | some p => w.setAssociation p fun a => { a with useCount := a.useCount - 1 }
  | none => w

/-- The association of the ID has a use to give up, if there is one. -/
def Shared.InUse (w : Shared L) (o : SCTPSocket) (id : AssocID) : Prop :=
  ∀ p a, o.associationList.find id = some p → w.associations p = some a → 0 < a.useCount

theorem seen_lessUse {s t : Shared L} (h : s.seen = t.seen) {o o' : SCTPSocket}
    (hlist : o.associationList = o'.associationList) (id : AssocID) :
    (s.lessUse o id).seen = (t.lessUse o' id).seen := by
  unfold Shared.lessUse
  rw [hlist]
  split
  · exact seen_setAssociation h _ fun a b h => congrArg (fun c : SCTPAssociation => { c with useCount := c.useCount - 1 }) h
  · exact h

theorem inUse_of_counts {s t : Shared L} {o o' : SCTPSocket} {id : AssocID}
    (hcount : ∀ p, (s.associations p).map (·.useCount) = (t.associations p).map (·.useCount))
    (hlist : o'.associationList = o.associationList) (huse : t.InUse o id) : s.InUse o' id := by
  intro p a hp ha
  have hp' := hcount p
  rw [ha] at hp'
  obtain ⟨b, hb, hab⟩ := Option.map_eq_some_iff.mp hp'.symm
  have hpos := huse p b (hlist ▸ hp) hb
  have hab : b.useCount = a.useCount := hab
  omega

theorem useCount_seen {s t : Shared L} (h : s.seen = t.seen) (p : AssocPtr) :
    (s.associations p).map (·.useCount) = (t.associations p).map (·.useCount) := by
  have hp : (s.associations p).map SCTPAssociation.seen = (t.associations p).map SCTPAssociation.seen :=
    congrFun (congrArg Shared.associations h) p
  have hcount := congrArg (Option.map SCTPAssociation.useCount) hp
  rw [Option.map_map, Option.map_map] at hcount
  exact hcount

theorem useCount_modifyQueue (t : Shared L) (f : SCTPNotificationQueue → SCTPNotificationQueue) (queue : QueueRef)
    (p : AssocPtr) : ((t.modifyQueue f queue).associations p).map (·.useCount) = (t.associations p).map (·.useCount) := by
  have hp := congrFun (congrArg Shared.associations (through_modifyQueue (s := t) f queue)) p
  have hcount := congrArg (Option.map SCTPAssociation.useCount) hp
  simp only [Shared.through, Option.map_map] at hcount
  exact hcount

theorem Shared.InUse.seen {s t : Shared L} {o o' : SCTPSocket} {id : AssocID} (huse : t.InUse o id)
    (h : s.seen = t.seen) (hlist : o'.associationList = o.associationList) : s.InUse o' id :=
  inUse_of_counts (useCount_seen h) hlist huse

section

variable {s : SocketPtr} {o : SCTPSocket} {queue : QueueRef} {q : SCTPNotificationQueue} {id : AssocID}

theorem inside_setAssociation {p : AssocPtr} {a : SCTPAssociation} (ha : w.shared.associations p = some a)
    {f : SCTPAssociation → SCTPAssociation} (hf : ∀ a, (f a).seen = a.seen) :
    Inside (setAssociation p f) w fun _ t => t.seen = w.shared.seen :=
  inside_iff.mpr ⟨(), _, runs_setAssociation ha f, through_setAssociation hf⟩

theorem inside_setSocket (ho : w.shared.sockets s = some o) {f : SCTPSocket → SCTPSocket}
    (hf : ∀ o, (f o).seen = o.seen) : Inside (setSocket s f) w fun _ t => t.seen = w.shared.seen :=
  inside_iff.mpr ⟨(), _, runs_setSocket ho f, through_setSocket hf⟩

/-- The end of `dropHead`, which marks whether the socket is ready. -/
theorem inside_markSocket (hl : 0 < w.thread.lockLevel) (ho : w.shared.sockets s = some o) :
    Inside (do
      let data ← SCTPSocket.hasData E s
      setSocket s fun o => { o with readReady := data || !o.connectionRequests.isEmpty }) w
      fun _ t => t.seen = w.shared.seen :=
  .read (runs_socketHasData hl ho) (inside_setSocket ho fun _ => rfl)

theorem inside_getErrorCode (hl : 0 < w.thread.lockLevel) (ho : w.shared.sockets s = some o)
    (hlive : Live w.shared s) (id : AssocID) :
    Inside (getErrorCode E s id) w fun code t => code = w.shared.errorCodeOf o id ∧ t.seen = w.shared.seen :=
  inside_iff.mpr ⟨_, _, runs_getErrorCode hl ho hlive id, rfl, seen_afterErrorCode o id⟩

theorem inUse_modifyQueue {f : SCTPNotificationQueue → SCTPNotificationQueue} {o' : SCTPSocket}
    (hlist : o'.associationList = o.associationList) (huse : w.shared.InUse o id) :
    (w.shared.modifyQueue f queue).InUse o' id :=
  inUse_of_counts (useCount_modifyQueue w.shared f queue) hlist huse

theorem inside_dropHead (hl : 0 < w.thread.lockLevel) (ho : w.shared.sockets s = some o)
    (hlive : Live w.shared s) (hq : w.shared.queue queue = some q) (huse : w.shared.InUse o id) :
    Inside (dropHead E s queue id) w fun _ t =>
      t.seen = ((w.shared.modifyQueue (·.dropNotification) queue).lessUse o id).seen := by
  unfold dropHead
  refine .bind (inside_of_runs (runs_queueModify hq _)) fun _ t₁ ht₁ => ?_
  have halike : SameShape t₁ w.shared := ht₁.2 ▸ sameShape_modifyQueue _ queue
  obtain ⟨o₁, ho₁, hshape⟩ := halike.socket ho
  have hlist := SCTPSocket.associationList_eq hshape
  have hlive₁ := hlive.sameShape halike
  have huse₁ : t₁.InUse o id := ht₁.2 ▸ inUse_modifyQueue rfl huse
  rw [← ht₁.2]
  refine .read (runs_getAssociationForAssociationID (w := w.with t₁) hl ho₁ hlive₁ id) ?_
  rw [hlist, Shared.lessUse]
  cases hp : o.associationList.find id with
  | none => exact inside_markSocket (w := w.with t₁) hl ho₁
  | some p =>
    obtain ⟨a₁, ha₁⟩ := Option.isSome_iff_exists.mp (hlive₁ o₁ id p ho₁ (hlist ▸ hp))
    refine .read runs_shared (.bind (inside_setAssociation (w := w.with t₁) ha₁ fun _ => rfl) fun _ t₂ ht₂ => ?_)
    obtain ⟨a₂, ha₂, hseen₂⟩ := through_association (congrArg Shared.associations ht₂) ha₁
    have huse₂ : a₂.useCount ≠ 0 := by
      have hcount : a₂.useCount = a₁.useCount := by
        have := congrArg SCTPAssociation.useCount hseen₂
        exact this
      have := huse₁ p a₁ hp ha₁
      omega
    refine .read (runs_associationAt (w := w.with t₂) ha₂) (.ite_neg huse₂ ?_)
    refine .bind (inside_of_runs (runs_setAssociation (w := w.with t₂) ha₂ _)) fun _ t₃ ht₃ => ?_
    have hseen₃ : t₃.seen = (t₁.setAssociation p fun a => { a with useCount := a.useCount - 1 }).seen := by
      rw [ht₃.2]
      exact seen_setAssociation ht₂ p fun a b h => congrArg (fun c : SCTPAssociation => { c with useCount := c.useCount - 1 }) h
    have halike₃ : SameShape t₃ t₁ :=
      (SameShape.of_seen hseen₃).trans (.of_through (through_setAssociation fun _ => rfl))
    obtain ⟨a₃, ha₃, -⟩ := halike₃.association ha₁
    obtain ⟨o₃, ho₃, -⟩ := halike₃.socket ho₁
    refine .read (runs_associationHasData (w := w.with t₃) hl ha₃) (.read (runs_associationAt ha₃) ?_)
    refine .bind (inside_getErrorCode (w := w.with t₃) hl ho₃ (hlive₁.sameShape halike₃) _) fun _ t₄ ht₄ => ?_
    obtain ⟨a₄, ha₄, -⟩ := (SameShape.of_seen ht₄.2).association ha₃
    refine .bind (inside_setAssociation (w := w.with t₄) ha₄ fun _ => rfl) fun _ t₅ ht₅ => ?_
    obtain ⟨o₅, ho₅, -⟩ := (SameShape.of_seen (ht₅.trans ht₄.2)).socket ho₃
    refine (inside_markSocket (w := w.with t₅) hl ho₅).imp fun _ t₆ ht₆ => ?_
    exact ht₆.trans (ht₅.trans (ht₄.2.trans hseen₃))

/-- The association of a dropped record without a use: the call ends in its abort. -/
theorem post_dropHead_unused (hl : 0 < w.thread.lockLevel) (ho : w.shared.sockets s = some o)
    (hlive : Live w.shared s) (hq : w.shared.queue queue = some q) (huse : ¬ w.shared.InUse o id) :
    Post (dropHead E s queue id) w (fun _ _ => False) fun _ _ => True := by
  obtain ⟨p, a, hp, ha, hzero⟩ : ∃ p a, o.associationList.find id = some p ∧ w.shared.associations p = some a ∧
      a.useCount = 0 := by
    by_contra hnone
    refine huse fun p a hp ha => Nat.pos_of_ne_zero fun hzero => hnone ⟨p, a, hp, ha, hzero⟩
  unfold dropHead
  rw [post_bind, (runs_queueModify hq _).post]
  have hdrop := through_modifyQueue (s := w.shared) (·.dropNotification) queue
  have halike := sameShape_modifyQueue (s := w.shared) (·.dropNotification) queue
  obtain ⟨a₁, ha₁, hcount₁⟩ := through_association (congrArg Shared.associations hdrop) ha
  have hzero₁ : a₁.useCount = 0 := by
    have := congrArg SCTPAssociation.useCount hcount₁
    exact this.trans hzero
  generalize w.shared.modifyQueue (·.dropNotification) queue = t at halike ha₁ hdrop
  obtain ⟨o₁, ho₁, hshape⟩ := halike.socket ho
  rw [post_bind, (runs_getAssociationForAssociationID (w := w.with t) hl ho₁ (hlive.sameShape halike) id).post,
    SCTPSocket.associationList_eq hshape, hp]
  dsimp only
  rw [post_bind, runs_shared.post, post_bind, (runs_setAssociation (w := w.with t) ha₁ _).post, post_bind,
    (runs_associationAt (setAssociation_associations ha₁ _)).post, post_ite, if_pos hzero₁, post_bind]
  trivial

end

end SocketApi
