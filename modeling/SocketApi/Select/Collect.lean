import SocketApi.Descriptors
import SocketApi.Lib.Keeps
import SocketApi.Select.Wrapper

/-!
# Collecting what a select waits for

The first half of `ext_select`: one condition for each set a SCTP descriptor is in, one user
callback for each system descriptor. What is collected is determined by the table and the sets.
-/

namespace SocketApi

open Effect ExtSocketDescriptorMaster

/-! ## Events -/

/-- A `short` of `POLLxxx` bits. -/
abbrev Events := BitVec 16

def POLLIN : Events := 0x001
def POLLPRI : Events := 0x002
def POLLOUT : Events := 0x004
def POLLERR : Events := 0x008
def POLLNVAL : Events := 0x020

/-- `mask & events`, as a condition. -/
def anyEvent (mask events : Events) : Bool := mask &&& events != 0

/-- The events that are waited for on behalf of a set. -/
def UpdateConditionType.events : UpdateConditionType → Events
  | .read => POLLIN ||| POLLPRI
  | .write => POLLOUT
  | .except => POLLERR

/-- The bit by which `collectFDs` recognises a set. -/
def UpdateConditionType.bit : UpdateConditionType → Events
  | .read => POLLIN
  | .write => POLLOUT
  | .except => POLLERR

/-- The events that set a bit in a set. -/
def UpdateConditionType.reported : UpdateConditionType → Events
  | .read => POLLIN ||| POLLPRI
  | .write => POLLOUT
  | .except => ~~~(POLLIN ||| POLLPRI ||| POLLOUT)

/-- In the order of the arguments. -/
def updateConditionTypes : List UpdateConditionType := [.read, .write, .except]

@[simp] theorem mem_updateConditionTypes (t : UpdateConditionType) : t ∈ updateConditionTypes := by
  cases t <;> simp [updateConditionTypes]

/-- The `eventMask` of a descriptor. -/
def FdSets.eventMask (sets : FdSets) (i : Fd) : Events :=
  updateConditionTypes.foldl (fun mask t => if i ∈ sets.members t then mask ||| t.events else mask) 0

/-! ## What is collected -/

structure UserSocketNotification where
  fileDescriptor : Int
  eventMask : Events
  events : Events := 0
  deriving DecidableEq, Repr

/-- `UserCallbackFD` and `UserNotification` of one index. -/
structure UserCallback where
  fd : Fd
  notification : UserSocketNotification
  deriving DecidableEq, Repr

/-- `ConditionFD`, `ConditionType`, `ConditionArray` and `ParentConditionArray` of one index. -/
structure CollectedCondition where
  fd : Fd
  type : UpdateConditionType
  condition : ConditionRef
  parent : ConditionRef
  deriving DecidableEq, Repr

structure SelectData where
  conditions : List CollectedCondition := []
  userCallbacks : List UserCallback := []
  deriving DecidableEq, Repr

def globalCondition : ConditionRef := .select 0

/-- `ReadCondition`, `WriteCondition` and `ExceptCondition`. -/
def selectCondition : UpdateConditionType → ConditionRef
  | .read => .select 1
  | .write => .select 2
  | .except => .select 3

/-- The `UpdateCondition` of the notification for a descriptor. -/
def notificationCondition (fd : Fd) : ConditionRef := .select (4 + fd)

section

variable {L : Sctplib}

def changeCondition (c : ConditionRef) (f : Condition → Condition) : Act L Unit :=
  update fun w => { w with conditions := Function.update w.conditions c (f (w.conditions c)) }

/-- The constructor of `Condition`. -/
def newCondition (c : ConditionRef) : Act L Unit := changeCondition c fun _ => {}

def addParent (c parent : ConditionRef) : Act L Unit := do
  changeCondition c fun x => { x with parents := x.parents.insert parent }
  if ((← shared).conditions c).fired then broadcast parent

def removeParent (c parent : ConditionRef) : Act L Unit :=
  changeCondition c fun x => { x with parents := x.parents.erase parent }

/-- The next index of the arrays of conditions, which have `FD_SETSIZE` elements. -/
def SelectData.addCondition (data : SelectData) (fd : Fd) (type : UpdateConditionType) (condition : ConditionRef) :
    Act L SelectData := do
  if data.conditions.length < MaxSockets then
    addParent condition (selectCondition type)
    return { data with conditions := data.conditions ++ [{ fd, type, condition, parent := selectCondition type }] }
  else throw .undefinedBehaviour

/-- UDP-like sockets are always writable. -/
def signalWritable (desc : SCTPSocketDesc) (type : UpdateConditionType) (condition : ConditionRef) : Act L Unit :=
  if type = .write ∧ !desc.connectionOriented then broadcast condition else pure ()

def collectSCTP_FDs (data : SelectData) (fd : Fd) (desc : SCTPSocketDesc) (type : UpdateConditionType) :
    Act L (Int × SelectData) := do
  match desc.sctpAssociationPtr, desc.sctpSocketPtr with
  | some p, _ =>
    let condition ← SCTPAssociation.getUpdateCondition p type
    return (0, ← data.addCondition fd type condition)
  | none, some s =>
    let condition ← SCTPSocket.getUpdateCondition s type
    signalWritable desc type condition
    return (0, ← data.addCondition fd type condition)
  | none, none => return (-EBADF, data)

/-- `addUserSocketNotification` for a descriptor of the system. -/
def addUserCallback (data : SelectData) (fd : Fd) (systemSocketID : Int) (eventMask : Events) : Act L SelectData := do
  newCondition (notificationCondition fd)
  updateConditionTypes.forM fun t =>
    if anyEvent eventMask t.bit then addParent (notificationCondition fd) (selectCondition t) else pure ()
  return { data with
    userCallbacks := data.userCallbacks ++ [{ fd, notification := { fileDescriptor := systemSocketID, eventMask } }] }

/-- The conditions of a SCTP descriptor; the result is that of the last one. -/
def collectConditions (fd : Fd) (desc : SCTPSocketDesc) (eventMask : Events) :
    List UpdateConditionType → Int × SelectData → Act L (Int × SelectData)
  | [], r => return r
  | t :: types, (result, data) => do
    if anyEvent eventMask t.bit then
      collectConditions fd desc eventMask types (← collectSCTP_FDs data fd desc t)
    else
      collectConditions fd desc eventMask types (result, data)

def collectFDs (data : SelectData) (fd : Fd) (eventMask : Events) : Act L (Int × SelectData) := do
  match ← descriptorAt fd with
  | .system systemSocketID => return (0, ← addUserCallback data fd systemSocketID eventMask)
  | .sctp desc =>
    let (result, data) ← collectConditions fd desc eventMask updateConditionTypes (0, data)
    return (← errnoReturn result, data)
  | .invalid => return (← errnoReturn (-EBADF), data)

/-- The loop over the descriptors, which a result other than 0 ends. -/
def collectAll (sets : FdSets) : List Fd → SelectData → Act L (Int × SelectData)
  | [], data => return (0, data)
  | i :: rest, data => do
    if sets.eventMask i ≠ 0 then
      let (result, data) ← collectFDs data i (sets.eventMask i)
      if result ≠ 0 then return (result, data) else collectAll sets rest data
    else
      collectAll sets rest data

end

/-! ## Masks -/

section

variable {sets : FdSets} {i : Fd}

theorem eventMask_bit {t : UpdateConditionType} : anyEvent (sets.eventMask i) t.bit ↔ i ∈ sets.members t := by
  unfold FdSets.eventMask updateConditionTypes
  by_cases hr : i ∈ sets.members .read <;> by_cases hw : i ∈ sets.members .write <;>
    by_cases he : i ∈ sets.members .except <;> cases t <;> simp [hr, hw, he] <;> decide

theorem eventMask_ne_zero : sets.eventMask i ≠ 0 ↔ sets.Requested i := by
  constructor
  · intro h
    by_contra hnot
    have hmem (t : UpdateConditionType) : i ∉ sets.members t := fun ht => hnot ⟨t, ht⟩
    simp [FdSets.eventMask, updateConditionTypes, hmem] at h
  · rintro ⟨t, ht⟩ h
    have hbit := eventMask_bit.mpr ht
    simp [h, anyEvent] at hbit

end

/-! ## What the table and the sets ask for -/

section

variable (table : Nat → ExtSocketDescriptor) (sets : FdSets)

/-- A condition for each set a SCTP descriptor is in. -/
def wantedConditions (i : Fd) : List (Σ _ : UpdateConditionType, Fd) :=
  match table i with
  | .sctp _ => (updateConditionTypes.filter (i ∈ sets.members ·)).map (⟨·, i⟩)
  | _ => []

/-- A callback for a system descriptor that is in one of the sets. -/
def wantedCallback (i : Fd) : Option UserCallback :=
  match table i with
  | .system systemSocketID =>
    if sets.Requested i then
      some { fd := i, notification := { fileDescriptor := systemSocketID, eventMask := sets.eventMask i } }
    else none
  | _ => none

end

def SelectData.pairs (data : SelectData) : List (Σ _ : UpdateConditionType, Fd) :=
  data.conditions.map fun c => ⟨c.type, c.fd⟩

/-- What has been collected in addition. -/
structure SelectData.Extends (data data' : SelectData) (pairs : List (Σ _ : UpdateConditionType, Fd))
    (userCallbacks : List UserCallback) : Prop where
  pairs : data'.pairs = data.pairs ++ pairs
  userCallbacks : data'.userCallbacks = data.userCallbacks ++ userCallbacks
  fits : data.pairs.length ≤ MaxSockets → data'.pairs.length ≤ MaxSockets

theorem SelectData.Extends.refl (data : SelectData) : data.Extends data [] [] where
  pairs := by simp
  userCallbacks := by simp
  fits := id

theorem SelectData.Extends.trans {data data' data'' : SelectData} {ps ps' : List (Σ _ : UpdateConditionType, Fd)}
    {us us' : List UserCallback} (h : data.Extends data' ps us) (h' : data'.Extends data'' ps' us') :
    data.Extends data'' (ps ++ ps') (us ++ us') where
  pairs := by simp [h'.pairs, h.pairs]
  userCallbacks := by simp [h'.userCallbacks, h.userCallbacks]
  fits hfits := h'.fits (h.fits hfits)

section

variable {L : Sctplib} {w : World L}

/-- Programs that leave the table as it is. -/
abbrev KeepsTable {α : Type} (x : Act L α) : Prop :=
  Keeps (fun w w' : World L => w'.shared.descriptors = w.shared.descriptors) (fun _ _ _ => True) x

instance : Steps (fun w w' : World L => w'.shared.descriptors = w.shared.descriptors)
    (fun (_ : Halt) (_ _ : World L) => True) where
  refl _ := rfl
  trans h h' := h'.trans h
  absorb _ _ := trivial

instance {c : ConditionRef} : KeepsTable (broadcast c : Act L _) where
  post w := by
    obtain ⟨conditions, h⟩ := w.shared.fire_eq parentDepth c
    simp [h]

instance {c : ConditionRef} : KeepsTable (fired c : Act L _) where
  post _ := by simp [fired]

instance : KeepsTable (lock : Act L _) where
  post _ := rfl

instance {e : Halt} {α : Type} : KeepsTable (throw e : Act L α) where
  post _ := by simp

instance {p : AssocPtr} : KeepsTable (associationAt p : Act L _) where
  post w := by
    rw [post_associationAt]
    split <;> trivial

instance {s : SocketPtr} : KeepsTable (socketAt s : Act L _) where
  post w := by
    rw [post_socketAt]
    split <;> trivial

instance : KeepsTable (shared : Act L _) where
  post _ := rfl

instance {c : ConditionRef} {f : Condition → Condition} : KeepsTable (changeCondition c f : Act L _) where
  post _ := rfl

instance {c : ConditionRef} : KeepsTable (newCondition c : Act L _) := by
  unfold newCondition
  infer_instance

instance {c parent : ConditionRef} : KeepsTable (addParent c parent : Act L _) := by
  unfold addParent
  infer_instance

instance {c : ConditionRef} {ready : Bool} : KeepsTable (updateCondition c ready : Act L _) := by
  unfold updateCondition
  infer_instance

instance {p : AssocPtr} {type : UpdateConditionType} :
    KeepsTable (SCTPAssociation.getUpdateCondition p type : Act L _) := by
  unfold SCTPAssociation.getUpdateCondition
  refine Keeps.seq fun a => ?_
  cases type <;> infer_instance

instance {s : SocketPtr} {type : UpdateConditionType} :
    KeepsTable (SCTPSocket.getUpdateCondition s type : Act L _) := by
  unfold SCTPSocket.getUpdateCondition
  refine Keeps.seq fun o => ?_
  cases type <;> infer_instance

instance {data : SelectData} {fd : Fd} {type : UpdateConditionType} {c : ConditionRef} :
    KeepsTable (data.addCondition fd type c : Act L _) := by
  unfold SelectData.addCondition
  infer_instance

instance {desc : SCTPSocketDesc} {type : UpdateConditionType} {c : ConditionRef} :
    KeepsTable (signalWritable desc type c : Act L _) := by
  unfold signalWritable
  infer_instance

instance {data : SelectData} {fd : Fd} {desc : SCTPSocketDesc} {type : UpdateConditionType} :
    KeepsTable (collectSCTP_FDs data fd desc type : Act L _) := by
  unfold collectSCTP_FDs
  split <;> infer_instance

theorem keepsTable_forM {α : Type} {f : α → Act L Unit} (hf : ∀ a, KeepsTable (f a)) (list : List α) :
    KeepsTable (list.forM f) := by
  induction list with
  | nil => exact Keeps.pure ()
  | cons a list ih =>
    show KeepsTable (f a >>= fun _ => list.forM f)
    infer_instance

instance {data : SelectData} {fd : Fd} {id : Int} {mask : Events} :
    KeepsTable (addUserCallback data fd id mask : Act L _) := by
  unfold addUserCallback
  have := keepsTable_forM (L := L) (f := fun t : UpdateConditionType =>
    if anyEvent mask t.bit then addParent (notificationCondition fd) (selectCondition t) else pure ())
    (fun _ => inferInstance) updateConditionTypes
  infer_instance

instance {fd : Fd} {desc : SCTPSocketDesc} {mask : Events} {types : List UpdateConditionType} {r : Int × SelectData} :
    KeepsTable (collectConditions fd desc mask types r : Act L _) := by
  induction types generalizing r with
  | nil => exact Keeps.pure r
  | cons t types ih =>
    unfold collectConditions
    infer_instance

instance {result : Int} : KeepsTable (errnoReturn result : Act L _) where
  post w := by
    simp only [errnoReturn, post_bind, post_ite]
    split <;> rfl

instance {slot : Nat} : KeepsTable (descriptorAt slot : Act L _) := by
  unfold descriptorAt
  infer_instance

instance {data : SelectData} {fd : Fd} {mask : Events} : KeepsTable (collectFDs data fd mask : Act L _) := by
  unfold collectFDs
  refine Keeps.seq fun td => ?_
  cases td <;> infer_instance

/-! ## What has been collected -/

theorem addCondition_extends (data : SelectData) (fd : Fd) (type : UpdateConditionType) (c : ConditionRef) :
    Post (data.addCondition fd type c) w (fun data' _ => data.Extends data' [⟨type, fd⟩] []) (fun _ _ => True) := by
  unfold SelectData.addCondition
  rw [post_ite]
  split
  · refine Post.bind post_true fun _ _ _ => ⟨?_, ?_, ?_⟩
    · simp [SelectData.pairs]
    · simp
    · intro _
      simp only [SelectData.pairs, List.length_map, List.length_append, List.length_singleton]
      omega
  · trivial

theorem collectSCTP_extends (data : SelectData) (fd : Fd) (desc : SCTPSocketDesc) (type : UpdateConditionType) :
    Post (collectSCTP_FDs data fd desc type) w (fun r _ =>
      (desc.sctpAssociationPtr = none ∧ desc.sctpSocketPtr = none → r = (-EBADF, data)) ∧
      (¬ (desc.sctpAssociationPtr = none ∧ desc.sctpSocketPtr = none) →
        r.1 = 0 ∧ data.Extends r.2 [⟨type, fd⟩] [])) (fun _ _ => True) := by
  unfold collectSCTP_FDs
  split
  · rename_i hp
    refine Post.bind post_true fun c w₁ _ => Post.bind (addCondition_extends data fd type c) fun data' _ h => ?_
    simp [hp, h]
  · rename_i hp hs
    refine Post.bind post_true fun c w₁ _ => Post.bind post_true fun _ w₂ _ =>
      Post.bind (addCondition_extends data fd type c) fun data' _ h => ?_
    simp [hp, hs, h]
  · rename_i hp hs
    simp [hp, hs]

/-- The result of the last set that is collected: without an association or a socket each of them
ends with the same error. -/
theorem collectConditions_result (fd : Fd) (desc : SCTPSocketDesc) (mask : Events)
    (types : List UpdateConditionType) (r : Int × SelectData) :
    Post (collectConditions fd desc mask types r) w (fun r' _ =>
      (types.filter (anyEvent mask ·.bit) = [] → r' = r) ∧
      (types.filter (anyEvent mask ·.bit) ≠ [] →
        r'.1 = if desc.sctpAssociationPtr = none ∧ desc.sctpSocketPtr = none then -EBADF else 0)) (fun _ _ => True) := by
  induction types generalizing r w with
  | nil => simp [collectConditions]
  | cons t types ih =>
    unfold collectConditions
    rw [post_ite]
    split
    · rename_i ht
      refine Post.bind (collectSCTP_extends r.2 fd desc t) fun r₁ w₁ h₁ => (ih r₁).imp fun r' _ hr' => ?_
      have hfirst : r₁.1 = if desc.sctpAssociationPtr = none ∧ desc.sctpSocketPtr = none then -EBADF else 0 := by
        split
        · rename_i hnone
          rw [h₁.1 hnone]
        · rename_i hnone
          exact (h₁.2 hnone).1
      simp only [List.filter_cons, ht, if_true, reduceCtorEq, false_imp_iff, ne_eq, not_false_eq_true, true_and,
        forall_const]
      by_cases hempty : types.filter (anyEvent mask ·.bit) = []
      · rw [hr'.1 hempty]
        exact hfirst
      · exact hr'.2 hempty
    · rename_i ht
      simpa [ht] using ih r

theorem collectConditions_extends (fd : Fd) (desc : SCTPSocketDesc) (mask : Events)
    (types : List UpdateConditionType) (result : Int) (data : SelectData) :
    Post (collectConditions fd desc mask types (result, data)) w (fun r _ => r.1 = 0 →
      data.Extends r.2 ((types.filter (anyEvent mask ·.bit)).map (⟨·, fd⟩)) []) (fun _ _ => True) := by
  by_cases hnone : desc.sctpAssociationPtr = none ∧ desc.sctpSocketPtr = none
  · refine (collectConditions_result fd desc mask types (result, data)).imp fun r _ hr hzero => ?_
    by_cases hempty : types.filter (anyEvent mask ·.bit) = []
    · rw [hempty, hr.1 hempty]
      exact .refl data
    · have hfailed := hr.2 hempty
      rw [if_pos hnone, hzero] at hfailed
      cases hfailed
  · induction types generalizing result data w with
    | nil => exact fun _ => .refl data
    | cons t types ih =>
      unfold collectConditions
      rw [post_ite]
      split
      · rename_i ht
        refine Post.bind (collectSCTP_extends data fd desc t) fun r w₁ hr => ?_
        obtain ⟨-, hextends⟩ := hr.2 hnone
        refine (ih r.1 r.2 (w := w₁)).imp fun r' _ hr' hzero => ?_
        have h := hextends.trans (hr' hzero)
        simpa [ht] using h
      · rename_i ht
        simpa [ht] using ih result data

/-- A postcondition of a program that keeps the table. -/
theorem post_keepsTable {α : Type} {x : Act L α} [h : KeepsTable x] {Q : α → Prop}
    (hx : Post x w (fun a _ => Q a) (fun _ _ => True)) :
    Post x w (fun a w' => Q a ∧ w'.shared.descriptors = w.shared.descriptors) (fun _ _ => True) :=
  (hx.and (h.post w)).mono (fun _ _ h => h) fun _ _ _ => trivial

theorem errnoReturn_value (result : Int) :
    Post (errnoReturn result) w (fun r _ => r = if result < 0 then -1 else result) (fun _ _ => True) := by
  by_cases h : result < 0
  · simp [errnoReturn, h]
  · simp [errnoReturn, h]

theorem errnoReturn_eq_zero {result : Int} :
    Post (errnoReturn result) w (fun r _ => r = 0 → result = 0) (fun _ _ => True) := by
  refine (errnoReturn_value result).imp fun r _ hr hzero => ?_
  split at hr <;> omega

theorem errnoReturn_nonpos {result : Int} (h : result ≤ 0) :
    Post (errnoReturn result) w (fun r _ => r ≤ 0) (fun _ _ => True) := by
  refine (errnoReturn_value result).imp fun r _ hr => ?_
  split at hr <;> omega

theorem collectConditions_nonpos (fd : Fd) (desc : SCTPSocketDesc) (mask : Events) (types : List UpdateConditionType)
    {r : Int × SelectData} (h : r.1 ≤ 0) :
    Post (collectConditions fd desc mask types r) w (fun r _ => r.1 ≤ 0) (fun _ _ => True) := by
  refine (collectConditions_result fd desc mask types r).imp fun r' _ hr => ?_
  by_cases hempty : types.filter (anyEvent mask ·.bit) = []
  · rw [hr.1 hempty]
    exact h
  · rw [hr.2 hempty]
    split <;> decide

theorem collectFDs_nonpos (data : SelectData) (fd : Fd) (mask : Events) :
    Post (collectFDs data fd mask) w (fun r _ => r.1 ≤ 0) (fun _ _ => True) := by
  unfold collectFDs
  refine Post.bind post_true fun td w₁ _ => ?_
  cases td with
  | invalid => exact Post.bind (errnoReturn_nonpos (by decide)) fun result _ h => h
  | system id => exact Post.bind post_true fun _ _ _ => le_refl (0 : Int)
  | sctp desc =>
    exact Post.bind (collectConditions_nonpos fd desc mask updateConditionTypes (le_refl (0 : Int))) fun r _ hr =>
      Post.bind (errnoReturn_nonpos hr) fun result _ h => h

theorem collectFDs_extends (sets : FdSets) (data : SelectData) (fd : Fd) (hreq : sets.Requested fd) :
    Post (collectFDs data fd (sets.eventMask fd)) w (fun r _ => r.1 = 0 →
      data.Extends r.2 (wantedConditions w.shared.descriptors sets fd)
        (wantedCallback w.shared.descriptors sets fd).toList ∧ w.shared.descriptors fd ≠ .invalid)
      (fun _ _ => True) := by
  unfold collectFDs descriptorAt
  simp only [post_bind, post_shared, post_pure]
  cases htd : w.shared.descriptors fd with
  | invalid =>
    refine Post.bind errnoReturn_eq_zero fun result w₁ h => ?_
    intro hzero
    cases h hzero
  | system id =>
    have hadd : Post (addUserCallback data fd id (sets.eventMask fd)) w (fun data' _ =>
        data' = { data with userCallbacks := data.userCallbacks ++
          [{ fd, notification := { fileDescriptor := id, eventMask := sets.eventMask fd } }] }) (fun _ _ => True) := by
      unfold addUserCallback
      exact Post.bind post_true fun _ _ _ => Post.bind post_true fun _ _ _ => rfl
    refine Post.bind hadd fun data' w₁ hdata _ => ⟨?_, by simp⟩
    subst hdata
    constructor
    · simp [SelectData.pairs, wantedConditions, htd]
    · simp [wantedCallback, htd, hreq]
    · exact fun hfits => hfits
  | sctp desc =>
    refine Post.bind (collectConditions_extends fd desc (sets.eventMask fd) updateConditionTypes 0 data)
      fun r w₁ hr => Post.bind errnoReturn_eq_zero fun result w₂ hresult hzero => ?_
    have h := hr (hresult hzero)
    have hfilter : updateConditionTypes.filter (anyEvent (sets.eventMask fd) ·.bit) =
        updateConditionTypes.filter (fd ∈ sets.members ·) := by
      refine List.filter_congr fun t _ => ?_
      rw [Bool.eq_iff_iff, eventMask_bit]
      simp
    rw [hfilter] at h
    exact ⟨by simpa [wantedConditions, wantedCallback, htd] using h, by simp⟩

/-- A result that is not 0 is an error. -/
theorem collectAll_nonpos (sets : FdSets) (list : List Fd) (data : SelectData) :
    Post (collectAll sets list data) w (fun r _ => r.1 ≤ 0) (fun _ _ => True) := by
  induction list generalizing data w with
  | nil => exact le_refl (0 : Int)
  | cons i list ih =>
    unfold collectAll
    rw [post_ite]
    split
    · refine Post.bind (collectFDs_nonpos data i (sets.eventMask i)) fun r w₁ hr => ?_
      rw [post_ite]
      split
      · exact hr
      · exact ih r.2
    · exact ih data

/-- After a loop that ends with 0, everything the table and the sets ask for has been collected. -/
theorem collectAll_extends (sets : FdSets) (list : List Fd) (data : SelectData) :
    Post (collectAll sets list data) w (fun r _ => r.1 = 0 →
      data.Extends r.2 (list.flatMap (wantedConditions w.shared.descriptors sets))
        (list.filterMap (wantedCallback w.shared.descriptors sets)) ∧
      ∀ i ∈ list, sets.Requested i → w.shared.descriptors i ≠ .invalid) (fun _ _ => True) := by
  induction list generalizing data w with
  | nil => exact fun _ => ⟨.refl data, by simp⟩
  | cons i list ih =>
    unfold collectAll
    rw [post_ite]
    split
    · rename_i hmask
      have hreq := eventMask_ne_zero.mp hmask
      refine Post.bind (post_keepsTable (collectFDs_extends sets data i hreq)) fun r w₁ ⟨hr, htable⟩ => ?_
      rw [post_ite]
      split
      · rename_i hbreak
        exact fun hzero => (hbreak hzero).elim
      · rename_i hzero
        obtain ⟨hfirst, hvalid⟩ := hr (not_not.mp hzero)
        refine (ih r.2 (w := w₁)).imp fun r' _ hr' hzero' => ?_
        obtain ⟨hrest, hvalids⟩ := hr' hzero'
        rw [htable] at hrest hvalids
        have h := hfirst.trans hrest
        constructor
        · cases htd : wantedCallback w.shared.descriptors sets i with
          | none => simpa [htd] using h
          | some u => simpa [htd] using h
        · intro j hj hj'
          obtain rfl | hj := List.mem_cons.mp hj
          · exact hvalid
          · exact hvalids j hj hj'
    · rename_i hmask
      have hnot : ¬ sets.Requested i := fun h => hmask (eventMask_ne_zero.mpr h)
      have hconditions : wantedConditions w.shared.descriptors sets i = [] := by
        unfold wantedConditions
        split
        · simp only [List.map_eq_nil_iff, List.filter_eq_nil_iff, decide_eq_true_eq]
          exact fun t _ ht => hnot ⟨t, ht⟩
        · rfl
      have hcallback : wantedCallback w.shared.descriptors sets i = none := by
        unfold wantedCallback
        split <;> simp [hnot]
      simpa [hconditions, hcallback, hnot] using ih data

end

end SocketApi
