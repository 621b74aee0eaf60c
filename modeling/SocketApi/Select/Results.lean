import SocketApi.Select.Collect

/-!
# The result sets of select

The second half of `ext_select`: it waits, sets the bits of the conditions that have fired and of
the events reported to user callbacks, and counts. A condition counts for its bit, a callback for
all of its bits.
-/

namespace SocketApi

open Effect ExtSocketDescriptorMaster

variable {L : Sctplib} (E : Environment L)

/-- What a select meets besides other threads: whether the master is running, the `select` of the
system and the callbacks of the protocol library while the select waits, each for the
notification of a descriptor. -/
structure SelectEnvironment where
  running : Bool := true
  select : SystemSelect := fun _ _ _ => (0, fun _ => ∅)
  callbacks : List (Fd × Events) := []
  breakPipe : Int := -1

/-! ## Callbacks -/

/-- What `userCallback` leaves in a notification. -/
def UserCallback.after (breakPipe : Int) (u : UserCallback) (callback : Fd × Events) : UserCallback :=
  if u.fd = callback.1 ∧ u.notification.fileDescriptor ≠ breakPipe then
    { u with notification := { u.notification with events := u.notification.events ||| callback.2 } }
  else u

/-- `userCallback` for a notification. -/
def userCallback (breakPipe : Int) (callback : Fd × Events) (u : UserCallback) : Act L Unit :=
  if u.fd = callback.1 ∧ u.notification.fileDescriptor ≠ breakPipe ∧ anyEvent callback.2 u.notification.eventMask then
    broadcast (notificationCondition u.fd)
  else pure ()

def deliver (breakPipe : Int) (data : SelectData) (callback : Fd × Events) : Act L SelectData := do
  data.userCallbacks.forM (userCallback breakPipe callback)
  return { data with userCallbacks := data.userCallbacks.map (·.after breakPipe callback) }

/-! ## Waiting -/

/-- `wait()`, or `timedWait()` if there is a timeout. -/
def waitGlobal (timeout : Option Timeval) : Act L Unit :=
  match timeout with
  | some _ => discard (timedWait E globalCondition)
  | none => loop .waiting (fun rest => do if ← timedWait E globalCondition then pure () else rest) E.patience

def waitForEvents (S : SelectEnvironment) (timeout : Option Timeval) (r : Int × SelectData) :
    Act L (Int × SelectData) := do
  if r.1 = 0 then
    unlock E
    if r.2.conditions = [] ∧ r.2.userCallbacks = [] then
      lock
      return ((S.select 0 (fun _ => ∅) timeout).1, r.2)
    else
      let data ← S.callbacks.foldlM (deliver S.breakPipe) r.2
      waitGlobal E timeout
      lock
      return (0, data)
  else
    return r

/-! ## Results -/

/-- A collected condition belongs to an object that is still there. -/
def owner : ConditionRef → Act L Unit
  | .assoc p _ => discard (associationAt p)
  | .socket s _ => discard (socketAt s)
  | .select _ => pure ()

def reportConditions : List CollectedCondition → Nat × FdSets → Act L (Nat × FdSets)
  | [], r => return r
  | c :: rest, (changes, sets) => do
    owner c.condition
    let f ← fired c.condition
    removeParent c.condition c.parent
    reportConditions rest (if f then (changes + 1, sets.mark c.type c.fd) else (changes, sets))

/-- A callback sets its bit in a set. -/
def UserCallback.reports (u : UserCallback) (sets : FdSets) (t : UpdateConditionType) : Bool :=
  (sets t).isSome && anyEvent u.notification.events t.reported

def reportCallback (r : Nat × FdSets) (u : UserCallback) : Nat × FdSets :=
  let types := updateConditionTypes.filter (u.reports r.2)
  (if types = [] then r.1 else r.1 + 1, r.2.markAll (types.map (⟨·, u.fd⟩)))

def selectResults (sets : FdSets) (r : Int × SelectData) : Act L (Int × FdSets) := do
  let (changes, sets) ← reportConditions r.2.conditions (0, sets.clearAll (r.2.conditions.map (·.fd)))
  let (changes, sets) := r.2.userCallbacks.foldl reportCallback
    (changes, sets.clearAll (r.2.userCallbacks.map (·.fd)))
  unlock E
  return (← errnoReturn (if r.1 < 0 then r.1 else changes), sets)

def ext_select (S : SelectEnvironment) (n : Int) (sets : FdSets) (timeout : Option Timeval) :
    Act L (Int × FdSets) := do
  if S.running then
    lock
    newCondition globalCondition
    updateConditionTypes.forM fun t => do
      newCondition (selectCondition t)
      addParent (selectCondition t) globalCondition
    let r ← collectAll sets (descriptorsBelow n.toNat) {}
    let r ← waitForEvents E S timeout r
    selectResults E sets r
  else
    match select_wrapper (← shared).descriptors sets S.select n timeout with
    | some answer => return answer
    | none => throw .undefinedBehaviour

/-! ## What a call returns -/

/-- The notifications behind the callbacks. -/
def SelectEnvironment.notified (S : SelectEnvironment) (u : UserCallback) : UserCallback :=
  S.callbacks.foldl (UserCallback.after S.breakPipe) u

/-- The conditions a call collects, and its callbacks when the wait is over. -/
def wantedBelow (table : Nat → ExtSocketDescriptor) (sets : FdSets) (n : Int) : List (Σ _ : UpdateConditionType, Fd) :=
  (descriptorsBelow n.toNat).flatMap (wantedConditions table sets)

def SelectEnvironment.notifiedBelow (S : SelectEnvironment) (table : Nat → ExtSocketDescriptor) (sets : FdSets)
    (n : Int) : List UserCallback :=
  ((descriptorsBelow n.toNat).filterMap (wantedCallback table sets)).map S.notified

/-- The result and the sets, for the conditions that have fired. -/
def selectOutcome (sets : FdSets) (wanted fired : List (Σ _ : UpdateConditionType, Fd))
    (callbacks : List UserCallback) : Nat × FdSets :=
  callbacks.foldl reportCallback
    (fired.length, ((sets.clearAll (wanted.map (·.2))).markAll fired).clearAll (callbacks.map (·.fd)))

/-- A result without an error: its conditions fit the arrays, its descriptors are in use. -/
structure SelectEnvironment.Answers (S : SelectEnvironment) (table : Nat → ExtSocketDescriptor) (sets : FdSets)
    (n r : Int) (out : FdSets) : Prop where
  fits : (wantedBelow table sets n).length ≤ MaxSockets
  valid : ∀ i : Fd, (i : Nat) < n.toNat → sets.Requested i → table i ≠ .invalid
  outcome : ∃ fired, List.Sublist fired (wantedBelow table sets n) ∧
    r = (selectOutcome sets (wantedBelow table sets n) fired (S.notifiedBelow table sets n)).1 ∧
    out = (selectOutcome sets (wantedBelow table sets n) fired (S.notifiedBelow table sets n)).2

section

variable {E} {w : World L}

theorem deliver_spec (breakPipe : Int) (data : SelectData) (callback : Fd × Events) :
    Post (deliver breakPipe data callback : Act L _) w (fun data' _ =>
      data' = { data with userCallbacks := data.userCallbacks.map (·.after breakPipe callback) }) (fun _ _ => True) := by
  unfold deliver
  exact Post.bind post_true fun _ _ _ => rfl

theorem deliverAll_spec (breakPipe : Int) (callbacks : List (Fd × Events)) (data : SelectData) :
    Post (callbacks.foldlM (deliver breakPipe) data : Act L _) w (fun data' _ =>
      data' = { data with userCallbacks := data.userCallbacks.map (callbacks.foldl (UserCallback.after breakPipe)) })
      (fun _ _ => True) := by
  induction callbacks generalizing data w with
  | nil => simp
  | cons callback callbacks ih =>
    rw [List.foldlM_cons]
    refine Post.bind (deliver_spec breakPipe data callback) fun data₁ w₁ h => ?_
    subst h
    refine (ih _).imp fun data' _ h' => ?_
    simpa [Function.comp_def] using h'

theorem waitForEvents_spec (S : SelectEnvironment) (timeout : Option Timeval) (r : Int × SelectData) (hr : r.1 ≤ 0) :
    Post (waitForEvents E S timeout r) w (fun r' _ => 0 ≤ r'.1 →
      r.1 = 0 ∧ r'.2 = { r.2 with userCallbacks := r.2.userCallbacks.map S.notified }) (fun _ _ => True) := by
  obtain ⟨result, conditions, userCallbacks⟩ := r
  unfold waitForEvents
  rw [post_ite]
  split
  · rename_i hzero
    refine Post.bind post_true fun _ w₁ _ => ?_
    rw [post_ite]
    split
    · rename_i hnone
      obtain ⟨rfl, rfl⟩ := hnone
      exact Post.bind post_true fun _ w₂ _ _ => ⟨hzero, rfl⟩
    · refine Post.bind (deliverAll_spec S.breakPipe S.callbacks _) fun data w₂ hdata =>
        Post.bind post_true fun _ w₃ _ => Post.bind post_true fun _ w₄ _ _ => ⟨hzero, hdata⟩
  · rename_i hneg
    intro h
    omega

theorem reportConditions_spec (conditions : List CollectedCondition) (r : Nat × FdSets) :
    Post (reportConditions conditions r : Act L _) w (fun r' _ => ∃ fired : List (Σ _ : UpdateConditionType, Fd),
      fired.Sublist (conditions.map fun c => ⟨c.type, c.fd⟩) ∧
        r' = (r.1 + fired.length, r.2.markAll fired)) (fun _ _ => True) := by
  induction conditions generalizing r w with
  | nil => exact ⟨[], by simp, rfl⟩
  | cons c conditions ih =>
    unfold reportConditions
    refine Post.bind post_true fun _ w₁ _ => Post.bind post_true fun f w₂ _ => Post.bind post_true fun _ w₃ _ =>
      (ih _).imp fun r' _ ⟨fired, hsub, hr⟩ => ?_
    cases f with
    | true =>
      refine ⟨⟨c.type, c.fd⟩ :: fired, by simpa using hsub, ?_⟩
      rw [hr]
      simp [FdSets.markAll, Nat.add_assoc, Nat.add_comm]
    | false => exact ⟨fired, List.Sublist.cons _ hsub, by simpa using hr⟩

theorem selectResults_spec (sets : FdSets) (r : Int × SelectData) :
    Post (selectResults E sets r) w (fun r' _ => 0 ≤ r'.1 → 0 ≤ r.1 ∧
      ∃ fired, List.Sublist fired r.2.pairs ∧
        r'.1 = (selectOutcome sets r.2.pairs fired r.2.userCallbacks).1 ∧
        r'.2 = (selectOutcome sets r.2.pairs fired r.2.userCallbacks).2) (fun _ _ => True) := by
  unfold selectResults
  refine Post.bind (reportConditions_spec r.2.conditions _) fun r₁ w₁ ⟨fired, hsub, hr₁⟩ =>
    Post.bind post_true fun _ w₂ _ => ?_
  subst hr₁
  by_cases hneg : r.1 < 0
  · simp [errnoReturn, hneg]
  · have hpairs : r.2.pairs.map (·.2) = r.2.conditions.map (·.fd) := by simp [SelectData.pairs]
    rw [if_neg hneg]
    refine Post.bind (errnoReturn_value _) fun result w₃ hresult _ => ?_
    rw [if_neg (Int.not_lt.mpr (Int.natCast_nonneg _))] at hresult
    refine ⟨Int.not_lt.mp hneg, fired, hsub, ?_, ?_⟩
    · rw [hresult]
      simp [selectOutcome, hpairs]
    · simp [selectOutcome, hpairs]

/-- A call that is no error returns the outcome for some of the conditions it has collected. -/
theorem ext_select_outcome {S : SelectEnvironment} (hrunning : S.running) (n : Int) (sets : FdSets)
    (timeout : Option Timeval) :
    Post (ext_select E S n sets timeout) w (fun r _ => 0 ≤ r.1 → S.Answers w.shared.descriptors sets n r.1 r.2)
      (fun _ _ => True) := by
  have hrest {w₁ : World L} (htable : w₁.shared.descriptors = w.shared.descriptors) :
      Post (do
        let r ← collectAll sets (descriptorsBelow n.toNat) {}
        let r ← waitForEvents E S timeout r
        selectResults E sets r) w₁
        (fun r _ => 0 ≤ r.1 → S.Answers w.shared.descriptors sets n r.1 r.2) (fun _ _ => True) := by
    rw [← htable]
    refine Post.bind (((collectAll_extends sets _ {}).and (collectAll_nonpos sets _ {})).mono (fun _ _ h => h)
      fun _ _ _ => trivial) fun r w₂ ⟨hextends, hnonpos⟩ => ?_
    refine Post.bind (waitForEvents_spec S timeout r hnonpos) fun r' w₃ hr' => ?_
    refine (selectResults_spec sets r').imp fun out _ hout hzero => ?_
    obtain ⟨hr'zero, fired, hsub, hresult, hsets⟩ := hout hzero
    obtain ⟨hrzero, hdata⟩ := hr' hr'zero
    obtain ⟨h, hvalid⟩ := hextends hrzero
    have hpairs := h.pairs
    have hcallbacks := h.userCallbacks
    simp only [SelectData.pairs, List.map_nil, List.nil_append] at hpairs hcallbacks
    have hpairs' : r'.2.pairs = wantedBelow w₁.shared.descriptors sets n := by
      rw [hdata]
      exact hpairs
    have hcallbacks' : r'.2.userCallbacks = S.notifiedBelow w₁.shared.descriptors sets n := by
      rw [hdata]
      exact congrArg (List.map S.notified) hcallbacks
    rw [hpairs'] at hsub hresult hsets
    rw [hcallbacks'] at hresult hsets
    refine ⟨?_, fun i hi => hvalid i (mem_descriptorsBelow.mpr hi), fired, hsub, hresult, hsets⟩
    rw [wantedBelow, ← hpairs]
    exact h.fits (by simp [SelectData.pairs])
  unfold ext_select
  rw [if_pos hrunning]
  have hconditions : KeepsTable (updateConditionTypes.forM fun t => do
      newCondition (selectCondition t)
      addParent (selectCondition t) globalCondition : Act L Unit) := keepsTable_forM (fun _ => inferInstance) _
  have hlock : KeepsTable (lock : Act L Unit) := inferInstance
  have hglobal : KeepsTable (newCondition globalCondition : Act L Unit) := inferInstance
  refine Post.bind ((hlock.post w).mono (fun _ _ h => h) fun _ _ _ => trivial) fun _ w₁ h₁ => ?_
  refine Post.bind (hglobal.post w₁) fun _ w₂ h₂ => Post.bind (hconditions.post w₂) fun _ w₃ h₃ => ?_
  exact hrest (h₃.trans (h₂.trans h₁))

end

end SocketApi
