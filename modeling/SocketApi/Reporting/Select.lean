import SocketApi.Reporting.Reply
import SocketApi.Select.Poll

/-!
# Unconverted select and poll

`collectFDs` converts its result, and `ext_select` converts it once more.
-/

namespace SocketApi

open Effect ExtSocketDescriptorMaster

variable {L : Sctplib} (E : Environment L)

namespace Unconverted

def collectFDs (data : SelectData) (fd : Fd) (eventMask : Events) : Act L (Int × SelectData) := do
  match ← descriptorAt fd with
  | .system systemSocketID => return (0, ← addUserCallback data fd systemSocketID eventMask)
  | .sctp desc => collectConditions fd desc eventMask updateConditionTypes (0, data)
  | .invalid => return (-EBADF, data)

def collectAll (sets : FdSets) : List Fd → SelectData → Act L (Int × SelectData)
  | [], data => return (0, data)
  | i :: rest, data => do
    if sets.eventMask i ≠ 0 then
      let (result, data) ← collectFDs data i (sets.eventMask i)
      if result ≠ 0 then return (result, data) else collectAll sets rest data
    else
      collectAll sets rest data

def selectResults (sets : FdSets) (r : Int × SelectData) : Act L (Reply × FdSets) := do
  let (changes, sets) ← reportConditions r.2.conditions (0, sets.clearAll (r.2.conditions.map (·.fd)))
  let (changes, sets) := r.2.userCallbacks.foldl reportCallback
    (changes, sets.clearAll (r.2.userCallbacks.map (·.fd)))
  unlock E
  return (.internal (if r.1 < 0 then r.1 else changes), sets)

def ext_select (S : SelectEnvironment) (n : Int) (sets : FdSets) (timeout : Option Timeval) :
    Act L (Reply × FdSets) := do
  if S.running then
    lock
    newCondition globalCondition
    updateConditionTypes.forM fun t => do
      newCondition (selectCondition t)
      addParent (selectCondition t) globalCondition
    let r ← collectAll sets (descriptorsBelow n.toNat) {}
    let r ← waitForEvents E S timeout r
    selectResults E sets r
  else
    match select_wrapper (← shared).descriptors sets S.select n timeout with
    | some answer => return (.final answer.1, answer.2)
    | none => throw .undefinedBehaviour

def ext_poll (S : SelectEnvironment) (fdlist : List PollFd) (time : Int) : Act L Reply := do
  let setup := fdlist.foldl PollFd.addTo {}
  if 2 ^ 31 ≤ setup.fdcount then throw .undefinedBehaviour
  else if 2 ^ 32 ≤ fdlist.length then throw .waiting
  else if setup.fdcount = 0 then return .final 0
  else do
    let (answer, sets) ← ext_select E S (setup.n + 1) setup.sets (pollTimeout time)
    if answer.returned < 0 then
      return answer
    else
      return .final ((fdlist.map fun p => p.check.reset.answer sets).countP PollFd.counts : Nat)

end Unconverted

/-! ## Collecting -/

/-- A select can wait for a descriptor: it is one of the system, or it has an association or a
socket. -/
def ExtSocketDescriptor.Usable : ExtSocketDescriptor → Prop
  | .invalid => False
  | .system _ => True
  | .sctp desc => ¬ (desc.sctpAssociationPtr = none ∧ desc.sctpSocketPtr = none)

/-- Every descriptor that is asked for is usable. -/
def FdSets.AllUsable (sets : FdSets) (table : Nat → ExtSocketDescriptor) (fds : List Fd) : Prop :=
  ∀ i ∈ fds, sets.Requested i → (table i).Usable

section

variable {E} {w w' : World L} {sets : FdSets}

theorem errnoReturn_nonnegative {r : Int} (h : ¬ r < 0) : (errnoReturn r : Act L Int) = pure r := by
  simp [errnoReturn, h]

theorem collectFDs_eq (data : SelectData) (fd : Fd) (eventMask : Events) :
    (collectFDs data fd eventMask : Act L _) = do
      let r ← Unconverted.collectFDs data fd eventMask
      return (← errnoReturn r.1, r.2) := by
  unfold collectFDs Unconverted.collectFDs
  rw [bind_assoc]
  congr 1
  funext td
  cases td with
  | invalid => rfl
  | sctp desc => rfl
  | system fd => simp [errnoReturn]

/-- The loop converts its result. -/
theorem collectAll_eq (fds : List Fd) (data : SelectData) :
    (collectAll sets fds data : Act L _) = do
      let r ← Unconverted.collectAll sets fds data
      return (← errnoReturn r.1, r.2) := by
  induction fds generalizing data with
  | nil => simp [collectAll, Unconverted.collectAll, errnoReturn]
  | cons i rest ih =>
    unfold collectAll Unconverted.collectAll
    split
    · rw [collectFDs_eq, bind_assoc, bind_assoc]
      congr 1
      funext r
      by_cases hzero : r.1 = 0
      · simp [hzero, errnoReturn, ih]
      · have hne : (if r.1 < 0 then -1 else r.1) ≠ 0 := by
          split <;> omega
        simp only [bind_assoc, pure_bind]
        rw [errnoReturn_bind]
        simp only [if_pos hne, if_pos hzero, ne_eq, pure_bind]
        exact (errnoReturn_bind r.1 fun n => pure (n, r.2)).symm
    · exact ih data

instance {data : SelectData} {fd : Fd} {mask : Events} :
    KeepsTable (Unconverted.collectFDs data fd mask : Act L _) := by
  unfold Unconverted.collectFDs
  refine Keeps.seq fun td => ?_
  cases td <;> infer_instance

theorem collectFDs_result (data : SelectData) {fd : Fd} (hreq : sets.Requested fd) :
    Post (Unconverted.collectFDs data fd (sets.eventMask fd)) w (fun r _ =>
      ((w.shared.descriptors fd).Usable → r.1 = 0) ∧ (¬ (w.shared.descriptors fd).Usable → r.1 = -EBADF))
      (fun _ _ => True) := by
  unfold Unconverted.collectFDs descriptorAt
  simp only [post_bind, post_shared, post_pure]
  cases w.shared.descriptors fd with
  | invalid => simp [ExtSocketDescriptor.Usable]
  | system id => exact Post.bind post_true fun _ _ _ => by simp [ExtSocketDescriptor.Usable]
  | sctp desc =>
    have hwanted : updateConditionTypes.filter (anyEvent (sets.eventMask fd) ·.bit) ≠ [] := by
      obtain ⟨t, ht⟩ := hreq
      intro hempty
      exact List.filter_eq_nil_iff.mp hempty t (mem_updateConditionTypes t) (eventMask_bit.mpr ht)
    refine (collectConditions_result fd desc (sets.eventMask fd) updateConditionTypes (0, data)).imp fun r _ h => ?_
    rw [h.2 hwanted]
    simp only [ExtSocketDescriptor.Usable, not_not]
    exact ⟨fun husable => if_neg husable, fun hnone => if_pos hnone⟩

/-- What is collected fails for a descriptor that is not usable, and only then. -/
theorem collectAll_result (fds : List Fd) (data : SelectData) :
    Post (Unconverted.collectAll sets fds data) w (fun r _ =>
      (sets.AllUsable w.shared.descriptors fds → r.1 = 0) ∧
        (¬ sets.AllUsable w.shared.descriptors fds → r.1 = -EBADF)) (fun _ _ => True) := by
  induction fds generalizing data w with
  | nil => simp [Unconverted.collectAll, FdSets.AllUsable]
  | cons i rest ih =>
    unfold Unconverted.collectAll
    rw [post_ite]
    split
    · rename_i hmask
      have hreq := eventMask_ne_zero.mp hmask
      refine Post.bind (post_keepsTable (collectFDs_result data hreq)) fun r w₁ ⟨⟨hgood, hbad⟩, htable⟩ => ?_
      rw [post_ite]
      by_cases husable : (w.shared.descriptors i).Usable
      · rw [if_neg (not_not.mpr (hgood husable))]
        refine (ih r.2).imp fun r' _ hr' => ?_
        have hall : sets.AllUsable w.shared.descriptors (i :: rest) ↔ sets.AllUsable w₁.shared.descriptors rest := by
          rw [htable]
          simp [FdSets.AllUsable, husable]
        rw [hall]
        exact hr'
      · have hresult := hbad husable
        have hnot : ¬ sets.AllUsable w.shared.descriptors (i :: rest) := fun h => husable (h i (by simp) hreq)
        rw [if_pos (by rw [hresult]; decide)]
        exact ⟨fun h => (hnot h).elim, fun _ => hresult⟩
    · rename_i hmask
      have hreq : ¬ sets.Requested i := fun h => hmask (eventMask_ne_zero.mpr h)
      have hall : sets.AllUsable w.shared.descriptors (i :: rest) ↔ sets.AllUsable w.shared.descriptors rest := by
        simp [FdSets.AllUsable, hreq]
      rw [hall]
      exact ih data

/-! ## Selecting -/

theorem selectResults_reports (r : Int × SelectData) :
    Concludes id (fun a : Reply × FdSets => do return (← a.1.conclude, a.2)) (selectResults E sets r)
      (Unconverted.selectResults E sets r) :=
  .bind fun _ => .bind fun _ => .last (id_map _)

/-- The second conversion. -/
theorem selectResults_errno {r : Int × SelectData} (h : r.1 < 0) :
    Post (selectResults E sets r) w (fun _ w' => w'.thread.errno = -r.1) (fun _ _ => True) := by
  unfold selectResults
  refine Post.bind post_true fun _ w₁ _ => Post.bind post_true fun _ w₂ _ => ?_
  rw [if_pos h]
  simp [errnoReturn, h]

theorem selectResults_answer {r : Int × SelectData} (h : r.1 < 0) :
    Post (Unconverted.selectResults E sets r) w (fun a _ => a.1 = .internal r.1) (fun _ _ => True) := by
  unfold Unconverted.selectResults
  refine Post.bind post_true fun _ w₁ _ => Post.bind post_true fun _ w₂ _ => ?_
  simp [h]

end

/-- A world where `errno` has been set. -/
def World.setErrno (w : World L) (e : Int) : World L := { w with thread := { w.thread with errno := e } }

/-- While the master is running, a select is asked for usable descriptors only. -/
def SelectEnvironment.AllUsable (S : SelectEnvironment) (w : World L) (sets : FdSets) (n : Int) : Prop :=
  S.running → sets.AllUsable w.shared.descriptors (descriptorsBelow n.toNat)

section

variable {E} {w w' : World L} {sets out : FdSets} {S : SelectEnvironment} {n e : Int} {timeout : Option Timeval}

theorem conclude_runs (he : 0 < e) : Runs (Reply.internal (-e)).conclude w (-1) (w.setErrno e) := by
  have hneg : -e < 0 := by omega
  unfold Runs Reply.conclude errnoReturn
  simp only [if_pos hneg, Int.neg_neg]
  rfl

theorem waitForEvents_failed {r : Int × SelectData} (h : r.1 ≠ 0) : waitForEvents E S timeout r = pure r := by
  unfold waitForEvents
  rw [if_neg h]

/-- The rest of a select, for what has been collected. -/
theorem select_rest {r : Int × SelectData} {w₁ : World L}
    (h : Runs (Unconverted.collectAll sets (descriptorsBelow n.toNat) {}) w r w₁) :
    (do
      let r ← collectAll sets (descriptorsBelow n.toNat) {}
      let r ← waitForEvents E S timeout r
      selectResults E sets r) w =
      (do
        let result ← errnoReturn r.1
        let r ← waitForEvents E S timeout (result, r.2)
        selectResults E sets r) w₁ := by
  rw [collectAll_eq]
  simp only [bind_assoc, pure_bind]
  exact h.bind_eq

/-- A select reports its failure once if all its descriptors are usable, and only then. -/
theorem ext_select_reports_iff
    (h : Runs (Unconverted.ext_select E S n sets timeout) w (.internal (-e), out) w') (he : 0 < e) :
    Runs (Prod.fst <$> ext_select E S n sets timeout) w (-1) (w'.setErrno e) ↔ S.AllUsable w sets n := by
  unfold Unconverted.ext_select at h
  unfold ext_select
  split at h
  · rename_i hrunning
    have hkeeps : KeepsTable (updateConditionTypes.forM fun t => do
        newCondition (selectCondition t)
        addParent (selectCondition t) globalCondition : Act L Unit) := keepsTable_forM (fun _ => inferInstance) _
    have hkeepsLock : KeepsTable (lock : Act L Unit) := inferInstance
    have hkeepsNew : KeepsTable (newCondition globalCondition : Act L Unit) := inferInstance
    obtain ⟨_, w₁, hlock, h⟩ := Runs.bind_iff.mp h
    obtain ⟨_, w₂, hnew, h⟩ := Runs.bind_iff.mp h
    obtain ⟨_, w₃, hconditions, h⟩ := Runs.bind_iff.mp h
    obtain ⟨r, w₄, hcollect, h⟩ := Runs.bind_iff.mp h
    obtain ⟨r', w₅, hwait, hresults⟩ := Runs.bind_iff.mp h
    have htable : w₃.shared.descriptors = w.shared.descriptors :=
      ((hkeeps.post w₂).of_ok hconditions).trans
        (((hkeepsNew.post w₁).of_ok hnew).trans ((hkeepsLock.post w).of_ok hlock))
    obtain ⟨hgood, hbad⟩ := (collectAll_result _ _).of_ok hcollect
    rw [htable] at hgood hbad
    rw [if_pos hrunning, Runs.map_iff]
    unfold Runs
    rw [hlock.bind_eq, hnew.bind_eq, hconditions.bind_eq, select_rest hcollect]
    obtain ⟨result, data⟩ := r
    by_cases hall : sets.AllUsable w.shared.descriptors (descriptorsBelow n.toNat)
    · refine iff_of_true ⟨(-1, out), ?_, rfl⟩ fun _ => hall
      obtain rfl : result = 0 := hgood hall
      rw [errnoReturn_nonnegative (Int.lt_irrefl 0), pure_bind, hwait.bind_eq]
      exact (Concludes.id_iff.mp (selectResults_reports r') ▸ hresults.bind ((conclude_runs he).bind (.pure (-1, out) _)))
    · have hne : (-EBADF : Int) ≠ 0 := by decide
      have hneg : (-EBADF : Int) < 0 := by decide
      obtain rfl : result = -EBADF := hbad hall
      rw [waitForEvents_failed hne] at hwait
      cases hwait
      obtain rfl : e = EBADF := by
        simpa using (selectResults_answer hneg).of_ok hresults
      have hfirst : Runs (errnoReturn (-EBADF)) w₄ (-1) (w₄.setErrno EBADF) := conclude_runs he
      refine iff_of_false ?_ fun h => hall (h hrunning)
      rintro ⟨a, hrun, -⟩
      rw [hfirst.bind_eq, waitForEvents_failed (show (-1 : Int) ≠ 0 by decide), pure_bind] at hrun
      have herrno : (EBADF : Int) = 1 := (selectResults_errno (show (-1 : Int) < 0 by decide)).of_ok hrun
      exact absurd herrno (by decide)
  · rename_i hrunning
    refine (?_ : False).elim
    obtain ⟨s, w₁, -, h⟩ := Runs.bind_iff.mp h
    split at h <;> cases h

/-! ## Polling -/

/-- What a poll asks its select about. -/
def pollSetup (fdlist : List PollFd) : PollSetup := fdlist.foldl PollFd.addTo {}

/-- A poll hands on -1 from its select, and returns -1 in no other way. -/
theorem ext_poll_failed {fdlist : List PollFd} {time : Int} (hcount : ¬ 2 ^ 31 ≤ (pollSetup fdlist).fdcount)
    (hlength : ¬ 2 ^ 32 ≤ fdlist.length) (hsome : (pollSetup fdlist).fdcount ≠ 0) :
    Runs (Prod.fst <$> ext_poll E S fdlist time) w (-1) w' ↔
      Runs (Prod.fst <$> ext_select E S ((pollSetup fdlist).n + 1) (pollSetup fdlist).sets (pollTimeout time)) w (-1) w' := by
  unfold pollSetup at *
  unfold ext_poll
  simp only [if_neg hcount, if_neg hlength, if_neg hsome, Runs.map_iff, Runs.bind_iff]
  constructor
  · rintro ⟨a, ⟨r, w₁, hselect, hrest⟩, hfst⟩
    split at hrest
    · cases hrest
      exact ⟨r, hselect, hfst⟩
    · cases hrest
      dsimp only at hfst
      omega
  · rintro ⟨r, hselect, hfst⟩
    refine ⟨(r.1, fdlist.map fun p => p.check.reset), ⟨r, w', hselect, ?_⟩, hfst⟩
    rw [if_pos (by omega)]
    exact .pure _ _

theorem ext_poll_reports_iff {fdlist : List PollFd} {time : Int}
    (h : Runs (Unconverted.ext_poll E S fdlist time) w (.internal (-e)) w') (he : 0 < e) :
    Runs (Prod.fst <$> ext_poll E S fdlist time) w (-1) (w'.setErrno e) ↔
      S.AllUsable w (pollSetup fdlist).sets ((pollSetup fdlist).n + 1) := by
  unfold Unconverted.ext_poll at h
  dsimp only at h
  split at h
  · cases h
  · rename_i hcount
    split at h
    · cases h
    · rename_i hlength
      split at h
      · cases h
      · rename_i hsome
        rw [ext_poll_failed hcount hlength hsome]
        obtain ⟨⟨answer, sets⟩, w₁, hselect, hrest⟩ := Runs.bind_iff.mp h
        split at hrest
        · cases hrest
          exact ext_select_reports_iff hselect he
        · cases hrest

end

end SocketApi
