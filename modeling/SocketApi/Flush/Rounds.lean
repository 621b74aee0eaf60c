import SocketApi.Frame.Alone

/-!
# The rounds of a send

A send asks the protocol library again while its queue is full, unless the caller does not wait.
What it comes to depends on the answers only.
-/

namespace SocketApi

open Effect SCTPSocket

variable {L : Sctplib} {E : Environment L} {w : World L} {s : SocketPtr} {o : SCTPSocket} {id : AssocID}
  {buffer : List UInt8} {params : SendParams} {c : Option ConditionRef}

/-- What `sctp_send_private` is asked for on the primary path. -/
def SendParams.request (params : SendParams) (L : Sctplib) (id : AssocID) (buffer : List UInt8) (stack : L.State) :
    SendRequest where
  assocID := id
  streamID := params.streamID
  buffer := buffer.take (buffer.length % 2 ^ 32)
  protoID := params.protoID
  pathIndex := L.getPrimary stack id
  timeToLive := params.timeToLive
  unordered := params.flags.unordered
  bundlingDisabled := params.flags.unbundled

/-- The answer a send ends with, the request it is about and the state of the library behind it. -/
inductive Answered (L : Sctplib) (id : AssocID) (buffer : List UInt8) (params : SendParams) :
    L.State → SendResult → SendRequest → L.State → Prop
  | now {stack stack' : L.State} {r : SendResult} (h : L.send stack (params.request L id buffer stack) = (r, stack'))
      (hend : params.flags.dontwait = true ∨ r ≠ .queueExceeded) :
      Answered L id buffer params stack r (params.request L id buffer stack) stack'
  | later {stack stack' stack'' : L.State} {r : SendResult} {request : SendRequest}
      (h : L.send stack (params.request L id buffer stack) = (.queueExceeded, stack'))
      (hwait : params.flags.dontwait = false) (hrest : Answered L id buffer params stack' r request stack'') :
      Answered L id buffer params stack r request stack''

/-- The answers leave no choice. -/
theorem Answered.unique {stack t t' : L.State} {r r' : SendResult} {q q' : SendRequest}
    (h : Answered L id buffer params stack r q t) (h' : Answered L id buffer params stack r' q' t') :
    r' = r ∧ q' = q ∧ t' = t := by
  induction h with
  | now h hend =>
    cases h' with
    | now h₂ =>
      cases h.symm.trans h₂
      exact ⟨rfl, rfl, rfl⟩
    | later h₂ hwait =>
      cases h.symm.trans h₂
      simp [hwait] at hend
  | later h hwait _ ih =>
    cases h' with
    | now h₂ hend =>
      cases h.symm.trans h₂
      simp [hwait] at hend
    | later h₂ _ hrest =>
      cases h.symm.trans h₂
      exact ih hrest

/-- A request that a send ends with is made from its parameters. -/
theorem Answered.request {stack t : L.State} {r : SendResult} {q : SendRequest}
    (h : Answered L id buffer params stack r q t) : ∃ stack', q = params.request L id buffer stack' := by
  induction h with
  | now => exact ⟨_, rfl⟩
  | later _ _ _ ih => exact ih

/-- The state after a send that came to `r` with the request `q`. -/
structure Sent (t : Shared L) (r : SendResult) (q : SendRequest) (stack : L.State) (t' : Shared L) : Prop where
  stack : t'.stack = stack
  log : t'.sendLog = t.sendLog ++ if r = .success then [q] else []
  associations : t'.associations = t.associations
  sockets : t'.sockets = t.sockets

/-- One round of the loop of `internalSend` with its wait, given the rounds after it. -/
def sendRound (E : Environment L) (buffer : List UInt8) (assocID : AssocID) (params : SendParams)
    (waitCondition : Option ConditionRef) (rest : Act L SendResult) : Act L SendResult := do
  lock
  let result ← sendAttempt assocID buffer params none
  if result = .queueExceeded ∧ !params.flags.dontwait then
    waitForRoom E waitCondition
  unlock E
  if !params.flags.dontwait ∧ result = .queueExceeded then rest else return result

theorem sendRounds_eq :
    sendRounds E buffer id params c none = loop .waiting (sendRound E buffer id params c) E.patience :=
  rfl

theorem runs_sendAttempt {r : SendResult} {stack : L.State}
    (h : L.send w.shared.stack (params.request L id buffer w.shared.stack) = (r, stack)) :
    Runs (sendAttempt id buffer params none) w r (w.with { w.shared with
      stack, sendLog := w.shared.sendLog ++ if r = .success then [params.request L id buffer w.shared.stack] else [] }) := by
  refine .bind runs_shared ?_
  simp only [Option.isSome_none, Bool.false_and, Bool.false_eq_true, if_false]
  refine .bind (.pure _ _) (.bind (runs_library h) ?_)
  by_cases hr : r = .success
  · rw [if_pos hr, if_pos hr]
    exact .bind (runs_update _) (.pure _ _)
  · rw [if_neg hr, if_neg hr, List.append_nil]
    exact .pure _ _

/-! ## Rounds of a thread alone -/

section

variable {H : Halt → Prop} {r : SendResult} {stack : L.State}

/-- The wait for room changes conditions only. -/
theorem Alone.waitForRoom {v : World L} (hw : Alone E w) (hl : v.thread.lockLevel = w.thread.lockLevel + 1) :
    LevelPost (SCTPSocket.waitForRoom E c) v (fun _ t => ∃ conditions, t = { v.shared with conditions }) H := by
  unfold SCTPSocket.waitForRoom
  cases c with
  | none => exact ⟨rfl, v.shared.conditions, rfl⟩
  | some c =>
    unfold LevelPost
    refine Post.bind ((hw.unlock hl).mono (fun _ _ h => h) fun _ _ h => h.elim) fun _ w₁ ⟨hl₁, hs₁⟩ => ?_
    rw [post_bind, post_discard]
    refine Post.imp ((hw.level hl₁).timedWait c) fun _ w₂ ⟨hl₂, conditions, hs₂⟩ => ?_
    rw [runs_lock.post, World.up_lockLevel, hl₂, hl₁, hl]
    exact ⟨rfl, conditions, by rw [World.up_shared, hs₂, hs₁]⟩

theorem Alone.sendRound_last {rest : Act L SendResult} (hw : Alone E w)
    (h : L.send w.shared.stack (params.request L id buffer w.shared.stack) = (r, stack))
    (hend : params.flags.dontwait = true ∨ r ≠ .queueExceeded) :
    LevelPost (sendRound E buffer id params c rest) w
      (fun r' t => r' = r ∧ Sent w.shared r (params.request L id buffer w.shared.stack) stack t) H := by
  have hnowait : ¬ (r = .queueExceeded ∧ (!params.flags.dontwait) = true) := by
    rcases hend with hdont | hr
    · simp [hdont]
    · exact fun h => hr h.1
  unfold LevelPost sendRound
  rw [post_bind, runs_lock.post, post_bind, (runs_sendAttempt (w := w.up) h).post, post_ite, if_neg hnowait]
  refine Post.bind ((hw.unlock rfl).mono (fun _ _ h => h) fun _ _ h => h.elim) fun _ w' ⟨hl, hs⟩ => ?_
  rw [post_ite, if_neg (fun h => hnowait ⟨h.2, h.1⟩)]
  refine ⟨hl, rfl, ?_⟩
  rw [hs]
  exact ⟨rfl, rfl, rfl, rfl⟩

theorem Alone.sendRound_again {rest : Act L SendResult} {P : SendResult → Shared L → Prop} (hw : Alone E w)
    (h : L.send w.shared.stack (params.request L id buffer w.shared.stack) = (.queueExceeded, stack))
    (hwait : params.flags.dontwait = false)
    (hrest : ∀ w', w'.thread.lockLevel = w.thread.lockLevel →
      (∃ conditions, w'.shared = { w.shared with stack, conditions }) → LevelPost rest w' P H) :
    LevelPost (sendRound E buffer id params c rest) w P H := by
  unfold LevelPost sendRound
  rw [post_bind, runs_lock.post, post_bind, (runs_sendAttempt (w := w.up) h).post, post_ite, if_pos (by simp [hwait])]
  have hfull : ¬ SendResult.queueExceeded = .success := SendResult.noConfusion
  rw [if_neg hfull, List.append_nil]
  refine Post.bind (hw.waitForRoom rfl) fun _ w₁ ⟨hl₁, conditions, hs₁⟩ => ?_
  refine Post.bind ((hw.unlock hl₁).mono (fun _ _ h => h) fun _ _ h => h.elim) fun _ w₂ ⟨hl₂, hs₂⟩ => ?_
  rw [post_ite, if_pos (by simp [hwait])]
  exact Post.imp (hrest w₂ hl₂ ⟨conditions, by rw [hs₂, hs₁]; rfl⟩) fun _ _ h => ⟨h.1.trans hl₂, h.2⟩

/-- What a loop of rounds returns, if its rounds are enough. -/
theorem Alone.sendLoop (hw : Alone E w) (n : Nat) :
    LevelPost (loop .waiting (sendRound E buffer id params c) n) w
      (fun r t => ∃ q stack, Answered L id buffer params w.shared.stack r q stack ∧ Sent w.shared r q stack t)
      fun h => h = .waiting := by
  have hround (rest : Act L SendResult) (hrest : ∀ w, Alone E w → LevelPost rest w
      (fun r t => ∃ q stack, Answered L id buffer params w.shared.stack r q stack ∧ Sent w.shared r q stack t)
      fun h => h = .waiting) : ∀ w, Alone E w → LevelPost (sendRound E buffer id params c rest) w
      (fun r t => ∃ q stack, Answered L id buffer params w.shared.stack r q stack ∧ Sent w.shared r q stack t)
      fun h => h = .waiting := by
    intro w hw
    rcases hsend : L.send w.shared.stack (params.request L id buffer w.shared.stack) with ⟨r, stack⟩
    by_cases hend : params.flags.dontwait = true ∨ r ≠ .queueExceeded
    · refine (hw.sendRound_last hsend hend).imp fun r' t ⟨hr, hsent⟩ => ?_
      subst hr
      exact ⟨_, stack, .now hsend hend, hsent⟩
    · obtain ⟨hwait, hr⟩ := not_or.mp hend
      obtain rfl : r = .queueExceeded := not_not.mp hr
      have hwait : params.flags.dontwait = false := by simpa using hwait
      refine hw.sendRound_again hsend hwait fun w' hl ⟨conditions, hs⟩ => ?_
      refine (hrest w' (hw.level hl)).imp fun r t ⟨q, stack', hanswered, hsent⟩ => ?_
      rw [hs] at hanswered hsent
      exact ⟨q, stack', .later hsend hwait hanswered, hsent.stack, hsent.log, hsent.associations, hsent.sockets⟩
  induction n generalizing w with
  | zero => exact hround _ (fun _ _ => (post_throw Halt.waiting).mpr rfl) w hw
  | succ n ih => exact hround _ (fun _ hw => ih hw) w hw

/-- A send that is answered at last ends in enough rounds. -/
theorem Answered.rounds {stack stack' : L.State} {q : SendRequest} (h : Answered L id buffer params stack r q stack') :
    ∃ N, ∀ (E : Environment L) w n, Alone E w → w.shared.stack = stack → N ≤ n →
      LevelPost (loop .waiting (sendRound E buffer id params c) n) w (fun _ _ => True) fun _ => False := by
  induction h with
  | now hsend hend =>
    refine ⟨0, fun E w n hw hstack _ => ?_⟩
    rw [← hstack] at hsend
    cases n with
    | zero => exact (hw.sendRound_last hsend hend).imp fun _ _ _ => trivial
    | succ n => exact (hw.sendRound_last hsend hend).imp fun _ _ _ => trivial
  | later hsend hwait _ ih =>
    obtain ⟨N, hN⟩ := ih
    refine ⟨N + 1, fun E w n hw hstack hn => ?_⟩
    rw [← hstack] at hsend
    obtain ⟨n, rfl⟩ : ∃ m, n = m + 1 := ⟨n - 1, by omega⟩
    refine hw.sendRound_again hsend hwait fun w' hl ⟨conditions, hs⟩ => ?_
    exact hN E w' n (hw.level hl) (by rw [hs]) (by omega)

end

/-! ## A whole send -/

/-- The sockets find the same associations as before. -/
def SameLists (t t' : Shared L) : Prop :=
  ∀ k, (t'.sockets k).map (·.associationList) = (t.sockets k).map (·.associationList)

theorem SameLists.socket {t t' : Shared L} (h : SameLists t t') (ho : t.sockets s = some o) :
    ∃ o', t'.sockets s = some o' ∧ o'.associationList = o.associationList := by
  have hs := h s
  rw [ho] at hs
  exact Option.map_eq_some_iff.mp hs

theorem SameLists.live {t t' : Shared L} (h : SameLists t t') (ha : t'.associations = t.associations)
    (hlive : Live t s) :
    Live t' s := by
  intro o' id p ho' hp
  have h' : SameLists t' t := fun k => (h k).symm
  obtain ⟨o, ho, hlist⟩ := h'.socket ho'
  rw [ha]
  exact hlive o id p ho (hlist ▸ hp)

theorem sameLists_setSocket (t : Shared L) (k : SocketPtr) {f : SCTPSocket → SCTPSocket}
    (hf : ∀ o, (f o).associationList = o.associationList) : SameLists t (t.setSocket k f) := by
  intro j
  simp only [Shared.setSocket, Function.update_apply]
  split
  · subst j
    rw [Option.map_map]
    exact Option.map_congr fun o _ => hf o
  · rfl

/-- How `internalSend` ends: with the error of the association, or with an answer. -/
inductive SendEnd (L : Sctplib) (o : SCTPSocket) (id : AssocID) (buffer : List UInt8) (params : SendParams) (t : Shared L) :
    Int → Shared L → Prop
  | refused {result : Int} {t' : Shared L} (herror : t.errorCodeOf o id ≠ 0) (hresult : result = t.errorCodeOf o id)
      (ht : t' = t.afterErrorCode o id) : SendEnd L o id buffer params t result t'
  | answered {r : SendResult} {q : SendRequest} {stack : L.State} {t' : Shared L} (herror : t.errorCodeOf o id = 0)
      (h : Answered L id buffer params t.stack r q stack) (hstack : t'.stack = stack)
      (hlog : t'.sendLog = t.sendLog ++ if r = .success then [q] else []) (hassociations : t'.associations = t.associations)
      (hlists : SameLists t t') : SendEnd L o id buffer params t (sendReturn buffer.length r) t'

theorem afterErrorCode_zero {t : Shared L} (h : t.errorCodeOf o id = 0) : t.afterErrorCode o id = t := by
  unfold Shared.afterErrorCode
  cases o.associationList.find id with
  | none => rfl
  | some p => exact if_pos h

theorem Alone.internalSend (hw : Alone E w) (ho : w.shared.sockets s = some o) (hlive : Live w.shared s) :
    LevelPost (SCTPSocket.internalSend E s buffer id params c none) w (SendEnd L o id buffer params w.shared)
      fun h => h = .waiting := by
  unfold SCTPSocket.internalSend
  refine (hw.getErrorCode ho hlive id).bind fun code w₁ hl₁ ⟨hcode, hs₁⟩ => ?_
  subst hcode
  by_cases herror : w.shared.errorCodeOf o id = 0
  · rw [afterErrorCode_zero herror] at hs₁
    rw [if_neg (not_not.mpr herror), sendRounds_eq]
    refine ((hw.level hl₁).sendLoop E.patience).bind fun r w₂ hl₂ ⟨q, stack, hanswered, hsent⟩ => ?_
    rw [hs₁] at hanswered hsent
    have ho₂ : w₂.shared.sockets s = some o := by rw [hsent.sockets, ho]
    have hset : LevelPost (setSocket s fun o => { o with writeReady := r ≠ .queueExceeded }) w₂
        (fun _ t => t = w₂.shared.setSocket s fun o => { o with writeReady := r ≠ .queueExceeded })
        fun h => h = .waiting := levelPost_of_runs (runs_setSocket ho₂ _) rfl
    refine hset.bind fun _ w₃ _ hs₃ => levelPost_pure ?_
    refine .answered herror hanswered ?_ ?_ ?_ ?_
    · rw [hs₃]
      exact hsent.stack
    · rw [hs₃]
      exact hsent.log
    · rw [hs₃]
      exact hsent.associations
    · rw [hs₃]
      intro k
      rw [← hsent.sockets]
      refine sameLists_setSocket w₂.shared s ?_ k
      exact fun _ => rfl
  · rw [if_pos herror]
    exact levelPost_pure (.refused herror rfl hs₁)

/-- A send ends if its rounds do. -/
theorem Alone.internalSend_returns (hw : Alone E w) (ho : w.shared.sockets s = some o) (hlive : Live w.shared s)
    (hrounds : w.shared.errorCodeOf o id = 0 → ∀ w', Alone E w' → w'.shared.stack = w.shared.stack →
      LevelPost (loop .waiting (sendRound E buffer id params c) E.patience) w' (fun _ _ => True) fun _ => False) :
    LevelPost (SCTPSocket.internalSend E s buffer id params c none) w (fun _ _ => True) fun _ => False := by
  unfold SCTPSocket.internalSend
  refine (hw.getErrorCode ho hlive id).bind fun code w₁ hl₁ ⟨hcode, hs₁⟩ => ?_
  subst hcode
  by_cases herror : w.shared.errorCodeOf o id = 0
  · rw [afterErrorCode_zero herror] at hs₁
    rw [if_neg (not_not.mpr herror), sendRounds_eq]
    have hloop := hrounds herror w₁ (hw.level hl₁) (by rw [hs₁])
    refine Post.bind ((Post.and hloop ((hw.level hl₁).sendLoop E.patience)).mono (fun _ _ h => h) fun _ _ h => h.1)
      fun r w₂ ⟨⟨hl₂, _⟩, _, q, stack, _, hsent⟩ => ?_
    have ho₂ : w₂.shared.sockets s = some o := by rw [hsent.sockets, hs₁, ho]
    rw [post_bind, (runs_setSocket ho₂ _).post]
    exact ⟨hl₂, trivial⟩
  · rw [if_pos herror]
    exact levelPost_pure trivial

end SocketApi
