import SocketApi.Flush.Agreement
import SocketApi.Options.View
import SocketApi.Associations.ByID

/-!
# What a send with the defaults hands over

The settings of an association are its defaults and the timeouts of its streams. A send with the defaults looks
the timeout of the default stream up, and hands over the `TimeToLive` of the defaults all the same.
-/

namespace SocketApi

open Effect SCTPSocket ExtSocketDescriptorMaster

variable {L : Sctplib} {E : Environment L} {w : World L} {s : SocketPtr} {o : SCTPSocket} {p q : AssocPtr}
  {a : SCTPAssociation} {buffer : List UInt8} {params : SendParams}

/-! ## Settings -/

/-- The options `SCTP_SET_STREAM_TIMEOUTS` and `SCTP_SET_DEFAULT_SEND_PARAM`. -/
inductive Change where
  | streamTimeouts (assocID : AssocID) (call : TimeoutsCall)
  | defaultSendParam (sndrcvinfo : SctpSndrcvinfo)

def Change.optval : Change → SockOpt
  | streamTimeouts assocID call => .streamTimeouts assocID call.timeout call.start call.stop
  | defaultSendParam sndrcvinfo => .defaultSendParam sndrcvinfo

/-- A call of `ext_setsockopt`. -/
structure DefaultSetting where
  sockfd : Int
  change : Change
  fits : Bool

def DefaultSetting.run (E : Environment L) (setting : DefaultSetting) : Act L Int :=
  ext_setsockopt E setting.sockfd setting.change.optval setting.fits

def runSettings (E : Environment L) : List DefaultSetting → Act L Unit
  | [] => return
  | setting :: rest => do
    discard (setting.run E)
    runSettings E rest

/-- The association the change is made to: that of the descriptor, or the first one of its socket. -/
def DefaultSetting.reaches (t : Shared L) (setting : DefaultSetting) : Option AssocPtr :=
  match getSocket setting.sockfd, setting.fits with
  | some slot, true =>
    match t.descriptors slot with
    | .sctp desc => desc.dispatch some (fun s => (t.sockets s).bind fun o => o.connectionlessAssociationList.head?.map (·.2)) none
    | _ => none
  | _, _ => none

def SctpSndrcvinfo.defaults (sndrcvinfo : SctpSndrcvinfo) : AssocIODefaults where
  streamID := sndrcvinfo.sinfo_stream
  protoID := sndrcvinfo.sinfo_ppid
  timeToLive := sndrcvinfo.sinfo_timetolive
  context := sndrcvinfo.sinfo_context

/-- What has been configured: the defaults, and the calls that have set timeouts. -/
structure Configured where
  defaults : AssocIODefaults
  calls : List TimeoutsCall := []

/-- A call sets timeouts if it has a range, and if the array reaches so far or there is memory for one that does. -/
def Configured.Obeys (E : Environment L) (c : Configured) (call : TimeoutsCall) : Prop :=
  call.start ≤ call.stop ∧ (call.stop < (c.calls.foldl TimeoutsCall.apply []).length ∨ E.allocates .timeoutArray = true)

instance (c : Configured) (call : TimeoutsCall) : Decidable (c.Obeys E call) :=
  inferInstanceAs (Decidable (_ ∧ _))

def Configured.step (E : Environment L) (c : Configured) : Change → Configured
  | .streamTimeouts _ call => if c.Obeys E call then { c with calls := c.calls ++ [call] } else c
  | .defaultSendParam sndrcvinfo => { c with defaults := sndrcvinfo.defaults }

/-- What the settings that reach an association configure, which had these defaults and no timeouts. -/
def configured (E : Environment L) (t : Shared L) (p : AssocPtr) (defaults : AssocIODefaults)
    (settings : List DefaultSetting) :
    Configured :=
  ((settings.filter fun setting => setting.reaches t = some p).map (·.change)).foldl (Configured.step E) { defaults }

/-- The timeout that was last configured for the stream of the defaults. -/
def Configured.timeout (c : Configured) : Option Nat := (lastCovering c.calls c.defaults.streamID).map (·.timeout)

/-- The request has the stream and the PPID of the defaults, and for its lifetime the timeout of the stream, or
else the `TimeToLive` of the defaults. -/
def Configured.IsUsed (c : Configured) (request : SendRequest) : Prop :=
  request.streamID = c.defaults.streamID ∧ request.protoID = c.defaults.protoID ∧
    request.timeToLive = c.timeout.getD c.defaults.timeToLive

/-! ## What the settings change -/

/-- A change, made to an association. -/
def Change.apply (E : Environment L) (a : SCTPAssociation) : Change → SCTPAssociation
  | streamTimeouts _ call => (ByID.timeoutsSet E a call.timeout call.start call.stop).2
  | defaultSendParam sndrcvinfo => { a with defaults := sndrcvinfo.defaults }

theorem Change.apply_eq (E : Environment L) (a : SCTPAssociation) (change : Change) :
    ∃ defaults timeouts, change.apply E a = { a with defaults := defaults, streamDefaultTimeoutArray := timeouts } := by
  cases change with
  | streamTimeouts assocID call =>
    unfold apply ByID.timeoutsSet
    dsimp only
    split
    · exact ⟨a.defaults, a.streamDefaultTimeoutArray, rfl⟩
    · split
      · exact ⟨a.defaults, a.streamDefaultTimeoutArray, rfl⟩
      · exact ⟨a.defaults, _, rfl⟩
  | defaultSendParam sndrcvinfo => exact ⟨_, a.streamDefaultTimeoutArray, rfl⟩

/-- The association holds what has been configured. -/
structure Configured.Holds (c : Configured) (a : SCTPAssociation) : Prop where
  defaults : a.defaults = c.defaults
  timeouts : a.streamDefaultTimeoutArray = c.calls.foldl TimeoutsCall.apply []

theorem Configured.Holds.step {c : Configured} (h : c.Holds a) (change : Change) :
    (c.step E change).Holds (change.apply E a) := by
  cases change with
  | streamTimeouts assocID call =>
    unfold Configured.step Change.apply ByID.timeoutsSet
    dsimp only
    by_cases hrange : call.stop < call.start
    · have hno : ¬ c.Obeys E call := fun hobeys => absurd hobeys.1 (by omega)
      rw [if_pos hrange, if_neg hno]
      exact h
    rw [if_neg hrange]
    by_cases hmemory : a.streamDefaultTimeoutArray.length < call.stop + 1 ∧ (!E.allocates .timeoutArray) = true
    · have hno : ¬ c.Obeys E call := by
        rintro ⟨-, hsize | hallocates⟩
        · rw [← h.timeouts] at hsize
          omega
        · simp [hallocates] at hmemory
      rw [if_pos hmemory, if_neg hno]
      exact h
    · have hobeys : c.Obeys E call := by
        refine ⟨by omega, ?_⟩
        rw [← h.timeouts]
        by_contra hno
        push Not at hno
        exact hmemory ⟨by omega, by simpa using hno.2⟩
      rw [if_neg hmemory, if_pos hobeys]
      refine ⟨h.defaults, ?_⟩
      rw [List.foldl_append, ← h.timeouts]
      exact (if_neg hrange).symm
  | defaultSendParam sndrcvinfo => exact ⟨rfl, h.timeouts⟩

/-! ## What a setting does -/

/-- The state after a setting. -/
def DefaultSetting.effect (E : Environment L) (t : Shared L) (setting : DefaultSetting) : Shared L :=
  match setting.reaches t with
  | some q => t.setAssociation q (setting.change.apply E)
  | none => t

/-- If the program returns, it leaves this state, and nothing happens between its end and the next call. -/
def Leaves (E : Environment L) {α : Type} (x : Act L α) (w : World L) (t : Shared L) : Prop :=
  Post x w (fun _ w' => w'.shared = t ∧ Alone E w') fun _ _ => True

theorem leaves_errnoReturn (h : Alone E w) (result : Int) : Leaves E (errnoReturn result) w w.shared := by
  refine (Denotes.errnoReturn result w).mono (fun _ w' ⟨hs, hl⟩ => ?_) fun _ _ _ => trivial
  exact ⟨(Prod.mk.inj (Option.some.inj hs)).2.symm, h.level hl⟩

theorem leaves_bind {α β : Type} {x : Act L α} {f : α → Act L β} {t : Shared L} (hx : Leaves E x w t)
    (hf : ∀ a w', Alone E w' → Leaves E (f a) w' w'.shared) : Leaves E (x >>= f) w t := by
  refine Post.bind hx fun a w' ⟨hs, hw'⟩ => ?_
  subst hs
  exact hf a w' hw'

theorem leaves_discard {α : Type} {x : Act L α} {t : Shared L} (hx : Leaves E x w t) : Leaves E (discard x) w t := by
  unfold Leaves
  rw [post_discard]
  exact hx

theorem leaves_of_levelPost {α : Type} {x : Act L α} {t : Shared L} (h : Alone E w)
    (hx : LevelPost x w (fun _ t' => t' = t) fun _ => True) : Leaves E x w t :=
  Post.mono hx (fun _ _ ⟨hl, hs⟩ => ⟨hs, h.level hl⟩) fun _ _ h => h

theorem setAssociation_none {t : Shared L} (ha : t.associations q = none) (f : SCTPAssociation → SCTPAssociation) :
    t.setAssociation q f = t := by
  unfold Shared.setAssociation
  rw [ha, Option.map_none, ← ha, Function.update_eq_self]

theorem leaves_setTimeouts (h : Alone E w) (q : AssocPtr) (call : TimeoutsCall) :
    Leaves E (SCTPAssociation.setDefaultStreamTimeouts E q call.timeout call.start call.stop) w
      (w.shared.setAssociation q fun a => (ByID.timeoutsSet E a call.timeout call.start call.stop).2) := by
  unfold SCTPAssociation.setDefaultStreamTimeouts
  by_cases hrange : call.stop < call.start
  · have hsame : (w.shared.setAssociation q fun a => (ByID.timeoutsSet E a call.timeout call.start call.stop).2) = w.shared := by
      cases ha : w.shared.associations q with
      | none => exact setAssociation_none ha _
      | some a =>
        rw [ByID.setAssociation_const ha]
        unfold ByID.timeoutsSet
        rw [if_pos hrange, ByID.setAssociation_same ha]
    rw [if_pos hrange, hsame]
    exact ⟨rfl, h⟩
  · rw [if_neg hrange]
    refine leaves_of_levelPost h (h.locked ?_)
    cases ha : w.shared.associations q with
    | none =>
      unfold LevelPost
      rw [post_bind, post_associationAt, World.up_shared, ha]
      trivial
    | some a =>
      rw [ByID.setAssociation_const ha]
      exact levelPost_of_runs (ByID.runs_timeoutsSet_locked (w := w.up) hrange ha) rfl

theorem leaves_setDefaults (h : Alone E w) (q : AssocPtr) (defaults : AssocIODefaults) :
    Leaves E (SCTPAssociation.setAssocIODefaults E q defaults) w (w.shared.setAssociation q fun a => { a with defaults }) := by
  refine leaves_of_levelPost h (h.locked ?_)
  cases ha : w.shared.associations q with
  | none =>
    unfold LevelPost
    rw [post_setAssociation, World.up_shared, ha]
    trivial
  | some a => exact levelPost_of_runs (runs_setAssociation (w := w.up) ha _) rfl

/-- An operation of the first association, with the lock taken for good. -/
theorem leaves_onFirstLocked {α : Type} {f : AssocPtr → Act L α} {g : SCTPAssociation → SCTPAssociation}
    (hf : ∀ q w, Alone E w → Leaves E (f q) w (w.shared.setAssociation q g)) (s : SocketPtr) (w : World L) :
    Leaves E (onFirstLocked s f) w
      (match (w.shared.sockets s).bind fun o => o.connectionlessAssociationList.head?.map (·.2) with
      | some q => w.shared.setAssociation q g
      | none => w.shared) := by
  unfold onFirstLocked Leaves
  rw [post_bind, runs_lock.post, post_bind, post_socketAt]
  cases ho : w.up.shared.sockets s with
  | none => trivial
  | some o =>
    have ho' : w.shared.sockets s = some o := ho
    dsimp only
    cases hlist : o.connectionlessAssociationList with
    | nil =>
      rw [ho']
      simp only [Option.bind_some, hlist, List.head?_nil, Option.map_none]
      exact ⟨rfl, .up⟩
    | cons e rest =>
      rw [ho']
      simp only [Option.bind_some, hlist, List.head?_cons, Option.map_some]
      rw [post_bind, post_discard, post_associationAt]
      cases w.up.shared.associations e.2 with
      | none => trivial
      | some a =>
        dsimp only
        exact leaves_bind (hf e.2 w.up .up) fun _ _ h => ⟨rfl, h⟩

/-- A choice that ends with the return value. -/
theorem leaves_dispatch (desc : SCTPSocketDesc) {onAssociation : AssocPtr → Act L Int}
    {onSocket : SocketPtr → Act L Int} {neither : Act L Int} {g : SCTPAssociation → SCTPAssociation}
    (hassociation : ∀ q, Leaves E (onAssociation q) w (w.shared.setAssociation q g))
    (hsocket : ∀ s, Leaves E (onSocket s) w
      (match (w.shared.sockets s).bind fun o => o.connectionlessAssociationList.head?.map (·.2) with
      | some q => w.shared.setAssociation q g
      | none => w.shared))
    (hneither : Leaves E neither w w.shared) :
    Leaves E (desc.dispatch onAssociation onSocket neither) w
      (match desc.dispatch some (fun s => (w.shared.sockets s).bind fun o =>
          o.connectionlessAssociationList.head?.map (·.2)) none with
      | some q => w.shared.setAssociation q g
      | none => w.shared) := by
  rcases desc.shape with ⟨q, -, -, hdesc⟩ | ⟨s, -, hdesc⟩ | hdesc
  · rw [hdesc, hdesc]
    exact hassociation q
  · rw [hdesc, hdesc]
    exact hsocket s
  · rw [hdesc, hdesc]
    exact hneither

theorem leaves_setOption (h : Alone E w) (sockfd : Int) (slot : Nat) (desc : SCTPSocketDesc) (change : Change) :
    Leaves E (setOption E sockfd slot desc change.optval true) w
      (match desc.dispatch some (fun s => (w.shared.sockets s).bind fun o =>
          o.connectionlessAssociationList.head?.map (·.2)) none with
      | some q => w.shared.setAssociation q (change.apply E)
      | none => w.shared) := by
  have hanswer (ok : Bool) (v : World L) (hv : Alone E v) :
      Leaves E (if ok then return 0 else errnoReturn (-EINVAL)) v v.shared := by
    split
    · exact ⟨rfl, hv⟩
    · exact leaves_errnoReturn hv _
  cases change with
  | streamTimeouts assocID call =>
    change Leaves E (setDefaultStreamTimeouts E desc assocID call.timeout call.start call.stop) w _
    refine leaves_dispatch desc (fun q => ?_) (fun s => ?_) (leaves_errnoReturn h _)
    · exact leaves_bind (leaves_discard (leaves_setTimeouts h q call)) fun _ v hv => ⟨rfl, hv⟩
    · have hfirst := leaves_onFirstLocked (fun q w h => leaves_setTimeouts (E := E) h q call) s w
      exact leaves_bind (leaves_bind hfirst fun _ v hv => ⟨rfl, hv⟩) hanswer
  | defaultSendParam sndrcvinfo =>
    change Leaves E (setDefaultSendParams E desc sndrcvinfo) w _
    refine leaves_dispatch desc (fun q => ?_) (fun s => ?_) (leaves_errnoReturn h _)
    · exact leaves_bind (leaves_setDefaults h q sndrcvinfo.defaults) fun _ v hv => leaves_errnoReturn hv 0
    · have hfirst := leaves_onFirstLocked (fun q w h => leaves_setDefaults (E := E) h q sndrcvinfo.defaults) s w
      refine leaves_bind (leaves_bind hfirst fun _ v hv => ⟨rfl, hv⟩) fun ok v hv => ?_
      split <;> exact leaves_errnoReturn hv _

theorem leaves_setting (h : Alone E w) (setting : DefaultSetting) :
    Leaves E (setting.run E) w (setting.effect E w.shared) := by
  obtain ⟨sockfd, change, fits⟩ := setting
  unfold DefaultSetting.run ext_setsockopt DefaultSetting.effect DefaultSetting.reaches
  dsimp only
  cases getSocket sockfd with
  | none => exact leaves_errnoReturn h _
  | some slot =>
    dsimp only
    unfold Leaves
    rw [post_bind, ExtSocketDescriptorMaster.descriptorAt, post_bind, post_shared, post_pure]
    cases fits with
    | true =>
      dsimp only
      cases w.shared.descriptors slot with
      | sctp desc => exact leaves_setOption h sockfd slot desc change
      | system systemSocketID => exact ⟨rfl, h⟩
      | invalid => exact leaves_errnoReturn h _
    | false =>
      have hmisfit (desc : SCTPSocketDesc) :
          Leaves E (setOption E sockfd slot desc change.optval false) w w.shared := by
        cases change <;> exact leaves_bind (leaves_errnoReturn h (-EINVAL)) fun r _ hv => (⟨rfl, hv⟩ : Leaves E (pure r) _ _)
      dsimp only
      cases w.shared.descriptors slot with
      | sctp desc => exact hmisfit desc
      | system systemSocketID => exact ⟨rfl, h⟩
      | invalid => exact leaves_errnoReturn h _

/-! ## A sequence of settings -/

/-- Settings change associations only, and of them the defaults and the timeouts only. -/
structure OnlyConfigured (t t' : Shared L) : Prop where
  descriptors : t'.descriptors = t.descriptors
  sockets : t'.sockets = t.sockets
  associations : ∀ q, (t'.associations q).map (fun a => { a with defaults := {}, streamDefaultTimeoutArray := [] }) =
    (t.associations q).map fun a => { a with defaults := {}, streamDefaultTimeoutArray := [] }

theorem OnlyConfigured.trans {t t' t'' : Shared L} (h : OnlyConfigured t t') (h' : OnlyConfigured t' t'') :
    OnlyConfigured t t'' :=
  ⟨h'.descriptors.trans h.descriptors, h'.sockets.trans h.sockets,
    fun q => (h'.associations q).trans (h.associations q)⟩

theorem DefaultSetting.onlyConfigured (setting : DefaultSetting) (t : Shared L) :
    OnlyConfigured t (setting.effect E t) := by
  unfold DefaultSetting.effect
  split
  · rename_i q _
    refine ⟨rfl, rfl, fun r => ?_⟩
    simp only [Shared.setAssociation, Function.update_apply]
    split
    · subst r
      rw [Option.map_map]
      refine Option.map_congr fun a _ => ?_
      obtain ⟨defaults, timeouts, happly⟩ := setting.change.apply_eq E a
      simp only [Function.comp, happly]
    · rfl
  · exact ⟨rfl, rfl, fun _ => rfl⟩

theorem OnlyConfigured.reaches {t t' : Shared L} (h : OnlyConfigured t t') (setting : DefaultSetting) :
    setting.reaches t' = setting.reaches t := by
  unfold DefaultSetting.reaches
  rw [h.descriptors, h.sockets]

/-- What is known of an association behind a sequence of settings. -/
structure Behind (t : Shared L) (p : AssocPtr) (c : Configured) (t' : Shared L) : Prop where
  only : OnlyConfigured t t'
  holds : ∃ a, t'.associations p = some a ∧ c.Holds a

theorem DefaultSetting.behind {t t' : Shared L} {c : Configured} (h : Behind t p c t') (setting : DefaultSetting) :
    Behind t p (if setting.reaches t = some p then c.step E setting.change else c) (setting.effect E t') := by
  refine ⟨h.only.trans (setting.onlyConfigured t'), ?_⟩
  obtain ⟨a, ha, hholds⟩ := h.holds
  unfold DefaultSetting.effect
  rw [h.only.reaches]
  by_cases hreaches : setting.reaches t = some p
  · rw [if_pos hreaches, hreaches]
    exact ⟨_, setAssociation_associations ha _, hholds.step _⟩
  · rw [if_neg hreaches]
    split
    · rename_i q hq
      have hne : p ≠ q := by
        rintro rfl
        exact hreaches hq
      exact ⟨a, by simpa [Shared.setAssociation, hne] using ha, hholds⟩
    · exact ⟨a, ha, hholds⟩

theorem post_runSettings {t : Shared L} {c : Configured} (settings : List DefaultSetting) (hw : Alone E w)
    (h : Behind t p c w.shared) :
    Post (runSettings E settings) w
      (fun _ w' => Alone E w' ∧ Behind t p
        (((settings.filter fun setting => setting.reaches t = some p).map (·.change)).foldl (Configured.step E) c) w'.shared)
      fun _ _ => True := by
  induction settings generalizing w c with
  | nil => exact ⟨hw, h⟩
  | cons setting settings ih =>
    unfold runSettings
    refine Post.bind (leaves_discard (leaves_setting hw setting)) fun _ w' ⟨hs, hw'⟩ => ?_
    have h' := setting.behind (E := E) h
    rw [← hs] at h'
    refine (ih hw' h').imp fun _ w'' h'' => ?_
    rw [List.filter_cons]
    by_cases hreaches : setting.reaches t = some p
    · simpa [hreaches] using h''
    · simpa [hreaches] using h''

/-! ## What a send hands over -/

/-- The requests that have been accepted since then have the stream, the PPID and the lifetime of the parameters. -/
def Hand (params : SendParams) (t t' : Shared L) : Prop :=
  ∃ requests, t'.sendLog = t.sendLog ++ requests ∧ ∀ request ∈ requests,
    request.streamID = params.streamID ∧ request.protoID = params.protoID ∧ request.timeToLive = params.timeToLive

theorem Hand.of_log {t t' : Shared L} (h : t'.sendLog = t.sendLog) : Hand params t t' :=
  ⟨[], by rw [h, List.append_nil], nofun⟩

theorem Hand.trans {t t' t'' : Shared L} (h : Hand params t t') (h' : Hand params t' t'') : Hand params t t'' := by
  obtain ⟨requests, hlog, hall⟩ := h
  obtain ⟨requests', hlog', hall'⟩ := h'
  refine ⟨requests ++ requests', by rw [hlog', hlog, List.append_assoc], fun request hrequest => ?_⟩
  rcases List.mem_append.mp hrequest with hrequest | hrequest
  · exact hall request hrequest
  · exact hall' request hrequest

theorem hand_request {t : Shared L} (hs : w.shared = t) {request : SendRequest}
    (hstream : request.streamID = params.streamID)
    (hproto : request.protoID = params.protoID) (httl : request.timeToLive = params.timeToLive) :
    LevelPost (do
      let result ← library (L.send · request)
      if result = .success then
        update fun w => { w with sendLog := w.sendLog ++ [request] }
      return result : Act L SendResult) w (fun _ t' => Hand params t t') fun _ => True := by
  subst hs
  unfold LevelPost
  rw [post_bind, post_library]
  dsimp only
  split
  · exact ⟨rfl, [request], rfl, by simp [hstream, hproto, httl]⟩
  · exact ⟨rfl, .of_log rfl⟩

theorem hand_sendAttempt (id : AssocID) (path : Option SocketAddress) :
    LevelPost (sendAttempt id buffer params path) w (fun _ t => Hand params w.shared t) fun _ => True := by
  unfold LevelPost sendAttempt
  rw [post_bind, runs_shared.post]
  dsimp only
  split
  · have hread := SCTPSocket.reads_getPathIndexForAddress (L := L) id path w
    refine Post.bind (Post.mono hread (fun _ _ h => h) fun _ _ _ => trivial) fun index w' ⟨hrun, hl⟩ => ?_
    obtain ⟨found, -, heq⟩ := Option.map_eq_some_iff.mp hrun
    have hs : w'.shared = w.shared := (Prod.mk.inj heq).2.symm
    exact Post.imp (hand_request hs rfl rfl rfl) fun _ _ h => ⟨h.1.trans hl, h.2⟩
  · exact hand_request (w := w) rfl rfl rfl rfl

/-- Whatever the library answers and however often it is asked. -/
theorem Alone.hand_sendRounds (hw : Alone E w) (id : AssocID) (c : Option ConditionRef) (path : Option SocketAddress) :
    LevelPost (sendRounds E buffer id params c path) w (fun _ t => Hand params w.shared t) fun _ => True := by
  unfold LevelPost sendRounds
  refine Post.loop (I := fun v => v.thread.lockLevel = w.thread.lockLevel ∧ Hand params w.shared v.shared)
    (fun _ _ => trivial) (fun rest hrest v ⟨hl, hhand⟩ => ?_) E.patience w ⟨rfl, .of_log rfl⟩
  have hv : Alone E v := hw.level hl
  rw [post_bind, runs_lock.post]
  refine Post.bind (hand_sendAttempt (w := v.up) id path) fun result v₁ ⟨hl₁, h₁⟩ => ?_
  have hend (v₂ : World L) (hl₂ : v₂.thread.lockLevel = v.thread.lockLevel + 1) (hlog : v₂.shared.sendLog = v₁.shared.sendLog) :
      Post (do
        SocketApi.unlock E
        if !params.flags.dontwait ∧ result = .queueExceeded then rest else return result) v₂
        (fun _ v' => v'.thread.lockLevel = w.thread.lockLevel ∧ Hand params w.shared v'.shared) fun _ _ => True := by
    refine Post.bind (Post.mono (hv.unlock hl₂) (fun _ _ h => h) fun _ _ h => h.elim) fun _ v₃ ⟨hl₃, hs₃⟩ => ?_
    have h₃ : Hand params w.shared v₃.shared := (hhand.trans h₁).trans (.of_log (by rw [hs₃, hlog]))
    split
    · exact hrest v₃ ⟨hl₃.trans hl, h₃⟩
    · exact ⟨hl₃.trans hl, h₃⟩
  dsimp only
  rw [post_ite]
  by_cases hfull : result = .queueExceeded ∧ (!params.flags.dontwait) = true
  · rw [if_pos hfull]
    refine Post.bind (hv.waitForRoom hl₁) fun _ v₂ ⟨hl₂, conditions, hs₂⟩ => hend v₂ (hl₂.trans hl₁) ?_
    rw [hs₂]
  · rw [if_neg hfull]
    exact hend v₁ hl₁ rfl

theorem Alone.hand_internalSend (hw : Alone E w) (ho : w.shared.sockets s = some o) (hlive : Live w.shared s)
    (id : AssocID) (c : Option ConditionRef) (path : Option SocketAddress) :
    LevelPost (SCTPSocket.internalSend E s buffer id params c path) w (fun _ t => Hand params w.shared t) fun _ => True := by
  unfold SCTPSocket.internalSend
  refine (hw.getErrorCode ho hlive id).bind fun code w₁ hl₁ ⟨_, hs₁⟩ => ?_
  have hlog : Hand params w.shared w₁.shared := .of_log (by rw [hs₁, sendLog_afterErrorCode])
  split
  · exact levelPost_pure hlog
  · refine ((hw.level hl₁).hand_sendRounds id c path).bind fun result w₂ hl₂ h₂ => ?_
    unfold LevelPost
    rw [post_bind, post_setSocket]
    cases w₂.shared.sockets s with
    | none => trivial
    | some o => exact ⟨rfl, (hlog.trans h₂).trans (.of_log rfl)⟩

/-- A send with the defaults hands the `TimeToLive` of the defaults over. -/
theorem Alone.hand_sendTo (hw : Alone E w) (ha : w.shared.associations p = some a)
    (hup : a.communicationUpNotification = true) (ho : w.shared.sockets a.socket = some o) (hlive : Live w.shared a.socket)
    (path : Option SocketAddress) :
    LevelPost (SCTPAssociation.sendTo E p buffer params true path) w
      (fun _ t => Hand (params.withDefaults a.defaults) w.shared t) fun _ => True := by
  have htimeout := hw.getDefaultStreamTimeout (H := fun _ => True) ha a.defaults.streamID
  unfold LevelPost SCTPAssociation.sendTo
  rw [post_bind, (runs_associationAt ha).post, post_ite, if_neg (by simp [hup]), post_ite, if_neg (by simp), post_ite]
  split
  · rw [post_bind, post_discard]
    refine Post.imp htimeout fun _ w' ⟨hl, hs⟩ => ?_
    have ha' : w'.shared.associations p = some a := by rw [hs, ha]
    rw [post_bind, (runs_associationAt ha').post]
    rw [← hs] at ho hlive
    refine Post.imp ((hw.level hl).hand_internalSend ho hlive _ _ _) fun _ _ h => ⟨h.1.trans hl, ?_⟩
    rw [← hs]
    exact h.2
  · exact ⟨rfl, .of_log rfl⟩

theorem OnlyConfigured.association {t t' : Shared L} (h : OnlyConfigured t t') (ha : t.associations p = some a) :
    ∃ defaults timeouts, t'.associations p = some { a with defaults := defaults, streamDefaultTimeoutArray := timeouts } := by
  have hp := h.associations p
  rw [ha] at hp
  obtain ⟨b, hb, heq⟩ := Option.map_eq_some_iff.mp hp
  refine ⟨b.defaults, b.streamDefaultTimeoutArray, hb.trans (congrArg some ?_)⟩
  cases a
  cases b
  simp only [SCTPAssociation.mk.injEq] at heq ⊢
  simp [heq]

theorem OnlyConfigured.live {t t' : Shared L} (h : OnlyConfigured t t') (hlive : Live t s) : Live t' s := by
  intro o id q ho hq
  rw [h.sockets] at ho
  obtain ⟨b, hb⟩ := Option.isSome_iff_exists.mp (hlive o id q ho hq)
  obtain ⟨defaults, timeouts, hb'⟩ := h.association hb
  rw [hb']
  rfl

/-- The timeout that was configured is the one the association has for its default stream. -/
theorem Configured.Holds.timeout {c : Configured} (h : c.Holds a) :
    lookup a.streamDefaultTimeoutArray a.defaults.streamID = c.timeout := by
  rw [h.timeouts, h.defaults, lookup_foldl]
  rfl

/-- A send with the defaults hands over what has been configured exactly if the stream of the defaults has no
timeout, or the `TimeToLive` of the defaults for one. -/
theorem sendTo_defaults_iff {path : Option SocketAddress} {settings : List DefaultSetting} {w₁ w₂ : World L}
    {result : Int}
    {request : SendRequest} (hw : Alone E w) (ha : w.shared.associations p = some a)
    (hup : a.communicationUpNotification = true) (hfresh : a.streamDefaultTimeoutArray = [])
    (ho : w.shared.sockets a.socket = some o) (hlive : Live w.shared a.socket)
    (hset : runSettings E settings w = .ok () w₁)
    (hsend : SCTPAssociation.sendTo E p buffer params true path w₁ = .ok result w₂)
    (hlog : w₂.shared.sendLog = w₁.shared.sendLog ++ [request]) :
    (configured E w.shared p a.defaults settings).IsUsed request ↔
      ∀ timeout, (configured E w.shared p a.defaults settings).timeout = some timeout →
        timeout = (configured E w.shared p a.defaults settings).defaults.timeToLive := by
  have hbehind : Behind w.shared p { defaults := a.defaults } w.shared :=
    ⟨⟨rfl, rfl, fun _ => rfl⟩, a, ha, rfl, hfresh⟩
  obtain ⟨hw₁, honly, a₁, ha₁, hholds⟩ := (post_runSettings settings hw hbehind).of_ok hset
  change (configured E w.shared p a.defaults settings).Holds a₁ at hholds
  generalize configured E w.shared p a.defaults settings = c at *
  obtain ⟨defaults, timeouts, ha₂⟩ := honly.association ha
  obtain rfl := Option.some.inj (ha₁.symm.trans ha₂)
  have ho₁ : w₁.shared.sockets a.socket = some o := by rw [honly.sockets, ho]
  obtain ⟨-, requests, hlog', hall⟩ := (hw₁.hand_sendTo ha₁ hup ho₁ (honly.live hlive) path).of_ok hsend
  obtain rfl : requests = [request] := List.append_cancel_left (hlog'.symm.trans hlog)
  obtain ⟨hstream, hproto, httl⟩ := hall request (List.mem_singleton_self _)
  have hdefaults : defaults = c.defaults := hholds.defaults
  subst hdefaults
  constructor
  · rintro ⟨-, -, hused⟩ timeout htimeout
    rw [htimeout] at hused
    exact hused.symm.trans httl
  · intro h
    refine ⟨hstream, hproto, httl.trans ?_⟩
    cases htimeout : c.timeout with
    | none => rfl
    | some timeout => exact (h timeout htimeout).symm

/-- An established association, on a connection-oriented descriptor. -/
def oneUp : World Sctplib.small where
  shared := {
    stack := { lastAssociation := 1, associations := [(1, 1)] }
    sockets := fun s => if s = 0 then some { associationList := [(1, 0)], instanceName := 1 } else none
    associations := fun p => if p = 0 then some { socket := 0, associationID := 1, communicationUpNotification := true } else none
    descriptors := fun slot => if slot = 3 then
      .sctp { domain := .inet, type := .stream, sctpAssociationPtr := some 0, connectionOriented := true } else .invalid }

theorem oneUp_live : Live oneUp.shared 0 := by
  intro o id p ho hp
  cases ho
  obtain ⟨rfl, rfl⟩ : id = 1 ∧ p = 0 := by simpa using Multimap.find_eq_some_mem hp
  rfl

def halfSecond : List DefaultSetting := [{ sockfd := 3, change := .streamTimeouts 1 ⟨500, 0, 7⟩, fits := true }]

def oneUpRequest : SendRequest where
  assocID := 1
  streamID := 0
  buffer := [104]
  protoID := 0
  pathIndex := 0
  timeToLive := SCTP_INFINITE_LIFETIME
  unordered := false
  bundlingDisabled := false

theorem oneUp_runs : ∃ w₁ w₂ : World Sctplib.small, runSettings {} halfSecond oneUp = .ok () w₁ ∧
    SCTPAssociation.sendTo {} 0 [104] {} true none w₁ = .ok 1 w₂ ∧
    w₂.shared.sendLog = w₁.shared.sendLog ++ [oneUpRequest] :=
  ⟨_, _, rfl, rfl, rfl⟩

theorem sendTo_defaults_iff_oneUp :
    let c := configured {} oneUp.shared 0 { timeToLive := SCTP_INFINITE_LIFETIME } halfSecond
    c.IsUsed oneUpRequest ↔ ∀ timeout, c.timeout = some timeout → timeout = c.defaults.timeToLive := by
  obtain ⟨w₁, w₂, hset, hsend, hlog⟩ := oneUp_runs
  exact sendTo_defaults_iff (w := oneUp) (p := 0) (E := {}) (.inl fun _ _ => rfl) rfl rfl rfl rfl oneUp_live hset hsend hlog

/-- The timeout of the stream is half a second, and the message is handed over with the infinite lifetime. -/
theorem timeout_is_not_used : ∃ w₁ w₂ : World Sctplib.small, runSettings {} halfSecond oneUp = .ok () w₁ ∧
    SCTPAssociation.sendTo {} 0 [104] {} true none w₁ = .ok 1 w₂ ∧
    w₂.shared.sendLog = w₁.shared.sendLog ++ [oneUpRequest] ∧
    ¬ (configured {} oneUp.shared 0 { timeToLive := SCTP_INFINITE_LIFETIME } halfSecond).IsUsed oneUpRequest := by
  obtain ⟨w₁, w₂, hset, hsend, hlog⟩ := oneUp_runs
  refine ⟨w₁, w₂, hset, hsend, hlog, ?_⟩
  rintro ⟨-, -, hlifetime⟩
  have htimeout :
      (configured {} oneUp.shared 0 { timeToLive := SCTP_INFINITE_LIFETIME } halfSecond).timeout = some 500 := by
    decide
  rw [htimeout] at hlifetime
  exact absurd hlifetime (by decide)

end SocketApi
