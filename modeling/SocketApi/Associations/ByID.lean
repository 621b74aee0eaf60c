import SocketApi.Locking.Balance
import SocketApi.Frame.Inside
import SocketApi.Timeouts.Table

/-!
# Operations that name an association

Four operations of a socket take the ID of an association and use the first connectionless association
instead. Two of them return `true` whatever the association's own operation says.
-/

namespace SocketApi

open Effect

variable {L : Sctplib} {E : Environment L} {w : World L} {s : SocketPtr} {o : SCTPSocket} {id : AssocID}
  {k : AssocID} {p q : AssocPtr} {a b : SCTPAssociation}

inductive ByID where
  | getAssocIODefaults
  | setAssocIODefaults (defaults : AssocIODefaults)
  | setDefaultStreamTimeouts (timeout start stop : Nat)
  | getDefaultStreamTimeout (streamID : StreamID)

/-- The return value, and what is stored into the argument that is a reference. -/
structure Answer where
  ok : Bool
  defaults : Option AssocIODefaults := none
  timeout : Option Nat := none
  deriving DecidableEq, Repr

namespace ByID

section

variable (E)

def onSocket (s : SocketPtr) (id : AssocID) : ByID → Act L Answer
  | getAssocIODefaults => do
    let defaults ← SCTPSocket.getAssocIODefaults E s id
    return { ok := defaults.isSome, defaults }
  | setAssocIODefaults defaults => do
    return { ok := ← SCTPSocket.setAssocIODefaults E s id defaults }
  | setDefaultStreamTimeouts timeout start stop => do
    return { ok := ← SCTPSocket.setDefaultStreamTimeouts E s id timeout start stop }
  | getDefaultStreamTimeout streamID => do
    let (ok, timeout) ← SCTPSocket.getDefaultStreamTimeout E s id streamID
    return { ok, timeout }

/-- The association's own operation. -/
def onAssociation (p : AssocPtr) : ByID → Act L Answer
  | getAssocIODefaults => do
    return { ok := true, defaults := some (← SCTPAssociation.getAssocIODefaults E p) }
  | setAssocIODefaults defaults => do
    SCTPAssociation.setAssocIODefaults E p defaults
    return { ok := true }
  | setDefaultStreamTimeouts timeout start stop => do
    return { ok := ← SCTPAssociation.setDefaultStreamTimeouts E p timeout start stop }
  | getDefaultStreamTimeout streamID => do
    let timeout ← SCTPAssociation.getDefaultStreamTimeout E p streamID
    return { ok := timeout.isSome, timeout }

/-- `SCTPAssociation::setDefaultStreamTimeouts` on the object. -/
def timeoutsSet (a : SCTPAssociation) (timeout start stop : Nat) : Bool × SCTPAssociation :=
  if stop < start then (false, a)
  else if a.streamDefaultTimeoutArray.length < stop + 1 ∧ !E.allocates .timeoutArray then (false, a)
  else (true, { a with
    streamDefaultTimeoutArray := SCTPAssociation.streamTimeouts a.streamDefaultTimeoutArray timeout start stop })

/-- What the own operation answers, and the association after it. -/
def own (a : SCTPAssociation) : ByID → Answer × SCTPAssociation
  | getAssocIODefaults => ({ ok := true, defaults := some a.defaults }, a)
  | setAssocIODefaults defaults => ({ ok := true }, { a with defaults })
  | setDefaultStreamTimeouts timeout start stop =>
    let set := timeoutsSet E a timeout start stop
    ({ ok := set.1 }, set.2)
  | getDefaultStreamTimeout streamID =>
    let timeout := lookup a.streamDefaultTimeoutArray streamID
    ({ ok := timeout.isSome, timeout }, a)

end

/-! ## Statements -/

/-- The operation is that of the association with the ID, and it fails if the socket has none. -/
def Acts (E : Environment L) (w : World L) (s : SocketPtr) (o : SCTPSocket) (id : AssocID) (op : ByID) : Prop :=
  ∃ answer t, Runs (op.onSocket E s id) w answer (w.up.with t) ∧
    match o.addressee id with
    | none => answer.ok = false ∧ t = w.shared
    | some p => Runs (op.onAssociation E p) w.up answer (w.up.with t) ∧
        ∀ q, q ≠ p → t.associations q = w.shared.associations q

/-- The association with the ID is the first connectionless one, and its operation succeeds; or the two
cannot be told apart. -/
def Meets (E : Environment L) (w : World L) (o : SCTPSocket) (id : AssocID) (op : ByID) : Prop :=
  match o.connectionlessAssociationList.head?, o.addressee id with
  | none, none => True
  | none, some p => ∃ a, w.shared.associations p = some a ∧ (op.own E a).1.ok = false
  | some _, none => False
  | some (_, q), some p => ∃ a b, w.shared.associations p = some a ∧ w.shared.associations q = some b ∧
      (op.own E a).1.ok = true ∧ (q = p ∨
        (op.own E b).1.defaults = (op.own E a).1.defaults ∧ (op.own E b).1.timeout = (op.own E a).1.timeout ∧
        (op.own E a).2 = a ∧ (op.own E b).2 = b)

/-! ## What the operations do -/

theorem setAssociation_same (ha : w.shared.associations p = some a) :
    (w.shared.setAssociation p fun _ => a) = w.shared := by
  unfold Shared.setAssociation
  rw [ha, Option.map_some, ← ha, Function.update_eq_self]

theorem setAssociation_const (ha : w.shared.associations p = some a) (f : SCTPAssociation → SCTPAssociation) :
    w.shared.setAssociation p f = w.shared.setAssociation p fun _ => f a := by
  simp [Shared.setAssociation, ha]

/-- The part of `setDefaultStreamTimeouts` that needs the lock. -/
theorem runs_timeoutsSet_locked {timeout start stop : Nat} (hrange : ¬ stop < start)
    (ha : w.shared.associations p = some a) :
    Runs (do
      if (← associationAt p).streamDefaultTimeoutArray.length < stop + 1 ∧ !E.allocates .timeoutArray then
        return false
      setAssociation p fun a => { a with
        streamDefaultTimeoutArray := SCTPAssociation.streamTimeouts a.streamDefaultTimeoutArray timeout start stop }
      return true : Act L Bool) w (timeoutsSet E a timeout start stop).1
      (w.with (w.shared.setAssociation p fun _ => (timeoutsSet E a timeout start stop).2)) := by
  unfold timeoutsSet
  rw [if_neg hrange]
  refine .bind (runs_associationAt ha) ?_
  by_cases hmemory : a.streamDefaultTimeoutArray.length < stop + 1 ∧ (!E.allocates .timeoutArray) = true
  · rw [if_pos hmemory, if_pos hmemory, setAssociation_same ha]
    exact .pure _ _
  · rw [if_neg hmemory, if_neg hmemory]
    refine .bind (runs_setAssociation ha _) ?_
    rw [setAssociation_const ha]
    exact .pure _ _

theorem runs_timeoutsSet (hl : 0 < w.thread.lockLevel) (ha : w.shared.associations p = some a)
    {timeout start stop : Nat} :
    Runs (SCTPAssociation.setDefaultStreamTimeouts E p timeout start stop) w (timeoutsSet E a timeout start stop).1
      (w.with (w.shared.setAssociation p fun _ => (timeoutsSet E a timeout start stop).2)) := by
  unfold SCTPAssociation.setDefaultStreamTimeouts
  by_cases hrange : stop < start
  · unfold timeoutsSet
    rw [if_pos hrange, if_pos hrange, setAssociation_same ha]
    exact .pure _ _
  · rw [if_neg hrange]
    exact runs_locked hl (runs_timeoutsSet_locked (w := w.up) hrange ha)

theorem runs_lookup (hl : 0 < w.thread.lockLevel) (ha : w.shared.associations p = some a) (streamID : StreamID) :
    Runs (SCTPAssociation.getDefaultStreamTimeout E p streamID) w (lookup a.streamDefaultTimeoutArray streamID) w := by
  refine runs_locked hl (.bind (runs_associationAt (w := w.up) ha) ?_)
  unfold lookup
  cases a.streamDefaultTimeoutArray[streamID]? with
  | none => exact .pure _ _
  | some cell => exact .pure _ _

/-- The own operation, run with the lock held. -/
theorem runs_onAssociation (hl : 0 < w.thread.lockLevel) (ha : w.shared.associations p = some a) (op : ByID) :
    Runs (op.onAssociation E p) w (op.own E a).1 (w.with (w.shared.setAssociation p fun _ => (op.own E a).2)) := by
  have hread {α : Type} {x : Act L α} {r : α} (f : α → Answer) (hx : Runs x w r w) :
      Runs (f <$> x) w (f r) (w.with (w.shared.setAssociation p fun _ => a)) := by
    rw [setAssociation_same ha, World.with_self]
    exact hx.map f
  cases op with
  | getAssocIODefaults =>
    have hx : Runs (SCTPAssociation.getAssocIODefaults E p) w a.defaults w :=
      runs_locked hl (.bind (runs_associationAt ha) (.pure _ _))
    exact hread (fun defaults => { ok := true, defaults := some defaults }) hx
  | setAssocIODefaults defaults =>
    refine .bind (runs_locked hl (runs_setAssociation (w := w.up) ha _)) ?_
    rw [World.up_shared, setAssociation_const ha]
    exact .pure _ _
  | setDefaultStreamTimeouts timeout start stop =>
    exact .map (fun ok => ({ ok } : Answer)) (runs_timeoutsSet hl ha)
  | getDefaultStreamTimeout streamID =>
    exact hread (fun timeout => { ok := timeout.isSome, timeout }) (runs_lookup hl ha streamID)

/-- With an empty list the lock is taken and nothing found. -/
theorem runs_onFirstLocked_nil {α : Type} {f : AssocPtr → Act L α} (ho : w.shared.sockets s = some o)
    (hnil : o.connectionlessAssociationList.head? = none) : Runs (SCTPSocket.onFirstLocked s f) w none w.up := by
  refine .bind runs_lock (.bind (runs_socketAt (w := w.up) ho) ?_)
  rw [List.head?_eq_none_iff.mp hnil]
  exact .pure _ _

theorem runs_onFirstLocked_first {α : Type} {f : AssocPtr → Act L α} {r : α} {v : World L}
    (ho : w.shared.sockets s = some o) (hfirst : o.connectionlessAssociationList.head? = some (k, q))
    (hb : w.shared.associations q = some b) (hf : Runs (f q) w.up r v) :
    Runs (SCTPSocket.onFirstLocked s f) w (some r) v := by
  obtain ⟨rest, hlist⟩ := List.head?_eq_some_iff.mp hfirst
  refine .bind runs_lock (.bind (runs_socketAt (w := w.up) ho) ?_)
  rw [hlist]
  exact .bind (.discard (runs_associationAt hb)) (.bind hf (.pure _ _))

theorem runs_onSocket_nil (ho : w.shared.sockets s = some o) (hnil : o.connectionlessAssociationList.head? = none)
    (op : ByID) : Runs (op.onSocket E s id) w { ok := false } w.up := by
  cases op with
  | getAssocIODefaults => exact .map _ (runs_onFirstLocked_nil ho hnil)
  | setAssocIODefaults defaults => exact .map _ (.map _ (runs_onFirstLocked_nil ho hnil))
  | setDefaultStreamTimeouts timeout start stop => exact .map _ (.map _ (runs_onFirstLocked_nil ho hnil))
  | getDefaultStreamTimeout streamID => exact .map _ (.map _ (runs_onFirstLocked_nil ho hnil))

/-- Otherwise the first association is used, whatever the ID, and its answer taken for `true`. -/
theorem runs_onSocket_first (ho : w.shared.sockets s = some o)
    (hfirst : o.connectionlessAssociationList.head? = some (k, q)) (hb : w.shared.associations q = some b) (op : ByID) :
    Runs (op.onSocket E s id) w { (op.own E b).1 with ok := true }
      (w.up.with (w.shared.setAssociation q fun _ => (op.own E b).2)) := by
  have hup : 0 < w.up.thread.lockLevel := Nat.succ_pos _
  have hsame : w.up.with (w.shared.setAssociation q fun _ => b) = w.up := by
    rw [setAssociation_same hb]
    rfl
  cases op with
  | getAssocIODefaults =>
    have hx : Runs (SCTPAssociation.getAssocIODefaults E q) w.up b.defaults w.up :=
      runs_locked hup (.bind (runs_associationAt hb) (.pure _ _))
    dsimp only [own]
    rw [hsame]
    exact .map (fun defaults => ({ ok := defaults.isSome, defaults } : Answer)) (runs_onFirstLocked_first ho hfirst hb hx)
  | setAssocIODefaults defaults =>
    have hx : Runs (SCTPAssociation.setAssocIODefaults E q defaults) w.up () _ :=
      runs_locked hup (runs_setAssociation (w := w.up.up) hb _)
    rw [World.up_shared, World.up_shared, setAssociation_const hb] at hx
    exact .map (fun ok => ({ ok } : Answer)) (.map Option.isSome (runs_onFirstLocked_first ho hfirst hb hx))
  | setDefaultStreamTimeouts timeout start stop =>
    exact .map (fun ok => ({ ok } : Answer)) (.map Option.isSome 
      (runs_onFirstLocked_first (f := (SCTPAssociation.setDefaultStreamTimeouts E · timeout start stop)) ho hfirst hb
        (runs_timeoutsSet hup hb)))
  | getDefaultStreamTimeout streamID =>
    have hx := runs_lookup (E := E) hup hb streamID
    dsimp only [own]
    rw [hsame]
    exact .map (fun r => ({ ok := r.1, timeout := r.2 } : Answer))
      (.map (fun timeout => (timeout.isSome, timeout.join))
        (runs_onFirstLocked_first (f := (SCTPAssociation.getDefaultStreamTimeout E · streamID)) ho hfirst hb hx))

/-! ## When they are right -/

theorem own_failed {op : ByID} (h : (op.own E a).1.ok = false) : op.own E a = ({ ok := false }, a) := by
  cases op with
  | getAssocIODefaults => cases h
  | setAssocIODefaults defaults => cases h
  | setDefaultStreamTimeouts timeout start stop =>
    dsimp only [own] at h ⊢
    unfold timeoutsSet at h ⊢
    by_cases hrange : stop < start
    · rw [if_pos hrange]
    by_cases hmemory : a.streamDefaultTimeoutArray.length < stop + 1 ∧ (!E.allocates .timeoutArray) = true
    · rw [if_neg hrange, if_pos hmemory]
    · rw [if_neg hrange, if_neg hmemory] at h
      cases h
  | getDefaultStreamTimeout streamID =>
    dsimp only [own] at h ⊢
    rw [Option.isSome_eq_false_iff, Option.isNone_iff_eq_none] at h
    rw [h]
    rfl

/-- A change of one object that is a change of another one changes neither. -/
theorem setAssociation_eq_iff (ha : w.shared.associations p = some a) (hb : w.shared.associations q = some b)
    (hne : q ≠ p) {a' b' : SCTPAssociation} :
    (w.shared.setAssociation q fun _ => b') = (w.shared.setAssociation p fun _ => a') ↔ a' = a ∧ b' = b := by
  constructor
  · intro h
    have hat := congrArg Shared.associations h
    have hp := congrFun hat p
    have hq := congrFun hat q
    simp [Shared.setAssociation, ha, hb, hne, hne.symm] at hp hq
    exact ⟨hp.symm, hq⟩
  · rintro ⟨rfl, rfl⟩
    rw [setAssociation_same ha, setAssociation_same hb]

/-- An operation is that of the association with the ID exactly if that is the first one and succeeds, or if
nothing shows the difference. -/
theorem acts_iff (ho : w.shared.sockets s = some o)
    (hlist : ∀ e ∈ o.connectionlessAssociationList, (w.shared.associations e.2).isSome)
    (hid : ∀ p, o.addressee id = some p → (w.shared.associations p).isSome) (op : ByID) :
    op.Acts E w s o id ↔ op.Meets E w o id := by
  unfold Acts Meets
  have hup : 0 < w.up.thread.lockLevel := Nat.succ_pos _
  cases hfirst : o.connectionlessAssociationList.head? with
  | none =>
    have hrun : Runs (op.onSocket E s id) w _ _ := runs_onSocket_nil ho hfirst op
    cases hp : o.addressee id with
    | none => exact iff_of_true ⟨_, w.shared, hrun, rfl, rfl⟩ trivial
    | some p =>
      obtain ⟨a, ha⟩ := Option.isSome_iff_exists.mp (hid p hp)
      have hown := runs_onAssociation (E := E) hup ha op
      constructor
      · rintro ⟨answer, t, hrun', hown', -⟩
        refine ⟨a, ha, ?_⟩
        rw [← (hown.unique hown').1, (hrun.unique hrun').1]
      · rintro ⟨b, hb, hfail⟩
        obtain rfl : a = b := Option.some.inj (ha.symm.trans hb)
        rw [own_failed hfail, setAssociation_same (w := w.up) ha] at hown
        exact ⟨_, w.shared, hrun, hown, fun _ _ => rfl⟩
  | some e =>
    obtain ⟨k, q⟩ := e
    obtain ⟨b, hb⟩ := Option.isSome_iff_exists.mp (hlist (k, q) (List.mem_of_mem_head? hfirst))
    have hrun : Runs (op.onSocket E s id) w _ _ := runs_onSocket_first ho hfirst hb op
    cases hp : o.addressee id with
    | none =>
      refine iff_of_false ?_ (fun h => h)
      rintro ⟨answer, t, hrun', hfail, -⟩
      rw [(hrun.unique hrun').1] at hfail
      cases hfail
    | some p =>
      obtain ⟨a, ha⟩ := Option.isSome_iff_exists.mp (hid p hp)
      have hown := runs_onAssociation (E := E) hup ha op
      constructor
      · rintro ⟨answer, t, hrun', hown', -⟩
        have hanswer := (hown.unique hown').1.symm.trans (hrun.unique hrun').1
        have hstate := congrArg World.shared ((hrun.unique hrun').2.symm.trans (hown.unique hown').2)
        refine ⟨a, b, ha, hb, by rw [hanswer], ?_⟩
        by_cases hne : q = p
        · exact .inl hne
        · exact .inr ⟨by rw [hanswer], by rw [hanswer], (setAssociation_eq_iff ha hb hne).mp hstate⟩
      · rintro ⟨a', b', ha', hb', hok, hcase⟩
        obtain rfl : a = a' := Option.some.inj (ha.symm.trans ha')
        obtain rfl : b = b' := Option.some.inj (hb.symm.trans hb')
        have hsame : (op.own E a).1 = { (op.own E b).1 with ok := true } ∧
            (w.shared.setAssociation q fun _ => (op.own E b).2) = w.shared.setAssociation p fun _ => (op.own E a).2 := by
          rcases hcase with rfl | ⟨hdefaults, htimeout, hstate⟩
          · obtain rfl : a = b := Option.some.inj (ha.symm.trans hb)
            exact ⟨by rw [← hok], rfl⟩
          · refine ⟨?_, by rw [hstate.1, hstate.2, setAssociation_same ha, setAssociation_same hb]⟩
            dsimp only
            rw [hdefaults, htimeout, ← hok]
        refine ⟨_, _, hrun, ?_, fun r hr => ?_⟩
        · rw [← hsame.1, hsame.2]
          exact hown
        · rw [hsame.2]
          simp [Shared.setAssociation, hr]

end ByID

def pairSocket : SCTPSocket :=
  { associationList := [(1, 0), (2, 1)], connectionlessAssociationList := [(1, 0), (2, 1)] }

/-- Two associations of a one-to-many socket, with streams 1 and 2 for their defaults. -/
def pair : World Sctplib.small where
  shared := {
    stack := {}
    sockets := fun s => if s = 0 then some pairSocket else none
    associations := fun p => match p with
      | 0 => some { socket := 0, associationID := 1, defaults := { streamID := 1 } }
      | 1 => some { socket := 0, associationID := 2, defaults := { streamID := 2 } }
      | _ => none }

theorem byID_acts_iff_pair :
    (ByID.getDefaultStreamTimeout 3).Acts {} pair 0 pairSocket 2 ↔ (ByID.getDefaultStreamTimeout 3).Meets {} pair pairSocket 2 :=
  ByID.acts_iff rfl (by decide) (by decide) _

/-- The defaults of association 1 are returned for association 2. -/
theorem byID_takes_the_first : ¬ ByID.getAssocIODefaults.Acts {} pair 0 pairSocket 2 := by
  rintro ⟨answer, t, hsocket, hassociation, -⟩
  have hfirst : Runs (ByID.getAssocIODefaults.onSocket {} 0 2) pair
      { ok := true, defaults := some { streamID := 1 } } pair.up := rfl
  have hsecond : Runs (ByID.getAssocIODefaults.onAssociation {} 1) pair.up
      { ok := true, defaults := some { streamID := 2 } } pair.up := rfl
  have hsame := (hfirst.unique hsocket).1.symm.trans (hsecond.unique hassociation).1
  exact absurd hsame (by decide)

end SocketApi
