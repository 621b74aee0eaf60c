import SocketApi.Messages
import SocketApi.Lib.Runs

/-!
# Calls under the master's lock

What runs while the thread holds the lock runs alone, so that it is a function of the state. The
rules give the value and the state a program ends with, for any environment.
-/

namespace SocketApi

open Effect

variable {L : Sctplib} {E : Environment L} {α β : Type} {w : World L}

/-! ## Accessors -/

/-- The world with the lock taken once more. -/
def World.up (w : World L) : World L := { w with thread := { w.thread with lockLevel := w.thread.lockLevel + 1 } }

/-- The world with other objects. -/
def World.with (w : World L) (s : Shared L) : World L := { w with shared := s }

@[simp] theorem World.with_shared (s : Shared L) : (w.with s).shared = s := rfl
@[simp] theorem World.with_thread (s : Shared L) : (w.with s).thread = w.thread := rfl
@[simp] theorem World.with_with (s t : Shared L) : (w.with s).with t = w.with t := rfl
@[simp] theorem World.with_self : w.with w.shared = w := rfl
@[simp] theorem World.up_shared : w.up.shared = w.shared := rfl
@[simp] theorem World.up_with (s : Shared L) : w.up.with s = (w.with s).up := rfl
@[simp] theorem World.up_lockLevel : w.up.thread.lockLevel = w.thread.lockLevel + 1 := rfl

theorem runs_shared : Runs shared w w.shared w := rfl

theorem runs_update (f : Shared L → Shared L) : Runs (update f) w () (w.with (f w.shared)) := rfl

/-- The state with another state of the protocol library. -/
def Shared.withStack (s : Shared L) (stack : L.State) : Shared L := { s with stack }

theorem runs_library {call : L.State → α × L.State} {a : α} {stack : L.State} (h : call w.shared.stack = (a, stack)) :
    Runs (library call) w a (w.with (w.shared.withStack stack)) := by
  unfold Runs library
  show EStateM.Result.ok _ _ = _
  rw [h]
  rfl

theorem runs_socketAt {s : SocketPtr} {o : SCTPSocket} (h : w.shared.sockets s = some o) :
    Runs (socketAt s) w o w :=
  .bind runs_shared (by rw [h]; exact .pure _ _)

theorem runs_associationAt {p : AssocPtr} {a : SCTPAssociation} (h : w.shared.associations p = some a) :
    Runs (associationAt p) w a w :=
  .bind runs_shared (by rw [h]; exact .pure _ _)

theorem socketAt_congr {s : SocketPtr} {f g : SCTPSocket → Act L β}
    (h : ∀ o, w.shared.sockets s = some o → f o w = g o w) : (socketAt s >>= f) w = (socketAt s >>= g) w := by
  refine bind_congr_run ?_
  rw [post_socketAt]
  cases hs : w.shared.sockets s with
  | none => trivial
  | some o => exact h o hs

theorem associationAt_congr {p : AssocPtr} {f g : SCTPAssociation → Act L β}
    (h : ∀ a, w.shared.associations p = some a → f a w = g a w) : (associationAt p >>= f) w = (associationAt p >>= g) w := by
  refine bind_congr_run ?_
  rw [post_associationAt]
  cases hp : w.shared.associations p with
  | none => trivial
  | some a => exact h a hp

theorem runs_setSocket {s : SocketPtr} {o : SCTPSocket} (h : w.shared.sockets s = some o)
    (f : SCTPSocket → SCTPSocket) : Runs (setSocket s f) w () (w.with (w.shared.setSocket s f)) :=
  .bind (.discard (runs_socketAt h)) (runs_update _)

theorem runs_setAssociation {p : AssocPtr} {a : SCTPAssociation} (h : w.shared.associations p = some a)
    (f : SCTPAssociation → SCTPAssociation) : Runs (setAssociation p f) w () (w.with (w.shared.setAssociation p f)) :=
  .bind (.discard (runs_associationAt h)) (runs_update _)

theorem runs_lock : Runs lock w () w.up := rfl

theorem runs_unlock (hl : 0 < w.thread.lockLevel) : Runs (unlock E) w.up () w := by
  obtain ⟨⟨level, errno, waits, turns⟩, s⟩ := w
  obtain ⟨level, rfl⟩ := Nat.exists_eq_add_one.mpr hl
  rfl

theorem runs_locked {x : Act L α} {a : α} {s : Shared L} (hl : 0 < w.thread.lockLevel)
    (hx : Runs x w.up a (w.up.with s)) : Runs (locked E x) w a (w.with s) :=
  .bind runs_lock (.bind hx (.bind (runs_unlock (w := w.with s) hl) (.pure _ _)))

theorem setAssociation_associations {s : Shared L} {p : AssocPtr} {a : SCTPAssociation} (h : s.associations p = some a)
    (f : SCTPAssociation → SCTPAssociation) : (s.setAssociation p f).associations p = some (f a) := by
  simp [Shared.setAssociation, h]

theorem setSocket_sockets {s : Shared L} {k : SocketPtr} {o : SCTPSocket} (h : s.sockets k = some o)
    (f : SCTPSocket → SCTPSocket) : (s.setSocket k f).sockets k = some (f o) := by
  simp [Shared.setSocket, h]

/-- The program returns and changes nothing but the objects. -/
def Inside (x : Act L α) (w : World L) (P : α → Shared L → Prop) : Prop :=
  Post x w (fun a w' => w'.thread = w.thread ∧ P a w'.shared) fun _ _ => False

theorem inside_iff {x : Act L α} {P : α → Shared L → Prop} :
    Inside x w P ↔ ∃ a t, Runs x w a (w.with t) ∧ P a t := by
  constructor
  · intro h
    obtain ⟨a, w', hx, hthread, hP⟩ := h.exists_ok
    refine ⟨a, w'.shared, ?_, hP⟩
    rw [World.with, ← hthread]
    exact hx
  · rintro ⟨a, t, hx, hP⟩
    exact hx.post.mpr ⟨rfl, hP⟩

theorem Inside.bind {x : Act L α} {f : α → Act L β} {P : α → Shared L → Prop} {Q : β → Shared L → Prop}
    (hx : Inside x w P) (hf : ∀ a t, P a t → Inside (f a) (w.with t) Q) : Inside (x >>= f) w Q := by
  obtain ⟨a, t, hx, hP⟩ := inside_iff.mp hx
  obtain ⟨b, u, hf, hQ⟩ := inside_iff.mp (hf a t hP)
  exact inside_iff.mpr ⟨b, u, hx.bind hf, hQ⟩

theorem inside_of_runs {x : Act L α} {a : α} {t : Shared L} (hx : Runs x w a (w.with t)) :
    Inside x w fun b u => b = a ∧ u = t :=
  inside_iff.mpr ⟨a, t, hx, rfl, rfl⟩

/-- A program that only reads goes in front. -/
theorem Inside.read {x : Act L α} {f : α → Act L β} {a : α} {Q : β → Shared L → Prop} (hx : Runs x w a w)
    (hf : Inside (f a) w Q) : Inside (x >>= f) w Q := by
  obtain ⟨b, u, hf, hQ⟩ := inside_iff.mp hf
  exact inside_iff.mpr ⟨b, u, hx.bind hf, hQ⟩

theorem Inside.imp {x : Act L α} {P Q : α → Shared L → Prop} (hx : Inside x w P) (h : ∀ a t, P a t → Q a t) :
    Inside x w Q :=
  Post.imp hx fun a w' hw => ⟨hw.1, h a w'.shared hw.2⟩

theorem Inside.ite_neg {c : Prop} [Decidable c] {x y : Act L α} {P : α → Shared L → Prop} (hc : ¬ c)
    (hy : Inside y w P) : Inside (if c then x else y) w P := by
  rwa [if_neg hc]

theorem Inside.ite_pos {c : Prop} [Decidable c] {x y : Act L α} {P : α → Shared L → Prop} (hc : c)
    (hx : Inside x w P) : Inside (if c then x else y) w P := by
  rwa [if_pos hc]

theorem inside_pure {a : α} {P : α → Shared L → Prop} (h : P a w.shared) : Inside (pure a : Act L α) w P := ⟨rfl, h⟩

/-! ## Lookups -/

section

variable {s : SocketPtr} {o : SCTPSocket} {p : AssocPtr} {a : SCTPAssociation} {id : AssocID}

/-- Every association the socket finds by its ID is there. -/
def Live (w : Shared L) (s : SocketPtr) : Prop :=
  ∀ o id p, w.sockets s = some o → o.associationList.find id = some p → (w.associations p).isSome

theorem Live.setAssociation {t : Shared L} (h : Live t s) (p : AssocPtr) (f : SCTPAssociation → SCTPAssociation) :
    Live (t.setAssociation p f) s := by
  intro o id q ho hq
  have hsome := h o id q ho hq
  simp only [Shared.setAssociation, Function.update_apply]
  split
  · subst q
    rwa [Option.isSome_map]
  · exact hsome

/-- The lookup of `getAssociationForAssociationID` under the lock. -/
theorem runs_findAssociation (ho : w.shared.sockets s = some o) (hlive : Live w.shared s) (id : AssocID) :
    Runs (do
      match (← socketAt s).associationList.find id with
      | some p =>
        let a ← associationAt p
        return if a.isShuttingDown && false then none else some p
      | none => return none : Act L _) w (o.associationList.find id) w := by
  refine .bind (runs_socketAt ho) ?_
  cases hp : o.associationList.find id with
  | none => exact .pure _ _
  | some p =>
    obtain ⟨a, ha⟩ := Option.isSome_iff_exists.mp (hlive o id p ho hp)
    refine .bind (runs_associationAt ha) ?_
    simp only [Bool.and_false, Bool.false_eq_true, if_false]
    exact .pure _ _

theorem runs_getAssociationForAssociationID (hl : 0 < w.thread.lockLevel) (ho : w.shared.sockets s = some o)
    (hlive : Live w.shared s) (id : AssocID) :
    Runs (SCTPSocket.getAssociationForAssociationID E s id false) w (o.associationList.find id) w :=
  runs_locked (s := w.shared) hl (runs_findAssociation (w := w.up) ho hlive id)

theorem runs_socketHasData (hl : 0 < w.thread.lockLevel) (ho : w.shared.sockets s = some o) :
    Runs (SCTPSocket.hasData E s) w (o.flags.globalQueue && o.globalQueue.hasData o.notificationFlags) w :=
  runs_locked (s := w.shared) hl (.bind (runs_socketAt ho) (.pure _ _))

theorem runs_associationHasData (hl : 0 < w.thread.lockLevel) (ha : w.shared.associations p = some a) :
    Runs (SCTPAssociation.hasData E p) w (a.inQueue.hasData a.notificationFlags) w :=
  runs_locked (s := w.shared) hl (.bind (runs_associationAt ha) (.pure _ _))

/-- The error code of an association that exists. -/
def SCTPAssociation.errorCode (a : SCTPAssociation) : Int :=
  if a.shutdownCompleteNotification then -ECONNRESET
  else if a.communicationLostNotification then -ECONNABORTED else 0

/-- What `getErrorCode` answers. -/
def Shared.errorCodeOf (w : Shared L) (o : SCTPSocket) (id : AssocID) : Int :=
  match (o.associationList.find id).bind w.associations with
  | some a => a.errorCode
  | none => 0

/-- What `getErrorCode` leaves behind: an association with an error has an exception. -/
def Shared.afterErrorCode (w : Shared L) (o : SCTPSocket) (id : AssocID) : Shared L :=
  match o.associationList.find id with
  | some p => if w.errorCodeOf o id = 0 then w else w.setAssociation p fun a => { a with hasException := true }
  | none => w

/-- `getErrorCode` after its lookup. -/
theorem runs_errorCodeOf (ho : w.shared.sockets s = some o) (hlive : Live w.shared s) (id : AssocID) :
    Runs (match o.associationList.find id with
      | none => return 0
      | some p => do
        let a ← associationAt p
        if a.shutdownCompleteNotification then
          setAssociation p fun a => { a with hasException := true }
          return -ECONNRESET
        else if a.communicationLostNotification then
          setAssociation p fun a => { a with hasException := true }
          return -ECONNABORTED
        else
          return 0 : Act L Int) w (w.shared.errorCodeOf o id) (w.with (w.shared.afterErrorCode o id)) := by
  unfold Shared.afterErrorCode Shared.errorCodeOf
  cases hp : o.associationList.find id with
  | none => exact .pure _ _
  | some p =>
    obtain ⟨a, ha⟩ := Option.isSome_iff_exists.mp (hlive o id p ho hp)
    simp only [Option.bind_some, ha]
    refine .bind (runs_associationAt ha) ?_
    unfold SCTPAssociation.errorCode
    by_cases hshut : a.shutdownCompleteNotification
    · simp only [hshut, if_true]
      exact .bind (runs_setAssociation ha _) (.pure _ _)
    · by_cases hlost : a.communicationLostNotification
      · simp only [hshut, hlost, if_true]
        exact .bind (runs_setAssociation ha _) (.pure _ _)
      · simp only [hshut, hlost]
        exact .pure _ _

theorem runs_getErrorCode (hl : 0 < w.thread.lockLevel) (ho : w.shared.sockets s = some o)
    (hlive : Live w.shared s) (id : AssocID) :
    Runs (SCTPSocket.getErrorCode E s id) w (w.shared.errorCodeOf o id) (w.with (w.shared.afterErrorCode o id)) :=
  .bind (runs_getAssociationForAssociationID hl ho hlive id) (runs_errorCodeOf ho hlive id)

end

end SocketApi
