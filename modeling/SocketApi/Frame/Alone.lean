import SocketApi.Frame.Inside
import SocketApi.Options.Instant

/-!
# A thread that runs alone

Nothing is done by other threads while a thread holds the lock, or in an environment without other
threads. Locks and waits then change no object.
-/

namespace SocketApi

open Effect

variable {L : Sctplib} {E : Environment L} {α β : Type} {w w' : World L}

/-- No other thread gets between the steps of this one. -/
def Alone (E : Environment L) (w : World L) : Prop := E.Instant ∨ 0 < w.thread.lockLevel

theorem Alone.level (h : Alone E w) (hl : w'.thread.lockLevel = w.thread.lockLevel) : Alone E w' :=
  h.imp_right fun hpos => hl ▸ hpos

theorem Alone.up : Alone E w.up := .inr (Nat.succ_pos _)

/-- The program returns at the level at which it was called, or stops as `H` allows. -/
def LevelPost (x : Act L α) (w : World L) (P : α → Shared L → Prop) (H : Halt → Prop) : Prop :=
  Post x w (fun a w' => w'.thread.lockLevel = w.thread.lockLevel ∧ P a w'.shared) fun h _ => H h

section

variable {H : Halt → Prop}

theorem LevelPost.bind {x : Act L α} {f : α → Act L β} {P : α → Shared L → Prop} {Q : β → Shared L → Prop}
    (hx : LevelPost x w P H)
    (hf : ∀ a w', w'.thread.lockLevel = w.thread.lockLevel → P a w'.shared → LevelPost (f a) w' Q H) :
    LevelPost (x >>= f) w Q H :=
  Post.bind hx fun a w' hw' => (hf a w' hw'.1 hw'.2).imp fun _ _ h => ⟨h.1.trans hw'.1, h.2⟩

theorem LevelPost.imp {x : Act L α} {P Q : α → Shared L → Prop} (hx : LevelPost x w P H)
    (h : ∀ a t, P a t → Q a t) : LevelPost x w Q H :=
  Post.imp hx fun a w' hw' => ⟨hw'.1, h a w'.shared hw'.2⟩

theorem levelPost_of_runs {x : Act L α} {a : α} {t : Shared L} {P : α → Shared L → Prop} (hx : Runs x w a (w.with t))
    (h : P a t) : LevelPost x w P H :=
  hx.post.mpr ⟨rfl, h⟩

theorem levelPost_pure {a : α} {P : α → Shared L → Prop} (h : P a w.shared) : LevelPost (pure a : Act L α) w P H :=
  ⟨rfl, h⟩

/-- An `unlock` gives the lock back that was taken last. -/
theorem Alone.unlock (h : Alone E w) (hl : w'.thread.lockLevel = w.thread.lockLevel + 1) :
    Post (SocketApi.unlock E) w' (fun _ v => v.thread.lockLevel = w.thread.lockLevel ∧ v.shared = w'.shared)
      fun _ _ => False := by
  rcases h with hE | hpos
  · refine (hE.unlock (by omega)).imp fun _ v hv => ⟨by omega, hv.1⟩
  · have hzero : w'.thread.lockLevel ≠ 0 := by omega
    have hone : w'.thread.lockLevel ≠ 1 := by omega
    unfold SocketApi.unlock
    simp only [post_bind, post_get, hzero, hone, if_false, post_modify, post_pure]
    exact ⟨by omega, trivial⟩

theorem Alone.locked {x : Act L α} {P : α → Shared L → Prop} (h : Alone E w) (hx : LevelPost x w.up P H) :
    LevelPost (SocketApi.locked E x) w P H := by
  unfold LevelPost SocketApi.locked
  rw [post_bind, runs_lock.post]
  refine Post.bind hx fun a w' hw' => ?_
  refine ((h.unlock hw'.1).mono (fun _ _ h => h) fun _ _ h => h.elim).bind fun _ v hv => ?_
  exact ⟨hv.1, hv.2 ▸ hw'.2⟩

/-- A wait changes conditions only. -/
theorem Alone.timedWait (h : Alone E w) (c : ConditionRef) :
    LevelPost (SocketApi.timedWait E c) w (fun _ t => ∃ conditions, t = { w.shared with conditions }) H := by
  have hrest (w' : World L) (hw' : w'.shared = w.shared) (hl : w'.thread.lockLevel = w.thread.lockLevel) :
      Post (do
        if ((← shared).conditions c).fired then
          fired c
        else
          return false : Act L Bool) w'
        (fun _ v => v.thread.lockLevel = w.thread.lockLevel ∧ ∃ conditions, v.shared = { w.shared with conditions })
        fun e _ => H e := by
    rw [post_bind, runs_shared.post, post_ite]
    split
    · unfold fired
      exact ⟨hl, _, by rw [← hw']⟩
    · exact ⟨hl, _, hw'⟩
  unfold LevelPost SocketApi.timedWait
  rw [post_bind, post_get]
  dsimp only
  rw [post_bind, post_modify]
  split
  · rename_i hzero
    obtain hE | hpos := h
    · rw [post_bind]
      unfold yield
      rw [post_bind, post_get]
      dsimp only
      rw [hE]
      exact hrest _ rfl rfl
    · omega
  · exact hrest _ rfl rfl

end

section

variable {H : Halt → Prop} {s : SocketPtr} {o : SCTPSocket}

theorem Alone.getErrorCode (h : Alone E w) (ho : w.shared.sockets s = some o) (hlive : Live w.shared s) (id : AssocID) :
    LevelPost (SCTPSocket.getErrorCode E s id) w
      (fun code t => code = w.shared.errorCodeOf o id ∧ t = w.shared.afterErrorCode o id) H := by
  have hfind : LevelPost (SCTPSocket.getAssociationForAssociationID E s id false) w
      (fun found t => found = o.associationList.find id ∧ t = w.shared) H :=
    h.locked (levelPost_of_runs (runs_findAssociation (w := w.up) ho hlive id) ⟨rfl, rfl⟩)
  refine hfind.bind fun found w' hl ⟨hfound, hw'⟩ => ?_
  subst hfound
  rw [← hw'] at ho hlive ⊢
  exact levelPost_of_runs (runs_errorCodeOf ho hlive id) ⟨rfl, rfl⟩

end

end SocketApi
