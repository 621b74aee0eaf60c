import SocketApi.Options

/-!
# Calls in which no other thread runs

For an environment whose threads change nothing, a call is a partial function on the shared
state: locks and the thread's own data drop out. `Denotes` gives the function of a program,
undefined where the program does not return.
-/

namespace SocketApi

open Effect ExtSocketDescriptorMaster

variable {L : Sctplib} {E : Environment L} {α β : Type}

/-- No other thread changes anything. -/
def Environment.Instant (E : Environment L) : Prop := ∀ n w, E.interfere n w = some w

theorem Environment.Instant.unlock (hE : E.Instant) {w : World L} (hw : 0 < w.thread.lockLevel) :
    Post (unlock E) w (fun _ w' => w'.shared = w.shared ∧ w'.thread.lockLevel + 1 = w.thread.lockLevel)
      fun _ _ => False := by
  have hlevel : w.thread.lockLevel - 1 + 1 = w.thread.lockLevel := Nat.sub_add_cancel hw
  unfold SocketApi.unlock
  simp only [post_bind, post_get, Nat.pos_iff_ne_zero.mp hw, if_false, post_pure, post_modify, post_ite]
  split
  · unfold yield
    simp only [post_bind, post_get]
    rw [hE w.thread.turns w.shared]
    exact ⟨rfl, hlevel⟩
  · exact ⟨trivial, hlevel⟩

theorem descriptorAt_bind {slot : Nat} {f : ExtSocketDescriptor → Act L α} {w : World L} :
    (descriptorAt slot >>= f) w = f (w.shared.descriptors slot) w := rfl

def Denotes (x : Act L α) (f : Shared L → Option (α × Shared L)) : Prop :=
  ∀ w, Post x w
    (fun a w' => f w.shared = some (a, w'.shared) ∧ w'.thread.lockLevel = w.thread.lockLevel)
    fun _ _ => f w.shared = none

namespace Denotes

variable {x : Act L α} {f : Shared L → Option (α × Shared L)}

theorem ok (h : Denotes x f) {w w' : World L} {a : α} (hx : x w = .ok a w') : f w.shared = some (a, w'.shared) :=
  ((h w).of_ok hx).1

theorem run (h : Denotes x f) {w : World L} {a : α} {s : Shared L} (hf : f w.shared = some (a, s)) :
    ∃ w', x w = .ok a w' ∧ w'.shared = s := by
  have hw := h w
  unfold Post at hw
  cases hx : x w with
  | ok b w' =>
    rw [hx] at hw
    cases hf.symm.trans hw.1
    exact ⟨w', rfl, rfl⟩
  | error e w' =>
    rw [hx] at hw
    cases hf.symm.trans hw

theorem congr {g : Shared L → Option (α × Shared L)} (h : Denotes x f) (hg : ∀ s, f s = g s) : Denotes x g := by
  rwa [← funext hg]

theorem pure (a : α) : Denotes (Pure.pure a : Act L α) fun s => some (a, s) := fun _ => ⟨rfl, rfl⟩

theorem bind {g : α → Act L β} {h : α → Shared L → Option (β × Shared L)} (hx : Denotes x f)
    (hg : ∀ a, Denotes (g a) (h a)) : Denotes (x >>= g) fun s => (f s).bind fun r => h r.1 r.2 := by
  intro w
  rw [post_bind]
  refine (hx w).mono (fun a w' hw => ?_) fun _ _ hw => ?_
  · simp only [hw.1]
    exact (hg a w').imp fun b w'' hw' => ⟨hw'.1, hw'.2.trans hw.2⟩
  · simp only [hw]
    rfl

theorem map (g : α → β) (hx : Denotes x f) : Denotes (g <$> x) fun s => (f s).map fun r => (g r.1, r.2) := by
  intro w
  rw [post_map]
  refine (hx w).mono (fun a w' hw => ?_) fun _ _ hw => ?_
  · simp only [hw.1]
    exact ⟨rfl, hw.2⟩
  · simp only [hw]
    rfl

theorem discard (hx : Denotes x f) : Denotes (discard x) fun s => (f s).map fun r => ((), r.2) := map _ hx

theorem shared : Denotes (L := L) SocketApi.shared fun s => some (s, s) := fun _ => ⟨rfl, rfl⟩

theorem update (g : Shared L → Shared L) : Denotes (SocketApi.update g) fun s => some ((), g s) :=
  fun _ => ⟨rfl, rfl⟩

theorem library (call : L.State → α × L.State) :
    Denotes (SocketApi.library call) fun s => some ((call s.stack).1, { s with stack := (call s.stack).2 }) :=
  fun _ => ⟨rfl, rfl⟩

theorem associationAt (p : AssocPtr) :
    Denotes (L := L) (SocketApi.associationAt p) fun s => (s.associations p).map (·, s) := fun w => by
  rw [post_associationAt]
  cases h : w.shared.associations p <;> simp only [h] <;> trivial

theorem socketAt (s : SocketPtr) :
    Denotes (L := L) (SocketApi.socketAt s) fun w => (w.sockets s).map (·, w) := fun w => by
  rw [post_socketAt]
  cases h : w.shared.sockets s <;> simp only [h] <;> trivial

theorem setAssociation (p : AssocPtr) (g : SCTPAssociation → SCTPAssociation) :
    Denotes (L := L) (SocketApi.setAssociation p g) fun s =>
      (s.associations p).map fun _ => ((), s.setAssociation p g) := fun w => by
  rw [post_setAssociation]
  cases h : w.shared.associations p <;> simp only [h] <;> trivial

theorem setSocket (s : SocketPtr) (g : SCTPSocket → SCTPSocket) :
    Denotes (L := L) (SocketApi.setSocket s g) fun w => (w.sockets s).map fun _ => ((), w.setSocket s g) := fun w => by
  rw [post_setSocket]
  cases h : w.shared.sockets s <;> simp only [h] <;> trivial

/-- A lock that nobody waits for. -/
theorem locked (hE : E.Instant) (hx : Denotes x f) : Denotes (locked E x) f := by
  intro w
  unfold SocketApi.locked
  simp only [post_bind, post_lock]
  refine (hx _).mono (fun a w' hw => ?_) fun _ _ hw => hw
  have hlevel : w'.thread.lockLevel = w.thread.lockLevel + 1 := hw.2
  refine (hE.unlock (hlevel ▸ Nat.succ_pos _)).mono (fun _ w'' hback => ?_) fun _ _ h => h.elim
  obtain ⟨hshared, hunlock⟩ := hback
  rw [post_pure, hshared]
  exact ⟨hw.1, Nat.succ.inj (hunlock.trans hlevel)⟩

theorem errnoReturn (result : Int) :
    Denotes (L := L) (SocketApi.errnoReturn result) fun s => some (if result < 0 then -1 else result, s) := fun w => by
  unfold SocketApi.errnoReturn
  by_cases h : result < 0 <;> simp [h]

theorem errnoResult (result : Int) (value : SockOpt) :
    Denotes (L := L) (SocketApi.errnoResult result value) fun s =>
      some ((if result < 0 then -1 else result, value), s) :=
  (errnoReturn result).bind fun _ => pure _

theorem descriptorAt (slot : Nat) :
    Denotes (L := L) (ExtSocketDescriptorMaster.descriptorAt slot) fun s => some (s.descriptors slot, s) :=
  fun _ => ⟨rfl, rfl⟩

end Denotes

end SocketApi
