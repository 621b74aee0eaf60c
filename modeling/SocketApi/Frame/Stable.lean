import SocketApi.Frame.Guarded

/-!
# What all threads do to the shared state

A relation `R true` on shared states that contains what changes no core, a weaker one `R false`
that also contains what other threads do, both closed under sequencing. `Anywhere` says that a
program stays inside of them, `UnderLock` that it does so if the master is locked, so that no
other thread runs. Programs that lock or unlock on their own have a `Moves`, which says by how
much the level changes.
-/

namespace SocketApi

open Effect

set_option synthInstance.maxSize 2000

variable {L : Sctplib} {E : Environment L} {α β : Type}

/-- `R` contains all changes outside of the core; `V` is about the state from which a call halts. -/
class Stable (R : Bool → Shared L → Shared L → Prop) (V : Halt → Shared L → Prop) : Prop where
  refl : ∀ b s, R b s s
  trans : ∀ {b s t u}, R b s t → R b t u → R b s u
  weaken : ∀ {s t}, R true s t → R false s t
  absorb : ∀ {h s t}, R false s t → V h t → V h s
  undefined : ∀ s, V .undefinedBehaviour s
  endless : ∀ s, V .waiting s
  suspended : ∀ s, V .suspended s
  calm : ∀ {s s' : Shared L}, s'.core = s.core → s.Timed s' → R true s s'
  adjust : ∀ {s : Shared L} {stack : L.State}, L.Adjusts s.stack stack → R true s { s with stack }

/-- Every halt will do. -/
def AnyHalt (_ : Halt) (_ : Shared L) : Prop := True

/-- Other threads stay inside of the relation. -/
class Rely (E : Environment L) (R : Bool → Shared L → Shared L → Prop) : Prop where
  interfere : ∀ {n s s'}, E.interfere n s = some s' → R false s s'

/-- An `R` step that does not unlock, if it is started with the master locked. -/
def Within (R : Bool → Shared L → Shared L → Prop) (held : Bool) (w w' : World L) : Prop :=
  held.toNat ≤ w.thread.lockLevel →
    R (decide (0 < w.thread.lockLevel)) w.shared w'.shared ∧ w.thread.lockLevel ≤ w'.thread.lockLevel

/-- A halt; only a program that is started with the master unlocked is ever suspended. -/
def Stops (R : Bool → Shared L → Shared L → Prop) (V : Halt → Shared L → Prop) (held : Bool) (h : Halt)
    (w w' : World L) : Prop :=
  held.toNat ≤ w.thread.lockLevel →
    V h w.shared ∧ (h = .suspended → w.thread.lockLevel = 0 ∧ R false w.shared w'.shared)

abbrev Anywhere (R : Bool → Shared L → Shared L → Prop) (V : Halt → Shared L → Prop) (x : Act L α) : Prop :=
  Keeps (Within R false) (Stops R V false) x

abbrev UnderLock (R : Bool → Shared L → Shared L → Prop) (V : Halt → Shared L → Prop) (x : Act L α) : Prop :=
  Keeps (Within R true) (Stops R V true) x

/-- A program that stays inside of the relation if it is run from `w`, with the master locked. -/
def StaysFrom (R : Bool → Shared L → Shared L → Prop) (V : Halt → Shared L → Prop) (x : Act L α) (w : World L) : Prop :=
  Post x w (fun _ w' => Within R true w w') fun h w' => Stops R V true h w w'

/-! ## Programs that change the level -/

/-- Started at level `a` or above, the program changes the level at least from `a` to `b`. -/
def Moves (R : Bool → Shared L → Shared L → Prop) (V : Halt → Shared L → Prop) (a : Nat) (b : α → Nat) (x : Act L α) :
    Prop :=
  ∀ w, a ≤ w.thread.lockLevel → Post x w
    (fun r w' => R (decide (a < w.thread.lockLevel)) w.shared w'.shared ∧
      w.thread.lockLevel + b r ≤ w'.thread.lockLevel + a)
    fun h w' => V h w.shared ∧ (h = .suspended → w.thread.lockLevel ≤ a ∧ R false w.shared w'.shared)

section

variable {R : Bool → Shared L → Shared L → Prop} {V : Halt → Shared L → Prop} [Stable R V]

section

variable (V)

include V

theorem Stable.any {b : Bool} {s t : Shared L} (h : R b s t) : R false s t := by
  cases b with
  | true => exact Stable.weaken V h
  | false => exact h

theorem Stable.under {b : Bool} {s t : Shared L} (h : R true s t) : R b s t := by
  cases b with
  | true => exact h
  | false => exact Stable.weaken V h

/-- A step that was made under a weaker condition. -/
theorem Stable.of_imp {c d : Prop} [Decidable c] [Decidable d] (hcd : c → d) {s t : Shared L} (h : R (decide d) s t) :
    R (decide c) s t := by
  by_cases hc : c
  · rw [decide_eq_true hc]
    rwa [decide_eq_true (hcd hc)] at h
  · rw [decide_eq_false hc]
    exact Stable.any V h

end

theorem Moves.bind {a : Nat} {b : α → Nat} {c : β → Nat} {x : Act L α} {f : α → Act L β} (hx : Moves R V a b x)
    (hf : ∀ r, Moves R V (b r) c (f r)) : Moves R V a c (x >>= f) := by
  intro w hw
  refine (hx w hw).bind fun r w₁ ⟨hR, hlevel⟩ => ?_
  refine (hf r w₁ (by omega)).mono (fun r' w₂ ⟨hR', hlevel'⟩ => ?_) fun h w₂ ⟨hV, hR'⟩ => ?_
  · have hnext : R (decide (a < w.thread.lockLevel)) w₁.shared w₂.shared := Stable.of_imp V (by omega) hR'
    exact ⟨Stable.trans V hR hnext, by omega⟩
  · have hfirst : R false w.shared w₁.shared := Stable.any V hR
    refine ⟨Stable.absorb hfirst hV, fun hs => ?_⟩
    obtain ⟨hlevel', hR'⟩ := hR' hs
    exact ⟨by omega, Stable.trans V hfirst hR'⟩

theorem Moves.pure {a : Nat} {b : α → Nat} {r : α} (h : b r ≤ a) : Moves R V a b (Pure.pure r) :=
  fun w _ => ⟨Stable.refl V _ w.shared, by omega⟩

theorem Moves.lock {a : Nat} : Moves R V a (fun _ => a + 1) lock :=
  fun w _ => ⟨Stable.refl V _ w.shared, by dsimp only; omega⟩

omit [Stable R V] in
theorem Moves.ite {a : Nat} {b : α → Nat} {c : Prop} [Decidable c] {x y : Act L α} (hx : Moves R V a b x)
    (hy : Moves R V a b y) : Moves R V a b (if c then x else y) := by
  split
  · exact hx
  · exact hy

theorem Moves.anywhere {a : Nat} {x : Act L α} (h : Anywhere R V x) : Moves R V a (fun _ => a) x := by
  intro w _
  refine (h.post w).mono (fun _ w' hr => ?_) fun _ w' hr => ?_
  · obtain ⟨hR, hlevel⟩ := hr (Nat.zero_le _)
    exact ⟨Stable.of_imp V (by omega) hR, Nat.add_le_add_right hlevel a⟩
  · obtain ⟨hV, hs⟩ := hr (Nat.zero_le _)
    refine ⟨hV, fun h => ?_⟩
    obtain ⟨hlevel, hR⟩ := hs h
    exact ⟨hlevel ▸ Nat.zero_le a, hR⟩

theorem Moves.underLock {a : Nat} {x : Act L α} (h : UnderLock R V x) : Moves R V (a + 1) (fun _ => a + 1) x := by
  intro w hw
  have hheld : 1 ≤ w.thread.lockLevel := by omega
  refine (h.post w).mono (fun _ w' hr => ?_) fun _ _ hr => ?_
  · obtain ⟨hR, hlevel⟩ := hr hheld
    exact ⟨Stable.of_imp V (by omega) hR, Nat.add_le_add_right hlevel (a + 1)⟩
  · refine ⟨(hr hheld).1, fun hs => ?_⟩
    have := ((hr hheld).2 hs).1
    omega

omit [Stable R V] in
theorem Moves.keeps {x : Act L α} (h : Moves R V 0 (fun _ => 0) x) : Anywhere R V x where
  post w := (h w (Nat.zero_le _)).mono (fun _ _ hr _ => hr) fun _ _ hr _ =>
    ⟨hr.1, fun hs => ⟨Nat.le_zero.mp (hr.2 hs).1, (hr.2 hs).2⟩⟩

theorem Moves.loop {a : Nat} {b : α → Nat} {body : Act L α → Act L α}
    (hbody : ∀ rest, Moves R V a b rest → Moves R V a b (body rest)) (n : Nat) :
    Moves R V a b (loop .waiting body n) := by
  have hout : Moves R V a b (throw .waiting : Act L α) := fun w _ => ⟨Stable.endless R w.shared, nofun⟩
  induction n with
  | zero => exact hbody _ hout
  | succ n ih => exact hbody _ ih

/-- Other threads run. -/
theorem post_yield [Rely E R] (w : World L) :
    Post (yield E) w (fun _ w' => R false w.shared w'.shared ∧ w'.thread.lockLevel = w.thread.lockLevel)
      fun h w' => h = .suspended ∧ w' = w := by
  unfold yield
  rw [post_bind, post_get]
  cases h : E.interfere w.thread.turns w.shared with
  | none => exact ⟨rfl, rfl⟩
  | some s => exact ⟨Rely.interfere h, rfl⟩

theorem Moves.unlock [Rely E R] {a : Nat} : Moves R V (a + 1) (fun _ => a) (unlock E) := by
  intro w hw
  have hlevel : w.thread.lockLevel ≠ 0 := by omega
  unfold SocketApi.unlock
  simp only [post_bind, post_get, hlevel, if_false, post_pure, post_modify, post_ite]
  split
  · have hfree : ¬a + 1 < w.thread.lockLevel := by omega
    rw [decide_eq_false hfree]
    refine (post_yield (R := R) _).mono (fun _ w' h => ⟨h.1, ?_⟩) fun h w' hhalt => ?_
    · have hlevel' := h.2
      dsimp only at hlevel'
      omega
    · obtain ⟨rfl, rfl⟩ := hhalt
      exact ⟨Stable.suspended R w.shared, fun _ => ⟨by omega, Stable.refl V _ w.shared⟩⟩
  · exact ⟨Stable.refl V _ w.shared, by omega⟩

/-! ## Locks and waits -/

section

variable {held : Bool}

instance : Quiet (Within R held) (Stops R V held) where
  refl w _ := ⟨Stable.refl V _ w.shared, le_rfl⟩
  trans h h' hw := by
    obtain ⟨hR, hlevel⟩ := h hw
    obtain ⟨hR', hlevel'⟩ := h' (hw.trans hlevel)
    have hnext := Stable.of_imp V (fun hpos => Nat.lt_of_lt_of_le hpos hlevel) hR'
    exact ⟨Stable.trans V hR hnext, hlevel.trans hlevel'⟩
  absorb h h' hw := by
    obtain ⟨hR, hlevel⟩ := h hw
    obtain ⟨hV, hR'⟩ := h' (hw.trans hlevel)
    have hfirst := Stable.any V hR
    refine ⟨Stable.absorb hfirst hV, fun hs => ?_⟩
    obtain ⟨hzero, hR'⟩ := hR' hs
    exact ⟨Nat.le_zero.mp (hzero ▸ hlevel), Stable.trans V hfirst hR'⟩
  undefined w _ := ⟨Stable.undefined R w.shared, nofun⟩
  endless w _ := ⟨Stable.endless R w.shared, nofun⟩
  calm hthread hcore htimed _ := ⟨Stable.under V (Stable.calm V hcore htimed), by rw [hthread]⟩
  adjust h _ := ⟨Stable.under V (Stable.adjust V h), le_rfl⟩

omit [Stable R V] in
/-- What is done anywhere can be done with the master locked. -/
theorem within_of_anywhere {x : Act L α} (h : Anywhere R V x) : Keeps (Within R held) (Stops R V held) x where
  post w := (h.post w).mono (fun _ _ h _ => h (Nat.zero_le _)) fun _ _ h _ => h (Nat.zero_le _)

instance (priority := low) {x : Act L α} [h : Anywhere R V x] : UnderLock R V x := within_of_anywhere h

/-- A locked section in a program that has locked the master already. -/
theorem StaysFrom.locked {body : Act L α} {w : World L}
    (h : StaysFrom R V body { w with thread := { w.thread with lockLevel := w.thread.lockLevel + 1 } }) :
    StaysFrom R V (locked E body) w := by
  by_cases hw : 0 < w.thread.lockLevel
  · unfold StaysFrom SocketApi.locked
    rw [post_bind, post_lock, post_bind]
    refine Post.mono h (fun r w₁ h₁ => ?_) fun e w₁ h₁ _ => ?_
    · obtain ⟨hR, hlevel⟩ := h₁ (Nat.succ_pos _)
      dsimp only at hlevel
      have hzero : w₁.thread.lockLevel ≠ 0 := by omega
      have hone : w₁.thread.lockLevel ≠ 1 := by omega
      unfold unlock
      simp only [post_bind, post_get, hzero, hone, if_false, post_pure, post_modify]
      exact fun _ => ⟨Stable.of_imp V (fun _ => Nat.succ_pos _) hR, by dsimp only; omega⟩
    · obtain ⟨hV, hs⟩ := h₁ (Nat.succ_pos _)
      exact ⟨hV, fun hsuspended => absurd (hs hsuspended).1 (Nat.succ_ne_zero _)⟩
  · exact post_true.mono (fun _ _ _ h => absurd h hw) fun _ _ _ h => absurd h hw

instance {body : Act L α} [h : UnderLock R V body] : UnderLock R V (locked E body) :=
  ⟨fun _ => StaysFrom.locked (h.post _)⟩

instance : Guarded E (Within R true) (Stops R V true) where
  locked _ := inferInstance

variable [Rely E R]

/-- A locked section may rely on the lock. -/
theorem StaysFrom.section {body : Act L α} {w : World L}
    (h : StaysFrom R V body { w with thread := { w.thread with lockLevel := w.thread.lockLevel + 1 } }) :
    Post (SocketApi.locked E body) w (fun _ w' => Within R false w w') fun h w' => Stops R V false h w w' := by
  unfold SocketApi.locked
  rw [post_bind, post_lock, post_bind]
  refine Post.mono h (fun r w₁ h₁ => ?_) fun e w₁ h₁ _ => ?_
  · obtain ⟨hR, hlevel⟩ := h₁ (Nat.succ_pos _)
    dsimp only at hR hlevel
    have hfirst : R (decide (0 < w.thread.lockLevel)) w.shared w₁.shared := Stable.of_imp V (fun _ => Nat.succ_pos _) hR
    rw [post_bind]
    refine (Moves.unlock (R := R) (V := V) (a := 0) w₁ (by omega)).mono (fun _ w₂ ⟨hR', hlevel'⟩ _ => ?_) fun e w₂ ⟨hV, hs⟩ _ => ?_
    · exact ⟨Stable.trans V hfirst (Stable.of_imp V (by omega) hR'), by omega⟩
    · refine ⟨Stable.absorb (Stable.any V hfirst) hV, fun hsuspended => ?_⟩
      obtain ⟨hlevel', hR'⟩ := hs hsuspended
      exact ⟨by omega, Stable.trans V (Stable.any V hfirst) hR'⟩
  · obtain ⟨hV, hs⟩ := h₁ (Nat.succ_pos _)
    exact ⟨hV, fun hsuspended => absurd (hs hsuspended).1 (Nat.succ_ne_zero _)⟩

instance {body : Act L α} [h : UnderLock R V body] : Keeps (Within R held) (Stops R V held) (locked E body) :=
  within_of_anywhere ⟨fun _ => StaysFrom.section (h.post _)⟩

instance : Guarded E (Within R held) (Stops R V held) where
  locked {_ body} h := by
    have : UnderLock R V body := by
      cases held with
      | true => exact h
      | false => exact within_of_anywhere h
    infer_instance

/-- A wait lets other threads run only if the master is not locked. -/
instance {c : ConditionRef} : Keeps (Within R held) (Stops R V held) (timedWait E c) := by
  have hrest : Anywhere R V (do
      if ((← shared).conditions c).fired then
        fired c
      else
        return false : Act L Bool) := inferInstance
  have hfree : Anywhere R V (timedWait E c) := by
    refine ⟨fun w => ?_⟩
    unfold timedWait
    rw [post_bind, post_get]
    dsimp only
    rw [post_bind, post_modify]
    have hstart :
        Within R false w { w with thread := { w.thread with waits := w.thread.lockLevel :: w.thread.waits } } :=
      fun _ => ⟨Stable.refl V _ w.shared, le_rfl⟩
    split
    · rename_i hzero
      have hfree : ¬0 < w.thread.lockLevel := by omega
      rw [post_bind]
      refine (post_yield (R := R) _).mono (fun _ w' ⟨hR, hw'⟩ => ?_) fun h w' ⟨hh, hw'⟩ => ?_
      · refine hrest.after (Steps.trans (Stops R V false) hstart fun _ => ⟨?_, hw' ▸ le_rfl⟩)
        dsimp only
        rw [decide_eq_false hfree]
        exact hR
      · subst hh hw'
        exact fun _ => ⟨Stable.suspended R w.shared, fun _ => ⟨hzero, Stable.refl V _ w.shared⟩⟩
    · exact hrest.after hstart
  exact within_of_anywhere hfree

instance {c : ConditionRef} {maintain : Act L Unit} [Keeps (Within R held) (Stops R V held) maintain] :
    Keeps (Within R held) (Stops R V held) (waitFor E c maintain) :=
  .loop (fun _ _ => inferInstance) E.patience

end

end

end SocketApi
