import Mathlib.Logic.Function.Basic
import Mathlib.Logic.Relation
import Mathlib.Data.Set.Finite.Lemmas

/-!
# Threads with mutexes and condition variables

Threads run commands one at a time, in any order between each other. A mutex may be locked again by
the thread that holds it. With each mutex goes a condition variable: `wait` gives the mutex back and
sleeps, and takes the mutex again behind a wake-up, a timeout or an interruption. An access to the
data may put more commands in front of what the thread has still to do, so that calls and loops are
code too.

`Fits` says that a thread which holds so many locks may run its code: it gives back what it takes,
and each access is made with the locks it needs. A machine whose accesses keep that rule never
unlocks what it does not hold, and two threads never hold the same mutex.
-/

namespace Monitor

variable {ι κ α σ Op : Type}

/-- `α` are the accesses to the data. -/
inductive Command (κ α : Type) where
  | lock (m : κ)
  | unlock (m : κ)
  | access (a : α)
  | wait (m : κ) (woken late interrupted : α)
  | asleep (m : κ) (woken late interrupted : α)
  | signal (m : κ)
  | broadcast (m : κ)

abbrev Code (κ α : Type) := List (Command κ α)

structure State (ι κ α σ : Type) where
  data : σ
  held : ι → κ → Nat
  code : ι → Code κ α

/-- What a thread does in an access, and what it calls. -/
structure Machine (ι κ α σ Op : Type) where
  exec : ι → α → σ → σ × Code κ α
  program : Op → Code κ α

/-- Who does what: a thread makes a call or runs a command. -/
inductive Label (ι κ α Op : Type) where
  | call (i : ι) (op : Op)
  | run (i : ι) (c : Command κ α)

def Asleep (s : State ι κ α σ) (j : ι) (m : κ) : Prop :=
  ∃ woken late interrupted k, s.code j = .asleep m woken late interrupted :: k

namespace State

variable [DecidableEq ι] (s : State ι κ α σ) (i : ι)

def goto (k : Code κ α) : State ι κ α σ := { s with code := Function.update s.code i k }

def hold (h : κ → Nat) : State ι κ α σ := { s with held := Function.update s.held i h }

@[simp] theorem goto_data (k : Code κ α) : (s.goto i k).data = s.data := rfl
@[simp] theorem goto_held (k : Code κ α) : (s.goto i k).held = s.held := rfl
@[simp] theorem goto_code_self (k : Code κ α) : (s.goto i k).code i = k := Function.update_self ..
@[simp] theorem hold_data (h : κ → Nat) : (s.hold i h).data = s.data := rfl
@[simp] theorem hold_code (h : κ → Nat) : (s.hold i h).code = s.code := rfl
@[simp] theorem hold_held_self (h : κ → Nat) : (s.hold i h).held i = h := Function.update_self ..

theorem goto_code_of_ne {j : ι} (h : j ≠ i) (k : Code κ α) : (s.goto i k).code j = s.code j :=
  Function.update_of_ne h ..

theorem hold_held_of_ne {j : ι} (hj : j ≠ i) (h : κ → Nat) : (s.hold i h).held j = s.held j :=
  Function.update_of_ne hj ..

end State

section

variable [DecidableEq κ]

/-- What becomes of the code of a thread that is woken, if it sleeps on `m`. -/
def wakeUp (m : κ) : Code κ α → Code κ α
  | .asleep m' woken late interrupted :: k =>
    if m' = m then .lock m :: .access woken :: k else .asleep m' woken late interrupted :: k
  | k => k

/-- How often each mutex is held, after `m` has been locked. -/
def bump (h : κ → Nat) (m : κ) : κ → Nat := Function.update h m (h m + 1)

def drop (h : κ → Nat) (m : κ) : κ → Nat := Function.update h m (h m - 1)

variable [DecidableEq ι]

/-- A step. A sleeping thread may wake up on its own; `signal` wakes at least one thread, if there is one. -/
inductive Step (M : Machine ι κ α σ Op) : State ι κ α σ → Label ι κ α Op → State ι κ α σ → Prop
  | call {s i} (op : Op) (hc : s.code i = []) : Step M s (.call i op) (s.goto i (M.program op))
  | lock {s i m k} (hc : s.code i = .lock m :: k) (hfree : ∀ j, j ≠ i → s.held j m = 0) :
    Step M s (.run i (.lock m)) ((s.hold i (bump (s.held i) m)).goto i k)
  | unlock {s i m k} (hc : s.code i = .unlock m :: k) (hheld : 0 < s.held i m) :
    Step M s (.run i (.unlock m)) ((s.hold i (drop (s.held i) m)).goto i k)
  | access {s i a k} (hc : s.code i = .access a :: k) :
    Step M s (.run i (.access a)) ({ s with data := (M.exec i a s.data).1 }.goto i ((M.exec i a s.data).2 ++ k))
  | wait {s i m a b c k} (hc : s.code i = .wait m a b c :: k) (hheld : s.held i m = 1) :
    Step M s (.run i (.wait m a b c)) ((s.hold i (drop (s.held i) m)).goto i (.asleep m a b c :: k))
  | woken {s i m a b c k} (hc : s.code i = .asleep m a b c :: k) :
    Step M s (.run i (.asleep m a b c)) (s.goto i (.lock m :: .access a :: k))
  | late {s i m a b c k} (hc : s.code i = .asleep m a b c :: k) :
    Step M s (.run i (.asleep m a b c)) (s.goto i (.lock m :: .access b :: k))
  | interrupted {s i m a b c k} (hc : s.code i = .asleep m a b c :: k) :
    Step M s (.run i (.asleep m a b c)) (s.goto i (.lock m :: .access c :: k))
  | signal {s i m k code} (hc : s.code i = .signal m :: k)
    (hcode : ∀ j, j ≠ i → code j = s.code j ∨ code j = wakeUp m (s.code j))
    (hsome : ∀ j, Asleep s j m → ∃ j, Asleep s j m ∧ code j = wakeUp m (s.code j)) :
    Step M s (.run i (.signal m)) ({ s with code }.goto i k)
  | broadcast {s i m k} (hc : s.code i = .broadcast m :: k) :
    Step M s (.run i (.broadcast m)) ({ s with code := fun j => wakeUp m (s.code j) }.goto i k)

/-- A run, with its steps. -/
inductive Trace (M : Machine ι κ α σ Op) (allowed : Op → Prop) :
    State ι κ α σ → List (Label ι κ α Op) → State ι κ α σ → Prop
  | nil (s : State ι κ α σ) : Trace M allowed s [] s
  | cons {s t u l ls} (h : Step M s l t) (hl : ∀ i op, l = .call i op → allowed op) (ht : Trace M allowed t ls u) :
    Trace M allowed s (l :: ls) u

/-! ## Code that keeps the rules -/

/-- Which mutex may be locked and which access be made, by the locks that are held and the code behind it. -/
structure Rules (κ α : Type) where
  admits : (κ → Nat) → κ → Prop
  needs : α → (κ → Nat) → Code κ α → Prop

/-- No lock is held. -/
def unlocked : κ → Nat := fun _ => 0

inductive Fits (R : Rules κ α) : (κ → Nat) → Code κ α → Prop
  | nil : Fits R unlocked []
  | lock {h m k} (hm : R.admits h m) (hk : Fits R (bump h m) k) : Fits R h (.lock m :: k)
  | unlock {h m k} (hm : 0 < h m) (hk : Fits R (drop h m) k) : Fits R h (.unlock m :: k)
  | access {h a k} (ha : R.needs a h k) (hk : Fits R h k) : Fits R h (.access a :: k)
  | wait {m a b c k} (ha : R.needs a (bump unlocked m) k) (hb : R.needs b (bump unlocked m) k)
    (hc : R.needs c (bump unlocked m) k) (hk : Fits R (bump unlocked m) k) : Fits R (bump unlocked m) (.wait m a b c :: k)
  | asleep {m a b c k} (ha : R.needs a (bump unlocked m) k) (hb : R.needs b (bump unlocked m) k)
    (hc : R.needs c (bump unlocked m) k) (hk : Fits R (bump unlocked m) k) : Fits R unlocked (.asleep m a b c :: k)
  | signal {h m k} (hm : 0 < h m) (hk : Fits R h k) : Fits R h (.signal m :: k)
  | broadcast {h m k} (hm : 0 < h m) (hk : Fits R h k) : Fits R h (.broadcast m :: k)

/-- A machine whose calls and accesses keep the rules, and an invariant of its data. -/
structure Obeys (M : Machine ι κ α σ Op) (R : Rules κ α) (Inv : σ → Prop) (allowed : Op → Prop) : Prop where
  idle : ∀ m, R.admits unlocked m
  program : ∀ op, allowed op → Fits R unlocked (M.program op)
  exec : ∀ i a d h k, Inv d → R.needs a h k → Fits R h k → Fits R h ((M.exec i a d).2 ++ k)
  kept : ∀ i a d h k, Inv d → R.needs a h k → Inv (M.exec i a d).1

/-- Every thread keeps the rules, and no mutex is held by two of them. -/
structure Good (R : Rules κ α) (Inv : σ → Prop) (s : State ι κ α σ) : Prop where
  data : Inv s.data
  fits : ∀ i, Fits R (s.held i) (s.code i)
  exclusive : ∀ m i j, 0 < s.held i m → 0 < s.held j m → i = j

section

variable {M : Machine ι κ α σ Op} {R : Rules κ α} {Inv : σ → Prop} {allowed : Op → Prop} {s t : State ι κ α σ}

@[simp] theorem bump_self (h : κ → Nat) (m : κ) : bump h m m = h m + 1 := Function.update_self ..

theorem bump_of_ne {m m' : κ} (hm : m' ≠ m) (h : κ → Nat) : bump h m m' = h m' := Function.update_of_ne hm ..

@[simp] theorem drop_bump (h : κ → Nat) (m : κ) : drop (bump h m) m = h := by
  unfold drop bump
  simp

theorem drop_le (h : κ → Nat) (m m' : κ) : drop h m m' ≤ h m' := by
  unfold drop
  by_cases hm : m' = m
  · subst hm
    simp
  · rw [Function.update_of_ne hm]

theorem Fits.of_nil {h : κ → Nat} (hk : Fits R h []) : h = unlocked := by
  cases hk
  rfl

theorem Fits.of_lock {h : κ → Nat} {m : κ} {k : Code κ α} (hk : Fits R h (.lock m :: k)) :
    R.admits h m ∧ Fits R (bump h m) k := by
  cases hk with
  | lock hm hk => exact ⟨hm, hk⟩

theorem Fits.of_unlock {h : κ → Nat} {m : κ} {k : Code κ α} (hk : Fits R h (.unlock m :: k)) :
    0 < h m ∧ Fits R (drop h m) k := by
  cases hk with
  | unlock hm hk => exact ⟨hm, hk⟩

theorem Fits.of_access {h : κ → Nat} {a : α} {k : Code κ α} (hk : Fits R h (.access a :: k)) :
    R.needs a h k ∧ Fits R h k := by
  cases hk with
  | access ha hk => exact ⟨ha, hk⟩

theorem Fits.of_signal {h : κ → Nat} {m : κ} {k : Code κ α} (hk : Fits R h (.signal m :: k)) :
    0 < h m ∧ Fits R h k := by
  cases hk with
  | signal hm hk => exact ⟨hm, hk⟩

theorem Fits.of_broadcast {h : κ → Nat} {m : κ} {k : Code κ α} (hk : Fits R h (.broadcast m :: k)) :
    0 < h m ∧ Fits R h k := by
  cases hk with
  | broadcast hm hk => exact ⟨hm, hk⟩

/-- A thread that is about to wait holds one lock once, and so it will again behind its sleep. -/
theorem Fits.of_wait {h : κ → Nat} {m : κ} {a b c : α} {k : Code κ α} (hk : Fits R h (.wait m a b c :: k)) :
    h = bump unlocked m ∧ R.needs a h k ∧ R.needs b h k ∧ R.needs c h k ∧ Fits R h k := by
  cases hk with
  | wait ha hb hc hk => exact ⟨rfl, ha, hb, hc, hk⟩

theorem Fits.of_asleep {h : κ → Nat} {m : κ} {a b c : α} {k : Code κ α} (hk : Fits R h (.asleep m a b c :: k)) :
    h = unlocked ∧ R.needs a (bump unlocked m) k ∧ R.needs b (bump unlocked m) k ∧ R.needs c (bump unlocked m) k ∧
      Fits R (bump unlocked m) k := by
  cases hk with
  | asleep ha hb hc hk => exact ⟨rfl, ha, hb, hc, hk⟩

theorem fits_wakeUp (hidle : ∀ m, R.admits unlocked m) {h : κ → Nat} {k : Code κ α} (m : κ) (hk : Fits R h k) :
    Fits R h (wakeUp m k) := by
  cases hk with
  | @asleep m' a b c k ha hb hc hk =>
    unfold wakeUp
    dsimp only
    split
    · rename_i hm
      subst hm
      exact .lock (hidle m') (.access ha hk)
    · exact .asleep ha hb hc hk
  | nil => exact .nil
  | lock hm hk => exact .lock hm hk
  | unlock hm hk => exact .unlock hm hk
  | access ha hk => exact .access ha hk
  | wait ha hb hc hk => exact .wait ha hb hc hk
  | signal hm hk => exact .signal hm hk
  | broadcast hm hk => exact .broadcast hm hk

/-- A step of one thread that keeps the locks. -/
theorem Good.goto (hs : Good R Inv s) {i : ι} {k : Code κ α} (hk : Fits R (s.held i) k) : Good R Inv (s.goto i k) where
  data := hs.data
  fits j := by
    by_cases hj : j = i
    · subst hj
      simpa using hk
    · rw [State.goto_held, s.goto_code_of_ne i hj]
      exact hs.fits j
  exclusive := hs.exclusive

/-- A step of one thread that changes its locks; a lock that is new to it is held by nobody else. -/
theorem Good.hold (hs : Good R Inv s) {i : ι} {h : κ → Nat} {k : Code κ α} (hk : Fits R h k)
    (hnew : ∀ m, 0 < h m → 0 < s.held i m ∨ ∀ j, j ≠ i → s.held j m = 0) : Good R Inv ((s.hold i h).goto i k) where
  data := hs.data
  fits j := by
    by_cases hj : j = i
    · subst hj
      simpa using hk
    · rw [State.goto_held, (s.hold i h).goto_code_of_ne i hj, s.hold_held_of_ne i hj]
      exact hs.fits j
  exclusive := by
    have hother (m : κ) (j : ι) (hi : 0 < h m) (hj : 0 < s.held j m) : j = i := by
      by_contra hne
      rcases hnew m hi with hold | hfree
      · exact hne (hs.exclusive m j i hj hold)
      · rw [hfree j hne] at hj
        exact Nat.lt_irrefl 0 hj
    intro m j j' hj hj'
    rw [State.goto_held] at hj hj'
    by_cases hji : j = i
    · by_cases hji' : j' = i
      · rw [hji, hji']
      · rw [hji, State.hold_held_self] at hj
        rw [s.hold_held_of_ne i hji'] at hj'
        exact absurd (hother m j' hj hj') hji'
    · rw [s.hold_held_of_ne i hji] at hj
      by_cases hji' : j' = i
      · rw [hji', State.hold_held_self] at hj'
        exact absurd (hother m j hj' hj) hji
      · rw [s.hold_held_of_ne i hji'] at hj'
        exact hs.exclusive m j j' hj hj'

omit [DecidableEq ι] in
/-- Other threads go on with code that fits as well. -/
theorem Good.recode (hs : Good R Inv s) {code : ι → Code κ α} (hcode : ∀ j, Fits R (s.held j) (code j)) :
    Good R Inv { s with code } := ⟨hs.data, hcode, hs.exclusive⟩

/-- A machine that keeps its rules goes on doing so, whatever the order of the steps. -/
theorem Good.step (hM : Obeys M R Inv allowed) (hs : Good R Inv s) {l : Label ι κ α Op} (h : Step M s l t)
    (hl : ∀ i op, l = .call i op → allowed op) : Good R Inv t := by
  have hfits {i : ι} {k : Code κ α} (hc : s.code i = k) : Fits R (s.held i) k := hc ▸ hs.fits i
  have hrelock {i : ι} {m : κ} {a : α} {k : Code κ α} (hidle : s.held i = unlocked) (ha : R.needs a (bump unlocked m) k)
      (hk : Fits R (bump unlocked m) k) : Good R Inv (s.goto i (.lock m :: .access a :: k)) :=
    hs.goto (hidle ▸ .lock (hM.idle m) (.access ha hk))
  cases h with
  | @call i op hc =>
    have hidle := (hfits hc).of_nil
    exact hs.goto (hidle ▸ hM.program op (hl i op rfl))
  | @lock i m k hc hfree =>
    refine hs.hold (hfits hc).of_lock.2 fun m' hm' => ?_
    by_cases h : m' = m
    · subst h
      exact .inr hfree
    · rw [bump_of_ne h] at hm'
      exact .inl hm'
  | @unlock i m k hc hheld => exact hs.hold (hfits hc).of_unlock.2 fun m' hm' => .inl (hm'.trans_le (drop_le ..))
  | @access i a k hc =>
    obtain ⟨ha, hk⟩ := (hfits hc).of_access
    have hdata : Good R Inv { s with data := (M.exec i a s.data).1 } :=
      ⟨hM.kept i a s.data _ _ hs.data ha, hs.fits, hs.exclusive⟩
    exact hdata.goto (hM.exec i a s.data _ _ hs.data ha hk)
  | @wait i m a b c k hc hheld =>
    obtain ⟨hone, ha, hb, hc, hk⟩ := (hfits hc).of_wait
    rw [hone] at ha hb hc hk ⊢
    rw [drop_bump]
    exact hs.hold (.asleep ha hb hc hk) fun m' hm' => absurd hm' (Nat.lt_irrefl 0)
  | @woken i m a b c k hc =>
    obtain ⟨hidle, ha, hb, hc, hk⟩ := (hfits hc).of_asleep
    exact hrelock hidle ha hk
  | @late i m a b c k hc =>
    obtain ⟨hidle, ha, hb, hc, hk⟩ := (hfits hc).of_asleep
    exact hrelock hidle hb hk
  | @interrupted i m a b c k hc =>
    obtain ⟨hidle, ha, hb, hc, hk⟩ := (hfits hc).of_asleep
    exact hrelock hidle hc hk
  | @signal i m k code hc hcode hsome =>
    have hothers : Good R Inv { s with code := Function.update code i (s.code i) } := by
      refine hs.recode fun j => ?_
      by_cases hj : j = i
      · subst hj
        rw [Function.update_self]
        exact hs.fits j
      · rw [Function.update_of_ne hj]
        rcases hcode j hj with h | h
        · exact h ▸ hs.fits j
        · exact h ▸ fits_wakeUp hM.idle m (hs.fits j)
    have hgoto := hothers.goto (i := i) (hfits hc).of_signal.2
    unfold State.goto at hgoto ⊢
    simpa only [Function.update_idem] using hgoto
  | @broadcast i m k hc =>
    have hothers : Good R Inv { s with code := fun j => wakeUp m (s.code j) } :=
      hs.recode fun j => fits_wakeUp hM.idle m (hs.fits j)
    exact hothers.goto (hfits hc).of_broadcast.2

theorem Good.trace (hM : Obeys M R Inv allowed) (hs : Good R Inv s) {ls : List (Label ι κ α Op)}
    (h : Trace M allowed s ls t) : Good R Inv t := by
  induction h with
  | nil => exact hs
  | cons hstep hl _ ih => exact ih (hs.step hM hstep hl)

/-! ## Progress -/

/-- The thread has something to do and does not sleep. -/
def Awake (s : State ι κ α σ) (i : ι) : Prop :=
  ∃ c k, s.code i = c :: k ∧ ∀ m woken late interrupted, c ≠ .asleep m woken late interrupted

omit [DecidableEq ι] in
/-- Who holds a lock is awake. -/
theorem Good.awake_of_held (hs : Good R Inv s) {j : ι} {m : κ} (hj : 0 < s.held j m) : Awake s j := by
  have hfits := hs.fits j
  cases hc : s.code j with
  | nil =>
    rw [hc] at hfits
    rw [hfits.of_nil] at hj
    exact absurd hj (Nat.lt_irrefl 0)
  | cons c k =>
    refine ⟨c, k, hc, fun m' a b d h => ?_⟩
    rw [hc, h] at hfits
    rw [hfits.of_asleep.1] at hj
    exact absurd hj (Nat.lt_irrefl 0)

/-- A thread that cannot go on stands before a lock that another one holds. -/
theorem Good.blocked (hs : Good R Inv s) {i : ι} (hi : Awake s i) (hstuck : ∀ c t, ¬Step M s (.run i c) t) :
    ∃ m j, j ≠ i ∧ 0 < s.held j m ∧ R.admits (s.held i) m := by
  obtain ⟨c, k, hc, hawake⟩ := hi
  have hfits := hs.fits i
  rw [hc] at hfits
  cases c with
  | lock m =>
    by_contra hnone
    refine hstuck _ _ (.lock hc fun j hj => ?_)
    by_contra hheld
    exact hnone ⟨m, j, hj, Nat.pos_of_ne_zero hheld, hfits.of_lock.1⟩
  | unlock m => exact absurd (.unlock hc hfits.of_unlock.1) (hstuck _ _)
  | access a => exact absurd (.access hc) (hstuck _ _)
  | wait m a b d =>
    refine absurd (.wait hc ?_) (hstuck _ _)
    rw [hfits.of_wait.1]
    exact bump_self unlocked m
  | asleep m a b d => exact absurd rfl (hawake m a b d)
  | signal m =>
    have hall : ∀ j, j ≠ i → (fun j => wakeUp m (s.code j)) j = s.code j ∨
        (fun j => wakeUp m (s.code j)) j = wakeUp m (s.code j) := fun _ _ => .inr rfl
    refine absurd (.signal hc hall fun j hj => ?_) (hstuck _ _)
    exact ⟨j, hj, rfl⟩
  | broadcast m => exact absurd (.broadcast hc) (hstuck _ _)

/-- Mutexes are locked in the order of their ranks, but for those that are held already. -/
def Ranked (R : Rules κ α) (rank : κ → Nat) : Prop :=
  ∀ h m, R.admits h m → 0 < h m ∨ ∀ m', 0 < h m' → rank m' < rank m

/-- If mutexes are locked in an order, then some thread can go on as long as one is awake. -/
theorem Good.progress [Finite ι] (hs : Good R Inv s) {rank : κ → Nat} (hrank : Ranked R rank) {i : ι}
    (hi : Awake s i) : ∃ j c t, Awake s j ∧ Step M s (.run j c) t := by
  by_contra hstuck
  have hblocked (j : ι) (hj : Awake s j) : ∃ m j', j' ≠ j ∧ 0 < s.held j' m ∧ R.admits (s.held j) m :=
    hs.blocked (M := M) hj fun c t h => hstuck ⟨j, c, t, hj, h⟩
  obtain ⟨m, -⟩ := hblocked i hi
  have : Nonempty κ := ⟨m⟩
  choose! wants holder hne hheld hadmits using hblocked
  obtain ⟨j, hj, hmax⟩ := Set.exists_max_image {j | Awake s j} (rank ∘ wants) (Set.toFinite _) ⟨i, hi⟩
  have hawake : Awake s (holder j) := hs.awake_of_held (hheld j hj)
  rcases hrank _ _ (hadmits (holder j) hawake) with hown | hbelow
  · exact hne (holder j) hawake (hs.exclusive _ _ _ (hheld (holder j) hawake) hown)
  · exact absurd (hmax (holder j) hawake) (Nat.not_le.mpr (hbelow _ (hheld j hj)))

/-! ## What is done between two states -/

omit [DecidableEq ι] in
theorem wakeUp_cases (m : κ) (k : Code κ α) : wakeUp m k = k ∨
    ∃ a b c k', k = .asleep m a b c :: k' ∧ wakeUp m k = .lock m :: .access a :: k' := by
  unfold wakeUp
  split
  · rename_i m' a b c k'
    split
    · rename_i hm
      exact .inr ⟨a, b, c, k', by rw [hm], rfl⟩
    · exact .inl rfl
  · exact .inl rfl

omit [DecidableEq ι] in
theorem wakeUp_append {m : κ} {x k : Code κ α} {a : α} :
    ∃ x', wakeUp m (x ++ .access a :: k) = x' ++ .access a :: k := by
  rcases wakeUp_cases m (x ++ .access a :: k) with h | ⟨b, c, d, k', hcode, h⟩
  · exact ⟨x, h⟩
  · cases x with
    | nil => cases hcode
    | cons y x =>
      obtain ⟨-, rfl⟩ := List.cons.inj hcode
      exact ⟨.lock m :: .access b :: x, h⟩

/-- The thread that makes the step. -/
def Label.thread : Label ι κ α Op → ι
  | .call i _ => i
  | .run i _ => i

/-- What a step does to another thread. -/
theorem Step.other (h : Step M s l t) {j : ι} (hj : j ≠ l.thread) :
    t.code j = s.code j ∨ ∃ m, t.code j = wakeUp m (s.code j) := by
  cases h with
  | call op hc => exact .inl (State.goto_code_of_ne _ _ hj _)
  | lock hc _ | unlock hc _ | access hc | wait hc _ | woken hc | late hc | interrupted hc =>
    exact .inl (State.goto_code_of_ne _ _ hj _)
  | @signal i m k code hc hcode _ =>
    have hnext : ({ s with code }.goto i k).code j = code j := State.goto_code_of_ne _ _ hj _
    rw [hnext]
    exact (hcode j hj).imp id fun h => ⟨m, h⟩
  | @broadcast i m k hc => exact .inr ⟨m, State.goto_code_of_ne _ _ hj _⟩

/-- A step changes the code of its thread at the front. -/
theorem Step.own {i : ι} {c : Command κ α} (h : Step M s (.run i c) t) :
    ∃ k, s.code i = c :: k ∧ ∃ x, t.code i = x ++ k ∧ ∀ a, c = .access a → x = (M.exec i a s.data).2 := by
  cases h with
  | @access _ a k hc =>
    refine ⟨k, hc, (M.exec i a s.data).2, State.goto_code_self _ _ _, fun b hb => ?_⟩
    cases hb
    rfl
  | lock hc _ | unlock hc _ | signal hc _ _ | broadcast hc =>
    exact ⟨_, hc, [], State.goto_code_self _ _ _, fun _ hb => by cases hb⟩
  | @wait _ m a b d k hc _ => exact ⟨k, hc, [.asleep m a b d], State.goto_code_self _ _ _, fun _ hb => by cases hb⟩
  | @woken _ m a b d k hc => exact ⟨k, hc, [.lock m, .access a], State.goto_code_self _ _ _, fun _ hb => by cases hb⟩
  | @late _ m a b d k hc => exact ⟨k, hc, [.lock m, .access b], State.goto_code_self _ _ _, fun _ hb => by cases hb⟩
  | @interrupted _ m a b d k hc =>
    exact ⟨k, hc, [.lock m, .access d], State.goto_code_self _ _ _, fun _ hb => by cases hb⟩

/-- A step leaves an access to be made, or makes it. -/
theorem Step.access_next {l : Label ι κ α Op} (h : Step M s l t) {i : ι} {x k : Code κ α} {a : α}
    (hs : s.code i = x ++ .access a :: k) :
    (∃ x', t.code i = x' ++ .access a :: k) ∨ x = [] ∧ l = .run i (.access a) := by
  by_cases hi : i = l.thread
  · cases l with
    | call j op =>
      obtain rfl : i = j := hi
      cases h with
      | call _ hc =>
        rw [hc] at hs
        simp at hs
    | run j c =>
      obtain rfl : i = j := hi
      obtain ⟨k', hc, y, ht, -⟩ := h.own
      rw [hc] at hs
      cases x with
      | nil =>
        obtain ⟨rfl, -⟩ := List.cons.inj hs
        exact .inr ⟨rfl, rfl⟩
      | cons c' x =>
        obtain ⟨-, rfl⟩ := List.cons.inj hs
        exact .inl ⟨y ++ x, ht.trans (List.append_assoc ..).symm⟩
  · rcases h.other hi with h | ⟨m, h⟩
    · exact .inl ⟨x, h.trans hs⟩
    · rw [hs] at h
      obtain ⟨x', hx'⟩ := wakeUp_append (m := m) (x := x) (k := k) (a := a)
      exact .inl ⟨x', h.trans hx'⟩

/-- An access that a thread has left behind has been made: between the two states there is one in which
the thread is about to make it. -/
theorem Trace.access {ls : List (Label ι κ α Op)} (h : Trace M allowed s ls t) {i : ι} {x k : Code κ α} {a : α}
    (hs : s.code i = x ++ .access a :: k) (ht : (t.code i).length ≤ k.length) :
    ∃ ls₁ ls₂ u u', ls = ls₁ ++ .run i (.access a) :: ls₂ ∧ Trace M allowed s ls₁ u ∧ u.code i = .access a :: k ∧
      Step M u (.run i (.access a)) u' ∧ u'.code i = (M.exec i a u.data).2 ++ k ∧ Trace M allowed u' ls₂ t := by
  induction h generalizing x with
  | nil s =>
    rw [hs, List.length_append, List.length_cons] at ht
    omega
  | @cons s u t l ls hstep hl htrace ih =>
    rcases hstep.access_next hs with ⟨x', hx'⟩ | ⟨rfl, rfl⟩
    · obtain ⟨ls₁, ls₂, v, v', rfl, hfirst, hrest⟩ := ih hx' ht
      exact ⟨l :: ls₁, ls₂, v, v', rfl, .cons hstep hl hfirst, hrest⟩
    · obtain ⟨k', hc, y, hu, hy⟩ := hstep.own
      rw [hs, List.nil_append] at hc
      obtain ⟨-, rfl⟩ := List.cons.inj hc
      rw [hy a rfl] at hu
      exact ⟨[], ls, s, u, rfl, .nil s, hs, hstep, hu, htrace⟩

end

end

end Monitor
