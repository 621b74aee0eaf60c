import SocketApi.World

/-!
# Runs of several threads

A thread is a call that has begun in some state and has since let other threads run a number of
times; what it has found each time is all that decides how far it has come. A step of the system
begins a call or lets one go on until it returns or lets the others run.
-/

namespace SocketApi

open Effect

variable {L : Sctplib} {Op : Type}

/-- A call that has not returned: the state it began in, and what it found at each of its turns. -/
structure PendingCall (Op : Type) (L : Sctplib) where
  op : Op
  start : Shared L
  turns : List (Shared L)

structure System (Op : Type) (L : Sctplib) where
  shared : Shared L
  pending : List (PendingCall Op L)

/-- The environment of a thread that has found these states at its turns. -/
def Environment.replay (E : Environment L) (turns : List (Shared L)) : Environment L :=
  { E with interfere := fun n _ => turns[n]? }

variable (E : Environment L) (program : Op → Environment L → Act L Unit) (allowed : Op → Shared L → Prop)

def PendingCall.result (c : PendingCall Op L) : EStateM.Result Halt (World L) Unit :=
  program c.op (E.replay c.turns) { shared := c.start }

/-- The system after a run of the thread `c`. -/
inductive PendingCall.Settles (c : PendingCall Op L) (others : List (PendingCall Op L)) : System Op L → Prop
  | returned {w} (h : c.result E program = .ok () w) : Settles c others ⟨w.shared, others⟩
  | suspended {w} (h : c.result E program = .error .suspended w) : Settles c others ⟨w.shared, c :: others⟩

/-- A call is begun only where it is `allowed`. -/
inductive System.Step : System Op L → System Op L → Prop
  | begin {σ σ' : System Op L} (op : Op) (hop : allowed op σ.shared)
      (h : PendingCall.Settles E program ⟨op, σ.shared, []⟩ σ.pending σ') : Step σ σ'
  | resume {σ σ' : System Op L} {before after : List (PendingCall Op L)} {c : PendingCall Op L}
      (hc : σ.pending = before ++ c :: after)
      (h : PendingCall.Settles E program { c with turns := c.turns ++ [σ.shared] } (before ++ after) σ') : Step σ σ'

abbrev System.Run : System Op L → System Op L → Prop := Relation.ReflTransGen (System.Step E program allowed)

/-! ## A thread alone -/

/-- The state in which the thread lets others run. -/
def PendingCall.left (c : PendingCall Op L) : Option (Shared L) :=
  match c.result E program with
  | .error .suspended w => some w.shared
  | _ => none

/-- The system in which the thread has found `n` times what it had left. -/
def PendingCall.alone : Nat → PendingCall Op L → Option (System Op L)
  | 0, c => (c.left E program).map (⟨·, [c]⟩)
  | n + 1, c => (c.left E program).bind fun t => alone n { c with turns := c.turns ++ [t] }

/-- The state in which the thread returns, if it does so after at most `n` turns that change nothing. -/
def PendingCall.finish : Nat → PendingCall Op L → Option (Shared L)
  | 0, c =>
    match c.result E program with
    | .ok _ w => some w.shared
    | .error _ _ => none
  | n + 1, c =>
    match c.result E program with
    | .ok _ w => some w.shared
    | .error .suspended w => finish n { c with turns := c.turns ++ [w.shared] }
    | .error _ _ => none

/-- The state in which the last of the calls returns. -/
def System.play (n : Nat) (ops : List Op) (s : Shared L) : Option (Shared L) :=
  ops.foldlM (fun s op => PendingCall.finish E program n ⟨op, s, []⟩) s

/-! ## Invariants -/

/-- The invariant holds now and held whenever a thread that is still running looked at the state. -/
def System.Sound (Inv : Shared L → Prop) (σ : System Op L) : Prop :=
  Inv σ.shared ∧ ∀ c ∈ σ.pending, allowed c.op c.start ∧ Inv c.start ∧ ∀ t ∈ c.turns, Inv t

/-- Every call keeps the invariant, if all other threads do. -/
def Preserved (Inv : Shared L → Prop) : Prop :=
  ∀ op turns s, allowed op s → Inv s → (∀ t ∈ turns, Inv t) →
    Post (program op (E.replay turns)) { shared := s } (fun _ w => Inv w.shared) fun h w => h = .suspended → Inv w.shared

variable {E program allowed} {Inv : Shared L → Prop}

theorem PendingCall.Settles.sound {c : PendingCall Op L} {others : List (PendingCall Op L)} {σ' : System Op L}
    (h : PendingCall.Settles E program c others σ') (hprogram : Preserved E program allowed Inv)
    (hc : allowed c.op c.start ∧ Inv c.start ∧ ∀ t ∈ c.turns, Inv t)
    (hothers : ∀ d ∈ others, allowed d.op d.start ∧ Inv d.start ∧ ∀ t ∈ d.turns, Inv t) : σ'.Sound allowed Inv := by
  have hpost := hprogram c.op c.turns c.start hc.1 hc.2.1 hc.2.2
  cases h with
  | returned h => exact ⟨hpost.of_ok h, hothers⟩
  | suspended h => exact ⟨hpost.of_error h rfl, List.forall_mem_cons.mpr ⟨hc, hothers⟩⟩

theorem System.Sound.step (hprogram : Preserved E program allowed Inv) {σ σ' : System Op L}
    (hσ : σ.Sound allowed Inv) (h : System.Step E program allowed σ σ') : σ'.Sound allowed Inv := by
  obtain ⟨hshared, hpending⟩ := hσ
  cases h with
  | begin op hop h => exact h.sound hprogram ⟨hop, hshared, List.forall_mem_nil Inv⟩ hpending
  | @resume before after c hc h =>
    rw [hc] at hpending
    obtain ⟨hallowed, hstart, hturns⟩ := hpending c (List.mem_append_right _ (List.mem_cons_self ..))
    have hturns' : ∀ t ∈ c.turns ++ [σ.shared], Inv t :=
      List.forall_mem_append.mpr ⟨hturns, List.forall_mem_singleton.mpr hshared⟩
    refine h.sound hprogram ⟨hallowed, hstart, hturns'⟩ fun d hd => hpending d ?_
    · rcases List.mem_append.mp hd with hd | hd
      · exact List.mem_append_left _ hd
      · exact List.mem_append_right _ (List.mem_cons_of_mem c hd)

/-- An invariant that every call keeps holds throughout a run. -/
theorem System.Sound.run (hprogram : Preserved E program allowed Inv) {σ σ' : System Op L}
    (hσ : σ.Sound allowed Inv) (h : System.Run E program allowed σ σ') : σ'.Sound allowed Inv := by
  induction h with
  | refl => exact hσ
  | tail _ hstep ih => exact ih.step hprogram hstep

/-! ## Runs of one thread -/

theorem PendingCall.settles_left {c : PendingCall Op L} {others : List (PendingCall Op L)} {t : Shared L}
    (h : c.left E program = some t) : PendingCall.Settles E program c others ⟨t, c :: others⟩ := by
  unfold PendingCall.left at h
  split at h
  · rename_i w hw
    cases h
    exact .suspended hw
  · cases h

theorem System.run_alone {σ σ' : System Op L} {c : PendingCall Op L} {n : Nat} (h : c.alone E program n = some σ')
    (hc : ∀ t, c.left E program = some t → System.Run E program allowed σ ⟨t, [c]⟩) :
    System.Run E program allowed σ σ' := by
  induction n generalizing c with
  | zero =>
    obtain ⟨t, ht, rfl⟩ := Option.map_eq_some_iff.mp h
    exact hc t ht
  | succ n ih =>
    obtain ⟨t, ht, h⟩ := Option.bind_eq_some_iff.mp h
    refine ih h fun t' ht' => (hc t ht).tail ?_
    have hc : (System.mk t [c]).pending = [] ++ c :: [] := rfl
    exact .resume hc (PendingCall.settles_left ht')

/-- A run of one call. -/
theorem System.run_call {s : Shared L} {σ : System Op L} {op : Op} {n : Nat} (hop : allowed op s)
    (h : PendingCall.alone E program n ⟨op, s, []⟩ = some σ) : System.Run E program allowed ⟨s, []⟩ σ :=
  System.run_alone h fun _ ht => .single (.begin op hop (PendingCall.settles_left ht))

/-! ## Calls one after another -/

theorem System.run_finish {σ : System Op L} {c : PendingCall Op L} {n : Nat} {t : Shared L}
    (h : c.finish E program n = some t)
    (hc : ∀ σ', PendingCall.Settles E program c [] σ' → System.Run E program allowed σ σ') :
    System.Run E program allowed σ ⟨t, []⟩ := by
  induction n generalizing c with
  | zero =>
    unfold PendingCall.finish at h
    split at h
    · rename_i w hw
      cases h
      exact hc _ (.returned hw)
    · cases h
  | succ n ih =>
    unfold PendingCall.finish at h
    split at h
    · rename_i w hw
      cases h
      exact hc _ (.returned hw)
    · rename_i w hw
      have hpending : (System.mk w.shared [c]).pending = [] ++ c :: [] := rfl
      exact ih h fun σ' hσ' => (hc _ (.suspended hw)).tail (.resume hpending hσ')
    · cases h

/-- Calls that are made one after another are a run. -/
theorem System.run_play {s t : Shared L} {ops : List Op} {n : Nat} (hops : ∀ op s, allowed op s)
    (h : System.play E program n ops s = some t) : System.Run E program allowed ⟨s, []⟩ ⟨t, []⟩ := by
  induction ops generalizing s with
  | nil =>
    cases h
    exact .refl
  | cons op ops ih =>
    unfold System.play at h
    rw [List.foldlM_cons] at h
    obtain ⟨u, hu, h⟩ := Option.bind_eq_some_iff.mp h
    have hfirst : System.Run E program allowed ⟨s, []⟩ ⟨u, []⟩ :=
      System.run_finish hu fun _ hσ => .single (.begin op (hops op s) hσ)
    exact hfirst.trans (ih h)

end SocketApi
