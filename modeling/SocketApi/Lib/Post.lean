import Mathlib.Logic.Relation

/-!
# Postconditions of stateful programs that may stop early

A program is an `EStateM ε σ α`: it returns a value in a new state or stops with an `ε`.
`Post x s Q H` says that `x` started in `s` returns with `Q` or stops with `H`. The rules
below rewrite a `Post` of a composed program into `Post`s of its parts.
-/

namespace Effect

variable {ε σ α β : Type}

def Post (x : EStateM ε σ α) (s : σ) (Q : α → σ → Prop) (H : ε → σ → Prop) : Prop :=
  match x s with
  | .ok a t => Q a t
  | .error e t => H e t

instance (x : EStateM ε σ α) (s : σ) (Q : α → σ → Prop) (H : ε → σ → Prop)
    [∀ a t, Decidable (Q a t)] [∀ e t, Decidable (H e t)] : Decidable (Post x s Q H) :=
  match h : x s with
  | .ok a t => decidable_of_iff (Q a t) (by simp [Post, h])
  | .error e t => decidable_of_iff (H e t) (by simp [Post, h])

section rules

variable {x : EStateM ε σ α} {s : σ} {Q Q' : α → σ → Prop} {H H' : ε → σ → Prop}

theorem post_of_ok {a : α} {t : σ} (h : x s = .ok a t) : Post x s Q H ↔ Q a t := by
  simp [Post, h]

theorem post_of_error {e : ε} {t : σ} (h : x s = .error e t) : Post x s Q H ↔ H e t := by
  simp [Post, h]

@[simp] theorem post_pure (a : α) : Post (pure a : EStateM ε σ α) s Q H ↔ Q a s := Iff.rfl

@[simp] theorem post_bind (f : α → EStateM ε σ β) {Q : β → σ → Prop} :
    Post (x >>= f) s Q H ↔ Post x s (fun a t => Post (f a) t Q H) H := by
  show Post (EStateM.bind x f) s Q H ↔ _
  unfold Post EStateM.bind
  cases x s <;> rfl

@[simp] theorem post_map (f : α → β) {Q : β → σ → Prop} :
    Post (f <$> x) s Q H ↔ Post x s (fun a t => Q (f a) t) H := by
  show Post (EStateM.map f x) s Q H ↔ _
  unfold Post EStateM.map
  cases x s <;> rfl

@[simp] theorem post_discard {Q : Unit → σ → Prop} :
    Post (discard x) s Q H ↔ Post x s (fun _ t => Q () t) H := post_map _

@[simp] theorem post_get {Q : σ → σ → Prop} : Post (get : EStateM ε σ σ) s Q H ↔ Q s s := Iff.rfl

@[simp] theorem post_set (t : σ) {Q : PUnit → σ → Prop} :
    Post (set t : EStateM ε σ PUnit) s Q H ↔ Q ⟨⟩ t := Iff.rfl

@[simp] theorem post_modify (f : σ → σ) {Q : PUnit → σ → Prop} :
    Post (modify f : EStateM ε σ PUnit) s Q H ↔ Q ⟨⟩ (f s) := Iff.rfl

@[simp] theorem post_throw (e : ε) : Post (throw e : EStateM ε σ α) s Q H ↔ H e s := Iff.rfl

@[simp] theorem post_ite {c : Prop} [Decidable c] {y : EStateM ε σ α} :
    Post (if c then x else y) s Q H ↔ if c then Post x s Q H else Post y s Q H := by
  split <;> rfl

theorem Post.mono (h : Post x s Q H) (hQ : ∀ a t, Q a t → Q' a t) (hH : ∀ e t, H e t → H' e t) :
    Post x s Q' H' := by
  unfold Post at *
  cases hx : x s with
  | ok a t => rw [hx] at h; exact hQ a t h
  | error e t => rw [hx] at h; exact hH e t h

theorem Post.imp (h : Post x s Q H) (hQ : ∀ a t, Q a t → Q' a t) : Post x s Q' H :=
  h.mono hQ fun _ _ he => he

/-- Sequencing through a specification of the first program. -/
theorem Post.bind {R : α → σ → Prop} {f : α → EStateM ε σ β} {Q : β → σ → Prop}
    (h : Post x s R H) (hf : ∀ a t, R a t → Post (f a) t Q H) : Post (x >>= f) s Q H :=
  post_bind f |>.mpr (h.imp hf)

theorem Post.and (h : Post x s Q H) (h' : Post x s Q' H') :
    Post x s (fun a t => Q a t ∧ Q' a t) (fun e t => H e t ∧ H' e t) := by
  unfold Post at *
  cases hx : x s with
  | ok a t => rw [hx] at h h'; exact ⟨h, h'⟩
  | error e t => rw [hx] at h h'; exact ⟨h, h'⟩

/-- A specification of the program makes two postconditions the same. -/
theorem Post.congr {R : α → σ → Prop} (h : Post x s R fun _ _ => True) (hiff : ∀ a t, R a t → (Q a t ↔ Q' a t)) :
    Post x s Q H ↔ Post x s Q' H := by
  unfold Post at *
  cases hx : x s with
  | ok a t => rw [hx] at h; exact hiff a t h
  | error e t => rfl

/-- A condition that does not depend on the run. -/
theorem post_and_const {C : Prop} :
    Post x s (fun a t => C ∧ Q a t) (fun _ _ => False) ↔ C ∧ Post x s Q fun _ _ => False := by
  unfold Post
  cases x s with
  | ok a t => rfl
  | error e t => exact Iff.of_eq (and_false C).symm

theorem post_true : Post x s (fun _ _ => True) (fun _ _ => True) := by
  unfold Post; cases x s <;> trivial

/-- What a returning run tells, read off a postcondition. -/
theorem Post.of_ok (h : Post x s Q H) {a : α} {t : σ} (hx : x s = .ok a t) : Q a t :=
  (post_of_ok hx).mp h

theorem Post.of_error (h : Post x s Q H) {e : ε} {t : σ} (hx : x s = .error e t) : H e t :=
  (post_of_error hx).mp h

theorem Post.exists_ok (h : Post x s Q fun _ _ => False) : ∃ a t, x s = .ok a t ∧ Q a t := by
  unfold Post at h
  cases hx : x s with
  | ok a t => rw [hx] at h; exact ⟨a, t, rfl, h⟩
  | error e t => rw [hx] at h; exact h.elim

end rules

/-! ## Loops -/

/-- A loop of at most `n + 1` rounds: `body` is one round, given the rounds after it. A loop
that is not over by then stops with `out`. -/
def loop (out : ε) (body : EStateM ε σ α → EStateM ε σ α) : Nat → EStateM ε σ α
  | 0 => body (throw out)
  | n + 1 => body (loop out body n)

/-- The rule of an invariant: it holds before each round. -/
theorem Post.loop {out : ε} {body : EStateM ε σ α → EStateM ε σ α} {I : σ → Prop}
    {Q : α → σ → Prop} {H : ε → σ → Prop} (hout : ∀ s, I s → H out s)
    (hbody : ∀ rest, (∀ s, I s → Post rest s Q H) → ∀ s, I s → Post (body rest) s Q H) :
    ∀ n s, I s → Post (loop out body n) s Q H
  | 0, s, hs => hbody _ (fun t ht => (post_throw out).mpr (hout t ht)) s hs
  | n + 1, s, hs => hbody _ (fun t ht => Post.loop hout hbody n t ht) s hs

end Effect
