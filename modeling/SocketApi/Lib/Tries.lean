import SocketApi.Lib.Post

/-!
# Searches by trying

A search goes through a list, with an accumulator, until a try ends it. Two searches can be compared try by try,
also when one of them goes on in states in which it can no longer succeed.
-/

namespace Effect

variable {ε σ α β β' γ : Type}

/-- A loop with a `break`: a try ends it with a result, or it goes on with another accumulator. -/
def tries (attempt : γ → α → EStateM ε σ (β ⊕ γ)) : List α → γ → EStateM ε σ (β ⊕ γ)
  | [], c => return .inr c
  | a :: l, c => do
    match ← attempt c a with
    | .inl b => return .inl b
    | .inr c => tries attempt l c

section

variable {attempt : γ → α → EStateM ε σ (β ⊕ γ)} {P : β → σ → Prop} {R : γ → σ → Prop} {H : ε → σ → Prop}

theorem post_tries_cons (a : α) (l : List α) (c : γ) (s : σ) :
    Post (tries attempt (a :: l) c) s (Sum.elim P R) H ↔
      Post (attempt c a) s (Sum.elim P fun c t => Post (tries attempt l c) t (Sum.elim P R) H) H := by
  rw [tries, post_bind]
  have hnext (r : β ⊕ γ) (t : σ) : Post (match r with
      | .inl b => (return .inl b : EStateM ε σ (β ⊕ γ))
      | .inr c => tries attempt l c) t (Sum.elim P R) H ↔
        Sum.elim P (fun c t => Post (tries attempt l c) t (Sum.elim P R) H) r t := by
    cases r with
    | inl b => rfl
    | inr c => rfl
  simp only [hnext]

/-- The rule of an invariant: it holds before each try. -/
theorem post_tries {I : γ → σ → Prop} {l : List α}
    (h : ∀ a ∈ l, ∀ c s, I c s → Post (attempt c a) s (Sum.elim P I) H) (c : γ) (s : σ) (hI : I c s) :
    Post (tries attempt l c) s (Sum.elim P I) H := by
  induction l generalizing c s with
  | nil => exact hI
  | cons a l ih =>
    rw [List.forall_mem_cons] at h
    rw [post_tries_cons]
    apply (h.1 c s hI).imp
    intro r t hr
    cases r with
    | inl b => exact hr
    | inr c => exact ih h.2 c t hr

end

/-! ## Two searches -/

/-- Two conditions agree where `Alive` holds, and the first fails where `Dead` does. -/
structure AgreeOn (Alive Dead : γ → σ → Prop) (R R' : γ → σ → Prop) : Prop where
  same : ∀ c s, Alive c s → (R c s ↔ R' c s)
  dead : ∀ c s, Dead c s → ¬R c s

/-- Whatever follows the two programs, if it agrees then so do the programs with it. -/
def InStep (Alive Dead : γ → σ → Prop) (P : β → σ → Prop) (P' : β' → σ → Prop) (H : ε → σ → Prop)
    (x : γ → EStateM ε σ (β ⊕ γ)) (y : γ → EStateM ε σ (β' ⊕ γ)) : Prop :=
  ∀ R R', AgreeOn Alive Dead R R' →
    AgreeOn Alive Dead (fun c s => Post (x c) s (Sum.elim P R) H) (fun c s => Post (y c) s (Sum.elim P' R') H)

variable {Alive Dead : γ → σ → Prop} {P : β → σ → Prop} {P' : β' → σ → Prop} {H : ε → σ → Prop}

theorem InStep.tries {x : γ → α → EStateM ε σ (β ⊕ γ)} {y : γ → α → EStateM ε σ (β' ⊕ γ)} {l : List α}
    (h : ∀ a ∈ l, InStep Alive Dead P P' H (fun c => x c a) (fun c => y c a)) :
    InStep Alive Dead P P' H (Effect.tries x l) (Effect.tries y l) := by
  intro R R' hR
  induction l with
  | nil => exact hR
  | cons a l ih =>
    rw [List.forall_mem_cons] at h
    have hstep := h.1 _ _ (ih h.2)
    constructor
    · intro c s hs
      rw [post_tries_cons, post_tries_cons]
      exact hstep.same c s hs
    · intro c s hs
      rw [post_tries_cons]
      exact hstep.dead c s hs

end Effect
