import SocketApi.Lib.Runs

/-!
# Programs with a last step

`Concludes p k x y` says that the program `x` does `y` and then `k`, as far as the part `p` of its
result is concerned. There is one rule for each way to compose programs.
-/

namespace Effect

variable {m : Type → Type} [Monad m] [LawfulMonad m] {α β γ δ : Type}

def Concludes (p : α → γ) (k : β → m γ) (x : m α) (y : m β) : Prop := p <$> x = y >>= k

namespace Concludes

variable {p : α → γ} {k : β → m γ}

theorem last {x : m α} {b : β} (h : p <$> x = k b) : Concludes p k x (pure b) := by
  simp [Concludes, h]

theorem bind {x : m δ} {f : δ → m α} {g : δ → m β} (h : ∀ a, Concludes p k (f a) (g a)) :
    Concludes p k (x >>= f) (x >>= g) := by
  unfold Concludes at *
  simp only [map_bind, bind_assoc, h]

omit [LawfulMonad m] in
theorem ite {c : Prop} [Decidable c] {x x' : m α} {y y' : m β} (h : Concludes p k x y) (h' : Concludes p k x' y') :
    Concludes p k (if c then x else x') (if c then y else y') := by
  split
  · exact h
  · exact h'

/-- What is done to the result of `x` afterwards does not concern the last step. -/
theorem project {q : δ → α} {x : m δ} {y : m β} (h : Concludes (fun a => p (q a)) k x y) :
    Concludes p k (x >>= fun a => pure (q a)) y := by
  unfold Concludes at *
  rw [← h]
  simp only [map_eq_pure_bind, bind_assoc, pure_bind]

theorem id_iff {k : β → m α} {x : m α} {y : m β} : Concludes id k x y ↔ x = y >>= k := by
  simp [Concludes]

end Concludes

theorem Concludes.throw {ε σ : Type} {p : α → γ} {k : β → EStateM ε σ γ} (e : ε) :
    Concludes p k (throw e : EStateM ε σ α) (throw e : EStateM ε σ β) := rfl

/-- A run of `y` and one of the last step make a run of `x`. -/
theorem Concludes.runs {ε σ : Type} {p : α → γ} {k : β → EStateM ε σ γ} {x : EStateM ε σ α} {y : EStateM ε σ β}
    {s t u : σ} {b : β} {c : γ} (h : Concludes p k x y) (hy : Runs y s b t) (hk : Runs (k b) t c u) :
    Runs (p <$> x) s c u := by
  rw [h]
  exact hy.bind hk

end Effect
