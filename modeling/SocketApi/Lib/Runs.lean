import SocketApi.Lib.Post

/-!
# Runs that return

`Runs x s a t` says that the program `x` started in `s` returns `a` and leaves `t`. There is one
rule for each way to compose programs.
-/

namespace Effect

variable {ε σ α β : Type} {x y : EStateM ε σ α} {s t u : σ} {a : α} {b : β}

def Runs (x : EStateM ε σ α) (s : σ) (a : α) (t : σ) : Prop := x s = .ok a t

namespace Runs

theorem post (h : Runs x s a t) {Q : α → σ → Prop} {H : ε → σ → Prop} : Post x s Q H ↔ Q a t := post_of_ok h

theorem unique {a' : α} {t' : σ} (h : Runs x s a t) (h' : Runs x s a' t') : a' = a ∧ t' = t := by
  cases h.symm.trans h'
  exact ⟨rfl, rfl⟩

theorem pure (a : α) (s : σ) : Runs (pure a : EStateM ε σ α) s a s := rfl

theorem bind {f : α → EStateM ε σ β} (hx : Runs x s a t) (hf : Runs (f a) t b u) : Runs (x >>= f) s b u := by
  show EStateM.bind x f s = _
  unfold EStateM.bind
  rw [hx]
  exact hf

theorem map (f : α → β) (hx : Runs x s a t) : Runs (f <$> x) s (f a) t := by
  show EStateM.map f x s = _
  unfold EStateM.map
  rw [hx]

theorem discard (hx : Runs x s a t) : Runs (discard x) s () t := map _ hx

theorem ite_pos {c : Prop} [Decidable c] (hc : c) (hx : Runs x s a t) : Runs (if c then x else y) s a t := by
  rwa [if_pos hc]

theorem ite_neg {c : Prop} [Decidable c] (hc : ¬ c) (hy : Runs y s a t) : Runs (if c then x else y) s a t := by
  rwa [if_neg hc]

/-- A loop that is over after its first round. -/
theorem loop {out : ε} {body : EStateM ε σ α → EStateM ε σ α} (h : ∀ rest, Runs (body rest) s a t) (n : Nat) :
    Runs (loop out body n) s a t := by
  cases n with
  | zero => exact h _
  | succ n => exact h _

/-- The rest of the program, behind a part that returns. -/
theorem bind_eq {f : α → EStateM ε σ β} (hx : Runs x s a t) : (x >>= f) s = f a t := by
  change EStateM.bind x f s = f a t
  unfold EStateM.bind
  rw [hx]

theorem bind_iff {f : α → EStateM ε σ β} : Runs (x >>= f) s b u ↔ ∃ a t, Runs x s a t ∧ Runs (f a) t b u := by
  constructor
  · intro h
    cases hx : x s with
    | ok a t => exact ⟨a, t, hx, (bind_eq (f := f) hx).symm.trans h⟩
    | error e t =>
      change EStateM.bind x f s = _ at h
      simp [EStateM.bind, hx] at h
  · rintro ⟨a, t, hx, hf⟩
    exact hx.bind hf

theorem map_iff {f : α → β} : Runs (f <$> x) s b t ↔ ∃ a, Runs x s a t ∧ f a = b := by
  rw [map_eq_pure_bind, bind_iff]
  constructor
  · rintro ⟨a, u, hx, hf⟩
    cases hf
    exact ⟨a, hx, rfl⟩
  · rintro ⟨a, hx, rfl⟩
    exact ⟨a, t, hx, rfl⟩

end Runs

/-! ## Programs that run alike -/

theorem bind_congr_run {f g : α → EStateM ε σ β} (h : Post x s (fun a t => f a t = g a t) fun _ _ => True) :
    (x >>= f) s = (x >>= g) s := by
  change EStateM.bind x f s = EStateM.bind x g s
  unfold EStateM.bind
  unfold Post at h
  cases hx : x s with
  | ok a t =>
    rw [hx] at h
    exact h
  | error e t => rfl

theorem run_bind_congr {f : α → EStateM ε σ β} (h : x s = y s) : (x >>= f) s = (y >>= f) s := by
  change EStateM.bind x f s = EStateM.bind y f s
  unfold EStateM.bind
  rw [h]

end Effect
