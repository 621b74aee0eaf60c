import SocketApi.Lib.Post

/-!
# Programs whose runs stay inside a relation

`Keeps S T x` says that every run of `x` that returns is an `S` step and every run that
stops with `e` is a `T e` step. For a preorder `S` that `T` absorbs on the left this is
closed under sequencing, branching and loops, so that it is found by instance search.
-/

namespace Effect

variable {ε σ α β : Type}

/-- `S` is a preorder, and a `T` step may begin with an `S` step. -/
class Steps (S : σ → σ → Prop) (T : ε → σ → σ → Prop) : Prop where
  refl : ∀ s, S s s
  trans : ∀ {s t u}, S s t → S t u → S s u
  absorb : ∀ {e s t u}, S s t → T e t u → T e s u

class Keeps (S : σ → σ → Prop) (T : ε → σ → σ → Prop) (x : EStateM ε σ α) : Prop where
  post : ∀ s, Post x s (fun _ t => S s t) (fun e t => T e s t)

namespace Keeps

variable {S : σ → σ → Prop} {T : ε → σ → σ → Prop} {x y : EStateM ε σ α} {f : α → EStateM ε σ β}

theorem mono {S' : σ → σ → Prop} {T' : ε → σ → σ → Prop} (h : Keeps S T x) (hS : ∀ s t, S s t → S' s t)
    (hT : ∀ e s t, T e s t → T' e s t) : Keeps S' T' x where
  post s := (h.post s).mono (fun _ t => hS s t) fun e t => hT e s t

variable [Steps S T]

/-- A run behind an `S` step. -/
theorem after (h : Keeps S T x) {s t : σ} (hs : S s t) : Post x t (fun _ u => S s u) fun e u => T e s u :=
  (h.post t).mono (fun _ _ h' => Steps.trans T hs h') fun _ _ h' => Steps.absorb hs h'

instance pure (a : α) : Keeps S T (Pure.pure a) where
  post s := Steps.refl T s

instance bind [hx : Keeps S T x] [hf : ∀ a, Keeps S T (f a)] : Keeps S T (x >>= f) where
  post s := (hx.post s).bind fun a t h =>
    ((hf a).post t).mono (fun _ _ h' => Steps.trans T h h') fun _ _ h' => Steps.absorb h h'

/-- `bind` with the rest of the program as an argument. -/
theorem seq [Keeps S T x] (h : ∀ a, Keeps S T (f a)) : Keeps S T (x >>= f) := bind

instance map (g : α → β) [hx : Keeps S T x] : Keeps S T (g <$> x) where
  post s := post_map g |>.mpr (hx.post s)

instance discard [hx : Keeps S T x] : Keeps S T (discard x) := map _

instance ite {c : Prop} [Decidable c] [hx : Keeps S T x] [hy : Keeps S T y] : Keeps S T (if c then x else y) := by
  split
  · exact hx
  · exact hy

omit [Steps S T] in
theorem loop {out : ε} {body : EStateM ε σ α → EStateM ε σ α} [Keeps S T (throw out : EStateM ε σ α)]
    (hbody : ∀ rest, Keeps S T rest → Keeps S T (body rest)) (n : Nat) : Keeps S T (loop out body n) := by
  induction n with
  | zero => exact hbody _ inferInstance
  | succ n ih => exact hbody _ ih

end Keeps

end Effect
