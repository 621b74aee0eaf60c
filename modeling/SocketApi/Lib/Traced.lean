import SocketApi.Lib.Post

/-!
# Programs that record events

A program over a state, with a list of the events so far beside it. `Forgets x y` says that the
traced program `x` does what `y` does, and records some events.
-/

namespace Effect

abbrev Traced (V ε σ α : Type) := EStateM ε (σ × List V) α

variable {V ε σ α β γ : Type}

/-- A program that records nothing. -/
def untraced (x : EStateM ε σ α) : Traced V ε σ α := fun s =>
  match x s.1 with
  | .ok a w => .ok a (w, s.2)
  | .error e w => .error e (w, s.2)

/-- An event takes place. -/
def emit (v : V) : Traced V ε σ Unit := modify fun s => (s.1, s.2 ++ [v])

/-- Several events, in their order. -/
def emits (l : List V) : Traced V ε σ Unit := modify fun s => (s.1, s.2 ++ l)

/-- The events of a run. -/
def events (x : Traced V ε σ α) (w : σ) : List V :=
  match x (w, []) with
  | .ok _ s => s.2
  | .error _ s => s.2

/-! ## Postconditions -/

section

variable {s : σ × List V} {Q : α → σ × List V → Prop} {H : ε → σ × List V → Prop}

theorem post_untraced {x : EStateM ε σ α} :
    Post (untraced x) s Q H ↔ Post x s.1 (fun a w => Q a (w, s.2)) (fun e w => H e (w, s.2)) := by
  unfold Post untraced
  cases x s.1 <;> rfl

theorem post_emit {v : V} {Q : Unit → σ × List V → Prop} : Post (emit v) s Q H ↔ Q () (s.1, s.2 ++ [v]) := Iff.rfl

theorem post_emits {l : List V} {Q : Unit → σ × List V → Prop} : Post (emits l) s Q H ↔ Q () (s.1, s.2 ++ l) := Iff.rfl

theorem events_of_post {x : Traced V ε σ α} {w : σ} {P : List V → Prop} :
    P (events x w) ↔ Post x (w, []) (fun _ t => P t.2) (fun _ t => P t.2) := by
  unfold events Post
  cases x (w, []) <;> rfl

end

/-! ## Allowed events -/

/-- All events of a program are allowed, and what it returns is as `P` says. -/
def Allows (ok : V → Prop) (x : Traced V ε σ α) (P : α → Prop) : Prop :=
  ∀ s, (∀ v ∈ s.2, ok v) →
    Post x s (fun a t => (∀ v ∈ t.2, ok v) ∧ P a) (fun _ t => ∀ v ∈ t.2, ok v)

namespace Allows

variable {ok : V → Prop} {P : α → Prop} {Q : β → Prop}

theorem pure {a : α} (h : P a) : Allows ok (pure a : Traced V ε σ α) P := fun _ hs => ⟨hs, h⟩

theorem throw (e : ε) : Allows ok (throw e : Traced V ε σ α) P := fun _ hs => hs

theorem emit {v : V} (h : ok v) : Allows ok (emit v : Traced V ε σ Unit) fun _ => True := by
  intro s hs
  rw [post_emit]
  exact ⟨List.forall_mem_append.mpr ⟨hs, List.forall_mem_singleton.mpr h⟩, trivial⟩

theorem untraced (x : EStateM ε σ α) : Allows ok (untraced x : Traced V ε σ α) fun _ => True := by
  intro s hs
  rw [post_untraced]
  exact post_true.mono (fun _ _ _ => ⟨hs, trivial⟩) fun _ _ _ => hs

theorem bind {x : Traced V ε σ α} {f : α → Traced V ε σ β} (h : Allows ok x P)
    (hf : ∀ a, P a → Allows ok (f a) Q) : Allows ok (x >>= f) Q := by
  intro s hs
  apply (h s hs).bind
  intro a t ha
  exact hf a ha.2 t ha.1

theorem events {x : Traced V ε σ α} (h : Allows ok x P) (w : σ) : ∀ v ∈ events x w, ok v := by
  apply (events_of_post (P := fun l => ∀ v ∈ l, ok v)).mpr
  have hnone : ∀ v ∈ ((w, []) : σ × List V).2, ok v := fun v hv => absurd hv List.not_mem_nil
  exact (h _ hnone).imp fun _ _ ha => ha.1

end Allows

/-! ## Forgetting the events -/

def withEvents (t : List V) : EStateM.Result ε σ α → EStateM.Result ε (σ × List V) α
  | .ok a w => .ok a (w, t)
  | .error e w => .error e (w, t)

/-- A traced program does what the other one does. -/
def Forgets (x : Traced V ε σ α) (y : EStateM ε σ α) : Prop := ∀ s, ∃ t, x s = withEvents t (y s.1)

theorem forgets_pure (a : α) : Forgets (pure a : Traced V ε σ α) (pure a) := fun s => ⟨s.2, rfl⟩

theorem forgets_throw (e : ε) : Forgets (throw e : Traced V ε σ α) (throw e) := fun s => ⟨s.2, rfl⟩

theorem forgets_emit (v : V) : Forgets (emit v : Traced V ε σ Unit) (pure ()) := fun s => ⟨s.2 ++ [v], rfl⟩

theorem forgets_emits (l : List V) : Forgets (emits l : Traced V ε σ Unit) (pure ()) := fun s => ⟨s.2 ++ l, rfl⟩

theorem forgets_untraced (x : EStateM ε σ α) : Forgets (untraced x : Traced V ε σ α) x := by
  intro s
  refine ⟨s.2, ?_⟩
  unfold untraced
  cases x s.1 <;> rfl

namespace Forgets

theorem bind {x : Traced V ε σ α} {y : EStateM ε σ α} {f : α → Traced V ε σ β} {g : α → EStateM ε σ β}
    (h : Forgets x y) (hf : ∀ a, Forgets (f a) (g a)) : Forgets (x >>= f) (y >>= g) := by
  intro s
  obtain ⟨t, ht⟩ := h s
  show ∃ t, EStateM.bind x f s = withEvents t (EStateM.bind y g s.1)
  unfold EStateM.bind
  rw [ht]
  cases y s.1 with
  | ok a w => exact hf a (w, t)
  | error e w => exact ⟨t, rfl⟩

/-- A part that the other program does not have. -/
theorem pure_bind {x : Traced V ε σ α} {a : α} {f : α → Traced V ε σ β} {y : EStateM ε σ β} (h : Forgets x (pure a))
    (hf : Forgets (f a) y) : Forgets (x >>= f) y := by
  intro s
  obtain ⟨t, ht⟩ := h s
  show ∃ t, EStateM.bind x f s = withEvents t (y s.1)
  unfold EStateM.bind
  rw [ht]
  exact hf (s.1, t)

/-- A program that only hands on what the other one returns. -/
theorem bind_handed {x : Traced V ε σ β} {y : EStateM ε σ α} {k : α → β} {f : β → Traced V ε σ γ}
    {g : α → EStateM ε σ γ} (h : Forgets x (y >>= fun a => pure (k a))) (hf : ∀ a, Forgets (f (k a)) (g a)) :
    Forgets (x >>= f) (y >>= g) := by
  intro s
  obtain ⟨t, ht⟩ := h s
  change x s = withEvents t (EStateM.bind y (fun a => pure (k a)) s.1) at ht
  show ∃ t, EStateM.bind x f s = withEvents t (EStateM.bind y g s.1)
  unfold EStateM.bind at *
  rw [ht]
  cases y s.1 with
  | ok a w => exact hf a (w, t)
  | error e w => exact ⟨t, rfl⟩

end Forgets

end Effect
