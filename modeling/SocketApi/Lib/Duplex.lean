import Mathlib.Logic.Relation

/-!
# Two parties with a queue in each direction

Each party is a sequential program that sends and receives; messages arrive in order, and a party that
receives waits for one. Without failures the parties go through the same states in every order of
their steps: the relation has the diamond property, so that one complete run tells of all of them.
-/

/-! ## Relations with the diamond property -/

namespace Descent

variable {α : Type}

/-- A run of so many steps. -/
inductive Steps (r : α → α → Prop) : Nat → α → α → Prop
  | refl (a : α) : Steps r 0 a a
  | head {n : Nat} {a b c : α} (h : r a b) (ht : Steps r n b c) : Steps r (n + 1) a c

/-- Two steps from the same state are the same, or each can follow on the other. -/
def Diamond (r : α → α → Prop) : Prop := ∀ a b c, r a b → r a c → b = c ∨ ∃ d, r b d ∧ r c d

def Final (r : α → α → Prop) (a : α) : Prop := ∀ b, ¬r a b

variable {r : α → α → Prop} {a b c f : α} {m n : Nat}

theorem Steps.trans (h : Steps r m a b) (h' : Steps r n b c) : Steps r (m + n) a c := by
  induction h with
  | refl => simpa using h'
  | head h _ ih =>
    rw [Nat.succ_add]
    exact .head h (ih h')

theorem Steps.reaches (h : Steps r n a b) : Relation.ReflTransGen r a b := by
  induction h with
  | refl => exact .refl
  | head h _ ih => exact .head h ih

theorem steps_of_reaches (h : Relation.ReflTransGen r a b) : ∃ n, Steps r n a b := by
  induction h using Relation.ReflTransGen.head_induction_on with
  | refl => exact ⟨0, .refl b⟩
  | head h _ ih =>
    obtain ⟨n, hn⟩ := ih
    exact ⟨n + 1, .head h hn⟩

/-- A step can be made the first one of a complete run. -/
theorem Steps.first (hr : Diamond r) (hf : Final r f) (hn : Steps r n a f) (h : r a b) :
    ∃ k, n = k + 1 ∧ Steps r k b f := by
  induction hn generalizing b with
  | refl => exact absurd h (hf b)
  | @head n a c f hc hn ih =>
    rcases hr a b c h hc with rfl | ⟨d, hbd, hcd⟩
    · exact ⟨n, rfl, hn⟩
    · obtain ⟨k, rfl, hd⟩ := ih hf hcd
      exact ⟨k + 1, rfl, .head hbd hd⟩

/-- When one run is complete, every run can be completed to the same state by the steps that it is shorter. -/
theorem Steps.descent (hr : Diamond r) (hf : Final r f) (hn : Steps r n a f) (hm : Steps r m a b) :
    ∃ k, n = m + k ∧ Steps r k b f := by
  induction hm generalizing n with
  | refl => exact ⟨n, by simp, hn⟩
  | head h _ ih =>
    obtain ⟨k, rfl, hk⟩ := hn.first hr hf h
    obtain ⟨l, rfl, hl⟩ := ih hk
    exact ⟨l, by omega, hl⟩

end Descent

/-! ## The parties -/

namespace Duplex

open Descent

/-- What `receive` gives. -/
inductive Reception (μ : Type) where
  | message (m : μ)
  | shutdown
  | error

/-- What a party does next. A `send` tells whether it has worked. -/
inductive Action (σ μ : Type) where
  | send (m : μ) (next : Bool → σ)
  | receive (next : Reception μ → σ)
  | stop

structure State (σ τ μ : Type) where
  left : σ
  right : τ
  toLeft : List μ := []
  toRight : List μ := []

variable {σ τ μ : Type}

/-- A party in `x`, with the queues of arriving and leaving messages; the other one is in `y`. It is told
that the other one has stopped behind the last message. -/
inductive Act (P : σ → Action σ μ) (Q : τ → Action τ μ) (x : σ) (y : τ) :
    List μ → List μ → σ → List μ → List μ → Prop
  | send {arriving leaving m next} (h : P x = .send m next) :
    Act P Q x y arriving leaving (next true) arriving (leaving ++ [m])
  | receive {arriving leaving m next} (h : P x = .receive next) :
    Act P Q x y (m :: arriving) leaving (next (.message m)) arriving leaving
  | closed {leaving next} (h : P x = .receive next) (hstop : Q y = .stop) :
    Act P Q x y [] leaving (next .shutdown) [] leaving

inductive Step (P : σ → Action σ μ) (Q : τ → Action τ μ) : State σ τ μ → State σ τ μ → Prop
  | left {s x toLeft toRight} (h : Act P Q s.left s.right s.toLeft s.toRight x toLeft toRight) :
    Step P Q s ⟨x, s.right, toLeft, toRight⟩
  | right {s y toLeft toRight} (h : Act Q P s.right s.left s.toRight s.toLeft y toRight toLeft) :
    Step P Q s ⟨s.left, y, toLeft, toRight⟩

/-- A call that fails. Messages that are under way are not delivered any more. -/
inductive Fails (P : σ → Action σ μ) (x : σ) : σ → Prop
  | send {m next} (h : P x = .send m next) : Fails P x (next false)
  | shutdown {next} (h : P x = .receive next) : Fails P x (next .shutdown)
  | error {next} (h : P x = .receive next) : Fails P x (next .error)

/-- A step of parties whose connection may break down. -/
inductive FragileStep (P : σ → Action σ μ) (Q : τ → Action τ μ) : State σ τ μ → State σ τ μ → Prop
  | step {s t} (h : Step P Q s t) : FragileStep P Q s t
  | left {s x} (h : Fails P s.left x) : FragileStep P Q s { s with left := x }
  | right {s y} (h : Fails Q s.right y) : FragileStep P Q s { s with right := y }

section

variable {P : σ → Action σ μ} {Q : τ → Action τ μ} {x x' x'' : σ} {y y' : τ}
  {arriving arriving' arriving'' leaving leaving' leaving'' : List μ}

theorem Act.unique (h : Act P Q x y arriving leaving x' arriving' leaving')
    (h' : Act P Q x y arriving leaving x'' arriving'' leaving'') :
    x' = x'' ∧ arriving' = arriving'' ∧ leaving' = leaving'' := by
  cases h with
  | send h =>
    cases h' with
    | send h' =>
      cases h.symm.trans h'
      exact ⟨rfl, rfl, rfl⟩
    | receive h' => cases h.symm.trans h'
    | closed h' => cases h.symm.trans h'
  | receive h =>
    cases h' with
    | send h' => cases h.symm.trans h'
    | receive h' =>
      cases h.symm.trans h'
      exact ⟨rfl, rfl, rfl⟩
  | closed h =>
    cases h' with
    | send h' => cases h.symm.trans h'
    | closed h' =>
      cases h.symm.trans h'
      exact ⟨rfl, rfl, rfl⟩

theorem Act.not_stop (h : Act P Q x y arriving leaving x' arriving' leaving') : P x ≠ .stop := by
  intro hstop
  cases h with
  | send h => cases h.symm.trans hstop
  | receive h => cases h.symm.trans hstop
  | closed h => cases h.symm.trans hstop

/-- What a party takes from the one queue and adds to the other, whatever there is besides. -/
theorem Act.effect (h : Act P Q x y arriving leaving x' arriving' leaving') (hQ : Q y ≠ .stop) :
    ∃ taken sent, arriving = taken ++ arriving' ∧ leaving' = leaving ++ sent ∧
      ∀ y more leaving, Act P Q x y (taken ++ more) leaving x' more (leaving ++ sent) := by
  cases h with
  | @send _ _ m _ h => exact ⟨[], [m], rfl, rfl, fun _ _ _ => .send h⟩
  | @receive _ _ m _ h =>
    refine ⟨[m], [], rfl, by simp, fun y more leaving => ?_⟩
    rw [List.append_nil]
    exact .receive h
  | closed h hstop => exact absurd hstop hQ

/-- Steps of different parties can be swapped. -/
theorem Act.swap {s : State σ τ μ} {toLeft toLeft' toRight toRight' : List μ}
    (h : Act P Q s.left s.right s.toLeft s.toRight x toLeft toRight)
    (h' : Act Q P s.right s.left s.toRight s.toLeft y toRight' toLeft') :
    ∃ t, Step P Q ⟨x, s.right, toLeft, toRight⟩ t ∧ Step P Q ⟨s.left, y, toLeft', toRight'⟩ t := by
  obtain ⟨taken, sent, htoLeft, rfl, hact⟩ := h.effect h'.not_stop
  obtain ⟨taken', sent', htoRight, rfl, hact'⟩ := h'.effect h.not_stop
  refine ⟨⟨x, y, toLeft ++ sent', toRight' ++ sent⟩, .right ?_, .left ?_⟩
  · have hright := hact' x (toRight' ++ sent) toLeft
    rw [← List.append_assoc, ← htoRight] at hright
    exact hright
  · have hleft := hact y (toLeft ++ sent') toRight'
    rw [← List.append_assoc, ← htoLeft] at hleft
    exact hleft

theorem diamond : Diamond (Step P Q) := by
  intro s t u ht hu
  cases ht with
  | left h =>
    cases hu with
    | left h' =>
      obtain ⟨rfl, rfl, rfl⟩ := h.unique h'
      exact .inl rfl
    | right h' => exact .inr (h.swap h')
  | right h =>
    cases hu with
    | left h' =>
      obtain ⟨d, hu, ht⟩ := h'.swap h
      exact .inr ⟨d, ht, hu⟩
    | right h' =>
      obtain ⟨rfl, rfl, rfl⟩ := h.unique h'
      exact .inl rfl

theorem final_of_stop {s : State σ τ μ} (hleft : P s.left = .stop) (hright : Q s.right = .stop) : Final (Step P Q) s := by
  intro t ht
  cases ht with
  | left h => exact h.not_stop hleft
  | right h => exact h.not_stop hright

/-! ## What a party knows of a run -/

end

/-- A party that has sent and received so many messages, whatever has failed. -/
inductive Behaves (P : σ → Action σ μ) (x : σ) : List μ → List μ → σ → Prop
  | refl : Behaves P x [] [] x
  | send {sent received y m next} (h : Behaves P x sent received y) (hy : P y = .send m next) :
    Behaves P x (sent ++ [m]) received (next true)
  | receive {sent received y next} (h : Behaves P x sent received y) (hy : P y = .receive next) (m : μ) :
    Behaves P x sent (received ++ [m]) (next (.message m))
  | closed {sent received y next} (h : Behaves P x sent received y) (hy : P y = .receive next) :
    Behaves P x sent received (next .shutdown)
  | fails {sent received y z} (h : Behaves P x sent received y) (hz : Fails P y z) : Behaves P x sent received z

section

variable {P : σ → Action σ μ} {Q : τ → Action τ μ} {x x₀ : σ} {y y₀ : τ} {s : State σ τ μ}

theorem Behaves.act {sent received arriving leaving arriving' leaving' : List μ} {x' : σ}
    (hx : Behaves P x₀ sent received x) (h : Act P Q x y arriving leaving x' arriving' leaving') :
    ∃ sent' received', Behaves P x₀ sent' received' x' ∧ received' ++ arriving' = received ++ arriving ∧
      ∀ taken, sent = taken ++ leaving → sent' = taken ++ leaving' := by
  cases h with
  | @send _ _ m _ h =>
    refine ⟨sent ++ [m], received, hx.send h, rfl, fun taken hsent => ?_⟩
    rw [hsent, List.append_assoc]
  | @receive _ _ m _ h => exact ⟨sent, received ++ [m], hx.receive h m, by simp, fun _ hsent => hsent⟩
  | closed h _ => exact ⟨sent, received, hx.closed h, rfl, fun _ hsent => hsent⟩

/-- What a party keeps about what it has sent and received, whether its calls work or fail. -/
structure Invariant (P : σ → Action σ μ) (I : List μ → List μ → σ → Prop) : Prop where
  sends : ∀ {sent received y m next}, I sent received y → P y = .send m next →
    I (sent ++ [m]) received (next true) ∧ I sent received (next false)
  receives : ∀ {sent received y next}, I sent received y → P y = .receive next →
    (∀ m, I sent (received ++ [m]) (next (.message m))) ∧ I sent received (next .shutdown) ∧ I sent received (next .error)

theorem Invariant.behaves {I : List μ → List μ → σ → Prop} (hI : Invariant P I) (hx : I [] [] x₀)
    {sent received : List μ} (h : Behaves P x₀ sent received x) : I sent received x := by
  induction h with
  | refl => exact hx
  | send _ hy ih => exact (hI.sends ih hy).1
  | receive _ hy m ih => exact (hI.receives ih hy).1 m
  | closed _ hy ih => exact (hI.receives ih hy).2.1
  | fails _ hz ih =>
    cases hz with
    | send hy => exact (hI.sends ih hy).2
    | shutdown hy => exact (hI.receives ih hy).2.1
    | error hy => exact (hI.receives ih hy).2.2

/-- What a party has received is the beginning of what the other one has sent; the rest is under way. -/
def Histories (P : σ → Action σ μ) (Q : τ → Action τ μ) (x₀ : σ) (y₀ : τ) (s : State σ τ μ) : Prop :=
  ∃ sentLeft receivedLeft sentRight receivedRight, Behaves P x₀ sentLeft receivedLeft s.left ∧
    Behaves Q y₀ sentRight receivedRight s.right ∧ sentLeft = receivedRight ++ s.toRight ∧
      sentRight = receivedLeft ++ s.toLeft

theorem histories (h : Relation.ReflTransGen (FragileStep P Q) ⟨x₀, y₀, [], []⟩ s) : Histories P Q x₀ y₀ s := by
  induction h with
  | refl => exact ⟨[], [], [], [], .refl, .refl, rfl, rfl⟩
  | tail _ h ih =>
    obtain ⟨sentLeft, receivedLeft, sentRight, receivedRight, hleft, hright, htoRight, htoLeft⟩ := ih
    cases h with
    | left h => exact ⟨_, _, _, _, hleft.fails h, hright, htoRight, htoLeft⟩
    | right h => exact ⟨_, _, _, _, hleft, hright.fails h, htoRight, htoLeft⟩
    | step h =>
      cases h with
      | left h =>
        obtain ⟨sent, received, hx, hreceived, hsent⟩ := hleft.act h
        exact ⟨sent, received, _, _, hx, hright, hsent _ htoRight, htoLeft.trans hreceived.symm⟩
      | right h =>
        obtain ⟨sent, received, hy, hreceived, hsent⟩ := hright.act h
        exact ⟨_, _, sent, received, hleft, hy, htoRight.trans hreceived.symm, hsent _ htoLeft⟩

end

end Duplex
