import SocketApi.Binding.Bind

/-!
# Binding a pair of sockets

`bindSocketPair` and `bindxSocketPair` bind two sockets to the ports x and x + 1. They go on to the next pair of
ports if one of the sockets is refused, whichever it is. Once the first socket is bound and the second is not,
each further pair is refused.
-/

namespace SocketApi.Binding

open Effect
open Packed (Fault)

variable {A β : Type}

/-! ## The source -/

/-- What the two functions do differently. -/
structure Binder (A : Type) where
  getPort : A → BitVec 16
  setPort : BitVec 16 → A → A
  bind : Member → A → Program Bool

namespace Binder

variable (b : Binder A) (host : Host)

/-- `socket1.bind(*ba1) && socket2.bind(*ba2)`. -/
def both (ba1 ba2 : A) : Program (Option Unit) := do
  if ← b.bind .socket1 ba1 then
    if ← b.bind .socket2 ba2 then return some () else return none
  else return none

def atRandom (grab : A → A → Program (Option β)) (c : A × A) (value : BitVec 32) :
    Program (Option β ⊕ (A × A)) := do
  let port := value.toNat % (MaxAutoSelectPort - MinAutoSelectPort - 1)
  let ba1 := b.setPort (.ofNat 16 port) c.1
  let ba2 := b.setPort (.ofNat 16 (port + 1)) c.2
  match ← grab ba1 ba2 with
  | some found => return .inl (some found)
  | none =>
    let s ← get
    return if (s.sockets .socket1).lastError = EPROTONOSUPPORT then .inl none else .inr (ba1, ba2)

def atPort (grab : A → A → Program (Option β)) (c : A × A) (i : Nat) : Program (Option β ⊕ (A × A)) := do
  let ba1 := b.setPort (.ofNat 16 i) c.1
  let ba2 := b.setPort (.ofNat 16 (i + 1)) c.2
  match ← grab ba1 ba2 with
  | some found => return .inl (some found)
  | none => return .inr (ba1, ba2)

/-- The body of both functions, with what they do to get a pair of addresses. -/
def search (grab : A → A → Program (Option β)) (ba1 ba2 : A) : Program (Option β) :=
  if b.getPort ba1 ≠ 0 then grab ba1 (b.setPort (b.getPort ba1 + 1) ba2)
  else automatic host none (b.atRandom grab) (b.atPort grab) (ba1, ba2)

end Binder

variable (host : Host)

def addressBinder : Binder AnyAddress where
  getPort := AnyAddress.getPort
  setPort := AnyAddress.setPort
  bind := bind host

def bindSocketPair (address : AnyAddress) : Program Bool := do
  let ba1 ← lift (orUndefined (address.duplicate host.memory))
  let ba2 ← lift (orUndefined (address.duplicate host.memory))
  return (← (addressBinder host).search host (addressBinder host).both ba1 ba2).isSome

/-- An array of one address at least. -/
structure AddressArray where
  first : AnyAddress
  others : List AnyAddress

def duplicates : List AnyAddress → Except Fault (List AnyAddress)
  | [] => return []
  | address :: addressArray => return (← orUndefined (address.duplicate host.memory)) :: (← duplicates addressArray)

/-- An empty array is copied to one with `InternetAddress(0)`. -/
def getAddressArray : List AnyAddress → Except Fault AddressArray
  | [] => return { first := .internet .reset, others := [] }
  | address :: others =>
    return { first := ← orUndefined (address.duplicate host.memory), others := ← duplicates host others }

def setAddressArrayPort (addresses : Nat) (port : BitVec 16) (array : AddressArray) : AddressArray :=
  match addresses with
  | 0 => array
  | n + 1 =>
    { first := array.first.setPort port
      others := (array.others.take n).map (AnyAddress.setPort port) ++ array.others.drop n }

def arrayBinder (addresses : Nat) (flags : Int) : Binder AddressArray where
  getPort array := array.first.getPort
  setPort := setAddressArrayPort addresses
  bind m array := bindx host m ((array.first :: array.others).take addresses) flags

def bindxSocketPair (addressArray : List AnyAddress) (flags : Int) : Program Bool := do
  let binder := arrayBinder host addressArray.length flags
  let ba1 ← lift (getAddressArray host addressArray)
  let ba2 ← lift (getAddressArray host addressArray)
  return (← binder.search host binder.both ba1 ba2).isSome

/-! ## What a pair is for -/

/-- Neither socket is bound. -/
def Unbound (s : State) : Prop := ∀ m, (s.sockets m).bound = none

/-- The port of a socket is that of the first address it is bound to. -/
def State.port (s : State) (m : Member) : Option (BitVec 16) := (s.sockets m).bound.bind firstPort

/-- Ports x and x + 1, where x is the port asked for, or both are in the range if that is 0. -/
def Neighbours (requested : BitVec 16) (s : State) : Prop :=
  ∃ p q, s.port .socket1 = some p ∧ s.port .socket2 = some q ∧ q.toNat = p.toNat + 1 ∧
    if requested = 0 then MinAutoSelectPort ≤ p.toNat ∧ q.toNat ≤ MaxAutoSelectPort else p = requested

/-- The program returns, either with both sockets bound or with none. -/
def BindsPair (requested : BitVec 16) (x : Program Bool) (s : State) : Prop :=
  Post x s (fun result t => if result then Neighbours requested t else Unbound t) fun _ _ => False

/-! ## The first socket alone -/

namespace Binder

variable {b : Binder A} {host : Host}

/-- The first socket searches on its own. It finds the port it has asked for, and the address that is left to the
second socket. -/
def alone (b : Binder A) (ba1 ba2 : A) : Program (Option (BitVec 16 × A)) := do
  if ← b.bind .socket1 ba1 then return some (b.getPort ba1, ba2) else return none

/-- What is used of a way to bind, for the addresses that a search starting with `ba` comes to. `fits` tells what a
socket is bound to for a port. -/
structure Lawful (b : Binder A) (fits : BitVec 16 → List SystemAddress → Prop) (ba : A) : Prop where
  set_set : ∀ p q, b.setPort q (b.setPort p ba) = b.setPort q ba
  ports : (∀ p, b.getPort (b.setPort p ba) = p) ∨ ∀ p, b.getPort (b.setPort p ba) = 0
  binds : ∀ m a s, (a = ba ∨ ∃ p, a = b.setPort p ba) →
    Post (b.bind m a) s (fun ok t => Binds m (fits (b.getPort a)) s ok t) fun _ _ => True

/-- The addresses of a search that began with `ba`. -/
def Reached (b : Binder A) (ba : A) (c : A × A) : Prop :=
  ∀ q, b.setPort q c.1 = b.setPort q ba ∧ b.setPort q c.2 = b.setPort q ba

section

variable {fits : BitVec 16 → List SystemAddress → Prop} {ba : A} {requested : BitVec 16}

theorem Lawful.getPort_le (h : Lawful b fits ba) (p : BitVec 16) :
    (b.getPort (b.setPort p ba)).toNat ≤ p.toNat := by
  rcases h.ports with hport | hport
  · rw [hport]
  · rw [hport]
    exact Nat.zero_le _

theorem Lawful.reached_set (h : Lawful b fits ba) {c : A × A} (hc : Reached b ba c) (p q : BitVec 16) :
    Reached b ba (b.setPort p c.1, b.setPort q c.2) := by
  intro r
  dsimp only
  rw [(hc p).1, (hc q).2]
  exact ⟨h.set_set p r, h.set_set q r⟩

/-! ## The search with both sockets, try by try -/

/-- The end of the search with both sockets. -/
def PairEnds (requested : BitVec 16) (r : Option Unit) (t : State) : Prop :=
  if r.isSome then Neighbours requested t else Unbound t

/-- The end of the search with the first socket alone: the second one can be bound at once. -/
def AloneEnds (b : Binder A) (requested : BitVec 16) (r : Option (BitVec 16 × A)) (t : State) : Prop :=
  ∀ found ∈ r, Post (b.bind .socket2 found.2) t (fun ok u => ok = true ∧ Neighbours requested u) fun _ _ => False

def Alive (b : Binder A) (ba : A) (c : A × A) (s : State) : Prop := Reached b ba c ∧ Unbound s

def Dead (b : Binder A) (ba : A) (c : A × A) (s : State) : Prop :=
  Reached b ba c ∧ (s.sockets .socket1).bound ≠ none

theorem not_unbound {s : State} (hs : (s.sockets .socket1).bound ≠ none) : ¬Unbound s := fun h => hs (h .socket1)

/-- One pair of addresses, whatever follows. -/
theorem Lawful.agree (h : Lawful b fits ba) {a1 a2 : A} (h1 : a1 = ba ∨ ∃ p, a1 = b.setPort p ba)
    (h2 : a2 = ba ∨ ∃ p, a2 = b.setPort p ba) {K : Option Unit → State → Prop}
    {K' : Option (BitVec 16 × A) → State → Prop}
    (hsome : ∀ found t, K' (some found) t ↔
      Post (b.bind .socket2 found.2) t (fun ok u => ok = true ∧ K (some ()) u) fun _ _ => False)
    (hnone : ∀ t, Unbound t → (K none t ↔ K' none t)) (hbound : ∀ t, (t.sockets .socket1).bound ≠ none → ¬K none t)
    (s : State) :
    (Unbound s → (Post (b.both a1 a2) s K (fun _ _ => False) ↔ Post (b.alone a1 a2) s K' fun _ _ => False)) ∧
      ((s.sockets .socket1).bound ≠ none → ¬Post (b.both a1 a2) s K fun _ _ => False) := by
  have hfirst := h.binds .socket1 a1 s h1
  unfold both alone
  rw [post_bind, post_bind]
  constructor
  · intro hs
    apply Post.congr hfirst
    intro ok t ht
    cases ok with
    | false =>
      apply hnone
      intro m
      cases m with
      | socket1 => exact (ht.refused rfl).trans (hs .socket1)
      | socket2 => exact (congrArg SocketState.bound (ht.frame .socket2 (by decide))).trans (hs .socket2)
    | true =>
      obtain ⟨-, l, hl, -⟩ := ht.taken rfl
      show Post (_ >>= _) t K _ ↔ K' (some (b.getPort a1, a2)) t
      rw [hsome, post_bind]
      apply Post.congr (h.binds .socket2 a2 t h2)
      intro ok u hu
      cases ok with
      | true => exact (and_iff_right rfl).symm
      | false =>
        refine iff_of_false (hbound u ?_) (fun hand => absurd hand.1 (by decide))
        rw [hu.frame .socket1 (by decide), hl]
        exact Option.some_ne_none l
  · intro hs hboth
    have hnever : Post (b.bind .socket1 a1) s (fun _ _ => False) fun _ _ => False := by
      refine (Post.congr hfirst fun ok t ht => ?_).mp hboth
      cases ok with
      | true => exact absurd (ht.taken rfl).1 hs
      | false =>
        refine iff_of_false (hbound t ?_) id
        rw [ht.refused rfl]
        exact hs
    obtain ⟨_, _, -, hfalse⟩ := hnever.exists_ok
    exact hfalse

theorem aloneEnds_some {b : Binder A} (found : BitVec 16 × A) (t : State) :
    AloneEnds b requested (some found) t ↔
      Post (b.bind .socket2 found.2) t (fun ok u => ok = true ∧ Neighbours requested u) fun _ _ => False := by
  constructor
  · intro h
    exact h found rfl
  · intro h other hother
    cases hother
    exact h

theorem ends_none {t : State} (ht : Unbound t) : PairEnds requested none t ↔ AloneEnds b requested none t :=
  iff_of_true ht fun found hfound => by cases hfound

/-- Programs that agree on each pair of addresses the search comes to. -/
theorem inStep_of_reached {P : Option Unit → State → Prop} {P' : Option β → State → Prop}
    {x : A × A → Program (Option Unit ⊕ (A × A))} {y : A × A → Program (Option β ⊕ (A × A))}
    (h : ∀ R R', AgreeOn (Alive b ba) (Dead b ba) R R' → ∀ c s, Reached b ba c →
      (Unbound s →
        (Post (x c) s (Sum.elim P R) (fun _ _ => False) ↔ Post (y c) s (Sum.elim P' R') fun _ _ => False)) ∧
      ((s.sockets .socket1).bound ≠ none → ¬Post (x c) s (Sum.elim P R) fun _ _ => False)) :
    InStep (Alive b ba) (Dead b ba) P P' (fun _ _ => False) x y := by
  intro R R' hR
  constructor
  · intro c s hs
    exact (h R R' hR c s hs.1).1 hs.2
  · intro c s hs
    exact (h R R' hR c s hs.1).2 hs.2

theorem Lawful.inStep_atRandom (h : Lawful b fits ba) (value : BitVec 32) :
    InStep (Alive b ba) (Dead b ba) (PairEnds requested) (AloneEnds b requested) (fun _ _ => False)
      (fun c => b.atRandom b.both c value) fun c => b.atRandom b.alone c value := by
  apply inStep_of_reached
  intro R R' hR c s hc
  unfold atRandom
  dsimp only
  generalize value.toNat % (MaxAutoSelectPort - MinAutoSelectPort - 1) = port
  have hnext := h.reached_set hc (.ofNat 16 port) (.ofNat 16 (port + 1))
  rw [post_bind, post_bind]
  refine h.agree (.inr ⟨_, (hc _).1⟩) (.inr ⟨_, (hc _).2⟩) (fun found t => aloneEnds_some found t) (fun t ht => ?_)
    (fun t ht => ?_) s
  · show Sum.elim (PairEnds requested) R (ite _ _ _) t ↔ Sum.elim (AloneEnds b requested) R' (ite _ _ _) t
    by_cases herror : (t.sockets .socket1).lastError = EPROTONOSUPPORT
    · rw [if_pos herror, if_pos herror]
      exact ends_none ht
    · rw [if_neg herror, if_neg herror]
      exact hR.same _ t ⟨hnext, ht⟩
  · show ¬Sum.elim (PairEnds requested) R (ite _ _ _) t
    by_cases herror : (t.sockets .socket1).lastError = EPROTONOSUPPORT
    · rw [if_pos herror]
      exact not_unbound ht
    · rw [if_neg herror]
      exact hR.dead _ t ⟨hnext, ht⟩

theorem Lawful.inStep_atPort (h : Lawful b fits ba) (port : Nat) :
    InStep (Alive b ba) (Dead b ba) (PairEnds requested) (AloneEnds b requested) (fun _ _ => False)
      (fun c => b.atPort b.both c port) fun c => b.atPort b.alone c port := by
  apply inStep_of_reached
  intro R R' hR c s hc
  unfold atPort
  have hnext := h.reached_set hc (.ofNat 16 port) (.ofNat 16 (port + 1))
  rw [post_bind, post_bind]
  refine h.agree (.inr ⟨_, (hc _).1⟩) (.inr ⟨_, (hc _).2⟩) (fun found t => aloneEnds_some found t) (fun t ht => ?_)
    (fun t ht => ?_) s
  · exact hR.same _ t ⟨hnext, ht⟩
  · exact hR.dead _ t ⟨hnext, ht⟩

/-- The search for a pair is right exactly if it is done when the first socket has found a port. -/
theorem Lawful.search_iff (h : Lawful b fits ba) {s : State} (hs : Unbound s) :
    Post (b.search host b.both ba ba) s (PairEnds requested) (fun _ _ => False) ↔
      Post (b.search host b.alone ba ba) s (AloneEnds b requested) fun _ _ => False := by
  unfold search
  by_cases hport : b.getPort ba = 0
  · rw [if_neg (not_not.mpr hport), if_neg (not_not.mpr hport)]
    have hagree : AgreeOn (Alive b ba) (Dead b ba)
        (fun c s => Post (automatic host none (b.atRandom b.both) (b.atPort b.both) c) s (PairEnds requested)
          fun _ _ => False)
        fun c s => Post (automatic host none (b.atRandom b.alone) (b.atPort b.alone) c) s
          (AloneEnds b requested) fun _ _ => False := by
      apply automatic_inStep h.inStep_atRandom h.inStep_atPort
      · exact ⟨fun c t ht => ends_none ht.2, fun c t ht => not_unbound ht.2⟩
      · intro c t u hu ht
        exact ⟨ht.1, fun m => (congrArg SocketState.bound (congrFun hu m)).trans (ht.2 m)⟩
      · intro c t u hu ht
        exact ⟨ht.1, fun hnone => ht.2 ((congrArg SocketState.bound (congrFun hu .socket1)).symm.trans hnone)⟩
    exact hagree.same (ba, ba) s ⟨fun q => ⟨rfl, rfl⟩, hs⟩
  · rw [if_pos hport, if_pos hport]
    exact (h.agree (.inl rfl) (.inr ⟨_, rfl⟩) (fun found t => aloneEnds_some found t) (fun t ht => ends_none ht)
      (fun t ht => not_unbound ht) s).1 hs

/-! ## What the first socket finds -/

/-- The first socket has been bound for the port `found.1`, and the second one is left with the next port. -/
structure Found (b : Binder A) (fits : BitVec 16 → List SystemAddress → Prop) (ba : A) (found : BitVec 16 × A)
    (t : State) : Prop where
  first : ∃ l, (t.sockets .socket1).bound = some l ∧ fits found.1 l
  second : (t.sockets .socket2).bound = none
  asked : if b.getPort ba = 0 then found.1.toNat + 1 < MaxAutoSelectPort else found.1 = b.getPort ba
  next : ∃ p, found.2 = b.setPort p ba ∧ ((∀ q, b.getPort (b.setPort q ba) = q) → p = found.1 + 1)

theorem Lawful.post_alone (h : Lawful b fits ba) {a1 a2 : A} (h1 : a1 = ba ∨ ∃ p, a1 = b.setPort p ba)
    (hasked : if b.getPort ba = 0 then (b.getPort a1).toNat + 1 < MaxAutoSelectPort else b.getPort a1 = b.getPort ba)
    (hnext : ∃ p, a2 = b.setPort p ba ∧ ((∀ q, b.getPort (b.setPort q ba) = q) → p = b.getPort a1 + 1))
    {s : State} (hs : Unbound s) :
    Post (b.alone a1 a2) s (fun r t => (r = none → Unbound t) ∧ ∀ found ∈ r, Found b fits ba found t)
      fun _ _ => True := by
  unfold alone
  apply (h.binds .socket1 a1 s h1).bind
  intro ok t ht
  have hsecond : (t.sockets .socket2).bound = none :=
    (congrArg SocketState.bound (ht.frame .socket2 (by decide))).trans (hs .socket2)
  cases ok with
  | false =>
    have hunbound : Unbound t := by
      intro m
      cases m with
      | socket1 => exact (ht.refused rfl).trans (hs .socket1)
      | socket2 => exact hsecond
    exact And.intro (fun _ => hunbound) fun found hfound => by cases hfound
  | true =>
    have hfound : Found b fits ba (b.getPort a1, a2) t := ⟨(ht.taken rfl).2, hsecond, hasked, hnext⟩
    refine And.intro (fun hnone => by cases hnone) fun found hfound => ?_
    cases hfound
    exact hfound

/-- One pair of ports of a search that leaves room for the second. -/
theorem Lawful.post_alone_at (h : Lawful b fits ba) (hzero : b.getPort ba = 0) {c : A × A} {t : State}
    (hc : Alive b ba c t) {port : Nat} (hport : port + 1 < MaxAutoSelectPort) :
    Post (b.alone (b.setPort (.ofNat 16 port) c.1) (b.setPort (.ofNat 16 (port + 1)) c.2)) t
      (fun r u => (r = none → Unbound u) ∧ ∀ found ∈ r, Found b fits ba found u) fun _ _ => True := by
  rw [(hc.1 _).1, (hc.1 _).2]
  apply h.post_alone (.inr ⟨_, rfl⟩) _ ⟨_, rfl, fun hget => ?_⟩ hc.2
  · rw [if_pos hzero]
    have hle := h.getPort_le (.ofNat 16 port)
    rw [BitVec.toNat_ofNat] at hle
    have := Nat.mod_le port (2 ^ 16)
    omega
  · rw [hget, BitVec.ofNat_add]
    rfl

theorem Lawful.search_found (h : Lawful b fits ba) {s : State} (hs : Unbound s) :
    Post (b.search host b.alone ba ba) s (fun r t => ∀ found ∈ r, Found b fits ba found t) fun _ _ => True := by
  unfold search
  by_cases hzero : b.getPort ba = 0
  · rw [if_neg (not_not.mpr hzero)]
    refine automatic_keeps (I := Alive b ba) ?_ ?_ ?_ ?_
    · intro c value t ht
      have hport : value.toNat % (MaxAutoSelectPort - MinAutoSelectPort - 1) + 1 < MaxAutoSelectPort := by
        have := Nat.mod_lt value.toNat (show 0 < MaxAutoSelectPort - MinAutoSelectPort - 1 by decide)
        unfold MinAutoSelectPort MaxAutoSelectPort at *
        omega
      apply (h.post_alone_at hzero ht hport).bind
      intro r u hr
      cases r with
      | some found => exact hr.2
      | none =>
        show Sum.elim _ (Alive b ba) (ite _ _ _) u
        by_cases herror : (u.sockets .socket1).lastError = EPROTONOSUPPORT
        · rw [if_pos herror]
          exact hr.2
        · rw [if_neg herror]
          exact ⟨h.reached_set ht.1 _ _, hr.1 rfl⟩
    · intro c port t _ hport ht
      apply (h.post_alone_at hzero ht hport).bind
      intro r u hr
      cases r with
      | some found => exact hr.2
      | none => exact ⟨h.reached_set ht.1 _ _, hr.1 rfl⟩
    · intro c t _ found hfound
      cases hfound
    · intro t ht
      exact ⟨fun q => ⟨rfl, rfl⟩, fun m => (congrArg SocketState.bound (congrFun ht m)).trans (hs m)⟩
  · rw [if_pos hzero]
    apply (h.post_alone (.inl rfl) ((if_neg hzero).mpr rfl) ⟨_, rfl, fun _ => rfl⟩ hs).imp
    intro r t hr
    exact hr.2

end

end Binder

end SocketApi.Binding
