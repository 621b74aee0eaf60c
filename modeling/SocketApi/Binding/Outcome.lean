import SocketApi.Binding.Pair

/-!
# When a pair of sockets is bound

A search for a pair is as good as its first hit: the pair is right exactly if the second socket can be bound to
the port behind the first one that the first socket can have, and if this port is in the range.
-/

namespace SocketApi.Binding

open Effect
open Packed (Fault)

/-! ## Ports side by side -/

theorem selects_some {x : BitVec 16} {l : List SystemAddress} (h : Selects (some x) l) :
    ∃ p, firstPort l = some p ∧
      if x.toNat = 0 then MinAutoSelectPort ≤ p.toNat ∧ p.toNat < MaxAutoSelectPort else p.toNat = x.toNat := by
  unfold Selects at h
  by_cases hx : x = 0
  · rw [if_pos (congrArg some hx)] at h
    subst hx
    exact h
  · rw [if_neg (fun hsome => hx (Option.some.inj hsome))] at h
    have hpos : ¬x.toNat = 0 := fun hzero => hx (BitVec.eq_of_toNat_eq hzero)
    exact ⟨x, h, (if_neg hpos).mpr rfl⟩

/-- The port of the first socket is one that can have a neighbour. -/
def HasNeighbour (requested x : BitVec 16) : Prop :=
  if requested = 0 then MinAutoSelectPort ≤ x.toNat else x ≠ 0xffff

instance (requested x : BitVec 16) : Decidable (HasNeighbour requested x) :=
  inferInstanceAs (Decidable (if requested = 0 then MinAutoSelectPort ≤ x.toNat else x ≠ 0xffff))

theorem neighbours_iff {requested x : BitVec 16} {l l' : List SystemAddress} {u : State}
    (hasked : if requested = 0 then x.toNat + 1 < MaxAutoSelectPort else x = requested)
    (hl : Selects (some x) l) (hl' : Selects (some (x + 1)) l') (h1 : u.port .socket1 = firstPort l)
    (h2 : u.port .socket2 = firstPort l') : Neighbours requested u ↔ HasNeighbour requested x := by
  obtain ⟨p, hp, hpx⟩ := selects_some hl
  obtain ⟨q, hq, hqx⟩ := selects_some hl'
  have hports : Neighbours requested u ↔ q.toNat = p.toNat + 1 ∧
      if requested = 0 then MinAutoSelectPort ≤ p.toNat ∧ q.toNat ≤ MaxAutoSelectPort else p = requested := by
    constructor
    · rintro ⟨p', q', hp', hq', h⟩
      rw [h1, hp] at hp'
      rw [h2, hq] at hq'
      cases hp'
      cases hq'
      exact h
    · intro h
      exact ⟨p, q, h1.trans hp, h2.trans hq, h⟩
  rw [hports]
  unfold HasNeighbour
  have hnext : (x + 1).toNat = (x.toNat + 1) % 2 ^ 16 := BitVec.toNat_add x 1
  have hx := x.isLt
  by_cases hrequested : requested = 0
  · rw [if_pos hrequested] at hasked ⊢
    rw [if_pos hrequested]
    unfold MinAutoSelectPort MaxAutoSelectPort at *
    rw [hnext] at hqx
    constructor
    · rintro ⟨hnext, hmin, -⟩
      split at hpx <;> split at hqx <;> omega
    · intro hmin
      rw [if_neg (by omega)] at hpx hqx
      omega
  · rw [if_neg hrequested] at hasked ⊢
    rw [if_neg hrequested]
    subst hasked
    have hpos : ¬x.toNat = 0 := fun hzero => hrequested (BitVec.eq_of_toNat_eq hzero)
    have hlast : x = 0xffff ↔ x.toNat = 65535 := BitVec.toNat_inj.symm
    rw [if_neg hpos] at hpx
    rw [hnext] at hqx
    rw [ne_eq, hlast]
    unfold MinAutoSelectPort MaxAutoSelectPort at *
    constructor
    · rintro ⟨hside, -⟩ hx
      rw [if_pos (by omega)] at hqx
      omega
    · intro hx
      rw [if_neg (by omega)] at hqx
      exact ⟨by omega, BitVec.eq_of_toNat_eq hpx⟩

/-! ## Behind the first hit -/

/-- What a socket is bound to for the port `x` of an address. -/
def Fits (isUnix : Bool) (x : BitVec 16) (l : List SystemAddress) : Prop :=
  if isUnix then x = 0 ∧ firstPort l = none else Selects (some x) l

section

variable {A : Type} {b : Binder A} {ba : A} {isUnix : Bool} {requested x : BitVec 16} {t : State}

/-- There is room behind the port. -/
theorem next_ne_zero (hasked : if requested = 0 then x.toNat + 1 < MaxAutoSelectPort else x = requested)
    (h : HasNeighbour requested x) : x + 1 ≠ 0 := by
  intro hzero
  have hlast : x = 0xffff := by
    rw [← BitVec.add_sub_cancel x 1, hzero]
    rfl
  unfold HasNeighbour at h
  by_cases hrequested : requested = 0
  · rw [if_pos hrequested, hlast] at hasked
    exact absurd hasked (by decide)
  · rw [if_neg hrequested] at h
    exact h hlast

theorem aloneEnds_iff (h : b.Lawful (Fits isUnix) ba) (hset : isUnix = false → ∀ p, b.getPort (b.setPort p ba) = p)
    {found : BitVec 16 × A} (hfound : b.Found (Fits isUnix) ba found t) :
    Post (b.bind .socket2 found.2) t (fun ok u => ok = true ∧ Neighbours (b.getPort ba) u) (fun _ _ => False) ↔
      HasNeighbour (b.getPort ba) found.1 ∧
        Post (b.bind .socket2 found.2) t (fun ok _ => ok = true) fun _ _ => False := by
  obtain ⟨p, hp, hnext⟩ := hfound.next
  rw [← post_and_const]
  apply Post.congr (h.binds .socket2 _ t (.inr ⟨p, hp⟩))
  intro ok u hu
  cases ok with
  | false => simp
  | true =>
    rw [and_iff_right rfl, and_iff_left rfl]
    obtain ⟨l, hl, hfits⟩ := hfound.first
    obtain ⟨-, l', hl', hfits'⟩ := hu.taken rfl
    have h1 : u.port .socket1 = firstPort l := by
      unfold State.port
      rw [hu.frame .socket1 (by decide), hl]
      rfl
    have h2 : u.port .socket2 = firstPort l' := by
      unfold State.port
      rw [hl']
      rfl
    cases isUnix with
    | false =>
      rw [hp, hset rfl, hnext (hset rfl)] at hfits'
      exact neighbours_iff hfound.asked hfits hfits' h1 h2
    | true =>
      obtain ⟨hzero, hnone⟩ : found.1 = 0 ∧ firstPort l = none := hfits
      refine iff_of_false ?_ ?_
      · rintro ⟨p, q, hp, -⟩
        rw [h1, hnone] at hp
        cases hp
      · intro hneighbour
        have hasked := hfound.asked
        unfold HasNeighbour at hneighbour
        by_cases hrequested : b.getPort ba = 0
        · rw [if_pos hrequested, hzero] at hneighbour
          exact absurd hneighbour (by decide)
        · rw [if_neg hrequested] at hasked
          exact hrequested (hasked.symm.trans hzero)

/-- The search for a pair, with what the host has to accept for the second socket. -/
theorem search_iff_accepts (host : Host) (accepts : A → State → Prop) (h : b.Lawful (Fits isUnix) ba)
    (hset : isUnix = false → ∀ p, b.getPort (b.setPort p ba) = p) (haccepts : ∀ p u, (isUnix = false → p ≠ 0) →
      (Post (b.bind .socket2 (b.setPort p ba)) u (fun ok _ => ok = true) (fun _ _ => False) ↔
        accepts (b.setPort p ba) u)) (ht : Unbound t) :
    Post (b.search host b.both ba ba) t (Binder.PairEnds (b.getPort ba)) (fun _ _ => False) ↔
      Post (b.search host b.alone ba ba) t
        (fun r u => ∀ found ∈ r, HasNeighbour (b.getPort ba) found.1 ∧ accepts found.2 u) fun _ _ => False := by
  rw [h.search_iff ht]
  apply Post.congr (h.search_found ht)
  intro r u hr
  refine forall₂_congr fun found hmem => ?_
  have hfound := hr found hmem
  rw [aloneEnds_iff h hset hfound]
  refine and_congr_right fun hneighbour => ?_
  obtain ⟨p, hp, hnext⟩ := hfound.next
  rw [hp]
  refine haccepts p u fun hunix => ?_
  rw [hnext (hset hunix)]
  exact next_ne_zero hfound.asked hneighbour

end

/-! ## One address -/

section

variable {host : Host} {m : Member} {requested x : BitVec 16} {s t : State}

theorem setPort_setPort (p q : BitVec 16) (a : AnyAddress) : (a.setPort p).setPort q = a.setPort q := by
  cases a <;> rfl

theorem isUnix_setPort (p : BitVec 16) (a : AnyAddress) : (a.setPort p).isUnix = a.isUnix := by
  cases a <;> rfl

theorem getPort_setPort {a : AnyAddress} (h : a.isUnix = false) (p : BitVec 16) : (a.setPort p).getPort = p := by
  cases a with
  | internet a => rfl
  | flow f => rfl
  | unix u => cases h

theorem getPort_setPort_unix {a : AnyAddress} (h : a.isUnix = true) (p : BitVec 16) : (a.setPort p).getPort = 0 := by
  cases a with
  | internet a => cases h
  | flow f => cases h
  | unix u => rfl

theorem portIfAny_setPort {a : AnyAddress} {p : BitVec 16} (h : a.isUnix = false → p ≠ 0) :
    (a.setPort p).portIfAny ≠ some 0 := by
  cases a with
  | internet a => exact fun hzero => h rfl (Option.some.inj hzero)
  | flow f => exact fun hzero => h rfl (Option.some.inj hzero)
  | unix u => exact fun hnone => by cases hnone

theorem fits_of_selects {a : AnyAddress} {l : List SystemAddress} (h : Selects a.portIfAny l) :
    Fits a.isUnix a.getPort l := by
  cases a with
  | internet a => exact h
  | flow f => exact h
  | unix u => exact ⟨rfl, h⟩

/-- A copy has the port and the class of the address. -/
theorem duplicate_some (memory : FreshMemory) (a : AnyAddress) :
    ∃ ba, a.duplicate memory = some ba ∧ ba.getPort = a.getPort := by
  cases a with
  | internet a => exact ⟨_, rfl, rfl⟩
  | flow f => exact ⟨_, rfl, rfl⟩
  | unix u =>
    obtain ⟨v, hv, -⟩ := UnixAddress.init_some memory.unix u.name.text
    have hcopy : UnixAddress.copy memory.unix u = some v := hv
    refine ⟨.unix v, ?_, rfl⟩
    rw [AnyAddress.duplicate, AnyAddress.construct, hcopy]
    rfl

/-- The host lets the socket be bound to the address. -/
def Accepts (host : Host) (m : Member) (a : AnyAddress) (t : State) : Prop :=
  ∃ socketAddress,
    a.getSystemAddress host.names host.sun_path MaxSockLen (host.family m) = some (some socketAddress) ∧
      host.answer t (.ext_bind m socketAddress) = none

theorem post_callOnce_true (call : Call) :
    Post (callOnce host call) s (fun ok _ => ok = true) (fun _ _ => False) ↔ host.answer s call = none := by
  have hspec : Post (callOnce host call) s (fun ok t => Binds call.socket (· = call.addresses) s ok t ∧
      (ok = true ↔ host.answer s call = none)) fun _ _ => False := post_callOnce call
  constructor
  · intro h
    obtain ⟨ok, t, -, hok, -, hanswer⟩ := ((h.and hspec).mono (fun _ _ h => h) fun _ _ h => h.1).exists_ok
    exact hanswer.mp hok
  · intro hanswer
    exact hspec.mono (fun ok t h => h.2.mpr hanswer) fun _ _ h => h

theorem bind_accepts {a : AnyAddress} (hport : a.portIfAny ≠ some 0) :
    Post (bind host m a) t (fun ok _ => ok = true) (fun _ _ => False) ↔ Accepts host m a t := by
  unfold bind Accepts
  rw [post_bind]
  cases hget : a.getSystemAddress host.names host.sun_path MaxSockLen (host.family m) with
  | none => exact iff_of_false id (by rintro ⟨_, h, -⟩; cases h)
  | some r =>
    cases r with
    | none => exact iff_of_false Bool.false_ne_true (by rintro ⟨_, h, -⟩; cases h)
    | some address =>
      have hne : ¬address.port = some 0 := by
        rw [AnyAddress.port_getSystemAddress hget]
        exact hport
      show Post (ite _ _ _) t _ _ ↔ _
      rw [if_neg hne, post_callOnce_true]
      constructor
      · intro hanswer
        exact ⟨address, rfl, hanswer⟩
      · rintro ⟨_, h, hanswer⟩
        cases h
        exact hanswer

theorem addressBinder_lawful (ba : AnyAddress) : (addressBinder host).Lawful (Fits ba.isUnix) ba where
  set_set p q := setPort_setPort p q ba
  ports := by
    cases hunix : ba.isUnix with
    | false => exact .inl fun p => getPort_setPort hunix p
    | true => exact .inr fun p => getPort_setPort_unix hunix p
  binds m a s ha := by
    have hunix : a.isUnix = ba.isUnix := by
      rcases ha with rfl | ⟨p, rfl⟩
      · rfl
      · exact isUnix_setPort p ba
    rw [← hunix]
    exact (post_bind_binds a).imp fun ok t ht => ht.mono fun l => fits_of_selects

theorem addressBinder_accepts {ba : AnyAddress} (p : BitVec 16) (u : State) (hp : ba.isUnix = false → p ≠ 0) :
    Post ((addressBinder host).bind .socket2 ((addressBinder host).setPort p ba)) u (fun ok _ => ok = true)
        (fun _ _ => False) ↔ Accepts host .socket2 ((addressBinder host).setPort p ba) u :=
  bind_accepts (portIfAny_setPort hp)

end

/-! ## An array of addresses -/

section

variable {host : Host} {m : Member} {flags : Int} {t : State}

/-- The host lets the socket be bound to the addresses. -/
def AcceptsAll (host : Host) (m : Member) (flags : Int) (addressArray : List AnyAddress) (t : State) : Prop :=
  ∃ storage packed, getStorages host addressArray = .ok (some storage) ∧
    packSocketAddressArray storage = .ok packed ∧ host.answer t (.sctp_bindx m packed flags) = none

theorem bindStorage_accepts {storage : Storage} (hport : storage.1.port ≠ some 0) :
    Post (bindStorage host m flags storage) t (fun ok _ => ok = true) (fun _ _ => False) ↔
      ∃ packed, packSocketAddressArray (storage.1 :: storage.2) = .ok packed ∧
        host.answer t (.sctp_bindx m packed flags) = none := by
  unfold bindStorage
  rw [if_neg hport, post_bind]
  cases hpacked : packSocketAddressArray (storage.1 :: storage.2) with
  | error e => exact iff_of_false id (by rintro ⟨_, h, -⟩; cases h)
  | ok packed =>
    refine (post_callOnce_true _).trans ?_
    constructor
    · intro hanswer
      exact ⟨packed, rfl, hanswer⟩
    · rintro ⟨_, h, hanswer⟩
      cases h
      exact hanswer

theorem bindx_accepts {address : AnyAddress} {others : List AnyAddress} (hport : address.portIfAny ≠ some 0) :
    Post (bindx host m (address :: others) flags) t (fun ok _ => ok = true) (fun _ _ => False) ↔
      AcceptsAll host m flags (address :: others) t := by
  unfold bindx AcceptsAll
  rw [getStorages, post_bind]
  cases hfirst : getStorage host address with
  | error e => exact iff_of_false id (by rintro ⟨_, _, h, -⟩; cases h)
  | ok r =>
    cases r with
    | none => exact iff_of_false Bool.false_ne_true (by rintro ⟨_, _, h, -⟩; cases h)
    | some first =>
      show Post (_ >>= _) t _ _ ↔ _
      rw [post_bind]
      cases hothers : getStorages host others with
      | error e => exact iff_of_false id (by rintro ⟨_, _, h, -⟩; cases h)
      | ok r =>
        cases r with
        | none => exact iff_of_false Bool.false_ne_true (by rintro ⟨_, _, h, -⟩; cases h)
        | some others =>
          have hne : (first, others).1.port ≠ some 0 := by
            dsimp only
            rw [AnyAddress.port_getSystemAddress (orUndefined_ok.mp hfirst)]
            exact hport
          refine (bindStorage_accepts hne).trans ?_
          constructor
          · rintro ⟨packed, hpacked, hanswer⟩
            exact ⟨first :: others, packed, rfl, hpacked, hanswer⟩
          · rintro ⟨_, packed, h, hpacked, hanswer⟩
            cases h
            exact ⟨packed, hpacked, hanswer⟩

theorem duplicates_ok (host : Host) (l : List AnyAddress) :
    ∃ l', duplicates host l = .ok l' ∧ l'.length = l.length := by
  induction l with
  | nil => exact ⟨[], rfl, rfl⟩
  | cons a l ih =>
    obtain ⟨a', ha, -⟩ := duplicate_some host.memory a
    obtain ⟨l', hl, hlength⟩ := ih
    refine ⟨a' :: l', ?_, congrArg (· + 1) hlength⟩
    rw [duplicates, ha, hl]
    rfl

theorem getAddressArray_ok (host : Host) (address : AnyAddress) (others : List AnyAddress) :
    ∃ ba, getAddressArray host (address :: others) = .ok ba ∧ ba.others.length = others.length ∧
      ba.first.getPort = address.getPort := by
  obtain ⟨first, hfirst, hport⟩ := duplicate_some host.memory address
  obtain ⟨l, hl, hlength⟩ := duplicates_ok host others
  refine ⟨{ first, others := l }, ?_, hlength, hport⟩
  rw [getAddressArray, hfirst, hl]
  rfl

theorem setAddressArrayPort_all (p : BitVec 16) (array : AddressArray) :
    setAddressArrayPort (array.others.length + 1) p array =
      { first := array.first.setPort p, others := array.others.map (AnyAddress.setPort p) } := by
  rw [setAddressArrayPort, List.take_length, List.drop_length, List.append_nil]

theorem arrayBinder_bind {array : AddressArray} {n : Nat} (hn : array.others.length = n) :
    (arrayBinder host (n + 1) flags).bind m array = bindx host m (array.first :: array.others) flags := by
  have htake : (array.first :: array.others).take (n + 1) = array.first :: array.others :=
    List.take_of_length_le (Nat.le_of_eq (congrArg (· + 1) hn))
  exact congrArg (fun l => bindx host m l flags) htake

theorem arrayBinder_lawful {ba : AddressArray} {n : Nat} (hn : ba.others.length = n) :
    (arrayBinder host (n + 1) flags).Lawful (Fits ba.first.isUnix) ba where
  set_set p q := by
    have hset := setAddressArrayPort_all q
      { first := ba.first.setPort p, others := ba.others.map (AnyAddress.setPort p) }
    dsimp only at hset
    rw [List.length_map, List.map_map, setPort_setPort] at hset
    show setAddressArrayPort (n + 1) q (setAddressArrayPort (n + 1) p ba) = setAddressArrayPort (n + 1) q ba
    rw [← hn, setAddressArrayPort_all, setAddressArrayPort_all, hset]
    congr 1
    exact List.map_congr_left fun a _ => setPort_setPort p q a
  ports := by
    cases hunix : ba.first.isUnix with
    | false => exact .inl fun p => getPort_setPort hunix p
    | true => exact .inr fun p => getPort_setPort_unix hunix p
  binds m a s ha := by
    have hsame : a.first.isUnix = ba.first.isUnix ∧ a.others.length = n := by
      rcases ha with rfl | ⟨p, rfl⟩
      · exact ⟨rfl, hn⟩
      · show (setAddressArrayPort (n + 1) p ba).first.isUnix = _ ∧ (setAddressArrayPort (n + 1) p ba).others.length = n
        rw [← hn, setAddressArrayPort_all, List.length_map]
        exact ⟨isUnix_setPort p ba.first, rfl⟩
    rw [← hsame.1, arrayBinder_bind hsame.2]
    exact (post_bindx_binds a.first a.others flags).imp fun ok t ht => ht.mono fun l => fits_of_selects

theorem arrayBinder_accepts {ba : AddressArray} {n : Nat} (hn : ba.others.length = n) (p : BitVec 16) (u : State)
    (hp : ba.first.isUnix = false → p ≠ 0) :
    Post ((arrayBinder host (n + 1) flags).bind .socket2 ((arrayBinder host (n + 1) flags).setPort p ba)) u
        (fun ok _ => ok = true) (fun _ _ => False) ↔
      AcceptsAll host .socket2 flags (((arrayBinder host (n + 1) flags).setPort p ba).first ::
        ((arrayBinder host (n + 1) flags).setPort p ba).others) u := by
  subst hn
  have hset : (arrayBinder host (ba.others.length + 1) flags).setPort p ba =
      { first := ba.first.setPort p, others := ba.others.map (AnyAddress.setPort p) } := setAddressArrayPort_all p ba
  have hlength : (ba.others.map (AnyAddress.setPort p)).length = ba.others.length := List.length_map _
  rw [hset, arrayBinder_bind hlength]
  exact bindx_accepts (portIfAny_setPort hp)

end

/-! ## No address at all -/

section

variable {host : Host} {flags : Int} {t : State}

/-- What `getAddressArray` makes of an empty array. -/
def emptyArray : AddressArray where
  first := .internet .reset
  others := []

/-- The second socket selects the port behind the one of the first. -/
def SelectsNext (host : Host) (t : State) : Prop :=
  Post (bind host .socket2 anyAddress) t (fun ok u => ok = true ∧
    ∃ p q, t.port .socket1 = some p ∧ u.port .socket2 = some q ∧ q.toNat = p.toNat + 1) fun _ _ => False

theorem emptyArray_lawful : (arrayBinder host 0 flags).Lawful (fun _ => Selects (some 0)) emptyArray where
  set_set _ _ := rfl
  ports := .inr fun _ => rfl
  binds _ _ _ _ := post_bind_binds anyAddress

theorem selectsNext_iff {found : BitVec 16 × AddressArray}
    (hfound : (arrayBinder host 0 flags).Found (fun _ => Selects (some 0)) emptyArray found t) :
    Post ((arrayBinder host 0 flags).bind .socket2 found.2) t (fun ok u => ok = true ∧ Neighbours 0 u)
        (fun _ _ => False) ↔ SelectsNext host t := by
  show Post (bind host .socket2 anyAddress) t _ _ ↔ _
  apply Post.congr (post_bind_binds anyAddress)
  intro ok u hu
  refine and_congr_right fun hok => ?_
  obtain ⟨l, hl, hselects⟩ := hfound.first
  obtain ⟨-, l', hl', hselects'⟩ := hu.taken hok
  obtain ⟨p, hp, hmin, -⟩ : ∃ p, firstPort l = some p ∧ MinAutoSelectPort ≤ p.toNat ∧ p.toNat < MaxAutoSelectPort :=
    hselects
  obtain ⟨q, hq, -, hmax⟩ : ∃ q, firstPort l' = some q ∧ MinAutoSelectPort ≤ q.toNat ∧ q.toNat < MaxAutoSelectPort :=
    hselects'
  have h1 : t.port .socket1 = some p := by
    unfold State.port
    rw [hl]
    exact hp
  have h1' : u.port .socket1 = some p := by
    rw [← h1]
    exact congrArg (fun o : SocketState => o.bound.bind firstPort) (hu.frame .socket1 (by decide))
  have h2 : u.port .socket2 = some q := by
    unfold State.port
    rw [hl']
    exact hq
  constructor
  · rintro ⟨p', q', hp', hq', hnext, -⟩
    exact ⟨p', q', h1.trans (h1'.symm.trans hp'), hq', hnext⟩
  · rintro ⟨p', q', hp', hq', hnext⟩
    rw [h1] at hp'
    rw [h2] at hq'
    cases hp'
    cases hq'
    exact ⟨p, q, h1', h2, hnext, (if_pos rfl).mpr ⟨hmin, Nat.le_of_lt hmax⟩⟩

end

/-! ## Exactly when -/

/-- The first socket finds no port, or at the first one it finds the second socket can be bound behind it. -/
def PairAvailable (host : Host) (address : AnyAddress) (s : State) : Prop :=
  ∃ ba, address.duplicate host.memory = some ba ∧
    Post ((addressBinder host).search host (addressBinder host).alone ba ba) s
      (fun r t => ∀ found ∈ r, HasNeighbour address.getPort found.1 ∧ Accepts host .socket2 found.2 t)
      fun _ _ => False

/-- The same for an array, and for an empty one the second socket has to select that port itself. -/
def ArrayAvailable (host : Host) (addressArray : List AnyAddress) (flags : Int) (s : State) : Prop :=
  ∃ ba, getAddressArray host addressArray = .ok ba ∧
    Post ((arrayBinder host addressArray.length flags).search host
        (arrayBinder host addressArray.length flags).alone ba ba) s
      (fun r t => ∀ found ∈ r, match addressArray with
        | [] => SelectsNext host t
        | address :: _ => HasNeighbour address.getPort found.1 ∧
          AcceptsAll host .socket2 flags (found.2.first :: found.2.others) t)
      fun _ _ => False

/-- The port that is asked for. -/
def requestedPort : List AnyAddress → BitVec 16
  | [] => 0
  | address :: _ => address.getPort

/-- Both functions search with two equal copies. -/
theorem bindsPair_copies {A : Type} (host : Host) (b : Binder A) {copy : Except Fault A} {ba : A}
    (hcopy : copy = .ok ba) (requested : BitVec 16) (s : State) :
    BindsPair requested (do
        let ba1 ← lift copy
        let ba2 ← lift copy
        return (← b.search host b.both ba1 ba2).isSome) s ↔
      Post (b.search host b.both ba ba) s (Binder.PairEnds requested) fun _ _ => False := by
  subst hcopy
  unfold BindsPair
  rw [post_bind]
  show Post (_ >>= _) s _ _ ↔ _
  rw [post_bind]
  show Post (_ >>= _) s _ _ ↔ _
  rw [post_bind]
  rfl

/-- A condition on the value that a copy has. -/
theorem exists_copy {α β : Type} {f : α → β} (hf : Function.Injective f) {x : β} {a : α} (hx : x = f a)
    {C : α → Prop} : C a ↔ ∃ a', x = f a' ∧ C a' := by
  constructor
  · intro h
    exact ⟨a, hx, h⟩
  · rintro ⟨a', ha, h⟩
    rw [hf (hx.symm.trans ha)]
    exact h

theorem ok_injective {α : Type} : Function.Injective (Except.ok : α → Except Fault α) := by
  intro a b h
  cases h
  rfl

section

variable {host : Host} {s : State}

theorem bindSocketPair_available (hs : Unbound s) (address : AnyAddress) :
    BindsPair address.getPort (bindSocketPair host address) s ↔ PairAvailable host address s := by
  obtain ⟨ba, hba, hport⟩ := duplicate_some host.memory address
  have hcopies := bindsPair_copies host (addressBinder host) (orUndefined_ok.mpr hba) address.getPort s
  have hsearch := search_iff_accepts host (Accepts host .socket2) (addressBinder_lawful ba) getPort_setPort
    addressBinder_accepts hs
  unfold PairAvailable
  rw [← exists_copy (Option.some_injective _) hba, ← hport]
  rw [← hport] at hcopies
  exact hcopies.trans hsearch

theorem bindxSocketPair_available (hs : Unbound s) (addressArray : List AnyAddress) (flags : Int) :
    BindsPair (requestedPort addressArray) (bindxSocketPair host addressArray flags) s ↔
      ArrayAvailable host addressArray flags s := by
  cases addressArray with
  | nil =>
    have hempty : getAddressArray host [] = .ok emptyArray := rfl
    have hcopies := bindsPair_copies host (arrayBinder host 0 flags) hempty 0 s
    have hends : Post ((arrayBinder host 0 flags).search host (arrayBinder host 0 flags).alone emptyArray emptyArray) s
        (Binder.AloneEnds (arrayBinder host 0 flags) 0) (fun _ _ => False) ↔
        Post ((arrayBinder host 0 flags).search host (arrayBinder host 0 flags).alone emptyArray emptyArray) s
          (fun r t => ∀ found ∈ r, SelectsNext host t) fun _ _ => False :=
      Post.congr (emptyArray_lawful.search_found hs) fun r t hr =>
        forall₂_congr fun found hmem => selectsNext_iff (hr found hmem)
    unfold ArrayAvailable
    rw [← exists_copy ok_injective hempty]
    exact hcopies.trans ((emptyArray_lawful.search_iff hs).trans hends)
  | cons address others =>
    obtain ⟨ba, hba, hlength, hport⟩ := getAddressArray_ok host address others
    have hcopies := bindsPair_copies host (arrayBinder host (others.length + 1) flags) hba address.getPort s
    have hsearch := search_iff_accepts host
      (fun array u => AcceptsAll host .socket2 flags (array.first :: array.others) u)
      (arrayBinder_lawful hlength) getPort_setPort (arrayBinder_accepts hlength) hs
    unfold ArrayAvailable requestedPort
    dsimp only
    rw [← exists_copy ok_injective hba, ← hport]
    rw [← hport] at hcopies
    exact hcopies.trans hsearch

end

/-- Both functions bind pairs as they should exactly in these cases. -/
theorem bindPairs_iff (host : Host) (s : State) (hs : Unbound s) :
    (∀ address, BindsPair address.getPort (bindSocketPair host address) s ↔ PairAvailable host address s) ∧
      ∀ addressArray flags, BindsPair (requestedPort addressArray) (bindxSocketPair host addressArray flags) s ↔
        ArrayAvailable host addressArray flags s :=
  ⟨bindSocketPair_available hs, bindxSocketPair_available hs⟩

/-- A host with IPv4 sockets. -/
def ipv4Host (refuses : Nat → Call → Option Int) : Host where
  names := {}
  memory := { internet := .reset, flow := { address := .reset, flowInfo := 0 }, unix := List.Vector.replicate _ 0 }
  sun_path := List.Vector.replicate _ 0
  family _ := 2
  microTime _ := 0
  refuses := refuses

/-- Two new sockets. -/
def newSockets : State where
  sockets _ := { bound := none, lastError := 0 }
  calls := 0
  clock := 0

/-- 127.0.0.1:80 -/
def loopback : AnyAddress :=
  .internet { InternetAddress.reset with host16 := InternetAddress.mapped 0x7f000001, port := 80 }

/-- A host that accepts everything. -/
theorem bindPairs_iff_accepting : BindsPair 80 (bindSocketPair (ipv4Host fun _ _ => none) loopback) newSockets := by
  have havailable : PairAvailable (ipv4Host fun _ _ => none) loopback newSockets := by
    refine ⟨loopback, rfl, ?_⟩
    intro found hfound
    cases hfound
    exact ⟨by decide, _, rfl, rfl⟩
  exact ((bindPairs_iff (ipv4Host fun _ _ => none) newSockets fun _ => rfl).1 loopback).mpr havailable

/-- The second call is refused, and the first socket keeps its port. -/
theorem first_stays_bound : ¬∀ (host : Host) (s : State), Unbound s →
    (∀ address, BindsPair address.getPort (bindSocketPair host address) s) ∧
      ∀ addressArray flags, BindsPair (requestedPort addressArray) (bindxSocketPair host addressArray flags) s := by
  intro h
  have hbinds := (h (ipv4Host fun n _ => if n = 1 then some EADDRINUSE else none) newSockets fun _ => rfl).1 loopback
  have hunbound : Unbound _ := hbinds
  cases hunbound .socket1

end SocketApi.Binding
