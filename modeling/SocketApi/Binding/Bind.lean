import SocketApi.Address.Copies
import SocketApi.Address.Packed
import SocketApi.Flags
import SocketApi.Lib.Tries

/-!
# Binding a socket

`Socket::bind` and `Socket::bindx` look for a free port themselves if the address has none: first at random, then
at every second port. The host refuses what it likes, and it always refuses to bind a bound socket.
-/

namespace SocketApi

/-! ## Ports of addresses -/

namespace AnyAddress

/-- Unix addresses do not use ports. -/
def getPort : AnyAddress → BitVec 16
  | internet a => a.port
  | flow f => f.address.port
  | unix _ => 0

def setPort (port : BitVec 16) : AnyAddress → AnyAddress
  | internet a => internet { a with port }
  | flow f => flow { f with address := { f.address with port } }
  | unix u => unix u

/-- The port, if addresses of the class have one. -/
def portIfAny : AnyAddress → Option (BitVec 16)
  | unix _ => none
  | a => some a.getPort

end AnyAddress

namespace SystemAddress

/-- `sin6_port`, of the families `AF_INET6` and `AF_INET` only. -/
def port : SystemAddress → Option (BitVec 16)
  | internet (.inet _ port) => some port
  | internet (.inet6 _ port _ _) => some port
  | _ => none

def setPort (port : BitVec 16) : SystemAddress → SystemAddress
  | internet (.inet addr _) => internet (.inet addr port)
  | internet (.inet6 addr _ flowinfo scope) => internet (.inet6 addr port flowinfo scope)
  | address => address

theorem port_setPort {address : SystemAddress} {old : BitVec 16} (h : address.port = some old) (port : BitVec 16) :
    (address.setPort port).port = some port := by
  match address, h with
  | internet (.inet _ _), _ => rfl
  | internet (.inet6 _ _ _ _), _ => rfl

end SystemAddress

theorem InternetAddress.port_getSystemAddress {a : InternetAddress} {useIPv6 : Bool} {length : Nat}
    {type : AddressFamily} {address : Sockaddr} (h : a.getSystemAddress useIPv6 length type = some address) :
    (SystemAddress.internet address).port = some a.port := by
  unfold InternetAddress.getSystemAddress at h
  dsimp only at h
  generalize (if type = .unspec then (if useIPv6 then AddressFamily.inet6 else .inet) else type) = newType at h
  cases newType with
  | inet6 =>
    obtain ⟨-, h6⟩ := Option.ite_none_right_eq_some.mp h
    cases h6
    rfl
  | inet =>
    obtain ⟨-, hv4⟩ := Option.ite_none_right_eq_some.mp h
    obtain ⟨-, h4⟩ := Option.ite_none_right_eq_some.mp hv4
    cases h4
    rfl
  | unspec => cases h
  | other => cases h

/-- The port is taken over. -/
theorem AnyAddress.port_getSystemAddress {a : AnyAddress} {N : NameSystem}
    {sun_path : List.Vector UInt8 MaxNameLength} {length type : Nat} {address : SystemAddress}
    (h : a.getSystemAddress N sun_path length type = some (some address)) : address.port = a.portIfAny := by
  cases a with
  | internet a =>
    obtain ⟨s, hs, rfl⟩ := Option.map_eq_some_iff.mp (Option.some.inj h)
    exact InternetAddress.port_getSystemAddress hs
  | flow f =>
    obtain ⟨s, hs, rfl⟩ := Option.map_eq_some_iff.mp (Option.some.inj h)
    unfold InternetFlow.getSystemAddress at hs
    cases hinternet : f.address.getSystemAddress N.useIPv6 length (.ofNumber type) with
    | none => simp [hinternet] at hs
    | some address =>
      have hport := InternetAddress.port_getSystemAddress hinternet
      rw [hinternet] at hs
      cases address with
      | inet addr port =>
        cases hs
        exact hport
      | inet6 addr port flowinfo scope =>
        cases hs
        exact hport
      | other => cases hport
  | unix u =>
    obtain ⟨s, -, hs⟩ := Option.map_eq_some_iff.mp h
    obtain ⟨path, -, rfl⟩ := Option.map_eq_some_iff.mp hs
    rfl

/-! ## Random numbers -/

structure Randomizer where
  value : BitVec 32

namespace Randomizer

def random32 (r : Randomizer) : BitVec 32 × Randomizer :=
  let value := r.value * 31415821 + 1
  (value, { value })

/-- The numbers of `n` turns. -/
def draws : Nat → Randomizer → List (BitVec 32)
  | 0, _ => []
  | n + 1, r => r.random32.1 :: draws n r.random32.2

end Randomizer

namespace Binding

open Effect
open Packed (Fault)

/-! ## Sockets and host -/

/-- The two sockets of a pair. -/
inductive Member where
  | socket1 | socket2
  deriving DecidableEq, Repr

structure SocketState where
  bound : Option (List SystemAddress)
  lastError : Int

/-- The sockets, and how often the host was called and asked for the time. -/
structure State where
  sockets : Member → SocketState
  calls : Nat
  clock : Nat

inductive Call where
  | ext_bind (socket : Member) (address : SystemAddress)
  | sctp_bindx (socket : Member) (addresses : List Sockaddr) (flags : Int)

namespace Call

def socket : Call → Member
  | ext_bind socket _ => socket
  | sctp_bindx socket _ _ => socket

def addresses : Call → List SystemAddress
  | ext_bind _ address => [address]
  | sctp_bindx _ addresses _ => addresses.map .internet

end Call

/-- What the sockets find: the name system, memory nobody has written, the families of the sockets, the time, and
the `errno` of each call that is refused. -/
structure Host where
  names : NameSystem
  memory : FreshMemory
  sun_path : List.Vector UInt8 MaxNameLength
  family : Member → Nat
  microTime : Nat → BitVec 64
  refuses : Nat → Call → Option Int

/-- A bound socket cannot be bound again. -/
def Host.answer (host : Host) (s : State) (call : Call) : Option Int :=
  if (s.sockets call.socket).bound.isSome then some EINVAL else host.refuses s.calls call

/-! ## The source -/

abbrev Program (α : Type) := EStateM Fault State α

def MinAutoSelectPort : Nat := 16384
def MaxAutoSelectPort : Nat := 61000

/-- `sizeof(sockaddr_storage)`, which is larger than `sizeof(sockaddr_un)`. -/
def MaxSockLen : Nat := 128

/-- `InternetAddress()`. -/
def anyAddress : AnyAddress := .internet { InternetAddress.reset with valid := false }

/-- A value that is missing after a write outside of its memory. -/
def orUndefined {α : Type} (x : Option α) : Except Fault α :=
  match x with
  | some a => .ok a
  | none => .error .undefinedBehaviour

def lift {α : Type} (x : Except Fault α) : Program α :=
  match x with
  | .ok a => return a
  | .error e => throw e

def change (m : Member) (f : SocketState → SocketState) : Program Unit :=
  modify fun s => { s with sockets := Function.update s.sockets m (f (s.sockets m)) }

def setLastError (m : Member) (errno : Int) : Program Unit :=
  change m fun socket => { socket with lastError := errno }

variable (host : Host)

/-- A call, with its `errno` if it is refused. -/
def systemCall (call : Call) : Program (Option Int) := do
  let s ← get
  let errno := host.answer s call
  set { s with calls := s.calls + 1 }
  if errno = none then change call.socket fun socket => { socket with bound := some call.addresses }
  return errno

def callOnce (call : Call) : Program Bool := do
  match ← systemCall host call with
  | none => return true
  | some errno =>
    setLastError call.socket errno
    return false

/-- A try of a search that goes on with `next`. -/
def tryCall {γ : Type} (call : Call) (next : γ) : Program (Bool ⊕ γ) := do
  match ← systemCall host call with
  | none => return .inl true
  | some errno =>
    setLastError call.socket errno
    return if errno = EPROTONOSUPPORT then .inl false else .inr next

/-- The constructor, which takes the time as the seed. -/
def newRandomizer : Program Randomizer := do
  let s ← get
  set { s with clock := s.clock + 1 }
  return { value := (host.microTime s.clock).setWidth 32 }

/-- `for(i = MinAutoSelectPort; i < MaxAutoSelectPort; i += 2)` -/
def sequentialPorts : List Nat :=
  List.range' MinAutoSelectPort ((MaxAutoSelectPort - MinAutoSelectPort) / 2) 2

/-- The two loops that look for a port. -/
def automatic {β γ : Type} (exhausted : β) (atRandom : γ → BitVec 32 → Program (β ⊕ γ))
    (atPort : γ → Nat → Program (β ⊕ γ)) (c : γ) : Program β := do
  let random ← newRandomizer host
  match ← tries atRandom (random.draws (4 * (MaxAutoSelectPort - MinAutoSelectPort))) c with
  | .inl b => return b
  | .inr c =>
    match ← tries atPort sequentialPorts c with
    | .inl b => return b
    | .inr _ => return exhausted

def bindAt (m : Member) (socketAddress : SystemAddress) (port : Nat) : Program (Bool ⊕ SystemAddress) :=
  let socketAddress := socketAddress.setPort (.ofNat 16 port)
  tryCall host (.ext_bind m socketAddress) socketAddress

def bind (m : Member) (address : AnyAddress) : Program Bool := do
  match ← lift (orUndefined (address.getSystemAddress host.names host.sun_path MaxSockLen (host.family m))) with
  | none =>
    setLastError m ENAMETOOLONG
    return false
  | some socketAddress =>
    if socketAddress.port = some 0 then
      automatic host false
        (fun socketAddress value =>
          let port := value.toNat % (MaxAutoSelectPort - MinAutoSelectPort)
          bindAt host m socketAddress (port + MinAutoSelectPort))
        (bindAt host m) socketAddress
    else callOnce host (.ext_bind m socketAddress)

/-- `getSystemAddress` into a `sockaddr_storage`. -/
def getStorage (address : AnyAddress) : Except Fault (Option SystemAddress) :=
  orUndefined (address.getSystemAddress host.names host.sun_path Packed.sizeofSockaddrStorage SockaddrUn.AF_UNSPEC)

def getStorages : List AnyAddress → Except Fault (Option (List SystemAddress))
  | [] => return some []
  | address :: addressArray => do
    match ← getStorage host address with
    | none => return none
    | some first => return (← getStorages addressArray).map (first :: ·)

/-- The blocks that it writes one behind the other. -/
def packSocketAddressArray : List SystemAddress → Except Fault (List Sockaddr)
  | [] => return []
  | .internet (.inet addr port) :: storage => return .inet addr port :: (← packSocketAddressArray storage)
  | .internet (.inet6 addr port flowinfo scope) :: storage =>
    return .inet6 addr port flowinfo scope :: (← packSocketAddressArray storage)
  | _ :: _ => throw .abort

/-- The storage of the first address, and of the others. -/
abbrev Storage := SystemAddress × List SystemAddress

def bindxAt (m : Member) (flags : Int) (storage next : Storage) : Program (Bool ⊕ Storage) := do
  let packed ← lift (packSocketAddressArray (storage.1 :: storage.2))
  tryCall host (.sctp_bindx m packed flags) next

/-- The sequential loop sets the ports of the other addresses behind the call. -/
def bindStorage (m : Member) (flags : Int) (storage : Storage) : Program Bool :=
  if storage.1.port = some 0 then
    automatic host false
      (fun storage value =>
        let port := .ofNat 16 (value.toNat % (MaxAutoSelectPort - MinAutoSelectPort) + MinAutoSelectPort)
        let storage := (storage.1.setPort port, storage.2.map (SystemAddress.setPort port))
        bindxAt host m flags storage storage)
      (fun storage i =>
        let first := storage.1.setPort (.ofNat 16 i)
        bindxAt host m flags (first, storage.2) (first, storage.2.map (SystemAddress.setPort (.ofNat 16 i))))
      storage
  else do
    let packed ← lift (packSocketAddressArray (storage.1 :: storage.2))
    callOnce host (.sctp_bindx m packed flags)

def bindx (m : Member) (addressArray : List AnyAddress) (flags : Int) : Program Bool :=
  match addressArray with
  | [] => bind host m anyAddress
  | address :: others => do
    match ← lift (getStorage host address) with
    | none => return false
    | some first =>
      match ← lift (getStorages host others) with
      | none => return false
      | some others => bindStorage host m flags (first, others)

/-! ## One call -/

/-- What binding does to the socket `m`, and to no other: a bound socket stays as it is, and a success leaves it
with addresses that `fits`. -/
structure Binds (m : Member) (fits : List SystemAddress → Prop) (s : State) (ok : Bool) (t : State) : Prop where
  frame : ∀ n, n ≠ m → t.sockets n = s.sockets n
  refused : ok = false → (t.sockets m).bound = (s.sockets m).bound
  taken : ok = true → (s.sockets m).bound = none ∧ ∃ l, (t.sockets m).bound = some l ∧ fits l

namespace Binds

variable {m : Member} {fits fits' : List SystemAddress → Prop} {s t u : State} {ok : Bool}

theorem mono (h : Binds m fits s ok t) (hfits : ∀ l, fits l → fits' l) : Binds m fits' s ok t where
  frame := h.frame
  refused := h.refused
  taken hok := by
    obtain ⟨hs, l, hl, hfit⟩ := h.taken hok
    exact ⟨hs, l, hl, hfits l hfit⟩

/-- Binding after something that changed no binding. -/
theorem after (h : Binds m fits s false t) (h' : Binds m fits' t ok u) : Binds m fits' s ok u where
  frame n hn := (h'.frame n hn).trans (h.frame n hn)
  refused hok := (h'.refused hok).trans (h.refused rfl)
  taken hok := by
    obtain ⟨ht, htaken⟩ := h'.taken hok
    exact ⟨(h.refused rfl).symm.trans ht, htaken⟩

theorem of_sockets (h : t.sockets = s.sockets) : Binds m fits s false t where
  frame n _ := congrFun h n
  refused _ := by rw [h]
  taken hok := by cases hok

theorem refl : Binds m fits s false s := of_sockets rfl

end Binds

section

variable {host : Host} {m : Member} {fits : List SystemAddress → Prop} {s : State} {α γ : Type}
  {H : Fault → State → Prop}

theorem post_setLastError (errno : Int) :
    Post (setLastError m errno) s (fun _ t => Binds m fits s false t) H := by
  unfold setLastError change
  rw [post_modify]
  refine ⟨fun n hn => ?_, fun _ => ?_, fun hok => by cases hok⟩
  · exact Function.update_of_ne hn _ _
  · dsimp only
    rw [Function.update_self]

theorem post_systemCall (call : Call) :
    Post (systemCall host call) s
      (fun errno t => errno = host.answer s call ∧ Binds call.socket (· = call.addresses) s errno.isNone t) H := by
  unfold systemCall change
  rw [post_bind, post_get, post_bind, post_set]
  dsimp only
  by_cases hanswer : host.answer s call = none
  · rw [if_pos hanswer, post_bind, post_modify, post_pure]
    have hfree : (s.sockets call.socket).bound = none := by
      unfold Host.answer at hanswer
      by_contra hbound
      rw [if_pos (Option.isSome_iff_ne_none.mpr hbound)] at hanswer
      cases hanswer
    refine ⟨rfl, fun n hn => Function.update_of_ne hn _ _, ?_, fun _ => ⟨hfree, call.addresses, ?_, rfl⟩⟩
    · intro hok
      rw [hanswer] at hok
      cases hok
    · dsimp only
      rw [Function.update_self]
  · rw [if_neg hanswer, post_pure]
    have hrefused : (host.answer s call).isNone = false :=
      Option.isNone_eq_false_iff.mpr (Option.isSome_iff_ne_none.mpr hanswer)
    rw [hrefused]
    exact ⟨rfl, Binds.of_sockets rfl⟩

theorem post_callOnce (call : Call) :
    Post (callOnce host call) s
      (fun ok t => Binds call.socket (· = call.addresses) s ok t ∧ (ok = true ↔ host.answer s call = none)) H := by
  unfold callOnce
  apply (post_systemCall call).bind
  rintro errno t ⟨hanswer, hbinds⟩
  rw [← hanswer]
  cases errno with
  | none => exact ⟨hbinds, by simp⟩
  | some errno =>
    apply (post_setLastError errno).bind
    intro _ u hu
    exact ⟨hbinds.after hu, by simp⟩

/-- A refused try has the effect of none. -/
theorem post_tryCall (call : Call) (next : γ) :
    Post (tryCall host call next) s
      (Sum.elim (fun ok t => Binds call.socket (· = call.addresses) s ok t)
        fun c t => c = next ∧ Binds call.socket (· = call.addresses) s false t) H := by
  unfold tryCall
  apply (post_systemCall call).bind
  rintro errno t ⟨-, hbinds⟩
  cases errno with
  | none => exact hbinds
  | some errno =>
    apply (post_setLastError errno).bind
    intro _ u hu
    rw [post_pure]
    by_cases hgive : errno = EPROTONOSUPPORT
    · rw [if_pos hgive]
      exact hbinds.after hu
    · rw [if_neg hgive]
      exact ⟨rfl, hbinds.after hu⟩

theorem post_lift {x : Except Fault α} {Q : α → State → Prop} (h : ∀ a, x = .ok a → Q a s) :
    Post (lift x) s Q fun _ _ => True := by
  unfold lift
  cases x with
  | ok a => exact h a rfl
  | error e => trivial

theorem orUndefined_ok {x : Option α} {a : α} : orUndefined x = .ok a ↔ x = some a := by
  cases x <;> simp [orUndefined]

/-! ## The two loops -/

theorem mem_sequentialPorts {i : Nat} (h : i ∈ sequentialPorts) :
    MinAutoSelectPort ≤ i ∧ i + 1 < MaxAutoSelectPort := by
  obtain ⟨k, hk, rfl⟩ := List.mem_range'.mp h
  unfold MinAutoSelectPort MaxAutoSelectPort at *
  omega

section

variable {β β' : Type} {exhausted : β} {exhausted' : β'} {atRandom : γ → BitVec 32 → Program (β ⊕ γ)}
  {atPort : γ → Nat → Program (β ⊕ γ)} {atRandom' : γ → BitVec 32 → Program (β' ⊕ γ)}
  {atPort' : γ → Nat → Program (β' ⊕ γ)} {P : β → State → Prop} {P' : β' → State → Prop}

theorem post_automatic (c : γ) (s : State) :
    Post (automatic host exhausted atRandom atPort c) s P H ↔
      Post (tries atRandom (Randomizer.draws (4 * (MaxAutoSelectPort - MinAutoSelectPort))
          { value := (host.microTime s.clock).setWidth 32 }) c) { s with clock := s.clock + 1 }
        (Sum.elim P fun c t =>
          Post (tries atPort sequentialPorts c) t (Sum.elim P fun _ u => P exhausted u) H) H := by
  unfold automatic newRandomizer
  rw [post_bind, post_bind, post_get, post_bind, post_set, post_pure, post_bind]
  apply Post.congr post_true
  intro r t _
  cases r with
  | inl b => rfl
  | inr c =>
    show Post (_ >>= _) t P H ↔ Post _ t _ H
    rw [post_bind]
    apply Post.congr post_true
    intro r u _
    cases r with
    | inl b => rfl
    | inr c => rfl

/-- What each try keeps as long as it does not end the search, and what holds at the end. -/
theorem automatic_keeps {I : γ → State → Prop} {c : γ}
    (hrandom : ∀ c value s, I c s → Post (atRandom c value) s (Sum.elim P I) H)
    (hport : ∀ c i s, MinAutoSelectPort ≤ i → i + 1 < MaxAutoSelectPort → I c s →
      Post (atPort c i) s (Sum.elim P I) H)
    (hexhausted : ∀ c s, I c s → P exhausted s) (hI : ∀ t : State, t.sockets = s.sockets → I c t) :
    Post (automatic host exhausted atRandom atPort c) s P H := by
  rw [post_automatic]
  have hstart : I c { s with clock := s.clock + 1 } := hI _ rfl
  apply (post_tries (fun value _ c s => hrandom c value s) c _ hstart).imp
  intro r t hr
  cases r with
  | inl b => exact hr
  | inr c =>
    have hsequential := fun i hi c s => hport c i s (mem_sequentialPorts hi).1 (mem_sequentialPorts hi).2
    apply (post_tries hsequential c t hr).imp
    intro r u hr
    cases r with
    | inl b => exact hr
    | inr c => exact hexhausted c u hr

/-- Two searches whose tries are in step. -/
theorem automatic_inStep {Alive Dead : γ → State → Prop}
    (hrandom : ∀ value, InStep Alive Dead P P' H (fun c => atRandom c value) fun c => atRandom' c value)
    (hport : ∀ i, InStep Alive Dead P P' H (fun c => atPort c i) fun c => atPort' c i)
    (hexhausted : AgreeOn Alive Dead (fun (_ : γ) s => P exhausted s) fun _ s => P' exhausted' s)
    (halive : ∀ c s t, t.sockets = s.sockets → Alive c s → Alive c t)
    (hdead : ∀ c s t, t.sockets = s.sockets → Dead c s → Dead c t) :
    AgreeOn Alive Dead (fun c s => Post (automatic host exhausted atRandom atPort c) s P H)
      fun c s => Post (automatic host exhausted' atRandom' atPort' c) s P' H := by
  have hsequential := InStep.tries (l := sequentialPorts) (fun i _ => hport i) _ _ hexhausted
  have hagree := fun l => InStep.tries (l := l) (fun value _ => hrandom value) _ _ hsequential
  constructor
  · intro c s hs
    rw [post_automatic, post_automatic]
    exact (hagree _).same c _ (halive c s _ rfl hs)
  · intro c s hs
    rw [post_automatic]
    exact (hagree _).dead c _ (hdead c s _ rfl hs)

end

end

/-! ## `bind` and `bindx` -/

def firstPort (l : List SystemAddress) : Option (BitVec 16) := l.head?.bind SystemAddress.port

/-- The port is the one of the address, and a selected one if this is 0. -/
def Selects (port : Option (BitVec 16)) (l : List SystemAddress) : Prop :=
  if port = some 0 then
    ∃ q, firstPort l = some q ∧ MinAutoSelectPort ≤ q.toNat ∧ q.toNat < MaxAutoSelectPort
  else firstPort l = port

/-- A port of the range that a loop has come to. -/
theorem selects_loop {l : List SystemAddress} {i : Nat} (hl : firstPort l = some (.ofNat 16 i))
    (hmin : MinAutoSelectPort ≤ i) (hmax : i < MaxAutoSelectPort) : Selects (some 0) l := by
  refine (if_pos rfl).mpr ⟨.ofNat 16 i, hl, ?_⟩
  rw [BitVec.toNat_ofNat, Nat.mod_eq_of_lt (by unfold MaxAutoSelectPort at hmax; omega)]
  exact ⟨hmin, hmax⟩

section

variable {host : Host} {m : Member} {s : State}

theorem post_bindAt {old : BitVec 16} (socketAddress : SystemAddress) (hold : socketAddress.port = some old) {i : Nat}
    (hmin : MinAutoSelectPort ≤ i) (hmax : i < MaxAutoSelectPort) :
    Post (bindAt host m socketAddress i) s
      (Sum.elim (fun ok t => Binds m (Selects (some 0)) s ok t)
        fun c t => (∃ old, c.port = some old) ∧ Binds m (Selects (some 0)) s false t) fun _ _ => True := by
  have hport := SystemAddress.port_setPort hold (.ofNat 16 i)
  have hselects (l : List SystemAddress) (hl : l = [socketAddress.setPort (.ofNat 16 i)]) : Selects (some 0) l := by
    subst hl
    exact selects_loop hport hmin hmax
  unfold bindAt
  apply (post_tryCall _ _).imp
  intro r t hr
  cases r with
  | inl ok => exact Binds.mono hr hselects
  | inr c => exact ⟨⟨_, hr.1 ▸ hport⟩, Binds.mono hr.2 hselects⟩

/-- A search whose tries bind to a port of the range. -/
theorem post_automatic_binds {γ : Type} {atRandom : γ → BitVec 32 → Program (Bool ⊕ γ)}
    {atPort : γ → Nat → Program (Bool ⊕ γ)} {J : γ → Prop} {c : γ} (hc : J c)
    (hrandom : ∀ c value s, J c → Post (atRandom c value) s
      (Sum.elim (fun ok t => Binds m (Selects (some 0)) s ok t)
        fun c t => J c ∧ Binds m (Selects (some 0)) s false t) fun _ _ => True)
    (hport : ∀ c i s, MinAutoSelectPort ≤ i → i < MaxAutoSelectPort → J c → Post (atPort c i) s
      (Sum.elim (fun ok t => Binds m (Selects (some 0)) s ok t)
        fun c t => J c ∧ Binds m (Selects (some 0)) s false t) fun _ _ => True) :
    Post (automatic host false atRandom atPort c) s (fun ok t => Binds m (Selects (some 0)) s ok t)
      fun _ _ => True := by
  have hafter (t u : State) (ht : Binds m (Selects (some 0)) s false t) (r : Bool ⊕ γ)
      (hr : Sum.elim (fun ok u => Binds m (Selects (some 0)) t ok u)
        (fun c u => J c ∧ Binds m (Selects (some 0)) t false u) r u) :
      Sum.elim (fun ok u => Binds m (Selects (some 0)) s ok u)
        (fun c u => J c ∧ Binds m (Selects (some 0)) s false u) r u := by
    cases r with
    | inl ok => exact ht.after hr
    | inr c => exact ⟨hr.1, ht.after hr.2⟩
  refine automatic_keeps (I := fun c t => J c ∧ Binds m (Selects (some 0)) s false t) ?_ ?_ ?_ ?_
  · intro c value t ht
    exact (hrandom c value t ht.1).imp fun r u hr => hafter t u ht.2 r hr
  · intro c i t hmin hmax ht
    exact (hport c i t hmin (by omega) ht.1).imp fun r u hr => hafter t u ht.2 r hr
  · intro c t ht
    exact ht.2
  · intro t ht
    exact ⟨hc, Binds.of_sockets ht⟩

theorem random_port (value : BitVec 32) :
    value.toNat % (MaxAutoSelectPort - MinAutoSelectPort) + MinAutoSelectPort < MaxAutoSelectPort := by
  have := Nat.mod_lt value.toNat (show 0 < MaxAutoSelectPort - MinAutoSelectPort by decide)
  unfold MinAutoSelectPort MaxAutoSelectPort at *
  omega

theorem post_bind_binds (a : AnyAddress) :
    Post (Binding.bind host m a) s (fun ok t => Binds m (Selects a.portIfAny) s ok t) fun _ _ => True := by
  unfold Binding.bind
  apply (post_lift (Q := fun r t => t = s ∧ ∀ address ∈ r, address.port = a.portIfAny) ?_).bind
  · rintro r t ⟨rfl, hport⟩
    cases r with
    | none =>
      apply (post_setLastError _).bind
      intro _ u hu
      exact hu
    | some address =>
      have hport := hport address rfl
      rw [← hport]
      dsimp only
      by_cases hzero : address.port = some 0
      · rw [if_pos hzero, hzero]
        refine post_automatic_binds (J := fun c => ∃ old, c.port = some old) ⟨0, hzero⟩ ?_ ?_
        · rintro c value t ⟨old, hold⟩
          exact post_bindAt c hold (Nat.le_add_left _ _) (random_port value)
        · rintro c i t hmin hmax ⟨old, hold⟩
          exact post_bindAt c hold hmin hmax
      · rw [if_neg hzero]
        apply (post_callOnce _).imp
        intro ok u hu
        refine hu.1.mono fun l hl => ?_
        rw [hl, Selects, if_neg hzero]
        rfl
  · intro r hr
    refine ⟨rfl, fun address haddress => ?_⟩
    cases haddress
    exact AnyAddress.port_getSystemAddress (orUndefined_ok.mp hr)

theorem packSocketAddressArray_ok {storage : List SystemAddress} {packed : List Sockaddr}
    (h : packSocketAddressArray storage = .ok packed) : packed.map .internet = storage := by
  induction storage generalizing packed with
  | nil =>
    cases h
    rfl
  | cons address storage ih =>
    have hcons {block : Sockaddr} (h : (do return block :: (← packSocketAddressArray storage)) = .ok packed) :
        packed.map SystemAddress.internet = .internet block :: storage := by
      cases hrest : packSocketAddressArray storage with
      | error e =>
        rw [hrest] at h
        cases h
      | ok rest =>
        rw [hrest] at h
        cases h
        rw [List.map_cons, ih hrest]
    match address, h with
    | .internet (.inet _ _), h => exact hcons h
    | .internet (.inet6 _ _ _ _), h => exact hcons h

theorem post_bindxAt {flags : Int} {storage next : Storage} {i : Nat}
    (hport : storage.1.port = some (.ofNat 16 i)) (hnext : next.1.port = storage.1.port)
    (hmin : MinAutoSelectPort ≤ i) (hmax : i < MaxAutoSelectPort) :
    Post (bindxAt host m flags storage next) s
      (Sum.elim (fun ok t => Binds m (Selects (some 0)) s ok t)
        fun c t => (∃ old, c.1.port = some old) ∧ Binds m (Selects (some 0)) s false t) fun _ _ => True := by
  unfold bindxAt
  apply (post_lift (Q := fun packed t => t = s ∧ packed.map .internet = storage.1 :: storage.2) ?_).bind
  · rintro packed t ⟨rfl, hpacked⟩
    have hselects (l : List SystemAddress) (hl : l = packed.map .internet) : Selects (some 0) l := by
      rw [hl, hpacked]
      exact selects_loop hport hmin hmax
    apply (post_tryCall _ _).imp
    intro r u hr
    cases r with
    | inl ok => exact Binds.mono hr hselects
    | inr c => exact ⟨⟨_, hr.1 ▸ hnext.trans hport⟩, Binds.mono hr.2 hselects⟩
  · intro packed hpacked
    exact ⟨rfl, packSocketAddressArray_ok hpacked⟩

theorem post_bindStorage_binds (flags : Int) (storage : Storage) :
    Post (bindStorage host m flags storage) s (fun ok t => Binds m (Selects storage.1.port) s ok t)
      fun _ _ => True := by
  unfold bindStorage
  by_cases hzero : storage.1.port = some 0
  · rw [if_pos hzero, hzero]
    refine post_automatic_binds (J := fun c => ∃ old, c.1.port = some old) ⟨0, hzero⟩ ?_ ?_
    · rintro c value t ⟨old, hold⟩
      exact post_bindxAt (SystemAddress.port_setPort hold _) rfl (Nat.le_add_left _ _) (random_port value)
    · rintro c i t hmin hmax ⟨old, hold⟩
      exact post_bindxAt (SystemAddress.port_setPort hold _) rfl hmin hmax
  · rw [if_neg hzero]
    apply (post_lift (Q := fun packed t => t = s ∧ packed.map .internet = storage.1 :: storage.2) ?_).bind
    · rintro packed t ⟨rfl, hpacked⟩
      apply (post_callOnce _).imp
      intro ok u hu
      refine hu.1.mono fun l hl => ?_
      rw [hl, Selects, if_neg hzero, Call.addresses, hpacked]
      rfl
    · intro packed hpacked
      exact ⟨rfl, packSocketAddressArray_ok hpacked⟩

/-- The first address decides on the port. -/
theorem post_bindx_binds (address : AnyAddress) (others : List AnyAddress) (flags : Int) :
    Post (bindx host m (address :: others) flags) s (fun ok t => Binds m (Selects address.portIfAny) s ok t)
      fun _ _ => True := by
  unfold bindx
  apply (post_lift (Q := fun r t => t = s ∧ ∀ first ∈ r, first.port = address.portIfAny) ?_).bind
  · rintro r t ⟨rfl, hport⟩
    cases r with
    | none => exact Binds.refl
    | some first =>
      apply (post_lift (Q := fun _ u => u = t) fun _ _ => rfl).bind
      rintro r u rfl
      cases r with
      | none => exact Binds.refl
      | some others =>
        rw [← hport first rfl]
        exact post_bindStorage_binds flags (first, others)
  · intro r hr
    refine ⟨rfl, fun first hfirst => ?_⟩
    cases hfirst
    exact AnyAddress.port_getSystemAddress (orUndefined_ok.mp hr)

end

end Binding

end SocketApi
