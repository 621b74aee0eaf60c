import SocketApi.Select.Correct

/-!
# Poll

`ext_poll` asks `ext_select` about the descriptors of its entries and maps the sets back. Between
these steps it clears the events of all entries, those of the invalid ones included.
-/

namespace SocketApi

open Effect

variable {L : Sctplib} (E : Environment L)

/-- `pollfd`. -/
structure PollFd where
  fd : Int
  events : Events := 0
  revents : Events := 0
  deriving DecidableEq, Repr

/-- The local variables of `ext_poll` behind its first loop. -/
structure PollSetup where
  sets : FdSets := fun _ => some ∅
  n : Int := 0
  fdcount : Nat := 0

namespace PollFd

/-- `revents` of an entry whose descriptor no set takes. -/
def check (p : PollFd) : PollFd :=
  match fdOf p.fd with
  | some _ => p
  | none => { p with revents := POLLNVAL }

def addTo (setup : PollSetup) (p : PollFd) : PollSetup :=
  match fdOf p.fd with
  | some i =>
    let sets := if anyEvent p.events POLLIN then setup.sets.mark .read i else setup.sets
    let sets := if anyEvent p.events POLLOUT then sets.mark .write i else sets
    { sets := sets.mark .except i, n := max setup.n p.fd, fdcount := setup.fdcount + 1 }
  | none => setup

def reset (p : PollFd) : PollFd := { p with revents := 0 }

/-- A round of the last loop. -/
def answer (sets : FdSets) (p : PollFd) : PollFd :=
  match fdOf p.fd with
  | some i =>
    let revents := if i ∈ sets.members .read ∧ anyEvent p.events POLLIN then POLLIN else 0
    let revents := if i ∈ sets.members .write ∧ anyEvent p.events POLLOUT then revents ||| POLLOUT else revents
    { p with revents := if i ∈ sets.members .except then revents ||| POLLERR else revents }
  | none => p

/-- The entry counts for the result. -/
def counts (p : PollFd) : Bool := (fdOf p.fd).isSome && p.revents != 0

end PollFd

def pollTimeout (time : Int) : Option Timeval :=
  if time < 0 then none else some { sec := time / 1000, usec := time % 1000 * 1000 }

/-- `ext_poll`: its result and the array of the caller. -/
def ext_poll (S : SelectEnvironment) (fdlist : List PollFd) (time : Int) : Act L (Int × List PollFd) := do
  let setup := fdlist.foldl PollFd.addTo {}
  -- `fdcount` is an int.
  if 2 ^ 31 ≤ setup.fdcount then throw .undefinedBehaviour
  -- The index is an unsigned int, which starts again from 0.
  else if 2 ^ 32 ≤ fdlist.length then throw .waiting
  else if setup.fdcount = 0 then return (0, fdlist.map PollFd.check)
  else do
    let (result, sets) ← ext_select E S (setup.n + 1) setup.sets (pollTimeout time)
    let fdlist := fdlist.map fun p => p.check.reset
    if result < 0 then
      return (result, fdlist)
    else
      let fdlist := fdlist.map (PollFd.answer sets)
      return ((fdlist.countP PollFd.counts : Nat), fdlist)

/-! ## When the result is right -/

/-- An entry whose descriptor is below `FD_SETSIZE`. -/
def PollFd.Valid (p : PollFd) : Prop := 0 ≤ p.fd ∧ p.fd < MaxSockets

/-- The result counts the entries with events, these have been requested or are errors, and the
invalid entries are marked as such. -/
structure PolledRightly (fdlist : List PollFd) (r : Int) (out : List PollFd) : Prop where
  entries : (out.map fun p => (p.fd, p.events)) = fdlist.map fun p => (p.fd, p.events)
  count : r = (out.countP (·.revents != 0) : Nat)
  requested : ∀ p ∈ out, p.Valid → p.revents &&& ~~~(p.events ||| POLLERR) = 0
  invalid : ∀ p ∈ out, ¬ p.Valid → p.revents = POLLNVAL

theorem fdOf_isSome {id : Int} : (fdOf id).isSome ↔ 0 ≤ id ∧ id < MaxSockets := by
  unfold fdOf
  split <;> simp [*]

section

variable {E} {w w' : World L} {S : SelectEnvironment} {fdlist out : List PollFd} {r time : Int}

theorem fdcount_eq_zero (setup : PollSetup) :
    (fdlist.foldl PollFd.addTo setup).fdcount = setup.fdcount + fdlist.countP fun p => (fdOf p.fd).isSome := by
  induction fdlist generalizing setup with
  | nil => rfl
  | cons p fdlist ih =>
    rw [List.foldl_cons, ih, PollFd.addTo]
    cases h : fdOf p.fd with
    | none => simp [h]
    | some i =>
      simp [h]
      omega

/-- A call that is no error has found no valid entry, or maps the sets of a select back. -/
theorem ext_poll_cases (h : Runs (ext_poll E S fdlist time) w (r, out) w') (hr : 0 ≤ r) :
    ((∀ p ∈ fdlist, ¬ p.Valid) ∧ r = 0 ∧ out = fdlist.map PollFd.check) ∨
      ((∃ p ∈ fdlist, p.Valid) ∧ ∃ sets, out = fdlist.map (fun p => p.check.reset.answer sets) ∧
        r = (out.countP PollFd.counts : Nat)) := by
  have hcount : (fdlist.foldl PollFd.addTo {}).fdcount = 0 ↔ ∀ p ∈ fdlist, ¬ p.Valid := by
    simp [fdcount_eq_zero, List.countP_eq_zero, fdOf_isSome, PollFd.Valid]
  have hpost : Post (ext_poll E S fdlist time) w (fun a _ => 0 ≤ a.1 →
      ((∀ p ∈ fdlist, ¬ p.Valid) ∧ a.1 = 0 ∧ a.2 = fdlist.map PollFd.check) ∨
        ((∃ p ∈ fdlist, p.Valid) ∧ ∃ sets, a.2 = fdlist.map (fun p => p.check.reset.answer sets) ∧
          a.1 = (a.2.countP PollFd.counts : Nat))) (fun _ _ => True) := by
    unfold ext_poll
    simp only [post_ite, post_throw]
    split
    · trivial
    split
    · trivial
    split
    · rename_i hzero
      exact fun _ => .inl ⟨hcount.mp hzero, rfl, rfl⟩
    · rename_i hzero
      have hvalid : ∃ p ∈ fdlist, p.Valid := by
        by_contra hnone
        exact hzero (hcount.mpr fun p hp hv => hnone ⟨p, hp, hv⟩)
      refine Post.bind post_true fun a w₁ _ => ?_
      rw [post_ite]
      split
      · rename_i hneg
        exact fun h => (Int.not_le.mpr hneg h).elim
      · exact fun _ => .inr ⟨hvalid, a.2, by simp [Function.comp_def], rfl⟩
  exact hpost.of_ok h hr

/-! ## Entries -/

theorem check_key (p : PollFd) : (p.check.fd, p.check.events) = (p.fd, p.events) := by
  unfold PollFd.check
  split <;> rfl

theorem answer_key (sets : FdSets) (p : PollFd) :
    ((p.check.reset.answer sets).fd, (p.check.reset.answer sets).events) = (p.fd, p.events) := by
  have h : (p.check.reset.fd, p.check.reset.events) = (p.fd, p.events) := check_key p
  rw [← h]
  unfold PollFd.answer
  split <;> rfl

theorem check_revents {p : PollFd} (h : ¬ p.Valid) : p.check.revents = POLLNVAL := by
  have hnone : fdOf p.fd = none := by
    rw [← Option.not_isSome_iff_eq_none, fdOf_isSome]
    exact h
  simp [PollFd.check, hnone]

theorem answer_invalid (sets : FdSets) {p : PollFd} (h : ¬ p.Valid) : (p.check.reset.answer sets).revents = 0 := by
  have hnone : fdOf p.fd = none := by
    rw [← Option.not_isSome_iff_eq_none, fdOf_isSome]
    exact h
  simp [PollFd.check, PollFd.answer, PollFd.reset, hnone]

/-- A bit that is requested is not outside of the requested ones. -/
theorem bit_requested {events other : Events} {k : Nat} (h : anyEvent events (BitVec.twoPow 16 k)) :
    BitVec.twoPow 16 k &&& ~~~(events ||| other) = 0 := by
  have hbit : events.getLsbD k = true := by
    by_contra hnot
    simp [anyEvent, BitVec.and_twoPow, hnot] at h
  simp [BitVec.twoPow_and, hbit]

/-- Bits of a mask that are set under a condition. -/
theorem or_outside {mask x y : Events} {c : Prop} [Decidable c] (hx : x &&& mask = 0) (hy : c → y &&& mask = 0) :
    (if c then x ||| y else x) &&& mask = 0 := by
  split
  · rename_i hc
    rw [BitVec.and_or_distrib_right, hx, hy hc]
    rfl
  · exact hx

/-- An answer consists of requested events and errors. -/
theorem answer_requested (sets : FdSets) (p : PollFd) :
    (p.check.reset.answer sets).revents &&& ~~~((p.check.reset.answer sets).events ||| POLLERR) = 0 := by
  unfold PollFd.answer
  split
  · rename_i i _
    have herr : POLLERR &&& ~~~(p.check.reset.events ||| POLLERR) = 0 := by
      rw [BitVec.or_comm]
      exact bit_requested (k := 3) (by decide)
    have hread : (if i ∈ sets.members .read ∧ anyEvent p.check.reset.events POLLIN then POLLIN else 0) &&&
        ~~~(p.check.reset.events ||| POLLERR) = 0 := by
      split
      · rename_i h
        exact bit_requested (k := 0) h.2
      · simp
    exact or_outside (or_outside hread fun h => bit_requested (k := 2) h.2) fun _ => herr
  · simp [PollFd.reset]

/-- The result of `ext_poll` is right exactly if every descriptor is below `FD_SETSIZE`. -/
theorem ext_poll_rightly_iff (h : Runs (ext_poll E S fdlist time) w (r, out) w') (hr : 0 ≤ r) :
    PolledRightly fdlist r out ↔ ∀ p ∈ fdlist, p.Valid := by
  obtain ⟨hnone, rfl, rfl⟩ | ⟨⟨p₀, hp₀, hvalid₀⟩, sets, rfl, rfl⟩ := ext_poll_cases h hr
  · constructor
    · rintro ⟨-, hcount, -, -⟩ p hp
      have hzero : (fdlist.map PollFd.check).countP (·.revents != 0) = 0 := by omega
      have hmem := List.countP_eq_zero.mp hzero p.check (List.mem_map_of_mem hp)
      rw [check_revents (hnone p hp)] at hmem
      exact (hmem (by decide)).elim
    · intro hall
      cases fdlist with
      | nil => exact ⟨rfl, rfl, by simp, by simp⟩
      | cons p fdlist => exact (hnone p (by simp) (hall p (by simp))).elim
  · have hentry {q : PollFd} : q ∈ fdlist.map (fun p => p.check.reset.answer sets) →
        ∃ p ∈ fdlist, q = p.check.reset.answer sets ∧ (q.Valid ↔ p.Valid) := by
      intro hq
      obtain ⟨p, hp, rfl⟩ := List.mem_map.mp hq
      have hfd : (p.check.reset.answer sets).fd = p.fd := congrArg Prod.fst (answer_key sets p)
      exact ⟨p, hp, rfl, by simp [PollFd.Valid, hfd]⟩
    constructor
    · rintro ⟨-, -, -, hinvalid⟩ p hp
      by_contra hnot
      have hmem : p.check.reset.answer sets ∈ fdlist.map fun p => p.check.reset.answer sets :=
        List.mem_map_of_mem hp
      have hfd : (p.check.reset.answer sets).fd = p.fd := congrArg Prod.fst (answer_key sets p)
      have hval := hinvalid _ hmem (by simpa [PollFd.Valid, hfd] using hnot)
      rw [answer_invalid sets hnot] at hval
      exact absurd hval (by decide)
    · intro hall
      constructor
      · simp only [List.map_map, List.map_inj_left, Function.comp_apply]
        exact fun p _ => answer_key sets p
      · refine congrArg Nat.cast (List.countP_congr fun q hq => ?_)
        obtain ⟨p, hp, -, hiff⟩ := hentry hq
        have hsome : (fdOf q.fd).isSome := fdOf_isSome.mpr (hiff.mpr (hall p hp))
        simp [PollFd.counts, hsome]
      · intro q hq _
        obtain ⟨p, -, rfl, -⟩ := hentry hq
        exact answer_requested sets p
      · intro q hq hnot
        obtain ⟨p, hp, -, hiff⟩ := hentry hq
        exact (hnot (hiff.mpr (hall p hp))).elim

end

theorem ext_poll_rightly_iff_reading :
    ∃ r out w', Runs (ext_poll {} { callbacks := [(3, POLLIN)] } [{ fd := 3, events := POLLIN ||| POLLOUT }] 10) oneSystem
      (r, out) w' ∧ PolledRightly [{ fd := 3, events := POLLIN ||| POLLOUT }] r out := by
  have h : Post (ext_poll {} { callbacks := [(3, POLLIN)] } [{ fd := 3, events := POLLIN ||| POLLOUT }] 10) oneSystem
      (fun a _ => a.1 = 1) (fun _ _ => False) := by
    decide
  obtain ⟨⟨r, out⟩, w', hrun, hr⟩ := h.exists_ok
  obtain rfl : r = 1 := hr
  refine ⟨1, out, w', hrun, (ext_poll_rightly_iff hrun (by decide)).mpr ?_⟩
  simp [PollFd.Valid, MaxSockets]

/-- Beside a valid entry an invalid one ends without events; alone it is marked, but not counted. -/
theorem ext_poll_forgets_invalid :
    (∃ out w', Runs (ext_poll {} { callbacks := [(3, POLLIN)] } [{ fd := 3, events := POLLIN }, { fd := -1 }] 10)
      oneSystem (1, out) w' ∧ ⟨-1, 0, 0⟩ ∈ out ∧
        ¬ PolledRightly [{ fd := 3, events := POLLIN }, { fd := -1 }] 1 out) ∧
      ∃ w', Runs (ext_poll {} {} [{ fd := -1 }] 10) oneSystem (0, [⟨-1, 0, POLLNVAL⟩]) w' ∧
        ¬ PolledRightly [{ fd := -1 }] 0 [⟨-1, 0, POLLNVAL⟩] := by
  constructor
  · have h : Post (ext_poll {} { callbacks := [(3, POLLIN)] } [{ fd := 3, events := POLLIN }, { fd := -1 }] 10) oneSystem
        (fun a _ => a = (1, [⟨3, POLLIN, POLLIN⟩, ⟨-1, 0, 0⟩])) (fun _ _ => False) := by
      decide
    obtain ⟨⟨r, out⟩, w', hrun, hr⟩ := h.exists_ok
    cases hr
    refine ⟨_, w', hrun, by simp, fun hright => ?_⟩
    have hval := hright.invalid ⟨-1, 0, 0⟩ (by simp) (by simp [PollFd.Valid])
    exact absurd hval (by decide)
  · refine ⟨_, rfl, fun hright => ?_⟩
    exact absurd hright.count (by decide)

end SocketApi
