import SocketApi.Timeouts.Table

/-!
# The accesses to the default timeouts

Each access of `setDefaultStreamTimeouts` is recorded with the length of the array it goes to. A growth that
has an old array to copy reads one element behind it. The first growth has none, so that all accesses are
inside as long as it stays the only one.
-/

namespace SocketApi

open Effect

/-- An access to an element, with the allocated length of its array. -/
structure CellAccess where
  index : Nat
  length : Nat
  deriving DecidableEq, Repr

def CellAccess.InBounds (a : CellAccess) : Prop := a.index < a.length

instance (a : CellAccess) : Decidable a.InBounds := inferInstanceAs (Decidable (a.index < a.length))

/-- A call, with what `new` does in it: whether there is memory, and what the memory holds. -/
structure TimeoutsRequest where
  allocates : Bool
  unwritten : Unwritten
  call : TimeoutsCall

abbrev TableProgram (α : Type) := Traced CellAccess Unit TimeoutTable α

namespace TimeoutTable

/-! ## The source, with its accesses -/

/-- `Valid = true` and `Timeout = timeout`. -/
def tracedFill (c : TimeoutsCall) (cells : List StreamDefaultTimeout) : TableProgram (List StreamDefaultTimeout) :=
  Cells.tracedEach c.start (c.stop + 1) (fun i => [⟨i, cells.length⟩, ⟨i, cells.length⟩])
    (fun _ _ => { valid := true, timeout := c.timeout }) cells

def tracedGap (count start : Nat) (cells : List StreamDefaultTimeout) : TableProgram (List StreamDefaultTimeout) :=
  Cells.tracedEach count start (fun i => [⟨i, cells.length⟩]) (fun _ cell => { cell with valid := false }) cells

/-- An element of the old array is read, and one of the new array is written. -/
def tracedCopy (u : Unwritten) (newArray : List StreamDefaultTimeout) (t : TimeoutTable) :
    TableProgram (List StreamDefaultTimeout) :=
  match t.array with
  | some array =>
    Cells.tracedEach 0 (t.count + 1) (fun i => [⟨i, array.length⟩, ⟨i, newArray.length⟩])
      (fun i _ => read u array i) newArray
  | none => return newArray

/-- `setDefaultStreamTimeouts`, with the table it finds. -/
def tracedSetFrom (r : TimeoutsRequest) (t : TimeoutTable) : TableProgram Bool :=
  if r.call.start > r.call.stop then
    return false
  else if r.call.stop + 1 ≤ t.count then do
    let array ← tracedFill r.call (← untraced (Cells.ofOption t.array))
    untraced (set { t with array := some array })
    return true
  else if !r.allocates then
    return false
  else do
    let newArray ← t.tracedCopy r.unwritten ((List.range (r.call.stop + 1)).map r.unwritten.new)
    let newArray ← tracedGap t.count r.call.start newArray
    let newArray ← tracedFill r.call newArray
    untraced (set { array := some newArray, count := r.call.stop + 1 : TimeoutTable })
    return true

def tracedSet (r : TimeoutsRequest) : TableProgram Bool := do
  tracedSetFrom r (← get).1

def tracedSetAll : List TimeoutsRequest → TableProgram (List Bool)
  | [] => return []
  | r :: requests => do
    let answer ← tracedSet r
    let answers ← tracedSetAll requests
    return answer :: answers

/-! ## It is the same function -/

/-- The answer is returned, and the table is kept. -/
def answered (x : Option (Bool × TimeoutTable)) : EStateM Unit TimeoutTable Bool := do
  let (answer, t) ← Cells.ofOption x
  set t
  return answer

/-- `setDefaultStreamTimeouts` as a program over the table. -/
def setProgram (r : TimeoutsRequest) : EStateM Unit TimeoutTable Bool := do
  answered ((← get).setDefaultStreamTimeouts r.allocates r.unwritten r.call)

theorem answered_bind {α : Type} (x : Option α) (f : α → Option (Bool × TimeoutTable)) :
    answered (x >>= f) = Cells.ofOption x >>= fun a => answered (f a) := by
  cases x <;> rfl

theorem forgets_answer (answer : Bool) (t : TimeoutTable) :
    Forgets (do untraced (set t); return answer : TableProgram Bool) (answered (some (answer, t))) :=
  (forgets_untraced _).bind fun _ => forgets_pure answer

theorem forgets_fill (c : TimeoutsCall) (cells : List StreamDefaultTimeout) :
    Forgets (tracedFill c cells)
      (Cells.ofOption (Cells.forEach c.start (c.stop + 1) (fun _ _ => { valid := true, timeout := c.timeout }) cells)) :=
  Cells.forgets_tracedEach _ _ _ _ _

theorem forgets_copy (u : Unwritten) (newArray : List StreamDefaultTimeout) (t : TimeoutTable) :
    Forgets (t.tracedCopy u newArray) (Cells.ofOption (t.copyTo u newArray)) := by
  unfold tracedCopy copyTo
  cases t.array with
  | some array => exact Cells.forgets_tracedEach _ _ _ _ _
  | none => exact forgets_pure newArray

theorem forgets_setFrom (r : TimeoutsRequest) (t : TimeoutTable) (s : TimeoutTable × List CellAccess) (hs : s.1 = t) :
    ∃ l, tracedSetFrom r t s =
      withEvents l (answered (t.setDefaultStreamTimeouts r.allocates r.unwritten r.call) s.1) := by
  unfold tracedSetFrom setDefaultStreamTimeouts
  by_cases hrange : r.call.start > r.call.stop
  · rw [if_pos hrange, if_pos hrange]
    exact ⟨s.2, by rw [← hs]; rfl⟩
  rw [if_neg hrange, if_neg hrange]
  by_cases hfits : r.call.stop + 1 ≤ t.count
  · rw [if_pos hfits, if_pos hfits, answered_bind]
    refine (Forgets.bind (forgets_untraced _) fun cells => ?_) s
    rw [answered_bind]
    exact (forgets_fill r.call cells).bind fun array => forgets_answer true _
  rw [if_neg hfits, if_neg hfits]
  by_cases hmemory : !r.allocates
  · rw [if_pos hmemory, if_pos hmemory]
    exact ⟨s.2, by rw [← hs]; rfl⟩
  rw [if_neg hmemory, if_neg hmemory, answered_bind]
  refine (Forgets.bind (forgets_copy _ _ _) fun copied => ?_) s
  rw [answered_bind]
  apply (Cells.forgets_tracedEach _ _ _ _ _).bind
  intro gap
  rw [answered_bind]
  exact (forgets_fill r.call gap).bind fun array => forgets_answer true _

/-- The accesses apart, a call does what it does in the table's own model. -/
theorem tracedSet_forgets (r : TimeoutsRequest) : Forgets (tracedSet r) (setProgram r) := by
  intro s
  exact forgets_setFrom r s.1 s rfl

/-! ## What one call accesses -/

/-- An array is as long as the count says, and there is none without elements. -/
structure Sized (t : TimeoutTable) : Prop where
  size : (t.array.getD []).length = t.count
  held : t.array.isSome → 0 < t.count

end TimeoutTable

namespace TimeoutsRequest

/-- The call puts a larger array in the place of one with `count` elements. -/
def Grows (r : TimeoutsRequest) (count : Nat) : Prop :=
  r.allocates = true ∧ r.call.start ≤ r.call.stop ∧ count < r.call.stop + 1

instance (r : TimeoutsRequest) (count : Nat) : Decidable (r.Grows count) :=
  inferInstanceAs (Decidable (r.allocates = true ∧ r.call.start ≤ r.call.stop ∧ count < r.call.stop + 1))

def countAfter (r : TimeoutsRequest) (count : Nat) : Nat := if r.Grows count then r.call.stop + 1 else count

theorem countAfter_grown {r : TimeoutsRequest} {count : Nat} (h : r.Grows count) :
    r.countAfter count = r.call.stop + 1 := if_pos h

theorem countAfter_kept {r : TimeoutsRequest} {count : Nat} (h : ¬ r.Grows count) : r.countAfter count = count :=
  if_neg h

end TimeoutsRequest

namespace TimeoutTable

variable {r : TimeoutsRequest} {s : TimeoutTable × List CellAccess}

/-- The outcome of a call: the table keeps its shape, and the accesses are inside unless an old array is copied. -/
def Accessed (r : TimeoutsRequest) (s t : TimeoutTable × List CellAccess) : Prop :=
  t.1.Sized ∧ t.1.count = r.countAfter s.1.count ∧
    ∃ l, t.2 = s.2 ++ l ∧ ((∀ a ∈ l, a.InBounds) ↔ (r.Grows s.1.count → s.1.count = 0))

theorem accessed_nothing (hs : s.1.Sized) (hgrows : ¬ r.Grows s.1.count) : Accessed r s s := by
  refine ⟨hs, (TimeoutsRequest.countAfter_kept hgrows).symm, [], (List.append_nil _).symm, ?_⟩
  simp [hgrows]

/-- A loop over an array that is long enough. -/
theorem each_inBounds {lo hi : Nat} {accesses : Nat → List CellAccess}
    {f : Nat → StreamDefaultTimeout → StreamDefaultTimeout} {cells : List StreamDefaultTimeout} (hlen : hi ≤ cells.length)
    (haccesses : ∀ i, ∀ a ∈ accesses i, a = ⟨i, cells.length⟩) (s : TimeoutTable × List CellAccess) :
    Post (Cells.tracedEach lo hi accesses f cells) s
      (fun cells' t => cells'.length = cells.length ∧ ∃ l, t = (s.1, s.2 ++ l) ∧ ∀ a ∈ l, a.InBounds)
      (fun _ _ => False) := by
  apply (Cells.post_tracedEach lo hi accesses f cells hlen s).imp
  intro cells' t h
  obtain ⟨hlen', ht⟩ := h
  refine ⟨hlen', _, ht, fun a ha => ?_⟩
  obtain ⟨i, hi, hai⟩ := List.mem_flatMap.mp ha
  obtain ⟨hlow, hhigh⟩ := List.mem_range'_1.mp hi
  rw [haccesses i a hai]
  show i < cells.length
  omega

/-- The copy of an old array reads the element behind it. -/
theorem copy_accesses {u : Unwritten} {newArray : List StreamDefaultTimeout} {t : TimeoutTable} (ht : t.Sized)
    (hlen : t.count < newArray.length) (s : TimeoutTable × List CellAccess) :
    Post (t.tracedCopy u newArray) s
      (fun cells' s' => cells'.length = newArray.length ∧
        ∃ l, s' = (s.1, s.2 ++ l) ∧ ((∀ a ∈ l, a.InBounds) ↔ t.count = 0))
      (fun _ _ => False) := by
  unfold tracedCopy
  cases harray : t.array with
  | none =>
    have hcount : t.count = 0 := by simpa [harray] using ht.size.symm
    refine ⟨rfl, [], by simp, ?_⟩
    simp [hcount]
  | some array =>
    have hsize : array.length = t.count := by simpa [harray] using ht.size
    have hheld : 0 < t.count := ht.held (by simp [harray])
    apply (Cells.post_tracedEach 0 (t.count + 1) _ _ newArray (by omega) s).imp
    intro cells' s' h
    obtain ⟨hlen', hs'⟩ := h
    refine ⟨hlen', _, hs', ?_, fun hcount => by omega⟩
    intro hall
    have hbehind : CellAccess.InBounds ⟨t.count, array.length⟩ := by
      apply hall
      rw [List.mem_flatMap]
      exact ⟨t.count, by simp, by simp⟩
    have hlast : t.count < array.length := hbehind
    omega

theorem tracedSet_accesses (r : TimeoutsRequest) (hs : s.1.Sized) :
    Post (tracedSet r) s (fun _ t => Accessed r s t) (fun _ _ => False) := by
  show Post (tracedSetFrom r s.1) s _ _
  unfold tracedSetFrom
  by_cases hrange : r.call.start > r.call.stop
  · rw [if_pos hrange, post_pure]
    exact accessed_nothing hs fun hgrows => absurd hgrows.2.1 (by omega)
  rw [if_neg hrange]
  by_cases hfits : r.call.stop + 1 ≤ s.1.count
  · rw [if_pos hfits]
    cases harray : s.1.array with
    | none =>
      have hcount : s.1.count = 0 := by simpa [harray] using hs.size.symm
      omega
    | some cells =>
      have hsize : cells.length = s.1.count := by simpa [harray] using hs.size
      have hgrows : ¬ r.Grows s.1.count := fun h => absurd h.2.2 (by omega)
      show Post (tracedFill r.call cells >>= _) s _ _
      apply (each_inBounds (by omega) (by simp) s).bind
      intro cells' t h
      obtain ⟨hlen, l, rfl, hl⟩ := h
      refine ⟨⟨hlen.trans hsize, fun _ => ?_⟩, (TimeoutsRequest.countAfter_kept hgrows).symm, l, rfl, ?_⟩
      · exact hs.held (by simp [harray])
      · exact ⟨fun _ h => absurd h hgrows, fun _ => hl⟩
  rw [if_neg hfits]
  by_cases hmemory : !r.allocates
  · rw [if_pos hmemory, post_pure]
    exact accessed_nothing hs fun hgrows => absurd hgrows.1 (by simpa using hmemory)
  rw [if_neg hmemory]
  have hgrows : r.Grows s.1.count := ⟨by simpa using hmemory, by omega, by omega⟩
  apply (copy_accesses hs (by simp; omega) s).bind
  intro copied t h
  obtain ⟨hcopied, l, rfl, hl⟩ := h
  rw [List.length_map, List.length_range] at hcopied
  apply (each_inBounds (by omega) (by simp) _).bind
  intro gap t h
  obtain ⟨hgap, l', rfl, hl'⟩ := h
  apply (each_inBounds (by omega) (by simp) _).bind
  intro filled t h
  obtain ⟨hfilled, l'', rfl, hl''⟩ := h
  refine ⟨⟨by simpa using hfilled.trans (hgap.trans hcopied), fun _ => Nat.succ_pos _⟩,
    (TimeoutsRequest.countAfter_grown hgrows).symm, l ++ (l' ++ l''), ?_, ?_⟩
  · simp [List.append_assoc]
  · rw [List.forall_mem_append, List.forall_mem_append, hl]
    exact ⟨fun h _ => h.1, fun h => ⟨h hgrows, hl', hl''⟩⟩

/-! ## Sequences of calls -/

/-- No call of a sequence copies an array, given the elements there are before it. -/
def NeverCopies : Nat → List TimeoutsRequest → Prop
  | _, [] => True
  | count, r :: requests => (r.Grows count → count = 0) ∧ NeverCopies (r.countAfter count) requests

theorem tracedSetAll_accesses (requests : List TimeoutsRequest) (hs : s.1.Sized) :
    Post (tracedSetAll requests) s
      (fun _ t => ∃ l, t.2 = s.2 ++ l ∧ ((∀ a ∈ l, a.InBounds) ↔ NeverCopies s.1.count requests))
      (fun _ _ => False) := by
  induction requests generalizing s with
  | nil => exact ⟨[], (List.append_nil _).symm, by simp [NeverCopies]⟩
  | cons r requests ih =>
    unfold tracedSetAll
    apply (tracedSet_accesses r hs).bind
    intro answer t ht
    obtain ⟨hsized, hcount, l, hl, hinside⟩ := ht
    apply (ih hsized).bind
    intro answers t' ht'
    obtain ⟨l', hl', hinside'⟩ := ht'
    refine ⟨l ++ l', ?_, ?_⟩
    · rw [hl', hl, List.append_assoc]
    · rw [List.forall_mem_append, hinside, hinside', hcount]
      rfl

/-- With an array there, a call must not grow it. -/
theorem neverCopies_held {count : Nat} (hcount : 0 < count) (requests : List TimeoutsRequest) :
    NeverCopies count requests ↔ ∀ r ∈ requests, ¬ r.Grows count := by
  induction requests with
  | nil => simp [NeverCopies]
  | cons r requests ih =>
    rw [List.forall_mem_cons]
    constructor
    · intro h
      have hgrows : ¬ r.Grows count := fun hgrows => absurd (h.1 hgrows) (by omega)
      have hrest := h.2
      rw [TimeoutsRequest.countAfter_kept hgrows] at hrest
      exact ⟨hgrows, ih.mp hrest⟩
    · intro h
      refine ⟨fun hgrows => absurd hgrows h.1, ?_⟩
      rw [TimeoutsRequest.countAfter_kept h.1]
      exact ih.mpr h.2

end TimeoutTable

/-- The call can put an array in place. -/
def TimeoutsRequest.CanGrow (r : TimeoutsRequest) : Prop := r.allocates = true ∧ r.call.start ≤ r.call.stop

instance (r : TimeoutsRequest) : Decidable r.CanGrow :=
  inferInstanceAs (Decidable (r.allocates = true ∧ r.call.start ≤ r.call.stop))

/-- The first range that gets an array is not exceeded by a later one. -/
def FirstCoversAll (requests : List TimeoutsRequest) : Prop :=
  ∀ first ∈ requests.find? (·.CanGrow), ∀ r ∈ requests, r.CanGrow → r.call.stop ≤ first.call.stop

instance (requests : List TimeoutsRequest) : Decidable (FirstCoversAll requests) := by
  unfold FirstCoversAll
  infer_instance

namespace TimeoutsRequest

variable {r : TimeoutsRequest} {requests : List TimeoutsRequest}

theorem grows_zero : r.Grows 0 ↔ r.CanGrow := by
  unfold Grows CanGrow
  simp

theorem not_grows_succ (bound : Nat) : ¬ r.Grows (bound + 1) ↔ (r.CanGrow → r.call.stop ≤ bound) := by
  unfold Grows CanGrow
  constructor
  · intro h hcan
    by_contra hstop
    exact h ⟨hcan.1, hcan.2, by omega⟩
  · intro h hgrows
    have hstop := h ⟨hgrows.1, hgrows.2.1⟩
    have hlonger := hgrows.2.2
    omega

end TimeoutsRequest

theorem neverCopies_fresh (requests : List TimeoutsRequest) :
    TimeoutTable.NeverCopies 0 requests ↔ FirstCoversAll requests := by
  induction requests with
  | nil => simp [TimeoutTable.NeverCopies, FirstCoversAll]
  | cons r requests ih =>
    show (r.Grows 0 → 0 = 0) ∧ TimeoutTable.NeverCopies (r.countAfter 0) requests ↔ _
    unfold FirstCoversAll
    by_cases hcan : r.CanGrow
    · rw [TimeoutsRequest.countAfter_grown (TimeoutsRequest.grows_zero.mpr hcan), TimeoutTable.neverCopies_held (by omega),
        List.find?_cons_of_pos (by simpa using hcan)]
      simp only [TimeoutsRequest.not_grows_succ]
      constructor
      · intro h first hfirst
        obtain rfl := Option.some.inj hfirst
        exact List.forall_mem_cons.mpr ⟨fun _ => le_rfl, h.2⟩
      · intro h
        exact ⟨fun _ => trivial, (List.forall_mem_cons.mp (h r rfl)).2⟩
    · rw [TimeoutsRequest.countAfter_kept (mt TimeoutsRequest.grows_zero.mp hcan), List.find?_cons_of_neg (by simpa using hcan), ih]
      unfold FirstCoversAll
      constructor
      · intro h first hfirst
        exact List.forall_mem_cons.mpr ⟨fun h => absurd h hcan, h.2 first hfirst⟩
      · intro h
        exact ⟨fun _ => rfl, fun first hfirst => (List.forall_mem_cons.mp (h first hfirst)).2⟩

/-- The accesses of all calls on a fresh association. -/
theorem timeoutAccesses_inBounds_iff (requests : List TimeoutsRequest) :
    (∀ a ∈ events (TimeoutTable.tracedSetAll requests) {}, a.InBounds) ↔ FirstCoversAll requests := by
  have hrun := TimeoutTable.tracedSetAll_accesses (s := (({}, []) : TimeoutTable × List CellAccess)) requests
    ⟨rfl, by simp⟩
  rw [← neverCopies_fresh]
  apply (events_of_post (P := fun l : List CellAccess =>
    (∀ a ∈ l, a.InBounds) ↔ TimeoutTable.NeverCopies 0 requests)).mpr
  apply hrun.mono
  · intro _ t h
    obtain ⟨l, hl, hinside⟩ := h
    rw [hl]
    exact hinside
  · intro _ _ h
    exact h.elim

def growingRequests : List TimeoutsRequest :=
  [{ allocates := true, unwritten := noise, call := { timeout := 10, start := 0, stop := 0 } },
    { allocates := true, unwritten := noise, call := { timeout := 10, start := 0, stop := 1 } }]

/-- The second array is larger: the copy reads the element behind the first one. -/
theorem growing_reads_behind :
    (∀ r ∈ growingRequests, r.call.start ≤ r.call.stop) ∧
      events (TimeoutTable.tracedSetAll growingRequests) {} =
        [⟨0, 1⟩, ⟨0, 1⟩, ⟨0, 1⟩, ⟨0, 2⟩, ⟨1, 1⟩, ⟨1, 2⟩, ⟨0, 2⟩, ⟨0, 2⟩, ⟨1, 2⟩, ⟨1, 2⟩] ∧
      ¬ ∀ a ∈ events (TimeoutTable.tracedSetAll growingRequests) {}, a.InBounds := by
  have hevents : events (TimeoutTable.tracedSetAll growingRequests) {} =
      [⟨0, 1⟩, ⟨0, 1⟩, ⟨0, 1⟩, ⟨0, 2⟩, ⟨1, 1⟩, ⟨1, 2⟩, ⟨0, 2⟩, ⟨0, 2⟩, ⟨1, 2⟩, ⟨1, 2⟩] := rfl
  refine ⟨by decide, hevents, ?_⟩
  rw [hevents]
  decide

end SocketApi
