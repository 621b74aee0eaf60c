import SocketApi.Parameters
import SocketApi.Lib.Cells
import Mathlib.Data.List.Induction

/-!
# The default timeouts of streams

`StreamDefaultTimeoutArray` grows with the ranges that are set. Each growth copies one cell too many, which is
read behind the old array and written over at once. What is looked up is the timeout of the last call whose
range covers the stream.
-/

namespace SocketApi

/-- The arguments of a call of `setDefaultStreamTimeouts`. The streams are shorts, so that no counter wraps. -/
structure TimeoutsCall where
  timeout : Nat
  start : Nat
  stop : Nat
  deriving DecidableEq, Repr

def TimeoutsCall.Covers (c : TimeoutsCall) (stream : Nat) : Prop := c.start ≤ stream ∧ stream ≤ c.stop

instance (c : TimeoutsCall) (stream : Nat) : Decidable (c.Covers stream) :=
  inferInstanceAs (Decidable (c.start ≤ stream ∧ stream ≤ c.stop))

/-- The last of the calls with the stream in its range. -/
def lastCovering (calls : List TimeoutsCall) (stream : Nat) : Option TimeoutsCall :=
  (calls.filter (·.Covers stream)).getLast?

/-! ## The array in memory -/

/-- What the program reads where it has written nothing: behind an array, and in a new one. -/
structure Unwritten where
  behind : Nat → StreamDefaultTimeout
  new : Nat → StreamDefaultTimeout

/-- `StreamDefaultTimeoutArray`, as its allocation, and `StreamDefaultTimeoutCount`. -/
structure TimeoutTable where
  array : Option (List StreamDefaultTimeout) := none
  count : Nat := 0
  deriving DecidableEq, Repr

namespace TimeoutTable

variable {u : Unwritten} {c : TimeoutsCall} {t : TimeoutTable} {cells : List StreamDefaultTimeout} {stream : Nat}

def read (u : Unwritten) (cells : List StreamDefaultTimeout) (i : Nat) : StreamDefaultTimeout :=
  cells[i]?.getD (u.behind i)

/-- The copy of the old array into the new one, with the bound `i <= StreamDefaultTimeoutCount`. -/
def copyTo (u : Unwritten) (newArray : List StreamDefaultTimeout) (t : TimeoutTable) :
    Option (List StreamDefaultTimeout) :=
  match t.array with
  | some array => Cells.forEach 0 (t.count + 1) (fun i _ => read u array i) newArray
  | none => some newArray

/-- A write outside an allocation, or an access through a null pointer, is `none`. -/
def setDefaultStreamTimeouts (allocates : Bool) (u : Unwritten) (c : TimeoutsCall) (t : TimeoutTable) :
    Option (Bool × TimeoutTable) :=
  if c.start > c.stop then
    some (false, t)
  else if c.stop + 1 ≤ t.count then do
    let array ← Cells.forEach c.start (c.stop + 1) (fun _ _ => { valid := true, timeout := c.timeout }) (← t.array)
    return (true, { t with array := some array })
  else if !allocates then
    some (false, t)
  else do
    let newArray ← t.copyTo u ((List.range (c.stop + 1)).map u.new)
    let newArray ← Cells.forEach t.count c.start (fun _ cell => { cell with valid := false }) newArray
    let newArray ← Cells.forEach c.start (c.stop + 1) (fun _ _ => { valid := true, timeout := c.timeout }) newArray
    return (true, { array := some newArray, count := c.stop + 1 })

/-- The timeout is set only if the stream has one. -/
def getDefaultStreamTimeout (u : Unwritten) (streamID : Nat) (t : TimeoutTable) : Option (Option Nat) :=
  if streamID < t.count then do
    let cell := read u (← t.array) streamID
    return (if cell.valid then some cell.timeout else none)
  else
    some none

/-- Calls one after another, and their answers. `new` does not return a null pointer. -/
def setAll : List (Unwritten × TimeoutsCall) → TimeoutTable → Option (List Bool × TimeoutTable)
  | [], t => some ([], t)
  | (u, c) :: calls, t => do
    let (answer, t) ← t.setDefaultStreamTimeouts true u c
    let (answers, t) ← setAll calls t
    return (answer :: answers, t)

end TimeoutTable

/-! ## The array as a list -/

/-- What is found under a stream. -/
def lookup (array : List StreamDefaultTimeout) (stream : Nat) : Option Nat :=
  array[stream]?.bind fun cell => if cell.valid then some cell.timeout else none

theorem lookup_eq_none {array : List StreamDefaultTimeout} {stream : Nat} (h : array.length ≤ stream) :
    lookup array stream = none := by
  simp [lookup, h]

theorem lookup_streamTimeouts (array : List StreamDefaultTimeout) (timeout start stop : Nat) (stream : Nat) :
    lookup (SCTPAssociation.streamTimeouts array timeout start stop) stream =
      if start ≤ stream ∧ stream ≤ stop then some timeout else lookup array stream := by
  unfold SCTPAssociation.streamTimeouts lookup
  by_cases hin : stream < max array.length (stop + 1)
  · rw [List.getElem?_map, List.getElem?_range hin]
    by_cases hcover : start ≤ stream ∧ stream ≤ stop
    · simp [hcover]
    · cases hcell : array[stream]? <;> simp [hcover, hcell]
  · rw [List.getElem?_eq_none (by simpa using hin), List.getElem?_eq_none (by omega), if_neg (by omega)]

theorem lastCovering_append (calls : List TimeoutsCall) (c : TimeoutsCall) (stream : Nat) :
    lastCovering (calls ++ [c]) stream = if c.Covers stream then some c else lastCovering calls stream := by
  unfold lastCovering
  rw [List.filter_append]
  by_cases h : c.Covers stream <;> simp [h]

/-- `setDefaultStreamTimeouts` on the list. -/
def TimeoutsCall.apply (array : List StreamDefaultTimeout) (c : TimeoutsCall) : List StreamDefaultTimeout :=
  if c.stop < c.start then array else SCTPAssociation.streamTimeouts array c.timeout c.start c.stop

theorem lookup_apply (array : List StreamDefaultTimeout) (c : TimeoutsCall) (stream : Nat) :
    lookup (c.apply array) stream = if c.Covers stream then some c.timeout else lookup array stream := by
  unfold TimeoutsCall.apply
  by_cases h : c.stop < c.start
  · have hcover : ¬ c.Covers stream := by
      rintro ⟨hlow, hhigh⟩
      omega
    rw [if_pos h, if_neg hcover]
  · rw [if_neg h, lookup_streamTimeouts]
    rfl

/-- The list holds the timeouts of the last calls. -/
theorem lookup_foldl (calls : List TimeoutsCall) (stream : Nat) :
    lookup (calls.foldl TimeoutsCall.apply []) stream = (lastCovering calls stream).map (·.timeout) := by
  induction calls using List.reverseRecOn with
  | nil => rfl
  | append_singleton calls c ih =>
    rw [List.foldl_append, List.foldl_cons, List.foldl_nil, lookup_apply, lastCovering_append, ih]
    split <;> rfl

theorem length_apply (array : List StreamDefaultTimeout) (c : TimeoutsCall) :
    (c.apply array).length = if c.stop < c.start then array.length else max array.length (c.stop + 1) := by
  unfold TimeoutsCall.apply SCTPAssociation.streamTimeouts
  split <;> simp

/-! ## The array in memory holds the list -/

namespace TimeoutTable

variable {u : Unwritten} {c : TimeoutsCall} {t : TimeoutTable} {array cells : List StreamDefaultTimeout} {stream : Nat}

/-- The count is the size of the allocation, and the same timeouts are found. -/
structure Represents (t : TimeoutTable) (array : List StreamDefaultTimeout) : Prop where
  size : (t.array.getD []).length = t.count
  length : array.length = t.count
  found : ∀ stream, lookup (t.array.getD []) stream = lookup array stream

theorem represents_empty : Represents {} [] := ⟨rfl, rfl, fun _ => rfl⟩

/-- The cells below the old count are copied; the one that was read behind the old array may hold anything. -/
theorem copied (hsize : (t.array.getD []).length = t.count) (hgrow : t.count < c.stop + 1) :
    ∃ cells, t.copyTo u ((List.range (c.stop + 1)).map u.new) = some cells ∧
      cells.length = c.stop + 1 ∧ ∀ j < t.count, cells[j]? = (t.array.getD [])[j]? := by
  unfold copyTo
  cases harray : t.array with
  | none =>
    have hcount : t.count = 0 := by simpa [harray] using hsize.symm
    refine ⟨_, rfl, by simp, fun j hj => ?_⟩
    omega
  | some array =>
    have hlen : array.length = t.count := by simpa [harray] using hsize
    obtain ⟨cells, hrun, hlength, hcells⟩ := Cells.forEach_within 0 (t.count + 1) (fun i _ => read u array i)
      ((List.range (c.stop + 1)).map u.new) (by simp; omega)
    refine ⟨cells, hrun, by simpa using hlength, fun j hj => ?_⟩
    have hnew : j < c.stop + 1 := by omega
    have hold : j < array.length := by omega
    rw [hcells j, if_pos (by omega), List.getElem?_map, List.getElem?_range hnew]
    simp [read, hold]

/-- The loops over a new array: what is found in it is the old timeout outside the range. -/
theorem grown (hsize : (t.array.getD []).length = t.count) (hrange : c.start ≤ c.stop) (hgrow : t.count < c.stop + 1)
    (hlen : cells.length = c.stop + 1) (hcopy : ∀ j < t.count, cells[j]? = (t.array.getD [])[j]?) :
    ∃ gap, Cells.forEach t.count c.start (fun _ cell => { cell with valid := false }) cells = some gap ∧
      ∃ filled, Cells.forEach c.start (c.stop + 1) (fun _ _ => { valid := true, timeout := c.timeout }) gap = some filled ∧
        filled.length = c.stop + 1 ∧
        ∀ stream, lookup filled stream = if c.Covers stream then some c.timeout else lookup (t.array.getD []) stream := by
  obtain ⟨gap, hgap, hgaplen, hgapcells⟩ := Cells.forEach_within t.count c.start
    (fun _ (cell : StreamDefaultTimeout) => { cell with valid := false }) cells (by omega)
  obtain ⟨filled, hfill, hfilllen, hfillcells⟩ := Cells.forEach_within c.start (c.stop + 1)
    (fun _ (_ : StreamDefaultTimeout) => { valid := true, timeout := c.timeout }) gap (by omega)
  refine ⟨gap, hgap, filled, hfill, by omega, fun stream => ?_⟩
  by_cases hin : stream < c.stop + 1
  · have hcell : stream < cells.length := by omega
    unfold lookup
    rw [hfillcells stream, hgapcells stream]
    by_cases hcover : c.Covers stream
    · have hgapin : ¬ (t.count ≤ stream ∧ stream < c.start) := fun h => absurd hcover.1 (by omega)
      rw [if_pos hcover, if_pos ⟨hcover.1, hin⟩, if_neg hgapin]
      simp [hcell]
    · have hlow : stream < c.start := by
        by_contra h
        exact hcover ⟨by omega, by omega⟩
      rw [if_neg hcover, if_neg (by omega)]
      by_cases hold : stream < t.count
      · rw [if_neg (by omega), hcopy stream hold]
      · -- The gap: nothing was set here, and nothing is found.
        rw [if_pos ⟨by omega, hlow⟩, List.getElem?_eq_none (l := t.array.getD []) (by omega)]
        simp [hcell]
  · have hcover : ¬ c.Covers stream := fun h => hin (by have := h.2; omega)
    rw [if_neg hcover, lookup_eq_none (by omega), lookup_eq_none (by omega)]

/-- A call does to the array what it does to the list. -/
theorem represents_set (u : Unwritten) (c : TimeoutsCall) (h : t.Represents array) :
    ∃ t', t.setDefaultStreamTimeouts true u c = some (decide (c.start ≤ c.stop), t') ∧ t'.Represents (c.apply array) := by
  unfold setDefaultStreamTimeouts
  by_cases hrange : c.start > c.stop
  · refine ⟨t, by rw [if_pos hrange, decide_eq_false (by omega)], ?_⟩
    unfold TimeoutsCall.apply
    rwa [if_pos hrange]
  have hstop : ¬ c.stop < c.start := hrange
  rw [if_neg hrange, decide_eq_true (by omega)]
  by_cases hfits : c.stop + 1 ≤ t.count
  · rw [if_pos hfits]
    cases harray : t.array with
    | none =>
      have := h.size
      simp [harray] at this
      omega
    | some cells =>
      have hlen : cells.length = t.count := by simpa [harray] using h.size
      obtain ⟨cells', hrun, hlen', hcells⟩ := Cells.forEach_within c.start (c.stop + 1)
        (fun _ (_ : StreamDefaultTimeout) => { valid := true, timeout := c.timeout }) cells (by omega)
      refine ⟨{ t with array := some cells' }, by simp [hrun], by simpa using hlen'.trans hlen, ?_, fun stream => ?_⟩
      · rw [length_apply, if_neg hstop, h.length]
        exact Nat.max_eq_left hfits
      · have hfound : lookup cells stream = lookup array stream := by simpa [harray] using h.found stream
        rw [lookup_apply, ← hfound]
        show lookup cells' stream = _
        unfold lookup
        rw [hcells stream]
        by_cases hcover : c.Covers stream
        · have hin : stream < cells.length := by have := hcover.2; omega
          rw [if_pos hcover, if_pos ⟨hcover.1, by have := hcover.2; omega⟩]
          simp [hin]
        · have hout : ¬ (c.start ≤ stream ∧ stream < c.stop + 1) := fun hin => hcover ⟨hin.1, by omega⟩
          rw [if_neg hcover, if_neg hout]
  · have hgrow : t.count < c.stop + 1 := by omega
    obtain ⟨copy, hcopyrun, hcopylen, hcopy⟩ := copied (u := u) (c := c) h.size hgrow
    obtain ⟨gap, hgap, filled, hfill, hlen, hfound⟩ := grown h.size (by omega) hgrow hcopylen hcopy
    refine ⟨{ array := some filled, count := c.stop + 1 }, ?_, hlen, ?_, fun stream => ?_⟩
    · rw [if_neg hfits]
      simp [hcopyrun, hgap, hfill]
    · rw [length_apply, if_neg hstop, h.length]
      exact Nat.max_eq_right hgrow.le
    · rw [lookup_apply, ← h.found stream]
      exact hfound stream

theorem represents_setAll (calls : List (Unwritten × TimeoutsCall)) (h : t.Represents array) :
    ∃ t', setAll calls t = some (calls.map fun call => decide (call.2.start ≤ call.2.stop), t') ∧
      t'.Represents ((calls.map (·.2)).foldl TimeoutsCall.apply array) := by
  induction calls generalizing t array with
  | nil => exact ⟨t, rfl, h⟩
  | cons call calls ih =>
    obtain ⟨u, c⟩ := call
    obtain ⟨t₁, hcall, hone⟩ := represents_set u c h
    obtain ⟨t', hcalls, hall⟩ := ih hone
    refine ⟨t', ?_, hall⟩
    unfold setAll
    simp [hcall, hcalls]

/-- What is looked up in the array, whatever lies behind it. -/
theorem represents_get (u : Unwritten) (stream : Nat) (h : t.Represents array) :
    t.getDefaultStreamTimeout u stream = some (lookup array stream) := by
  rw [← h.found]
  unfold getDefaultStreamTimeout
  by_cases hin : stream < t.count
  · cases harray : t.array with
    | none =>
      have := h.size
      simp [harray] at this
      omega
    | some cells =>
      have hlen : stream < cells.length := by
        have := h.size
        simp [harray] at this
        omega
      simp [hin, read, lookup, hlen]
  · rw [if_neg hin, lookup_eq_none (by rw [h.size]; omega)]

end TimeoutTable

/-- The timeouts of an association are those of the last calls, and no access leaves the array. -/
theorem streamTimeouts_last_writer (calls : List (Unwritten × TimeoutsCall)) :
    (∃ t, TimeoutTable.setAll calls {} = some (calls.map fun call => decide (call.2.start ≤ call.2.stop), t) ∧
      ∀ u stream, t.getDefaultStreamTimeout u stream =
        some ((lastCovering (calls.map (·.2)) stream).map (·.timeout))) ∧
    ∀ allocates u (c : TimeoutsCall) (t : TimeoutTable), c.start > c.stop →
      t.setDefaultStreamTimeouts allocates u c = some (false, t) := by
  constructor
  · obtain ⟨t, hrun, hrep⟩ := TimeoutTable.represents_setAll calls TimeoutTable.represents_empty
    refine ⟨t, hrun, fun u stream => ?_⟩
    rw [TimeoutTable.represents_get u stream hrep, lookup_foldl]
  · intro allocates u c t h
    unfold TimeoutTable.setDefaultStreamTimeouts
    rw [if_pos h]

def noise : Unwritten where
  behind := fun _ => { valid := true, timeout := 99 }
  new := fun _ => { valid := true, timeout := 77 }

def overlapping : List (Unwritten × TimeoutsCall) :=
  [(noise, { timeout := 10, start := 3, stop := 5 }), (noise, { timeout := 20, start := 4, stop := 9 }),
    (noise, { timeout := 30, start := 9, stop := 2 })]

theorem streamTimeouts_last_writer_overlapping :
    (∃ t, TimeoutTable.setAll overlapping {} = some ([true, true, false], t) ∧
      ∀ u stream, t.getDefaultStreamTimeout u stream =
        some ((lastCovering (overlapping.map (·.2)) stream).map (·.timeout))) ∧
    TimeoutTable.setDefaultStreamTimeouts true noise { timeout := 30, start := 9, stop := 2 } {} =
      some (false, {}) :=
  ⟨(streamTimeouts_last_writer overlapping).1, (streamTimeouts_last_writer overlapping).2 _ _ _ _ (by decide)⟩

end SocketApi
