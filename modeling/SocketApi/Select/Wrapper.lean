import SocketApi.Select.FdSets

/-!
# Select without a running master

`select_wrapper` asks the operating system about the system descriptors behind the numbers of
the table and maps its answer back. A SCTP descriptor that is not connection-oriented counts as
writable.
-/

namespace SocketApi

structure Timeval where
  sec : Int
  usec : Int
  deriving DecidableEq, Repr

/-- `select()`: its result and what it leaves in the sets. -/
abbrev SystemSelect := Int → (UpdateConditionType → FdSet) → Option Timeval → Int × (UpdateConditionType → FdSet)

/-- A successful `select` clears bits and counts those it leaves. -/
def SystemSelect.Documented (select : SystemSelect) : Prop :=
  ∀ n fds timeout, 0 ≤ (select n fds timeout).1 →
    (∀ t, (select n fds timeout).2 t ⊆ fds t) ∧
      (select n fds timeout).1 = (∑ t, ((select n fds timeout).2 t).card : Nat)

/-! ## The descriptors of the system -/

/-- The local variables of `select_wrapper` behind its first loop. -/
structure SelectMapping where
  fds : UpdateConditionType → FdSet := fun _ => ∅
  maxFD : Nat := 0
  reverseMapping : Fd → Option Fd := fun _ => none
  fakeUDPWrite : Bool := false

section

variable (table : Nat → ExtSocketDescriptor) (sets : FdSets)

/-- An unbound UDP-like SCTP socket. -/
def isUDPLike (i : Fd) : Bool :=
  match table i with
  | .sctp desc => !desc.connectionOriented
  | _ => false

/-- A round of the first loop. -/
def SelectMapping.add (m : SelectMapping) (i : Fd) : Option SelectMapping :=
  if sets.Requested i then
    match table i with
    | .system systemSocketID =>
      (fdOf systemSocketID).map fun fd =>
        { m with
          maxFD := max m.maxFD fd
          fds := fun t => if i ∈ sets.members t then insert fd (m.fds t) else m.fds t
          reverseMapping := Function.update m.reverseMapping fd (some i) }
    | .sctp _ => some (if isUDPLike table i then { m with fakeUDPWrite := true } else m)
    | .invalid => some m
  else some m

/-- `FD_SET` for the descriptor behind one the system has reported in a set. -/
def SelectMapping.mark (m : SelectMapping) (answer : UpdateConditionType → FdSet) (i : Fd) (out : FdSets)
    (t : UpdateConditionType) : Option FdSets :=
  if i ∈ answer t then (m.reverseMapping i).bind (out.set t) else some out

/-- A round of the last loop. -/
def SelectMapping.markAll (m : SelectMapping) (answer : UpdateConditionType → FdSet) (out : FdSets) (i : Fd) :
    Option FdSets :=
  [.read, .write, .except].foldlM (m.mark answer i) out

/-- The bits of `writefds` that are set without asking the system. -/
def fakeWrites (m : SelectMapping) : FdSet :=
  if m.fakeUDPWrite then (sets.members .write).filter (isUDPLike table ·) else ∅

/-- The sets before the answer is mapped back. -/
def clearedSets (m : SelectMapping) : FdSets := fun t =>
  (sets t).map fun _ => if t = .write then fakeWrites table sets m else ∅

/-- The part of `select_wrapper` behind the call of `select()`. -/
def SelectMapping.finish (m : SelectMapping) (answer : Int × (UpdateConditionType → FdSet)) :
    Option (Int × FdSets) :=
  if answer.1 < 0 then some (answer.1, sets)
  else ((descriptorsBelow (m.maxFD + 1)).foldlM (m.markAll answer.2) (clearedSets table sets m)).map
    fun out => (answer.1 + (fakeWrites table sets m).card, out)

/-- The result of `select_wrapper` and its sets; `none` is undefined behaviour. -/
def select_wrapper (select : SystemSelect) (n : Int) (timeout : Option Timeval) : Option (Int × FdSets) := do
  -- Both operands of the minimum are unsigned.
  let m ← (descriptorsBelow (n % 2 ^ 32).toNat).foldlM (SelectMapping.add table sets) {}
  let timeout := if m.fakeUDPWrite then some { sec := 0, usec := 0 } else timeout
  m.finish table sets (select (m.maxFD + 1) m.fds timeout)

end

/-! ## The first loop -/

section

variable {table : Nat → ExtSocketDescriptor} {sets : FdSets}

theorem system_unique {i fd fd' : Fd} (h : table i = .system (fd : Fd)) (h' : table i = .system (fd' : Fd)) :
    fd' = fd := by
  rw [h] at h'
  have hval : ((fd : Nat) : Int) = ((fd' : Nat) : Int) := ExtSocketDescriptor.system.inj h'
  exact Fin.ext (by omega)

/-- Distinct system descriptors of the sets hold distinct descriptors that `FD_SET` takes. -/
structure Mappable (table : Nat → ExtSocketDescriptor) (sets : FdSets) : Prop where
  small : ∀ i id, sets.Requested i → table i = .system id → ∃ fd : Fd, id = fd
  injective : ∀ i j id, sets.Requested i → sets.Requested j → table i = .system id → table j = .system id → i = j

/-- What the first loop knows of the descriptors it has met. -/
structure SelectMapping.Covers (m : SelectMapping) (table : Nat → ExtSocketDescriptor) (sets : FdSets)
    (met : Fd → Prop) : Prop where
  mem_fds : ∀ t fd, fd ∈ m.fds t ↔ ∃ i, met i ∧ i ∈ sets.members t ∧ table i = .system (fd : Fd)
  reverse : ∀ fd i, met i → sets.Requested i → table i = .system (fd : Fd) → m.reverseMapping fd = some i
  below : ∀ fd i, met i → sets.Requested i → table i = .system (fd : Fd) → (fd : Nat) ≤ m.maxFD
  fake : m.fakeUDPWrite = true ↔ ∃ i, met i ∧ sets.Requested i ∧ isUDPLike table i

theorem SelectMapping.covers_start : SelectMapping.Covers {} table sets (· ∈ ([] : List Fd)) where
  mem_fds := by simp
  reverse := by simp
  below := by simp
  fake := by simp

/-- A descriptor that is not of the system leaves the three maps as they are. -/
theorem SelectMapping.Covers.skip {m : SelectMapping} {met : Fd → Prop} {i : Fd} (hm : m.Covers table sets met)
    (hi : ∀ id, sets.Requested i → table i ≠ .system id) (hudp : ¬ (sets.Requested i ∧ isUDPLike table i)) :
    m.Covers table sets fun j => met j ∨ j = i where
  mem_fds t fd := by
    rw [hm.mem_fds]
    constructor
    · rintro ⟨j, hj, hrest⟩
      exact ⟨j, .inl hj, hrest⟩
    · rintro ⟨j, hj | rfl, hmem, htd⟩
      · exact ⟨j, hj, hmem, htd⟩
      · exact (hi _ ⟨t, hmem⟩ htd).elim
  reverse fd j hj hreq htd := by
    obtain hj | rfl := hj
    · exact hm.reverse fd j hj hreq htd
    · exact (hi _ hreq htd).elim
  below fd j hj hreq htd := by
    obtain hj | rfl := hj
    · exact hm.below fd j hj hreq htd
    · exact (hi _ hreq htd).elim
  fake := by
    rw [hm.fake]
    constructor
    · rintro ⟨j, hj, hrest⟩
      exact ⟨j, .inl hj, hrest⟩
    · rintro ⟨j, hj | rfl, hrest⟩
      · exact ⟨j, hj, hrest⟩
      · exact (hudp hrest).elim

theorem SelectMapping.Covers.add_system {m : SelectMapping} {met : Fd → Prop} {i fd : Fd}
    (hm : m.Covers table sets met) (hmap : Mappable table sets) (hreq : sets.Requested i)
    (htd : table i = .system (fd : Fd)) :
    SelectMapping.Covers
      { m with
        maxFD := max m.maxFD fd
        fds := fun t => if i ∈ sets.members t then insert fd (m.fds t) else m.fds t
        reverseMapping := Function.update m.reverseMapping fd (some i) }
      table sets fun j => met j ∨ j = i where
  mem_fds t fd' := by
    constructor
    · intro h
      dsimp only at h
      split at h
      · rename_i hmem
        obtain rfl | h := Finset.mem_insert.mp h
        · exact ⟨i, .inr rfl, hmem, htd⟩
        · obtain ⟨j, hj, hrest⟩ := (hm.mem_fds t fd').mp h
          exact ⟨j, .inl hj, hrest⟩
      · obtain ⟨j, hj, hrest⟩ := (hm.mem_fds t fd').mp h
        exact ⟨j, .inl hj, hrest⟩
    · rintro ⟨j, hj | rfl, hmem, htd'⟩
      · have h := (hm.mem_fds t fd').mpr ⟨j, hj, hmem, htd'⟩
        dsimp only
        split
        · exact Finset.mem_insert_of_mem h
        · exact h
      · simp [hmem, system_unique htd htd']
  reverse fd' j hj hreq' htd' := by
    by_cases hfd : fd' = fd
    · subst hfd
      simp [hmap.injective j i _ hreq' hreq htd' htd]
    · obtain hj | rfl := hj
      · simpa [hfd] using hm.reverse fd' j hj hreq' htd'
      · exact (hfd (system_unique htd htd')).elim
  below fd' j hj hreq' htd' := by
    obtain hj | rfl := hj
    · exact le_max_of_le_left (hm.below fd' j hj hreq' htd')
    · rw [system_unique htd htd']
      exact Nat.le_max_right _ _
  fake := by
    have hnot : isUDPLike table i = false := by simp [isUDPLike, htd]
    rw [hm.fake]
    constructor
    · rintro ⟨j, hj, hrest⟩
      exact ⟨j, .inl hj, hrest⟩
    · rintro ⟨j, hj | rfl, hrest⟩
      · exact ⟨j, hj, hrest⟩
      · simp [hnot] at hrest

theorem SelectMapping.Covers.add_udp {m : SelectMapping} {met : Fd → Prop} {i : Fd} (hm : m.Covers table sets met)
    (hreq : sets.Requested i) (hudp : isUDPLike table i) :
    SelectMapping.Covers { m with fakeUDPWrite := true } table sets fun j => met j ∨ j = i := by
  have hnot (id : Int) : table i ≠ .system id := by
    intro htd
    simp [isUDPLike, htd] at hudp
  have hmet (j : Fd) (id : Int) (htd : table j = .system id) : (met j ∨ j = i) ↔ met j := by
    constructor
    · rintro (hj | rfl)
      · exact hj
      · exact (hnot id htd).elim
    · exact .inl
  constructor
  · intro t fd
    simp only [hm.mem_fds]
    constructor
    · rintro ⟨j, hj, hrest⟩
      exact ⟨j, .inl hj, hrest⟩
    · rintro ⟨j, hj, hmem, htd⟩
      exact ⟨j, (hmet j _ htd).mp hj, hmem, htd⟩
  · intro fd j hj hreq' htd
    exact hm.reverse fd j ((hmet j _ htd).mp hj) hreq' htd
  · intro fd j hj hreq' htd
    exact hm.below fd j ((hmet j _ htd).mp hj) hreq' htd
  · simp only [true_iff]
    exact ⟨i, .inr rfl, hreq, hudp⟩

/-- A round of the first loop. -/
theorem SelectMapping.Covers.add {m : SelectMapping} {met : Fd → Prop} (hm : m.Covers table sets met)
    (hmap : Mappable table sets) (i : Fd) :
    ∃ m', SelectMapping.add table sets m i = some m' ∧ m'.Covers table sets fun j => met j ∨ j = i := by
  unfold SelectMapping.add
  by_cases hreq : sets.Requested i
  · simp only [hreq, if_true]
    cases htd : table i with
    | invalid => exact ⟨m, rfl, hm.skip (by simp [htd]) (by simp [isUDPLike, htd])⟩
    | system id =>
      obtain ⟨fd, rfl⟩ := hmap.small i id hreq htd
      exact ⟨_, by simp, hm.add_system hmap hreq htd⟩
    | sctp desc =>
      by_cases hudp : isUDPLike table i
      · exact ⟨_, by rw [if_pos hudp], hm.add_udp hreq hudp⟩
      · exact ⟨m, by rw [if_neg hudp], hm.skip (by simp [htd]) (by simp [hudp])⟩
  · simp only [hreq, if_false]
    exact ⟨m, rfl, hm.skip (fun _ h => (hreq h).elim) (fun h => hreq h.1)⟩

theorem SelectMapping.Covers.addAll {met : Fd → Prop} (hmap : Mappable table sets) (list : List Fd)
    {m : SelectMapping} (hm : m.Covers table sets met) :
    ∃ m', list.foldlM (SelectMapping.add table sets) m = some m' ∧
      m'.Covers table sets fun j => met j ∨ j ∈ list := by
  induction list generalizing m met with
  | nil => exact ⟨m, rfl, by simpa using hm⟩
  | cons i list ih =>
    obtain ⟨m₁, hadd, hm₁⟩ := hm.add hmap i
    obtain ⟨m₂, hrest, hm₂⟩ := ih hm₁
    refine ⟨m₂, ?_, by simpa [or_assoc] using hm₂⟩
    rw [List.foldlM_cons, hadd]
    exact hrest

end

/-! ## The last loop -/

/-- No pointer becomes null, and the bits that are set in addition satisfy `P`. -/
def FdSets.Gains (sets out : FdSets) (P : UpdateConditionType → Fd → Prop) : Prop :=
  (∀ t, (out t).isSome = (sets t).isSome) ∧ ∀ t j, j ∈ out.members t ↔ j ∈ sets.members t ∨ P t j

theorem FdSets.Gains.trans {sets out out' : FdSets} {P Q : UpdateConditionType → Fd → Prop} (h : sets.Gains out P)
    (h' : out.Gains out' Q) : sets.Gains out' fun t j => P t j ∨ Q t j := by
  constructor
  · intro t
    rw [h'.1, h.1]
  · intro t j
    rw [h'.2, h.2, or_assoc]

section

variable {m : SelectMapping} {answer : UpdateConditionType → FdSet} {out : FdSets} {i : Fd}

theorem SelectMapping.mark_gains {t : UpdateConditionType}
    (hi : i ∈ answer t → (m.reverseMapping i).isSome ∧ (out t).isSome) :
    ∃ out', m.mark answer i out t = some out' ∧
      out.Gains out' fun t' j => t' = t ∧ i ∈ answer t' ∧ m.reverseMapping i = some j := by
  unfold SelectMapping.mark
  by_cases hmem : i ∈ answer t
  · obtain ⟨hrev, hout⟩ := hi hmem
    obtain ⟨j, hj⟩ := Option.isSome_iff_exists.mp hrev
    refine ⟨out.mark t j, by simp [hmem, hj, FdSets.set, hout], fun t' => FdSets.isSome_mark t t' j, fun t' k => ?_⟩
    rw [FdSets.mem_mark, hj]
    constructor
    · rintro (h | ⟨rfl, rfl, -⟩)
      · exact .inl h
      · exact .inr ⟨rfl, hmem, rfl⟩
    · rintro (h | ⟨rfl, -, hk⟩)
      · exact .inl h
      · exact .inr ⟨rfl, (Option.some.inj hk).symm, hout⟩
  · refine ⟨out, by simp [hmem], fun _ => rfl, fun t' k => ?_⟩
    simp only [iff_self_or, and_imp]
    rintro rfl h
    exact (hmem h).elim

theorem SelectMapping.marks_gains (hi : ∀ t, i ∈ answer t → (m.reverseMapping i).isSome ∧ (out t).isSome)
    (types : List UpdateConditionType) :
    ∃ out', types.foldlM (m.mark answer i) out = some out' ∧
      out.Gains out' fun t j => t ∈ types ∧ i ∈ answer t ∧ m.reverseMapping i = some j := by
  induction types generalizing out with
  | nil => exact ⟨out, rfl, fun _ => rfl, by simp⟩
  | cons t types ih =>
    obtain ⟨out₁, hmark, h₁⟩ := mark_gains (hi t)
    obtain ⟨out₂, hrest, h₂⟩ := ih fun t' ht' => ⟨(hi t' ht').1, (h₁.1 t').trans (hi t' ht').2⟩
    refine ⟨out₂, ?_, ?_⟩
    · rw [List.foldlM_cons, hmark]
      exact hrest
    · simpa [or_and_right] using h₁.trans h₂

/-- A round of the last loop. -/
theorem SelectMapping.markAll_gains (hi : ∀ t, i ∈ answer t → (m.reverseMapping i).isSome ∧ (out t).isSome) :
    ∃ out', m.markAll answer out i = some out' ∧
      out.Gains out' fun t j => i ∈ answer t ∧ m.reverseMapping i = some j := by
  obtain ⟨out', hmarks, h⟩ := marks_gains hi [.read, .write, .except]
  refine ⟨out', hmarks, h.1, fun t j => ?_⟩
  have ht : t ∈ [UpdateConditionType.read, .write, .except] := by cases t <;> simp
  rw [h.2]
  simp only [ht, true_and]

theorem SelectMapping.markList_gains (m : SelectMapping) (answer : UpdateConditionType → FdSet) (out : FdSets)
    (list : List Fd)
    (hlist : ∀ i ∈ list, ∀ t, i ∈ answer t → (m.reverseMapping i).isSome ∧ (out t).isSome) :
    ∃ out', list.foldlM (m.markAll answer) out = some out' ∧
      out.Gains out' fun t j => ∃ i ∈ list, i ∈ answer t ∧ m.reverseMapping i = some j := by
  induction list generalizing out with
  | nil => exact ⟨out, rfl, fun _ => rfl, by simp⟩
  | cons i list ih =>
    obtain ⟨out₁, hmark, h₁⟩ := markAll_gains (hlist i (by simp))
    obtain ⟨out₂, hrest, h₂⟩ := ih out₁ fun i' hi' t ht =>
      ⟨(hlist i' (by simp [hi']) t ht).1, (h₁.1 t).trans (hlist i' (by simp [hi']) t ht).2⟩
    refine ⟨out₂, ?_, ?_⟩
    · rw [List.foldlM_cons, hmark]
      exact hrest
    · simpa using h₁.trans h₂

end

/-! ## The answer under its new names -/

section

variable {table : Nat → ExtSocketDescriptor} {sets : FdSets} {m : SelectMapping}
  {answer : UpdateConditionType → FdSet} {met : Fd → Prop}

/-- A descriptor the system reports is that of one descriptor of the set. -/
theorem SelectMapping.Covers.reported (hm : m.Covers table sets met) {t : UpdateConditionType} {fd : Fd}
    (h : fd ∈ m.fds t) :
    ∃ i, met i ∧ i ∈ sets.members t ∧ table i = .system (fd : Fd) ∧ m.reverseMapping fd = some i ∧
      (fd : Nat) ≤ m.maxFD := by
  obtain ⟨i, hi, hmem, htd⟩ := (hm.mem_fds t fd).mp h
  exact ⟨i, hi, hmem, htd, hm.reverse fd i hi ⟨t, hmem⟩ htd, hm.below fd i hi ⟨t, hmem⟩ htd⟩

@[simp] theorem isSome_clearedSets (t : UpdateConditionType) :
    (clearedSets table sets m t).isSome = (sets t).isSome := by
  simp [clearedSets]

theorem mem_fakeWrites (hm : m.Covers table sets met) (hall : ∀ i, sets.Requested i → met i) {i : Fd} :
    i ∈ fakeWrites table sets m ↔ i ∈ sets.members .write ∧ isUDPLike table i := by
  unfold fakeWrites
  split
  · simp
  · rename_i hfake
    simp only [Finset.notMem_empty, false_iff, not_and]
    intro hmem hudp
    exact hfake (hm.fake.mpr ⟨i, hall i ⟨.write, hmem⟩, ⟨.write, hmem⟩, hudp⟩)

theorem mem_fakeWrites_imp {i : Fd} (h : i ∈ fakeWrites table sets m) :
    i ∈ sets.members .write ∧ isUDPLike table i := by
  unfold fakeWrites at h
  split at h
  · simpa using h
  · simp at h

theorem mem_clearedSets {t : UpdateConditionType} {i : Fd} :
    i ∈ (clearedSets table sets m).members t ↔ t = .write ∧ i ∈ fakeWrites table sets m := by
  unfold FdSets.members clearedSets
  cases hs : sets t with
  | none =>
    simp only [Option.map_none, Option.getD_none, Finset.notMem_empty, false_iff, not_and]
    rintro rfl h
    have hmem := (mem_fakeWrites_imp h).1
    simp [FdSets.members, hs] at hmem
  | some s =>
    by_cases ht : t = .write
    · simp [ht]
    · simp [ht]

/-- The sets that `select_wrapper` leaves: the descriptors behind those reported, and the fake writes. -/
theorem clearedSets_gains (hm : m.Covers table sets met) (hanswer : ∀ t, answer t ⊆ m.fds t) :
    ∃ out, (descriptorsBelow (m.maxFD + 1)).foldlM (m.markAll answer) (clearedSets table sets m) = some out ∧
      (∀ t, (out t).isSome = (sets t).isSome) ∧
      ∀ t i, i ∈ out.members t ↔
        (t = .write ∧ i ∈ fakeWrites table sets m) ∨ ∃ fd ∈ answer t, m.reverseMapping fd = some i := by
  obtain ⟨out, hout, hsome, hmem⟩ := m.markList_gains answer (clearedSets table sets m)
    (descriptorsBelow (m.maxFD + 1)) fun fd _ t hfd => by
      obtain ⟨i, -, hi, -, hrev, -⟩ := hm.reported (hanswer t hfd)
      exact ⟨by simp [hrev], by simpa using FdSets.isSome_of_mem hi⟩
  refine ⟨out, hout, fun t => by rw [hsome, isSome_clearedSets], fun t i => ?_⟩
  rw [hmem, mem_clearedSets]
  constructor
  · rintro (h | ⟨fd, -, hfd, hrev⟩)
    · exact .inl h
    · exact .inr ⟨fd, hfd, hrev⟩
  · rintro (h | ⟨fd, hfd, hrev⟩)
    · exact .inl h
    · obtain ⟨-, -, -, -, -, hle⟩ := hm.reported (hanswer t hfd)
      exact .inr ⟨fd, mem_descriptorsBelow.mpr (Nat.lt_succ_of_le hle), hfd, hrev⟩

/-- Each descriptor reported stands for one number, and none of these is a fake write. -/
theorem card_members_out (hm : m.Covers table sets met) (hanswer : ∀ t, answer t ⊆ m.fds t) {out : FdSets}
    (hout : ∀ t i, i ∈ out.members t ↔
      (t = .write ∧ i ∈ fakeWrites table sets m) ∨ ∃ fd ∈ answer t, m.reverseMapping fd = some i)
    (t : UpdateConditionType) :
    (out.members t).card = (answer t).card + if t = .write then (fakeWrites table sets m).card else 0 := by
  have hsplit : out.members t =
      (answer t).image (fun fd => (m.reverseMapping fd).getD fd) ∪
        if t = .write then fakeWrites table sets m else ∅ := by
    ext i
    rw [hout, Finset.mem_union, Finset.mem_image, or_comm]
    refine or_congr ⟨?_, ?_⟩ ?_
    · rintro ⟨fd, hfd, hrev⟩
      exact ⟨fd, hfd, by simp [hrev]⟩
    · rintro ⟨fd, hfd, hi⟩
      obtain ⟨j, -, -, -, hrev, -⟩ := hm.reported (hanswer t hfd)
      rw [hrev, Option.getD_some] at hi
      exact ⟨fd, hfd, hi ▸ hrev⟩
    · by_cases ht : t = .write
      · simp [ht]
      · simp [ht]
  have hinjective : Set.InjOn (fun fd => (m.reverseMapping fd).getD fd) (answer t) := by
    intro fd hfd fd' hfd' heq
    obtain ⟨i, -, -, htd, hrev, -⟩ := hm.reported (hanswer t hfd)
    obtain ⟨i', -, -, htd', hrev', -⟩ := hm.reported (hanswer t hfd')
    simp only [hrev, hrev', Option.getD_some] at heq
    subst heq
    exact system_unique htd' htd
  have hdisjoint : Disjoint ((answer t).image fun fd => (m.reverseMapping fd).getD fd)
      (if t = .write then fakeWrites table sets m else ∅) := by
    rw [Finset.disjoint_left]
    intro i hi hfake
    obtain ⟨fd, hfd, rfl⟩ := Finset.mem_image.mp hi
    obtain ⟨j, -, -, htd, hrev, -⟩ := hm.reported (hanswer t hfd)
    split at hfake
    · have hudp := (mem_fakeWrites_imp hfake).2
      simp [hrev, isUDPLike, htd] at hudp
    · simp at hfake
  rw [hsplit, Finset.card_union_of_disjoint hdisjoint, Finset.card_image_of_injOn hinjective]
  split <;> simp

theorem bits_out (hm : m.Covers table sets met) (hanswer : ∀ t, answer t ⊆ m.fds t) {out : FdSets}
    (hout : ∀ t i, i ∈ out.members t ↔
      (t = .write ∧ i ∈ fakeWrites table sets m) ∨ ∃ fd ∈ answer t, m.reverseMapping fd = some i) :
    out.bits = ∑ t, (answer t).card + (fakeWrites table sets m).card := by
  unfold FdSets.bits
  rw [Finset.sum_congr rfl fun t _ => card_members_out hm hanswer hout t, Finset.sum_add_distrib]
  simp

/-- What `select_wrapper` asks the system: the descriptors behind those of the sets it has met. -/
structure AsksFor (table : Nat → ExtSocketDescriptor) (sets : FdSets) (met : Fd → Prop) (n : Int)
    (fds : UpdateConditionType → FdSet) : Prop where
  mem_fds : ∀ t fd, fd ∈ fds t ↔ ∃ i, met i ∧ i ∈ sets.members t ∧ table i = .system (fd : Fd)
  below : ∀ t, ∀ fd ∈ fds t, ((fd : Nat) : Int) < n

/-- One call of the system's `select`, whose answer is counted and translated. -/
theorem select_wrapper_asks {select : SystemSelect} (hselect : select.Documented) (hmap : Mappable table sets)
    (n : Int) (timeout : Option Timeval) :
    ∃ k fds limit m r out, select_wrapper table sets select n timeout = some (r, out) ∧
      m.Covers table sets (fun i => (i : Nat) < (n % 2 ^ 32).toNat) ∧
      AsksFor table sets (fun i => (i : Nat) < (n % 2 ^ 32).toNat) k fds ∧
      ((select k fds limit).1 < 0 → r = (select k fds limit).1 ∧ out = sets) ∧
      (0 ≤ (select k fds limit).1 → r = out.bits ∧ (∀ t, (out t).isSome = (sets t).isSome) ∧
        ∀ t i, i ∈ out.members t ↔ (t = .write ∧ i ∈ fakeWrites table sets m) ∨
          ∃ fd, fd ∈ (select k fds limit).2 t ∧ (i : Nat) < (n % 2 ^ 32).toNat ∧ i ∈ sets.members t ∧
            table i = .system (fd : Fd)) := by
  obtain ⟨m, hloop, hm⟩ := SelectMapping.covers_start.addAll hmap (descriptorsBelow (n % 2 ^ 32).toNat)
  simp only [List.not_mem_nil, mem_descriptorsBelow, false_or] at hm
  have hasks : AsksFor table sets (fun i => (i : Nat) < (n % 2 ^ 32).toNat) (m.maxFD + 1) m.fds := by
    refine ⟨hm.mem_fds, fun t fd hfd => ?_⟩
    obtain ⟨-, -, -, -, -, hle⟩ := hm.reported hfd
    omega
  obtain ⟨limit, hrun⟩ : ∃ limit, select_wrapper table sets select n timeout =
      m.finish table sets (select (m.maxFD + 1) m.fds limit) := by
    refine ⟨if m.fakeUDPWrite then some { sec := 0, usec := 0 } else timeout, ?_⟩
    simp only [select_wrapper, hloop, Option.bind_eq_bind, Option.bind_some]
  unfold SelectMapping.finish at hrun
  by_cases hneg : (select (m.maxFD + 1) m.fds limit).1 < 0
  · rw [if_pos hneg] at hrun
    exact ⟨_, m.fds, limit, m, _, _, hrun, hm, hasks, fun _ => ⟨rfl, rfl⟩, fun h => by omega⟩
  · obtain ⟨hanswer, hcount⟩ := hselect (m.maxFD + 1) m.fds limit (by omega)
    obtain ⟨out, hout, hsome, hmem⟩ := clearedSets_gains hm hanswer
    rw [if_neg hneg, hout, Option.map_some] at hrun
    refine ⟨_, m.fds, limit, m, _, out, hrun, hm, hasks, fun h => (hneg h).elim, fun _ => ⟨?_, hsome, fun t i => ?_⟩⟩
    · rw [bits_out hm hanswer hmem, hcount]
      push_cast
      rfl
    · rw [hmem]
      refine or_congr Iff.rfl ⟨?_, ?_⟩
      · rintro ⟨fd, hfd, hrev⟩
        obtain ⟨j, hj, hjmem, htd, hrev', -⟩ := hm.reported (hanswer t hfd)
        obtain rfl : j = i := Option.some.inj (hrev'.symm.trans hrev)
        exact ⟨fd, hfd, hj, hjmem, htd⟩
      · rintro ⟨fd, hfd, hi, himem, htd⟩
        exact ⟨fd, hfd, hm.reverse fd i hi ⟨t, himem⟩ htd⟩

/-- `select_wrapper` is `select` under the numbers of the table: it asks for the system descriptors
behind those of each set, and after an answer reports and counts the descriptors answered for and,
in the set for writing, the UDP-like ones. -/
def Renames (table : Nat → ExtSocketDescriptor) (sets : FdSets) (select : SystemSelect) (n : Int)
    (timeout : Option Timeval) : Prop :=
  ∃ k fds limit r out, select_wrapper table sets select n timeout = some (r, out) ∧
    AsksFor table sets (fun _ => True) k fds ∧
    (0 ≤ (select k fds limit).1 →
      r = out.bits ∧ ∀ t, (out t).isSome = (sets t).isSome ∧
        ∀ i, i ∈ out.members t ↔ i ∈ sets.members t ∧
          ((∃ fd : Fd, table i = .system (fd : Fd) ∧ fd ∈ (select k fds limit).2 t) ∨
            t = .write ∧ isUDPLike table i))

/-- Two system descriptors whose numbers cross those of the system, and an unbound SCTP socket. -/
def crossedTable : Nat → ExtSocketDescriptor
  | 3 => .system 5
  | 4 => .system 3
  | 5 => .sctp { domain := .inet, type := .dgram, sctpSocketPtr := some 0 }
  | _ => .invalid

def crossedSets : FdSets
  | .read => some {3, 4}
  | .write => some {4, 5}
  | .except => none

/-- A system on which everything is ready. -/
def allReady : SystemSelect := fun _ fds _ => ((∑ t, (fds t).card : Nat), fds)

theorem requested_crossedSets {i : Fd} (h : crossedSets.Requested i) : i = 3 ∨ i = 4 ∨ i = 5 := by
  obtain ⟨t, h⟩ := h
  cases t <;> simp [FdSets.members, crossedSets] at h <;> tauto

theorem mappable_crossedSets : Mappable crossedTable crossedSets where
  small i id hi hid := by
    obtain rfl | rfl | rfl := requested_crossedSets hi
    · exact ⟨5, (ExtSocketDescriptor.system.inj hid).symm⟩
    · exact ⟨3, (ExtSocketDescriptor.system.inj hid).symm⟩
    · cases hid
  injective i j id hi hj hid hid' := by
    obtain rfl | rfl | rfl := requested_crossedSets hi <;> obtain rfl | rfl | rfl := requested_crossedSets hj <;>
      cases hid <;> cases hid' <;> rfl

end

end SocketApi
