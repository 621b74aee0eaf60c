import SocketApi.Lib.Runs
import SocketApi.Select.Results
import Mathlib.Data.Fintype.BigOperators

/-!
# When the result sets of select are right

The sets are right when they are subsets of those asked for and the result counts their bits.
Conditions always do their part. A system descriptor does so if its events belong to one set at
most, and to one it is in; a descriptor from `n` on stays in its set without being counted.
-/

namespace SocketApi

open Effect

/-- `ext_select` returns subsets of its sets, and the number of bits in them. -/
structure SelectedRightly (sets : FdSets) (r : Int) (out : FdSets) : Prop where
  subset : ∀ t, out.members t ⊆ sets.members t
  count : r = out.bits

/-! ## Events of a descriptor -/

/-- The events the callbacks have reported for a system descriptor. -/
def SelectEnvironment.received (S : SelectEnvironment) (i : Fd) (systemSocketID : Int) : Events :=
  S.callbacks.foldl
    (fun events c => if i = c.1 ∧ systemSocketID ≠ S.breakPipe then events ||| c.2 else events) 0

/-- The events of `i` set its bit in a set. -/
def SelectEnvironment.Reports (S : SelectEnvironment) (table : Nat → ExtSocketDescriptor) (sets : FdSets)
    (i : Fd) (t : UpdateConditionType) : Prop :=
  ∃ id, table i = .system id ∧ (sets t).isSome ∧ anyEvent (S.received i id) t.reported

/-- All descriptors are below `n`, and each system descriptor has events for one of its sets at most. -/
structure SelectEnvironment.Separate (S : SelectEnvironment) (table : Nat → ExtSocketDescriptor) (sets : FdSets)
    (n : Int) : Prop where
  below : ∀ i : Fd, sets.Requested i → (i : Nat) < n
  asked : ∀ i t, sets.Requested i → S.Reports table sets i t → i ∈ sets.members t
  single : ∀ i t t', sets.Requested i → S.Reports table sets i t → S.Reports table sets i t' → t = t'

section

variable {S : SelectEnvironment} {table : Nat → ExtSocketDescriptor} {sets : FdSets} {n : Int}

/-- What the callbacks leave in a notification besides its events. -/
theorem notified_fd (u : UserCallback) : (S.notified u).fd = u.fd ∧
    (S.notified u).notification.fileDescriptor = u.notification.fileDescriptor ∧
    (S.notified u).notification.events = S.callbacks.foldl (fun events c =>
      if u.fd = c.1 ∧ u.notification.fileDescriptor ≠ S.breakPipe then events ||| c.2 else events)
      u.notification.events := by
  unfold SelectEnvironment.notified
  induction S.callbacks generalizing u with
  | nil => exact ⟨rfl, rfl, rfl⟩
  | cons c callbacks ih =>
    rw [List.foldl_cons, List.foldl_cons]
    obtain ⟨hfd, hid, hevents⟩ := ih (u.after S.breakPipe c)
    rw [hfd, hid, hevents]
    unfold UserCallback.after
    split
    · exact ⟨rfl, rfl, rfl⟩
    · exact ⟨rfl, rfl, rfl⟩

/-! ## The conditions and the callbacks of a call -/

theorem mem_wantedConditions {i : Fd} {p : Σ _ : UpdateConditionType, Fd} :
    p ∈ wantedConditions table sets i ↔ p.2 = i ∧ (∃ desc, table i = .sctp desc) ∧ i ∈ sets.members p.1 := by
  obtain ⟨t, j⟩ := p
  unfold wantedConditions
  split
  · rename_i desc htd
    simp only [List.mem_map, List.mem_filter, mem_updateConditionTypes, decide_eq_true_eq, true_and, htd]
    constructor
    · rintro ⟨t', hmem, heq⟩
      cases heq
      exact ⟨rfl, ⟨desc, rfl⟩, hmem⟩
    · rintro ⟨rfl, -, hmem⟩
      exact ⟨t, hmem, rfl⟩
  · rename_i hnot
    simp only [List.not_mem_nil, false_iff, not_and]
    rintro - ⟨desc, htd⟩
    exact (hnot desc htd).elim

theorem mem_wantedBelow {p : Σ _ : UpdateConditionType, Fd} :
    p ∈ wantedBelow table sets n ↔
      (p.2 : Nat) < n.toNat ∧ (∃ desc, table p.2 = .sctp desc) ∧ p.2 ∈ sets.members p.1 := by
  simp only [wantedBelow, List.mem_flatMap, mem_descriptorsBelow, mem_wantedConditions]
  constructor
  · rintro ⟨i, hi, rfl, hrest⟩
    exact ⟨hi, hrest⟩
  · rintro ⟨hi, hrest⟩
    exact ⟨p.2, hi, rfl, hrest⟩

theorem nodup_wantedBelow : (wantedBelow table sets n).Nodup := by
  refine List.nodup_flatMap.mpr ⟨fun i _ => ?_, ?_⟩
  · unfold wantedConditions
    split
    · exact (List.Nodup.filter _ (by decide)).map fun t t' h => by cases h; rfl
    · exact List.nodup_nil
  · refine (nodup_descriptorsBelow n.toNat).imp fun {i j} hne => ?_
    rw [Function.onFun, List.disjoint_left]
    intro p hp hp'
    exact hne ((mem_wantedConditions.mp hp).1.symm.trans (mem_wantedConditions.mp hp').1)

theorem wantedCallback_eq_some {i : Fd} {u : UserCallback} :
    wantedCallback table sets i = some u ↔ sets.Requested i ∧ ∃ id, table i = .system id ∧
      u = { fd := i, notification := { fileDescriptor := id, eventMask := sets.eventMask i } } := by
  unfold wantedCallback
  split
  · rename_i id htd
    by_cases hreq : sets.Requested i
    · simp [hreq, htd, eq_comm]
    · simp [hreq]
  · rename_i hnot
    simp only [reduceCtorEq, false_iff, not_and, not_exists]
    intro _ id htd _
    exact hnot id htd

theorem notifiedBelow_events {i : Fd} {events : Events} :
    (∃ u ∈ S.notifiedBelow table sets n, u.fd = i ∧ u.notification.events = events) ↔
      (i : Nat) < n.toNat ∧ sets.Requested i ∧ ∃ id, table i = .system id ∧ S.received i id = events := by
  simp only [SelectEnvironment.notifiedBelow, List.mem_map, List.mem_filterMap, mem_descriptorsBelow,
    wantedCallback_eq_some]
  constructor
  · rintro ⟨_, ⟨u, ⟨j, hj, hreq, id, htd, rfl⟩, rfl⟩, hfd, hevents⟩
    rw [(notified_fd _).1] at hfd
    rw [(notified_fd _).2.2] at hevents
    cases hfd
    exact ⟨hj, hreq, id, htd, hevents⟩
  · rintro ⟨hi, hreq, id, htd, hevents⟩
    exact ⟨_, ⟨_, ⟨i, hi, hreq, id, htd, rfl⟩, rfl⟩, (notified_fd _).1, (notified_fd _).2.2.trans hevents⟩

theorem mem_notifiedBelow_fds {i : Fd} :
    i ∈ (S.notifiedBelow table sets n).map (·.fd) ↔
      (i : Nat) < n.toNat ∧ sets.Requested i ∧ ∃ id, table i = .system id := by
  rw [List.mem_map]
  constructor
  · rintro ⟨u, hu, hfd⟩
    obtain ⟨hi, hreq, id, htd, -⟩ := notifiedBelow_events.mp ⟨u, hu, hfd, rfl⟩
    exact ⟨hi, hreq, id, htd⟩
  · rintro ⟨hi, hreq, id, htd⟩
    obtain ⟨u, hu, hfd, -⟩ := notifiedBelow_events.mpr ⟨hi, hreq, id, htd, rfl⟩
    exact ⟨u, hu, hfd⟩

theorem reports_notifiedBelow {i : Fd} {t : UpdateConditionType} :
    (∃ u ∈ S.notifiedBelow table sets n, u.fd = i ∧ u.reports sets t) ↔
      (i : Nat) < n.toNat ∧ sets.Requested i ∧ S.Reports table sets i t := by
  simp only [UserCallback.reports, Bool.and_eq_true]
  constructor
  · rintro ⟨u, hu, hfd, hsome, hany⟩
    obtain ⟨hi, hreq, id, htd, hevents⟩ := notifiedBelow_events.mp ⟨u, hu, hfd, rfl⟩
    exact ⟨hi, hreq, id, htd, hsome, hevents ▸ hany⟩
  · rintro ⟨hi, hreq, id, htd, hsome, hany⟩
    obtain ⟨u, hu, hfd, hevents⟩ := notifiedBelow_events.mpr ⟨hi, hreq, id, htd, rfl⟩
    exact ⟨u, hu, hfd, hsome, hevents ▸ hany⟩

theorem nodup_notifiedBelow : ((S.notifiedBelow table sets n).map (·.fd)).Nodup := by
  have hfds : (S.notifiedBelow table sets n).map (·.fd) =
      ((descriptorsBelow n.toNat).filterMap (wantedCallback table sets)).map (·.fd) := by
    simp [SelectEnvironment.notifiedBelow, (notified_fd _).1]
  rw [hfds, List.map_filterMap]
  refine (nodup_descriptorsBelow n.toNat).filterMap fun i j fd hi hj => ?_
  simp only [Option.mem_def, Option.map_eq_some_iff, wantedCallback_eq_some] at hi hj
  obtain ⟨_, ⟨-, id, -, rfl⟩, rfl⟩ := hi
  obtain ⟨_, ⟨-, id', -, rfl⟩, hfd⟩ := hj
  exact hfd.symm

/-! ## The outcome -/

theorem reports_congr {sets sets' : FdSets} (h : ∀ t, (sets' t).isSome = (sets t).isSome) (u : UserCallback) :
    u.reports sets' = u.reports sets := by
  funext t
  simp [UserCallback.reports, h]

/-- What the callbacks add to the sets, and how many of them do. -/
theorem reportCallbacks_spec (sets : FdSets) (callbacks : List UserCallback) {r : Nat × FdSets}
    (hsome : ∀ t, (r.2 t).isSome = (sets t).isSome) :
    (callbacks.foldl reportCallback r).1 = r.1 + (callbacks.filter fun u => ∃ t, u.reports sets t).length ∧
      ∀ t j, j ∈ (callbacks.foldl reportCallback r).2.members t ↔
        j ∈ r.2.members t ∨ ∃ u ∈ callbacks, u.fd = j ∧ u.reports sets t := by
  induction callbacks generalizing r with
  | nil => simp
  | cons u callbacks ih =>
    obtain ⟨hcount, hmem⟩ := ih (r := reportCallback r u) fun t => by simp [reportCallback, hsome]
    rw [List.foldl_cons]
    constructor
    · rw [hcount]
      simp only [reportCallback, reports_congr hsome]
      by_cases h : ∃ t, u.reports sets t
      · obtain ⟨t, ht⟩ := h
        have hne : updateConditionTypes.filter (u.reports sets) ≠ [] :=
          List.ne_nil_of_mem (List.mem_filter.mpr ⟨mem_updateConditionTypes t, ht⟩)
        rw [if_neg hne, List.filter_cons_of_pos (by simpa using ⟨t, ht⟩), List.length_cons]
        omega
      · have heq : updateConditionTypes.filter (u.reports sets) = [] :=
          List.filter_eq_nil_iff.mpr fun t _ ht => h ⟨t, ht⟩
        rw [if_pos heq, List.filter_cons_of_neg (by simpa using h)]
    · intro t j
      rw [hmem]
      simp only [reportCallback, reports_congr hsome, FdSets.mem_markAll, hsome, List.mem_cons, exists_eq_or_imp,
        or_assoc]
      refine or_congr Iff.rfl (or_congr ⟨?_, ?_⟩ Iff.rfl)
      · rintro ⟨hpair, -⟩
        obtain ⟨t', ht', heq⟩ := List.mem_map.mp hpair
        cases heq
        exact ⟨rfl, (List.mem_filter.mp ht').2⟩
      · rintro ⟨rfl, ht⟩
        refine ⟨List.mem_map.mpr ⟨t, List.mem_filter.mpr ⟨mem_updateConditionTypes t, ht⟩, rfl⟩, ?_⟩
        unfold UserCallback.reports at ht
        exact (Bool.and_eq_true _ _ ▸ ht).1

variable {fired : List (Σ _ : UpdateConditionType, Fd)}

/-- The bits of the outcome: those of descriptors that were not collected, those of conditions and
those of callbacks. -/
theorem mem_selectOutcome (hfired : fired.Sublist (wantedBelow table sets n))
    (hvalid : ∀ i : Fd, (i : Nat) < n.toNat → sets.Requested i → table i ≠ .invalid)
    {t : UpdateConditionType} {i : Fd} :
    i ∈ (selectOutcome sets (wantedBelow table sets n) fired (S.notifiedBelow table sets n)).2.members t ↔
      i ∈ sets.members t ∧ ¬ (i : Nat) < n.toNat ∨ ⟨t, i⟩ ∈ fired ∨
        (i : Nat) < n.toNat ∧ sets.Requested i ∧ S.Reports table sets i t := by
  have hspec := reportCallbacks_spec sets (S.notifiedBelow table sets n)
    (r := (fired.length, ((sets.clearAll ((wantedBelow table sets n).map (·.2))).markAll fired).clearAll
      ((S.notifiedBelow table sets n).map (·.fd)))) (by simp)
  have hwanted {p : Σ _ : UpdateConditionType, Fd} (hp : p ∈ fired) := mem_wantedBelow.mp (hfired.subset hp)
  rw [selectOutcome, hspec.2, reports_notifiedBelow, ← or_assoc]
  refine or_congr ?_ Iff.rfl
  simp only [FdSets.mem_clearAll, FdSets.mem_markAll, FdSets.isSome_clearAll, mem_notifiedBelow_fds]
  constructor
  · rintro ⟨hnot, ⟨hnone, hmem⟩ | ⟨hp, -⟩⟩
    · refine .inl ⟨hmem, fun hi => ?_⟩
      cases htd : table i with
      | invalid => exact hvalid i hi ⟨t, hmem⟩ htd
      | system id => exact hnot ⟨hi, ⟨t, hmem⟩, id, htd⟩
      | sctp desc => exact hnone (List.mem_map.mpr ⟨⟨t, i⟩, mem_wantedBelow.mpr ⟨hi, ⟨desc, htd⟩, hmem⟩, rfl⟩)
    · exact .inr hp
  · rintro (⟨hmem, hi⟩ | hp)
    · refine ⟨fun h => hi h.1, .inl ⟨fun h => ?_, hmem⟩⟩
      obtain ⟨p, hp, rfl⟩ := List.mem_map.mp h
      exact hi (mem_wantedBelow.mp hp).1
    · obtain ⟨-, ⟨desc, htd⟩, hmem⟩ := hwanted hp
      refine ⟨?_, .inr ⟨hp, FdSets.isSome_of_mem hmem⟩⟩
      rintro ⟨-, -, id, htd'⟩
      exact ExtSocketDescriptor.noConfusion (htd.symm.trans htd')

/-- The bits that the callbacks set. -/
noncomputable def SelectEnvironment.marks (S : SelectEnvironment) (table : Nat → ExtSocketDescriptor) (sets : FdSets)
    (n : Int) : Finset (Σ _ : UpdateConditionType, Fd) :=
  open Classical in Finset.univ.filter fun p =>
    (p.2 : Nat) < n.toNat ∧ sets.Requested p.2 ∧ S.Reports table sets p.2 p.1

theorem mem_marks {p : Σ _ : UpdateConditionType, Fd} :
    p ∈ S.marks table sets n ↔ (p.2 : Nat) < n.toNat ∧ sets.Requested p.2 ∧ S.Reports table sets p.2 p.1 := by
  simp [SelectEnvironment.marks]

/-- Entries with distinct keys are as many as the keys. -/
theorem length_filter_of_nodup {α β : Type} [DecidableEq β] {key : α → β} {list : List α} (h : (list.map key).Nodup)
    (p : α → Bool) {keys : Finset β} (hkeys : ∀ b, b ∈ keys ↔ ∃ a ∈ list, key a = b ∧ p a) :
    (list.filter p).length = keys.card := by
  have hnodup : ((list.filter p).map key).Nodup := (List.filter_sublist.map _).nodup h
  have hset : ((list.filter p).map key).toFinset = keys := by
    ext b
    rw [List.mem_toFinset, List.mem_map, hkeys]
    constructor
    · rintro ⟨a, ha, hb⟩
      exact ⟨a, (List.mem_filter.mp ha).1, hb, (List.mem_filter.mp ha).2⟩
    · rintro ⟨a, ha, hb, hp⟩
      exact ⟨a, List.mem_filter.mpr ⟨ha, hp⟩, hb⟩
  rw [← hset, List.toFinset_card_of_nodup hnodup, List.length_map]

/-- Each callback counts once. -/
theorem card_changed :
    ((S.notifiedBelow table sets n).filter fun u => ∃ t, u.reports sets t).length =
      ((S.marks table sets n).image (·.2)).card := by
  refine length_filter_of_nodup nodup_notifiedBelow _ fun i => ?_
  simp only [Finset.mem_image, mem_marks, decide_eq_true_eq]
  constructor
  · rintro ⟨⟨t, j⟩, hmark, rfl⟩
    obtain ⟨u, hu, hfd, ht⟩ := reports_notifiedBelow.mpr hmark
    exact ⟨u, hu, hfd, t, ht⟩
  · rintro ⟨u, hu, hfd, t, ht⟩
    exact ⟨⟨t, i⟩, reports_notifiedBelow.mp ⟨u, hu, hfd, ht⟩, rfl⟩

theorem selectOutcome_count (S : SelectEnvironment) (table : Nat → ExtSocketDescriptor) (sets : FdSets) (n : Int)
    (fired : List (Σ _ : UpdateConditionType, Fd)) :
    (selectOutcome sets (wantedBelow table sets n) fired (S.notifiedBelow table sets n)).1 =
      fired.length + ((S.marks table sets n).image (·.2)).card := by
  have hspec := reportCallbacks_spec sets (S.notifiedBelow table sets n)
    (r := (fired.length, ((sets.clearAll ((wantedBelow table sets n).map (·.2))).markAll fired).clearAll
      ((S.notifiedBelow table sets n).map (·.fd)))) (by simp)
  rw [selectOutcome, hspec.1, card_changed]

theorem selectOutcome_bits (hfired : fired.Sublist (wantedBelow table sets n))
    (hvalid : ∀ i : Fd, (i : Nat) < n.toNat → sets.Requested i → table i ≠ .invalid) :
    (selectOutcome sets (wantedBelow table sets n) fired (S.notifiedBelow table sets n)).2.bits =
      (sets.pairs.filter fun p => ¬ (p.2 : Nat) < n.toNat).card + fired.length + (S.marks table sets n).card := by
  have hwanted {p : Σ _ : UpdateConditionType, Fd} (hp : p ∈ fired) := mem_wantedBelow.mp (hfired.subset hp)
  have hsplit : (selectOutcome sets (wantedBelow table sets n) fired (S.notifiedBelow table sets n)).2.pairs =
      ((sets.pairs.filter fun p => ¬ (p.2 : Nat) < n.toNat) ∪ fired.toFinset) ∪ S.marks table sets n := by
    ext p
    rw [FdSets.mem_pairs, mem_selectOutcome hfired hvalid]
    simp only [Finset.mem_union, Finset.mem_filter, FdSets.mem_pairs, List.mem_toFinset, mem_marks, or_assoc]
  have hfirst : Disjoint (sets.pairs.filter fun p => ¬ (p.2 : Nat) < n.toNat) fired.toFinset := by
    rw [Finset.disjoint_left]
    intro p hp hp'
    exact (Finset.mem_filter.mp hp).2 (hwanted (List.mem_toFinset.mp hp')).1
  have hsecond :
      Disjoint ((sets.pairs.filter fun p => ¬ (p.2 : Nat) < n.toNat) ∪ fired.toFinset) (S.marks table sets n) := by
    rw [Finset.disjoint_left]
    intro p hp hmark
    obtain ⟨hi, -, id, htd, -⟩ := mem_marks.mp hmark
    obtain hp | hp := Finset.mem_union.mp hp
    · exact (Finset.mem_filter.mp hp).2 hi
    · obtain ⟨-, ⟨desc, htd'⟩, -⟩ := hwanted (List.mem_toFinset.mp hp)
      exact ExtSocketDescriptor.noConfusion (htd.symm.trans htd')
  rw [FdSets.bits_eq_card, hsplit, Finset.card_union_of_disjoint hsecond, Finset.card_union_of_disjoint hfirst,
    List.toFinset_card_of_nodup (hfired.nodup nodup_wantedBelow)]

/-- The outcome is right exactly if the events of the system descriptors are separate. -/
theorem selectOutcome_rightly (hfired : fired.Sublist (wantedBelow table sets n))
    (hvalid : ∀ i : Fd, (i : Nat) < n.toNat → sets.Requested i → table i ≠ .invalid) :
    SelectedRightly sets
        (selectOutcome sets (wantedBelow table sets n) fired (S.notifiedBelow table sets n)).1
        (selectOutcome sets (wantedBelow table sets n) fired (S.notifiedBelow table sets n)).2 ↔
      S.Separate table sets n := by
  have hcount := selectOutcome_count S table sets n fired
  have hbits := selectOutcome_bits (S := S) hfired hvalid
  have himage : ((S.marks table sets n).image (·.2)).card ≤ (S.marks table sets n).card := Finset.card_image_le
  constructor
  · rintro ⟨hsubset, hr⟩
    rw [hcount, hbits] at hr
    have hbelow : (sets.pairs.filter fun p => ¬ (p.2 : Nat) < n.toNat) = ∅ := by
      rw [← Finset.card_eq_zero]
      omega
    have hcard : ((S.marks table sets n).image (·.2)).card = (S.marks table sets n).card := by omega
    have hinjective := Finset.card_image_iff.mp hcard
    have hlt (i : Fd) (hreq : sets.Requested i) : (i : Nat) < n.toNat := by
      obtain ⟨t, ht⟩ := hreq
      by_contra hnot
      have hmem : (⟨t, i⟩ : Σ _ : UpdateConditionType, Fd) ∈ sets.pairs.filter fun p => ¬ (p.2 : Nat) < n.toNat :=
        Finset.mem_filter.mpr ⟨FdSets.mem_pairs.mpr ht, hnot⟩
      rw [hbelow] at hmem
      exact Finset.notMem_empty _ hmem
    constructor
    · intro i hreq
      have := hlt i hreq
      omega
    · intro i t hreq hrep
      exact hsubset t ((mem_selectOutcome hfired hvalid).mpr (.inr (.inr ⟨hlt i hreq, hreq, hrep⟩)))
    · intro i t t' hreq hrep hrep'
      have heq := hinjective (mem_marks.mpr ⟨hlt i hreq, hreq, hrep⟩ : (⟨t, i⟩ : Σ _ : UpdateConditionType, Fd) ∈ _)
        (mem_marks.mpr ⟨hlt i hreq, hreq, hrep'⟩ : (⟨t', i⟩ : Σ _ : UpdateConditionType, Fd) ∈ _) rfl
      cases heq
      rfl
  · rintro ⟨hbelow, hasked, hsingle⟩
    have hlt (i : Fd) (hreq : sets.Requested i) : (i : Nat) < n.toNat := by
      have := hbelow i hreq
      omega
    constructor
    · intro t i hi
      obtain ⟨hmem, -⟩ | hp | ⟨-, hreq, hrep⟩ := (mem_selectOutcome hfired hvalid).mp hi
      · exact hmem
      · exact (mem_wantedBelow.mp (hfired.subset hp)).2.2
      · exact hasked i t hreq hrep
    · have hempty : (sets.pairs.filter fun p => ¬ (p.2 : Nat) < n.toNat) = ∅ := by
        refine Finset.filter_eq_empty_iff.mpr fun p hp hnot => hnot (hlt p.2 ⟨p.1, FdSets.mem_pairs.mp hp⟩)
      have hinjective : Set.InjOn (fun p : Σ _ : UpdateConditionType, Fd => p.2) (S.marks table sets n) := by
        rintro ⟨t, i⟩ hp ⟨t', i'⟩ hp' heq
        obtain rfl : i = i' := heq
        obtain ⟨-, hreq, hrep⟩ := mem_marks.mp hp
        obtain ⟨-, -, hrep'⟩ := mem_marks.mp hp'
        rw [hsingle i t t' hreq hrep hrep']
      rw [hcount, hbits, hempty, Finset.card_image_of_injOn hinjective, Finset.card_empty, Nat.zero_add]

/-! ## Calls -/

/-- Without a running master the answer of the system is translated back. -/
theorem select_wrapper_rightly (hselect : S.select.Documented) (hmap : Mappable table sets) {timeout : Option Timeval}
    {r : Int} {out : FdSets} (h : select_wrapper table sets S.select n timeout = some (r, out)) (hr : 0 ≤ r) :
    SelectedRightly sets r out := by
  obtain ⟨k, fds, limit, m, r', out', hrun, -, -, hfailed, hanswer⟩ := select_wrapper_asks hselect hmap n timeout
  obtain ⟨rfl, rfl⟩ : r = r' ∧ out = out' := by simpa using Option.some.inj (h.symm.trans hrun)
  by_cases hneg : (S.select k fds limit).1 < 0
  · obtain ⟨rfl, -⟩ := hfailed hneg
    omega
  · obtain ⟨hbits, -, hmem⟩ := hanswer (Int.not_lt.mp hneg)
    refine ⟨fun t i hi => ?_, hbits⟩
    obtain ⟨rfl, hfake⟩ | ⟨fd, -, -, hmem, -⟩ := (hmem t i).mp hi
    · exact (mem_fakeWrites_imp hfake).1
    · exact hmem

end

variable {L : Sctplib} {E : Environment L} {S : SelectEnvironment} {sets out : FdSets} {n r : Int}
  {timeout : Option Timeval} {w w' : World L}

/-- A call that returns no error has collected no more conditions than fit. Its sets are right
exactly if the master is not running or the events of the system descriptors are separate. -/
theorem ext_select_rightly_iff (hselect : S.select.Documented)
    (hmap : S.running = false → Mappable w.shared.descriptors sets)
    (h : Runs (ext_select E S n sets timeout) w (r, out) w') (hr : 0 ≤ r) :
    (S.running = true → (wantedBelow w.shared.descriptors sets n).length ≤ MaxSockets) ∧
      (SelectedRightly sets r out ↔ (S.running = true → S.Separate w.shared.descriptors sets n)) := by
  cases hrunning : S.running with
  | true =>
    obtain ⟨hfits, hvalid, fired, hfired, hresult, hout⟩ :=
      (ext_select_outcome hrunning n sets timeout).of_ok h hr
    simp only at hresult hout
    refine ⟨fun _ => hfits, ?_⟩
    rw [hresult, hout, selectOutcome_rightly hfired hvalid]
    simp
  | false =>
    have hwrapper : select_wrapper w.shared.descriptors sets S.select n timeout = some (r, out) := by
      have hpost : Post (ext_select E S n sets timeout) w
          (fun a _ => select_wrapper w.shared.descriptors sets S.select n timeout = some a) (fun _ _ => True) := by
        unfold ext_select
        rw [if_neg (by simp [hrunning]), post_bind, post_shared]
        split
        · rename_i answer hanswer
          exact hanswer
        · trivial
      exact hpost.of_ok h
    have hright := select_wrapper_rightly hselect (hmap hrunning) hwrapper hr
    simp [hright]

/-- A system descriptor that is watched for reading and writing, and errors of none. -/
def oneSystem : World Sctplib.small where
  shared := { stack := SmallStack.mk 0 0 [] [] [], descriptors := fun slot => if slot = 3 then .system 3 else .invalid }

def readAndWrite : FdSets
  | .read => some {3}
  | .write => some {3}
  | .except => some ∅

theorem requested_readAndWrite {i : Fd} (h : readAndWrite.Requested i) : i = 3 := by
  obtain ⟨t, h⟩ := h
  cases t with
  | read => exact Finset.mem_singleton.mp h
  | write => exact Finset.mem_singleton.mp h
  | except => exact (Finset.notMem_empty _ h).elim

theorem separate_reading :
    SelectEnvironment.Separate { callbacks := [(3, POLLIN)] } oneSystem.shared.descriptors readAndWrite 4 := by
  have hread {i : Fd} {t : UpdateConditionType} (hreq : readAndWrite.Requested i)
      (h : SelectEnvironment.Reports { callbacks := [(3, POLLIN)] } oneSystem.shared.descriptors readAndWrite i t) :
      i = 3 ∧ t = .read := by
    obtain rfl := requested_readAndWrite hreq
    obtain ⟨id, htd, -, hany⟩ := h
    obtain rfl : 3 = id := ExtSocketDescriptor.system.inj htd
    cases t with
    | read => exact ⟨rfl, rfl⟩
    | write => exact absurd hany (by decide)
    | except => exact absurd hany (by decide)
  constructor
  · intro i hreq
    obtain rfl := requested_readAndWrite hreq
    decide
  · intro i t hreq h
    obtain ⟨rfl, rfl⟩ := hread hreq h
    decide
  · intro i t t' hreq h h'
    exact (hread hreq h).2.trans (hread hreq h').2.symm

theorem ext_select_rightly_iff_reading :
    ∃ r out w', Runs (ext_select {} { callbacks := [(3, POLLIN)] } 4 readAndWrite none) oneSystem (r, out) w' ∧ r = 1 ∧
      SelectedRightly readAndWrite r out := by
  have h : Post (ext_select {} { callbacks := [(3, POLLIN)] } 4 readAndWrite none) oneSystem
      (fun a _ => a.1 = 1) (fun _ _ => False) := by
    decide
  obtain ⟨⟨r, out⟩, w', hrun, hr⟩ := h.exists_ok
  obtain rfl : r = 1 := hr
  have hselect : SystemSelect.Documented fun _ _ _ => (0, fun _ => ∅) := by
    intro _ _ _ _
    exact ⟨fun _ => Finset.empty_subset _, rfl⟩
  have hiff := (ext_select_rightly_iff hselect (fun h => Bool.noConfusion h) hrun (by decide)).2
  exact ⟨1, out, w', hrun, rfl, hiff.mpr fun _ => separate_reading⟩

/-- Input, output and an error nobody has asked for count once, and set three bits. -/
theorem ext_select_counts_once :
    ∃ r out w', Runs (ext_select {} { callbacks := [(3, POLLIN ||| POLLOUT ||| POLLERR)] } 4 readAndWrite none)
      oneSystem (r, out) w' ∧ 0 ≤ r ∧ ¬ (∀ t, out.members t ⊆ readAndWrite.members t) ∧ r ≠ out.bits := by
  have h : Post (ext_select {} { callbacks := [(3, POLLIN ||| POLLOUT ||| POLLERR)] } 4 readAndWrite none) oneSystem
      (fun a _ => a.1 = 1 ∧ a.2.bits = 3 ∧ 3 ∈ a.2.members .except) (fun _ _ => False) := by
    decide
  obtain ⟨⟨r, out⟩, w', hrun, hr, hbits, hmem⟩ := h.exists_ok
  simp only at hr hbits hmem
  refine ⟨r, out, w', hrun, by omega, fun hsubset => ?_, by omega⟩
  exact absurd (hsubset .except hmem) (by decide)

end SocketApi
