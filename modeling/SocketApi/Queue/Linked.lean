import SocketApi.Lib.Chain
import SocketApi.Notification

/-!
# The linked notification queue

`SCTPNotificationQueue` with its nodes in a heap, and the list it represents. `none` is
undefined behaviour: a pointer followed to a deleted node. It is also a loop that needs
more than `fuel` rounds.
-/

namespace SocketApi.Linked

abbrev Ptr := Nat

/-- An `SCTPNotification` with its `NextNotification`. -/
abbrev Node := Cell Ptr SCTPNotification
abbrev Heap := CellHeap Ptr SCTPNotification
abbrev Memory := Allocator Ptr SCTPNotification

structure Queue where
  heap : Heap
  first : Option Ptr := none
  last : Option Ptr := none
  /-- `cardinal Count`. -/
  count : Nat := 0

/-! ## The operations -/

namespace Queue

/-- `memory` is `none` where `new` gives no node. -/
def addNotification (q : Queue) (notification : Node) (memory : Option Memory) : Option (Bool × Queue) := do
  let some m := memory | return (false, q)
  let newNotification := m.place q.heap
  let heap := q.heap.insert newNotification { notification with next := none }
  let heap ← match q.last with
    | some last => do
      let node ← heap.lookup last
      pure (heap.insert last { node with next := some newNotification })
    | none => pure heap
  return (true, { heap, first := q.first.or (some newNotification), last := some newNotification,
                  count := (q.count + 1) % 2 ^ 32 })

def getNotification (q : Queue) : Option (Option Node) :=
  match q.first with
  | some first => do return some (← q.heap.lookup first)
  | none => some none

def updateNotification (q : Queue) (notification : Node) : Option Queue :=
  match q.first with
  | some first => do
    let next := (← q.heap.lookup first).next
    return { q with heap := q.heap.insert first { notification with next } }
  | none => some q

def dropNotification (q : Queue) : Option Queue :=
  match q.first with
  | some first => do
    let next := (← q.heap.lookup first).next
    return { heap := q.heap.erase first, first := next, last := if q.last = first then next else q.last,
             count := (q.count + (2 ^ 32 - 1)) % 2 ^ 32 }
  | none => some q

/-- The loop of `flush` from `notification`. -/
def deleteFrom : Nat → Heap → Option Ptr → Option Heap
  | _, heap, none => some heap
  | 0, _, some _ => none
  | fuel + 1, heap, some notification => do
    let next := (← heap.lookup notification).next
    deleteFrom fuel (heap.erase notification) next

def flush (q : Queue) (fuel : Nat) : Option Queue := do
  return { heap := ← deleteFrom fuel q.heap q.first }

/-- The loop of `hasData` from `notification`. -/
def findFrom (flags : NotificationFlags) (heap : Heap) : Nat → Option Ptr → Option Bool
  | _, none => some false
  | 0, some _ => none
  | fuel + 1, some notification => do
    let node ← heap.lookup notification
    if node.val.content.snType = .dataArrive ∨ flags.selects node.val.content.snType then return true
    else findFrom flags heap fuel node.next

def hasData (q : Queue) (flags : NotificationFlags) (fuel : Nat) : Option Bool :=
  findFrom flags q.heap fuel q.first

end Queue

/-! ## Sequences of operations -/

/-- `update` gets any copy of a node: whatever link was read with it. -/
inductive Op where
  | add (notification : Node) (memory : Option Memory)
  | get
  | update (notification : Node)
  | drop
  | flush
  | hasData (flags : NotificationFlags)

inductive Answer (α : Type) where
  | done
  | flag (b : Bool)
  | read (n : Option α)

def Answer.map {α β : Type} (f : α → β) : Answer α → Answer β
  | done => done
  | flag b => flag b
  | read n => read (n.map f)

def Op.exec (fuel : Nat) (q : Queue) : Op → Option (Answer Node × Queue)
  | add n memory => (q.addNotification n memory).map fun r => (.flag r.1, r.2)
  | get => q.getNotification.map fun n => (.read n, q)
  | update n => (q.updateNotification n).map (.done, ·)
  | drop => q.dropNotification.map (.done, ·)
  | flush => (q.flush fuel).map (.done, ·)
  | hasData flags => (q.hasData flags fuel).map fun b => (.flag b, q)

/-- The same operation on a list. -/
def Op.onList (l : SCTPNotificationQueue) : Op → Answer SCTPNotification × SCTPNotificationQueue
  | add n (some _) => (.flag true, l.addNotification n.val)
  | add _ none => (.flag false, l)
  | get => (.read l.getNotification, l)
  | update n => (.done, l.updateNotification n.val)
  | drop => (.done, l.dropNotification)
  | flush => (.done, [])
  | hasData flags => (.flag (l.hasData flags), l)

def run (fuel : Nat) : Queue → List Op → Option (List (Answer Node) × Queue)
  | q, [] => some ([], q)
  | q, op :: ops => do
    let (a, q) ← op.exec fuel q
    let (as, q) ← run fuel q ops
    return (a :: as, q)

def listRun : SCTPNotificationQueue → List Op → List (Answer SCTPNotification) × SCTPNotificationQueue
  | l, [] => ([], l)
  | l, op :: ops => ((op.onList l).1 :: (listRun (op.onList l).2 ops).1, (listRun (op.onList l).2 ops).2)

/-! ## The representation -/

/-- The nodes of the queue lie at `ps`, linked in this order, and hold `l`; all other memory
is as it was in `h₀`. -/
structure Represents (h₀ : Heap) (q : Queue) (ps : List Ptr) (l : SCTPNotificationQueue) : Prop where
  chain : Chain q.heap ps l
  nodup : ps.Nodup
  first : q.first = ps.head?
  last : q.last = ps.getLast?
  count : q.count = l.length % 2 ^ 32
  owned : ∀ p ∈ ps, p ∉ h₀
  outside : ∀ p ∉ ps, q.heap.lookup p = h₀.lookup p

namespace Represents

variable {h₀ : Heap} {q : Queue} {ps : List Ptr} {l : SCTPNotificationQueue}

theorem empty (h₀ : Heap) : Represents h₀ { heap := h₀ } [] [] where
  chain := rfl
  nodup := List.nodup_nil
  first := rfl
  last := rfl
  count := rfl
  owned := List.forall_mem_nil _
  outside _ _ := rfl

/-- What an operation reads through `first`. -/
theorem head_cases (hr : Represents h₀ q ps l) :
    (ps = [] ∧ l = [] ∧ q.first = none) ∨
    ∃ p ps' x l', ps = p :: ps' ∧ l = x :: l' ∧ q.first = some p ∧ p ∉ ps' ∧
      q.heap.lookup p = some ⟨x, ps'.head?⟩ ∧ Chain q.heap ps' l' := by
  cases ps with
  | nil => exact Or.inl ⟨rfl, Chain.nil.mp hr.chain, hr.first⟩
  | cons p ps' =>
    obtain ⟨x, l', rfl, hp, hc⟩ := hr.chain
    exact Or.inr ⟨p, ps', x, l', rfl, rfl, hr.first, (List.nodup_cons.mp hr.nodup).1, hp, hc⟩

theorem place_notMem (hr : Represents h₀ q ps l) (m : Memory) :
    m.place q.heap ∉ ps ∧ m.place q.heap ∉ h₀ := by
  have hfresh := m.fresh q.heap
  have hps : m.place q.heap ∉ ps := fun hp => hfresh (hr.chain.mem hp)
  refine ⟨hps, ?_⟩
  rw [← Finmap.lookup_eq_none, ← hr.outside _ hps, Finmap.lookup_eq_none]
  exact hfresh

theorem addNotification (hr : Represents h₀ q ps l) (n : Node) (m : Memory) :
    ∃ q', q.addNotification n (some m) = some (true, q') ∧
      Represents h₀ q' (ps ++ [m.place q.heap]) (l.addNotification n.val) := by
  obtain ⟨hps, hh₀⟩ := hr.place_notMem m
  have hnodup : (ps ++ [m.place q.heap]).Nodup := by
    rw [List.nodup_append]
    refine ⟨hr.nodup, List.nodup_singleton _, ?_⟩
    intro a ha b hb heq
    rw [heq, List.mem_singleton.mp hb] at ha
    exact hps ha
  have howned : ∀ p ∈ ps ++ [m.place q.heap], p ∉ h₀ := by
    intro p hp
    rcases List.mem_append.mp hp with hp | hp
    · exact hr.owned p hp
    · rwa [List.mem_singleton.mp hp]
  have hcount : (q.count + 1) % 2 ^ 32 = (l.addNotification n.val).length % 2 ^ 32 := by
    simp [SCTPNotificationQueue.addNotification, hr.count, Nat.add_mod]
  have hfirst : q.first.or (some (m.place q.heap)) = (ps ++ [m.place q.heap]).head? := by
    rw [hr.first, List.head?_append]
    rfl
  have hnew : (q.heap.insert (m.place q.heap) { n with next := none }).lookup (m.place q.heap) =
      some ⟨n.val, none⟩ := Finmap.lookup_insert _
  have hchain := hr.chain.insert hps { n with next := none }
  cases hlast : ps.getLast? with
  | none =>
    obtain rfl := List.getLast?_eq_none_iff.mp hlast
    refine ⟨_, by simp only [Queue.addNotification, hr.last, hlast]; rfl, ?_⟩
    refine ⟨?_, hnodup, hfirst, by simp, hcount, howned, ?_⟩
    · rw [Chain.nil.mp hr.chain]
      exact Chain.cons.mpr ⟨hnew, rfl⟩
    · intro p hp
      rw [Finmap.lookup_insert_of_ne _ (by simpa using hp)]
      exact hr.outside p (List.not_mem_nil)
  | some last =>
    have hmem : last ∈ ps := List.mem_of_getLast? hlast
    obtain ⟨c, hc⟩ := Finmap.mem_iff.mp (hchain.mem hmem)
    refine ⟨_, by simp only [Queue.addNotification, hr.last, hlast, hc]; rfl, ?_⟩
    refine ⟨hchain.append hr.nodup hps hnew hlast hc, hnodup, hfirst, by simp, hcount, howned, ?_⟩
    intro p hp
    have hne : p ≠ last := fun heq => hp (List.mem_append_left _ (heq ▸ hmem))
    have hne' : p ≠ m.place q.heap := fun heq => hp (by simp [heq])
    rw [Finmap.lookup_insert_of_ne _ hne, Finmap.lookup_insert_of_ne _ hne']
    exact hr.outside p fun hmem => hp (List.mem_append_left _ hmem)

theorem getNotification (hr : Represents h₀ q ps l) :
    ∃ n, q.getNotification = some n ∧ n.map (·.val) = l.getNotification := by
  rcases hr.head_cases with ⟨-, rfl, hf⟩ | ⟨p, ps', x, l', -, rfl, hf, -, hp, -⟩
  · exact ⟨none, by rw [Queue.getNotification, hf], rfl⟩
  · exact ⟨some ⟨x, ps'.head?⟩, by simp [Queue.getNotification, hf, hp], rfl⟩

theorem updateNotification (hr : Represents h₀ q ps l) (n : Node) :
    ∃ q', q.updateNotification n = some q' ∧ Represents h₀ q' ps (l.updateNotification n.val) := by
  rcases hr.head_cases with ⟨-, rfl, hf⟩ | ⟨p, ps', x, l', rfl, rfl, hf, hmem, hp, -⟩
  · exact ⟨q, by rw [Queue.updateNotification, hf], hr⟩
  · refine ⟨_, by simp only [Queue.updateNotification, hf, hp]; rfl, ?_⟩
    refine ⟨hr.chain.replaceHead hmem n.val, hr.nodup, rfl, hr.last, hr.count, hr.owned, ?_⟩
    intro r hr'
    rw [Finmap.lookup_insert_of_ne _ (fun heq => hr' (List.mem_cons.mpr (Or.inl heq)))]
    exact hr.outside r hr'

theorem dropNotification (hr : Represents h₀ q ps l) :
    ∃ q', q.dropNotification = some q' ∧ Represents h₀ q' ps.tail l.dropNotification := by
  rcases hr.head_cases with ⟨rfl, rfl, hf⟩ | ⟨p, ps', x, l', rfl, rfl, hf, hmem, hp, hc⟩
  · exact ⟨q, by rw [Queue.dropNotification, hf], hr⟩
  · have hh₀ : p ∉ h₀ := hr.owned p List.mem_cons_self
    refine ⟨_, by simp only [Queue.dropNotification, hf, hp]; rfl, ?_⟩
    refine ⟨hc.erase hmem, (List.nodup_cons.mp hr.nodup).2, rfl, ?_, ?_,
      fun r hr' => hr.owned r (List.mem_cons_of_mem p hr'), ?_⟩
    · -- `Last` is the dropped node only where it was the one node
      have hlast := hr.last
      cases ps' with
      | nil =>
        rw [hlast]
        exact if_pos rfl
      | cons r ps' =>
        rw [List.getLast?_cons_cons] at hlast
        have hne : q.last ≠ some p := by
          rw [hlast]
          exact fun heq => hmem (List.mem_of_getLast? heq)
        rw [if_neg hne]
        exact hlast
    · have := hr.count
      simp only [SCTPNotificationQueue.dropNotification, List.tail_cons, List.length_cons] at this ⊢
      omega
    · intro r hr'
      by_cases heq : r = p
      · rw [heq, Finmap.lookup_erase, Finmap.lookup_eq_none.mpr hh₀]
      · rw [Finmap.lookup_erase_ne heq]
        exact hr.outside r (by simpa [heq] using hr')

/-- The loop of `flush` deletes the cells of the chain and no other. -/
theorem deleteFrom {h : Heap} {fuel : Nat} (hc : Chain h ps l) (hd : ps.Nodup) (hfuel : ps.length ≤ fuel) :
    ∃ h', Queue.deleteFrom fuel h ps.head? = some h' ∧ (∀ p ∈ ps, p ∉ h') ∧
      ∀ p ∉ ps, h'.lookup p = h.lookup p := by
  induction ps generalizing h l fuel with
  | nil => exact ⟨h, by cases fuel <;> rfl, List.forall_mem_nil _, fun _ _ => rfl⟩
  | cons p ps ih =>
    obtain ⟨x, l, rfl, hp, hc⟩ := hc
    obtain ⟨hmem, hd⟩ := List.nodup_cons.mp hd
    obtain ⟨fuel, rfl⟩ : ∃ k, fuel = k + 1 := ⟨fuel - 1, by simp at hfuel; omega⟩
    obtain ⟨h', hrun, hgone, hrest⟩ := ih (hc.erase hmem) hd (Nat.le_of_succ_le_succ hfuel)
    refine ⟨h', by simpa [Queue.deleteFrom, hp] using hrun, ?_, ?_⟩
    · intro r hr
      rcases List.mem_cons.mp hr with rfl | hr
      · rw [← Finmap.lookup_eq_none, hrest _ hmem, Finmap.lookup_erase]
      · exact hgone r hr
    · intro r hr
      rw [List.mem_cons, not_or] at hr
      rw [hrest r hr.2, Finmap.lookup_erase_ne hr.1]

theorem flush {fuel : Nat} (hr : Represents h₀ q ps l) (hfuel : l.length ≤ fuel) :
    ∃ q', q.flush fuel = some q' ∧ Represents h₀ q' [] [] := by
  obtain ⟨h', hrun, hgone, hrest⟩ := deleteFrom hr.chain hr.nodup (hr.chain.length ▸ hfuel)
  refine ⟨{ heap := h' }, by simp [Queue.flush, hr.first, hrun], ?_⟩
  refine ⟨rfl, List.nodup_nil, rfl, rfl, rfl, List.forall_mem_nil _, ?_⟩
  intro p _
  by_cases hp : p ∈ ps
  · rw [Finmap.lookup_eq_none.mpr (hgone p hp), Finmap.lookup_eq_none.mpr (hr.owned p hp)]
  · rw [hrest p hp, hr.outside p hp]

theorem findFrom {h : Heap} {fuel : Nat} (hc : Chain h ps l) (flags : NotificationFlags)
    (hfuel : ps.length ≤ fuel) : Queue.findFrom flags h fuel ps.head? = some (l.hasData flags) := by
  induction ps generalizing l fuel with
  | nil =>
    rw [Chain.nil.mp hc]
    cases fuel <;> rfl
  | cons p ps ih =>
    obtain ⟨x, l, rfl, hp, hc⟩ := hc
    obtain ⟨fuel, rfl⟩ : ∃ k, fuel = k + 1 := ⟨fuel - 1, by simp at hfuel; omega⟩
    have hrest := ih hc (Nat.le_of_succ_le_succ hfuel)
    simp only [List.head?_cons, Queue.findFrom, hp, Option.bind_eq_bind, Option.bind_some, hrest]
    by_cases hx : x.content.snType = .dataArrive ∨ flags.selects x.content.snType
    · simp [hx, SCTPNotificationQueue.hasData]
    · have hx' := not_or.mp hx
      simp [hx'.1, hx'.2, SCTPNotificationQueue.hasData]

theorem hasData {fuel : Nat} (hr : Represents h₀ q ps l) (flags : NotificationFlags) (hfuel : l.length ≤ fuel) :
    q.hasData flags fuel = some (l.hasData flags) := by
  rw [Queue.hasData, hr.first]
  exact findFrom hr.chain flags (hr.chain.length ▸ hfuel)

theorem first_eq_none (hr : Represents h₀ q ps l) : q.first = none ↔ l = [] := by
  rw [hr.first, List.head?_eq_none_iff, ← List.length_eq_zero_iff, hr.chain.length, List.length_eq_zero_iff]

theorem last_eq_none (hr : Represents h₀ q ps l) : q.last = none ↔ l = [] := by
  rw [hr.last, List.getLast?_eq_none_iff, ← List.length_eq_zero_iff, hr.chain.length, List.length_eq_zero_iff]

end Represents

/-! ## Refinement -/

section
variable {h₀ : Heap} {q : Queue} {ps : List Ptr} {l : SCTPNotificationQueue}

theorem Op.onList_length (op : Op) (l : SCTPNotificationQueue) : (op.onList l).2.length ≤ l.length + 1 := by
  cases op with
  | add n memory => cases memory <;> simp [Op.onList, SCTPNotificationQueue.addNotification]
  | update n => cases l <;> simp [Op.onList, SCTPNotificationQueue.updateNotification]
  | drop => simp [Op.onList, SCTPNotificationQueue.dropNotification]; omega
  | get | flush | hasData => simp [Op.onList]

/-- One operation answers as it does on the list and leaves a queue that represents its result. -/
theorem Op.exec_represents {fuel : Nat} (op : Op) (hr : Represents h₀ q ps l) (hfuel : l.length ≤ fuel) :
    ∃ a q' ps', op.exec fuel q = some (a, q') ∧ a.map (·.val) = (op.onList l).1 ∧
      Represents h₀ q' ps' (op.onList l).2 := by
  cases op with
  | add n memory =>
    cases memory with
    | none => exact ⟨.flag false, q, ps, rfl, rfl, hr⟩
    | some m =>
      obtain ⟨q', hq, hr⟩ := hr.addNotification n m
      exact ⟨.flag true, q', _, by simp [Op.exec, hq], rfl, hr⟩
  | get =>
    obtain ⟨n, hq, hn⟩ := hr.getNotification
    exact ⟨.read n, q, ps, by simp [Op.exec, hq], by simp [Answer.map, Op.onList, hn], hr⟩
  | update n =>
    obtain ⟨q', hq, hr⟩ := hr.updateNotification n
    exact ⟨.done, q', ps, by simp [Op.exec, hq], rfl, hr⟩
  | drop =>
    obtain ⟨q', hq, hr⟩ := hr.dropNotification
    exact ⟨.done, q', _, by simp [Op.exec, hq], rfl, hr⟩
  | flush =>
    obtain ⟨q', hq, hr⟩ := hr.flush hfuel
    exact ⟨.done, q', _, by simp [Op.exec, hq], rfl, hr⟩
  | hasData flags =>
    exact ⟨.flag (l.hasData flags), q, ps, by simp [Op.exec, hr.hasData flags hfuel], rfl, hr⟩

theorem run_represents (fuel : Nat) (ops : List Op) (hr : Represents h₀ q ps l)
    (hfuel : l.length + ops.length ≤ fuel) :
    ∃ answers q' ps', run fuel q ops = some (answers, q') ∧
      answers.map (·.map (·.val)) = (listRun l ops).1 ∧ Represents h₀ q' ps' (listRun l ops).2 := by
  induction ops generalizing q ps l with
  | nil => exact ⟨[], q, ps, rfl, rfl, hr⟩
  | cons op ops ih =>
    rw [List.length_cons] at hfuel
    have hl : l.length ≤ fuel := by omega
    have hl₁ : (op.onList l).2.length + ops.length ≤ fuel := by
      have := op.onList_length l
      omega
    obtain ⟨a, q₁, ps₁, hexec, ha, hr₁⟩ := op.exec_represents hr hl
    obtain ⟨as, q₂, ps₂, hrun, has, hr₂⟩ := ih hr₁ hl₁
    exact ⟨a :: as, q₂, ps₂, by simp [run, hexec, hrun], by simp [listRun, ha, has], hr₂⟩

end

theorem listRun_length (ops : List Op) (l : SCTPNotificationQueue) :
    (listRun l ops).2.length ≤ l.length + ops.length := by
  induction ops generalizing l with
  | nil => exact Nat.le_refl _
  | cons op ops ih =>
    have hop := op.onList_length l
    have hops := ih (op.onList l).2
    simp only [listRun, List.length_cons]
    omega

/-- Every sequence of operations on an empty queue runs without undefined behaviour, answers
as it does on a list and leaves that list linked in order, in memory of its own. `Count` is
the length modulo 2^32. -/
theorem notification_queue_refines (h₀ : Heap) (ops : List Op) (spare : Nat) :
    ∃ answers q ps, run (ops.length + spare) { heap := h₀ } ops = some (answers, q) ∧
      answers.map (·.map (·.val)) = (listRun [] ops).1 ∧ Represents h₀ q ps (listRun [] ops).2 ∧
      (q.first = none ↔ (listRun [] ops).2 = []) ∧ (q.last = none ↔ (listRun [] ops).2 = []) ∧
      ∀ flags, ∃ found, q.hasData flags (ops.length + spare) = some found ∧
        (found = true ↔ ∃ n ∈ (listRun [] ops).2,
          n.content.snType = .dataArrive ∨ flags.selects n.content.snType = true) := by
  have hfuel : (listRun [] ops).2.length ≤ ops.length + spare := by
    have := listRun_length ops []
    simp only [List.length_nil] at this
    omega
  obtain ⟨answers, q, ps, hrun, ha, hr⟩ :=
    run_represents (ops.length + spare) ops (Represents.empty h₀) (by simp)
  refine ⟨answers, q, ps, hrun, ha, hr, hr.first_eq_none, hr.last_eq_none, ?_⟩
  intro flags
  refine ⟨_, hr.hasData flags hfuel, ?_⟩
  simp [SCTPNotificationQueue.hasData]

/-! ## The counter -/

/-- The address behind all others. -/
def behind : Memory where
  place h := h.keys.sup id + 1
  fresh h hmem := by
    have hle := Finset.le_sup (f := id) (Finmap.mem_keys.mpr hmem)
    exact Nat.not_succ_le_self _ hle

theorem listRun_adds (n : Node) (m : Memory) (k : Nat) (l : SCTPNotificationQueue) :
    (listRun l (List.replicate k (.add n (some m)))).2 = l ++ List.replicate k n.val := by
  induction k generalizing l with
  | zero => simp [listRun]
  | succ k ih =>
    rw [List.replicate_succ, listRun, ih, List.replicate_succ]
    simp [Op.onList, SCTPNotificationQueue.addNotification]

theorem count_after_adds (n : Node) (m : Memory) (k : Nat) :
    ∃ answers q, run k { heap := ∅ } (List.replicate k (.add n (some m))) = some (answers, q) ∧
      (listRun [] (List.replicate k (.add n (some m)))).2.length = k ∧ q.count = k % 2 ^ 32 := by
  obtain ⟨answers, q, ps, hrun, -, hr⟩ :=
    run_represents k (List.replicate k (.add n (some m))) (Represents.empty ∅) (by simp)
  refine ⟨answers, q, hrun, by simp [listRun_adds], ?_⟩
  rw [hr.count, listRun_adds]
  simp

/-- The 2^32nd notification turns `Count` to 0. -/
theorem count_wraps :
    ∃ answers q,
      run (2 ^ 32) { heap := ∅ } (List.replicate (2 ^ 32) (.add ⟨{}, none⟩ (some behind))) = some (answers, q) ∧
      q.count ≠ (listRun [] (List.replicate (2 ^ 32) (.add ⟨{}, none⟩ (some behind)))).2.length := by
  obtain ⟨answers, q, hrun, hl, hc⟩ := count_after_adds ⟨{}, none⟩ behind (2 ^ 32)
  refine ⟨answers, q, hrun, ?_⟩
  rw [hl, hc]
  decide

end SocketApi.Linked
