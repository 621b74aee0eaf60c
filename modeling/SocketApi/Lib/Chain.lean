import Mathlib.Data.Finmap

/-!
# Chains of cells

A singly linked list in a heap: finitely many cells, each a value and the address of the
next one. `Chain h ps xs` says that the cells at `ps` hold `xs` and are linked in this order.
-/

structure Cell (P α : Type) where
  val : α
  next : Option P

/-- The allocated cells by address. -/
abbrev CellHeap (P α : Type) := Finmap fun _ : P => Cell P α

/-- Where the next allocation goes: to an address no cell has. -/
structure Allocator (P α : Type) where
  place : CellHeap P α → P
  fresh : ∀ h, place h ∉ h

variable {P α : Type} [DecidableEq P]

def Chain (h : CellHeap P α) : List P → List α → Prop
  | [], xs => xs = []
  | p :: ps, xs => ∃ x xs', xs = x :: xs' ∧ h.lookup p = some ⟨x, ps.head?⟩ ∧ Chain h ps xs'

namespace Chain

variable {h h' : CellHeap P α} {ps : List P} {xs : List α} {p : P} {x : α}

@[simp] theorem nil : Chain h [] xs ↔ xs = [] := Iff.rfl

theorem cons : Chain h (p :: ps) (x :: xs) ↔ h.lookup p = some ⟨x, ps.head?⟩ ∧ Chain h ps xs := by
  simp [Chain]

theorem length (hc : Chain h ps xs) : ps.length = xs.length := by
  induction ps generalizing xs with
  | nil => simp [nil.mp hc]
  | cons p ps ih =>
    obtain ⟨x, xs, rfl, -, hc⟩ := hc
    rw [List.length_cons, List.length_cons, ih hc]

theorem mem (hc : Chain h ps xs) (hp : p ∈ ps) : p ∈ h := by
  induction ps generalizing xs with
  | nil => cases hp
  | cons q ps ih =>
    obtain ⟨x, xs, -, hq, hc⟩ := hc
    rcases List.mem_cons.mp hp with rfl | hp
    · exact Finmap.mem_of_lookup_eq_some hq
    · exact ih hc hp

/-- A chain depends on its own cells only. -/
theorem frame (hc : Chain h ps xs) (heq : ∀ p ∈ ps, h'.lookup p = h.lookup p) : Chain h' ps xs := by
  induction ps generalizing xs with
  | nil => exact hc
  | cons p ps ih =>
    obtain ⟨x, xs, rfl, hp, hc⟩ := hc
    rw [cons, heq p List.mem_cons_self]
    exact ⟨hp, ih hc fun q hq => heq q (List.mem_cons_of_mem p hq)⟩

theorem insert (hc : Chain h ps xs) (hp : p ∉ ps) (c : Cell P α) : Chain (Finmap.insert p c h) ps xs := by
  apply hc.frame
  intro q hq
  exact Finmap.lookup_insert_of_ne h (fun heq => hp (heq ▸ hq))

theorem erase (hc : Chain h ps xs) (hp : p ∉ ps) : Chain (Finmap.erase p h) ps xs := by
  apply hc.frame
  intro q hq
  exact Finmap.lookup_erase_ne (fun heq => hp (heq ▸ hq))

/-! ## Writing the cells -/

/-- A new value in the first cell, its link kept. -/
theorem replaceHead (hc : Chain h (p :: ps) (x :: xs)) (hp : p ∉ ps) (y : α) :
    Chain (Finmap.insert p ⟨y, ps.head?⟩ h) (p :: ps) (y :: xs) := by
  rw [cons, Finmap.lookup_insert]
  exact ⟨rfl, (cons.mp hc).2.insert hp _⟩

/-- A new last cell: the old last one is linked to it. -/
theorem append {q : P} {c : Cell P α} (hc : Chain h ps xs) (hd : ps.Nodup) (hq : q ∉ ps)
    (hnew : h.lookup q = some ⟨x, none⟩) (hlast : ps.getLast? = some p) (hp : h.lookup p = some c) :
    Chain (Finmap.insert p { c with next := some q } h) (ps ++ [q]) (xs ++ [x]) := by
  induction ps generalizing xs with
  | nil => cases hlast
  | cons r ps ih =>
    obtain ⟨y, xs, rfl, hr, hc⟩ := hc
    obtain ⟨hrps, hd⟩ := List.nodup_cons.mp hd
    rw [List.cons_append, List.cons_append, cons]
    cases ps with
    | nil =>
      obtain rfl : r = p := by simpa using hlast
      rw [hp, Option.some.injEq] at hr
      rw [nil.mp hc, List.nil_append, List.nil_append, cons, Finmap.lookup_insert, hr,
        Finmap.lookup_insert_of_ne h (fun heq => hq (List.mem_singleton.mpr heq))]
      exact ⟨rfl, hnew, rfl⟩
    | cons s ps =>
      have hlast' : (s :: ps).getLast? = some p := by simpa using hlast
      have hne : r ≠ p := fun heq => hrps (heq ▸ List.mem_of_getLast? hlast')
      rw [Finmap.lookup_insert_of_ne h hne]
      exact ⟨hr, ih hc hd (fun hmem => hq (List.mem_cons_of_mem r hmem)) hlast'⟩

end Chain
