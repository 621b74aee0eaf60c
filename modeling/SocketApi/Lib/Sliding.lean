import Mathlib.Logic.Relation
import Mathlib.Order.Defs.Unbundled

/-!
# Queues over time

A queue is taken from at its front and added to at its end; what stands at the front may be changed
as `r` allows. `Slides` is any number of such steps. Behind them the queue is a rest of the old one,
with at most its first entry changed, followed by what has been added.
-/

namespace Sliding

variable {α : Type} {r : α → α → Prop}

inductive Step (r : α → α → Prop) : List α → List α → Prop
  | push (q : List α) (a : α) : Step r q (q ++ [a])
  | pop (a : α) (q : List α) : Step r (a :: q) q
  | touch {a b : α} (h : r a b) (q : List α) : Step r (a :: q) (b :: q)

def Slides (r : α → α → Prop) : List α → List α → Prop := Relation.ReflTransGen (Step r)

namespace Slides

variable {q q' q'' : List α}

theorem same (q : List α) : Slides r q q := Relation.ReflTransGen.refl

theorem trans (h : Slides r q q') (h' : Slides r q' q'') : Slides r q q'' := Relation.ReflTransGen.trans h h'

theorem push (q : List α) (a : α) : Slides r q (q ++ [a]) := .single (.push q a)

theorem tail (q : List α) : Slides r q q.tail := by
  cases q with
  | nil => exact .same []
  | cons a q => exact .single (.pop a q)

theorem touch {a b : α} (h : r a b) (q : List α) : Slides r (a :: q) (b :: q) := .single (.touch h q)

theorem drop (n : Nat) (q : List α) : Slides r q (q.drop n) := by
  induction n generalizing q with
  | zero => exact .same q
  | succ n ih =>
    cases q with
    | nil => exact .same []
    | cons a q => exact (Slides.tail (a :: q)).trans (ih q)

theorem clear (q : List α) : Slides r q [] := by
  have h := Slides.drop (r := r) q.length q
  rwa [List.drop_length] at h

theorem append (q added : List α) : Slides r q (q ++ added) := by
  induction added generalizing q with
  | nil => simpa using Slides.same (r := r) q
  | cons a added ih => simpa using (Slides.push q a).trans (ih (q ++ [a]))

end Slides

/-- A rest of the old queue with new entries behind it; the first entry of the rest may be changed. -/
inductive Moved (r : α → α → Prop) (old : List α) : List α → Prop
  | same (n : Nat) (added : List α) : Moved r old (old.drop n ++ added)
  | changed (n : Nat) {a b : α} {q : List α} (added : List α) (hq : old.drop n = a :: q) (h : r a b) :
    Moved r old (b :: q ++ added)

theorem moved_of_added (old added : List α) : Moved r old added := by
  have h : Moved r old (old.drop old.length ++ added) := .same old.length added
  rwa [List.drop_length, List.nil_append] at h

theorem drop_succ {old q : List α} {a : α} {n : Nat} (h : old.drop n = a :: q) : old.drop (n + 1) = q := by
  rw [← List.tail_drop, h, List.tail_cons]

theorem Moved.step [IsTrans α r] {old q q' : List α} (hq : Moved r old q)
    (h : Step r q q') : Moved r old q' := by
  cases hq with
  | same n added =>
    cases hn : old.drop n with
    | nil => exact moved_of_added old q'
    | cons a rest =>
      generalize hqueue : old.drop n ++ added = queue at h
      rw [hn, List.cons_append] at hqueue
      cases h with
      | push _ b =>
        rw [← hqueue, List.cons_append, List.append_assoc, ← List.cons_append, ← hn]
        exact .same n (added ++ [b])
      | pop =>
        obtain ⟨-, rfl⟩ := List.cons.inj hqueue
        rw [← drop_succ hn]
        exact .same (n + 1) added
      | touch hr =>
        obtain ⟨rfl, rfl⟩ := List.cons.inj hqueue
        exact .changed n added hn hr
  | @changed n a b rest added hn hr =>
    generalize hqueue : b :: rest ++ added = queue at h
    rw [List.cons_append] at hqueue
    cases h with
    | push _ c =>
      rw [← hqueue, List.cons_append, List.append_assoc]
      exact .changed n (added ++ [c]) hn hr
    | pop =>
      obtain ⟨-, rfl⟩ := List.cons.inj hqueue
      rw [← drop_succ hn]
      exact .same (n + 1) added
    | touch hr' =>
      obtain ⟨rfl, rfl⟩ := List.cons.inj hqueue
      exact .changed n added hn (IsTrans.trans _ _ _ hr hr')

theorem slides_iff [IsTrans α r] {old q : List α} : Slides r old q ↔ Moved r old q := by
  constructor
  · intro h
    induction h with
    | refl =>
      have h : Moved r old (old.drop 0 ++ []) := .same 0 []
      simpa using h
    | tail _ hstep ih => exact ih.step hstep
  · intro h
    cases h with
    | same n added => exact (Slides.drop n old).trans (.append _ added)
    | changed n added hn hr =>
      have hdrop := Slides.drop (r := r) n old
      rw [hn] at hdrop
      exact (hdrop.trans (.touch hr _)).trans (.append _ added)

end Sliding
