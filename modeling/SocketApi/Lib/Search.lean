import Mathlib.Data.List.Basic

/-!
# Searches with a test that may be undefined

A loop over a list that leaves at the first element its test accepts. A test without an answer ends the
program, so that nothing behind it is looked at.
-/

namespace Search

variable {α : Type} {test : α → Option Bool} {a : α} {l : List α}

/-- The first element that is accepted, `some none` if all are rejected. -/
def first (test : α → Option Bool) : List α → Option (Option α)
  | [] => some none
  | a :: rest => (test a).bind fun accepted => if accepted then some (some a) else first test rest

@[simp] theorem first_nil : first test [] = some none := rfl

theorem first_cons (a : α) (l : List α) :
    first test (a :: l) = (test a).bind fun accepted => if accepted then some (some a) else first test l := rfl

theorem first_cons_true (h : test a = some true) : first test (a :: l) = some (some a) := by
  simp [first, h]

theorem first_cons_false (h : test a = some false) : first test (a :: l) = first test l := by
  simp [first, h]

theorem first_cons_none (h : test a = none) : first test (a :: l) = none := by
  simp [first, h]

theorem first_eq_absent : first test l = some none ↔ ∀ a ∈ l, test a = some false := by
  induction l with
  | nil => simp
  | cons a l ih =>
    rw [List.forall_mem_cons, ← ih]
    cases h : test a with
    | none => simp [first_cons_none h]
    | some accepted =>
      cases accepted with
      | true => simp [first_cons_true h]
      | false => simp [first_cons_false h]

theorem first_eq_found :
    first test l = some (some a) ↔
      ∃ before after, l = before ++ a :: after ∧ (∀ b ∈ before, test b = some false) ∧ test a = some true := by
  induction l with
  | nil => simp
  | cons b l ih =>
    constructor
    · intro h
      cases hb : test b with
      | none => simp [first_cons_none hb] at h
      | some accepted =>
        cases accepted with
        | true =>
          rw [first_cons_true hb] at h
          obtain rfl : b = a := by simpa using h
          exact ⟨[], l, rfl, by simp, hb⟩
        | false =>
          rw [first_cons_false hb] at h
          obtain ⟨before, after, rfl, hbefore, ha⟩ := ih.mp h
          exact ⟨b :: before, after, rfl, by simpa [hb] using hbefore, ha⟩
    · rintro ⟨before, after, hl, hbefore, ha⟩
      cases before with
      | nil =>
        obtain ⟨rfl, rfl⟩ := List.cons.inj hl
        exact first_cons_true ha
      | cons c before =>
        obtain ⟨rfl, rfl⟩ := List.cons.inj hl
        rw [first_cons_false (hbefore b (by simp))]
        exact ih.mpr ⟨before, after, rfl, fun c hc => hbefore c (by simp [hc]), ha⟩

/-! ## Searches that come to an end -/

/-- Every element the search comes to has an answer. -/
def Answers (test : α → Option Bool) (l : List α) : Prop :=
  ∀ before a after, l = before ++ a :: after → (∀ b ∈ before, test b ≠ some true) → test a ≠ none

theorem answers_cons : Answers test (a :: l) ↔ test a ≠ none ∧ (test a = some false → Answers test l) := by
  constructor
  · intro h
    refine ⟨h [] a l rfl (by simp), fun hfalse before b after hl hbefore => ?_⟩
    exact h (a :: before) b after (by simp [hl]) (by simpa [hfalse] using hbefore)
  · rintro ⟨hnone, hrest⟩ before b after hl hbefore
    cases before with
    | nil =>
      obtain ⟨rfl, rfl⟩ := List.cons.inj hl
      exact hnone
    | cons c before =>
      obtain ⟨rfl, rfl⟩ := List.cons.inj hl
      rw [List.forall_mem_cons] at hbefore
      have hfalse : test a = some false := by
        cases h : test a with
        | none => exact absurd h hnone
        | some accepted => cases accepted with
          | true => exact absurd h hbefore.1
          | false => rfl
      exact hrest hfalse before b after rfl hbefore.2

theorem first_accepts :
    (first test l).map Option.isSome = some true ↔ (∃ a ∈ l, test a = some true) ∧ Answers test l := by
  induction l with
  | nil => simp
  | cons a l ih =>
    rw [answers_cons]
    cases h : test a with
    | none => simp [first_cons_none h]
    | some accepted =>
      cases accepted with
      | true => simp [first_cons_true h, h]
      | false => simp [first_cons_false h, h, ih]

theorem first_rejects :
    (first test l).map Option.isSome = some false ↔ (∀ a ∈ l, test a ≠ some true) ∧ Answers test l := by
  induction l with
  | nil => simp [Answers]
  | cons a l ih =>
    rw [answers_cons]
    cases h : test a with
    | none => simp [first_cons_none h]
    | some accepted =>
      cases accepted with
      | true => simp [first_cons_true h, h]
      | false => simp [first_cons_false h, h, ih]

end Search
