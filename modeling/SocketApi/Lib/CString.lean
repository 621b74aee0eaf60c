import Mathlib.Algebra.Order.Ring.Int
import Mathlib.Data.Vector.Defs
import Mathlib.Data.List.TakeWhile

/-!
# C strings in arrays

Arrays of bytes with writes that fail outside of their bounds, and the string that an array
with a zero byte holds.
-/

/-- The bytes of a string before its terminating zero. -/
@[ext]
structure CString where
  bytes : List UInt8
  zeroFree : 0 ∉ bytes
  deriving DecidableEq

/-- An array of `n` bytes that holds a string. -/
@[ext]
structure CArray (n : Nat) where
  bytes : List UInt8
  size : bytes.length = n
  terminated : 0 ∈ bytes
  deriving DecidableEq

namespace CString

def empty : CString := ⟨[], List.not_mem_nil⟩

def append (s t : CString) : CString where
  bytes := s.bytes ++ t.bytes
  zeroFree := by
    rw [List.mem_append, not_or]
    exact ⟨s.zeroFree, t.zeroFree⟩

def take (s : CString) (n : Nat) : CString where
  bytes := s.bytes.take n
  zeroFree := fun h => s.zeroFree (List.mem_of_mem_take h)

def drop (s : CString) (n : Nat) : CString where
  bytes := s.bytes.drop n
  zeroFree := fun h => s.zeroFree (List.mem_of_mem_drop h)

theorem take_append (s t : CString) : (s.append t).take s.bytes.length = s := by
  ext1
  exact List.take_left

theorem drop_append (s t : CString) : (s.append t).drop s.bytes.length = t := by
  ext1
  exact List.drop_left

end CString

namespace CArray

variable {n : Nat}

def memory (a : CArray n) : List.Vector UInt8 n := ⟨a.bytes, a.size⟩

/-- The bytes before the first zero. -/
def text (a : CArray n) : CString where
  bytes := a.bytes.takeWhile (· != 0)
  zeroFree := fun h => by simpa using List.mem_takeWhile_imp h

/-- A zero is written at `i`. -/
def terminate (m : List.Vector UInt8 n) (i : Nat) : Option (CArray n) :=
  if h : i < n then
    some ⟨m.toList.set i 0, by simp, List.mem_set (by simpa using h) 0⟩
  else none

/-- `strcpy`. -/
def strcpy (dst : List.Vector UInt8 n) (src : CString) : Option (CArray n) :=
  if h : src.bytes.length < n then
    some ⟨src.bytes ++ 0 :: dst.toList.drop (src.bytes.length + 1), by simp; omega, by simp⟩
  else none

/-- `memcpy` of the first `count` bytes. -/
def memcpy {k : Nat} (dst : List.Vector UInt8 n) (src : List.Vector UInt8 k) (count : Nat) :
    Option (List.Vector UInt8 n) :=
  if h : count ≤ n ∧ count ≤ k then
    some ⟨src.toList.take count ++ dst.toList.drop count, by simp; omega⟩
  else none

theorem terminate_of_lt {i : Nat} (h : i < n) (m : List.Vector UInt8 n) :
    ∃ a, terminate m i = some a ∧ a.bytes = m.toList.set i 0 :=
  ⟨_, dif_pos h, rfl⟩

theorem strcpy_of_lt {src : CString} (h : src.bytes.length < n) (dst : List.Vector UInt8 n) :
    ∃ a, strcpy dst src = some a ∧ a.bytes = src.bytes ++ 0 :: dst.toList.drop (src.bytes.length + 1) :=
  ⟨_, dif_pos h, rfl⟩

theorem memcpy_of_le {k count : Nat} (h : count ≤ n ∧ count ≤ k) (dst : List.Vector UInt8 n)
    (src : List.Vector UInt8 k) :
    ∃ m, memcpy dst src count = some m ∧ m.toList = src.toList.take count ++ dst.toList.drop count :=
  ⟨_, dif_pos h, rfl⟩

theorem text_eq {a : CArray n} {s : CString} {rest : List UInt8} (h : a.bytes = s.bytes ++ 0 :: rest) : a.text = s := by
  ext1
  show a.bytes.takeWhile (· != 0) = s.bytes
  rw [h, List.takeWhile_append_of_pos]
  · simp
  · intro b hb
    simpa using fun h0 : b = 0 => s.zeroFree (h0 ▸ hb)

/-- The bytes of an array are its string, a zero and the rest. -/
theorem bytes_eq (a : CArray n) : ∃ rest, a.bytes = a.text.bytes ++ 0 :: rest := by
  have hsplit : a.text.bytes ++ a.bytes.dropWhile (· != 0) = a.bytes := List.takeWhile_append_dropWhile
  cases h : a.bytes.dropWhile (· != 0) with
  | nil =>
    rw [h, List.append_nil] at hsplit
    exact absurd (hsplit ▸ a.terminated) a.text.zeroFree
  | cons b rest =>
    have hb : (b != 0) = false := by
      have := List.head?_dropWhile_not (· != 0) a.bytes
      rw [h] at this
      simpa using this
    have hb0 : b = 0 := by simpa using hb
    rw [h, hb0] at hsplit
    exact ⟨rest, hsplit.symm⟩

theorem text_eq_empty_iff (a : CArray n) : a.text = .empty ↔ a.bytes.head? = some 0 := by
  obtain ⟨rest, h⟩ := a.bytes_eq
  rw [h]
  constructor
  · intro he
    rw [he]
    rfl
  · intro hhead
    ext1
    cases hs : a.text.bytes with
    | nil => rfl
    | cons b bytes =>
      rw [hs] at hhead
      have hb : b = 0 := Option.some.inj hhead
      exact absurd (hs ▸ hb ▸ List.mem_cons_self) a.text.zeroFree

end CArray
