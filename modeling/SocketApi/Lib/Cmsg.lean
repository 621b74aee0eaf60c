import Mathlib.Algebra.Order.Ring.Int
import Mathlib.Order.Lattice.Nat

/-!
# Control messages in a buffer

The `CMSG` macros of a 64-bit system on a buffer of bytes: a header is a `size_t` and two
`int`s, and pointers are positions in the buffer.
-/

namespace Cmsg

abbrev Bytes := List UInt8

/-! ## Sizes -/

/-- `CMSG_ALIGN`. -/
def align (n : Nat) : Nat := (n + 7) / 8 * 8

/-- `__CMSG_PADDING`. -/
def padding (n : Nat) : Nat := (8 - n % 8) % 8

/-- `sizeof(cmsghdr)`. -/
def headerSize : Nat := 16

/-- `CMSG_SPACE`. -/
def space (payload : Nat) : Nat := align payload + align headerSize

/-- `CMSG_LEN`, a `size_t`. -/
def length (payload : Nat) : Nat := (align headerSize + payload) % 2 ^ 64

theorem align_eq (n : Nat) : align n = n + padding n := by
  unfold align padding
  omega

/-! ## Headers -/

structure Header where
  cmsg_len : Nat
  cmsg_level : BitVec 32
  cmsg_type : BitVec 32
  deriving DecidableEq, Repr

/-- The number in `n` bytes at `a`, lowest byte first. -/
def load (m : Bytes) (a n : Nat) : Nat := ((m.drop a).take n).foldr (fun b rest => b.toNat + 256 * rest) 0

/-- The number `x` in `n` bytes. -/
def store (x : Nat) : Nat → Bytes
  | 0 => []
  | n + 1 => UInt8.ofNat x :: store (x / 256) n

/-- The header at `a`. -/
def header (m : Bytes) (a : Nat) : Option Header :=
  if a + headerSize ≤ m.length then
    some { cmsg_len := load m a 8, cmsg_level := BitVec.ofNat 32 (load m (a + 8) 4)
           cmsg_type := BitVec.ofNat 32 (load m (a + 12) 4) }
  else none

/-- A header is written at `a`. -/
def putHeader (m : Bytes) (a : Nat) (h : Header) : Option Bytes :=
  if a + headerSize ≤ m.length then
    some (m.take a ++ store h.cmsg_len 8 ++ store h.cmsg_level.toNat 4 ++ store h.cmsg_type.toNat 4 ++
      m.drop (a + headerSize))
  else none

/-- `CMSG_DATA`. -/
def data (a : Nat) : Nat := a + headerSize

/-- `CMSG_FIRSTHDR`. -/
def first (controllen : Nat) : Option Nat := if headerSize ≤ controllen then some 0 else none

/-- `CMSG_NXTHDR` behind a header at `a`, which is in the buffer, with the length `len`. -/
def next (controllen a len : Nat) : Option Nat :=
  let needed := headerSize + padding len
  if len < headerSize then none
  else if controllen - a < needed ∨ controllen - a - needed < len then none
  else some (a + align len)

theorem first_some {controllen a : Nat} (h : first controllen = some a) : a = 0 ∧ headerSize ≤ controllen := by
  unfold first at h
  by_cases hsize : headerSize ≤ controllen
  · rw [if_pos hsize] at h
    exact ⟨(Option.some.inj h).symm, hsize⟩
  · rw [if_neg hsize] at h
    cases h

/-- The next header is behind this one and inside the buffer. -/
theorem next_some {controllen a len a' : Nat} (h : next controllen a len = some a') :
    headerSize ≤ len ∧ a' = a + align len ∧ a + len ≤ a' ∧ a' + headerSize ≤ controllen := by
  unfold next at h
  have halign := align_eq len
  by_cases hlen : len < headerSize
  · simp [hlen] at h
  · by_cases hroom : controllen - a < headerSize + padding len ∨ controllen - a - (headerSize + padding len) < len
    · simp [hlen, hroom] at h
    · simp only [hlen, if_false, hroom, Option.some.injEq] at h
      rw [not_or] at hroom
      unfold headerSize at *
      omega

/-- A buffer that ends with a header has no next one. -/
theorem next_end (len : Nat) : next len 0 len = none := by
  unfold next
  dsimp only
  by_cases hlen : len < headerSize
  · rw [if_pos hlen]
  · have hend : len - 0 < headerSize + padding len ∨ len - 0 - (headerSize + padding len) < len := by
      unfold headerSize
      omega
    rw [if_neg hlen, if_pos hend]

/-! ## The walk over a buffer -/

/-- The headers from `a` on, until there is no next one. -/
def headersFrom (m : Bytes) (a : Nat) : List (Nat × Header) :=
  match header m a with
  | none => []
  | some h =>
    (a, h) ::
      match _hnext : next m.length a h.cmsg_len with
      | none => []
      | some a' => headersFrom m a'
termination_by m.length - a
decreasing_by
  have := next_some _hnext
  unfold headerSize at this
  omega

/-- `CMSG_FIRSTHDR` and then `CMSG_NXTHDR` again and again. -/
def headers (m : Bytes) : List (Nat × Header) :=
  match first m.length with
  | none => []
  | some a => headersFrom m a

/-- Each header takes its place in the buffer. -/
theorem length_headersFrom (m : Bytes) (a : Nat) (ha : a ≤ m.length) :
    headerSize * (headersFrom m a).length + a ≤ m.length := by
  induction h : m.length - a using Nat.strongRecOn generalizing a with
  | ind n ih =>
    rw [headersFrom]
    cases hh : header m a with
    | none => simpa using ha
    | some hd =>
      have hin : a + headerSize ≤ m.length := by
        unfold header at hh
        by_contra hnot
        rw [if_neg hnot] at hh
        cases hh
      simp only [List.length_cons]
      split
      next => simpa [Nat.add_comm] using hin
      next a' hnext =>
        obtain ⟨hlen, -, hbehind, hinside⟩ := next_some hnext
        have hrest := ih (m.length - a') (by unfold headerSize at *; omega) a' (by omega) rfl
        rw [Nat.mul_add]
        omega

/-- A walk ends after at most one header for each 16 bytes. -/
theorem length_headers (m : Bytes) : headerSize * (headers m).length ≤ m.length := by
  unfold headers
  cases h : first m.length with
  | none => simp
  | some a =>
    obtain ⟨rfl, -⟩ := first_some h
    exact length_headersFrom m 0 (Nat.zero_le _)

/-! ## Stored headers -/

theorem length_store (x n : Nat) : (store x n).length = n := by
  induction n generalizing x with
  | zero => rfl
  | succ n ih => rw [store, List.length_cons, ih]

theorem foldr_store (x n : Nat) :
    (store x n).foldr (fun b rest => b.toNat + 256 * rest) 0 = x % 256 ^ n := by
  induction n generalizing x with
  | zero => simp [store, Nat.mod_one]
  | succ n ih =>
    rw [store, List.foldr_cons, ih, Nat.pow_succ, Nat.mul_comm (256 ^ n), Nat.mod_mul]
    simp

theorem load_append (before : Bytes) (x n : Nat) (behind : Bytes) :
    load (before ++ store x n ++ behind) before.length n = x % 256 ^ n := by
  unfold load
  rw [List.append_assoc, List.drop_left, List.take_append_of_le_length (by rw [length_store]),
    List.take_of_length_le (by rw [length_store]), foldr_store]

theorem putHeader_some {m m' : Bytes} {a : Nat} {h : Header} (hput : putHeader m a h = some m') :
    a + headerSize ≤ m.length ∧
      m' = m.take a ++ store h.cmsg_len 8 ++ store h.cmsg_level.toNat 4 ++ store h.cmsg_type.toNat 4 ++
        m.drop (a + headerSize) := by
  unfold putHeader at hput
  by_cases hin : a + headerSize ≤ m.length
  · rw [if_pos hin] at hput
    exact ⟨hin, (Option.some.inj hput).symm⟩
  · rw [if_neg hin] at hput
    cases hput

theorem putHeader_of_le {m : Bytes} {a : Nat} (h : Header) (hin : a + headerSize ≤ m.length) :
    (putHeader m a h).isSome := by
  unfold putHeader
  rw [if_pos hin]
  rfl

theorem length_putHeader {m m' : Bytes} {a : Nat} {h : Header} (hput : putHeader m a h = some m') :
    m'.length = m.length := by
  obtain ⟨hin, rfl⟩ := putHeader_some hput
  simp only [List.length_append, length_store, List.length_take, List.length_drop]
  unfold headerSize at *
  omega

/-- A header that was written is read. -/
theorem header_put {m m' : Bytes} {a : Nat} {h : Header} (hlen : h.cmsg_len < 2 ^ 64)
    (hput : putHeader m a h = some m') :
    header m' a = some h := by
  have hlength := length_putHeader hput
  obtain ⟨hin, rfl⟩ := putHeader_some hput
  have hbefore : (m.take a).length = a := by
    rw [List.length_take]
    unfold headerSize at hin
    omega
  have hfirst := load_append (m.take a) h.cmsg_len 8
    (store h.cmsg_level.toNat 4 ++ store h.cmsg_type.toNat 4 ++ m.drop (a + headerSize))
  have hsecond := load_append (m.take a ++ store h.cmsg_len 8) h.cmsg_level.toNat 4
    (store h.cmsg_type.toNat 4 ++ m.drop (a + headerSize))
  have hthird := load_append (m.take a ++ store h.cmsg_len 8 ++ store h.cmsg_level.toNat 4) h.cmsg_type.toNat 4
    (m.drop (a + headerSize))
  simp only [List.length_append, length_store, hbefore, List.append_assoc] at hfirst hsecond hthird
  unfold header
  rw [hlength, if_pos hin]
  simp only [List.append_assoc]
  rw [hfirst, hsecond, hthird]
  have hlevel : h.cmsg_level.toNat % 256 ^ 4 = h.cmsg_level.toNat := Nat.mod_eq_of_lt h.cmsg_level.isLt
  have htype : h.cmsg_type.toNat % 256 ^ 4 = h.cmsg_type.toNat := Nat.mod_eq_of_lt h.cmsg_type.isLt
  have hsize : h.cmsg_len % 256 ^ 8 = h.cmsg_len := Nat.mod_eq_of_lt (by omega)
  rw [hlevel, htype, hsize, BitVec.ofNat_toNat, BitVec.ofNat_toNat, BitVec.setWidth_eq, BitVec.setWidth_eq]

end Cmsg
