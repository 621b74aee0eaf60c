import SocketApi.Lib.ByteOrder
import SocketApi.Lib.OnesComplement

/-!
# The Internet checksum

`calculateChecksum` takes the carry out of its sum after each word; the sum is the one's
complement sum of the words in network byte order.
-/

namespace SocketApi

namespace Checksum

variable (B : ByteOrder)

abbrev Card32 := BitVec 32
abbrev Bytes := List (BitVec 8)

/-! ## The functions -/

/-- One word is added, and the carry taken out. -/
def addWord (sum : Card32) (word : BitVec 16) : Card32 :=
  let sum := sum + word.setWidth 32
  if sum > 0xffff then sum - 0xffff else sum

/-- `calculateChecksum` of the bytes from `buf + i` on. -/
def calculateChecksum : Bytes → Card32 → Card32
  | first :: second :: rest, sum => calculateChecksum rest (addWord sum (B.htons (B.load first second)))
  | [last], sum => addWord sum (B.htons (last.setWidth 16))
  | [], sum => sum

def wrapChecksum (sum : Card32) : Card32 := (B.htons ((~~~sum &&& 0xffff).setWidth 16)).setWidth 32

/-- A word is written to memory. -/
def store (word : BitVec 16) : Bytes :=
  match B with
  | .little => [word.extractLsb' 0 8, word.extractLsb' 8 8]
  | .big => [word.extractLsb' 8 8, word.extractLsb' 0 8]

/-- The sum and the word of each addition of `calculateChecksum`. -/
def additions : Bytes → Card32 → List (Card32 × BitVec 16)
  | first :: second :: rest, sum =>
    let word := B.htons (B.load first second)
    (sum, word) :: additions rest (addWord sum word)
  | [last], sum => [(sum, B.htons (last.setWidth 16))]
  | [], _ => []

/-! ## What is summed up -/

/-- The words of a buffer in network byte order, an odd byte padded with zero. -/
def words : Bytes → List Nat
  | first :: second :: rest => (first ++ second).toNat :: words rest
  | [last] => [(last ++ (0 : BitVec 8)).toNat]
  | [] => []

theorem words_le (buf : Bytes) : ∀ x ∈ words buf, x ≤ OnesComplement.ones 16 := by
  intro x hx
  induction buf using words.induct with
  | case1 first second rest ih =>
    rcases List.mem_cons.mp hx with rfl | hx
    · exact OnesComplement.toNat_le_ones (first ++ second)
    · exact ih hx
  | case2 last =>
    rcases List.mem_cons.mp hx with rfl | hx
    · exact OnesComplement.toNat_le_ones (last ++ (0 : BitVec 8))
    · cases hx
  | case3 => cases hx

/-- A buffer of even length is cut between words. -/
theorem words_append {buf : Bytes} (h : buf.length % 2 = 0) (rest : Bytes) :
    words (buf ++ rest) = words buf ++ words rest := by
  induction buf using words.induct with
  | case1 first second buf ih =>
    have heven : buf.length % 2 = 0 := by
      simp only [List.length_cons] at h
      omega
    simp only [List.cons_append, words, ih heven]
  | case2 last => simp at h
  | case3 => rfl

/-! ## The sum -/

theorem toNat_addWord {sum : Card32} {word : BitVec 16} (h : sum.toNat ≤ 0xffff) :
    (addWord sum word).toNat = OnesComplement.add 16 sum.toNat word.toNat := by
  have hw := OnesComplement.toNat_le_ones word
  have hs : sum.toNat ≤ OnesComplement.ones 16 := h
  have hsum : (sum + word.setWidth 32).toNat = sum.toNat + word.toNat := by
    have := word.isLt
    rw [BitVec.toNat_add, BitVec.toNat_setWidth]
    omega
  have hlt : (sum + word.setWidth 32 > 0xffff) ↔ OnesComplement.ones 16 < sum.toNat + word.toNat := by
    rw [GT.gt, BitVec.lt_def, hsum]
    rfl
  unfold addWord
  by_cases hcarry : OnesComplement.ones 16 < sum.toNat + word.toNat
  · rw [OnesComplement.add_of_lt hs hw hcarry]
    simp only [hlt, hcarry, if_true]
    rw [BitVec.toNat_sub_of_le, hsum]
    · rfl
    · rw [BitVec.le_def, hsum]
      exact Nat.le_of_lt hcarry
  · rw [OnesComplement.add_of_le (by omega)]
    simp only [hlt, hcarry, if_false]
    exact hsum

theorem addWord_le {sum : Card32} (h : sum.toNat ≤ 0xffff) (word : BitVec 16) : (addWord sum word).toNat ≤ 0xffff := by
  rw [toNat_addWord h]
  exact OnesComplement.add_le h (OnesComplement.toNat_le_ones word)

/-- A single byte is the high octet of its word on a host with the low octet first. -/
theorem htons_byte (last : BitVec 8) : ByteOrder.little.htons (last.setWidth 16) = last ++ (0 : BitVec 8) := by
  have h : last.setWidth 16 = (0 : BitVec 8) ++ last := by
    apply BitVec.eq_of_toNat_eq
    have := last.isLt
    rw [BitVec.toNat_setWidth, BitVec.toNat_append, Nat.mod_eq_of_lt (by omega)]
    simp
  exact h ▸ ByteOrder.htons_load .little last 0

/-- The sum is the one's complement sum of the words. -/
theorem toNat_calculateChecksum {sum : Card32} (h : sum.toNat ≤ 0xffff) (buf : Bytes) :
    (calculateChecksum .little buf sum).toNat = OnesComplement.sum 16 sum.toNat (words buf) := by
  induction buf using words.induct generalizing sum with
  | case1 first second rest ih =>
    rw [calculateChecksum, ih (addWord_le h _), toNat_addWord h, ByteOrder.htons_load]
    rfl
  | case2 last =>
    rw [calculateChecksum, toNat_addWord h, htons_byte]
    rfl
  | case3 => rfl

theorem calculateChecksum_le {sum : Card32} (h : sum.toNat ≤ 0xffff) (buf : Bytes) :
    (calculateChecksum .little buf sum).toNat ≤ 0xffff := by
  rw [toNat_calculateChecksum h]
  exact OnesComplement.sum_le h (words_le buf)

theorem additions_lt {sum : Card32} (h : sum.toNat ≤ 0xffff) (buf : Bytes) :
    ∀ s ∈ additions B buf sum, s.1.toNat + s.2.toNat < 2 ^ 32 := by
  intro s hs
  induction buf using words.induct generalizing sum with
  | case1 first second rest ih =>
    rcases List.mem_cons.mp hs with rfl | hs
    · have := (B.htons (B.load first second)).isLt
      dsimp only
      omega
    · exact ih (addWord_le h _) hs
  | case2 last =>
    rcases List.mem_cons.mp hs with rfl | hs
    · have := (B.htons (last.setWidth 16)).isLt
      dsimp only
      omega
    · cases hs
  | case3 => cases hs

theorem calculateChecksum_append {buf : Bytes} (heven : buf.length % 2 = 0) (rest : Bytes) (sum : Card32) :
    calculateChecksum B (buf ++ rest) sum = calculateChecksum B rest (calculateChecksum B buf sum) := by
  induction buf using words.induct generalizing sum with
  | case1 first second buf ih =>
    have heven' : buf.length % 2 = 0 := by
      simp only [List.length_cons] at heven
      omega
    simp only [List.cons_append, calculateChecksum, ih heven']
  | case2 last => simp at heven
  | case3 => rfl

/-! ## The checksum field -/

theorem store_htons (x : BitVec 16) : store B (B.htons x) = [x.extractLsb' 8 8, x.extractLsb' 0 8] := by
  cases B with
  | little =>
    have h := ByteOrder.append_extract (x.extractLsb' 0 8) (x.extractLsb' 8 8)
    unfold store ByteOrder.htons
    rw [h.1, h.2]
  | big => rfl

/-- The word of a stored checksum is the complement of the sum. -/
theorem words_store {sum : Card32} (h : sum.toNat ≤ 0xffff) :
    words (store B ((wrapChecksum B sum).setWidth 16)) = [0xffff - sum.toNat] := by
  have hword : (wrapChecksum B sum).setWidth 16 = B.htons ((~~~sum &&& 0xffff).setWidth 16) := by
    unfold wrapChecksum
    rw [BitVec.setWidth_setWidth_of_le _ (by decide), BitVec.setWidth_eq]
  have hcomplement : ((~~~sum &&& 0xffff).setWidth 16).toNat = 0xffff - sum.toNat := by
    have hmask : (~~~sum &&& 0xffff).toNat = (~~~sum).toNat % 2 ^ 16 := by
      rw [BitVec.toNat_and]
      exact Nat.and_two_pow_sub_one_eq_mod _ 16
    rw [BitVec.toNat_setWidth, hmask, BitVec.toNat_not]
    omega
  rw [hword, store_htons]
  unfold words
  rw [ByteOrder.extract_append, hcomplement]
  rfl

/-- Recomputed with its checksum in place, the sum is all ones. -/
theorem calculateChecksum_stored {sum : Card32} (h : sum.toNat ≤ 0xffff) {before behind : Bytes}
    (heven : before.length % 2 = 0) :
    calculateChecksum .little
      (before ++ store .little ((wrapChecksum .little
        (calculateChecksum .little (before ++ 0 :: 0 :: behind) sum)).setWidth 16) ++ behind) sum = 0xffff := by
  have hle := calculateChecksum_le h (before ++ 0 :: 0 :: behind)
  have hsum := toNat_calculateChecksum h (before ++ 0 :: 0 :: behind)
  rw [OnesComplement.sum_eq_reduce h (words_le _), words_append heven] at hsum
  generalize calculateChecksum .little (before ++ 0 :: 0 :: behind) sum = total at hle hsum
  have hfield : (store .little ((wrapChecksum .little total).setWidth 16)).length % 2 = 0 := by
    simp [store]
  have hwords : words (before ++ store .little ((wrapChecksum .little total).setWidth 16) ++ behind) =
      words before ++ [0xffff - total.toNat] ++ words behind := by
    rw [words_append (by simp only [List.length_append]; omega), words_append heven, words_store .little hle]
  apply BitVec.eq_of_toNat_eq
  rw [toNat_calculateChecksum h, OnesComplement.sum_eq_reduce h (words_le _), hwords, hsum]
  have hplain : sum.toNat + (words before ++ words (0 :: 0 :: behind)).sum =
      sum.toNat + (words before).sum + (words behind).sum := by
    simp [words, Nat.add_assoc]
  rw [hplain]
  have hcomplement :=
    OnesComplement.reduce_complement (w := 16) (n := sum.toNat + (words before).sum + (words behind).sum)
    (by decide)
  rw [List.sum_append, List.sum_append, List.sum_singleton]
  refine (congrArg (OnesComplement.reduce 16) ?_).trans hcomplement
  have hones : OnesComplement.ones 16 = 0xffff := rfl
  rw [hones]
  omega

/-- What is to hold of the checksum of a buffer. -/
structure Correct (buf : Bytes) (sum : Card32) : Prop where
  total : (calculateChecksum .little buf sum).toNat = OnesComplement.sum 16 sum.toNat (words buf)
  noOverflow : ∀ s ∈ additions .little buf sum, s.1.toNat + s.2.toNat < 2 ^ 32
  bound : (calculateChecksum .little buf sum).toNat ≤ 0xffff
  chained : ∀ front rest, buf = front ++ rest → front.length % 2 = 0 →
    calculateChecksum .little buf sum = calculateChecksum .little rest (calculateChecksum .little front sum)
  verified : ∀ before behind, buf = before ++ 0 :: 0 :: behind → before.length % 2 = 0 →
    calculateChecksum .little (before ++ store .little ((wrapChecksum .little
      (calculateChecksum .little buf sum)).setWidth 16) ++ behind) sum = 0xffff

/-- The checksum of every buffer is correct. -/
theorem checksum_correct (buf : Bytes) (sum : Card32) (h : sum.toNat ≤ 0xffff) : Correct buf sum where
  total := toNat_calculateChecksum h buf
  noOverflow := additions_lt .little h buf
  bound := calculateChecksum_le h buf
  chained := fun _ rest hbuf heven => hbuf ▸ calculateChecksum_append .little heven rest sum
  verified := fun _ _ hbuf heven => hbuf ▸ calculateChecksum_stored h heven

/-- Three bytes and the largest initial sum. -/
theorem checksum_correct_odd :
    Correct [0xff, 0xff, 0x01] 0xffff := checksum_correct [0xff, 0xff, 0x01] 0xffff (by decide)

example : calculateChecksum .little [0xff, 0xff, 0x01] 0xffff = 0x0100 := by decide

end Checksum

end SocketApi
