import Mathlib.Data.Vector.Basic

/-!
# Packed address arrays

The three loops between arrays of `sockaddr_storage` and blocks of `sockaddr_in` and
`sockaddr_in6`, on memory as lists of bytes: pointers are offsets, and an access outside a
block is undefined behaviour.
-/

namespace SocketApi.Packed

/-! ## Memory -/

inductive Fault where
  | abort | undefinedBehaviour
  deriving DecidableEq, Repr

abbrev Bytes := List UInt8

/-- `sa_family` of the socket address at `a`, in the byte order of the host. -/
def sa_family (m : Bytes) (a : Nat) : Except Fault Nat :=
  match m[a]?, m[a + 1]? with
  | some low, some high => .ok (low.toNat + 256 * high.toNat)
  | _, _ => .error .undefinedBehaviour

/-- `memcpy(dst + d, src + s, n)`. -/
def memcpy (dst : Bytes) (d : Nat) (src : Bytes) (s n : Nat) : Except Fault Bytes :=
  if d + n ≤ dst.length ∧ s + n ≤ src.length then
    .ok (dst.take d ++ (src.drop s).take n ++ dst.drop (d + n))
  else .error .undefinedBehaviour

def AF_INET : Nat := 2
def AF_INET6 : Nat := 10

def sizeofSockaddrIn : Nat := 16
def sizeofSockaddrIn6 : Nat := 28
def sizeofSockaddrStorage : Nat := 128

/-! ## The loops -/

/-- The loop of `unpack_sockaddr` with `left` rounds to go, at round `i` and block position `a`. -/
def unpackLoop (addrArray : Bytes) : (left i a : Nat) → Bytes → Except Fault Bytes
  | 0, _, _, newArray => .ok newArray
  | left + 1, i, a, newArray => do
    let family ← sa_family addrArray a
    if family = AF_INET then
      let newArray ← memcpy newArray (sizeofSockaddrStorage * i) addrArray a sizeofSockaddrIn
      unpackLoop addrArray left (i + 1) (a + sizeofSockaddrIn) newArray
    else if family = AF_INET6 then
      let newArray ← memcpy newArray (sizeofSockaddrStorage * i) addrArray a sizeofSockaddrIn6
      unpackLoop addrArray left (i + 1) (a + sizeofSockaddrIn6) newArray
    else throw .abort

def unpack_sockaddr (addrArray : Bytes) (addrs : Nat) (newArray : Bytes) : Except Fault Bytes :=
  unpackLoop addrArray addrs 0 0 newArray

/-- The first loop of `pack_sockaddr_storage`. -/
def requiredLoop (addrArray : Bytes) : (left i : Nat) → Nat → Except Fault Nat
  | 0, _, required => .ok required
  | left + 1, i, required => do
    let family ← sa_family addrArray (sizeofSockaddrStorage * i)
    if family = AF_INET then requiredLoop addrArray left (i + 1) (required + sizeofSockaddrIn)
    else if family = AF_INET6 then requiredLoop addrArray left (i + 1) (required + sizeofSockaddrIn6)
    else throw .abort

/-- The loop that writes the blocks at `a`; `unknown` is what it does with another family. -/
def packLoop (unknown : Except Fault Unit) (addrArray : Bytes) : (left i a : Nat) → Bytes → Except Fault Bytes
  | 0, _, _, packed => .ok packed
  | left + 1, i, a, packed => do
    let family ← sa_family addrArray (sizeofSockaddrStorage * i)
    if family = AF_INET then
      let packed ← memcpy packed a addrArray (sizeofSockaddrStorage * i) sizeofSockaddrIn
      packLoop unknown addrArray left (i + 1) (a + sizeofSockaddrIn) packed
    else if family = AF_INET6 then
      let packed ← memcpy packed a addrArray (sizeofSockaddrStorage * i) sizeofSockaddrIn6
      packLoop unknown addrArray left (i + 1) (a + sizeofSockaddrIn6) packed
    else
      unknown
      packLoop unknown addrArray left (i + 1) a packed

/-- What `new char[n]` finds in the memory it gives. -/
abbrev Fresh := (n : Nat) → List.Vector UInt8 n

/-- `none` is the NULL of an empty array. -/
def pack_sockaddr_storage (fresh : Fresh) (addrArray : Bytes) (addrs : Nat) : Except Fault (Option Bytes) := do
  let required ← requiredLoop addrArray addrs 0 0
  if 0 < required then
    let newArray ← packLoop (.ok ()) addrArray addrs 0 0 (fresh required).toList
    return some newArray
  else return none

def packSocketAddressArray (addrArray : Bytes) (addrs : Nat) (packedArray : Bytes) : Except Fault Bytes :=
  packLoop (.error .abort) addrArray addrs 0 0 packedArray

/-! ## Entries and blocks -/

/-- A `sockaddr_in` or `sockaddr_in6`. -/
structure Block where
  bytes : Bytes
  wellFormed : (sa_family bytes 0 = .ok AF_INET ∧ bytes.length = sizeofSockaddrIn) ∨
    (sa_family bytes 0 = .ok AF_INET6 ∧ bytes.length = sizeofSockaddrIn6)

/-- A `sockaddr_storage` of one of the two families. -/
structure Entry where
  bytes : Bytes
  size : bytes.length = sizeofSockaddrStorage
  family : sa_family bytes 0 = .ok AF_INET ∨ sa_family bytes 0 = .ok AF_INET6

/-- Any `sockaddr_storage`, written or not. -/
structure Storage where
  bytes : Bytes
  size : bytes.length = sizeofSockaddrStorage

def Entry.isIPv4 (e : Entry) : Bool := sa_family e.bytes 0 = .ok AF_INET

/-- The image of an array in memory. -/
def image {α : Type} (bytes : α → Bytes) (l : List α) : Bytes := (l.map bytes).flatten

theorem sa_family_prefix {b : Bytes} (hb : 2 ≤ b.length) (before behind : Bytes) :
    sa_family (before ++ b ++ behind) before.length = sa_family b 0 := by
  obtain ⟨low, high, b, rfl⟩ : ∃ low high b', b = low :: high :: b' := by
    match b, hb with
    | low :: high :: b, _ => exact ⟨low, high, b, rfl⟩
  simp [sa_family]

theorem sa_family_take {b : Bytes} {n : Nat} (hn : 2 ≤ n) (hb : n ≤ b.length) :
    sa_family (b.take n) 0 = sa_family b 0 := by
  have hprefix := sa_family_prefix (b := b.take n) (by rw [List.length_take]; omega) [] (b.drop n)
  rw [List.nil_append, List.take_append_drop] at hprefix
  exact hprefix.symm

/-- `memcpy` between blocks inside the two memories. -/
theorem memcpy_inside (before old behind before' b behind' : Bytes) (h : old.length = b.length) :
    memcpy (before ++ old ++ behind) before.length (before' ++ b ++ behind') before'.length b.length =
      .ok (before ++ b ++ behind) := by
  have hin : before.length + b.length ≤ (before ++ old ++ behind).length ∧
      before'.length + b.length ≤ (before' ++ b ++ behind').length := by
    simp only [List.length_append]
    omega
  rw [memcpy, if_pos hin, ← h]
  simp [h]

namespace Block

theorem two_le (b : Block) : 2 ≤ b.bytes.length := by
  rcases b.wellFormed with ⟨-, h⟩ | ⟨-, h⟩ <;> rw [h] <;> decide

theorem le_storage (b : Block) : b.bytes.length ≤ sizeofSockaddrStorage := by
  rcases b.wellFormed with ⟨-, h⟩ | ⟨-, h⟩ <;> rw [h] <;> decide

theorem ext {b c : Block} (h : b.bytes = c.bytes) : b = c := by
  cases b
  cases c
  congr

end Block

namespace Entry

/-- The `sockaddr_in` or `sockaddr_in6` in front. -/
def block (e : Entry) : Block where
  bytes := e.bytes.take (if e.isIPv4 then sizeofSockaddrIn else sizeofSockaddrIn6)
  wellFormed := by
    have hsize := e.size
    by_cases h4 : sa_family e.bytes 0 = .ok AF_INET
    · simp only [isIPv4, h4, decide_true, if_true]
      left
      rw [sa_family_take (by decide) (by rw [hsize]; decide), List.length_take, hsize]
      exact ⟨h4, rfl⟩
    · have h6 := e.family.resolve_left h4
      simp only [isIPv4, h4, decide_false, Bool.false_eq_true, if_false]
      right
      rw [sa_family_take (by decide) (by rw [hsize]; decide), List.length_take, hsize]
      exact ⟨h6, rfl⟩

theorem block_length (e : Entry) :
    e.block.bytes.length = if e.isIPv4 then sizeofSockaddrIn else sizeofSockaddrIn6 := by
  simp only [block, List.length_take, e.size]
  split <;> rfl

theorem block_append (e : Entry) : e.block.bytes ++ e.bytes.drop e.block.bytes.length = e.bytes := by
  rw [block_length, block, List.take_append_drop]

theorem two_le (e : Entry) : 2 ≤ e.bytes.length := by
  rw [e.size]
  decide

theorem block_family (e : Entry) : sa_family e.block.bytes 0 = sa_family e.bytes 0 := by
  have := sa_family_prefix e.block.two_le [] (e.bytes.drop e.block.bytes.length)
  rw [List.nil_append, block_append] at this
  exact this.symm

/-- A block copied to the front of a `sockaddr_storage`. -/
def copy (old : Storage) (b : Block) : Entry where
  bytes := b.bytes ++ old.bytes.drop b.bytes.length
  size := by
    have := b.le_storage
    rw [List.length_append, List.length_drop, old.size]
    omega
  family := by
    have hfamily := sa_family_prefix b.two_le [] (old.bytes.drop b.bytes.length)
    rw [List.nil_append, List.length_nil] at hfamily
    rw [hfamily]
    exact b.wellFormed.imp And.left And.left

theorem block_copy (old : Storage) (b : Block) : (copy old b).block = b := by
  have hfamily : sa_family (copy old b).bytes 0 = sa_family b.bytes 0 :=
    sa_family_prefix b.two_le [] (old.bytes.drop b.bytes.length)
  have hlen : (if (copy old b).isIPv4 then sizeofSockaddrIn else sizeofSockaddrIn6) = b.bytes.length := by
    rw [isIPv4, hfamily]
    rcases b.wellFormed with ⟨hf, hl⟩ | ⟨hf, hl⟩ <;> rw [hf, hl] <;> decide
  apply Block.ext
  change (copy old b).bytes.take _ = b.bytes
  rw [hlen]
  exact List.take_left' rfl

end Entry

/-! ## One round -/

section
variable {m : Bytes} {b : Block} {left i a : Nat} {dst : Bytes}

theorem unpackLoop_round (hf : sa_family m a = sa_family b.bytes 0) :
    unpackLoop m (left + 1) i a dst =
      (memcpy dst (sizeofSockaddrStorage * i) m a b.bytes.length).bind
        (unpackLoop m left (i + 1) (a + b.bytes.length)) := by
  rcases b.wellFormed with ⟨hb, hl⟩ | ⟨hb, hl⟩ <;> rw [unpackLoop, hf, hb, hl] <;> rfl

theorem packLoop_round (unknown : Except Fault Unit)
    (hf : sa_family m (sizeofSockaddrStorage * i) = sa_family b.bytes 0) :
    packLoop unknown m (left + 1) i a dst =
      (memcpy dst a m (sizeofSockaddrStorage * i) b.bytes.length).bind
        (packLoop unknown m left (i + 1) (a + b.bytes.length)) := by
  rcases b.wellFormed with ⟨hb, hl⟩ | ⟨hb, hl⟩ <;> rw [packLoop, hf, hb, hl] <;> rfl

theorem requiredLoop_round {required : Nat} (hf : sa_family m (sizeofSockaddrStorage * i) = sa_family b.bytes 0) :
    requiredLoop m (left + 1) i required = requiredLoop m left (i + 1) (required + b.bytes.length) := by
  rcases b.wellFormed with ⟨hb, hl⟩ | ⟨hb, hl⟩ <;> rw [requiredLoop, hf, hb, hl] <;> rfl

end

/-! ## Whole arrays -/

theorem image_cons {α : Type} (bytes : α → Bytes) (x : α) (l : List α) :
    image bytes (x :: l) = bytes x ++ image bytes l := by
  simp [image]

theorem unpackLoop_blocks (bs : List Block) (olds : List Storage) (h : bs.length ≤ olds.length)
    (before behind written : Bytes) (i : Nat) (hi : written.length = sizeofSockaddrStorage * i) :
    unpackLoop (before ++ image Block.bytes bs ++ behind) bs.length i before.length
        (written ++ image Storage.bytes olds) =
      .ok (written ++ image Entry.bytes (List.zipWith Entry.copy olds bs) ++
        image Storage.bytes (olds.drop bs.length)) := by
  induction bs generalizing olds before written i with
  | nil => simp [unpackLoop, image]
  | cons b bs ih =>
    match olds, h with
    | old :: olds, h =>
      have hm : before ++ image Block.bytes (b :: bs) ++ behind =
          before ++ b.bytes ++ (image Block.bytes bs ++ behind) := by
        rw [image_cons]
        simp only [List.append_assoc]
      have hdst : written ++ image Storage.bytes (old :: olds) = written ++ old.bytes.take b.bytes.length ++
          (old.bytes.drop b.bytes.length ++ image Storage.bytes olds) := by
        rw [image_cons, List.append_assoc, ← List.append_assoc (List.take _ _), List.take_append_drop]
      have hold : (old.bytes.take b.bytes.length).length = b.bytes.length := by
        have := b.le_storage
        rw [List.length_take, old.size]
        omega
      have hcopy : written ++ b.bytes ++ (old.bytes.drop b.bytes.length ++ image Storage.bytes olds) =
          (written ++ (Entry.copy old b).bytes) ++ image Storage.bytes olds := by
        simp [Entry.copy]
      have hnext : (written ++ (Entry.copy old b).bytes).length = sizeofSockaddrStorage * (i + 1) := by
        rw [List.length_append, hi, (Entry.copy old b).size, Nat.mul_add, Nat.mul_one]
      have ih := ih olds (Nat.le_of_succ_le_succ h) (before ++ b.bytes) _ (i + 1) hnext
      rw [List.length_cons, unpackLoop_round (b := b) (by rw [hm, sa_family_prefix b.two_le]), ← hi, hm, hdst,
        memcpy_inside _ _ _ _ _ _ hold, Except.bind, hcopy]
      rw [List.length_append, List.append_assoc (before ++ b.bytes)] at ih
      rw [ih, List.zipWith_cons_cons, image_cons]
      simp only [List.append_assoc, List.drop_succ_cons]

theorem requiredLoop_entries (es : List Entry) (before : Bytes) (i required : Nat)
    (hi : before.length = sizeofSockaddrStorage * i) :
    requiredLoop (before ++ image Entry.bytes es) es.length i required =
      .ok (required + (image Block.bytes (es.map Entry.block)).length) := by
  induction es generalizing before i required with
  | nil => simp [requiredLoop, image]
  | cons e es ih =>
    have hf : sa_family (before ++ image Entry.bytes (e :: es)) (sizeofSockaddrStorage * i) =
        sa_family e.block.bytes 0 := by
      rw [image_cons, ← hi, ← List.append_assoc, sa_family_prefix e.two_le, e.block_family]
    have hnext : (before ++ e.bytes).length = sizeofSockaddrStorage * (i + 1) := by
      rw [List.length_append, hi, e.size, Nat.mul_add, Nat.mul_one]
    rw [List.length_cons, requiredLoop_round hf, image_cons, ← List.append_assoc, ih _ _ _ hnext,
      List.map_cons, image_cons, List.length_append, Nat.add_assoc]

theorem packLoop_entries (unknown : Except Fault Unit) (es : List Entry) (before written old behind : Bytes) (i : Nat)
    (hi : before.length = sizeofSockaddrStorage * i)
    (hold : old.length = (image Block.bytes (es.map Entry.block)).length) :
    packLoop unknown (before ++ image Entry.bytes es) es.length i written.length (written ++ old ++ behind) =
      .ok (written ++ image Block.bytes (es.map Entry.block) ++ behind) := by
  induction es generalizing before written old i with
  | nil =>
    obtain rfl : old = [] := List.length_eq_zero_iff.mp hold
    simp [packLoop, image]
  | cons e es ih =>
    rw [List.map_cons, image_cons, List.length_append] at hold
    have hf : sa_family (before ++ image Entry.bytes (e :: es)) (sizeofSockaddrStorage * i) =
        sa_family e.block.bytes 0 := by
      rw [image_cons, ← hi, ← List.append_assoc, sa_family_prefix e.two_le, e.block_family]
    have htake : (old.take e.block.bytes.length).length = e.block.bytes.length := by
      rw [List.length_take]
      omega
    have hdrop : (old.drop e.block.bytes.length).length = (image Block.bytes (es.map Entry.block)).length := by
      rw [List.length_drop]
      omega
    have hcopy := memcpy_inside written (old.take e.block.bytes.length)
      (old.drop e.block.bytes.length ++ behind) before e.block.bytes
      (e.bytes.drop e.block.bytes.length ++ image Entry.bytes es) htake
    simp only [← List.append_assoc] at hcopy
    rw [List.append_assoc written, List.take_append_drop, List.append_assoc before, e.block_append] at hcopy
    have hnext : (before ++ e.bytes).length = sizeofSockaddrStorage * (i + 1) := by
      rw [List.length_append, hi, e.size, Nat.mul_add, Nat.mul_one]
    have ih := ih (before ++ e.bytes) (written ++ e.block.bytes) _ (i + 1) hnext hdrop
    rw [List.length_cons, packLoop_round unknown hf, ← hi, image_cons, ← List.append_assoc, hcopy,
      Except.bind, ← List.length_append, ih, List.map_cons, image_cons, ← List.append_assoc]

/-! ## The codec -/

theorem image_blocks_length (l : List Entry) :
    (image Block.bytes (l.map Entry.block)).length =
      16 * l.countP Entry.isIPv4 + 28 * l.countP (fun e => !e.isIPv4) := by
  induction l with
  | nil => rfl
  | cons e l ih =>
    rw [List.map_cons, image_cons, List.length_append, ih, e.block_length]
    by_cases h : e.isIPv4
    · simp only [h, if_true, sizeofSockaddrIn, List.countP_cons, Bool.not_true]
      simp
      omega
    · simp [h, sizeofSockaddrIn6]
      omega

theorem image_eq_nil {bs : List Block} : (image Block.bytes bs).length = 0 ↔ bs = [] := by
  cases bs with
  | nil => simp [image]
  | cons b bs =>
    have := b.two_le
    simp only [image_cons, List.length_append, reduceCtorEq, iff_false]
    omega

/-- What `pack_sockaddr_storage` returns: the blocks one behind the other, or NULL. -/
theorem pack_entries (fresh : Fresh) (l : List Entry) :
    pack_sockaddr_storage fresh (image Entry.bytes l) l.length =
      .ok (if l = [] then none else some (image Block.bytes (l.map Entry.block))) := by
  have hrequired := requiredLoop_entries l [] 0 0 rfl
  rw [List.nil_append, Nat.zero_add] at hrequired
  have hempty : (image Block.bytes (l.map Entry.block)).length = 0 ↔ l = [] := by
    rw [image_eq_nil, List.map_eq_nil_iff]
  rw [pack_sockaddr_storage, hrequired]
  by_cases hl : l = []
  · rw [if_pos hl]
    exact if_neg (by rw [hempty.mpr hl]; decide)
  · have hpack := packLoop_entries (.ok ()) l [] [] (fresh (image Block.bytes (l.map Entry.block)).length).toList
      [] 0 rfl (List.Vector.toList_length _)
    simp only [List.nil_append, List.append_nil, List.length_nil] at hpack
    have hpos : 0 < (image Block.bytes (l.map Entry.block)).length := by
      have := mt hempty.mp hl
      omega
    rw [if_neg hl]
    refine (if_pos hpos).trans ?_
    rw [hpack]
    rfl

theorem unpack_blocks (bs : List Block) (newArray : List Storage) (h : bs.length ≤ newArray.length) :
    unpack_sockaddr (image Block.bytes bs) bs.length (image Storage.bytes newArray) =
      .ok (image Entry.bytes (List.zipWith Entry.copy newArray bs) ++
        image Storage.bytes (newArray.drop bs.length)) := by
  have hloop := unpackLoop_blocks bs newArray h [] [] [] 0 rfl
  simp only [List.nil_append, List.append_nil, List.length_nil] at hloop
  exact hloop

theorem zipWith_copy_block (bs : List Block) (newArray : List Storage) (h : bs.length ≤ newArray.length) :
    (List.zipWith Entry.copy newArray bs).map Entry.block = bs := by
  induction bs generalizing newArray with
  | nil => simp
  | cons b bs ih =>
    match newArray, h with
    | old :: newArray, h =>
      rw [List.zipWith_cons_cons, List.map_cons, Entry.block_copy, ih newArray (Nat.le_of_succ_le_succ h)]

/-- Packing and unpacking undo each other for every mix of the two families, and the two
packers write the same bytes. -/
theorem packed_array_codec (fresh : Fresh) :
    (∀ l : List Entry, ∃ p, pack_sockaddr_storage fresh (image Entry.bytes l) l.length = .ok p ∧
      (p.getD []).length = 16 * l.countP Entry.isIPv4 + 28 * l.countP (fun e => !e.isIPv4) ∧
      (∀ newArray : List Storage, l.length ≤ newArray.length → ∃ out : List Entry,
        unpack_sockaddr (p.getD []) l.length (image Storage.bytes newArray) =
          .ok (image Entry.bytes out ++ image Storage.bytes (newArray.drop l.length)) ∧
        out.map Entry.block = l.map Entry.block) ∧
      ∀ dst : Bytes, (p.getD []).length ≤ dst.length →
        packSocketAddressArray (image Entry.bytes l) l.length dst =
          .ok (p.getD [] ++ dst.drop (p.getD []).length)) ∧
    ∀ (bs : List Block) (newArray : List Storage), bs.length ≤ newArray.length → ∃ out : List Entry,
      unpack_sockaddr (image Block.bytes bs) bs.length (image Storage.bytes newArray) =
        .ok (image Entry.bytes out ++ image Storage.bytes (newArray.drop bs.length)) ∧
      out.length = bs.length ∧
      pack_sockaddr_storage fresh (image Entry.bytes out) out.length =
        .ok (if bs = [] then none else some (image Block.bytes bs)) := by
  constructor
  · intro l
    have hp : ((if l = [] then none else some (image Block.bytes (l.map Entry.block)) : Option Bytes).getD []) =
        image Block.bytes (l.map Entry.block) := by
      by_cases hl : l = []
      · rw [if_pos hl, hl]
        rfl
      · rw [if_neg hl]
        rfl
    refine ⟨_, pack_entries fresh l, ?_⟩
    rw [hp]
    refine ⟨image_blocks_length l, ?_, ?_⟩
    · intro newArray h
      rw [← List.length_map Entry.block] at h
      have hunpack := unpack_blocks (l.map Entry.block) newArray h
      rw [List.length_map] at hunpack
      exact ⟨_, hunpack, zipWith_copy_block _ newArray h⟩
    · intro dst h
      have hpack := packLoop_entries (.error .abort) l [] [] (dst.take (image Block.bytes (l.map Entry.block)).length)
        (dst.drop (image Block.bytes (l.map Entry.block)).length) 0 rfl (by rw [List.length_take]; omega)
      rw [List.nil_append, List.nil_append, List.take_append_drop, List.nil_append] at hpack
      exact hpack
  · intro bs newArray h
    have hblocks := zipWith_copy_block bs newArray h
    refine ⟨List.zipWith Entry.copy newArray bs, unpack_blocks bs newArray h, ?_, ?_⟩
    · rw [List.length_zipWith]
      omega
    · have hnil : List.zipWith Entry.copy newArray bs = [] ↔ bs = [] := by
        rw [← List.map_eq_nil_iff (f := Entry.block), hblocks]
      rw [pack_entries, hblocks, if_congr hnil rfl rfl]

end SocketApi.Packed
