import SocketApi.Address.RoundTrip
import SocketApi.Lib.ByteOrder
import Mathlib.Data.List.Lex

/-!
# The order of internet addresses

Equality compares the words, `<` and `>` the words and behind them the port: `<` in the byte
order of the host, `>` as it is stored.
-/

namespace SocketApi

namespace InternetAddress

variable (B : ByteOrder)

/-! ## The operators -/

/-- The loop of `operator<` from the word `i` on, and with the operands exchanged that of
`operator>`; `port` is the comparison behind it. -/
def precedes (a b : InternetAddress) (port : Bool) (i : Nat) : Bool :=
  if i < 8 then
    if a.word i < b.word i then true
    else if b.word i < a.word i then false
    else precedes a b port (i + 1)
  else port
termination_by 8 - i

/-- `operator==`, which is `IN6_ARE_ADDR_EQUAL`. -/
def eq (a b : InternetAddress) : Bool := a.host16 = b.host16

/-- `operator!=`. -/
def ne (a b : InternetAddress) : Bool := !decide (a.host16 = b.host16)

/-- `operator<`. -/
def lt (a b : InternetAddress) : Bool := precedes a b (a.port < b.port) 0

/-- `operator>`. The object holds its port in the byte order of the network. -/
def gt (a b : InternetAddress) : Bool := precedes b a (B.htons b.port < B.htons a.port) 0

/-- `operator<=`. -/
def le (a b : InternetAddress) : Bool := a.lt b || a.eq b

/-- `operator>=`. -/
def ge (a b : InternetAddress) : Bool := a.gt B b || a.eq b

/-! ## The laws of a total order -/

/-- Exactly one of three tests. -/
def ExactlyOne (p q r : Bool) : Prop :=
  (p = true ∧ q = false ∧ r = false) ∨ (p = false ∧ q = true ∧ r = false) ∨ (p = false ∧ q = false ∧ r = true)

/-- The operators agree on `a` and `b`, and `<` is transitive along `a`, `b` and `c`. -/
structure Consistent (a b c : InternetAddress) : Prop where
  trichotomy : ExactlyOne (a.lt b) (a.eq b) (a.gt B b)
  le_iff : a.le b = true ↔ a.gt B b = false
  ge_iff : a.ge B b = true ↔ a.lt b = false
  ne_iff : a.ne b = true ↔ a.eq b = false
  lt_iff_gt : a.lt b = true ↔ b.gt B a = true
  trans : a.lt b = true → b.lt c = true → a.lt c = true

variable {B} {a b c : InternetAddress}

/-! ## The loop -/

/-- The words from `i` on, and a port behind them. -/
def key (a : InternetAddress) (port : BitVec 16) (i : Nat) : List Nat :=
  (a.host16.toList.drop i).map BitVec.toNat ++ [port.toNat]

theorem key_succ {i : Nat} (h : i < 8) (port : BitVec 16) :
    a.key port i = (a.word i).toNat :: a.key port (i + 1) := by
  unfold key
  rw [drop_words h]
  rfl

theorem precedes_lt {i : Nat} (h : i < 8) (port : Bool) :
    precedes a b port i =
      if a.word i < b.word i then true else if b.word i < a.word i then false else precedes a b port (i + 1) := by
  rw [precedes, if_pos h]

theorem precedes_eight {i : Nat} (h : ¬i < 8) (port : Bool) : precedes a b port i = port := by
  rw [precedes, if_neg h]

/-- The loop compares lexicographically. -/
theorem precedes_iff (p q : BitVec 16) (n i : Nat) (hn : i + n = 8) :
    precedes a b (p < q) i = true ↔ a.key p i < b.key q i := by
  induction n generalizing i with
  | zero =>
    have hi : i = 8 := by omega
    subst hi
    rw [precedes_eight (by decide)]
    simp [key, drop_eight, BitVec.lt_def, List.cons_lt_cons_iff]
  | succ n ih =>
    have h : i < 8 := by omega
    rw [precedes_lt h, key_succ h, key_succ h, List.cons_lt_cons_iff, ← ih (i + 1) (by omega)]
    by_cases hlt : a.word i < b.word i
    · simp [hlt, BitVec.lt_def.mp hlt]
    · by_cases hgt : b.word i < a.word i
      · have hgt' := BitVec.lt_def.mp hgt
        have hne : ¬(a.word i).toNat = (b.word i).toNat := by omega
        have hnlt : ¬(a.word i).toNat < (b.word i).toNat := by omega
        simp [hlt, hgt, hne, hnlt]
      · rw [BitVec.lt_def] at hlt hgt
        have he : (a.word i).toNat = (b.word i).toNat := by omega
        simp [BitVec.lt_def, he]

/-- Words that are equal leave the decision to the ports. -/
theorem precedes_of_eq (h : a.host16 = b.host16) (port : Bool) (n i : Nat) (hn : i + n = 8) :
    precedes a b port i = port := by
  induction n generalizing i with
  | zero => exact precedes_eight (by omega) port
  | succ n ih =>
    have hw : a.word i = b.word i := by
      unfold word
      rw [h]
    rw [precedes_lt (by omega), hw, ih (i + 1) (by omega)]
    simp

/-- A word that differs leaves nothing to the ports. -/
theorem precedes_of_ne {i j : Nat} (hij : i ≤ j) (hj : j < 8) (hne : a.word j ≠ b.word j) (p q : Bool) :
    precedes a b p i = precedes a b q i := by
  induction h : j - i generalizing i with
  | zero =>
    have hi : i = j := by omega
    subst hi
    have hne' : (a.word i).toNat ≠ (b.word i).toNat := fun he => hne (BitVec.eq_of_toNat_eq he)
    rw [precedes_lt hj, precedes_lt hj]
    by_cases hlt : a.word i < b.word i
    · simp [hlt]
    · have hgt : b.word i < a.word i := by
        rw [BitVec.lt_def] at hlt ⊢
        omega
      simp [hlt, hgt]
  | succ n ih =>
    have hi : i < 8 := by omega
    rw [precedes_lt hi, precedes_lt hi, ih (by omega) (by omega)]

theorem exists_word_ne (h : a.host16 ≠ b.host16) : ∃ j, j < 8 ∧ a.word j ≠ b.word j := by
  by_contra hnone
  apply h
  ext1 j hj
  have hw : a.word j = b.word j := by
    by_contra hne
    exact hnone ⟨j, hj, hne⟩
  simpa [word, hj] using hw

/-! ## The operators on keys -/

theorem lt_iff_key : a.lt b = true ↔ a.key a.port 0 < b.key b.port 0 :=
  precedes_iff a.port b.port 8 0 rfl

theorem lt_trans (hab : a.lt b = true) (hbc : b.lt c = true) : a.lt c = true := by
  rw [lt_iff_key] at *
  exact List.lt_trans hab hbc

theorem lt_asymm (h : a.lt b = true) : b.lt a = false := by
  rw [lt_iff_key] at h
  rw [Bool.eq_false_iff, ne_eq, lt_iff_key]
  exact List.lt_asymm h

/-- Where a word differs, `>` is `<` with the operands exchanged. -/
theorem gt_of_ne (h : a.host16 ≠ b.host16) : a.gt B b = b.lt a := by
  obtain ⟨j, hj, hne⟩ := exists_word_ne h
  exact precedes_of_ne (Nat.zero_le j) hj hne.symm _ _

theorem lt_total (h : a.host16 ≠ b.host16) : a.lt b = true ∨ b.lt a = true := by
  rw [lt_iff_key, lt_iff_key]
  rcases lt_trichotomy (a.key a.port 0) (b.key b.port 0) with hlt | he | hgt
  · exact Or.inl hlt
  · obtain ⟨j, hj, hne⟩ := exists_word_ne h
    have hlists : a.host16.toList = b.host16.toList := by
      have hmap := (List.append_inj he (by simp)).1
      rw [List.drop_zero, List.drop_zero] at hmap
      exact List.map_injective_iff.mpr (fun x y hxy => BitVec.eq_of_toNat_eq hxy) hmap
    exact absurd (Vector.toList_inj.mp hlists) h
  · exact Or.inr hgt

/-! ## When the operators agree -/

theorem consistent_of_ne (h : a.host16 ≠ b.host16) : Consistent B a b c := by
  have heq : a.eq b = false := by simp [eq, h]
  have hne : a.ne b = true := by simp [ne, h]
  have hgt : a.gt B b = b.lt a := gt_of_ne h
  have hgt' : b.gt B a = a.lt b := gt_of_ne (Ne.symm h)
  have hle : a.le b = a.lt b := by simp [le, heq]
  have hge : a.ge B b = b.lt a := by simp [ge, heq, hgt]
  rcases lt_total h with hlt | hlt
  · have hnot := lt_asymm hlt
    refine ⟨Or.inl ⟨hlt, heq, ?_⟩, ?_, ?_, ?_, ?_, lt_trans⟩ <;> simp [hgt, hgt', hle, hge, hlt, hnot, heq, hne]
  · have hnot := lt_asymm hlt
    refine ⟨Or.inr (Or.inr ⟨hnot, heq, ?_⟩), ?_, ?_, ?_, ?_, lt_trans⟩ <;>
      simp [hgt, hgt', hle, hge, hlt, hnot, heq, hne]

theorem lt_of_eq (h : a.host16 = b.host16) : a.lt b = decide (a.port < b.port) := precedes_of_eq h _ 8 0 rfl

theorem gt_of_eq (h : a.host16 = b.host16) : a.gt B b = decide (B.htons b.port < B.htons a.port) :=
  precedes_of_eq h.symm _ 8 0 rfl

theorem consistent_of_same (h : a.host16 = b.host16) (hp : a.port = b.port) : Consistent B a b c := by
  have heq : a.eq b = true := by simp [eq, h]
  have hne : a.ne b = false := by simp [ne, h]
  have hlt : a.lt b = false := by simp [lt_of_eq h, hp]
  have hgt : a.gt B b = false := by simp [gt_of_eq h, hp]
  have hgt' : b.gt B a = false := by simp [gt_of_eq h.symm, hp]
  refine ⟨Or.inr (Or.inl ⟨hlt, heq, hgt⟩), ?_, ?_, ?_, ?_, lt_trans⟩ <;> simp [le, ge, heq, hne, hlt, hgt, hgt']

/-- Equal words leave no room for `<` and `>`, so that neither port may come first. -/
theorem same_port (hc : Consistent B a b c) (h : a.host16 = b.host16) : a.port = b.port := by
  have heq : a.eq b = true := by simp [eq, h]
  have hlt : a.lt b = false := by
    rcases hc.trichotomy with ⟨-, hno, -⟩ | ⟨hno, -, -⟩ | ⟨-, hno, -⟩
    · exact absurd (heq.symm.trans hno) (by decide)
    · exact hno
    · exact absurd (heq.symm.trans hno) (by decide)
  have hgt : a.gt B b = false := by
    rcases hc.trichotomy with ⟨-, hno, -⟩ | ⟨-, -, hno⟩ | ⟨-, hno, -⟩
    · exact absurd (heq.symm.trans hno) (by decide)
    · exact hno
    · exact absurd (heq.symm.trans hno) (by decide)
  have hgt' : ¬b.gt B a = true := by
    rw [← hc.lt_iff_gt, hlt]
    decide
  rw [gt_of_eq h, decide_eq_false_iff_not, BitVec.lt_def] at hgt
  rw [gt_of_eq h.symm, decide_eq_true_iff, BitVec.lt_def] at hgt'
  exact B.htons_inj.mp (BitVec.eq_of_toNat_eq (by omega))

/-- The operators are those of a total order exactly on addresses whose ports are equal where
their words are. -/
theorem consistent_iff (B : ByteOrder) (a b c : InternetAddress) :
    Consistent B a b c ↔ (a.host16 = b.host16 → a.port = b.port) := by
  constructor
  · intro hc h
    exact same_port hc h
  · intro h
    by_cases he : a.host16 = b.host16
    · exact consistent_of_same he (h he)
    · exact consistent_of_ne he

/-- The loopback address with port 1 is equal to that with port 256 and less than it. -/
theorem not_consistent_ports : ¬∀ a b c : InternetAddress, Consistent .little a b c := by
  intro h
  let a : InternetAddress :=
    { host16 := #v[0, 0, 0, 0, 0, 0, 0, 1], port := 1, scopeID := 0, valid := true, format := PF_Default }
  have hport : a.port = 256 := same_port (h a { a with port := 256 } a) rfl
  exact absurd hport (by decide)

end InternetAddress

end SocketApi
