import SocketApi.Address.Text
import Mathlib.Data.List.TakeWhile
import Mathlib.Data.Nat.Find

/-!
# Splitting texts

How the constructor from a text splits it into host and port, for texts with brackets, with a
colon or with an exclamation mark, and how it reads a number in front of other text.
-/

namespace SocketApi

open Inet

namespace Text

theorem index_append {c : Char} {text : List Char} (h : c ∉ text) (rest : List Char) :
    index c (text ++ c :: rest) = some text.length := by
  induction text with
  | nil => simp [index]
  | cons d text ih =>
    rw [List.mem_cons, not_or] at h
    simp [index, ih h.2, Ne.symm h.1]

theorem index_eq_none {c : Char} {text : List Char} (h : c ∉ text) : index c text = none := by
  induction text with
  | nil => rfl
  | cons d text ih =>
    rw [List.mem_cons, not_or] at h
    simp [index, ih h.2, Ne.symm h.1]

theorem rindex_append {c : Char} {text rest : List Char} (h : c ∉ rest) :
    rindex c (text ++ c :: rest) = some text.length := by
  unfold rindex
  rw [List.reverse_append, List.reverse_cons, List.append_assoc, List.singleton_append,
    index_append (by simpa using h)]
  simp only [Option.map_some, List.length_reverse, List.length_append, List.length_cons, Option.some.injEq]
  omega

end Text

namespace AddressGrammar

/-- The longest part of a `String`. -/
def maxChars : Nat := 2 ^ 32 - 1

/-! ## Parts of texts -/

theorem mid_append_take {text rest : List Char} {n : Nat} (hn : n = text.length) :
    Text.mid (text ++ rest) n = rest.take maxChars := by
  unfold Text.mid
  rw [hn, List.drop_left]
  rfl

theorem mid_behind (front behind : List Char) (c : Char) :
    Text.mid (front ++ c :: behind) (front.length + 1) = behind.take maxChars := by
  rw [show front ++ c :: behind = (front ++ [c]) ++ behind by simp]
  exact mid_append_take (by simp)

theorem take_maxChars {text : List Char} (h : text.length < 2 ^ 32) : text.take maxChars = text :=
  List.take_of_length_le (Nat.le_sub_one_of_lt h)

theorem rindex_eq_none {c : Char} {text : List Char} (h : c ∉ text) : Text.rindex c text = none := by
  unfold Text.rindex
  rw [Text.index_eq_none (by simpa using h)]
  rfl

theorem scanInt_digits {n : Nat} (hn : n < 2 ^ 31) {rest : List Char}
    (hrest : ∀ c, rest.head? = some c → c.isDigit = false) :
    Text.scanInt (Nat.toDigits 10 n ++ rest) = some (n : Int) := by
  have hdigits : (Nat.toDigits 10 n ++ rest).takeWhile Char.isDigit = Nat.toDigits 10 n := by
    rw [List.takeWhile_append_of_pos fun c hc => Nat.isDigit_of_mem_toDigits (by decide) (by decide) hc]
    cases rest with
    | nil => simp
    | cons c rest => simp [hrest c rfl]
  have hscan : Text.scanDigits false (Nat.toDigits 10 n ++ rest) = some (n : Int) := by
    unfold Text.scanDigits
    simp only [hdigits, Nat.toDigits_ne_nil, if_false, Nat.ofDigitChars_ten_toDigits, Bool.false_eq_true]
    exact congrArg some (Int.bmod_eq_of_le (by omega) (by omega))
  obtain ⟨c, text, hc⟩ := List.exists_cons_of_ne_nil (Nat.toDigits_ne_nil (n := n) (b := 10))
  obtain ⟨d, hd, rfl⟩ := mem_toDigits (by decide) (hc ▸ List.mem_cons_self : c ∈ Nat.toDigits 10 n)
  have hs : ∀ d : Fin 10, Text.isSpace (Nat.digitChar d) = false ∧ Nat.digitChar d ≠ '-' ∧ Nat.digitChar d ≠ '+' := by
    decide
  obtain ⟨hspace, hminus, hplus⟩ := hs ⟨d, hd⟩
  unfold Text.scanInt
  rw [← hscan, hc, List.cons_append, List.dropWhile_cons_of_neg (by rw [hspace]; decide)]
  split
  next h => exact absurd (List.cons.inj h).1 hminus
  next h => exact absurd (List.cons.inj h).1 hplus
  next => rfl

theorem scanInt_toDigits {n : Nat} (hn : n < 2 ^ 31) : Text.scanInt (Nat.toDigits 10 n) = some (n : Int) := by
  have hnone : ∀ c, ([] : List Char).head? = some c → c.isDigit = false := by
    intro c h
    cases h
  have hscan := scanInt_digits hn hnone
  rw [List.append_nil] at hscan
  exact hscan

/-! ## Host and port -/

/-- The text behind the first parenthesis. -/
def behindParen (address : List Char) : List Char :=
  match Text.index '(' address with
  | some p1 => if 0 < p1 then Text.mid address (p1 + 1) else address
  | none => address

/-- The rest of `splitAddress`. -/
def splitHost (address host : List Char) : Option (List Char × List Char) :=
  if host.head? = some '[' then
    match Text.index ']' host with
    | some p1 =>
      if 0 < p1 then
        let port :=
          if host[p1 + 1]? = some ':' ∨ host[p1 + 1]? = some '!' then Text.mid host (p1 + 2) else "0".toList
        some (Text.mid host 1 (p1 - 1), port)
      else none
    | none => none
  else
    match (Text.rindex ':' address).or (Text.rindex '!' address) with
    | some p1 =>
      if 0 < p1 then some (Text.left address p1, Text.mid address (p1 + 1)) else some (host, "0".toList)
    | none => some (host, "0".toList)

theorem splitAddress_eq (address : List Char) :
    InternetAddress.splitAddress address = splitHost address (behindParen address) := rfl

theorem behindParen_none {address : List Char} (h : '(' ∉ address) : behindParen address = address := by
  unfold behindParen
  rw [Text.index_eq_none h]

theorem behindParen_some {front tail : List Char} (h : '(' ∉ front) (hne : front ≠ []) :
    behindParen (front ++ '(' :: tail) = tail.take maxChars := by
  have hpos : 0 < front.length := List.length_pos_iff.mpr hne
  unfold behindParen
  simp only [Text.index_append h, hpos, if_true, mid_behind]

theorem splitHost_brackets (address : List Char) {host behind : List Char} (hclose : ']' ∉ host) :
    splitHost address ('[' :: host ++ ']' :: ':' :: behind) = some (host, behind.take maxChars) := by
  have hclose' : ']' ∉ '[' :: host := by simp [hclose]
  have hcolon : ('[' :: host ++ ']' :: ':' :: behind)[('[' :: host).length + 1]? = some ':' := by
    rw [List.getElem?_append_right (Nat.le_succ _), Nat.succ_sub (Nat.le_refl _), Nat.sub_self]
    rfl
  have hmid : Text.mid ('[' :: host ++ ']' :: ':' :: behind) (('[' :: host).length + 2) = behind.take maxChars := by
    rw [show '[' :: host ++ ']' :: ':' :: behind = ('[' :: host ++ [']', ':']) ++ behind by simp]
    exact mid_append_take (by simp)
  have hhost : Text.mid ('[' :: host ++ ']' :: ':' :: behind) 1 (('[' :: host).length - 1) = host := by
    simp [Text.mid]
  unfold splitHost
  simp only [Text.index_append hclose', hcolon, hmid, hhost, true_or, if_true]
  simp

theorem splitHost_at {front behind host : List Char} {c : Char} (hhead : host.head? ≠ some '[') (hne : front ≠ [])
    (hlast : (Text.rindex ':' (front ++ c :: behind)).or (Text.rindex '!' (front ++ c :: behind)) = some front.length) :
    splitHost (front ++ c :: behind) host = some (front, behind.take maxChars) := by
  have hpos : 0 < front.length := List.length_pos_iff.mpr hne
  unfold splitHost
  rw [if_neg hhead, hlast]
  simp only [hpos, if_true, mid_behind]
  simp [Text.left]

/-- Without brackets the whole text is split at its last colon. -/
theorem splitHost_last {front behind host : List Char} (hhead : host.head? ≠ some '[') (hne : front ≠ [])
    (hcolon : ':' ∉ behind) :
    splitHost (front ++ ':' :: behind) host = some (front, behind.take maxChars) := by
  apply splitHost_at hhead hne
  rw [Text.rindex_append hcolon, Option.some_or]

/-- Without a colon it is split at its last exclamation mark. -/
theorem splitHost_bang {front behind host : List Char} (hhead : host.head? ≠ some '[') (hne : front ≠ [])
    (hcolon : ':' ∉ front ++ '!' :: behind) (hbang : '!' ∉ behind) :
    splitHost (front ++ '!' :: behind) host = some (front, behind.take maxChars) := by
  apply splitHost_at hhead hne
  rw [rindex_eq_none hcolon, Option.none_or, Text.rindex_append hbang]

end AddressGrammar

end SocketApi
