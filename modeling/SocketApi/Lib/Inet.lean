import Mathlib.Algebra.Order.Ring.Int
import Mathlib.Order.Lattice.Nat

/-!
# The textual form of IPv4 and IPv6 addresses

Readers for the standard notations: four decimal octets, and eight groups of hexadecimal
digits, of which one run of zeros may be left out and the last two may be an IPv4 address.
-/

namespace Inet

abbrev Word := BitVec 16

/-! ## Numerals -/

def hexDigit (c : Char) : Option Nat :=
  if '0' ≤ c ∧ c ≤ '9' then some (c.toNat - 48)
  else if 'a' ≤ c ∧ c ≤ 'f' then some (c.toNat - 87)
  else if 'A' ≤ c ∧ c ≤ 'F' then some (c.toNat - 55)
  else none

def hexNumber (text : List Char) : Option Nat :=
  text.foldlM (fun n c => (hexDigit c).map (16 * n + ·)) 0

/-- A group of one to four hexadecimal digits. -/
def group (text : List Char) : Option Word :=
  if text.length = 0 ∨ 4 < text.length then none else (hexNumber text).map (BitVec.ofNat 16)

/-- A decimal number below 256 without leading zeros. -/
def octet (text : List Char) : Option (BitVec 8) :=
  let n := Nat.ofDigitChars 10 text 0
  if Nat.toDigits 10 n = text ∧ n < 256 then some (BitVec.ofNat 8 n) else none

/-! ## Addresses -/

/-- Four octets between dots, as two words. -/
def ipv4 (text : List Char) : Option (List Word) :=
  match (text.splitOn '.').map octet with
  | [some a, some b, some c, some d] => some [a ++ b, c ++ d]
  | _ => none

/-- Groups between colons; the last one may be an IPv4 address. -/
def groups : List (List Char) → Option (List Word)
  | [] => some []
  | [last] => if '.' ∈ last then ipv4 last else (group last).map ([·])
  | text :: rest =>
    match group text, groups rest with
    | some w, some ws => some (w :: ws)
    | _, _ => none

def side (text : List Char) : Option (List Word) :=
  if text = [] then some [] else groups (text.splitOn ':')

/-- The text before and after the first `::`. -/
def gap : List Char → Option (List Char × List Char)
  | [] => none
  | c :: text =>
    match c, text with
    | ':', ':' :: rest => some ([], rest)
    | _, _ => (gap text).map fun t => (c :: t.1, t.2)

/-- A `::` stands for one or more groups of zeros. -/
def ipv6 (text : List Char) : Option (List Word) :=
  match gap text with
  | none =>
    match groups (text.splitOn ':') with
    | some ws => if ws.length = 8 then some ws else none
    | none => none
  | some (left, right) =>
    match side left, side right with
    | some l, some r =>
      if l.length + r.length < 8 then some (l ++ List.replicate (8 - l.length - r.length) 0 ++ r) else none
    | _, _ => none

/-! ## Numerals that are read back -/

theorem hexDigit_digitChar {d : Nat} (h : d < 16) : hexDigit d.digitChar = some d := by
  have hd : ∀ d : Fin 16, hexDigit (Nat.digitChar d) = some d.val := by decide
  exact hd ⟨d, h⟩

theorem hexNumber_append_digit (text : List Char) {d : Nat} (h : d < 16) :
    hexNumber (text ++ [d.digitChar]) = (hexNumber text).map (16 * · + d) := by
  unfold hexNumber
  rw [List.foldlM_append]
  simp only [List.foldlM_cons, List.foldlM_nil, hexDigit_digitChar h]
  cases List.foldlM (fun n c => (hexDigit c).map (16 * n + ·)) 0 text <;> rfl

theorem hexNumber_toDigits (n : Nat) : hexNumber (Nat.toDigits 16 n) = some n := by
  induction n using Nat.strongRecOn with
  | ind n ih =>
    rw [Nat.toDigits_eq_if (by decide)]
    by_cases hn : n < 16
    · rw [if_pos hn]
      simpa [hexNumber] using hexDigit_digitChar hn
    · have hlt : n / 16 < n := Nat.div_lt_self (by omega) (by decide)
      rw [if_neg hn, hexNumber_append_digit _ (Nat.mod_lt n (by decide)), ih _ hlt]
      exact congrArg some (Nat.div_add_mod n 16)

theorem group_toDigits (w : Word) : group (Nat.toDigits 16 w.toNat) = some w := by
  have hlen : (Nat.toDigits 16 w.toNat).length ≤ 4 := (Nat.length_toDigits_le_iff (by decide) (by decide)).mpr w.isLt
  have hpos : 0 < (Nat.toDigits 16 w.toNat).length := Nat.length_toDigits_pos
  unfold group
  rw [if_neg (by omega), hexNumber_toDigits]
  exact congrArg some (BitVec.ofNat_toNat 16 w ▸ BitVec.setWidth_eq w)

theorem octet_toDigits (b : BitVec 8) : octet (Nat.toDigits 10 b.toNat) = some b := by
  unfold octet
  simp only [Nat.ofDigitChars_ten_toDigits, b.isLt, and_self, if_true]
  exact congrArg some (BitVec.ofNat_toNat 8 b ▸ BitVec.setWidth_eq b)

theorem mem_toDigits {b : Nat} (hb : 1 < b) {n : Nat} {c : Char} (h : c ∈ Nat.toDigits b n) :
    ∃ d < b, c = Nat.digitChar d := by
  induction n using Nat.strongRecOn with
  | ind n ih =>
    rw [Nat.toDigits_eq_if hb] at h
    by_cases hn : n < b
    · rw [if_pos hn, List.mem_singleton] at h
      exact ⟨n, hn, h⟩
    · have hlt : n / b < n := Nat.div_lt_self (by omega) hb
      rw [if_neg hn, List.mem_append, List.mem_singleton] at h
      rcases h with h | h
      · exact ih _ hlt h
      · exact ⟨n % b, Nat.mod_lt n (by omega), h⟩

theorem not_mem_toDigits {b : Nat} (hb : 1 < b) {c : Char} (hc : ∀ d : Fin b, Nat.digitChar d ≠ c) (n : Nat) :
    c ∉ Nat.toDigits b n := by
  intro h
  obtain ⟨d, hd, rfl⟩ := mem_toDigits hb h
  exact hc ⟨d, hd⟩ rfl

/-! ## Writers -/

/-- `%x` of a word. -/
def hexText (w : Word) : List Char := Nat.toDigits 16 w.toNat

/-- `%d` of an octet. -/
def octetText (b : BitVec 8) : List Char := Nat.toDigits 10 b.toNat

def dottedText (a b c d : BitVec 8) : List Char :=
  octetText a ++ '.' :: (octetText b ++ '.' :: (octetText c ++ '.' :: octetText d))

def colonText (ws : List Word) : List Char := [':'].intercalate (ws.map hexText)

theorem colon_not_mem_hexText (w : Word) : ':' ∉ hexText w := not_mem_toDigits (by decide) (by decide) _
theorem dot_not_mem_hexText (w : Word) : '.' ∉ hexText w := not_mem_toDigits (by decide) (by decide) _
theorem hexText_ne_nil (w : Word) : hexText w ≠ [] := Nat.toDigits_ne_nil
theorem dot_not_mem_octetText (b : BitVec 8) : '.' ∉ octetText b := not_mem_toDigits (by decide) (by decide) _
theorem colon_not_mem_octetText (b : BitVec 8) : ':' ∉ octetText b := not_mem_toDigits (by decide) (by decide) _

theorem colonText_cons_cons (w w' : Word) (ws : List Word) :
    colonText (w :: w' :: ws) = hexText w ++ ':' :: colonText (w' :: ws) := by
  simp [colonText]

theorem colonText_singleton (w : Word) : colonText [w] = hexText w := by simp [colonText]

/-- A text of groups starts with a digit. -/
theorem colonText_cons (w : Word) (ws : List Word) : ∃ c text, colonText (w :: ws) = c :: text ∧ c ≠ ':' := by
  obtain ⟨c, text, hc⟩ := List.exists_cons_of_ne_nil (hexText_ne_nil w)
  have hne : c ≠ ':' := fun h => colon_not_mem_hexText w (h ▸ hc ▸ List.mem_cons_self)
  cases ws with
  | nil => exact ⟨c, text, by rw [colonText_singleton, hc], hne⟩
  | cons w' ws => exact ⟨c, text ++ ':' :: colonText (w' :: ws), by rw [colonText_cons_cons, hc]; rfl, hne⟩

/-! ## Addresses that are read back -/

theorem group_hexText (w : Word) : group (hexText w) = some w := group_toDigits w

theorem ipv4_dottedText (a b c d : BitVec 8) : ipv4 (dottedText a b c d) = some [a ++ b, c ++ d] := by
  have h : dottedText a b c d = ['.'].intercalate [octetText a, octetText b, octetText c, octetText d] := by
    simp [dottedText]
  unfold ipv4
  rw [h, List.splitOn_intercalate]
  · simp only [List.map_cons, List.map_nil, octetText, octet_toDigits]
  · simp [dot_not_mem_octetText]
  · simp

theorem groups_map_hexText (ws : List Word) : groups (ws.map hexText) = some ws := by
  induction ws with
  | nil => rfl
  | cons w ws ih =>
    cases ws with
    | nil => simp [groups, dot_not_mem_hexText, group_hexText]
    | cons w' ws =>
      simp only [List.map_cons] at ih ⊢
      simp only [groups, ih, group_hexText]

theorem splitOn_colonText {ws : List Word} (h : ws ≠ []) : (colonText ws).splitOn ':' = ws.map hexText := by
  refine List.splitOn_intercalate ':' (fun text ht => ?_) (fun hn => h (List.map_eq_nil_iff.mp hn))
  obtain ⟨w, -, rfl⟩ := List.mem_map.mp ht
  exact colon_not_mem_hexText w

theorem side_colonText (ws : List Word) : side (colonText ws) = some ws := by
  unfold side
  cases ws with
  | nil => rfl
  | cons w ws =>
    obtain ⟨c, text, h, -⟩ := colonText_cons w ws
    rw [if_neg (by rw [h]; exact List.cons_ne_nil _ _), splitOn_colonText (List.cons_ne_nil _ _), groups_map_hexText]

theorem gap_cons {c : Char} (hc : c ≠ ':') (text : List Char) :
    gap (c :: text) = (gap text).map fun t => (c :: t.1, t.2) := by
  rw [gap]
  simp [hc]

theorem gap_colon {c : Char} (hc : c ≠ ':') (text : List Char) :
    gap (':' :: c :: text) = (gap (c :: text)).map fun t => (':' :: t.1, t.2) := by
  rw [gap]
  simp [hc]

theorem gap_append {text : List Char} (h : ':' ∉ text) (rest : List Char) :
    gap (text ++ rest) = (gap rest).map fun t => (text ++ t.1, t.2) := by
  induction text with
  | nil => cases h' : gap rest <;> simp [h']
  | cons c text ih =>
    rw [List.mem_cons, not_or] at h
    rw [List.cons_append, gap_cons (Ne.symm h.1), ih h.2, Option.map_map]
    rfl

theorem gap_colonText (ws : List Word) (rest : List Char) :
    gap (colonText ws ++ rest) = (gap rest).map fun t => (colonText ws ++ t.1, t.2) := by
  induction ws with
  | nil => exact gap_append List.not_mem_nil rest
  | cons w ws ih =>
    cases ws with
    | nil => rw [colonText_singleton]; exact gap_append (colon_not_mem_hexText w) rest
    | cons w' ws =>
      obtain ⟨c, text, hc, hne⟩ := colonText_cons w' ws
      rw [colonText_cons_cons, List.append_assoc, gap_append (colon_not_mem_hexText w), List.cons_append]
      rw [hc, List.cons_append, gap_colon hne, ← List.cons_append, ← hc, ih]
      cases gap rest <;> simp

/-- Eight groups without a gap. -/
theorem ipv6_colonText {ws : List Word} (h : ws.length = 8) : ipv6 (colonText ws) = some ws := by
  have hne : ws ≠ [] := by rintro rfl; exact absurd h (by decide)
  have hgap := gap_colonText ws []
  rw [List.append_nil] at hgap
  unfold ipv6
  rw [hgap, splitOn_colonText hne, groups_map_hexText]
  simp [gap, h]

/-- A gap between two texts of groups. -/
theorem ipv6_gap {left right : List Char} {l r : List Word}
    (hgap : gap (left ++ ':' :: ':' :: right) = some (left, right))
    (hl : side left = some l) (hr : side right = some r) (h : l.length + r.length < 8) :
    ipv6 (left ++ ':' :: ':' :: right) = some (l ++ List.replicate (8 - l.length - r.length) 0 ++ r) := by
  unfold ipv6
  simp only [hgap, hl, hr, h, if_true]

theorem gap_colonText_gap (ws : List Word) (right : List Char) :
    gap (colonText ws ++ ':' :: ':' :: right) = some (colonText ws, right) := by
  rw [gap_colonText]
  simp [gap]

/-- A group before an embedded IPv4 address. -/
theorem side_embedded (w : Word) (a b c d : BitVec 8) :
    side (hexText w ++ ':' :: dottedText a b c d) = some [w, a ++ b, c ++ d] := by
  have hcolon : ':' ∉ dottedText a b c d := by
    simp [dottedText, colon_not_mem_octetText]
  have hdot : '.' ∈ dottedText a b c d := by
    simp [dottedText]
  unfold side
  rw [if_neg (by simp), List.splitOn_append_cons_self_of_not_mem (colon_not_mem_hexText w),
    List.splitOn_eq_singleton hcolon]
  simp only [groups, hdot, if_true, ipv4_dottedText, group_hexText]

/-! ## The characters of addresses -/

/-- Hexadecimal digits, colons and dots. -/
def IsAddressChar (c : Char) : Prop := (hexDigit c).isSome ∨ c = ':' ∨ c = '.'

instance : DecidablePred IsAddressChar := fun c => inferInstanceAs (Decidable ((hexDigit c).isSome ∨ c = ':' ∨ c = '.'))

theorem mem_of_splitOn (sep : Char) {c : Char} {text : List Char} (h : c ∈ text) :
    c = sep ∨ ∃ part ∈ text.splitOn sep, c ∈ part := by
  have hmem (parts : List (List Char)) (hc : c ∈ [sep].intercalate parts) : c = sep ∨ ∃ part ∈ parts, c ∈ part := by
    induction parts with
    | nil => simp at hc
    | cons part parts ih =>
      cases parts with
      | nil => exact Or.inr ⟨part, List.mem_cons_self, by simpa using hc⟩
      | cons part' parts =>
        rw [List.intercalate_cons_cons, List.mem_append, List.mem_append, List.mem_singleton] at hc
        rcases hc with (hc | hc) | hc
        · exact Or.inr ⟨part, List.mem_cons_self, hc⟩
        · exact Or.inl hc
        · rcases ih hc with hsep | ⟨p, hp, hcp⟩
          · exact Or.inl hsep
          · exact Or.inr ⟨p, List.mem_cons_of_mem part hp, hcp⟩
  exact hmem _ (by rwa [List.intercalate_splitOn])

theorem hexNumber_chars {text : List Char} {n : Nat} (h : hexNumber text = some n) :
    ∀ c ∈ text, (hexDigit c).isSome := by
  have hfold (text : List Char) (start : Nat)
      (h : (text.foldlM (fun n c => (hexDigit c).map (16 * n + ·)) start).isSome) :
      ∀ c ∈ text, (hexDigit c).isSome := by
    induction text generalizing start with
    | nil => simp
    | cons d text ih =>
      rw [List.foldlM_cons] at h
      cases hd : hexDigit d with
      | none => simp [hd] at h
      | some v =>
        intro c hc
        rcases List.mem_cons.mp hc with rfl | hc
        · rw [hd]
          rfl
        · refine ih (16 * start + v) ?_ c hc
          simpa [hd] using h
  exact hfold text 0 (Option.isSome_of_mem h)

theorem group_chars {text : List Char} {w : Word} (h : group text = some w) : ∀ c ∈ text, IsAddressChar c := by
  unfold group at h
  by_cases hlen : text.length = 0 ∨ 4 < text.length
  · rw [if_pos hlen] at h
    cases h
  · rw [if_neg hlen, Option.map_eq_some_iff] at h
    obtain ⟨n, hn, -⟩ := h
    intro c hc
    exact Or.inl (hexNumber_chars hn c hc)

theorem octet_chars {text : List Char} {b : BitVec 8} (h : octet text = some b) : ∀ c ∈ text, IsAddressChar c := by
  unfold octet at h
  simp only at h
  by_cases hdigits : Nat.toDigits 10 (Nat.ofDigitChars 10 text 0) = text ∧ Nat.ofDigitChars 10 text 0 < 256
  · intro c hc
    rw [← hdigits.1] at hc
    obtain ⟨d, hd, rfl⟩ := mem_toDigits (by decide) hc
    have hall : ∀ d : Fin 10, IsAddressChar (Nat.digitChar d) := by decide
    exact hall ⟨d, hd⟩
  · rw [if_neg hdigits] at h
    cases h

theorem ipv4_chars {text : List Char} {ws : List Word} (h : ipv4 text = some ws) : ∀ c ∈ text, IsAddressChar c := by
  intro c hc
  rcases mem_of_splitOn '.' hc with rfl | ⟨part, hpart, hcp⟩
  · exact Or.inr (Or.inr rfl)
  · have hparts : ∀ o ∈ (text.splitOn '.').map octet, o.isSome := by
      unfold ipv4 at h
      split at h
      next heq => simp [heq]
      next => cases h
    obtain ⟨b, hb⟩ := Option.isSome_iff_exists.mp (hparts _ (List.mem_map_of_mem hpart))
    exact octet_chars hb c hcp

theorem groups_chars {texts : List (List Char)} {ws : List Word} (h : groups texts = some ws) :
    ∀ text ∈ texts, ∀ c ∈ text, IsAddressChar c := by
  induction texts using groups.induct generalizing ws with
  | case1 => simp
  | case2 last hdot =>
    rw [groups, if_pos hdot] at h
    intro text ht
    rw [List.mem_singleton.mp ht]
    exact ipv4_chars h
  | case3 last hdot =>
    rw [groups, if_neg hdot, Option.map_eq_some_iff] at h
    obtain ⟨w, hw, -⟩ := h
    intro text ht
    rw [List.mem_singleton.mp ht]
    exact group_chars hw
  | case4 text rest hne w ws' hw hg ih =>
    intro text' ht
    rcases List.mem_cons.mp ht with rfl | ht
    · exact group_chars hg
    · exact ih hw text' ht
  | case5 text rest hne hnone ih =>
    rw [groups] at h
    · split at h
      next w ws' hg hw => exact absurd hw (hnone w ws' hg)
      next => cases h
    · exact hne

theorem side_chars {text : List Char} {ws : List Word} (h : side text = some ws) : ∀ c ∈ text, IsAddressChar c := by
  unfold side at h
  by_cases hnil : text = []
  · rw [hnil]
    simp
  · rw [if_neg hnil] at h
    intro c hc
    rcases mem_of_splitOn ':' hc with rfl | ⟨part, hpart, hcp⟩
    · exact Or.inr (Or.inl rfl)
    · exact groups_chars h part hpart c hcp

theorem gap_some {text left right : List Char} (h : gap text = some (left, right)) :
    text = left ++ ':' :: ':' :: right := by
  induction text using gap.induct generalizing left right with
  | case1 => cases h
  | case2 rest =>
    rw [gap] at h
    cases h
    rfl
  | case3 c text hne ih =>
    rw [gap, Option.map_eq_some_iff] at h
    · obtain ⟨⟨l, r⟩, hg, he⟩ := h
      cases he
      rw [ih hg]
      rfl
    · exact hne

/-- Only these characters are in an address that can be read. -/
theorem ipv6_chars {text : List Char} {ws : List Word} (h : ipv6 text = some ws) : ∀ c ∈ text, IsAddressChar c := by
  unfold ipv6 at h
  cases hg : gap text with
  | none =>
    simp only [hg] at h
    cases hw : groups (text.splitOn ':') with
    | none => simp [hw] at h
    | some ws' =>
      intro c hc
      rcases mem_of_splitOn ':' hc with rfl | ⟨part, hpart, hcp⟩
      · exact Or.inr (Or.inl rfl)
      · exact groups_chars hw part hpart c hcp
  | some sides =>
    obtain ⟨left, right⟩ := sides
    simp only [hg] at h
    cases hl : side left with
    | none => simp [hl] at h
    | some l =>
      cases hr : side right with
      | none => simp [hl, hr] at h
      | some r =>
        intro c hc
        rw [gap_some hg, List.mem_append, List.mem_cons, List.mem_cons] at hc
        rcases hc with hc | hc | hc | hc
        · exact side_chars hl c hc
        · exact Or.inr (Or.inl hc)
        · exact Or.inr (Or.inl hc)
        · exact side_chars hr c hc

end Inet
