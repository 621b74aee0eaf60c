import SocketApi.Address.Splitting

/-!
# Reading back what was printed

The printed words are either all eight groups or two lists of groups around one `::`; the
constructor splits off brackets and port and finds the same words again.
-/

namespace SocketApi

open Inet AddressGrammar

namespace InternetAddress

variable {N : NameSystem} {a : InternetAddress}

/-! ## Splitting printed texts -/

theorem splitAddress_brackets {host port : List Char} (hopen : '(' ∉ host) (hclose : ']' ∉ host) (hport : '(' ∉ port)
    (hlength : port.length < 2 ^ 32) :
    splitAddress ('[' :: host ++ ']' :: ':' :: port) = some (host, port) := by
  have hno : '(' ∉ '[' :: host ++ ']' :: ':' :: port := by simp [hopen, hport]
  rw [splitAddress_eq, behindParen_none hno, splitHost_brackets _ hclose, take_maxChars hlength]

theorem splitAddress_colon {host port : List Char} (hopen : '(' ∉ host ++ ':' :: port) (hhead : host.head? ≠ some '[')
    (hne : host ≠ []) (hcolon : ':' ∉ port) (hlength : port.length < 2 ^ 32) :
    splitAddress (host ++ ':' :: port) = some (host, port) := by
  have hhead' : (host ++ ':' :: port).head? ≠ some '[' := by
    rw [List.head?_append_of_ne_nil _ hne]
    exact hhead
  rw [splitAddress_eq, behindParen_none hopen, splitHost_last hhead' hne hcolon, take_maxChars hlength]

/-! ## The printed words -/

theorem word_eq {i : Nat} (h : i < a.host16.toList.length) : a.word i = a.host16.toList[i] := by
  have hi : i < 8 := by simpa using h
  simp [word, hi]

theorem drop_words {i : Nat} (h : i < 8) :
    a.host16.toList.drop i = a.word i :: a.host16.toList.drop (i + 1) := by
  rw [List.drop_eq_getElem_cons (by simpa using h), word_eq (by simpa using h)]

theorem drop_eight : a.host16.toList.drop 8 = [] := List.drop_of_length_le (by simp)

/-- A word, its colon and the words behind it. -/
theorem colonText_drop {i : Nat} (h : i < 8) :
    colonText (a.host16.toList.drop i) =
      hexText (a.word i) ++ colon i ++ colonText (a.host16.toList.drop (i + 1)) := by
  rw [drop_words h]
  rcases Nat.lt_or_ge i 7 with h7 | h7
  · rw [drop_words (Nat.succ_lt_succ h7), colonText_cons_cons, colon, if_pos h7]
    simp
  · have hi : i = 7 := by omega
    subst hi
    simp [drop_eight, colon, colonText]

theorem hexNotation_compressed (n i : Nat) (hn : i + n = 8) :
    a.hexNotation 8 true i = colonText (a.host16.toList.drop i) := by
  induction n generalizing i with
  | zero =>
    have hi : i = 8 := by omega
    subst hi
    rw [hexNotation, drop_eight]
    rfl
  | succ n ih =>
    have h : i < 8 := by omega
    rw [hexNotation, if_pos h, colonText_drop h, ← ih (i + 1) (by omega)]
    simp

/-- Two zero words one after the other. -/
def Run (a : InternetAddress) (i : Nat) : Prop := i < 7 ∧ a.word i = 0 ∧ a.word (i + 1) = 0

theorem zeroRun_eq_self {j : Nat} (h : j < 8) : a.zeroRun j = j ↔ a.word j ≠ 0 := by
  have hle := a.le_zeroRun (j + 1)
  rw [zeroRun, if_pos h]
  by_cases hw : a.word j = 0
  · simp only [hw, ne_eq, not_true_eq_false, if_false, iff_false]
    omega
  · simp only [ne_eq, hw, not_false_eq_true, if_true]

/-- A word that does not start a run is printed as it is. -/
theorem hexNotation_step {i : Nat} (h : i < 8) (hrun : ¬a.Run i) :
    a.hexNotation 8 false i = hexText (a.word i) ++ colon i ++ a.hexNotation 8 false (i + 1) := by
  rw [hexNotation, if_pos h]
  by_cases hvalue : a.word i ≠ 0 ∨ false = true ∨ i = 7
  · rw [if_pos hvalue]
  · simp only [Bool.false_eq_true, false_or, not_or, ne_eq, not_not] at hvalue
    have hi : i + 1 < 8 := by omega
    have hnext : a.word (i + 1) ≠ 0 := fun h0 => hrun ⟨by omega, hvalue.1, h0⟩
    simp [hvalue, (zeroRun_eq_self hi).mpr hnext]

theorem hexNotation_plain (n i : Nat) (hn : i + n = 8) (hrun : ∀ k, i ≤ k → ¬a.Run k) :
    a.hexNotation 8 false i = colonText (a.host16.toList.drop i) := by
  induction n generalizing i with
  | zero =>
    have hi : i = 8 := by omega
    subst hi
    rw [hexNotation, drop_eight]
    rfl
  | succ n ih =>
    have h : i < 8 := by omega
    rw [hexNotation_step h (hrun i (Nat.le_refl i)), colonText_drop h,
      ih (i + 1) (by omega) fun k hk => hrun k (by omega)]

/-- The end of the run that starts at `k`. -/
def runEnd (a : InternetAddress) (k : Nat) : Nat := a.zeroRun (k + 1)

theorem hexNotation_run {k : Nat} (h : a.Run k) :
    a.hexNotation 8 false k = (if k = 0 ∨ a.runEnd k = 8 then [':'] else []) ++ colon (a.runEnd k - 1) ++
      a.hexNotation 8 true (a.runEnd k) := by
  obtain ⟨hk, h0, h1⟩ := h
  have hne : a.zeroRun (k + 1) ≠ k + 1 := fun he => (zeroRun_eq_self (by omega)).mp he h1
  have h7 : k ≠ 7 := by omega
  have h8 : k < 8 := by omega
  rw [hexNotation, if_pos h8]
  simp only [h0, h7, ne_eq, not_true_eq_false, Bool.false_eq_true, or_self, if_false, hne, runEnd]
  rfl

theorem zeroRun_le (j : Nat) (h : j ≤ 8) : a.zeroRun j ≤ 8 := by
  fun_induction zeroRun a j with
  | case1 => exact h
  | case2 j hj _ ih => exact ih hj
  | case3 => exact h

theorem zero_of_lt_zeroRun {j i : Nat} (hj : j ≤ i) (hi : i < a.zeroRun j) : a.word i = 0 := by
  fun_induction zeroRun a j with
  | case1 => omega
  | case2 j _ hw ih =>
    rcases Nat.eq_or_lt_of_le hj with rfl | hlt
    · exact not_not.mp hw
    · exact ih hlt hi
  | case3 => omega

theorem runEnd_bounds {k : Nat} (h : a.Run k) : k + 2 ≤ a.runEnd k ∧ a.runEnd k ≤ 8 := by
  obtain ⟨hk, -, h1⟩ := h
  have hle := a.le_zeroRun (k + 1)
  have hne : a.zeroRun (k + 1) ≠ k + 1 := fun he => (zeroRun_eq_self (by omega)).mp he h1
  have h8 := a.zeroRun_le (k + 1) (by omega)
  unfold runEnd
  omega

/-- Up to the first run `k`, the words are printed one by one; the run leaves `::`. -/
theorem hexNotation_first {k : Nat} (hk : a.Run k) (n i : Nat) (hn : i + (n + 1) = k)
    (hfirst : ∀ i < k, ¬a.Run i) :
    a.hexNotation 8 false i = colonText ((a.host16.toList.drop i).take (n + 1)) ++
      ':' :: ':' :: colonText (a.host16.toList.drop (a.runEnd k)) := by
  have hbounds := runEnd_bounds hk
  have h7 := hk.1
  have hlt : i < 8 := by omega
  rw [hexNotation_step hlt (hfirst i (by omega)), colon, if_pos (by omega), drop_words hlt]
  induction n generalizing i with
  | zero =>
    have hi : i + 1 = k := by omega
    have hk0 : k ≠ 0 := by omega
    rw [hi, hexNotation_run hk, hexNotation_compressed (8 - a.runEnd k) _ (by omega)]
    rcases Nat.lt_or_ge (a.runEnd k) 8 with hj | hj
    · have h1 : a.runEnd k ≠ 8 := by omega
      have h2 : a.runEnd k - 1 < 7 := by omega
      simp [colon, hk0, h1, h2, colonText_singleton]
    · have h1 : a.runEnd k = 8 := by omega
      simp [colon, h1, colonText_singleton]
  | succ n ih =>
    have hlt' : i + 1 < 8 := by omega
    have := ih (i + 1) (by omega) hlt'
    rw [List.take_succ_cons] at this
    rw [hexNotation_step hlt' (hfirst (i + 1) (by omega)), colon, if_pos (by omega), this, List.take_succ_cons,
      drop_words hlt', List.take_succ_cons, colonText_cons_cons]
    simp

theorem not_mem_colonText {c : Char} (hc : ∀ d : Fin 16, Nat.digitChar d ≠ c) (hcolon : c ≠ ':') (ws : List Word) :
    c ∉ colonText ws := by
  induction ws with
  | nil => exact List.not_mem_nil
  | cons w ws ih =>
    have hw : c ∉ hexText w := not_mem_toDigits (by decide) hc _
    cases ws with
    | nil => rwa [colonText_singleton]
    | cons w' ws => simp [colonText_cons_cons, hw, hcolon, ih]

/-! ## The words of a real IPv6 address -/

/-- The words as `text6` prints them. -/
def wordsText (a : InternetAddress) (length : Nat) : List Char :=
  let words := a.hexNotation length false 0
  if words.length = 1 then words ++ [':'] else words

/-- Either there is no run of zeros, or the first one has become `::`. -/
theorem wordsText_eq (a : InternetAddress) :
    a.wordsText 8 = colonText a.host16.toList ∨
      ∃ k, a.Run k ∧ a.wordsText 8 = colonText (a.host16.toList.take k) ++
        ':' :: ':' :: colonText (a.host16.toList.drop (a.runEnd k)) := by
  classical
  by_cases hrun : ∃ k, a.Run k
  · refine Or.inr ⟨Nat.find hrun, Nat.find_spec hrun, ?_⟩
    have hfirst : ∀ i < Nat.find hrun, ¬a.Run i := fun i hi => Nat.find_min hrun hi
    have hk := Nat.find_spec hrun
    have hbounds := runEnd_bounds hk
    generalize Nat.find hrun = k at *
    unfold wordsText
    cases k with
    | zero =>
      rw [hexNotation_run hk, hexNotation_compressed (8 - a.runEnd 0) _ (by omega)]
      rcases Nat.lt_or_ge (a.runEnd 0) 8 with hj | hj
      · have h2 : a.runEnd 0 - 1 < 7 := by omega
        simp [colon, h2, colonText]
      · have h1 : a.runEnd 0 = 8 := by omega
        simp [colon, h1, drop_eight, colonText]
    | succ n =>
      rw [hexNotation_first hk n 0 (by omega) hfirst, List.drop_zero, if_neg]
      simp only [List.length_append, List.length_cons]
      omega
  · refine Or.inl ?_
    have hnone : ∀ k, 0 ≤ k → ¬a.Run k := fun k _ hk => hrun ⟨k, hk⟩
    have hlen : (colonText a.host16.toList).length ≠ 1 := by
      have hpos := List.length_pos_iff.mpr (hexText_ne_nil (a.word 0))
      have h0 : colonText a.host16.toList = _ := colonText_drop (a := a) (i := 0) (by decide)
      rw [h0]
      simp only [List.length_append, colon]
      have h1 := colonText_drop (a := a) (i := 1) (by decide)
      have hpos' := List.length_pos_iff.mpr (hexText_ne_nil (a.word 1))
      have := congrArg List.length h1
      simp only [List.length_append] at this
      simp
      omega
    unfold wordsText
    rw [hexNotation_plain 8 0 rfl hnone, List.drop_zero]
    simp [hlen]

/-- The words around the first run are all words. -/
theorem words_around {k : Nat} (h : a.Run k) :
    a.host16.toList.take k ++ List.replicate (8 - k - (8 - a.runEnd k)) 0 ++ a.host16.toList.drop (a.runEnd k) =
      a.host16.toList := by
  have hbounds := runEnd_bounds h
  have hlen : a.host16.toList.length = 8 := by simp
  have hzero : (a.host16.toList.drop k).take (a.runEnd k - k) = List.replicate (a.runEnd k - k) 0 := by
    refine List.eq_replicate_iff.mpr ⟨by rw [List.length_take, List.length_drop, hlen]; omega, fun w hw => ?_⟩
    obtain ⟨i, hi, rfl⟩ := List.getElem_of_mem hw
    rw [List.length_take, List.length_drop, hlen] at hi
    rw [List.getElem_take, List.getElem_drop, ← word_eq (by omega)]
    rcases Nat.eq_zero_or_pos i with rfl | hpos
    · exact h.2.1
    · exact zero_of_lt_zeroRun (j := k + 1) (by omega) (show k + i < a.runEnd k by omega)
  have hsplit : a.host16.toList.drop k =
      List.replicate (a.runEnd k - k) 0 ++ a.host16.toList.drop (a.runEnd k) := by
    rw [← hzero]
    conv_lhs => rw [← List.take_append_drop (a.runEnd k - k) (a.host16.toList.drop k)]
    rw [List.drop_drop, show k + (a.runEnd k - k) = a.runEnd k by omega]
  rw [show 8 - k - (8 - a.runEnd k) = a.runEnd k - k by omega, List.append_assoc, ← hsplit, List.take_append_drop]

theorem ipv6_wordsText (a : InternetAddress) : ipv6 (a.wordsText 8) = some a.host16.toList := by
  rcases a.wordsText_eq with h | ⟨k, hk, h⟩
  · rw [h]
    exact ipv6_colonText (by simp)
  · have hbounds := runEnd_bounds hk
    have hk7 := hk.1
    have hl : (a.host16.toList.take k).length = k := by rw [List.length_take, Vector.length_toList]; omega
    have hr : (a.host16.toList.drop (a.runEnd k)).length = 8 - a.runEnd k := by
      rw [List.length_drop, Vector.length_toList]
    rw [h, ipv6_gap (gap_colonText_gap _ _) (side_colonText _) (side_colonText _) (by omega), hl, hr, words_around hk]

/-! ## Characters of the printed words -/

theorem not_mem_wordsText {c : Char} (hc : ∀ d : Fin 16, Nat.digitChar d ≠ c) (hcolon : c ≠ ':') :
    c ∉ a.wordsText 8 := by
  rcases a.wordsText_eq with h | ⟨k, -, h⟩
  · rw [h]
    exact not_mem_colonText hc hcolon _
  · simp [h, not_mem_colonText hc hcolon, hcolon]

theorem colon_mem_wordsText (a : InternetAddress) : ':' ∈ a.wordsText 8 := by
  rcases a.wordsText_eq with h | ⟨k, -, h⟩
  · have h0 := colonText_drop (a := a) (i := 0) (by decide)
    rw [List.drop_zero] at h0
    rw [h, h0]
    simp [colon]
  · simp [h]

/-! ## IPv4-mapped addresses -/

theorem words_of_mapped (h : a.isV4Mapped = true) :
    a.word 0 = 0 ∧ a.word 1 = 0 ∧ a.word 2 = 0 ∧ a.word 3 = 0 ∧ a.word 4 = 0 ∧ a.word 5 = 0xffff := by
  simpa [isV4Mapped, word] using h

theorem zeroRun_mapped (h : a.isV4Mapped = true) : a.zeroRun 1 = 5 := by
  obtain ⟨-, h1, h2, h3, h4, h5⟩ := words_of_mapped h
  have hend : a.zeroRun 5 = 5 := by rw [zeroRun]; simp [h5]
  rw [zeroRun, zeroRun, zeroRun, zeroRun]
  simp [h1, h2, h3, h4, hend]

/-- The words of a mapped address are printed up to the embedded address. -/
theorem wordsText_mapped (h : a.isV4Mapped = true) :
    a.wordsText 6 = ':' :: ':' :: (hexText 0xffff ++ [':']) := by
  obtain ⟨h0, -, -, -, -, h5⟩ := words_of_mapped h
  have hrest : a.hexNotation 6 true 5 = hexText 0xffff ++ [':'] := by
    rw [hexNotation, hexNotation]
    simp [h5, colon]
  have hwords : a.hexNotation 6 false 0 = ':' :: ':' :: (hexText 0xffff ++ [':']) := by
    rw [hexNotation]
    simp [h0, zeroRun_mapped h, hrest, colon]
  unfold wordsText
  rw [hwords]
  simp

theorem extract_high (high low : Word) : (high ++ low).extractLsb' 16 16 = high := by
  ext i hi
  have h : ¬16 + i < 16 := by omega
  rw [BitVec.getElem_extractLsb', BitVec.getLsbD_append]
  simp [h, hi]

theorem extract_low (high low : Word) : (high ++ low).extractLsb' 0 16 = low := by
  ext i hi
  rw [BitVec.getElem_extractLsb', BitVec.getLsbD_append]
  simp [hi]

/-- The octets of an address are put together to its last two words. -/
theorem octets (high low : Word) :
    (high ++ low).extractLsb' 24 8 ++ (high ++ low).extractLsb' 16 8 = high ∧
      (high ++ low).extractLsb' 8 8 ++ (high ++ low).extractLsb' 0 8 = low := by
  have h24 : (24 : Nat) = 16 + 8 := rfl
  have h8 : (8 : Nat) = 0 + 8 := rfl
  constructor
  · rw [BitVec.extractLsb'_append_extractLsb'_eq_extractLsb' h24]
    exact extract_high high low
  · rw [BitVec.extractLsb'_append_extractLsb'_eq_extractLsb' h8]
    exact extract_low high low

theorem toList_mapped (h : a.isV4Mapped = true) :
    a.host16.toList = ([0, 0, 0, 0, 0, 0xffff, a.word 6, a.word 7] : List Word) := by
  obtain ⟨h0, h1, h2, h3, h4, h5⟩ := words_of_mapped h
  have hdrop := drop_words (a := a) (i := 0) (by decide)
  rw [List.drop_zero] at hdrop
  rw [hdrop, drop_words (by decide), drop_words (by decide), drop_words (by decide), drop_words (by decide),
    drop_words (by decide), drop_words (by decide), drop_words (by decide), drop_eight, h0, h1, h2, h3, h4, h5]

theorem mapped_eq (h : a.isV4Mapped = true) : mapped (a.word 6 ++ a.word 7) = a.host16 := by
  apply Vector.toList_inj.mp
  rw [toList_mapped h]
  simp [mapped, extract_high, extract_low]

/-! ## Addresses from texts -/

theorem ipv4_dotted (a : InternetAddress) : ipv4 a.dotted = some [a.word 6, a.word 7] := by
  have h := octets (a.word 6) (a.word 7)
  unfold dotted
  rw [ipv4_dottedText, h.1, h.2]

theorem not_mem_dotted {c : Char} (hc : ∀ d : Fin 10, Nat.digitChar d ≠ c) (hdot : c ≠ '.') : c ∉ a.dotted := by
  simp [dotted, dottedText, octetText, not_mem_toDigits (by decide) hc, hdot]

theorem ipv6_mapped (h : a.isV4Mapped = true) :
    ipv6 (a.wordsText 6 ++ a.dotted) = some a.host16.toList := by
  have ho := octets (a.word 6) (a.word 7)
  have hside : side (hexText 0xffff ++ ':' :: a.dotted) = some ([0xffff, a.word 6, a.word 7] : List Word) := by
    unfold dotted
    rw [side_embedded, ho.1, ho.2]
  have htext : a.wordsText 6 ++ a.dotted = [] ++ ':' :: ':' :: (hexText 0xffff ++ ':' :: a.dotted) := by
    simp [wordsText_mapped h]
  rw [htext, ipv6_gap (by simp [gap]) rfl hside (by simp), toList_mapped h]
  rfl

/-- The text of the address between the brackets. -/
def hostText (a : InternetAddress) : List Char := if a.isIPv6 then a.wordsText 8 else a.wordsText 6 ++ a.dotted

theorem ipv6_hostText (a : InternetAddress) : ipv6 a.hostText = some a.host16.toList := by
  unfold hostText isIPv6
  cases h : a.isV4Mapped
  · exact ipv6_wordsText a
  · exact ipv6_mapped h

theorem colon_mem_hostText (a : InternetAddress) : ':' ∈ a.hostText := by
  unfold hostText isIPv6
  cases h : a.isV4Mapped
  · exact colon_mem_wordsText a
  · simp [wordsText_mapped h]

theorem not_mem_hostText {c : Char} (hc : ∀ d : Fin 16, Nat.digitChar d ≠ c) (hcolon : c ≠ ':') (hdot : c ≠ '.') :
    c ∉ a.hostText := by
  have hc' : ∀ d : Fin 10, Nat.digitChar d ≠ c := fun d => hc ⟨d, by omega⟩
  unfold hostText isIPv6
  cases h : a.isV4Mapped
  · exact not_mem_wordsText hc hcolon
  · have hffff : c ∉ hexText 0xffff := not_mem_toDigits (by decide) hc _
    simp only [Bool.not_true, Bool.false_eq_true, if_false, wordsText_mapped h, List.mem_append, List.mem_cons,
      List.not_mem_nil, hffff, hcolon, not_mem_dotted hc' hdot, or_self, not_false_eq_true]

theorem numericAddress_hostText (a : InternetAddress) :
    numericAddress a.hostText = some (.inet6 a.host16 0 0 0) := by
  unfold numericAddress
  simp only [colon_mem_hostText, if_true, ipv6_hostText]
  rw [dif_pos (by simp)]
  congr

theorem numericAddress_dotted (a : InternetAddress) :
    numericAddress a.dotted = some (.inet (a.word 6 ++ a.word 7) 0) := by
  unfold numericAddress
  rw [if_neg (not_mem_dotted (by decide) (by decide)), ipv4_dotted]

theorem not_isLinkLocal6 (h : ¬(a.isIPv6 = true ∧ a.isLinkLocal = true)) : isLinkLocal6 a.host16 = false := by
  cases hm : a.isV4Mapped
  · simpa [isLinkLocal, isIPv6, hm] using h
  · have h0 := (words_of_mapped hm).1
    simp only [word, Vector.getElem?_eq_getElem (by decide : 0 < 8), Option.getD_some] at h0
    simp [isLinkLocal6, h0]

theorem init_hostText (h6 : N.useIPv6 = true) (hl : ¬(a.isIPv6 = true ∧ a.isLinkLocal = true)) (port : BitVec 16) :
    init N a.hostText port = { host16 := a.host16, port, scopeID := 0, valid := true, format := PF_Default } := by
  unfold init getHostByName getaddrinfo
  simp only [numericAddress_hostText, h6, Bool.true_or, if_true, not_isLinkLocal6 hl]
  rfl

theorem init_dotted (h6 : N.useIPv6 = true) (hm : a.isV4Mapped = true) (port : BitVec 16) :
    init N a.dotted port = { host16 := a.host16, port, scopeID := 0, valid := true, format := PF_Default } := by
  unfold init getHostByName getaddrinfo
  simp only [numericAddress_dotted, h6, Bool.true_or, if_true, mapped_eq hm]

/-- A host and a port that are split off give the object of that host. -/
theorem ofString_port {text host : List Char} {port : BitVec 16}
    (h : splitAddress text = some (host, Nat.toDigits 10 port.toNat)) :
    ofString N (some text) = init N host port := by
  have hlt := port.isLt
  have hport : BitVec.ofInt 16 (port.toNat : Int) = port := by simp
  unfold ofString
  simp only [h, scanInt_toDigits (show port.toNat < 2 ^ 31 by omega)]
  rw [if_pos (by omega), hport]

theorem length_portText (a : InternetAddress) : a.portText.length < 2 ^ 32 := by
  have h : a.portText.length ≤ 5 :=
    (Nat.length_toDigits_le_iff (by decide) (by decide)).mpr (by have := a.port.isLt; omega)
  omega

/-! ## The round trip -/

theorem text6_eq (hl : ¬(a.isIPv6 = true ∧ a.isLinkLocal = true)) {format : PrintFormat}
    (hport : format.hidePort = false) :
    a.text6 N format = '[' :: a.hostText ++ ']' :: ':' :: a.portText := by
  have hl' : (a.isIPv6 && a.isLinkLocal) = false := by simpa using hl
  unfold text6 hostText wordsText
  simp only [hl', hport, Bool.false_eq_true, if_false, List.append_nil]
  cases a.isIPv6 <;> simp

theorem ofString_text6 (h6 : N.useIPv6 = true) (hl : ¬(a.isIPv6 = true ∧ a.isLinkLocal = true)) {format : PrintFormat}
    (hport : format.hidePort = false) :
    ofString N (some (a.text6 N format)) =
      { host16 := a.host16, port := a.port, scopeID := 0, valid := true, format := PF_Default } := by
  have hsplit : splitAddress ('[' :: a.hostText ++ ']' :: ':' :: a.portText) = some (a.hostText, a.portText) :=
    splitAddress_brackets (not_mem_hostText (by decide) (by decide) (by decide))
      (not_mem_hostText (by decide) (by decide) (by decide)) (not_mem_toDigits (by decide) (by decide) _)
      a.length_portText
  rw [text6_eq hl hport, ofString_port hsplit, init_hostText h6 hl]

theorem ofString_text4 (h6 : N.useIPv6 = true) (hm : a.isV4Mapped = true) {format : PrintFormat}
    (hport : format.hidePort = false) :
    ofString N (some (a.text4 format)) =
      { host16 := a.host16, port := a.port, scopeID := 0, valid := true, format := PF_Default } := by
  have hnot {c : Char} (hc : ∀ d : Fin 10, Nat.digitChar d ≠ c) : c ∉ a.portText := not_mem_toDigits (by decide) hc _
  have hopen : '(' ∉ a.dotted ++ ':' :: a.portText := by
    simp [not_mem_dotted (a := a) (c := '(') (by decide) (by decide), hnot (c := '(') (by decide)]
  have hbracket : a.dotted.head? ≠ some '[' := fun h =>
    not_mem_dotted (a := a) (c := '[') (by decide) (by decide) (List.mem_of_head? h)
  have hne : a.dotted ≠ [] := by simp [dotted, dottedText]
  have hsplit := splitAddress_colon hopen hbracket hne (hnot (c := ':') (by decide)) a.length_portText
  unfold text4
  rw [if_neg (by simp [hport]), ofString_port hsplit, init_dotted h6 hm]

/-- Printing and reading an address that is not a link-local one of IPv6 gives the same words
and the same port; so does the default format for an address other than `::`. -/
theorem ofString_getAddressString (N : NameSystem) (a : InternetAddress) (h6 : N.useIPv6 = true)
    (hvalid : a.valid = true) (hl : ¬(a.isIPv6 = true ∧ a.isLinkLocal = true)) :
    (let b := ofString N (some (a.getAddressString N PF_Address))
     b.valid = true ∧ b.host16 = a.host16 ∧ b.port = a.port) ∧
    (a.isUnspecified6 = false →
      let b := ofString N (some (a.getAddressString N PF_Default))
      b.valid = true ∧ b.host16 = a.host16 ∧ b.port = a.port) := by
  have hprint6 {format : PrintFormat} (h : format.address = true) (h' : format.hostname = false)
      (hchoice : ((N.useIPv6 && !format.legacy) || !a.isIPv4) = true) : a.getAddressString N format = a.text6 N format := by
    simp [getAddressString, hvalid, h, h', hostString, hchoice]
  constructor
  · rw [hprint6 rfl rfl (by simp [h6, PF_Address]), ofString_text6 h6 hl rfl]
    exact ⟨rfl, rfl, rfl⟩
  · intro hu
    cases hm : a.isV4Mapped
    · rw [hprint6 rfl rfl (by simp [isIPv4, hm, hu]), ofString_text6 h6 hl rfl]
      exact ⟨rfl, rfl, rfl⟩
    · have hprint4 : a.getAddressString N PF_Default = a.text4 PF_Default := by
        simp [getAddressString, hvalid, PF_Default, hostString, isIPv4, hm]
      rw [hprint4, ofString_text4 h6 hm rfl]
      exact ⟨rfl, rfl, rfl⟩

/-- The loopback address, port 80. -/
theorem ofString_getAddressString_loopback :
    let a : InternetAddress :=
      { host16 := #v[0, 0, 0, 0, 0, 0, 0, 1], port := 80, scopeID := 0, valid := true, format := PF_Default }
    (let b := ofString {} (some (a.getAddressString {} PF_Address))
     b.valid = true ∧ b.host16 = a.host16 ∧ b.port = a.port) ∧
    (a.isUnspecified6 = false →
      let b := ofString {} (some (a.getAddressString {} PF_Default))
      b.valid = true ∧ b.host16 = a.host16 ∧ b.port = a.port) :=
  ofString_getAddressString {} _ rfl rfl (by decide)

end InternetAddress

end SocketApi
