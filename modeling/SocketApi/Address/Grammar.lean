import SocketApi.Address.RoundTrip

/-!
# The grammar of address texts

A text is a host and a port, with a colon or an exclamation mark between them, with brackets
around the host, or as it is printed with a host name. The constructor looks for the last colon
of the whole text first.
-/

namespace SocketApi

open Inet

namespace AddressGrammar

/-! ## Hosts and ports -/

/-- The characters with a meaning in address texts, apart from the colon. -/
def IsMark (c : Char) : Prop := c = '!' ∨ c = '(' ∨ c = ')' ∨ c = '[' ∨ c = ']'

instance : DecidablePred IsMark := fun c =>
  inferInstanceAs (Decidable (c = '!' ∨ c = '(' ∨ c = ')' ∨ c = '[' ∨ c = ']'))

/-- A name or an IPv4 address without a colon, or an IPv6 address with some. Positions in a
`String` are of type `integer`. -/
structure HostText (host : List Char) : Prop where
  ne : host ≠ []
  noMark : ∀ c ∈ host, ¬IsMark c
  colons : ':' ∉ host ∨ 2 ≤ host.count ':'
  short : host.length < 2 ^ 31

/-- A port text, which has no separators. -/
structure Label (text : List Char) : Prop where
  noMark : ∀ c ∈ text, ¬IsMark c
  noColon : ':' ∉ text

/-- A decimal number up to 65535. -/
def IsPort (text : List Char) : Prop :=
  text ≠ [] ∧ text.all Char.isDigit = true ∧ Nat.ofDigitChars 10 text 0 ≤ 65535

/-- Names in the tables of the name services have no marks. -/
structure Documented (N : NameSystem) : Prop where
  lookup : ∀ name numericHost, (N.lookup name numericHost).isSome → ∀ c ∈ name, ¬IsMark c

/-! ## Forms -/

/-- `h:p`, `h!p`, `[h]:p` and the printed `cname:sname (h:p)` and `cname:sname ([h]:p)`. -/
inductive Form where
  | colon (host : List Char)
  | bang (host : List Char)
  | brackets (host : List Char)
  | full (cname sname host : List Char)
  | fullBrackets (cname sname host : List Char)
  deriving DecidableEq

namespace Form

def host : Form → List Char
  | colon h | bang h | brackets h | full _ _ h | fullBrackets _ _ h => h

/-- The text with the port `port`. -/
def text : Form → List Char → List Char
  | colon h, port => h ++ ':' :: port
  | bang h, port => h ++ '!' :: port
  | brackets h, port => '[' :: h ++ ']' :: ':' :: port
  | full cname sname h, port => (cname ++ ':' :: sname) ++ ' ' :: '(' :: (h ++ ':' :: port) ++ [')']
  | fullBrackets cname sname h, port =>
    (cname ++ ':' :: sname) ++ ' ' :: '(' :: ('[' :: h ++ ']' :: ':' :: port) ++ [')']

/-- A colon stands only behind a host that has none itself. -/
def WellFormed : Form → Prop
  | colon h => HostText h ∧ ':' ∉ h
  | bang h | brackets h => HostText h
  | full cname sname h => '(' ∉ cname ∧ '(' ∉ sname ∧ HostText h ∧ ':' ∉ h
  | fullBrackets cname sname h => '(' ∉ cname ∧ '(' ∉ sname ∧ HostText h

theorem WellFormed.hostText {f : Form} (h : f.WellFormed) : HostText f.host := by
  cases f with
  | colon host => exact h.1
  | bang host => exact h
  | brackets host => exact h
  | full cname sname host => exact h.2.2.1
  | fullBrackets cname sname host => exact h.2.2

end Form

/-! ## How the constructor reads a text -/

section
variable (N : NameSystem)

/-- The port number of a port text. -/
def portNumber (port : List Char) : Option (BitVec 16) :=
  let byService := (N.service port).bind fun p => if p ≠ 0 then some p else none
  match Text.scanInt port with
  | some n => if 0 ≤ n ∧ n ≤ 65535 then some (BitVec.ofInt 16 n) else byService
  | none => byService

/-- The text before and behind the last colon. -/
def cut (text : List Char) : List Char × List Char :=
  match Text.rindex ':' text with
  | some i => (text.take i, text.drop (i + 1))
  | none => (text, [])

/-- What the constructor takes for the host. -/
def Form.hostPart : Form → List Char
  | bang h => if ':' ∈ h then (cut h).1 else h
  | full cname sname h => (cname ++ ':' :: sname) ++ ' ' :: '(' :: h
  | f => f.host

/-- What the constructor takes for the port. -/
def Form.portPart : Form → List Char → List Char
  | bang h, port => if ':' ∈ h then ((cut h).2 ++ '!' :: port).take maxChars else port.take maxChars
  | full _ _ _, port => (port ++ [')']).take maxChars
  | fullBrackets _ _ h, port => (port ++ [')']).take (maxChars - (h.length + 3))
  | _, port => port.take maxChars

/-- The address of a host and a port. -/
def addressOf (host : List Char) (port : BitVec 16) : InternetAddress := InternetAddress.init N host port

/-! ## What is to hold -/

/-- The port of a host that there is is read as it is, and what is no port and no service gives
no address. -/
structure Parsed (f : Form) (port : List Char) : Prop where
  number : (InternetAddress.getHostByName N f.host).isSome → ∀ p : BitVec 16, port = Nat.toDigits 10 p.toNat →
    InternetAddress.ofString N (some (f.text port)) = addressOf N f.host p
  noPort : ¬IsPort port → N.service port = none → (InternetAddress.ofString N (some (f.text port))).valid = false

/-- Where a text is split at the right position for the port `p`. Before an exclamation mark
behind an IPv6 address its last group is taken for the port, which is right only if the address
without that group is the same and the group reads as `p`. -/
def SplitRight : Form → BitVec 16 → Prop
  | .bang h, p => ':' ∈ h →
    InternetAddress.getHostByName N (cut h).1 = InternetAddress.getHostByName N h ∧
      portNumber N ((cut h).2 ++ '!' :: Nat.toDigits 10 p.toNat) = some p
  | .full _ _ _, _ => False
  | _, _ => True

/-- A text whose port part starts with a number up to 65535 gives an address. -/
def Accepted (f : Form) (port : List Char) : Prop :=
  (InternetAddress.getHostByName N f.hostPart).isSome ∧ (portNumber N (f.portPart port)).isSome

/-- When a form with a port text is treated as it is to be. -/
def HoldsWhen (f : Form) (port : List Char) : Prop :=
  ((InternetAddress.getHostByName N f.host).isSome →
    ∀ p : BitVec 16, port = Nat.toDigits 10 p.toNat → SplitRight N f p) ∧
  (¬IsPort port → N.service port = none → ¬Accepted N f port)

/-- No bracket is closed, and yet there is an address without a port behind a parenthesis. -/
def Escapes (text : List Char) : Prop :=
  ∃ front tail, text = front ++ '(' :: tail ∧ '(' ∉ front ∧ ':' ∉ text ∧ '!' ∉ text ∧ tail.head? ≠ some '[' ∧
    (InternetAddress.getHostByName N (tail.take maxChars)).isSome

end

/-! ## Splitting -/

variable {N : NameSystem}

theorem not_mem_of_noMark {c : Char} {text : List Char} (h : ∀ d ∈ text, ¬IsMark d) (hc : IsMark c) : c ∉ text :=
  fun hmem => h c hmem hc

theorem exists_last {c : Char} {text : List Char} (h : c ∈ text) :
    ∃ front behind, text = front ++ c :: behind ∧ c ∉ behind := by
  obtain ⟨as, bs, he, hno⟩ := List.eq_append_cons_of_mem (List.mem_reverse.mpr h)
  refine ⟨bs.reverse, as.reverse, ?_, by simpa using hno⟩
  have hrev := congrArg List.reverse he
  simpa using hrev

theorem cut_eq {front behind : List Char} (h : ':' ∉ behind) : cut (front ++ ':' :: behind) = (front, behind) := by
  unfold cut
  rw [Text.rindex_append h]
  simp

/-! ## The parts of a form -/

theorem cut_spec {host : List Char} (h : HostText host) (hcolon : ':' ∈ host) :
    host = (cut host).1 ++ ':' :: (cut host).2 ∧ ':' ∉ (cut host).2 ∧ (cut host).1 ≠ [] := by
  obtain ⟨front, behind, he, hno⟩ := exists_last hcolon
  have hcut : cut host = (front, behind) := he ▸ cut_eq hno
  rw [hcut]
  refine ⟨he, hno, ?_⟩
  -- An IPv6 address has another colon in front of its last one.
  rintro rfl
  rcases h.colons with hnone | htwo
  · exact hnone hcolon
  · have hcount : host.count ':' = 1 := by
      rw [he]
      simp [List.count_eq_zero_of_not_mem hno]
    omega

theorem head_append {text rest : List Char} {c : Char} (h : text.head? ≠ some c) (hne : text ≠ []) :
    (text ++ rest).head? ≠ some c := by
  rw [List.head?_append_of_ne_nil _ hne]
  exact h

theorem HostText.head {host : List Char} (h : HostText host) : host.head? ≠ some '[' :=
  fun he => h.noMark '[' (List.mem_of_mem_head? he) (by decide)

/-- The constructor splits a form into these two parts. -/
theorem splitAddress_text {f : Form} {port : List Char} (hf : f.WellFormed) (hport : Label port) :
    InternetAddress.splitAddress (f.text port) = some (f.hostPart, f.portPart port) := by
  have hparen : '(' ∉ port := not_mem_of_noMark hport.noMark (by decide)
  have hbang : '!' ∉ port := not_mem_of_noMark hport.noMark (by decide)
  rw [splitAddress_eq]
  cases f with
  | colon h =>
    obtain ⟨hh, -⟩ := hf
    have hno : '(' ∉ h ++ ':' :: port := by
      simp [not_mem_of_noMark hh.noMark (show IsMark '(' by decide), hparen]
    unfold Form.text
    rw [behindParen_none hno]
    exact splitHost_last (head_append hh.head hh.ne) hh.ne hport.noColon
  | bang h =>
    have hh : HostText h := hf
    have hno : '(' ∉ h ++ '!' :: port := by
      simp [not_mem_of_noMark hh.noMark (show IsMark '(' by decide), hparen]
    have hhead : (h ++ '!' :: port).head? ≠ some '[' := head_append hh.head hh.ne
    unfold Form.text Form.hostPart Form.portPart
    rw [behindParen_none hno]
    by_cases hcolon : ':' ∈ h
    · obtain ⟨he, hlast, hne⟩ := cut_spec hh hcolon
      have hbehind : ':' ∉ (cut h).2 ++ '!' :: port := by simp [hlast, hport.noColon]
      have hsplit : h ++ '!' :: port = (cut h).1 ++ ':' :: ((cut h).2 ++ '!' :: port) := by
        conv_lhs => rw [he]
        simp
      simp only [hcolon, if_true]
      rw [hsplit] at hhead ⊢
      exact splitHost_last hhead hne hbehind
    · simp only [hcolon, if_false]
      exact splitHost_bang hhead hh.ne (by simp [hcolon, hport.noColon]) hbang
  | brackets h =>
    have hh : HostText h := hf
    have hno : '(' ∉ '[' :: h ++ ']' :: ':' :: port := by
      simp [not_mem_of_noMark hh.noMark (show IsMark '(' by decide), hparen]
    unfold Form.text
    rw [behindParen_none hno]
    exact splitHost_brackets _ (not_mem_of_noMark hh.noMark (by decide))
  | full cname sname h =>
    obtain ⟨hc, hs, hh, -⟩ := hf
    have hno : '(' ∉ (cname ++ ':' :: sname) ++ [' '] := by simp [hc, hs]
    have htext : (Form.full cname sname h).text port =
        ((cname ++ ':' :: sname) ++ [' ']) ++ '(' :: ((h ++ ':' :: port) ++ [')']) := by
      simp [Form.text]
    have hsplit : (Form.full cname sname h).text port =
        ((cname ++ ':' :: sname) ++ ' ' :: '(' :: h) ++ ':' :: (port ++ [')']) := by
      simp [Form.text]
    have hhead : (((h ++ ':' :: port) ++ [')']).take maxChars).head? ≠ some '[' := by
      rw [List.head?_take, if_neg (by decide), List.append_assoc]
      exact head_append hh.head hh.ne
    conv_lhs => rw [htext, behindParen_some hno (by simp), ← htext, hsplit]
    exact splitHost_last hhead (by simp) (by simp [hport.noColon])
  | fullBrackets cname sname h =>
    obtain ⟨hc, hs, hh⟩ := hf
    have hno : '(' ∉ (cname ++ ':' :: sname) ++ [' '] := by simp [hc, hs]
    have htext : (Form.fullBrackets cname sname h).text port =
        ((cname ++ ':' :: sname) ++ [' ']) ++ '(' :: (('[' :: h ++ [']', ':']) ++ (port ++ [')'])) := by
      simp [Form.text]
    have hshort := hh.short
    have hlen : ('[' :: h ++ [']', ':']).length = h.length + 3 := by simp
    have htake : (('[' :: h ++ [']', ':']) ++ (port ++ [')'])).take maxChars =
        '[' :: h ++ ']' :: ':' :: (port ++ [')']).take (maxChars - (h.length + 3)) := by
      rw [List.take_append, hlen, List.take_of_length_le (by rw [hlen]; unfold maxChars; omega)]
      simp
    conv_lhs => rw [htext, behindParen_some hno (by simp), ← htext, htake]
    rw [splitHost_brackets _ (not_mem_of_noMark hh.noMark (by decide)), List.take_take,
      Nat.min_eq_right (Nat.sub_le _ _)]
    rfl

/-! ## Ports -/

theorem portNumber_digits (p : BitVec 16) (rest : List Char) (hrest : ∀ c, rest.head? = some c → c.isDigit = false) :
    portNumber N (Nat.toDigits 10 p.toNat ++ rest) = some p := by
  have hlt := p.isLt
  have hp : BitVec.ofInt 16 (p.toNat : Int) = p := by simp
  unfold portNumber
  simp only [scanInt_digits (show p.toNat < 2 ^ 31 by omega) hrest]
  rw [if_pos (by omega), hp]

theorem length_digits (p : BitVec 16) : (Nat.toDigits 10 p.toNat).length ≤ 5 :=
  (Nat.length_toDigits_le_iff (by decide) (by decide)).mpr (by have := p.isLt; omega)

/-! ## Hosts -/

theorem noMark_of_addressChar {c : Char} (h : IsAddressChar c) : ¬IsMark c := by
  rintro (rfl | rfl | rfl | rfl | rfl)
  all_goals exact absurd h (by decide)

theorem numericAddress_noMark {name : List Char} {s : Sockaddr} (h : InternetAddress.numericAddress name = some s) :
    ∀ c ∈ name, ¬IsMark c := by
  intro c hc
  apply noMark_of_addressChar
  unfold InternetAddress.numericAddress at h
  by_cases hcolon : ':' ∈ name
  · rw [if_pos hcolon] at h
    cases h6 : ipv6 name with
    | none => simp [h6] at h
    | some ws => exact ipv6_chars h6 c hc
  · rw [if_neg hcolon] at h
    cases h4 : ipv4 name with
    | none => simp [h4] at h
    | some ws => exact ipv4_chars h4 c hc

/-- A text with a mark is no host. -/
theorem getHostByName_mark (hN : Documented N) {name : List Char} {c : Char} (hc : c ∈ name) (hmark : IsMark c) :
    InternetAddress.getHostByName N name = none := by
  have hnumeric : InternetAddress.numericAddress name = none := by
    cases h : InternetAddress.numericAddress name with
    | none => rfl
    | some s => exact absurd hmark (numericAddress_noMark h c hc)
  have hlookup (numericHost : Bool) : N.lookup name numericHost = none := by
    cases h : N.lookup name numericHost with
    | none => rfl
    | some s => exact absurd hmark (hN.lookup name numericHost (Option.isSome_of_mem h) c hc)
  unfold InternetAddress.getHostByName InternetAddress.getaddrinfo
  simp only [hnumeric, hlookup]

theorem valid_addressOf {host : List Char} {p : BitVec 16} :
    (addressOf N host p).valid = (InternetAddress.getHostByName N host).isSome := by
  unfold addressOf InternetAddress.init
  cases InternetAddress.getHostByName N host with
  | none => rfl
  | some a => rfl

/-- Addresses of two hosts are equal if words, scope and port are. -/
theorem addressOf_eq_iff {host host' : List Char} {p p' : BitVec 16}
    (h : (InternetAddress.getHostByName N host').isSome) :
    addressOf N host p = addressOf N host' p' ↔
      InternetAddress.getHostByName N host = InternetAddress.getHostByName N host' ∧ p = p' := by
  obtain ⟨⟨words', scope'⟩, h'⟩ := Option.isSome_iff_exists.mp h
  unfold addressOf InternetAddress.init
  rw [h']
  cases hh : InternetAddress.getHostByName N host with
  | none =>
    constructor
    · intro he
      have hvalid := congrArg InternetAddress.valid he
      cases hvalid
    · rintro ⟨he, -⟩
      cases he
  | some a =>
    obtain ⟨words, scope⟩ := a
    simp only [InternetAddress.mk.injEq, and_true, Option.some.injEq, Prod.mk.injEq]
    constructor
    · rintro ⟨hwords, hport, hscope⟩
      exact ⟨⟨hwords, hscope⟩, hport⟩
    · rintro ⟨⟨hwords, hscope⟩, hport⟩
      exact ⟨hwords, hport, hscope⟩

/-! ## Texts that are split -/

theorem ofString_split {text host port : List Char} (h : InternetAddress.splitAddress text = some (host, port)) :
    InternetAddress.ofString N (some text) =
      (portNumber N port).elim { InternetAddress.reset with valid := false } (addressOf N host) := by
  unfold InternetAddress.ofString portNumber
  simp only [h]
  have hservice : InternetAddress.ofString.byService N host port =
      ((N.service port).bind fun p => if p ≠ 0 then some p else none).elim
        { InternetAddress.reset with valid := false } (addressOf N host) := by
    unfold InternetAddress.ofString.byService
    cases N.service port with
    | none => rfl
    | some p =>
      by_cases hp : p = 0
      · subst hp
        rfl
      · have hp' : ¬p = 0#16 := hp
        simp [hp', addressOf]
  cases Text.scanInt port with
  | none => exact hservice
  | some n =>
    by_cases hn : 0 ≤ n ∧ n ≤ 65535
    · simp [hn, addressOf]
    · simp only [hn, if_false]
      exact hservice

theorem ofString_valid {text host port : List Char} (h : InternetAddress.splitAddress text = some (host, port)) :
    (InternetAddress.ofString N (some text)).valid = true ↔
      (InternetAddress.getHostByName N host).isSome ∧ (portNumber N port).isSome := by
  rw [ofString_split h]
  cases portNumber N port with
  | none => simp
  | some p => simp [valid_addressOf]

/-- The text of a form gives the address of its host and `p`. -/
theorem ofString_text_iff {f : Form} {port : List Char} {p : BitVec 16} (hf : f.WellFormed) (hport : Label port)
    (hhost : (InternetAddress.getHostByName N f.host).isSome) :
    InternetAddress.ofString N (some (f.text port)) = addressOf N f.host p ↔
      InternetAddress.getHostByName N f.hostPart = InternetAddress.getHostByName N f.host ∧
        portNumber N (f.portPart port) = some p := by
  rw [ofString_split (splitAddress_text hf hport)]
  cases portNumber N (f.portPart port) with
  | none =>
    have hvalid : (addressOf N f.host p).valid = true := by rw [valid_addressOf, hhost]
    constructor
    · intro he
      rw [← he] at hvalid
      cases hvalid
    · rintro ⟨-, he⟩
      cases he
  | some q => rw [Option.elim_some, addressOf_eq_iff hhost, Option.some.injEq]

theorem label_digits (p : BitVec 16) : Label (Nat.toDigits 10 p.toNat) := by
  have hno {c : Char} (hc : ∀ d : Fin 10, Nat.digitChar d ≠ c) : c ∉ Nat.toDigits 10 p.toNat :=
    not_mem_toDigits (by decide) hc _
  refine ⟨fun c hc hmark => ?_, hno (by decide)⟩
  rcases hmark with rfl | rfl | rfl | rfl | rfl
  all_goals exact hno (by decide) hc

theorem take_digits (p : BitVec 16) (rest : List Char) {n : Nat} (h : 5 + rest.length ≤ n) :
    (Nat.toDigits 10 p.toNat ++ rest).take n = Nat.toDigits 10 p.toNat ++ rest := by
  have := length_digits p
  apply List.take_of_length_le
  rw [List.length_append]
  omega

theorem portNumber_take_digits (p : BitVec 16) : portNumber N ((Nat.toDigits 10 p.toNat).take maxChars) = some p := by
  have htake := take_digits p [] (show 5 + 0 ≤ maxChars by decide)
  have hnumber := portNumber_digits (N := N) p [] (by simp)
  rw [List.append_nil] at htake hnumber
  rw [htake, hnumber]

/-- Which forms are split right for a decimal port. -/
theorem splitRight_iff (hN : Documented N) {f : Form} (hf : f.WellFormed)
    (hhost : (InternetAddress.getHostByName N f.host).isSome) (p : BitVec 16) :
    (InternetAddress.getHostByName N f.hostPart = InternetAddress.getHostByName N f.host ∧
      portNumber N (f.portPart (Nat.toDigits 10 p.toNat)) = some p) ↔ SplitRight N f p := by
  cases f with
  | colon h =>
    refine iff_of_true ⟨rfl, ?_⟩ trivial
    exact portNumber_take_digits p
  | bang h =>
    unfold Form.hostPart Form.portPart SplitRight
    by_cases hcolon : ':' ∈ h
    · have hh : HostText h := hf
      have hshort := hh.short
      have htake : ((cut h).2 ++ '!' :: Nat.toDigits 10 p.toNat).take maxChars =
          (cut h).2 ++ '!' :: Nat.toDigits 10 p.toNat := by
        have hlen := congrArg List.length (cut_spec hh hcolon).1
        have := length_digits p
        rw [List.length_append, List.length_cons] at hlen
        apply List.take_of_length_le
        rw [List.length_append, List.length_cons]
        unfold maxChars
        omega
      simp only [hcolon, if_true, true_imp_iff, htake]
      rfl
    · simp only [hcolon, if_false, false_imp_iff, iff_true]
      exact ⟨rfl, portNumber_take_digits p⟩
  | brackets h =>
    refine iff_of_true ⟨rfl, ?_⟩ trivial
    exact portNumber_take_digits p
  | full cname sname h =>
    refine iff_of_false ?_ id
    rintro ⟨he, -⟩
    have hparen : '(' ∈ (Form.full cname sname h).hostPart := by simp [Form.hostPart]
    rw [← he, getHostByName_mark hN hparen (by decide)] at hhost
    cases hhost
  | fullBrackets cname sname h =>
    have hh : HostText h := hf.2.2
    have hshort := hh.short
    refine iff_of_true ⟨rfl, ?_⟩ trivial
    have hroom : 5 + [')'].length ≤ maxChars - (h.length + 3) := by
      rw [List.length_singleton]
      unfold maxChars
      omega
    show portNumber N ((Nat.toDigits 10 p.toNat ++ [')']).take (maxChars - (h.length + 3))) = some p
    rw [take_digits p [')'] hroom]
    exact portNumber_digits p [')'] (by simp)

/-- A form is treated as it is to be exactly if it is split right for a port, and no number is
found in what is none. -/
theorem parsed_iff (hN : Documented N) {f : Form} {port : List Char} (hf : f.WellFormed) (hport : Label port) :
    Parsed N f port ↔ HoldsWhen N f port := by
  have hvalid : (InternetAddress.ofString N (some (f.text port))).valid = false ↔ ¬Accepted N f port := by
    rw [Bool.eq_false_iff, ne_eq, ofString_valid (splitAddress_text hf hport)]
    rfl
  constructor
  · intro h
    refine ⟨fun hhost p hp => ?_, fun hno hservice => hvalid.mp (h.noPort hno hservice)⟩
    have hnumber := (ofString_text_iff hf hport hhost).mp (h.number hhost p hp)
    rw [hp] at hnumber
    exact (splitRight_iff hN hf hhost p).mp hnumber
  · rintro ⟨hright, hno⟩
    refine ⟨fun hhost p hp => ?_, fun hnot hservice => hvalid.mpr (hno hnot hservice)⟩
    rw [ofString_text_iff hf hport hhost, hp]
    exact (splitRight_iff hN hf hhost p).mpr (hright hhost p hp)

/-! ## Open brackets -/

theorem front_ne_nil {c d : Char} {front behind text : List Char} (h : text = front ++ d :: behind)
    (hhead : text.head? = some c) (hne : c ≠ d) : front ≠ [] := by
  rintro rfl
  rw [h] at hhead
  exact hne (Option.some.inj hhead).symm

theorem head_of_append {c : Char} {front behind text : List Char} (h : text = front ++ behind) (hne : front ≠ [])
    (hhead : text.head? = some c) : c ∈ front := by
  rw [h, List.head?_append_of_ne_nil _ hne] at hhead
  exact List.mem_of_mem_head? hhead

/-- A split whose host has the bracket gives no address. -/
theorem not_valid_of_bracket (hN : Documented N) {text host port : List Char}
    (h : InternetAddress.splitAddress text = some (host, port)) (hbracket : '[' ∈ host) :
    (InternetAddress.ofString N (some text)).valid = false := by
  rw [Bool.eq_false_iff, ne_eq, ofString_valid h, getHostByName_mark hN hbracket (by decide)]
  rintro ⟨hnone, -⟩
  cases hnone

theorem ofString_none {text : List Char} (h : InternetAddress.splitAddress text = none) :
    (InternetAddress.ofString N (some text)).valid = false := by
  unfold InternetAddress.ofString
  simp only [h]

theorem splitHost_open {address host : List Char} (hhead : host.head? = some '[') (hclose : ']' ∉ host) :
    splitHost address host = none := by
  unfold splitHost
  rw [if_pos hhead, Text.index_eq_none hclose]

theorem splitHost_plain {address host : List Char} (hhead : host.head? ≠ some '[') (hcolon : ':' ∉ address)
    (hbang : '!' ∉ address) : splitHost address host = some (host, "0".toList) := by
  unfold splitHost
  rw [if_neg hhead, rindex_eq_none hcolon, rindex_eq_none hbang]
  rfl

theorem index_front {front : List Char} (h : '(' ∉ front) (tail : List Char) :
    Text.index '(' (front ++ '(' :: tail) = some front.length :=
  Text.index_append h tail

theorem head_take (tail : List Char) : (tail.take maxChars).head? = tail.head? := by
  rw [List.head?_take, if_neg (by decide)]

/-- The first parenthesis is where a text escapes. -/
theorem escapes_iff {front : List Char} (h : '(' ∉ front) (tail : List Char) :
    Escapes N (front ++ '(' :: tail) ↔ ':' ∉ front ++ '(' :: tail ∧ '!' ∉ front ++ '(' :: tail ∧ tail.head? ≠ some '[' ∧
      (InternetAddress.getHostByName N (tail.take maxChars)).isSome := by
  constructor
  · rintro ⟨front', tail', he, hno, hcolon, hbang, hhead, hhost⟩
    have hlen : front.length = front'.length := by
      have hindex := index_front h tail
      rw [he, index_front hno tail'] at hindex
      exact (Option.some.inj hindex).symm
    obtain ⟨-, htail⟩ := List.append_inj he hlen
    cases htail
    exact ⟨hcolon, hbang, hhead, hhost⟩
  · rintro ⟨hcolon, hbang, hhead, hhost⟩
    exact ⟨front, tail, rfl, h, hcolon, hbang, hhead, hhost⟩

/-- A text with an open bracket gives an address only where it escapes. -/
theorem open_bracket_iff (hN : Documented N) {text : List Char} (hhead : text.head? = some '[') (hclose : ']' ∉ text) :
    (InternetAddress.ofString N (some text)).valid = false ↔ ¬Escapes N text := by
  by_cases hparen : '(' ∈ text
  · obtain ⟨front, tail, he, hno⟩ := List.eq_append_cons_of_mem hparen
    have hne := front_ne_nil he hhead (by decide)
    have hbehind : behindParen text = tail.take maxChars := by rw [he, behindParen_some hno hne]
    have hesc := escapes_iff (N := N) hno tail
    rw [← he] at hesc
    have hsplit := splitAddress_eq text
    rw [hbehind] at hsplit
    rw [hesc]
    by_cases htail : tail.head? = some '['
    · have hclose' : ']' ∉ tail.take maxChars := by
        intro hmem
        apply hclose
        rw [he]
        simp [List.mem_of_mem_take hmem]
      rw [splitHost_open (by rw [head_take, htail]) hclose'] at hsplit
      exact iff_of_true (ofString_none hsplit) fun h => h.2.2.1 htail
    · have htail' : (tail.take maxChars).head? ≠ some '[' := by rwa [head_take]
      by_cases hcolon : ':' ∈ text
      · obtain ⟨f, b, hf, hb⟩ := exists_last hcolon
        have hfne := front_ne_nil hf hhead (by decide)
        rw [hf, splitHost_last htail' hfne hb, ← hf] at hsplit
        exact iff_of_true (not_valid_of_bracket hN hsplit (head_of_append hf hfne hhead)) fun h => h.1 hcolon
      · by_cases hbang : '!' ∈ text
        · obtain ⟨f, b, hf, hb⟩ := exists_last hbang
          have hfne := front_ne_nil hf hhead (by decide)
          rw [hf, splitHost_bang htail' hfne (hf ▸ hcolon) hb, ← hf] at hsplit
          exact iff_of_true (not_valid_of_bracket hN hsplit (head_of_append hf hfne hhead)) fun h => h.2.1 hbang
        · rw [splitHost_plain htail' hcolon hbang] at hsplit
          have hzero : (portNumber N "0".toList).isSome := rfl
          rw [Bool.eq_false_iff, ne_eq, ofString_valid hsplit]
          simp only [hzero, and_true, hcolon, hbang, htail, not_false_eq_true, true_and, ne_eq]
  · have hsplit := splitAddress_eq text
    rw [behindParen_none hparen, splitHost_open hhead hclose] at hsplit
    refine iff_of_true (ofString_none hsplit) ?_
    rintro ⟨front, tail, he, -⟩
    apply hparen
    rw [he]
    simp

/-! ## Printed forms -/

/-- The full print format gives one of the two forms with a host name. -/
theorem getAddressString_full {a : InternetAddress} {format : PrintFormat} {cname sname : List Char}
    (hvalid : a.valid = true) (hformat : format.address = true ∧ format.hostname = true ∧ format.hidePort = false)
    (hname : (a.getSystemAddress N.useIPv6 28 .unspec).bind N.getnameinfo = some (cname, sname))
    (hlocal : ¬(a.isIPv6 = true ∧ a.isLinkLocal = true)) :
    a.getAddressString N format =
      if (N.useIPv6 && !format.legacy) || !a.isIPv4 then (Form.fullBrackets cname sname a.hostText).text a.portText
      else (Form.full cname sname a.dotted).text a.portText := by
  obtain ⟨haddress, hhostname, hport⟩ := hformat
  have htext6 := InternetAddress.text6_eq (N := N) hlocal hport
  unfold InternetAddress.getAddressString InternetAddress.hostString
  simp only [hvalid, haddress, hhostname, hport, hname]
  by_cases hbranch : ((N.useIPv6 && !format.legacy) || !a.isIPv4) = true
  · simp only [hbranch, if_true, htext6]
    simp [Form.text]
  · simp only [hbranch, InternetAddress.text4, hport]
    simp [Form.text]

/-! ## The grammar -/

/-- A host that knows the name "odin" and the service "http". -/
def odin : NameSystem where
  lookup := fun name numericHost =>
    if name = "odin".toList ∧ numericHost = false then some (.inet 0x0c22384e 0) else none
  service := fun name => if name = "http".toList then some 80 else none

theorem documented_odin : Documented odin := by
  constructor
  intro name numericHost h
  by_cases hname : name = "odin".toList ∧ numericHost = false
  · rw [hname.1]
    simp [IsMark]
  · have hnone : odin.lookup name numericHost = none := if_neg hname
    rw [hnone] at h
    cases h

theorem hostText_ipv6 : HostText "3ffe:4711::0".toList := ⟨by decide, by simp [IsMark], by decide, by decide⟩

end AddressGrammar

end SocketApi
