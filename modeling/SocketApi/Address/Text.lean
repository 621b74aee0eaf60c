import SocketApi.Address.Internet
import Mathlib.Data.Int.Order.Basic

/-!
# The text of an internet address

`getAddressString` and the constructor from a text. Both use the name services of the host;
numeric addresses are read in the standard notation.
-/

namespace SocketApi

open Inet

/-! ## Texts -/

namespace Text

/-- `String::index`. -/
def index (c : Char) : List Char → Option Nat
  | [] => none
  | d :: text => if d = c then some 0 else (index c text).map (· + 1)

/-- `String::rindex`. -/
def rindex (c : Char) (text : List Char) : Option Nat :=
  (index c text.reverse).map fun i => text.length - 1 - i

/-- `String::mid`. -/
def mid (text : List Char) (start : Nat) (maxChars : Nat := 2 ^ 32 - 1) : List Char :=
  (text.drop start).take maxChars

/-- `String::left`. -/
def left (text : List Char) (maxChars : Nat) : List Char := text.take maxChars

def isSpace (c : Char) : Bool := c = ' ' ∨ c = '\t' ∨ c = '\n' ∨ c = '\r' ∨ c = '\x0b' ∨ c = '\x0c'

/-- The digits of `sscanf(text, "%d")`; a value that is no `int` wraps around. -/
def scanDigits (negative : Bool) (text : List Char) : Option Int :=
  let digits := text.takeWhile Char.isDigit
  if digits = [] then none
  else
    let n : Int := Nat.ofDigitChars 10 digits 0
    some (Int.bmod (if negative then -n else n) (2 ^ 32))

/-- `sscanf(text, "%d")`. -/
def scanInt (text : List Char) : Option Int :=
  match text.dropWhile isSpace with
  | '-' :: rest => scanDigits true rest
  | '+' :: rest => scanDigits false rest
  | rest => scanDigits false rest

end Text

/-- The name services of the host: host names, interfaces, `getaddrinfo` for what is no
address in the standard notation, and ports of services. -/
structure NameSystem where
  useIPv6 : Bool := true
  getnameinfo : Sockaddr → Option (List Char × List Char) := fun _ => none
  if_indextoname : BitVec 16 → Option (List Char) := fun _ => none
  lookup : List Char → Bool → Option Sockaddr := fun _ _ => none
  service : List Char → Option (BitVec 16) := fun _ => none

variable (N : NameSystem)

namespace InternetAddress

/-! ## Printing -/

/-- `Host16[i]`. -/
def word (a : InternetAddress) (i : Nat) : Word := a.host16[i]?.getD 0

/-- The loop that looks for the end of a run of zero words. -/
def zeroRun (a : InternetAddress) (j : Nat) : Nat :=
  if j < 8 then
    if a.word j ≠ 0 then j else zeroRun a (j + 1)
  else j
termination_by 8 - j

theorem le_zeroRun (a : InternetAddress) (j : Nat) : j ≤ a.zeroRun j := by
  fun_induction zeroRun a j with
  | case1 => exact Nat.le_refl _
  | case2 j _ _ ih => exact Nat.le_of_succ_le ih
  | case3 => exact Nat.le_refl _

/-- The colon behind the word `i`. -/
def colon (i : Nat) : List Char := if i < 7 then [':'] else []

/-- "Print IPv6 hex notation", from the word `i` on. -/
def hexNotation (a : InternetAddress) (length : Nat) (compressed : Bool) (i : Nat) : List Char :=
  if i < length then
    let value := a.word i
    if value ≠ 0 ∨ compressed = true ∨ i = 7 then
      hexText value ++ colon i ++ hexNotation a length compressed (i + 1)
    else
      let j := a.zeroRun (i + 1)
      if j = i + 1 then
        hexText value ++ colon i ++ hexNotation a length compressed (i + 1)
      else
        (if i = 0 ∨ j = 8 then [':'] else []) ++ colon (j - 1) ++ hexNotation a length true j
  else []
termination_by length - i
decreasing_by
  all_goals have := a.le_zeroRun (i + 1); omega

/-- "%d.%d.%d.%d" of `ntohl(Host32[3])`. -/
def dotted (a : InternetAddress) : List Char :=
  let x := a.word 6 ++ a.word 7
  dottedText (x.extractLsb' 24 8) (x.extractLsb' 16 8) (x.extractLsb' 8 8) (x.extractLsb' 0 8)

/-- "%d" of the port. -/
def portText (a : InternetAddress) : List Char := Nat.toDigits 10 a.port.toNat

/-- The IPv6 branch of "Generate address string". -/
def text6 (a : InternetAddress) (format : PrintFormat) : List Char :=
  let length := if a.isIPv6 then 8 else 6
  let words := a.hexNotation length false 0
  let words := if words.length = 1 then words ++ [':'] else words
  let embedded := if length = 6 then a.dotted else []
  let interface :=
    if a.isIPv6 && a.isLinkLocal then '%' :: (N.if_indextoname a.scopeID).getD "(BAD!)".toList else []
  let host := words ++ embedded ++ interface
  if format.hidePort then host else '[' :: host ++ ']' :: ':' :: a.portText

/-- The IPv4 branch. -/
def text4 (a : InternetAddress) (format : PrintFormat) : List Char :=
  if format.hidePort then a.dotted else a.dotted ++ ':' :: a.portText

/-- "Generate hostname string". -/
def hostString (a : InternetAddress) (format : PrintFormat) : List Char :=
  if format.hostname then
    match (a.getSystemAddress N.useIPv6 28 .unspec).bind N.getnameinfo with
    | some (cname, sname) => if format.hidePort then cname else cname ++ ':' :: sname
    | none => []
  else []

def getAddressString (a : InternetAddress) (format : PrintFormat) : List Char :=
  if !a.valid then "(invalid)".toList
  else if !(format.hostname || format.address) then "(check print format)".toList
  else
    let hostString := a.hostString N format
    let addressString :=
      if format.address || (format.hostname && hostString.isEmpty) then
        if (N.useIPv6 && !format.legacy) || !a.isIPv4 then a.text6 N format else a.text4 format
      else []
    if !hostString.isEmpty && !addressString.isEmpty then hostString ++ ' ' :: '(' :: addressString ++ [')']
    else hostString ++ addressString

/-! ## Reading -/

/-- A numeric address in the standard notation. -/
def numericAddress (name : List Char) : Option Sockaddr :=
  if ':' ∈ name then
    match ipv6 name with
    | some ws => if h : ws.length = 8 then some (.inet6 ⟨ws.toArray, h⟩ 0 0 0) else none
    | none => none
  else
    match ipv4 name with
    | some [high, low] => some (.inet (high ++ low) 0)
    | _ => none

/-- `getaddrinfo` of `getHostByName`. -/
def getaddrinfo (name : List Char) (numericHost : Bool) : Option Sockaddr :=
  match numericAddress name with
  | some address => if N.useIPv6 || address.family == .inet then some address else none
  | none => N.lookup name numericHost

/-- `getHostByName`: the words of the address and its scope. -/
def getHostByName (name : List Char) : Option (Vector Word 8 × BitVec 16) :=
  let isNumeric := ':' ∈ name ∨ name.all fun c => c.isDigit || c == '.'
  match getaddrinfo N name isNumeric with
  | some (.inet addr _) => some (mapped addr, 0)
  | some (.inet6 addr _ _ scope) => if isLinkLocal6 addr ∧ scope = 0 then none else some (addr, scope.setWidth 16)
  | _ => none

/-- `init(hostName, port)`. -/
def init (hostName : List Char) (port : BitVec 16) : InternetAddress :=
  match getHostByName N hostName with
  | some (host16, scopeID) => { host16, port, scopeID, valid := true, format := PF_Default }
  | none => { reset with valid := false }

/-- The host and the port of an address text, `none` for a missing bracket. -/
def splitAddress (address : List Char) : Option (List Char × List Char) :=
  let host := match Text.index '(' address with
    | some p1 => if 0 < p1 then Text.mid address (p1 + 1) else address
    | none => address
  if host.head? = some '[' then
    match Text.index ']' host with
    | some p1 =>
      if 0 < p1 then
        let port :=
          if host[p1 + 1]? = some ':' ∨ host[p1 + 1]? = some '!' then Text.mid host (p1 + 2) else "0".toList
        some (Text.mid host 1 (p1 - 1), port)
      else none
    | none => none
  else
    match (Text.rindex ':' address).or (Text.rindex '!' address) with
    | some p1 =>
      if 0 < p1 then some (Text.left address p1, Text.mid address (p1 + 1)) else some (host, "0".toList)
    | none => some (host, "0".toList)

/-- `InternetAddress(address)`; a failed construction leaves an invalid object. -/
def ofString (address : Option (List Char)) : InternetAddress :=
  match address with
  | none => reset
  | some address =>
    match splitAddress address with
    | none => { reset with valid := false }
    | some (host, port) =>
      match Text.scanInt port with
      | some portNumber =>
        if 0 ≤ portNumber ∧ portNumber ≤ 65535 then init N host (BitVec.ofInt 16 portNumber)
        else byService host port
      | none => byService host port
where
  byService (host port : List Char) : InternetAddress :=
    let portNumber := (N.service port).getD 0
    if portNumber ≠ 0 then init N host portNumber else { reset with valid := false }

end InternetAddress

end SocketApi
