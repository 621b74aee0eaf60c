import SocketApi.Lib.Duplex
import Mathlib.Data.List.Basic

/-!
# File transfer over an association

`tftpGet` and `tftpPut` of the client program, and the `TrivialFileTransferServer` of the multi-server,
each as what it does between two messages. An association keeps the borders of messages, which fit
into a packet, so that `receive` gives a packet with the bytes of `Data` that have come.
-/

namespace SocketApi

namespace TFTP

open Duplex

structure TFTPPacket where
  type : UInt8
  code : UInt8
  data : List UInt8
  deriving DecidableEq

/-- The bytes that `Data` has room for. -/
def dataSize : Nat := 2046

def TFTP_RRQ : UInt8 := 1
def TFTP_WRQ : UInt8 := 2
def TFTP_DAT : UInt8 := 3
def TFTP_ACK : UInt8 := 4
def TFTP_ERR : UInt8 := 5

/-! ## Files -/

abbrev Name := List UInt8

/-- The files of one side: what `fopen` can read, what it can create, and how many bytes a new file may have. -/
structure Files where
  read : Name → Option (List UInt8)
  create : Name → Bool
  room : Nat

/-- A `FILE*` for reading. -/
structure InFile where
  rest : List UInt8
  feof : Bool := false

/-- `fread` of `dataSize` bytes; the end of the file is noticed when there are fewer. -/
def InFile.fread (file : InFile) : List UInt8 × InFile :=
  (file.rest.take dataSize, { rest := file.rest.drop dataSize, feof := file.feof || file.rest.length < dataSize })

/-- `fwrite` of one object that the data is, and whether it has been written; no bytes are no object. -/
def fwrite (room : Nat) (file data : List UInt8) : List UInt8 × Bool :=
  (file ++ data.take (room - file.length), data ≠ [] ∧ file.length + data.length ≤ room)

/-! ## The client -/

/-- What the client prints, but for the progress. -/
inductive Message where
  | fileNameTooLong
  | unableToCreate
  | unableToOpen
  | writeError
  | unexpectedPacketType (type : UInt8)
  | invalidPacketType (type : UInt8)
  | tftpError (code : UInt8) (text : List UInt8)
  | ioError
  | ok
  deriving DecidableEq

/-- `tftpGet` at a call of the socket, with the file that it writes. -/
inductive Get where
  | request
  | answer
  | transfer (out : List UInt8)
  | done (out : Option (List UInt8)) (messages : List Message)
  deriving DecidableEq

namespace Get

/-- A round of the loop of `tftpGet`, for a packet. -/
def store (files : Files) (out : List UInt8) (packet : TFTPPacket) : Get :=
  if packet.data = [] then .done (some out) []
  else if packet.type = TFTP_DAT then
    let (out, written) := fwrite files.room out packet.data
    if !written then .done (some out) [.writeError]
    else if packet.data.length < dataSize then .done (some out) [.ok]
    else .transfer out
  else if packet.type = TFTP_ERR then .done (some out) [.tftpError packet.code packet.data]
  else .done (some out) [.unexpectedPacketType packet.type]

def next (files : Files) (name : Name) : Get → Action Get TFTPPacket
  | .request => .send ⟨TFTP_RRQ, 0, name⟩ fun sent => if sent then .answer else .done none [.ioError]
  | .answer => .receive fun
    | .message packet =>
      if packet.type = TFTP_ERR then .done none [.tftpError packet.code packet.data]
      else if !files.create name then .done none [.unableToCreate]
      else store files [] packet
    | .shutdown => .done none []
    | .error => .done none [.ioError]
  | .transfer out => .receive fun
    | .message packet => store files out packet
    | .shutdown => .done (some out) []
    | .error => .done (some out) [.ioError]
  | .done _ _ => .stop

/-- `main` refuses names that do not fit into a packet. -/
def start (name : Name) : Get := if name.length ≤ dataSize - 1 then .request else .done none [.fileNameTooLong]

end Get

/-- `tftpPut` at a call of the socket, with the file that it reads. -/
inductive Put where
  | request (file : InFile)
  | answer (file : InFile)
  | sending (file : InFile) (code : UInt8)
  | confirmation
  | done (messages : List Message)

namespace Put

/-- `rindex(name,'/')`: what stands behind the last slash. -/
def remoteName (name : Name) : Name := (name.reverse.takeWhile (· ≠ 0x2F)).reverse

def next (name : Name) : Put → Action Put TFTPPacket
  | .request file => .send ⟨TFTP_WRQ, 0, remoteName name⟩ fun sent => if sent then .answer file else .done [.ioError]
  | .answer file => .receive fun
    | .message packet =>
      if packet.type = TFTP_ERR then .done [.tftpError packet.code packet.data]
      else if packet.type = TFTP_ACK then .sending file 0
      else .done [.invalidPacketType packet.type]
    | .shutdown => .done []
    | .error => .done [.ioError]
  | .sending file code =>
    let (data, file) := file.fread
    .send ⟨TFTP_DAT, code, data⟩ fun sent =>
      if !sent then .confirmation else if file.feof then .confirmation else .sending file (code + 1)
  | .confirmation => .receive fun
    | .message packet =>
      if packet.type = TFTP_ERR then .done [.tftpError packet.code packet.data]
      else if packet.type = TFTP_ACK then .done [.ok]
      else .done [.unexpectedPacketType packet.type]
    | .shutdown => .done []
    | .error => .done [.ioError]
  | .done _ => .stop

def start (files : Files) (name : Name) : Put :=
  if name.length ≤ dataSize - 1 then
    match files.read name with
    | some content => .request { rest := content }
    | none => .done [.unableToOpen]
  else .done [.fileNameTooLong]

end Put

/-! ## The server -/

/-- The size of `FileName`. -/
def fileNameSize : Nat := 512

/-- `isprint` and `isascii`, and none of `:`, `/`, `\`, `*` and `?`. -/
def allowed (c : UInt8) : Bool :=
  0x20 ≤ c && c ≤ 0x7E && c ≠ 0x3A && c ≠ 0x2F && c ≠ 0x5C && c ≠ 0x2A && c ≠ 0x3F

/-- What becomes of a name; the loop does not look at the size of `FileName`. -/
inductive NameResult where
  | accepted
  | refused
  | overflow
  deriving DecidableEq

/-- The loop of `getName` from the index `i` on. -/
def getNameFrom (i : Nat) : List UInt8 → NameResult
  | [] => if i < fileNameSize then .accepted else .overflow
  | c :: rest =>
    if i < fileNameSize then
      if allowed c then getNameFrom (i + 1) rest else .refused
    else .overflow

def getName (data : List UInt8) : NameResult := if data = [] then .refused else getNameFrom 0 data

def ascii (text : String) : List UInt8 := text.toList.map fun c => c.toNat.toUInt8

def errorPacket (code : UInt8) (text : String) : TFTPPacket := ⟨TFTP_ERR, code, ascii text⟩

/-- `run` at a call of the socket, with the file that it has opened and whether its last result is negative.
Nothing is known of a thread that has written behind `FileName`. -/
inductive TrivialFileTransferServer where
  | start
  | reading (file : InFile) (code : UInt8)
  | acknowledging
  | writing (out : List UInt8)
  | replying (packet : TFTPPacket) (out : Option (List UInt8))
  | done (out : Option (List UInt8)) (failed : Bool)
  | overflow

namespace TrivialFileTransferServer

def readRequest (files : Files) (name : Name) : TrivialFileTransferServer :=
  match getName name with
  | .accepted =>
    match files.read name with
    | some content => .reading { rest := content } 0
    | none => .replying (errorPacket 3 "Unable to open file!") none
  | .refused => .replying (errorPacket 1 "Bad file name!") none
  | .overflow => .overflow

def writeRequest (files : Files) (name : Name) : TrivialFileTransferServer :=
  match getName name with
  | .accepted =>
    if files.create name then .acknowledging else .replying (errorPacket 2 "Unable to create file!") none
  | .refused => .replying (errorPacket 1 "Bad file name!") none
  | .overflow => .overflow

/-- A round of the write loop, for a packet. -/
def store (files : Files) (out : List UInt8) (packet : TFTPPacket) : TrivialFileTransferServer :=
  if packet.type ≠ TFTP_DAT then .replying (errorPacket 0 "Bad request!") (some out)
  else
    let (out, written) := fwrite files.room out packet.data
    if !written then .replying (errorPacket 4 "Write error!") (some out)
    else if packet.data.length < dataSize then .replying ⟨TFTP_ACK, packet.code, []⟩ (some out)
    else .writing out

def next (files : Files) : TrivialFileTransferServer → Action TrivialFileTransferServer TFTPPacket
  | .start => .receive fun
    | .message packet =>
      if packet.data = [] then .done none false
      else if packet.type = TFTP_RRQ then readRequest files packet.data
      else if packet.type = TFTP_WRQ then writeRequest files packet.data
      else .replying (errorPacket 0 "Bad request!") none
    | .shutdown => .done none false
    | .error => .done none true
  | .reading file code =>
    let (data, file) := file.fread
    .send ⟨TFTP_DAT, code, data⟩ fun sent =>
      if !sent then .done none true else if file.feof then .done none false else .reading file (code + 1)
  | .acknowledging => .send ⟨TFTP_ACK, 0, []⟩ fun sent => if sent then .writing [] else .done (some []) true
  | .writing out => .receive fun
    | .message packet => store files out packet
    | .shutdown => .done (some out) false
    | .error => .done (some out) true
  | .replying packet out => .send packet fun _ => .done out false
  | .done _ _ | .overflow => .stop

end TrivialFileTransferServer

/-! ## Files in packets -/

/-- The bytes of data packets. -/
def bytes (packets : List TFTPPacket) : List UInt8 := packets.flatMap (·.data)

@[simp] theorem bytes_nil : bytes [] = [] := rfl
@[simp] theorem bytes_cons (p : TFTPPacket) (ps : List TFTPPacket) : bytes (p :: ps) = p.data ++ bytes ps := rfl
@[simp] theorem bytes_append (ps qs : List TFTPPacket) : bytes (ps ++ qs) = bytes ps ++ bytes qs := List.flatMap_append

/-- The first packets of a file; the one with fewer bytes than it has room for is the last one. -/
inductive Pieces : List UInt8 → List TFTPPacket → Prop
  | nil (file : List UInt8) : Pieces file []
  | full {file packets} (code : UInt8) (hlen : dataSize ≤ file.length) (h : Pieces (file.drop dataSize) packets) :
    Pieces file (⟨TFTP_DAT, code, file.take dataSize⟩ :: packets)
  | last {file} (code : UInt8) (hlen : file.length < dataSize) : Pieces file [⟨TFTP_DAT, code, file⟩]

def Full (p : TFTPPacket) : Prop := p.type = TFTP_DAT ∧ p.data.length = dataSize

variable {file : List UInt8} {ps qs : List TFTPPacket} {p : TFTPPacket}

theorem Pieces.of_cons (h : Pieces file (p :: ps)) :
    (dataSize ≤ file.length ∧ p = ⟨TFTP_DAT, p.code, file.take dataSize⟩ ∧ Pieces (file.drop dataSize) ps) ∨
      file.length < dataSize ∧ p = ⟨TFTP_DAT, p.code, file⟩ ∧ ps = [] := by
  cases h with
  | full code hlen h => exact .inl ⟨hlen, rfl, h⟩
  | last code hlen => exact .inr ⟨hlen, rfl, rfl⟩

theorem Pieces.of_append (h : Pieces file (ps ++ qs)) : Pieces file ps := by
  induction ps generalizing file with
  | nil => exact .nil file
  | cons p ps ih =>
    rcases h.of_cons with ⟨hlen, hp, h⟩ | ⟨hlen, hp, hnil⟩
    · rw [hp]
      exact .full p.code hlen (ih h)
    · rw [hp, (List.append_eq_nil_iff.mp hnil).1]
      exact .last p.code hlen

theorem Pieces.bytes (h : Pieces file ps) : bytes ps <+: file := by
  induction h with
  | nil => simp
  | @full file packets code hlen h ih =>
    rw [bytes_cons]
    conv => rhs; rw [← List.take_append_drop dataSize file]
    exact (List.prefix_append_right_inj _).mpr ih
  | last => simp

/-- What the packet behind some others can be. -/
theorem Pieces.snoc (h : Pieces file (ps ++ [p])) :
    p.type = TFTP_DAT ∧ (p.data.length < dataSize → TFTP.bytes ps ++ p.data = file) := by
  induction ps generalizing file with
  | nil =>
    cases h with
    | full code hlen h =>
      refine ⟨rfl, fun hless => absurd hless ?_⟩
      simp [hlen]
    | last code hlen => exact ⟨rfl, fun _ => rfl⟩
  | cons q ps ih =>
    rcases h.of_cons with ⟨hlen, hq, h⟩ | ⟨-, -, hnil⟩
    · refine ⟨(ih h).1, fun hless => ?_⟩
      rw [bytes_cons, List.append_assoc, (ih h).2 hless, hq]
      exact List.take_append_drop dataSize file
    · simp at hnil

theorem pieces_append {rest : List UInt8} (hfull : ∀ p ∈ ps, Full p) (h : Pieces rest qs) :
    Pieces (bytes ps ++ rest) (ps ++ qs) := by
  induction ps with
  | nil => exact h
  | cons p ps ih =>
    obtain ⟨htype, hlen⟩ := hfull p (List.mem_cons_self ..)
    have hrest := ih fun q hq => hfull q (List.mem_cons_of_mem p hq)
    obtain ⟨type, code, data⟩ := p
    obtain rfl : type = TFTP_DAT := htype
    have htake : data = (data ++ (bytes ps ++ rest)).take dataSize := by rw [← hlen, List.take_left]
    rw [bytes_cons, List.append_assoc, List.cons_append]
    conv => rhs; lhs; rw [htake]
    refine .full code ?_ ?_
    · rw [List.length_append, hlen]
      omega
    · rwa [← hlen, List.drop_left]

/-- A file that is being sent: whole packets have been sent, and the end has not been noticed. -/
structure Sending (content : List UInt8) (sent : List TFTPPacket) (file : InFile) : Prop where
  full : ∀ p ∈ sent, Full p
  content : bytes sent ++ file.rest = content
  feof : file.feof = false

variable {content : List UInt8} {stream : InFile}

theorem Sending.pieces (h : Sending content ps stream) : Pieces content ps := by
  have hpieces := pieces_append h.full (Pieces.nil stream.rest)
  rwa [h.content, List.append_nil] at hpieces

/-- Behind a packet of the file the end has been noticed, and it was the last one, or there is more to send. -/
theorem Sending.fread (h : Sending content ps stream) (code : UInt8) :
    Pieces content (ps ++ [⟨TFTP_DAT, code, stream.fread.1⟩]) ∧ (stream.fread.2.feof = false →
      Sending content (ps ++ [⟨TFTP_DAT, code, stream.fread.1⟩]) stream.fread.2) := by
  by_cases hlen : stream.rest.length < dataSize
  · have htake : stream.fread.1 = stream.rest := List.take_of_length_le (Nat.le_of_lt hlen)
    refine ⟨?_, fun hfeof => ?_⟩
    · rw [htake, ← h.content]
      exact pieces_append h.full (.last code hlen)
    · simp [InFile.fread, hlen] at hfeof
  · have hsending : Sending content (ps ++ [⟨TFTP_DAT, code, stream.fread.1⟩]) stream.fread.2 := by
      refine ⟨fun p hp => ?_, ?_, ?_⟩
      · rcases List.mem_append.mp hp with hp | hp
        · exact h.full p hp
        · rw [List.mem_singleton.mp hp]
          exact ⟨rfl, by simp [InFile.fread]; omega⟩
      · rw [← h.content]
        simp [InFile.fread]
      · simp [InFile.fread, h.feof, hlen]
    exact ⟨hsending.pieces, fun _ => hsending⟩

end TFTP

end SocketApi
