import SocketApi.Tftp.Protocol

/-!
# Downloads

Whatever fails, what `tftpGet` has written is the beginning of the file of the server, and it is the
whole file if it says so. If nothing fails, every order of the steps ends with the whole file.
-/

namespace SocketApi

namespace TFTP

open Duplex Descent Relation

variable {files : Files} {name : Name} {sent received ps : List TFTPPacket} {p : TFTPPacket}

theorem fwrite_prefix (room : Nat) (file data : List UInt8) : (fwrite room file data).1 <+: file ++ data :=
  (List.prefix_append_right_inj file).mpr (List.take_prefix ..)

theorem fwrite_written {room : Nat} {file data : List UInt8} (h : (fwrite room file data).2 = true) :
    (fwrite room file data).1 = file ++ data := by
  simp only [fwrite, decide_eq_true_eq] at h ⊢
  rw [List.take_of_length_le]
  omega

/-! ## The client -/

/-- The first answer is not an error. -/
def Begun (received : List TFTPPacket) : Prop := ∃ p ps, received = p :: ps ∧ p.type ≠ TFTP_ERR

theorem Begun.append (h : Begun received) (ps : List TFTPPacket) : Begun (received ++ ps) := by
  obtain ⟨p, qs, rfl, htype⟩ := h
  exact ⟨p, qs ++ ps, rfl, htype⟩

namespace Get

/-- What the file has to do with the packets that have been received. -/
def Written (received : List TFTPPacket) : Get → Prop
  | .request | .answer => received = []
  | .transfer out => Begun received ∧ out = bytes received
  | .done none messages => .ok ∉ messages
  | .done (some out) messages => Begun received ∧ out <+: bytes received ∧ (.ok ∈ messages →
      ∃ ps p, received = ps ++ [p] ∧ p.data.length < dataSize ∧ out = bytes received)

theorem written_store {out : List UInt8} (hout : out = bytes received) (hbegun : Begun (received ++ [p])) :
    Written (received ++ [p]) (store files out p) := by
  have hprefix : out <+: bytes (received ++ [p]) := by simp [hout]
  unfold store
  split
  · exact ⟨hbegun, hprefix, by simp⟩
  split
  · have hfile := fwrite_prefix files.room out p.data
    have hwritten (h : (fwrite files.room out p.data).2 = true) : (fwrite files.room out p.data).1 = bytes (received ++ [p]) := by
      rw [fwrite_written h, hout]
      simp
    dsimp only
    split
    · refine ⟨hbegun, ?_, by simp⟩
      rw [hout] at hfile ⊢
      simpa using hfile
    · rename_i h
      have hall := hwritten (by simpa using h)
      split
      · rename_i hshort
        exact ⟨hbegun, by simp [hall], fun _ => ⟨received, p, rfl, hshort, hall⟩⟩
      · exact ⟨hbegun, hall⟩
  · split
    · exact ⟨hbegun, hprefix, by simp⟩
    · exact ⟨hbegun, hprefix, by simp⟩

theorem Written.receives {c : Get} {next : Reception TFTPPacket → Get} (h : Written received c)
    (hc : Get.next files name c = .receive next) :
    (∀ p, Written (received ++ [p]) (next (.message p))) ∧ Written received (next .shutdown) ∧
      Written received (next .error) := by
  cases c with
  | request => cases hc
  | answer =>
    cases hc
    obtain rfl : received = [] := h
    refine ⟨fun p => ?_, by simp [Written], by simp [Written]⟩
    dsimp only
    split
    · simp [Written]
    · rename_i htype
      split
      · simp [Written]
      · have hbegun : Begun ([] ++ [p]) := ⟨p, [], rfl, htype⟩
        exact written_store rfl hbegun
  | transfer out =>
    cases hc
    obtain ⟨hbegun, hout⟩ := h
    exact ⟨fun p => written_store hout (hbegun.append _), ⟨hbegun, by simp [hout], by simp⟩, hbegun, by simp [hout], by simp⟩
  | done out messages => cases hc

theorem Written.sends {c : Get} {m : TFTPPacket} {next : Bool → Get} (h : Written received c)
    (hc : Get.next files name c = .send m next) : Written received (next true) ∧ Written received (next false) := by
  cases c with
  | request =>
    cases hc
    exact ⟨h, by simp [Written]⟩
  | answer => cases hc
  | transfer out => cases hc
  | done out messages => cases hc

theorem written_start : Written [] (start name) := by
  unfold start
  split
  · exact rfl
  · simp [Written]

theorem written {c : Get} (h : Behaves (Get.next files name) (start name) sent received c) : Written received c := by
  have hinvariant : Invariant (Get.next files name) fun _ received c => Written received c :=
    ⟨Written.sends, Written.receives⟩
  exact hinvariant.behaves written_start h

theorem next_ne_request {c : Get} {next : Reception TFTPPacket → Get} {r : Reception TFTPPacket}
    (hc : Get.next files name c = .receive next) : next r ≠ .request := by
  have hstore (out : List UInt8) (p : TFTPPacket) : store files out p ≠ .request := by
    unfold store
    dsimp only
    split_ifs <;> simp
  cases c with
  | request | done => cases hc
  | answer =>
    cases hc
    cases r with
    | message p =>
      dsimp only
      split_ifs
      · simp
      · simp
      · exact hstore [] p
    | shutdown => simp
    | error => simp
  | transfer out =>
    cases hc
    cases r with
    | message p => exact hstore out p
    | shutdown => simp
    | error => simp

/-- The request is all that the client sends. -/
theorem requests : Invariant (Get.next files name) fun sent _ c =>
    (c = .request → sent = []) ∧ sent <+: [⟨TFTP_RRQ, 0, name⟩] where
  sends {sent received c m next} h hc := by
    obtain ⟨hsent, hprefix⟩ := h
    cases c with
    | request =>
      cases hc
      rw [hsent rfl]
      exact ⟨⟨fun h => by simp at h, by simp⟩, fun h => by simp at h, by simp⟩
    | answer | transfer | done => cases hc
  receives h hc :=
    ⟨fun _ => ⟨fun hr => absurd hr (next_ne_request hc), h.2⟩, ⟨fun hr => absurd hr (next_ne_request hc), h.2⟩,
      fun hr => absurd hr (next_ne_request hc), h.2⟩

def out : Get → Option (List UInt8)
  | .request | .answer => none
  | .transfer out => some out
  | .done out _ => out

def messages : Get → List Message
  | .done _ messages => messages
  | _ => []

end Get

/-! ## The server -/

namespace TrivialFileTransferServer

/-- What has been sent for a read request. -/
def Answered (files : Files) (name : Name) (sent : List TFTPPacket) : Prop :=
  (∃ content, files.read name = some content ∧ Pieces content sent) ∨ ∀ p ∈ sent, p.type = TFTP_ERR

def Serves (files : Files) (name : Name) (sent : List TFTPPacket) : TrivialFileTransferServer → Prop
  | .start => sent = []
  | .reading file _ => ∃ content, files.read name = some content ∧ Sending content sent file
  | .replying packet _ => sent = [] ∧ packet.type = TFTP_ERR
  | .acknowledging | .writing _ => False
  | .done _ _ | .overflow => Answered files name sent

theorem answered_nil : Answered files name [] := .inr (by simp)

theorem serves_readRequest : Serves files name [] (readRequest files name) := by
  unfold readRequest
  cases getName name with
  | accepted =>
    cases hread : files.read name with
    | some content => exact ⟨content, hread, by simp, by simp, rfl⟩
    | none => exact ⟨rfl, rfl⟩
  | refused => exact ⟨rfl, rfl⟩
  | overflow => exact answered_nil

theorem Serves.answered {v : TrivialFileTransferServer} (h : Serves files name sent v) : Answered files name sent := by
  cases v with
  | start =>
    obtain rfl : sent = [] := h
    exact answered_nil
  | reading file code =>
    obtain ⟨content, hread, hsending⟩ := h
    exact .inl ⟨content, hread, hsending.pieces⟩
  | replying packet out =>
    obtain ⟨rfl, -⟩ := h
    exact answered_nil
  | acknowledging => exact h.elim
  | writing out => exact h.elim
  | done out failed => exact h
  | overflow => exact h

theorem Serves.sends {v : TrivialFileTransferServer} {m : TFTPPacket} {next : Bool → TrivialFileTransferServer}
    (h : Serves files name sent v) (hv : TrivialFileTransferServer.next files v = .send m next) :
    Serves files name (sent ++ [m]) (next true) ∧ Serves files name sent (next false) := by
  cases v with
  | reading file code =>
    cases hv
    refine ⟨?_, h.answered⟩
    obtain ⟨content, hread, hsending⟩ := h
    obtain ⟨hpieces, hmore⟩ := hsending.fread code
    dsimp only
    rw [if_neg (by simp)]
    split
    · exact .inl ⟨content, hread, hpieces⟩
    · rename_i hfeof
      exact ⟨content, hread, hmore (eq_false_of_ne_true hfeof)⟩
  | replying packet out =>
    cases hv
    refine ⟨?_, h.answered⟩
    obtain ⟨rfl, htype⟩ := h
    exact .inr (by simpa using htype)
  | acknowledging => exact h.elim
  | start | writing | done | overflow => cases hv

theorem Serves.receives {v : TrivialFileTransferServer} {next : Reception TFTPPacket → TrivialFileTransferServer}
    (h : Serves files name sent v) (hv : TrivialFileTransferServer.next files v = .receive next) :
    Serves files name sent (next (.message ⟨TFTP_RRQ, 0, name⟩)) ∧ Serves files name sent (next .shutdown) ∧
      Serves files name sent (next .error) := by
  cases v with
  | start =>
    cases hv
    obtain rfl : sent = [] := h
    refine ⟨?_, answered_nil, answered_nil⟩
    dsimp only
    split
    · exact answered_nil
    · exact serves_readRequest
  | writing out => exact h.elim
  | reading | replying | acknowledging | done | overflow => cases hv

theorem of_append_prefix {q : TFTPPacket} (h : ps ++ [p] <+: [q]) : ps = [] ∧ p = q := by
  have hlen := h.length_le
  cases ps with
  | nil => simpa using h
  | cons r rs => simp at hlen

theorem serves : Invariant (TrivialFileTransferServer.next files) fun sent received v =>
    received <+: [⟨TFTP_RRQ, 0, name⟩] → Serves files name sent v where
  sends h hv := ⟨fun hreceived => ((h hreceived).sends hv).1, fun hreceived => ((h hreceived).sends hv).2⟩
  receives h hv := by
    refine ⟨fun p hreceived => ?_, fun hreceived => ((h hreceived).receives hv).2.1,
      fun hreceived => ((h hreceived).receives hv).2.2⟩
    obtain ⟨rfl, rfl⟩ := of_append_prefix hreceived
    exact ((h List.nil_prefix).receives hv).1

theorem serves_start : Serves files name [] .start := rfl

end TrivialFileTransferServer

/-! ## Both -/

/-- The two programs, before the request. -/
abbrev download (name : Name) : State Get TrivialFileTransferServer TFTPPacket := ⟨Get.start name, .start, [], []⟩

/-- One small file, everywhere. -/
def oneFile : Files where
  read _ := some [1, 2, 3]
  create _ := true
  room := 10

theorem run_download : ∃ s, ReflTransGen (FragileStep (Get.next oneFile [0x61]) (TrivialFileTransferServer.next oneFile))
    (download [0x61]) s ∧ s.left = .done (some [1, 2, 3]) [.ok] := by
  refine ⟨_, .head (.step (.left (.send rfl))) <| .head (.step (.right (.receive rfl))) <|
    .head (.step (.right (.send rfl))) <| .head (.step (.left (.receive rfl))) .refl, ?_⟩
  decide +kernel

variable {clientFiles serverFiles : Files} {out rest content : List UInt8}

theorem fwrite_all {room : Nat} {data : List UInt8} (h : out.length + data.length ≤ room) :
    fwrite room out data = (out ++ data, decide (data ≠ [])) := by
  have htake : data.take (room - out.length) = data := List.take_of_length_le (by omega)
  simp [fwrite, htake, h]

/-- The last packet is empty if the length is divisible. -/
theorem eq_nil_of_last (hlast : rest.length < dataSize) : rest = [] ↔ dataSize ∣ rest.length := by
  constructor
  · intro h
    simp [h]
  · intro h
    exact List.length_eq_zero_iff.mp (Nat.eq_zero_of_dvd_of_lt h hlast)

theorem store_last {code : UInt8} (hcontent : out ++ rest = content) (hroom : content.length ≤ files.room)
    (hlast : rest.length < dataSize) :
    Get.store files out ⟨TFTP_DAT, code, rest⟩ = .done (some content) (if dataSize ∣ rest.length then [] else [.ok]) := by
  subst hcontent
  have hwritten := fwrite_all (List.length_append ▸ hroom)
  simp only [← eq_nil_of_last hlast]
  by_cases hrest : rest = []
  · simp [Get.store, hrest]
  · simp [Get.store, hrest, hwritten, hlast]

theorem take_ne_nil (hfull : dataSize ≤ rest.length) : rest.take dataSize ≠ [] := by
  apply List.ne_nil_of_length_pos
  rw [List.length_take_of_le hfull]
  decide

theorem length_drop_lt (hfull : dataSize ≤ rest.length) : (rest.drop dataSize).length < rest.length := by
  rw [List.length_drop]
  exact Nat.sub_lt (Nat.lt_of_lt_of_le (by decide) hfull) (by decide)

theorem dvd_drop (hfull : dataSize ≤ rest.length) : dataSize ∣ (rest.drop dataSize).length ↔ dataSize ∣ rest.length := by
  rw [List.length_drop]
  exact Nat.dvd_sub_iff_left hfull (Nat.dvd_refl dataSize)

theorem div_eq_drop (hfull : dataSize ≤ rest.length) :
    rest.length / dataSize = (rest.drop dataSize).length / dataSize + 1 := by
  rw [List.length_drop]
  exact Nat.div_eq_sub_div (by decide) hfull

theorem store_full {code : UInt8} (hcontent : out ++ rest = content) (hroom : content.length ≤ files.room)
    (hfull : dataSize ≤ rest.length) :
    Get.store files out ⟨TFTP_DAT, code, rest.take dataSize⟩ = .transfer (out ++ rest.take dataSize) := by
  subst hcontent
  rw [List.length_append] at hroom
  have hlen : (rest.take dataSize).length = dataSize := List.length_take_of_le hfull
  have hle : out.length + (rest.take dataSize).length ≤ files.room := by omega
  have hwritten := fwrite_all hle
  simp [Get.store, take_ne_nil hfull, hwritten, hlen]

/-- The server sends a packet and the client takes it, as long as there are more. -/
theorem steps_transfer (serverFiles : Files) (hroom : content.length ≤ clientFiles.room) {c : Get} {next : Reception TFTPPacket → Get}
    (hc : Get.next clientFiles name c = .receive next)
    (hstore : ∀ p : TFTPPacket, p.type = TFTP_DAT → next (.message p) = Get.store clientFiles out p)
    (hcontent : out ++ rest = content) (code : UInt8) :
    Steps (Step (Get.next clientFiles name) (TrivialFileTransferServer.next serverFiles)) (2 * (rest.length / dataSize + 1))
      ⟨c, .reading { rest } code, [], []⟩
      ⟨.done (some content) (if dataSize ∣ rest.length then [] else [.ok]), .done none false, [], []⟩ := by
  induction hlen : rest.length using Nat.strongRecOn generalizing c next out rest code with
  | ind n ih =>
    subst hlen
    have hsend {data : List UInt8} {file : InFile} {d : TrivialFileTransferServer} (hfread : InFile.fread { rest } = (data, file))
        (hd : (if file.feof then .done none false else .reading file (code + 1)) = d) :
        Steps (Step (Get.next clientFiles name) (TrivialFileTransferServer.next serverFiles)) 2
          ⟨c, .reading { rest } code, [], []⟩ ⟨Get.store clientFiles out ⟨TFTP_DAT, code, data⟩, d, [], []⟩ := by
      rw [← hstore _ rfl, ← hd]
      have hserver : TrivialFileTransferServer.next serverFiles (.reading { rest } code) = .send ⟨TFTP_DAT, code, data⟩ fun sent =>
          if !sent then .done none true else if file.feof then .done none false else .reading file (code + 1) := by
        simp [TrivialFileTransferServer.next, hfread]
      exact .head (.right (.send hserver)) (.head (.left (.receive hc)) (.refl _))
    by_cases hlast : rest.length < dataSize
    · have hfread : InFile.fread { rest } = (rest, ⟨rest.drop dataSize, true⟩) := by
        simp [InFile.fread, hlast, List.take_of_length_le (Nat.le_of_lt hlast)]
      have hsteps := hsend hfread rfl
      rw [store_last hcontent hroom hlast] at hsteps
      rwa [Nat.div_eq_of_lt hlast]
    · rw [Nat.not_lt] at hlast
      have hfread : InFile.fread { rest } = (rest.take dataSize, { rest := rest.drop dataSize }) := by
        simp [InFile.fread, hlast]
      have hsteps := hsend hfread rfl
      rw [store_full hcontent hroom hlast] at hsteps
      have hrest := ih _ (length_drop_lt hlast) (c := .transfer (out ++ rest.take dataSize)) rfl (fun _ _ => rfl)
        (by rw [List.append_assoc, List.take_append_drop, hcontent]) (code + 1) rfl
      simp only [dvd_drop hlast] at hrest
      rw [div_eq_drop hlast, Nat.mul_succ, Nat.add_comm]
      exact hsteps.trans hrest

theorem getName_length {data : List UInt8} {i : Nat} (h : getNameFrom i data = .accepted) : i + data.length < fileNameSize := by
  induction data generalizing i with
  | nil =>
    unfold getNameFrom at h
    split at h
    · assumption
    · cases h
  | cons c rest ih =>
    unfold getNameFrom at h
    split at h
    · split at h
      · have hrest := ih h
        rw [List.length_cons]
        omega
      · cases h
    · cases h

theorem getName_accepted (h : getName name = .accepted) : name ≠ [] ∧ name.length < fileNameSize := by
  unfold getName at h
  split at h
  · cases h
  · have hlen := getName_length h
    exact ⟨‹_›, by omega⟩

/-- A download without failures: whatever the order of the steps, there are never more than so many, and when there
are no more, the client has the file and the server is done. Where the last packet has no data the client says
nothing. -/
theorem download_complete (hname : getName name = .accepted) (hread : serverFiles.read name = some content)
    (hcreate : clientFiles.create name = true) (hroom : content.length ≤ clientFiles.room) {n : Nat}
    {s : State Get TrivialFileTransferServer TFTPPacket}
    (hrun : Steps (Step (Get.next clientFiles name) (TrivialFileTransferServer.next serverFiles)) n (download name) s) :
    ∃ k, 2 * (content.length / dataSize) + 4 = n + k ∧
      Steps (Step (Get.next clientFiles name) (TrivialFileTransferServer.next serverFiles)) k s
        ⟨.done (some content) (if dataSize ∣ content.length then [] else [.ok]), .done none false, [], []⟩ := by
  refine Steps.descent diamond (final_of_stop rfl rfl) ?_ hrun
  obtain ⟨hne, hlen⟩ := getName_accepted hname
  have hstart : Get.start name = .request := if_pos (Nat.le_trans (Nat.le_of_lt hlen) (by decide))
  have hrequest : TrivialFileTransferServer.readRequest serverFiles name = .reading { rest := content } 0 := by
    simp [TrivialFileTransferServer.readRequest, hname, hread]
  obtain ⟨next, hnext, hmessage⟩ : ∃ next, TrivialFileTransferServer.next serverFiles .start = .receive next ∧
      next (.message ⟨TFTP_RRQ, 0, name⟩) = .reading { rest := content } 0 :=
    ⟨_, rfl, by simp [hne, hrequest]⟩
  obtain ⟨answered, hanswer, hstore⟩ : ∃ answered, Get.next clientFiles name .answer = .receive answered ∧
      ∀ p : TFTPPacket, p.type = TFTP_DAT → answered (.message p) = Get.store clientFiles [] p := by
    refine ⟨_, rfl, fun p hp => ?_⟩
    have hne : p.type ≠ TFTP_ERR := by
      rw [hp]
      decide
    simp [hne, hcreate]
  have hsteps := steps_transfer serverFiles hroom hanswer hstore (List.nil_append content) 0
  rw [← hmessage] at hsteps
  unfold download
  rw [hstart]
  exact .head (.left (.send rfl)) (.head (.right (.receive hnext)) hsteps)

theorem download_complete_small : Steps (Step (Get.next oneFile [0x61]) (TrivialFileTransferServer.next oneFile)) 4
    (download [0x61]) ⟨.done (some [1, 2, 3]) [.ok], .done none false, [], []⟩ := by
  have hname : getName [0x61] = .accepted := by decide
  have hread : oneFile.read [0x61] = some [1, 2, 3] := rfl
  have hcreate : oneFile.create [0x61] = true := rfl
  have hroom : ([1, 2, 3] : List UInt8).length ≤ oneFile.room := by decide
  obtain ⟨k, hk, hsteps⟩ := download_complete hname hread hcreate hroom (.refl _)
  obtain rfl : 4 = k := by simpa [dataSize] using hk
  exact hsteps

end TFTP

end SocketApi
