import SocketApi.Tftp.Download

/-!
# Uploads

Whatever fails, the file that the server writes is the beginning of the one of the client, and it is the
whole file if `tftpPut` says so. If nothing fails, every order of the steps ends with the whole file, but the
server takes an empty last packet for an error.
-/

namespace SocketApi

namespace TFTP

open Duplex Descent Relation

variable {files : Files} {name : Name} {sent received ps : List TFTPPacket} {p : TFTPPacket}

/-! ## The client -/

namespace Put

def request' (name : Name) : TFTPPacket := ⟨TFTP_WRQ, 0, remoteName name⟩

/-- The request and the first packets of the file. -/
def Requested (files : Files) (name : Name) (sent : List TFTPPacket) : Prop :=
  sent = [] ∨ ∃ content ps, files.read name = some content ∧ sent = request' name :: ps ∧ Pieces content ps

/-- What the client has sent for the packets that it has received. -/
def Uploads (files : Files) (name : Name) (sent received : List TFTPPacket) : Put → Prop
  | .request file => sent = [] ∧ received = [] ∧ ∃ content, files.read name = some content ∧ file = { rest := content }
  | .answer file =>
    sent = [request' name] ∧ received = [] ∧ ∃ content, files.read name = some content ∧ file = { rest := content }
  | .sending file _ => received.length = 1 ∧
    ∃ content ps, files.read name = some content ∧ sent = request' name :: ps ∧ Sending content ps file
  | .confirmation => received.length = 1 ∧ Requested files name sent
  | .done messages => Requested files name sent ∧ (.ok ∈ messages → ∃ p q, received = [p, q] ∧ q.type = TFTP_ACK)

theorem Uploads.requested {c : Put} (h : Uploads files name sent received c) : Requested files name sent := by
  cases c with
  | request file => exact .inl h.1
  | answer file =>
    obtain ⟨rfl, -, content, hread, -⟩ := h
    exact .inr ⟨content, [], hread, rfl, .nil content⟩
  | sending file code =>
    obtain ⟨-, content, ps, hread, rfl, hsending⟩ := h
    exact .inr ⟨content, ps, hread, rfl, hsending.pieces⟩
  | confirmation => exact h.2
  | done messages => exact h.1

theorem uploads_start : Uploads files name [] [] (start files name) := by
  unfold start
  split
  · cases hread : files.read name with
    | some content => exact ⟨rfl, rfl, content, hread, rfl⟩
    | none => exact ⟨.inl rfl, by simp⟩
  · exact ⟨.inl rfl, by simp⟩

theorem Uploads.sends {c : Put} {m : TFTPPacket} {next : Bool → Put} (h : Uploads files name sent received c)
    (hc : Put.next name c = .send m next) :
    Uploads files name (sent ++ [m]) received (next true) ∧ Uploads files name sent received (next false) := by
  have hrequested := h.requested
  cases c with
  | request file =>
    cases hc
    obtain ⟨rfl, hreceived, hfile⟩ := h
    exact ⟨⟨rfl, hreceived, hfile⟩, .inl rfl, by simp⟩
  | sending file code =>
    cases hc
    obtain ⟨hreceived, content, ps, hread, rfl, hsending⟩ := h
    obtain ⟨hpieces, hmore⟩ := hsending.fread code
    refine ⟨?_, hreceived, hrequested⟩
    dsimp only
    rw [if_neg (by simp)]
    split
    · exact ⟨hreceived, .inr ⟨content, _, hread, rfl, hpieces⟩⟩
    · rename_i hfeof
      exact ⟨hreceived, content, _, hread, rfl, hmore (eq_false_of_ne_true hfeof)⟩
  | answer | confirmation | done => cases hc

theorem Uploads.receives {c : Put} {next : Reception TFTPPacket → Put} (h : Uploads files name sent received c)
    (hc : Put.next name c = .receive next) :
    (∀ p, Uploads files name sent (received ++ [p]) (next (.message p))) ∧ Uploads files name sent received (next .shutdown) ∧
      Uploads files name sent received (next .error) := by
  have hrequested := h.requested
  cases c with
  | answer file =>
    cases hc
    obtain ⟨rfl, rfl, content, hread, rfl⟩ := h
    refine ⟨fun p => ?_, ⟨hrequested, by simp⟩, hrequested, by simp⟩
    dsimp only
    split
    · exact ⟨hrequested, by simp⟩
    split
    · exact ⟨rfl, content, [], hread, rfl, by simp, by simp, rfl⟩
    · exact ⟨hrequested, by simp⟩
  | confirmation =>
    cases hc
    obtain ⟨hreceived, -⟩ := h
    obtain ⟨q, rfl⟩ := List.length_eq_one_iff.mp hreceived
    refine ⟨fun p => ?_, ⟨hrequested, by simp⟩, hrequested, by simp⟩
    dsimp only
    split
    · exact ⟨hrequested, by simp⟩
    split
    · exact ⟨hrequested, fun _ => ⟨q, p, rfl, ‹_›⟩⟩
    · exact ⟨hrequested, by simp⟩
  | request | sending | done => cases hc

theorem uploads {c : Put} (h : Behaves (Put.next name) (start files name) sent received c) :
    Uploads files name sent received c :=
  Invariant.behaves ⟨Uploads.sends, Uploads.receives⟩ uploads_start h

def messages : Put → List Message
  | .done messages => messages
  | _ => []

end Put

/-! ## The server -/

namespace TrivialFileTransferServer

/-- The file that the server has written, for the packets behind the request. -/
def Stored (received : List TFTPPacket) (out : List UInt8) : Prop := ∃ p ps, received = p :: ps ∧ out <+: bytes ps

def Complete (received : List TFTPPacket) (out : List UInt8) : Prop :=
  ∃ p ps q, received = p :: (ps ++ [q]) ∧ q.data.length < dataSize ∧ out = bytes (ps ++ [q])

/-- What the server has sent and written for the packets that it has received, the first of which is a write
request. -/
def Stores (sent received : List TFTPPacket) : TrivialFileTransferServer → Prop
  | .start => sent = [] ∧ received = []
  | .reading _ _ => False
  | .acknowledging => sent = [] ∧ ∃ p, received = [p]
  | .writing out => sent.length = 1 ∧ ∃ p ps, received = p :: ps ∧ out = bytes ps
  | .replying packet (some out) => sent.length = 1 ∧ Stored received out ∧ (packet.type = TFTP_ACK → Complete received out)
  | .replying _ none => sent = []
  | .done (some out) _ => Stored received out ∧ sent.length ≤ 2 ∧
      ∀ p q, sent = [p, q] → q.type = TFTP_ACK → Complete received out
  | .done none _ | .overflow => sent.length ≤ 1

def out : TrivialFileTransferServer → Option (List UInt8)
  | .acknowledging => some []
  | .writing out => some out
  | .replying _ out | .done out _ => out
  | _ => none

theorem stores_store {out : List UInt8} (hsent : sent.length = 1) {q : TFTPPacket} (hreceived : received = q :: ps)
    (hout : out = bytes ps) : Stores sent (received ++ [p]) (store files out p) := by
  have hbytes : out ++ p.data = bytes (ps ++ [p]) := by simp [hout]
  have hprefix : out <+: bytes (ps ++ [p]) := by simp [hout]
  have happend : received ++ [p] = q :: (ps ++ [p]) := by rw [hreceived, List.cons_append]
  unfold store
  split
  · exact ⟨hsent, ⟨q, _, happend, hprefix⟩, fun h => absurd h (by decide)⟩
  have hfile := fwrite_prefix files.room out p.data
  rw [hbytes] at hfile
  dsimp only
  split
  · exact ⟨hsent, ⟨q, _, happend, hfile⟩, fun h => absurd h (by decide)⟩
  · rename_i h
    have hall := fwrite_written (by simpa using h : (fwrite files.room out p.data).2 = true)
    rw [hbytes] at hall
    split
    · exact ⟨hsent, ⟨q, _, happend, hfile⟩, fun _ => ⟨q, ps, p, happend, ‹_›, hall⟩⟩
    · exact ⟨hsent, q, _, happend, hall⟩

theorem stores_start : Stores [] [] .start := ⟨rfl, rfl⟩

theorem stores_writeRequest : Stores [] [p] (writeRequest files name) := by
  unfold writeRequest
  cases getName name with
  | accepted =>
    dsimp only
    split
    · exact ⟨rfl, p, rfl⟩
    · exact rfl
  | refused => exact rfl
  | overflow => exact Nat.zero_le _

/-- The thread ends before its last reply. -/
theorem stores_stopped {out : List UInt8} {failed : Bool} (hsent : sent.length = 1) (hstored : Stored received out) :
    Stores sent received (.done (some out) failed) := by
  refine ⟨hstored, by omega, fun p q hpair => ?_⟩
  rw [hpair] at hsent
  simp at hsent

theorem stores : Invariant (TrivialFileTransferServer.next files) fun sent received v =>
    (∀ p ps, received = p :: ps → p.type = TFTP_WRQ) → Stores sent received v where
  sends {sent received v m next} h hv := by
    cases v with
    | acknowledging =>
      cases hv
      refine ⟨fun hfirst => ?_, fun hfirst => ?_⟩
      · obtain ⟨rfl, p, rfl⟩ := h hfirst
        exact ⟨rfl, p, [], rfl, rfl⟩
      · obtain ⟨rfl, p, rfl⟩ := h hfirst
        exact ⟨⟨p, [], rfl, by simp⟩, by simp, by simp⟩
    | replying packet out =>
      cases hv
      cases out with
      | none =>
        refine ⟨fun hfirst => ?_, fun hfirst => ?_⟩
        · obtain rfl : sent = [] := h hfirst
          exact Nat.le_refl 1
        · obtain rfl : sent = [] := h hfirst
          exact Nat.zero_le 1
      | some out =>
        refine ⟨fun hfirst => ?_, fun hfirst => ?_⟩
        · obtain ⟨hsent, hstored, hack⟩ := h hfirst
          obtain ⟨q, rfl⟩ := List.length_eq_one_iff.mp hsent
          refine ⟨hstored, by simp, fun p q hsent htype => hack ?_⟩
          simp at hsent
          rw [hsent.2, htype]
        · obtain ⟨hsent, hstored, -⟩ := h hfirst
          exact stores_stopped hsent hstored
    | reading file code => exact ⟨fun hfirst => (h hfirst).elim, fun hfirst => (h hfirst).elim⟩
    | start | writing | done | overflow => cases hv
  receives {sent received v next} h hv := by
    have hbefore {p : TFTPPacket} (hfirst : ∀ q qs, received ++ [p] = q :: qs → q.type = TFTP_WRQ) :
        ∀ q qs, received = q :: qs → q.type = TFTP_WRQ := fun q qs hq => hfirst q _ (by rw [hq, List.cons_append])
    cases v with
    | start =>
      cases hv
      refine ⟨fun p hfirst => ?_, fun hfirst => ?_, fun hfirst => ?_⟩
      · obtain ⟨rfl, rfl⟩ := h (hbefore hfirst)
        have htype := hfirst p [] rfl
        dsimp only
        split
        · exact Nat.zero_le 1
        · rw [htype, if_neg (by decide)]
          exact stores_writeRequest
      · obtain ⟨rfl, rfl⟩ := h hfirst
        exact Nat.zero_le 1
      · obtain ⟨rfl, rfl⟩ := h hfirst
        exact Nat.zero_le 1
    | writing out =>
      cases hv
      refine ⟨fun p hfirst => ?_, fun hfirst => ?_, fun hfirst => ?_⟩
      · obtain ⟨hsent, q, ps, hreceived, hout⟩ := h (hbefore hfirst)
        exact stores_store hsent hreceived hout
      · obtain ⟨hsent, q, ps, hreceived, rfl⟩ := h hfirst
        exact stores_stopped hsent ⟨q, ps, hreceived, List.prefix_rfl⟩
      · obtain ⟨hsent, q, ps, hreceived, rfl⟩ := h hfirst
        exact stores_stopped hsent ⟨q, ps, hreceived, List.prefix_rfl⟩
    | reading | acknowledging | replying | done | overflow => cases hv

theorem Stores.stored {v : TrivialFileTransferServer} {out : List UInt8} (h : Stores sent received v)
    (hout : v.out = some out) : Stored received out := by
  cases v with
  | acknowledging =>
    obtain ⟨-, p, rfl⟩ := h
    obtain rfl := Option.some.inj hout
    exact ⟨p, [], rfl, by simp⟩
  | writing out' =>
    obtain ⟨-, p, ps, hreceived, rfl⟩ := h
    obtain rfl := Option.some.inj hout
    exact ⟨p, ps, hreceived, List.prefix_rfl⟩
  | replying packet out' =>
    obtain rfl : out' = some out := hout
    exact h.2.1
  | done out' failed =>
    obtain rfl : out' = some out := hout
    exact h.1
  | start | reading | overflow => simp [TrivialFileTransferServer.out] at hout

/-- A second packet of the server that acknowledges tells that the file is complete. -/
theorem Stores.complete {v : TrivialFileTransferServer} {q : TFTPPacket} (h : Stores sent received v)
    (hsent : sent = p :: q :: ps) (hack : q.type = TFTP_ACK) : ∃ out, v.out = some out ∧ Complete received out := by
  subst hsent
  cases v with
  | start => simp [Stores] at h
  | reading => exact h.elim
  | acknowledging => simp [Stores] at h
  | writing => simp [Stores] at h
  | replying packet out => cases out <;> simp [Stores] at h
  | done out failed =>
    cases out with
    | none => simp [Stores] at h
    | some out =>
      obtain ⟨-, hlen, hcomplete⟩ := h
      obtain rfl : ps = [] := List.length_eq_zero_iff.mp (by simpa using hlen)
      exact ⟨out, rfl, hcomplete p q rfl hack⟩
  | overflow => simp [Stores] at h

end TrivialFileTransferServer

/-! ## Both -/

/-- The two programs, before the request. -/
abbrev upload (files : Files) (name : Name) : State Put TrivialFileTransferServer TFTPPacket :=
  ⟨Put.start files name, .start, [], []⟩

theorem run_upload : ∃ s, ReflTransGen (FragileStep (Put.next [0x61]) (TrivialFileTransferServer.next oneFile))
    (upload oneFile [0x61]) s ∧ s.left.messages = [.ok] ∧ s.right.out = some [1, 2, 3] := by
  refine ⟨_, .head (.step (.left (.send rfl))) <| .head (.step (.right (.receive rfl))) <|
    .head (.step (.right (.send rfl))) <| .head (.step (.left (.receive rfl))) <|
    .head (.step (.left (.send rfl))) <| .head (.step (.right (.receive rfl))) <|
    .head (.step (.right (.send rfl))) <| .head (.step (.left (.receive rfl))) .refl, ?_, ?_⟩
  · decide +kernel
  · decide +kernel

variable {clientFiles serverFiles : Files} {out rest content : List UInt8}

namespace TrivialFileTransferServer

/-- What the server replies to the last packet, which it cannot write if it has no data. -/
def lastReply (rest : List UInt8) (code : UInt8) : TFTPPacket :=
  if dataSize ∣ rest.length then errorPacket 4 "Write error!" else ⟨TFTP_ACK, code, []⟩

theorem store_last (code : UInt8) (hcontent : out ++ rest = content) (hroom : content.length ≤ files.room)
    (hlast : rest.length < dataSize) :
    store files out ⟨TFTP_DAT, code, rest⟩ = .replying (lastReply rest code) (some content) := by
  subst hcontent
  have hwritten := fwrite_all (List.length_append ▸ hroom)
  simp only [lastReply, ← eq_nil_of_last hlast]
  by_cases hrest : rest = []
  · subst hrest
    simp [store, hwritten]
  · simp [store, hrest, hwritten, hlast]

theorem store_full (code : UInt8) (hcontent : out ++ rest = content) (hroom : content.length ≤ files.room)
    (hfull : dataSize ≤ rest.length) :
    store files out ⟨TFTP_DAT, code, rest.take dataSize⟩ = .writing (out ++ rest.take dataSize) := by
  subst hcontent
  rw [List.length_append] at hroom
  have hlen : (rest.take dataSize).length = dataSize := List.length_take_of_le hfull
  have hle : out.length + (rest.take dataSize).length ≤ files.room := by omega
  have hwritten := fwrite_all hle
  simp [store, take_ne_nil hfull, hwritten, hlen]

end TrivialFileTransferServer

theorem step_store (c : Put) (p : TFTPPacket) :
    Step (Put.next name) (TrivialFileTransferServer.next serverFiles) ⟨c, .writing out, [], [p]⟩
      ⟨c, TrivialFileTransferServer.store serverFiles out p, [], []⟩ := by
  obtain ⟨next, hnext, hstore⟩ : ∃ next, TrivialFileTransferServer.next serverFiles (.writing out) = .receive next ∧
      next (.message p) = TrivialFileTransferServer.store serverFiles out p := ⟨_, rfl, rfl⟩
  rw [← hstore]
  exact .right (.receive hnext)

/-- The last packet is answered, whatever the server makes of it. -/
theorem steps_confirmation (hlast : rest.length < dataSize) (hroom : content.length ≤ serverFiles.room)
    (hcontent : out ++ rest = content) (code : UInt8) :
    Steps (Step (Put.next name) (TrivialFileTransferServer.next serverFiles)) 3
      ⟨.confirmation, .writing out, [], [⟨TFTP_DAT, code, rest⟩]⟩
      ⟨.done (if dataSize ∣ rest.length then [.tftpError 4 (ascii "Write error!")] else [.ok]), .done (some content) false,
        [], []⟩ := by
  have hstore := TrivialFileTransferServer.store_last code hcontent hroom hlast
  have hreply : ∀ next, Put.next name .confirmation = .receive next →
      next (.message (TrivialFileTransferServer.lastReply rest code)) =
        .done (if dataSize ∣ rest.length then [.tftpError 4 (ascii "Write error!")] else [.ok]) := by
    intro next hnext
    cases hnext
    unfold TrivialFileTransferServer.lastReply
    split
    · rfl
    · rfl
  rw [← hreply _ rfl]
  refine .head (step_store _ _) ?_
  rw [hstore]
  exact .head (.right (.send rfl)) (.head (.left (.receive rfl)) (.refl _))

/-- The client sends a packet and the server takes it, as long as there are more. -/
theorem steps_upload (name : Name) (hroom : content.length ≤ serverFiles.room) (hcontent : out ++ rest = content) (code : UInt8) :
    Steps (Step (Put.next name) (TrivialFileTransferServer.next serverFiles)) (2 * (rest.length / dataSize) + 4)
      ⟨.sending { rest } code, .writing out, [], []⟩
      ⟨.done (if dataSize ∣ rest.length then [.tftpError 4 (ascii "Write error!")] else [.ok]), .done (some content) false,
        [], []⟩ := by
  induction hlen : rest.length using Nat.strongRecOn generalizing out rest code with
  | ind n ih =>
    subst hlen
    have hsend {data : List UInt8} {file : InFile} (hfread : InFile.fread { rest } = (data, file)) :
        Step (Put.next name) (TrivialFileTransferServer.next serverFiles) ⟨.sending { rest } code, .writing out, [], []⟩
          ⟨if file.feof then .confirmation else .sending file (code + 1), .writing out, [], [⟨TFTP_DAT, code, data⟩]⟩ := by
      have hclient : Put.next name (.sending { rest } code) = .send ⟨TFTP_DAT, code, data⟩ fun sent =>
          if !sent then .confirmation else if file.feof then .confirmation else .sending file (code + 1) := by
        simp [Put.next, hfread]
      exact .left (.send hclient)
    by_cases hlast : rest.length < dataSize
    · have hfread : InFile.fread { rest } = (rest, ⟨rest.drop dataSize, true⟩) := by
        simp [InFile.fread, hlast, List.take_of_length_le (Nat.le_of_lt hlast)]
      rw [Nat.div_eq_of_lt hlast]
      exact .head (hsend hfread) (steps_confirmation hlast hroom hcontent code)
    · rw [Nat.not_lt] at hlast
      have hfread : InFile.fread { rest } = (rest.take dataSize, { rest := rest.drop dataSize }) := by
        simp [InFile.fread, hlast]
      have hreceive : Step (Put.next name) (TrivialFileTransferServer.next serverFiles)
          ⟨.sending { rest := rest.drop dataSize } (code + 1), .writing out, [], [⟨TFTP_DAT, code, rest.take dataSize⟩]⟩
          ⟨.sending { rest := rest.drop dataSize } (code + 1), .writing (out ++ rest.take dataSize), [], []⟩ := by
        rw [← TrivialFileTransferServer.store_full code hcontent hroom hlast]
        exact step_store _ _
      have hrest := ih _ (length_drop_lt hlast) (by rw [List.append_assoc, List.take_append_drop, hcontent]) (code + 1) rfl
      simp only [dvd_drop hlast] at hrest
      rw [div_eq_drop hlast, Nat.mul_succ]
      have hsteps := Steps.head (hsend hfread) (.head hreceive hrest)
      exact hsteps

/-- An upload without failures: whatever the order of the steps, there are never more than so many, and when there
are no more, the server has the file. The client is told so, but where the last packet has no data it is told
of an error. -/
theorem upload_complete (hlength : name.length < dataSize) (hname : getName (Put.remoteName name) = .accepted)
    (hread : clientFiles.read name = some content) (hcreate : serverFiles.create (Put.remoteName name) = true)
    (hroom : content.length ≤ serverFiles.room) {n : Nat} {s : State Put TrivialFileTransferServer TFTPPacket}
    (hrun : Steps (Step (Put.next name) (TrivialFileTransferServer.next serverFiles)) n (upload clientFiles name) s) :
    ∃ k, 2 * (content.length / dataSize) + 8 = n + k ∧
      Steps (Step (Put.next name) (TrivialFileTransferServer.next serverFiles)) k s
        ⟨.done (if dataSize ∣ content.length then [.tftpError 4 (ascii "Write error!")] else [.ok]),
          .done (some content) false, [], []⟩ := by
  refine Steps.descent diamond (final_of_stop rfl rfl) ?_ hrun
  have hne := (getName_accepted hname).1
  have hstart : Put.start clientFiles name = .request { rest := content } := by
    unfold Put.start
    rw [if_pos (Nat.le_sub_one_of_lt hlength), hread]
  have hrequest : TrivialFileTransferServer.writeRequest serverFiles (Put.remoteName name) = .acknowledging := by
    simp [TrivialFileTransferServer.writeRequest, hname, hcreate]
  obtain ⟨next, hnext, hmessage⟩ : ∃ next, TrivialFileTransferServer.next serverFiles .start = .receive next ∧
      next (.message (Put.request' name)) = .acknowledging := by
    refine ⟨_, rfl, ?_⟩
    have htype : (TFTP_WRQ = TFTP_RRQ) = False := by simp [TFTP_WRQ, TFTP_RRQ]
    simp [Put.request', hne, hrequest, htype]
  have hsteps := steps_upload name hroom (List.nil_append content) 0
  have hasked : Step (Put.next name) (TrivialFileTransferServer.next serverFiles)
      ⟨.answer { rest := content }, .start, [], [Put.request' name]⟩
      ⟨.answer { rest := content }, .acknowledging, [], []⟩ := by
    rw [← hmessage]
    exact .right (.receive hnext)
  unfold upload
  rw [hstart]
  exact .head (.left (.send rfl)) <| .head hasked <| .head (.right (.send rfl)) <| .head (.left (.receive rfl)) hsteps

theorem upload_complete_small : Steps (Step (Put.next [0x61]) (TrivialFileTransferServer.next oneFile)) 8
    (upload oneFile [0x61]) ⟨.done [.ok], .done (some [1, 2, 3]) false, [], []⟩ := by
  have hname : getName (Put.remoteName [0x61]) = .accepted := by decide
  have hread : oneFile.read [0x61] = some [1, 2, 3] := rfl
  have hcreate : oneFile.create (Put.remoteName [0x61]) = true := rfl
  have hroom : ([1, 2, 3] : List UInt8).length ≤ oneFile.room := by decide
  obtain ⟨k, hk, hsteps⟩ := upload_complete (by decide) hname hread hcreate hroom (.refl _)
  obtain rfl : 8 = k := by simpa [dataSize] using hk
  exact hsteps

end TFTP

end SocketApi
