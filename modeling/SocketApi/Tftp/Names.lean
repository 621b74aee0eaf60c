import SocketApi.Tftp.Upload

/-!
# The names that the server takes

The server opens only files whose names `getName` has let through, whatever a client sends, but
`getName` does not look at the size of `FileName`.
-/

namespace SocketApi

namespace TFTP

open Duplex

variable {files : Files} {sent received : List TFTPPacket} {p : TFTPPacket}

theorem getNameFrom_accepted {data : List UInt8} {i : Nat} :
    getNameFrom i data = .accepted ↔ i + data.length < fileNameSize ∧ ∀ c ∈ data, allowed c = true := by
  induction data generalizing i with
  | nil => simp [getNameFrom]
  | cons c rest ih =>
    unfold getNameFrom
    by_cases hi : i < fileNameSize
    · by_cases hc : allowed c = true
      · simp [hi, hc, ih]
        omega
      · simp [hi, hc]
    · simp [hi]
      omega

theorem getNameFrom_overflow (data : List UInt8) {i : Nat} (hi : i ≤ fileNameSize) :
    getNameFrom i data = .overflow ↔
      fileNameSize ≤ i + data.length ∧ ∀ c ∈ data.take (fileNameSize - i), allowed c = true := by
  induction data generalizing i with
  | nil => simp [getNameFrom]
  | cons c rest ih =>
    unfold getNameFrom
    by_cases hlt : i < fileNameSize
    · have htake : (c :: rest).take (fileNameSize - i) = c :: rest.take (fileNameSize - (i + 1)) := by
        rw [List.take_cons (by omega)]
        rfl
      rw [htake]
      by_cases hc : allowed c = true
      · simp [hlt, hc, ih hlt]
        omega
      · simp [hlt, hc]
    · have hsize : i = fileNameSize := by omega
      simp [hsize]

/-- A name that `getName` writes behind `FileName`. -/
def TooLong (data : List UInt8) : Prop :=
  fileNameSize ≤ data.length ∧ ∀ c ∈ data.take fileNameSize, allowed c = true

/-- A name of a file in the directory of the server. -/
def Plain (data : List UInt8) : Prop := data ≠ [] ∧ data.length < fileNameSize ∧ ∀ c ∈ data, allowed c = true

theorem getName_plain {data : List UInt8} : getName data = .accepted ↔ Plain data := by
  unfold getName Plain
  split
  · simp [*]
  · simp [getNameFrom_accepted, *]

theorem getName_tooLong {data : List UInt8} : getName data = .overflow ↔ TooLong data := by
  unfold getName TooLong
  split
  · rename_i h
    simp [h, fileNameSize]
  · simpa using getNameFrom_overflow data (Nat.zero_le fileNameSize)

namespace TrivialFileTransferServer

/-- The server has opened a file, or has written one. -/
def Opened (v : TrivialFileTransferServer) : Prop :=
  match v with
  | .reading _ _ => True
  | v => v.out.isSome = true

/-- The first packet is a request with such a name. -/
def Asked (Name : List UInt8 → Prop) (received : List TFTPPacket) : Prop :=
  ∃ p ps, received = p :: ps ∧ (p.type = TFTP_RRQ ∨ p.type = TFTP_WRQ) ∧ Name p.data

structure Served (received : List TFTPPacket) (v : TrivialFileTransferServer) : Prop where
  start : v = .start → received = []
  overflow : v = .overflow ↔ Asked TooLong received
  opened : Opened v → Asked Plain received

theorem asked_nil {Name : List UInt8 → Prop} : ¬Asked Name [] := by
  rintro ⟨p, ps, h, -⟩
  cases h

theorem asked_singleton {Name : List UInt8 → Prop} :
    Asked Name [p] ↔ (p.type = TFTP_RRQ ∨ p.type = TFTP_WRQ) ∧ Name p.data := by
  constructor
  · rintro ⟨q, ps, h, hq⟩
    cases h
    exact hq
  · exact fun h => ⟨p, [], rfl, h⟩

theorem asked_append {Name : List UInt8 → Prop} (hne : received ≠ []) : Asked Name (received ++ [p]) ↔ Asked Name received := by
  obtain ⟨q, qs, rfl⟩ := List.exists_cons_of_ne_nil hne
  constructor
  · rintro ⟨r, rs, h, hr⟩
    cases h
    exact ⟨q, qs, rfl, hr⟩
  · rintro ⟨r, rs, h, hr⟩
    cases h
    exact ⟨q, qs ++ [p], rfl, hr⟩

/-- What becomes of a request is decided by its name. -/
theorem served_request {v : TrivialFileTransferServer} (htype : p.type = TFTP_RRQ ∨ p.type = TFTP_WRQ) (hstart : v ≠ .start)
    (hoverflow : v = .overflow ↔ getName p.data = .overflow) (hopened : Opened v → getName p.data = .accepted) :
    Served [p] v where
  start h := absurd h hstart
  overflow := by simp [asked_singleton, htype, hoverflow, getName_tooLong]
  opened h := asked_singleton.mpr ⟨htype, getName_plain.mp (hopened h)⟩

theorem served_readRequest (htype : p.type = TFTP_RRQ) : Served [p] (readRequest files p.data) := by
  unfold readRequest
  cases hname : getName p.data with
  | accepted =>
    cases files.read p.data with
    | some content => exact served_request (.inl htype) (by simp) (by simp [hname]) fun _ => hname
    | none => exact served_request (.inl htype) (by simp) (by simp [hname]) fun _ => hname
  | refused => exact served_request (.inl htype) (by simp) (by simp [hname]) (by simp [Opened, out])
  | overflow => exact served_request (.inl htype) (by simp) (by simp [hname]) (by simp [Opened, out])

theorem served_writeRequest (htype : p.type = TFTP_WRQ) : Served [p] (writeRequest files p.data) := by
  unfold writeRequest
  cases hname : getName p.data with
  | accepted =>
    dsimp only
    split
    · exact served_request (.inr htype) (by simp) (by simp [hname]) fun _ => hname
    · exact served_request (.inr htype) (by simp) (by simp [hname]) fun _ => hname
  | refused => exact served_request (.inr htype) (by simp) (by simp [hname]) (by simp [Opened, out])
  | overflow => exact served_request (.inr htype) (by simp) (by simp [hname]) (by simp [Opened, out])

/-- No name has been asked for, and no file opened. -/
theorem served_nothing {v : TrivialFileTransferServer} (hstart : v ≠ .start) (hoverflow : v ≠ .overflow)
    (hopened : ¬Opened v) (hasked : ¬Asked TooLong received) : Served received v where
  start h := absurd h hstart
  overflow := ⟨fun h => absurd h hoverflow, fun h => absurd h hasked⟩
  opened h := absurd h hopened

/-- The server goes on with the file that it has. -/
theorem Served.goes_on {v v' : TrivialFileTransferServer} (h : Served received v) (hopened : Opened v)
    (hstart : v' ≠ .start) (hoverflow : v' ≠ .overflow) {received' : List TFTPPacket}
    (hreceived : ∀ Name, Asked Name received' ↔ Asked Name received) : Served received' v' where
  start h' := absurd h' hstart
  overflow := by
    rw [hreceived, ← h.overflow]
    have hv : v ≠ .overflow := by
      rintro rfl
      simp [Opened, out] at hopened
    simp [hv, hoverflow]
  opened _ := (hreceived _).mpr (h.opened hopened)

theorem store_ne {out : List UInt8} : store files out p ≠ .start ∧ store files out p ≠ .overflow := by
  unfold store
  dsimp only
  split_ifs <;> simp

theorem served : Invariant (TrivialFileTransferServer.next files) fun _ received v => Served received v where
  sends {sent received v m next} h hv := by
    cases v with
    | reading file code =>
      cases hv
      have hgoes {v : TrivialFileTransferServer} (hstart : v ≠ .start) (hoverflow : v ≠ .overflow) : Served received v :=
        h.goes_on trivial hstart hoverflow fun _ => Iff.rfl
      refine ⟨?_, hgoes (by simp) (by simp)⟩
      dsimp only
      split_ifs
      · exact hgoes (by simp) (by simp)
      · exact hgoes (by simp) (by simp)
      · exact hgoes (by simp) (by simp)
    | acknowledging =>
      cases hv
      exact ⟨h.goes_on rfl (by simp) (by simp) fun _ => Iff.rfl, h.goes_on rfl (by simp) (by simp) fun _ => Iff.rfl⟩
    | replying packet file =>
      cases hv
      cases file with
      | none =>
        have hasked : ¬Asked TooLong received := fun hasked => by simpa using h.overflow.mpr hasked
        have hdone : Served received (.done none false) :=
          served_nothing (by simp) (by simp) (by simp [Opened, out]) hasked
        exact ⟨hdone, hdone⟩
      | some file =>
        exact ⟨h.goes_on rfl (by simp) (by simp) fun _ => Iff.rfl, h.goes_on rfl (by simp) (by simp) fun _ => Iff.rfl⟩
    | start | writing | done | overflow => cases hv
  receives {sent received v next} h hv := by
    cases v with
    | start =>
      cases hv
      obtain rfl := h.start rfl
      refine ⟨fun p => ?_, served_nothing (by simp) (by simp) (by simp [Opened, out]) asked_nil,
        served_nothing (by simp) (by simp) (by simp [Opened, out]) asked_nil⟩
      dsimp only
      rw [List.nil_append]
      split
      · rename_i hdata
        refine served_nothing (by simp) (by simp) (by simp [Opened, out]) fun hasked => ?_
        simpa [TooLong, hdata, fileNameSize] using (asked_singleton.mp hasked).2
      split
      · exact served_readRequest ‹_›
      split
      · exact served_writeRequest ‹_›
      · refine served_nothing (by simp) (by simp) (by simp [Opened, out]) fun hasked => ?_
        rcases (asked_singleton.mp hasked).1 with h | h
        · contradiction
        · contradiction
    | writing file =>
      cases hv
      have hne : received ≠ [] := by
        obtain ⟨p, ps, rfl, -⟩ := h.opened rfl
        simp
      exact ⟨fun p => h.goes_on rfl store_ne.1 store_ne.2 fun _ => asked_append hne,
        h.goes_on rfl (by simp) (by simp) fun _ => Iff.rfl, h.goes_on rfl (by simp) (by simp) fun _ => Iff.rfl⟩
    | reading | acknowledging | replying | done | overflow => cases hv

theorem served_start : Served [] .start where
  start _ := rfl
  overflow := by simp [asked_nil]
  opened h := by simp [Opened, out] at h

/-- A name of 512 times the same letter. -/
def longName : TFTPPacket := ⟨TFTP_RRQ, 0, List.replicate 512 0x61⟩

end TrivialFileTransferServer

end TFTP

end SocketApi
