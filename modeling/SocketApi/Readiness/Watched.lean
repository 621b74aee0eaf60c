import SocketApi.Callbacks

/-!
# A protocol library that is watched

A record beside the state of the library of what it has answered and announced, by association
ID. It is written by the calls of the library and never read by the API.
-/

namespace SocketApi

structure Record where
  /-- The latest send was refused for want of room, with no callback since. -/
  full : AssocID → Bool := fun _ => false
  /-- There was a callback that offers room, or that begins or ends the communication. -/
  told : AssocID → Bool := fun _ => false

namespace Record

def answer (r : Record) (id : AssocID) : SendResult → Record
  | .success => { r with full := Function.update r.full id false }
  | .queueExceeded => { r with full := Function.update r.full id true }
  | .parameterProblem | .other => r

def tell (r : Record) (id : AssocID) : Record where
  full := Function.update r.full id false
  told := Function.update r.told id true

/-- The record after a call that may deliver a notification. -/
def close (r : Record) (id : AssocID) : Option TerminalNotif → Record
  | some _ => r.tell id
  | none => r

theorem told_answer (r : Record) (id : AssocID) (result : SendResult) : (r.answer id result).told = r.told := by
  cases result <;> rfl

theorem told_tell (r : Record) (id : AssocID) : (r.tell id).told id = true := Function.update_self ..

theorem told_of_told {r : Record} {id id' : AssocID} (h : r.told id' = true) : (r.tell id).told id' = true := by
  unfold tell
  dsimp only
  by_cases hid : id' = id
  · subst hid
    exact Function.update_self ..
  · rwa [Function.update_of_ne hid]

theorem told_close {r : Record} {id id' : AssocID} {t : Option TerminalNotif} (h : r.told id' = true) :
    (r.close id t).told id' = true := by
  cases t with
  | none => exact h
  | some t => exact told_of_told h

end Record

def Sctplib.watched (L : Sctplib) : Sctplib where
  State := L.State × Record
  getInstanceID s := L.getInstanceID s.1
  getAssocStatus s := L.getAssocStatus s.1
  setAssocStatus s assocID status := ((L.setAssocStatus s.1 assocID status).1, (L.setAssocStatus s.1 assocID status).2, s.2)
  getAssocDefaults s := L.getAssocDefaults s.1
  setAssocDefaults s instanceID parameters :=
    ((L.setAssocDefaults s.1 instanceID parameters).1, (L.setAssocDefaults s.1 instanceID parameters).2, s.2)
  getPathStatus s := L.getPathStatus s.1
  getPrimary s := L.getPrimary s.1
  setPrimary s assocID index := ((L.setPrimary s.1 assocID index).1, (L.setPrimary s.1 assocID index).2, s.2)
  setRemotePrimary s assocID address :=
    ((L.setRemotePrimary s.1 assocID address).1, (L.setRemotePrimary s.1 assocID address).2, s.2)
  requestHeartbeat s assocID index :=
    ((L.requestHeartbeat s.1 assocID index).1, (L.requestHeartbeat s.1 assocID index).2, s.2)
  changeHeartBeat s assocID index interval :=
    ((L.changeHeartBeat s.1 assocID index interval).1, (L.changeHeartBeat s.1 assocID index interval).2, s.2)
  registerInstance s port inStreams outStreams addresses :=
    ((L.registerInstance s.1 port inStreams outStreams addresses).1,
      (L.registerInstance s.1 port inStreams outStreams addresses).2, s.2)
  unregisterInstance s instanceID := ((L.unregisterInstance s.1 instanceID).1, (L.unregisterInstance s.1 instanceID).2, s.2)
  associatex s instanceID streams addresses port :=
    ((L.associatex s.1 instanceID streams addresses port).1, (L.associatex s.1 instanceID streams addresses port).2, s.2)
  shutdown s assocID :=
    ((L.shutdown s.1 assocID).1, (L.shutdown s.1 assocID).2, s.2.close assocID (L.shutdown s.1 assocID).1)
  abort s assocID := ((L.abort s.1 assocID).1, (L.abort s.1 assocID).2, s.2.close assocID (L.abort s.1 assocID).1)
  deleteAssociation s assocID := ((L.deleteAssociation s.1 assocID).1, (L.deleteAssociation s.1 assocID).2, s.2)
  send s request := ((L.send s.1 request).1, (L.send s.1 request).2, s.2.answer request.assocID (L.send s.1 request).1)
  receive s assocID streamID length peek :=
    ((L.receive s.1 assocID streamID length peek).1, (L.receive s.1 assocID streamID length peek).2, s.2)

variable {L : Sctplib}

def Shared.record (s : Shared L.watched) : Record := (s.stack : L.State × Record).2

theorem Sctplib.Adjusts.record {s : Shared L.watched} {stack : L.watched.State} (h : L.watched.Adjusts s.stack stack) :
    Shared.record { s with stack } = s.record := by
  cases h <;> rfl

/-- The association that a callback begins, ends or offers room. -/
def SCTPSocketMaster.Callback.tells : Callback → Option AssocID
  | .communicationUp assocID _ _ | .communicationLost assocID | .shutdownComplete assocID
  | .queueStatusChange assocID => some assocID
  | _ => none

/-- The library records a callback before it runs it. -/
def Shared.announce (s : Shared L.watched) (callback : SCTPSocketMaster.Callback) : Shared L.watched :=
  let record := match callback.tells with
    | some id => s.record.tell id
    | none => s.record
  { s with stack := ((s.stack : L.State × Record).1, record) }

/-- The record begins anew. -/
def Shared.forget (s : Shared L.watched) : Shared L.watched :=
  { s with stack := ((s.stack : L.State × Record).1, { s.record with told := fun _ => false }) }

end SocketApi
