import SocketApi.Options.Instant

/-!
# What the options read

The options of a descriptor are a view of the state: the getters of the protocol library and a
few fields of the objects. Every get of an option is a function of this view and leaves the
state as it is.
-/

namespace SocketApi

open Effect ExtSocketDescriptorMaster

variable {L : Sctplib} {E : Environment L} {α β : Type}

/-! ## Association or socket -/

/-- A choice that depends on what a descriptor refers to. -/
def SCTPSocketDesc.dispatch (desc : SCTPSocketDesc) (onAssociation : AssocPtr → α) (onSocket : SocketPtr → α)
    (neither : α) : α :=
  match desc.sctpAssociationPtr, desc.connectionOriented, desc.sctpSocketPtr with
  | some p, true, _ => onAssociation p
  | _, _, some s => onSocket s
  | _, _, none => neither

theorem SCTPSocketDesc.apply_dispatch (desc : SCTPSocketDesc) (f : α → β) (onAssociation : AssocPtr → α)
    (onSocket : SocketPtr → α) (neither : α) :
    f (desc.dispatch onAssociation onSocket neither) =
      desc.dispatch (fun p => f (onAssociation p)) (fun s => f (onSocket s)) (f neither) := by
  unfold dispatch
  split <;> rfl

/-- Which way every choice of a descriptor goes. -/
theorem SCTPSocketDesc.shape (desc : SCTPSocketDesc) :
    (∃ p, desc.sctpAssociationPtr = some p ∧ desc.connectionOriented = true ∧
      ∀ {α : Type} (f : AssocPtr → α) (g : SocketPtr → α) (h : α), desc.dispatch f g h = f p) ∨
    (∃ t, (desc.connectionOriented = true → desc.sctpAssociationPtr = none) ∧
      ∀ {α : Type} (f : AssocPtr → α) (g : SocketPtr → α) (h : α), desc.dispatch f g h = g t) ∨
    ∀ {α : Type} (f : AssocPtr → α) (g : SocketPtr → α) (h : α), desc.dispatch f g h = h := by
  obtain ⟨domain, type, s, p, nonBlock, otherFlags, initMsg, linger, oriented⟩ := desc
  cases p with
  | none =>
    cases s with
    | none => exact .inr (.inr fun _ _ _ => rfl)
    | some t => exact .inr (.inl ⟨t, fun _ => rfl, fun _ _ _ => rfl⟩)
  | some p =>
    cases oriented with
    | true => exact .inl ⟨p, rfl, rfl, fun _ _ _ => rfl⟩
    | false =>
      cases s with
      | none => exact .inr (.inr fun _ _ _ => rfl)
      | some t => exact .inr (.inl ⟨t, nofun, fun _ _ _ => rfl⟩)

theorem Denotes.dispatch (desc : SCTPSocketDesc) {onAssociation : AssocPtr → Act L α} {onSocket : SocketPtr → Act L α}
    {neither : Act L α} {f : AssocPtr → Shared L → Option (α × Shared L)}
    {g : SocketPtr → Shared L → Option (α × Shared L)} {h : Shared L → Option (α × Shared L)}
    (hf : ∀ p, Denotes (onAssociation p) (f p)) (hg : ∀ s, Denotes (onSocket s) (g s)) (hh : Denotes neither h) :
    Denotes (desc.dispatch onAssociation onSocket neither) fun w => desc.dispatch (f · w) (g · w) (h w) := by
  unfold SCTPSocketDesc.dispatch
  split
  · exact hf _
  · exact hg _
  · exact hh

/-! ## The view -/

/-- The ID of an association and, while the INIT timeout is in force, the user's `RTOMax`. -/
structure AssociationView where
  id : AssocID
  userRTOMax : Option Nat
  deriving DecidableEq, Repr

structure SocketView where
  instanceName : InstanceID
  autoClose : Nat
  deriving DecidableEq, Repr

/-- What the getters of the protocol library return. -/
structure Settings where
  status : AssocID → Option AssociationStatus
  defaults : InstanceID → Option InstanceParameters
  path : AssocID → Int → Option PathStatus
  primary : AssocID → Int

structure OptionView extends Settings where
  association : AssocPtr → Option AssociationView
  socket : SocketPtr → Option SocketView

def Sctplib.settings (L : Sctplib) (s : L.State) : Settings where
  status := L.getAssocStatus s
  defaults := L.getAssocDefaults s
  path := L.getPathStatus s
  primary := L.getPrimary s

def Settings.setPath (s : Settings) (id : AssocID) (index : Int) (path : PathStatus) : Settings :=
  { s with path := Function.update s.path id (Function.update (s.path id) index (some path)) }

/-- A protocol library that is nothing but its settings. -/
def Sctplib.table : Sctplib where
  State := Settings
  getInstanceID _ _ := none
  getAssocStatus s := s.status
  setAssocStatus s id status :=
    if (s.status id).isSome then (true, { s with status := Function.update s.status id (some status) }) else (false, s)
  getAssocDefaults s := s.defaults
  setAssocDefaults s i parameters :=
    if (s.defaults i).isSome then (true, { s with defaults := Function.update s.defaults i (some parameters) })
    else (false, s)
  getPathStatus s := s.path
  getPrimary s := s.primary
  setPrimary s id index :=
    if (s.path id index).isSome then (true, { s with primary := Function.update s.primary id index }) else (false, s)
  setRemotePrimary s id _ := ((s.status id).isSome, s)
  requestHeartbeat s id index := ((s.path id index).isSome, s)
  changeHeartBeat s id index interval :=
    match s.path id index with
    | some path => (true, s.setPath id index { path with heartbeatIntervall := interval })
    | none => (false, s)
  registerInstance s _ _ _ _ := (0, s)
  unregisterInstance s _ := (false, s)
  associatex s _ _ _ _ := (0, s)
  shutdown s _ := (none, s)
  abort s _ := (none, s)
  deleteAssociation s _ := (false, s)
  send s _ := (.other, s)
  receive s _ _ _ _ := (none, s)

def SCTPAssociation.view (a : SCTPAssociation) : AssociationView where
  id := a.associationID
  userRTOMax := if a.rtoMaxIsInitTimeout then some a.rtoMax else none

def SCTPSocket.view (o : SCTPSocket) : SocketView where
  instanceName := o.instanceName
  autoClose := o.autoCloseTimeout

def Shared.view (s : Shared L) : OptionView where
  toSettings := L.settings s.stack
  association p := (s.associations p).map SCTPAssociation.view
  socket t := (s.sockets t).map SCTPSocket.view

@[simp] theorem Shared.view_association (s : Shared L) (p : AssocPtr) :
    s.view.association p = (s.associations p).map SCTPAssociation.view := rfl

@[simp] theorem Shared.view_socket (s : Shared L) (t : SocketPtr) :
    s.view.socket t = (s.sockets t).map SCTPSocket.view := rfl

/-- The status with the `RTOMax` of the user. -/
def AssociationView.report (a : AssociationView) (status : AssociationStatus) : AssociationStatus :=
  { status with rtoMax := a.userRTOMax.getD status.rtoMax }

namespace OptionView

/-! ## The association of a descriptor -/

/-- The association that the parameters of a descriptor are about: `none` if its object is gone,
`some none` if there is neither an association nor a socket. -/
def target (desc : SCTPSocketDesc) (v : OptionView) (id : AssocID) : Option (Option AssociationView) :=
  desc.dispatch (fun p => (v.association p).map some) (fun _ => some (some { id, userRTOMax := none })) (some none)

def params (desc : SCTPSocketDesc) (v : OptionView) (id : AssocID) : Option (Option (AssociationStatus × AssocID)) :=
  (v.target desc id).map fun t => t.bind fun a => (v.status a.id).map fun status => (a.report status, a.id)

/-- `pathSearch`. -/
def pathSearch (path : Int → Option PathStatus) (address : SocketAddress) : List Int → Option Int
  | [] => none
  | index :: rest =>
    match path index with
    | none => some (-1)
    | some status => if address.host == status.destinationAddress then some index else pathSearch path address rest

def pathIndex (v : OptionView) (id : AssocID) (address : SocketAddress) : Option Int :=
  match v.status id with
  | none => some (-1)
  | some status => pathSearch (v.path id) address status.destinationPathIDs

/-- The parameters of the path with an index that was looked up. -/
def pathAt (v : OptionView) (id : AssocID) (index : Int) : Option PathStatus :=
  if 0 ≤ index then some ((v.path id index).getD {}) else none

def pathParams (desc : SCTPSocketDesc) (v : OptionView) (id : AssocID) (address : SocketAddress) :
    Option (Option PathStatus) :=
  (v.target desc id).bind fun
    | some a => (v.pathIndex a.id address).map (v.pathAt a.id)
    | none => some none

end OptionView

/-! ## Programs that only read -/

def Reads (x : Act L α) (g : Shared L → Option α) : Prop := Denotes x fun s => (g s).map (·, s)

namespace Reads

variable {x : Act L α} {g : Shared L → Option α}

theorem congr {h : Shared L → Option α} (hx : Reads x g) (hg : ∀ s, g s = h s) : Reads x h := by
  rwa [← funext hg]

theorem pure (a : α) : Reads (Pure.pure a : Act L α) fun _ => some a := Denotes.pure a

theorem run_iff (h : Reads x g) {w : World L} {a : α} : (∃ w', x w = .ok a w') ↔ g w.shared = some a := by
  constructor
  · rintro ⟨w', hrun⟩
    obtain ⟨found, hfound, heq⟩ := Option.map_eq_some_iff.mp (Denotes.ok h hrun)
    rw [hfound, (Prod.mk.inj heq).1]
  · intro hg
    have hmap : (g w.shared).map (·, w.shared) = some (a, w.shared) := by rw [hg]; rfl
    obtain ⟨w', hrun, -⟩ := Denotes.run h hmap
    exact ⟨w', hrun⟩

theorem throw (h : Halt) : Reads (throw h : Act L α) fun _ => none := fun _ => rfl

theorem bind {f : α → Act L β} {h : α → Shared L → Option β} (hx : Reads x g) (hf : ∀ a, Reads (f a) (h a)) :
    Reads (x >>= f) fun s => (g s).bind fun a => h a s := by
  refine (Denotes.bind hx hf).congr fun s => ?_
  dsimp only
  cases g s <;> rfl

/-- `bind` where only the first program looks at the state. -/
theorem bindPure {f : α → Act L β} {h : α → β} (hx : Reads x g) (hf : ∀ a, Reads (f a) fun _ => some (h a)) :
    Reads (x >>= f) fun s => (g s).map h :=
  (hx.bind hf).congr fun s => by cases g s <;> rfl

theorem shared : Reads (L := L) SocketApi.shared some := Denotes.shared

theorem associationAt (p : AssocPtr) : Reads (L := L) (SocketApi.associationAt p) (·.associations p) :=
  Denotes.associationAt p

theorem socketAt (t : SocketPtr) : Reads (L := L) (SocketApi.socketAt t) (·.sockets t) := Denotes.socketAt t

theorem descriptorAt (slot : Nat) :
    Reads (L := L) (ExtSocketDescriptorMaster.descriptorAt slot) fun s => some (s.descriptors slot) :=
  Denotes.descriptorAt slot

theorem locked (hE : E.Instant) (hx : Reads x g) : Reads (SocketApi.locked E x) g := Denotes.locked hE hx

theorem dispatch (desc : SCTPSocketDesc) {onAssociation : AssocPtr → Act L α} {onSocket : SocketPtr → Act L α}
    {neither : Act L α} {f : AssocPtr → Shared L → Option α} {g : SocketPtr → Shared L → Option α}
    {h : Shared L → Option α} (hf : ∀ p, Reads (onAssociation p) (f p)) (hg : ∀ s, Reads (onSocket s) (g s))
    (hh : Reads neither h) :
    Reads (desc.dispatch onAssociation onSocket neither) fun w => desc.dispatch (f · w) (g · w) (h w) :=
  (Denotes.dispatch desc hf hg hh).congr fun w =>
    (desc.apply_dispatch (Option.map (·, w)) (f · w) (g · w) (h w)).symm

theorem errnoResult (result : Int) (value : SockOpt) :
    Reads (L := L) (SocketApi.errnoResult result value) fun _ => some (if result < 0 then -1 else result, value) :=
  Denotes.errnoResult result value

end Reads

/-! ## Reading parameters -/

section

variable (hE : E.Instant)
include hE

namespace SCTPSocket

theorem reads_getAssocStatus (id : AssocID) : Reads (getAssocStatus E id) fun s => some (s.view.status id) := by
  unfold getAssocStatus
  exact .locked hE (Reads.shared.bind fun w => .pure _)

theorem reads_getAssocDefaults (t : SocketPtr) :
    Reads (getAssocDefaults E t) fun s => (s.view.socket t).map fun o => s.view.defaults o.instanceName := by
  unfold getAssocDefaults
  refine (Reads.locked hE (Reads.shared.bind fun w => (Reads.socketAt t).bind fun o => .pure _)).congr fun s => ?_
  dsimp only [Shared.view]
  cases s.sockets t <;> rfl

omit hE in
theorem reads_pathSearch (id : AssocID) (a : SocketAddress) (indices : List Int) :
    Reads (L := L) (pathSearch id a indices) fun s => OptionView.pathSearch (s.view.path id) a indices := by
  induction indices with
  | nil => exact .throw _
  | cons index rest ih =>
    have hstep (o : Option PathStatus) : Reads (L := L)
        (match o with
        | none => return -1
        | some path => if a.host == path.destinationAddress then return index else pathSearch id a rest)
        fun s => match o with
          | none => some (-1)
          | some status => if a.host == status.destinationAddress then some index
              else OptionView.pathSearch (s.view.path id) a rest := by
      cases o with
      | none => exact .pure _
      | some path =>
        by_cases h : a.host == path.destinationAddress
        · simp only [h, if_true]
          exact .pure _
        · simp only [h]
          exact ih
    exact Reads.shared.bind fun w => hstep _

omit hE in
theorem reads_getPathIndexForAddress (id : AssocID) (a : Option SocketAddress) :
    Reads (L := L) (getPathIndexForAddress id a) fun s =>
      match a with
      | none => some (s.view.primary id)
      | some a => s.view.pathIndex id a := by
  unfold getPathIndexForAddress
  cases a with
  | none => exact Reads.shared.bind fun w => .pure _
  | some a =>
    have hstep (o : Option AssociationStatus) : Reads (L := L)
        (match o with
        | none => return -1
        | some status => pathSearch id a status.destinationPathIDs)
        fun s => match o with
          | none => some (-1)
          | some status => OptionView.pathSearch (s.view.path id) a status.destinationPathIDs := by
      cases o with
      | none => exact .pure _
      | some status => exact reads_pathSearch id a _
    exact Reads.shared.bind fun w => hstep _

theorem reads_getPathParameters (id : AssocID) (a : Option SocketAddress) :
    Reads (getPathParameters E id a) fun s =>
      match a with
      | none => some (s.view.pathAt id (s.view.primary id))
      | some a => (s.view.pathIndex id a).map (s.view.pathAt id) := by
  unfold getPathParameters
  dsimp only
  refine (Reads.locked hE ((reads_getPathIndexForAddress id a).bind fun i =>
    Reads.shared.bind fun w => .pure _)).congr fun s => ?_
  cases a with
  | none => rfl
  | some a => cases h : s.view.pathIndex id a <;> simp only [h] <;> rfl

end SCTPSocket

omit hE in
theorem reads_reported (p : AssocPtr) (o : Option AssociationStatus) : Reads (L := L)
    (match o with
    | some status => do
      let a ← associationAt p
      return some (if a.rtoMaxIsInitTimeout then { status with rtoMax := a.rtoMax } else status)
    | none => return none)
    fun s => match o with
      | some status => (s.associations p).map fun a =>
        some (if a.rtoMaxIsInitTimeout then { status with rtoMax := a.rtoMax } else status)
      | none => some none := by
  cases o with
  | none => exact .pure _
  | some status =>
    refine ((Reads.associationAt p).bind fun a => .pure _).congr fun s => ?_
    cases s.associations p <;> rfl

theorem SCTPAssociation.reads_getAssocStatus (p : AssocPtr) :
    Reads (SCTPAssociation.getAssocStatus E p) fun s => (s.view.association p).map fun a =>
      (s.view.status a.id).map a.report := by
  unfold SCTPAssociation.getAssocStatus
  refine ((Reads.associationAt p).bind fun a =>
    (SCTPSocket.reads_getAssocStatus hE a.associationID).bind fun o => reads_reported p o).congr fun s => ?_
  dsimp only [Shared.view]
  cases s.associations p with
  | none => rfl
  | some a =>
    simp only [Option.bind_some, Option.map_some, SCTPAssociation.view]
    cases (L.settings s.stack).status a.associationID with
    | none => rfl
    | some status =>
      simp only [Option.map_some, AssociationView.report]
      cases a.rtoMaxIsInitTimeout <;> rfl

omit hE in
theorem SCTPAssociation.reads_getID (p : AssocPtr) :
    Reads (L := L) (SCTPAssociation.getID p) fun s => (s.view.association p).map (·.id) := by
  unfold SCTPAssociation.getID
  refine ((Reads.associationAt p).bind fun a => .pure _).congr fun s => ?_
  dsimp only [Shared.view]
  cases s.associations p <;> rfl

omit hE in
theorem reads_withID (p : AssocPtr) (o : Option AssociationStatus) : Reads (L := L)
    (match o with
    | some parameters => do return some (parameters, ← SCTPAssociation.getID p)
    | none => return none)
    fun s => match o with
      | some status => (s.view.association p).map fun a => some (status, a.id)
      | none => some none := by
  cases o with
  | none => exact .pure _
  | some status =>
    refine ((SCTPAssociation.reads_getID p).bind fun id => .pure _).congr fun s => ?_
    dsimp only
    cases s.view.association p <;> rfl

theorem reads_getAssocParams (desc : SCTPSocketDesc) (id : AssocID) :
    Reads (getAssocParams E desc id) fun s => s.view.params desc id := by
  have hassociation (p : AssocPtr) := (SCTPAssociation.reads_getAssocStatus hE p).bind fun o => reads_withID p o
  have hsocket (t : SocketPtr) := (SCTPSocket.reads_getAssocStatus hE id).bind fun status =>
    Reads.pure (status.map (·, id))
  refine (Reads.dispatch desc hassociation hsocket (.pure none)).congr fun s => ?_
  unfold OptionView.params OptionView.target
  rw [desc.apply_dispatch (Option.map _)]
  congr 1
  · funext p
    cases s.view.association p with
    | none => rfl
    | some a =>
      simp only [Option.map_some, Option.bind_some]
      cases s.view.status a.id <;> rfl

theorem reads_getPathStatus (desc : SCTPSocketDesc) (id : AssocID) (address : SocketAddress) :
    Reads (getPathStatus E desc id address) fun s => s.view.pathParams desc id address := by
  have hassociation (p : AssocPtr) : Reads (SCTPAssociation.getPathParameters E p (some address)) fun s =>
      (s.view.association p).bind fun a => (s.view.pathIndex a.id address).map (s.view.pathAt a.id) := by
    unfold SCTPAssociation.getPathParameters
    refine ((Reads.associationAt p).bind fun a =>
      SCTPSocket.reads_getPathParameters hE a.associationID (some address)).congr fun s => ?_
    dsimp only [Shared.view]
    cases s.associations p <;> rfl
  refine (Reads.dispatch desc hassociation
    (fun _ => SCTPSocket.reads_getPathParameters hE id (some address)) (.pure none)).congr fun s => ?_
  unfold OptionView.pathParams OptionView.target
  rw [desc.apply_dispatch (Option.bind · _)]
  congr 1
  · funext p
    cases s.view.association p <;> rfl

end

end SocketApi
