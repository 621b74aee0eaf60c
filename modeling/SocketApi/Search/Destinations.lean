import SocketApi.Search.Paths
import SocketApi.Lib.Inet

/-!
# The search for an association

`findAssociationForDestinationAddress` returns the first association of a list that one of the destination
addresses leads to. The index into the addresses of an association that is being established is not set back
for the second destination, and such an association is found while it is shutting down.
-/

namespace SocketApi

open Effect

variable {L : Sctplib} {E : Environment L} {w : World L} {a : SCTPAssociation} {status : AssociationStatus}
  {s : Shared L} {id : AssocID} {destinations : List SocketAddress} {d : SocketAddress}

/-! ## Statements -/

/-- One of the destination addresses is an address of the association's peer, and the association is not
shutting down. -/
def Sctplib.Leads (L : Sctplib) (stack : L.State) (destinations : List SocketAddress) (a : SCTPAssociation) : Prop :=
  a.isShuttingDown = false ∧
    match a.preEstablishmentAddressList with
    | none => ∃ status, L.getAssocStatus stack a.associationID = some status ∧
        ∃ d ∈ destinations, d.port = status.destPort ∧ L.HasPath stack a.associationID status d.host
    | some pending => ∃ d ∈ destinations, d ∈ pending

/-- What the search is for: an association of the list to which a destination address leads, or none if there
is no such association. -/
def FindsAssociation (w : World L) (destinations : List SocketAddress) (list : Multimap AssocID AssocPtr) : Prop :=
  ∃ found w', SCTPSocket.findAssociationForDestinationAddress destinations list w = .ok found w' ∧
    (found.isSome ↔ ∃ p ∈ list.values, ∃ a, w.shared.associations p = some a ∧ L.Leads w.shared.stack destinations a) ∧
    ∀ p, found = some p → p ∈ list.values ∧
      ∃ a, w.shared.associations p = some a ∧ L.Leads w.shared.stack destinations a

/-- What the protocol library documents of paths: their IDs are the meaningful entries of the array, and an
ID is a `short` that is not negative. -/
def Sctplib.PathsDocumented (L : Sctplib) (stack : L.State) : Prop :=
  ∀ id status, L.getAssocStatus stack id = some status →
    L.PathsExist stack id status ∧ ∀ index ∈ status.pathIDs, 0 ≤ index ∧ index < 2 ^ 15

/-- The association matches: an established one as it should, one that is being established if the first
destination address is among its addresses, whether it is shutting down or not. -/
def Sctplib.Hit (L : Sctplib) (stack : L.State) (destinations : List SocketAddress) (a : SCTPAssociation) : Prop :=
  match a.preEstablishmentAddressList with
  | none => L.Leads stack destinations a
  | some pending => ∃ d, destinations.head? = some d ∧ d ∈ pending

/-- No path search runs off the array: if it comes to an address that is no path's, an entry of the array is
no path ID. -/
def Sctplib.Searched (L : Sctplib) (stack : L.State) (destinations : List SocketAddress) (a : SCTPAssociation) : Prop :=
  a.preEstablishmentAddressList = none → a.isShuttingDown = false →
    ∀ status, L.getAssocStatus stack a.associationID = some status →
      ∀ before d after, destinations = before ++ d :: after →
        (∀ e ∈ before, ¬ (e.port = status.destPort ∧ L.HasPath stack a.associationID status e.host)) →
        d.port = status.destPort → L.HasPath stack a.associationID status d.host ∨
          ∃ index ∈ status.destinationPathIDs, L.getPathStatus stack a.associationID index = none

/-- The search goes on behind the association. -/
def Shared.Passes (s : Shared L) (destinations : List SocketAddress) (p : AssocPtr) : Prop :=
  ∃ a, s.associations p = some a ∧ ¬ L.Hit s.stack destinations a ∧ L.Searched s.stack destinations a

/-- The first association that is hit is not shutting down; or none is hit, and none is there to be found
under a later destination address. -/
def Shared.FindsFirst (s : Shared L) (destinations : List SocketAddress) (list : Multimap AssocID AssocPtr) : Prop :=
  (∃ before p after, list.values = before ++ p :: after ∧ (∀ q ∈ before, s.Passes destinations q) ∧
    ∃ a, s.associations p = some a ∧ L.Hit s.stack destinations a ∧ L.Searched s.stack destinations a ∧
      a.isShuttingDown = false) ∨
  ∀ p ∈ list.values, s.Passes destinations p ∧ ∀ a, s.associations p = some a → ¬ L.Leads s.stack destinations a

/-! ## Texts of addresses -/

theorem addressString_toList (d : SocketAddress) :
    d.addressString.toList = d.host.toList ++ ':' :: Nat.toDigits 10 d.port := by
  unfold SocketAddress.addressString
  simp [String.toList_append]

/-- An address is determined by its text: behind the last colon there are digits only. -/
theorem addressString_inj {d e : SocketAddress} : d.addressString = e.addressString ↔ d = e := by
  refine ⟨fun h => ?_, fun h => h ▸ rfl⟩
  have htext := congrArg String.toList h
  rw [addressString_toList, addressString_toList] at htext
  have hcolon (n : Nat) : ':' ∉ Nat.toDigits 10 n := Inet.not_mem_toDigits (by decide) (by decide) n
  have hsame : d.host.toList = e.host.toList ∧ Nat.toDigits 10 d.port = Nat.toDigits 10 e.port := by
    rcases List.append_eq_append_iff.mp htext with ⟨more, hhost, hrest⟩ | ⟨more, hhost, hrest⟩
    · cases more with
      | nil => exact ⟨by simpa using hhost.symm, by simpa using hrest⟩
      | cons c more =>
        obtain ⟨-, hrest⟩ := List.cons.inj hrest
        exact absurd (hrest ▸ by simp) (hcolon d.port)
    · cases more with
      | nil => exact ⟨by simpa using hhost, by simpa using hrest.symm⟩
      | cons c more =>
        obtain ⟨-, hrest⟩ := List.cons.inj hrest
        exact absurd (hrest ▸ by simp) (hcolon e.port)
  obtain ⟨hhost, hport⟩ := hsame
  have hport : d.port = e.port := by
    have := congrArg (Nat.ofDigitChars 10 · 0) hport
    simpa [Nat.ofDigitChars_toDigits] using this
  cases d
  cases e
  simp_all [String.toList_inj]

/-! ## The loops as searches -/

/-- The test of a destination address. -/
def OptionView.leadsBy (v : OptionView) (a : SCTPAssociation) (status : AssociationStatus) (d : SocketAddress) :
    Option Bool :=
  if !a.isShuttingDown && d.port == status.destPort then
    (v.pathIndex a.associationID d).map fun index => decide (0 ≤ Int.bmod index (2 ^ 16))
  else some false

/-- The test of an association. -/
def Shared.leads (s : Shared L) (destinations : List SocketAddress) (a : SCTPAssociation) : Option Bool :=
  match a.preEstablishmentAddressList, L.getAssocStatus s.stack a.associationID with
  | none, some status => (Search.first (s.view.leadsBy a status) destinations).map Option.isSome
  | none, none => some false
  | some pending, _ => some (SCTPSocket.matchesPending destinations pending)

theorem reads_matchesPaths (a : SCTPAssociation) (status : AssociationStatus) (destinations : List SocketAddress) :
    Reads (L := L) (SCTPSocket.matchesPaths a status destinations) fun s =>
      (Search.first (s.view.leadsBy a status) destinations).map Option.isSome := by
  induction destinations with
  | nil => exact .pure false
  | cons d ds ih =>
    unfold SCTPSocket.matchesPaths
    by_cases hport : !a.isShuttingDown && d.port == status.destPort
    · simp only [hport, if_true]
      have hstep (index : Int) : Reads (L := L)
          (if 0 ≤ Int.bmod index (2 ^ 16) then return true else SCTPSocket.matchesPaths a status ds) fun s =>
            if 0 ≤ Int.bmod index (2 ^ 16) then some true
            else (Search.first (s.view.leadsBy a status) ds).map Option.isSome := by
        split
        · exact .pure true
        · exact ih
      refine ((SCTPSocket.reads_getPathIndexForAddress a.associationID (some d)).bind hstep).congr fun s => ?_
      have hleads : s.view.leadsBy a status d =
          (s.view.pathIndex a.associationID d).map fun index => decide (0 ≤ Int.bmod index (2 ^ 16)) := if_pos hport
      dsimp only
      cases hindex : s.view.pathIndex a.associationID d with
      | none => rw [Search.first_cons_none (by rw [hleads, hindex]; rfl)]; rfl
      | some index =>
        by_cases h : 0 ≤ Int.bmod index (2 ^ 16)
        · rw [Search.first_cons_true (by rw [hleads, hindex, Option.map_some, decide_eq_true h])]
          exact if_pos h
        · rw [Search.first_cons_false (by rw [hleads, hindex, Option.map_some, decide_eq_false h])]
          exact if_neg h
    · simp only [hport]
      refine ih.congr fun s => ?_
      rw [Search.first_cons_false]
      simp [OptionView.leadsBy, hport]

theorem reads_matchesAddress (destinations : List SocketAddress) (a : SCTPAssociation) :
    Reads (L := L) (SCTPSocket.matchesAddress destinations a) fun s => s.leads destinations a := by
  unfold SCTPSocket.matchesAddress
  have hstep (o : Option AssociationStatus) : Reads (L := L)
      (match a.preEstablishmentAddressList, o with
      | none, some status => SCTPSocket.matchesPaths a status destinations
      | none, none => return false
      | some pending, _ => return SCTPSocket.matchesPending destinations pending)
      fun s => match a.preEstablishmentAddressList, o with
        | none, some status => (Search.first (s.view.leadsBy a status) destinations).map Option.isSome
        | none, none => some false
        | some pending, _ => some (SCTPSocket.matchesPending destinations pending) := by
    cases a.preEstablishmentAddressList with
    | none =>
      cases o with
      | none => exact .pure false
      | some status => exact reads_matchesPaths a status destinations
    | some pending => exact .pure _
  exact Reads.shared.bind fun w => hstep _

theorem reads_findAssociation (destinations : List SocketAddress) (list : Multimap AssocID AssocPtr) :
    Reads (L := L) (SCTPSocket.findAssociationForDestinationAddress destinations list) fun s =>
      Search.first (fun p => (s.associations p).bind (s.leads destinations)) list.values := by
  induction list with
  | nil => exact .pure none
  | cons e list ih =>
    change Reads _ fun s => Search.first (fun p => (s.associations p).bind (s.leads destinations)) (Multimap.values list)
      at ih
    unfold SCTPSocket.findAssociationForDestinationAddress
    have hstep (found : Bool) : Reads (L := L)
        (if found then return some e.2 else SCTPSocket.findAssociationForDestinationAddress destinations list) fun s =>
          if found then some (some e.2)
          else Search.first (fun p => (s.associations p).bind (s.leads destinations)) (Multimap.values list) := by
      cases found with
      | true => exact .pure _
      | false => exact ih
    refine ((Reads.associationAt e.2).bind fun a => (reads_matchesAddress destinations a).bind hstep).congr fun s => ?_
    show _ = Search.first _ (e.2 :: Multimap.values list)
    rw [Search.first_cons]
    cases s.associations e.2 <;> rfl

/-! ## What the tests accept -/

theorem pathIndex_eq (s : Shared L) (hstatus : L.getAssocStatus s.stack id = some status) (d : SocketAddress) :
    s.view.pathIndex id d = OptionView.pathSearch (L.getPathStatus s.stack id) d status.destinationPathIDs := by
  have hview : s.view.status id = some status := hstatus
  simp only [OptionView.pathIndex, hview]
  rfl

/-- A search for the address of a path ends at the index of one, which is not negative as a `short`. -/
theorem leadsBy_path (hL : L.PathsDocumented s.stack) (hstatus : L.getAssocStatus s.stack a.associationID = some status)
    (hpath : L.HasPath s.stack a.associationID status d.host) :
    (s.view.pathIndex a.associationID d).map (fun index => decide (0 ≤ Int.bmod index (2 ^ 16))) = some true := by
  obtain ⟨hexist, hshort⟩ := hL a.associationID status hstatus
  obtain ⟨index, hindex, -, hsearch⟩ := OptionView.pathSearch_found d hpath fun i hi => (hexist i).mpr hi
  have hall : s.view.pathIndex a.associationID d = some index := by
    rw [pathIndex_eq s hstatus, ← hsearch (status.destinationPathIDs.drop status.numberOfDestinationPaths)]
    unfold AssociationStatus.pathIDs
    rw [List.take_append_drop]
  obtain ⟨hlow, hhigh⟩ := hshort index hindex
  have hsame : Int.bmod index (2 ^ 16) = index := Int.bmod_eq_of_le (by omega) (by omega)
  rw [hall, Option.map_some, hsame, decide_eq_true hlow]

theorem leadsBy_noPath (hL : L.PathsDocumented s.stack) (hstatus : L.getAssocStatus s.stack a.associationID = some status)
    (hpath : ¬ L.HasPath s.stack a.associationID status d.host) :
    (s.view.pathIndex a.associationID d).map (fun index => decide (0 ≤ Int.bmod index (2 ^ 16))) =
      if ∃ index ∈ status.destinationPathIDs, L.getPathStatus s.stack a.associationID index = none then some false
      else none := by
  have hpassed : ∀ i ∈ status.destinationPathIDs, ∀ p, L.getPathStatus s.stack a.associationID i = some p →
      p.destinationAddress ≠ d.host := by
    intro i hi p hp hhost
    have hin : i ∈ status.pathIDs := ((hL a.associationID status hstatus).1 i).mp (by simp [hp])
    exact hpath ⟨i, hin, p, hp, hhost⟩
  rw [pathIndex_eq s hstatus, OptionView.pathSearch_absent hpassed]
  by_cases hend : ∃ index ∈ status.destinationPathIDs, L.getPathStatus s.stack a.associationID index = none
  · rw [if_pos hend, if_pos hend]
    rfl
  · rw [if_neg hend, if_neg hend]
    rfl

theorem leadsBy_eq_true (hL : L.PathsDocumented s.stack)
    (hstatus : L.getAssocStatus s.stack a.associationID = some status) :
    s.view.leadsBy a status d = some true ↔
      a.isShuttingDown = false ∧ d.port = status.destPort ∧ L.HasPath s.stack a.associationID status d.host := by
  unfold OptionView.leadsBy
  by_cases hport : a.isShuttingDown = false ∧ d.port = status.destPort
  · rw [if_pos (by simpa using hport)]
    by_cases hpath : L.HasPath s.stack a.associationID status d.host
    · rw [leadsBy_path hL hstatus hpath]
      simp [hport, hpath]
    · rw [leadsBy_noPath hL hstatus hpath]
      split <;> simp [hpath]
  · rw [if_neg (by simpa using hport)]
    simp only [Option.some.injEq, Bool.false_eq_true, false_iff]
    rintro ⟨hdown, hd, -⟩
    exact hport ⟨hdown, hd⟩

theorem leadsBy_eq_none (hL : L.PathsDocumented s.stack)
    (hstatus : L.getAssocStatus s.stack a.associationID = some status) :
    s.view.leadsBy a status d ≠ none ↔
      (a.isShuttingDown = false → d.port = status.destPort → L.HasPath s.stack a.associationID status d.host ∨
        ∃ index ∈ status.destinationPathIDs, L.getPathStatus s.stack a.associationID index = none) := by
  unfold OptionView.leadsBy
  by_cases hport : a.isShuttingDown = false ∧ d.port = status.destPort
  · rw [if_pos (by simpa using hport)]
    by_cases hpath : L.HasPath s.stack a.associationID status d.host
    · rw [leadsBy_path hL hstatus hpath]
      simp [hpath]
    · rw [leadsBy_noPath hL hstatus hpath]
      split
      · rename_i hend
        simp [hend]
      · rename_i hend
        simp [hport, hpath, hend]
  · rw [if_neg (by simpa using hport)]
    simp only [ne_eq, reduceCtorEq, not_false_eq_true, true_iff]
    intro hdown hd
    exact absurd ⟨hdown, hd⟩ hport

theorem matchesPending_nil : ∀ ds, SCTPSocket.matchesPending ds [] = false
  | [] => rfl
  | d :: ds => by simp [SCTPSocket.matchesPending, matchesPending_nil ds]

/-- Only the first destination address is looked up among the addresses of an association being established. -/
theorem matchesPending_iff {pending : List SocketAddress} :
    SCTPSocket.matchesPending destinations pending = true ↔ ∃ d, destinations.head? = some d ∧ d ∈ pending := by
  cases destinations with
  | nil => simp [SCTPSocket.matchesPending]
  | cons d ds => simp [SCTPSocket.matchesPending, matchesPending_nil, addressString_inj]

theorem answers_iff (hL : L.PathsDocumented s.stack)
    (hpre : a.preEstablishmentAddressList = none) (hstatus : L.getAssocStatus s.stack a.associationID = some status) :
    Search.Answers (s.view.leadsBy a status) destinations ↔ L.Searched s.stack destinations a := by
  unfold Search.Answers Sctplib.Searched
  constructor
  · intro h _ hdown status' hstatus' before d after hsplit hbefore hport
    obtain rfl : status' = status := Option.some.inj (hstatus'.symm.trans hstatus)
    refine (leadsBy_eq_none hL hstatus).mp (h before d after hsplit fun e he => ?_) hdown hport
    rw [Ne, leadsBy_eq_true hL hstatus]
    rintro ⟨-, heport, hepath⟩
    exact hbefore e he ⟨heport, hepath⟩
  · intro h before d after hsplit hbefore
    rw [leadsBy_eq_none hL hstatus]
    intro hdown hport
    refine h hpre hdown status hstatus before d after hsplit (fun e he hlead => hbefore e he ?_) hport
    rw [leadsBy_eq_true hL hstatus]
    exact ⟨hdown, hlead⟩

theorem hit_iff (hL : L.PathsDocumented s.stack)
    (hpre : a.preEstablishmentAddressList = none) (hstatus : L.getAssocStatus s.stack a.associationID = some status) :
    (∃ d ∈ destinations, s.view.leadsBy a status d = some true) ↔ L.Hit s.stack destinations a := by
  unfold Sctplib.Hit Sctplib.Leads
  simp only [hpre, hstatus, Option.some.injEq, exists_eq_left', leadsBy_eq_true hL hstatus]
  constructor
  · rintro ⟨d, hd, hdown, hlead⟩
    exact ⟨hdown, d, hd, hlead⟩
  · rintro ⟨hdown, d, hd, hlead⟩
    exact ⟨d, hd, hdown, hlead⟩

theorem leads_eq_true (hL : L.PathsDocumented s.stack) :
    s.leads destinations a = some true ↔ L.Hit s.stack destinations a ∧ L.Searched s.stack destinations a := by
  unfold Shared.leads
  cases hpre : a.preEstablishmentAddressList with
  | none =>
    cases hstatus : L.getAssocStatus s.stack a.associationID with
    | none => simp [Sctplib.Hit, Sctplib.Leads, hpre, hstatus]
    | some status =>
      dsimp only
      rw [Search.first_accepts, answers_iff hL hpre hstatus, hit_iff hL hpre hstatus]
  | some pending => simp [matchesPending_iff, Sctplib.Hit, Sctplib.Searched, hpre]

theorem leads_eq_false (hL : L.PathsDocumented s.stack) :
    s.leads destinations a = some false ↔ ¬ L.Hit s.stack destinations a ∧ L.Searched s.stack destinations a := by
  unfold Shared.leads
  cases hpre : a.preEstablishmentAddressList with
  | none =>
    cases hstatus : L.getAssocStatus s.stack a.associationID with
    | none => simp [Sctplib.Hit, Sctplib.Leads, Sctplib.Searched, hpre, hstatus]
    | some status =>
      dsimp only
      rw [Search.first_rejects, answers_iff hL hpre hstatus, ← hit_iff hL hpre hstatus]
      simp only [not_exists, not_and, ne_eq]
  | some pending => simp [← Bool.not_eq_true, matchesPending_iff, Sctplib.Hit, Sctplib.Searched, hpre]

theorem test_eq_false (hL : L.PathsDocumented s.stack) {p : AssocPtr} :
    (s.associations p).bind (s.leads destinations) = some false ↔ s.Passes destinations p := by
  rw [Option.bind_eq_some_iff]
  simp only [leads_eq_false hL]
  rfl

theorem test_eq_true (hL : L.PathsDocumented s.stack) {p : AssocPtr} :
    (s.associations p).bind (s.leads destinations) = some true ↔
      ∃ a, s.associations p = some a ∧ L.Hit s.stack destinations a ∧ L.Searched s.stack destinations a := by
  rw [Option.bind_eq_some_iff]
  simp only [leads_eq_true hL]

theorem Sctplib.Hit.leads (h : L.Hit stack destinations a) (hdown : a.isShuttingDown = false) :
    L.Leads stack destinations a := by
  unfold Sctplib.Hit at h
  cases hpre : a.preEstablishmentAddressList with
  | none => simpa only [hpre] using h
  | some pending =>
    simp only [hpre] at h
    obtain ⟨d, hd, hmem⟩ := h
    unfold Sctplib.Leads
    simp only [hpre]
    exact ⟨hdown, d, List.mem_of_mem_head? hd, hmem⟩

/-- The search does what is said about it exactly where it meets the right association first, or where it
rightly meets none. -/
theorem findAssociationForDestinationAddress_iff (hL : L.PathsDocumented w.shared.stack)
    (destinations : List SocketAddress) (list : Multimap AssocID AssocPtr) :
    FindsAssociation w destinations list ↔ w.shared.FindsFirst destinations list := by
  have hrun (found : Option AssocPtr) := (reads_findAssociation destinations list).run_iff (w := w) (a := found)
  constructor
  · rintro ⟨found, w', hok, hiff, hmatch⟩
    have hfirst := (hrun found).mp ⟨w', hok⟩
    cases found with
    | some p =>
      obtain ⟨before, after, hsplit, hbefore, hp⟩ := Search.first_eq_found.mp hfirst
      obtain ⟨a, ha, hhit, hsearched⟩ := (test_eq_true hL).mp hp
      obtain ⟨-, b, hb, hdown, -⟩ := hmatch p rfl
      obtain rfl : a = b := Option.some.inj (ha.symm.trans hb)
      exact .inl ⟨before, p, after, hsplit, fun q hq => (test_eq_false hL).mp (hbefore q hq), a, ha, hhit, hsearched, hdown⟩
    | none =>
      have hpass := Search.first_eq_absent.mp hfirst
      refine .inr fun p hp => ⟨(test_eq_false hL).mp (hpass p hp), fun a ha hlead => ?_⟩
      simpa using hiff.mpr ⟨p, hp, a, ha, hlead⟩
  · rintro (⟨before, p, after, hsplit, hbefore, a, ha, hhit, hsearched, hdown⟩ | hnone)
    · have hfirst : Search.first (fun p => (w.shared.associations p).bind (w.shared.leads destinations)) list.values =
          some (some p) := by
        refine Search.first_eq_found.mpr ⟨before, after, hsplit, fun q hq => ?_, ?_⟩
        · exact (test_eq_false hL).mpr (hbefore q hq)
        · exact (test_eq_true hL).mpr ⟨a, ha, hhit, hsearched⟩
      have hmem : p ∈ list.values := by simp [hsplit]
      obtain ⟨w', hok⟩ := (hrun (some p)).mpr hfirst
      refine ⟨some p, w', hok, ?_, fun q hq => ?_⟩
      · exact ⟨fun _ => ⟨p, hmem, a, ha, hhit.leads hdown⟩, fun _ => rfl⟩
      · obtain rfl := Option.some.inj hq
        exact ⟨hmem, a, ha, hhit.leads hdown⟩
    · have hfirst : Search.first (fun p => (w.shared.associations p).bind (w.shared.leads destinations)) list.values =
          some none := Search.first_eq_absent.mpr fun p hp => (test_eq_false hL).mpr (hnone p hp).1
      obtain ⟨w', hok⟩ := (hrun none).mpr hfirst
      refine ⟨none, w', hok, ?_, by simp⟩
      simp only [Option.isSome_none, Bool.false_eq_true, false_iff]
      rintro ⟨p, hp, a, ha, hlead⟩
      exact (hnone p hp).2 a ha hlead

/-- An association with one path, and one that is being established to two addresses. -/
def twoAddresses : World Sctplib.table where
  shared := {
    stack := upPath.shared.stack
    associations := fun p => match p with
      | 0 => some { socket := 0, associationID := 1 }
      | 1 => some {
          socket := 0
          associationID := 2
          preEstablishmentAddressList := some [⟨"10.0.0.1", 80⟩, ⟨"10.0.0.2", 80⟩] }
      | _ => none }

theorem twoAddresses_documented : Sctplib.table.PathsDocumented twoAddresses.shared.stack := by
  intro id status hstatus
  have hstatus : (if id = 1 then some upPathStatus else none) = some status := hstatus
  split at hstatus
  · rename_i hid
    obtain rfl := Option.some.inj hstatus
    subst hid
    exact ⟨upPath_exists, by decide⟩
  · cases hstatus

theorem findAssociationForDestinationAddress_iff_twoAddresses :
    FindsAssociation twoAddresses [⟨"10.0.0.2", 80⟩, ⟨"10.0.0.1", 0⟩] [(1, 0), (2, 1)] ↔
      twoAddresses.shared.FindsFirst [⟨"10.0.0.2", 80⟩, ⟨"10.0.0.1", 0⟩] [(1, 0), (2, 1)] :=
  findAssociationForDestinationAddress_iff twoAddresses_documented _ _

/-- The second destination address is compared with no address. -/
theorem second_destination_misses :
    ¬ FindsAssociation twoAddresses [⟨"10.0.0.3", 80⟩, ⟨"10.0.0.2", 80⟩] [(2, 1)] := by
  rintro ⟨found, w', hok, hiff, -⟩
  have hnone :
      SCTPSocket.findAssociationForDestinationAddress [⟨"10.0.0.3", 80⟩, ⟨"10.0.0.2", 80⟩] [(2, 1)] twoAddresses =
      .ok none twoAddresses := rfl
  obtain rfl : none = found := by
    rw [hnone] at hok
    cases hok
    rfl
  simp only [Option.isSome_none, Bool.false_eq_true, false_iff, not_exists, not_and] at hiff
  exact hiff 1 (by simp [Multimap.values]) _ rfl ⟨rfl, ⟨"10.0.0.2", 80⟩, by simp, by simp⟩

end SocketApi
