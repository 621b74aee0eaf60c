import SocketApi.Options.View
import SocketApi.Lib.Search

/-!
# The search for a path

`getPathIndexForAddress` goes through `destinationPathIDs` until it meets the address or an entry that is no
path. Only the first `numberOfDestinationPaths` entries are path IDs, so that a search for an address the
association does not have always looks behind them.
-/

namespace SocketApi

open Effect

variable {L : Sctplib} {E : Environment L} {w : World L} {id : AssocID} {status : AssociationStatus}
  {address : SocketAddress}

/-! ## Statements -/

/-- The meaningful entries of `destinationPathIDs`. -/
def AssociationStatus.pathIDs (status : AssociationStatus) : List Int :=
  status.destinationPathIDs.take status.numberOfDestinationPaths

/-- A path of the association has the address. -/
def Sctplib.HasPath (L : Sctplib) (stack : L.State) (id : AssocID) (status : AssociationStatus) (host : String) :
    Prop :=
  ∃ index ∈ status.pathIDs, ∃ path, L.getPathStatus stack id index = some path ∧ path.destinationAddress = host

/-- `sctp_getPathStatus` succeeds for exactly the IDs of existing paths. -/
def Sctplib.PathsExist (L : Sctplib) (stack : L.State) (id : AssocID) (status : AssociationStatus) : Prop :=
  ∀ index, (L.getPathStatus stack id index).isSome ↔ index ∈ status.pathIDs

/-- The search returns, with the ID of a path that has the address if there is one and with -1 otherwise. An
access behind the end of a list is undefined behaviour; the path IDs alone being enough says that no entry
behind them is looked at. -/
def FindsPath (w : World L) (id : AssocID) (status : AssociationStatus) (address : SocketAddress) : Prop :=
  ∃ index w', SCTPSocket.getPathIndexForAddress id (some address) w = .ok index w' ∧
    (∃ w'', SCTPSocket.pathSearch id address status.pathIDs w = .ok index w'') ∧
    (L.HasPath w.shared.stack id status address.host → index ∈ status.pathIDs ∧
      ∃ path, L.getPathStatus w.shared.stack id index = some path ∧ path.destinationAddress = address.host) ∧
    (¬ L.HasPath w.shared.stack id status address.host → index = -1)

/-! ## The loop -/

namespace OptionView

variable {path : Int → Option PathStatus} {ids : List Int}

theorem pathSearch_none {i : Int} (h : path i = none) : pathSearch path address (i :: ids) = some (-1) := by
  simp [pathSearch, h]

theorem pathSearch_match {i : Int} {p : PathStatus} (h : path i = some p)
    (hhost : p.destinationAddress = address.host) :
    pathSearch path address (i :: ids) = some i := by
  simp [pathSearch, h, hhost]

theorem pathSearch_pass {i : Int} {p : PathStatus} (h : path i = some p) (hhost : p.destinationAddress ≠ address.host) :
    pathSearch path address (i :: ids) = pathSearch path address ids := by
  simp [pathSearch, h, hhost.symm]

/-- The search ends at the first path with the address, whatever is behind it. -/
theorem pathSearch_found (address : SocketAddress) (h : ∃ i ∈ ids, ∃ p, path i = some p ∧ p.destinationAddress = address.host)
    (hids : ∀ i ∈ ids, (path i).isSome) :
    ∃ i ∈ ids, (∃ p, path i = some p ∧ p.destinationAddress = address.host) ∧
      ∀ rest, pathSearch path address (ids ++ rest) = some i := by
  induction ids with
  | nil => simp at h
  | cons i ids ih =>
    obtain ⟨p, hp⟩ := Option.isSome_iff_exists.mp (hids i (by simp))
    by_cases hhost : p.destinationAddress = address.host
    · exact ⟨i, by simp, ⟨p, hp, hhost⟩, fun rest => pathSearch_match hp hhost⟩
    · have hlater : ∃ j ∈ ids, ∃ q, path j = some q ∧ q.destinationAddress = address.host := by
        obtain ⟨j, hj, q, hq, hqhost⟩ := h
        rcases List.mem_cons.mp hj with rfl | hj
        · rw [hp] at hq
          obtain rfl := Option.some.inj hq
          exact absurd hqhost hhost
        · exact ⟨j, hj, q, hq, hqhost⟩
      obtain ⟨j, hj, hmatch, hsearch⟩ := ih hlater fun j hj => hids j (by simp [hj])
      refine ⟨j, by simp [hj], hmatch, fun rest => ?_⟩
      rw [List.cons_append, pathSearch_pass hp hhost]
      exact hsearch rest

/-- Where no entry has the address, the search ends at an entry that is no path, or not at all. -/
theorem pathSearch_absent (h : ∀ i ∈ ids, ∀ p, path i = some p → p.destinationAddress ≠ address.host) :
    pathSearch path address ids = if ∃ i ∈ ids, path i = none then some (-1) else none := by
  induction ids with
  | nil => simp [pathSearch]
  | cons i ids ih =>
    have ih := ih fun j hj => h j (by simp [hj])
    cases hi : path i with
    | none => simp [pathSearch_none hi, hi]
    | some p => simp [pathSearch_pass hi (h i (by simp) p hi), ih, hi]

end OptionView

/-! ## The function -/

theorem getPathIndexForAddress_eq (hstatus : L.getAssocStatus w.shared.stack id = some status) {index : Int} :
    (∃ w', SCTPSocket.getPathIndexForAddress id (some address) w = .ok index w') ↔
      OptionView.pathSearch (L.getPathStatus w.shared.stack id) address status.destinationPathIDs = some index := by
  rw [(SCTPSocket.reads_getPathIndexForAddress id (some address)).run_iff]
  have hview : w.shared.view.status id = some status := hstatus
  simp only [OptionView.pathIndex, hview]
  rfl

theorem pathSearch_within {index : Int} :
    (∃ w', SCTPSocket.pathSearch id address status.pathIDs w = .ok index w') ↔
      OptionView.pathSearch (L.getPathStatus w.shared.stack id) address status.pathIDs = some index := by
  rw [(SCTPSocket.reads_pathSearch id address status.pathIDs).run_iff]
  rfl

/-- A path search does what is said about it exactly for the addresses of the association's paths. -/
theorem getPathIndexForAddress_iff (hstatus : L.getAssocStatus w.shared.stack id = some status)
    (hpaths : L.PathsExist w.shared.stack id status) (address : SocketAddress) :
    FindsPath w id status address ↔ L.HasPath w.shared.stack id status address.host := by
  have hids : ∀ i ∈ status.pathIDs, (L.getPathStatus w.shared.stack id i).isSome := fun i hi => (hpaths i).mpr hi
  constructor
  · rintro ⟨index, w', -, hwithin, -⟩
    by_contra habsent
    -- Every path ID is passed, so that the search comes to the first entry behind them.
    have hpassed : ∀ i ∈ status.pathIDs, ∀ p, L.getPathStatus w.shared.stack id i = some p →
        p.destinationAddress ≠ address.host := fun i hi p hp hhost => habsent ⟨i, hi, p, hp, hhost⟩
    rw [pathSearch_within, OptionView.pathSearch_absent hpassed, if_neg] at hwithin
    · cases hwithin
    · rintro ⟨i, hi, hnone⟩
      simpa [hnone] using hids i hi
  · intro h
    obtain ⟨index, hindex, hmatch, hsearch⟩ := OptionView.pathSearch_found address h hids
    have hall :
        OptionView.pathSearch (L.getPathStatus w.shared.stack id) address status.destinationPathIDs = some index := by
      rw [← hsearch (status.destinationPathIDs.drop status.numberOfDestinationPaths)]
      unfold AssociationStatus.pathIDs
      rw [List.take_append_drop]
    obtain ⟨w', hrun⟩ := (getPathIndexForAddress_eq hstatus).mpr hall
    refine ⟨index, w', hrun, ?_, fun _ => ⟨hindex, hmatch⟩, fun habsent => absurd h habsent⟩
    rw [pathSearch_within]
    simpa using hsearch []

/-- An association with one path, whose ID fills the array. -/
def upPathStatus : AssociationStatus := { numberOfDestinationPaths := 1, destinationPathIDs := [0] }

def upPath : World Sctplib.table where
  shared := { stack := {
    status := fun id => if id = 1 then some upPathStatus else none
    defaults := fun _ => none
    path := fun id index => if id = 1 ∧ index = 0 then some { destinationAddress := "10.0.0.1" } else none
    primary := fun _ => 0 } }

theorem upPath_exists : Sctplib.table.PathsExist upPath.shared.stack 1 upPathStatus := by
  intro index
  show (if 1 = 1 ∧ index = 0 then some _ else none : Option PathStatus).isSome ↔ index ∈ [0]
  by_cases h : index = 0 <;> simp [h]

theorem getPathIndexForAddress_iff_upPath :
    FindsPath upPath 1 upPathStatus ⟨"10.0.0.1", 0⟩ ↔
      Sctplib.table.HasPath upPath.shared.stack 1 upPathStatus "10.0.0.1" :=
  getPathIndexForAddress_iff rfl upPath_exists ⟨"10.0.0.1", 0⟩

/-- The search for another address reads behind the array. -/
theorem path_search_overruns : ¬ FindsPath upPath 1 upPathStatus ⟨"10.0.0.2", 0⟩ := by
  rintro ⟨index, w', hrun, -⟩
  have hstop : SCTPSocket.getPathIndexForAddress 1 (some ⟨"10.0.0.2", 0⟩) upPath =
      .error .undefinedBehaviour upPath := rfl
  rw [hstop] at hrun
  cases hrun

end SocketApi
