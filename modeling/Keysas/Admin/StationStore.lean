import Keysas.Admin.PkiStore
import Keysas.Rust.JsonWriter
import Keysas.Runs.HistoryRun

/-!
# The store of the stations

The administration application keeps the addresses of the stations in a table of its database.
`save_station` replaces the row with the name of a station, `remove_station` deletes it, and any of
these calls may fail. The database outlives the application, so that a run starts with any table.

`stations_of_run` says that the table is what the calls that succeeded have made of it: the address
of a station is the one that was saved last and not removed since, and the list has each of these
stations once.
-/

set_option autoImplicit false
set_option relaxedAutoImplicit false

namespace Keysas.Admin

open Runs Store SerdeJson

/-! ### The table -/

/-- A row of `station_table`. -/
structure SavedStation where
  name : String
  ip : String
  deriving DecidableEq

/-- `station_table`: the primary key is the name. -/
abbrev StationTable := RowTable SavedStation.name

/-- The handle of the database and the table. -/
structure StationStore where
  connected : Bool
  stationTable : StationTable

/-! ### The calls -/

/-- What changes the store, with whether the calls into the database succeed. -/
inductive StationCall where
  | initStore (opens : Bool)
  | saveStation (name ip : String) (runs : Bool)
  | removeStation (name : String) (runs : Bool)

/-- `set_station`. -/
def StationStore.setStation (store : StationStore) (name ip : String) (runs : Bool) :
    StationStore × Bool :=
  if store.connected && runs then
    ({ store with stationTable := store.stationTable.replace ⟨name, ip⟩ }, true)
  else (store, false)

/-- `delete_station`. -/
def StationStore.deleteStation (store : StationStore) (name : String) (runs : Bool) :
    StationStore × Bool :=
  if store.connected && runs then
    ({ store with stationTable := store.stationTable.delete name }, true)
  else (store, false)

/-- One call, with whether it succeeds. -/
def stationStoreStep (store : StationStore) : StationCall → StationStore × Bool
  | .initStore opens =>
    ({ store with connected := store.connected || opens }, store.connected || opens)
  | .saveStation name ip runs => store.setStation name ip runs
  | .removeStation name runs => store.deleteStation name runs

/-- `get_station_ip`: the address in the last row that the query finds, unless it is empty. -/
def StationStore.getStationIp (store : StationStore) (name : String) (runs : Bool) :
    Option String :=
  if store.connected && runs then
    let found := store.stationTable.rows.filter fun row ↦ row.name = name
    let result := found.foldl (fun _ row ↦ cText row.ip) ""
    if result = "" then none else some result
  else none

/-- `Station` as JSON. -/
def SavedStation.serialize (row : SavedStation) : Json :=
  structObject ["name", "ip"] [.string (some (cText row.name)), .string (some (cText row.ip))]

/-- `list_stations`. -/
def StationStore.listStations (store : StationStore) (runs : Bool) : Option String :=
  if store.connected && runs then
    some (toText (.array (store.stationTable.rows.map SavedStation.serialize)))
  else none

/-! ### What was saved -/

/-- What a call does to the entry of a name, when it succeeds. -/
def changeOf : StationCall × Bool → Option (String × Option SavedStation)
  | (.saveStation name ip _, true) => some (name, some ⟨name, ip⟩)
  | (.removeStation name _, true) => some (name, none)
  | _ => none

/-- What the calls of a history that succeeded have made of the entry of a name. -/
def lastSaved (table : StationTable) (history : List (StationCall × Bool)) (name : String) :
    Option SavedStation :=
  (lastWrite (history.filterMap changeOf) name).getD (table.row name)

/-- The getters, when their queries run, give these stations: the address of each unless it is
empty, and a list that has each of them once. -/
def StationStore.Gives (store : StationStore) (saved : String → Option SavedStation) : Prop :=
  (∀ name, store.getStationIp name true =
    if store.connected then
      (saved name).bind fun row ↦ if cText row.ip = "" then none else some (cText row.ip)
    else none) ∧
  ∃ listed : List SavedStation, (listed.map SavedStation.name).Nodup ∧
    (∀ row, row ∈ listed ↔ saved row.name = some row) ∧
    store.listStations true =
      if store.connected then some (toText (.array (listed.map SavedStation.serialize))) else none

theorem lastSaved_concat (table : StationTable) (history : List (StationCall × Bool))
    (entry : StationCall × Bool) (name : String) :
    lastSaved table (history ++ [entry]) name =
      match changeOf entry with
      | none => lastSaved table history name
      | some change =>
        if change.1 = name then change.2 else lastSaved table history name := by
  unfold lastSaved
  rw [List.filterMap_append]
  cases hchange : changeOf entry with
  | none => rw [List.filterMap_cons_none hchange, List.filterMap_nil, List.append_nil]
  | some change =>
    rw [List.filterMap_cons_some hchange, List.filterMap_nil, lastWrite_append,
      lastWrite_singleton]
    dsimp only
    split_ifs
    · rfl
    · rw [Option.none_or]

/-- A call changes the entry that it is about. -/
theorem row_stationStoreStep (store : StationStore) (call : StationCall) (name : String) :
    (stationStoreStep store call).1.stationTable.row name =
      match changeOf (call, (stationStoreStep store call).2) with
      | none => store.stationTable.row name
      | some change => if change.1 = name then change.2 else store.stationTable.row name := by
  cases call with
  | initStore opens => rfl
  | saveStation saved ip runs =>
    unfold stationStoreStep StationStore.setStation
    by_cases hruns : (store.connected && runs) = true
    · simp only [if_pos hruns]
      exact RowTable.row_replace store.stationTable ⟨saved, ip⟩ name
    · simp only [if_neg hruns]
      rfl
  | removeStation removed runs =>
    unfold stationStoreStep StationStore.deleteStation
    by_cases hruns : (store.connected && runs) = true
    · simp only [if_pos hruns]
      exact RowTable.row_delete store.stationTable removed name
    · simp only [if_neg hruns]
      rfl

section Runs

variable {table : StationTable}
  {guard : List (StationCall × Bool) → StationStore → StationCall → Prop}
  {history : List (StationCall × Bool)} {store : StationStore}

theorem row_of_run (hrun : Run stationStoreStep guard ⟨false, table⟩ history store)
    (name : String) : store.stationTable.row name = lastSaved table history name := by
  refine @Run.invariant _ _ _ stationStoreStep guard ⟨false, table⟩
    (fun history store ↦ store.stationTable.row name = lastSaved table history name) rfl ?_ _ _ hrun
  intro history store call _ hrow _
  rw [row_stationStoreStep, lastSaved_concat, hrow]

/-- At the end of every run the getters give what was saved. -/
theorem stations_of_run (hrun : Run stationStoreStep guard ⟨false, table⟩ history store) :
    store.Gives (lastSaved table history) := by
  constructor
  · intro name
    unfold StationStore.getStationIp
    rw [Bool.and_true]
    split
    · rw [store.stationTable.filter_eq_row, row_of_run hrun]
      cases lastSaved table history name with
      | none => rfl
      | some row => rfl
    · rfl
  · refine ⟨store.stationTable.rows, store.stationTable.nodup, fun row ↦ ?_, ?_⟩
    · rw [← row_of_run hrun, RowTable.row_eq_some_iff]
      exact (and_iff_left rfl).symm
    · rw [StationStore.listStations, Bool.and_true]

/-- A station is saved twice, the second time in vain, and another one is saved and removed. -/
def savedCalls : List StationCall :=
  [.initStore true, .saveStation "gate" "10.0.0.1" true, .saveStation "gate" "10.0.0.2" false,
    .saveStation "hall" "10.0.0.3" true, .removeStation "hall" true]

theorem stations_of_run_saved :
    let after := execute stationStoreStep ⟨false, .empty _⟩ savedCalls
    after.2.Gives (lastSaved (.empty _) after.1) :=
  @stations_of_run _ (fun _ _ _ ↦ True) _ _
    (run_execute _ ⟨trivial, trivial, trivial, trivial, trivial, trivial⟩)

end Runs

end Keysas.Admin
