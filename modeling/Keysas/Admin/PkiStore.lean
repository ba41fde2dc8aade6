import Mathlib.Data.List.TakeWhile
import Keysas.Pki.CertificateFields
import Keysas.Runs.TracedProgram
import Keysas.Store.RowTable

/-!
# The store of the PKI configuration

The administration application keeps the configuration of its PKI in a table of a database, under
the name of the organisation: `setPkiConfig` replaces a row, `dropPki` makes the table anew, and
`getPkiDir` and `getPkiInfo` go through all rows.

`gettersAgree_iff` says when the two getters give what was set last. A row that was set for another
organisation stays in the table. `getPkiInfo` overwrites it by the rows after it, but `getPkiDir`
puts the directories of all rows one behind the other.
-/

set_option autoImplicit false
set_option relaxedAutoImplicit false

namespace Keysas.Admin

open Pki Runs RustStd Store

/-! ### Rows -/

/-- A row of `ca_table`, as `set_pki_config` writes it: the columns `name` and `org_name` are
both the organisation. -/
structure CaRow where
  directory : String
  orgName : String
  orgUnit : String
  country : String
  validity : UInt32
  deriving DecidableEq

/-- The row of a configuration. -/
def CaRow.of (pkiDir : String) (infos : CertificateFields) : CaRow where
  directory := pkiDir
  orgName := infos.orgName.getD ""
  orgUnit := infos.orgUnit.getD ""
  country := infos.country.getD ""
  validity := infos.validity.getD 0

/-- `ca_table`: the primary key is the organisation. -/
abbrev CaTable := RowTable CaRow.orgName

/-- A text as it comes out of a C string, which ends before its first zero. -/
def cText (text : String) : String :=
  String.ofList (text.toList.takeWhile fun character ↦ character ≠ '\x00')

/-- The columns of a row with their names. The validity is stored in decimal digits. -/
def CaRow.pairs (row : CaRow) : List (String × String) :=
  [("name", cText row.orgName), ("directory", cText row.directory),
    ("org_name", cText row.orgName), ("org_unit", cText row.orgUnit),
    ("country", cText row.country), ("validity", cText row.validity.toNat.repr)]

/-! ### The store -/

/-- The handle of the database and what is in it: there may be no table. -/
structure PkiStore where
  connected : Bool
  caTable : Option CaTable

/-- The errors of the store. -/
inductive StoreError where
  /-- "Store is not initialized". -/
  | notInitialized
  /-- A statement of SQL failed. -/
  | sqlite
  /-- "Failed to connect to the database". -/
  | connect
  /-- "Failed to initialize database". -/
  | initialization
  deriving DecidableEq

/-- Which of the calls of a run into the database succeed. -/
structure SqliteCalls where
  opens : Bool
  creates : Bool
  drops : Bool
  replaces : Bool

/-- Calls that succeed. -/
def SqliteCalls.succeeding : SqliteCalls :=
  ⟨true, true, true, true⟩

section Operations

variable {ε : Type} (calls : SqliteCalls)

/-- `init_store`. -/
def initStore : Program ε PkiStore StoreError Unit := do
  let store ← .get
  if store.connected then return
  .require calls.opens .connect
  .require calls.creates .initialization
  .modify fun store ↦ ⟨true, some (store.caTable.getD (.empty _))⟩

/-- `drop_pki`: the statement that drops the table and the one that creates it. -/
def dropPki : Program ε PkiStore StoreError Unit := do
  let store ← .get
  .require store.connected .notInitialized
  .require (store.caTable.isSome && calls.drops) .sqlite
  .modify fun store ↦ { store with caTable := none }
  .require calls.creates .sqlite
  .modify fun store ↦ { store with caTable := some (.empty _) }

/-- `set_pki_config`. -/
def setPkiConfig (pkiDir : String) (infos : CertificateFields) :
    Program ε PkiStore StoreError Unit := do
  let store ← .get
  .require store.connected .notInitialized
  .require (store.caTable.isSome && calls.replaces) .sqlite
  .modify fun store ↦
    { store with caTable := store.caTable.map fun table ↦ table.replace (.of pkiDir infos) }

end Operations

/-! ### What the calls do -/

/-- A statement on the table does not run, and changes nothing, when the store is not connected or
has no table, or when the statement fails. -/
theorem exists_run_of_refused {ε : Type} {store : PkiStore} {succeeds : Bool}
    (hrefused : ¬ (store.connected = true ∧ (store.caTable.isSome && succeeds) = true))
    (next : Unit → Program ε PkiStore StoreError Unit) :
    ∃ error, ((Program.require store.connected .notInitialized >>= fun _ ↦
        Program.require (store.caTable.isSome && succeeds) .sqlite >>= next) :
      Program ε PkiStore StoreError Unit).run store = ⟨[], store, .error error⟩ := by
  rw [Program.run_require_bind]
  by_cases hconnected : store.connected = true
  · have hfails : ¬ (store.caTable.isSome && succeeds) = true :=
      fun hsucceeds ↦ hrefused ⟨hconnected, hsucceeds⟩
    rw [if_pos hconnected, Program.run_require_bind, if_neg hfails]
    exact ⟨_, rfl⟩
  · rw [if_neg hconnected]
    exact ⟨_, rfl⟩

/-- A statement on the table runs in a connected store with a table only. -/
theorem exists_table_of_runs {store : PkiStore} {succeeds : Bool}
    (hruns : store.connected = true ∧ (store.caTable.isSome && succeeds) = true) :
    ∃ table, store = ⟨true, some table⟩ := by
  rcases store with ⟨connected, _ | table⟩
  · exact absurd hruns.2 (by simp)
  · exact ⟨table, by rw [show connected = true from hruns.1]⟩

/-- The configuration is dropped when there is a table and the statement succeeds. -/
def PkiStore.Droppable (store : PkiStore) (calls : SqliteCalls) : Prop :=
  store.connected = true ∧ (store.caTable.isSome && calls.drops) = true

theorem run_dropPki {ε : Type} {calls : SqliteCalls} {store : PkiStore}
    (hdroppable : store.Droppable calls) :
    (dropPki calls : Program ε PkiStore StoreError Unit).run store =
      if calls.creates then ⟨[], ⟨true, some (.empty _)⟩, .ok ()⟩
      else ⟨[], ⟨true, none⟩, .error .sqlite⟩ := by
  obtain ⟨hconnected, hdrops⟩ := hdroppable
  rw [dropPki, Program.run_get_bind, Program.run_require_bind, if_pos hconnected,
    Program.run_require_bind, if_pos hdrops, Program.run_modify_bind, Program.run_require_bind,
    Program.run_modify, hconnected]

/-- A call that does not drop the configuration changes nothing. -/
theorem exists_run_dropPki {ε : Type} {calls : SqliteCalls} {store : PkiStore}
    (hdroppable : ¬ store.Droppable calls) :
    ∃ error, (dropPki calls : Program ε PkiStore StoreError Unit).run store =
      ⟨[], store, .error error⟩ := by
  rw [dropPki, Program.run_get_bind]
  exact exists_run_of_refused hdroppable _

/-- The configuration is written when there is a table and the statement succeeds. -/
def PkiStore.Writable (store : PkiStore) (calls : SqliteCalls) : Prop :=
  store.connected = true ∧ (store.caTable.isSome && calls.replaces) = true

/-- A call that does not write the configuration changes nothing. -/
theorem exists_run_setPkiConfig {ε : Type} {calls : SqliteCalls} {store : PkiStore}
    (hwritable : ¬ store.Writable calls) (pkiDir : String) (infos : CertificateFields) :
    ∃ error, (setPkiConfig calls pkiDir infos : Program ε PkiStore StoreError Unit).run store =
      ⟨[], store, .error error⟩ := by
  rw [setPkiConfig, Program.run_get_bind]
  exact exists_run_of_refused hwritable _

theorem run_setPkiConfig {ε : Type} {calls : SqliteCalls} (pkiDir : String)
    (infos : CertificateFields) (table : CaTable) :
    (setPkiConfig calls pkiDir infos : Program ε PkiStore StoreError Unit).run
        ⟨true, some table⟩ =
      if calls.replaces then ⟨[], ⟨true, some (table.replace (.of pkiDir infos))⟩, .ok ()⟩
      else ⟨[], ⟨true, some table⟩, .error .sqlite⟩ := by
  rw [setPkiConfig, Program.run_get_bind, Program.run_require_bind, if_pos rfl,
    Program.run_require_bind]
  rfl

/-! ### The getters -/

/-- The rows that `SELECT * FROM ca_table` goes through. -/
def PkiStore.selectRows (store : PkiStore) : Except StoreError (List CaRow) :=
  if store.connected then okOr (store.caTable.map RowTable.rows) .sqlite else .error .notInitialized

/-- What `get_pki_dir` has after a row. -/
def readDirectory (result : String) (row : CaRow) : String :=
  row.pairs.foldl (fun result pair ↦ if pair.1 = "directory" then result ++ pair.2 else result)
    result

/-- `get_pki_dir`. -/
def getPkiDir (store : PkiStore) : Except StoreError String := do
  let rows ← store.selectRows
  return rows.foldl readDirectory ""

/-- What `get_pki_info` has after some columns of a row. A validity that is not a number ends the
row. -/
def readPairs (result : CertificateFields) : List (String × String) → CertificateFields
  | [] => result
  | (param, value) :: rest =>
    if param = "org_name" then readPairs { result with orgName := some value } rest
    else if param = "org_unit" then readPairs { result with orgUnit := some value } rest
    else if param = "country" then readPairs { result with country := some value } rest
    else if param = "validity" then
      match parseU32 value with
      | some number => readPairs { result with validity := some number } rest
      | none => result
    else readPairs result rest

/-- `get_pki_info`. -/
def getPkiInfo (store : PkiStore) : Except StoreError CertificateFields := do
  let rows ← store.selectRows
  return rows.foldl (fun result row ↦ readPairs result row.pairs) ⟨none, none, none, none, none⟩

/-- What is seen of the configuration. -/
def PkiStore.observed (store : PkiStore) :
    Except StoreError String × Except StoreError CertificateFields :=
  (getPkiDir store, getPkiInfo store)

/-! ### What the getters read -/

theorem cText_eq_self_iff {text : String} : cText text = text ↔ '\x00' ∉ text.toList := by
  rw [cText, ← String.toList_inj, String.toList_ofList, List.takeWhile_eq_self_iff]
  constructor
  · intro hall hzero
    exact absurd (hall _ hzero) (by decide)
  · intro hzero character hmem
    refine decide_eq_true fun hnul ↦ ?_
    rw [hnul] at hmem
    exact hzero hmem

theorem zero_not_mem_cText (text : String) : '\x00' ∉ (cText text).toList := by
  intro hzero
  rw [cText, String.toList_ofList] at hzero
  exact absurd (List.mem_takeWhile_imp hzero) (by decide)

/-- The digits of a number have no zero character. -/
theorem cText_repr (value : ℕ) : cText value.repr = value.repr := by
  rw [cText_eq_self_iff, Nat.toList_repr]
  intro hzero
  exact absurd (Nat.isDigit_of_mem_toDigits (by decide) (by decide) hzero) (by decide)

/-- The fields that are read from a row. -/
def CaRow.infos (row : CaRow) : CertificateFields where
  orgName := some (cText row.orgName)
  orgUnit := some (cText row.orgUnit)
  country := some (cText row.country)
  commonName := none
  validity := some row.validity

theorem readPairs_pairs {result : CertificateFields} (hname : result.commonName = none)
    (row : CaRow) : readPairs result row.pairs = row.infos := by
  have hvalidity : parseU32 (cText row.validity.toNat.repr) = some row.validity := by
    rw [cText_repr, parseU32_repr]
  simp [CaRow.pairs, readPairs, hvalidity, CaRow.infos, hname]

/-- The directories of some rows, one behind the other. -/
def directories (rows : List CaRow) : String :=
  String.join (rows.map fun row ↦ cText row.directory)

theorem foldl_readDirectory (rows : List CaRow) :
    rows.foldl readDirectory "" = directories rows := by
  rw [directories, String.join_eq_foldl, List.foldl_map]
  rfl

/-- The fields that are read from some rows are those of the last row. -/
theorem foldl_readPairs (rows : List CaRow) :
    rows.foldl (fun result row ↦ readPairs result row.pairs) ⟨none, none, none, none, none⟩ =
      (rows.getLast?.map CaRow.infos).getD ⟨none, none, none, none, none⟩ := by
  have hname : ∀ fields : CertificateFields, fields = ⟨none, none, none, none, none⟩ ∨
      (∃ row : CaRow, fields = row.infos) → fields.commonName = none := by
    rintro fields (rfl | ⟨row, rfl⟩)
    · rfl
    · rfl
  induction rows using List.reverseRecOn with
  | nil => rfl
  | append_singleton rows row ih =>
    rw [List.foldl_append, List.foldl_cons, List.foldl_nil, ih, List.getLast?_concat,
      Option.map_some, Option.getD_some]
    refine readPairs_pairs (hname _ ?_) row
    cases rows.getLast? with
    | none => exact .inl rfl
    | some last => exact .inr ⟨last, rfl⟩

theorem getPkiDir_connected (table : CaTable) :
    getPkiDir ⟨true, some table⟩ = .ok (directories table.rows) :=
  congrArg Except.ok (foldl_readDirectory table.rows)

theorem getPkiInfo_connected (table : CaTable) :
    getPkiInfo ⟨true, some table⟩ =
      .ok ((table.rows.getLast?.map CaRow.infos).getD ⟨none, none, none, none, none⟩) :=
  congrArg Except.ok (foldl_readPairs table.rows)

theorem directories_append (first second : List CaRow) :
    directories (first ++ second) = directories first ++ directories second := by
  rw [directories, List.map_append, String.join_append]
  rfl

theorem zero_not_mem_directories (rows : List CaRow) : '\x00' ∉ (directories rows).toList := by
  rw [directories, String.toList_join, List.mem_flatMap]
  rintro ⟨text, htext, hzero⟩
  obtain ⟨row, -, rfl⟩ := List.mem_map.mp htext
  exact zero_not_mem_cText row.directory hzero

theorem directories_eq_empty_iff {rows : List CaRow} :
    directories rows = "" ↔ ∀ row ∈ rows, cText row.directory = "" := by
  rw [directories, ← String.toList_inj, String.toList_join, String.toList_empty,
    List.flatMap_eq_nil_iff, List.forall_mem_map]
  simp only [String.toList_eq_nil_iff]

/-- The directories end with that of the last row, and nothing stands before it exactly when it is
the text. -/
theorem directories_concat_eq_iff {rows : List CaRow} {row : CaRow} :
    directories (rows ++ [row]) = row.directory ↔
      directories rows = "" ∧ '\x00' ∉ row.directory.toList := by
  have hsingle : directories [row] = cText row.directory := by
    rw [directories, List.map_singleton, String.join_cons, String.join_nil, String.append_empty]
  rw [directories_append, hsingle]
  constructor
  · intro hsame
    have hzero : '\x00' ∉ row.directory.toList := by
      rw [← hsame, String.toList_append, List.mem_append]
      rintro (hfront | hlast)
      · exact zero_not_mem_directories rows hfront
      · exact zero_not_mem_cText row.directory hlast
    rw [cText_eq_self_iff.mpr hzero] at hsame
    exact ⟨String.append_eq_right_iff.mp hsame, hzero⟩
  · rintro ⟨hnone, hzero⟩
    rw [hnone, cText_eq_self_iff.mpr hzero, String.empty_append]

/-! ### Sequences of calls -/

/-- The calls that change the configuration. -/
inductive PkiCall where
  | setPkiConfig (pkiDir : String) (infos : CertificateFields)
  | dropPki

/-- The program of a call, with a database that works. -/
def PkiCall.program : PkiCall → Program Empty PkiStore StoreError Unit
  | .setPkiConfig pkiDir infos => Admin.setPkiConfig .succeeding pkiDir infos
  | .dropPki => Admin.dropPki .succeeding

/-- The store after some calls on a new database. -/
def afterCalls (calls : List PkiCall) : PkiStore :=
  calls.foldl (fun store call ↦ (call.program.run store).state) ⟨true, some (.empty _)⟩

/-- The table with some rows written to it. -/
def tableOf (rows : List CaRow) : CaTable :=
  (RowTable.empty _).replaceAll rows

/-- The last configuration that is set and not dropped after it. -/
def lastConfig (calls : List PkiCall) : Option (String × CertificateFields) :=
  calls.foldl (fun _ call ↦
    match call with
    | .setPkiConfig pkiDir infos => some (pkiDir, infos)
    | .dropPki => none) none

/-- The rows that are written since the last `drop_pki`, oldest first. -/
def writtenRows (calls : List PkiCall) : List CaRow :=
  calls.foldl (fun rows call ↦
    match call with
    | .setPkiConfig pkiDir infos => rows ++ [.of pkiDir infos]
    | .dropPki => []) []

/-- The fields of a configuration, with empty texts and a zero where there are none. -/
def filled (infos : CertificateFields) : CertificateFields where
  orgName := some (infos.orgName.getD "")
  orgUnit := some (infos.orgUnit.getD "")
  country := some (infos.country.getD "")
  commonName := none
  validity := some (infos.validity.getD 0)

/-- The getters give the last configuration that is set and not dropped. -/
def GettersAgree (calls : List PkiCall) : Prop :=
  (afterCalls calls).observed =
    match lastConfig calls with
    | some (pkiDir, infos) => (.ok pkiDir, .ok (filled infos))
    | none => (.ok "", .ok ⟨none, none, none, none, none⟩)

/-- No text of a row has a zero character. -/
def CaRow.ZeroFree (row : CaRow) : Prop :=
  ∀ text ∈ [row.directory, row.orgName, row.orgUnit, row.country], '\x00' ∉ text.toList

/-- The last directory of every other organisation is empty, and the texts that are set last have
no zero character. -/
def NothingLeftOver (calls : List PkiCall) : Prop :=
  ∀ pkiDir infos, lastConfig calls = some (pkiDir, infos) →
    (CaRow.of pkiDir infos).ZeroFree ∧
      ∀ row, lastWrite ((writtenRows calls).map fun row ↦ (row.orgName, row)) row.orgName =
          some row →
        row.orgName ≠ (CaRow.of pkiDir infos).orgName → cText row.directory = ""

theorem writtenRows_concat (calls : List PkiCall) (call : PkiCall) :
    writtenRows (calls ++ [call]) =
      match call with
      | .setPkiConfig pkiDir infos => writtenRows calls ++ [.of pkiDir infos]
      | .dropPki => [] := by
  simp only [writtenRows, List.foldl_append, List.foldl_cons, List.foldl_nil]

theorem lastConfig_concat (calls : List PkiCall) (call : PkiCall) :
    lastConfig (calls ++ [call]) =
      match call with
      | .setPkiConfig pkiDir infos => some (pkiDir, infos)
      | .dropPki => none := by
  simp only [lastConfig, List.foldl_append, List.foldl_cons, List.foldl_nil]

/-- The table has the rows that are written since the last `drop_pki`. -/
theorem afterCalls_eq (calls : List PkiCall) :
    afterCalls calls = ⟨true, some (tableOf (writtenRows calls))⟩ := by
  induction calls using List.reverseRecOn with
  | nil => rfl
  | append_singleton calls call ih =>
    have hstep : afterCalls (calls ++ [call]) = (call.program.run (afterCalls calls)).state := by
      simp only [afterCalls, List.foldl_append, List.foldl_cons, List.foldl_nil]
    rw [hstep, ih, writtenRows_concat]
    cases call with
    | setPkiConfig pkiDir infos =>
      simp only [tableOf, RowTable.replaceAll, List.foldl_append, List.foldl_cons, List.foldl_nil]
      rfl
    | dropPki => rfl

/-- The last row that is written is that of the last configuration. -/
theorem writtenRows_of_lastConfig (calls : List PkiCall) :
    match lastConfig calls with
    | some (pkiDir, infos) => ∃ front, writtenRows calls = front ++ [.of pkiDir infos]
    | none => writtenRows calls = [] := by
  induction calls using List.reverseRecOn with
  | nil => rfl
  | append_singleton calls call ih =>
    rw [lastConfig_concat, writtenRows_concat]
    cases call with
    | setPkiConfig pkiDir infos => exact ⟨writtenRows calls, rfl⟩
    | dropPki => rfl

/-- The fields are read back exactly when their texts have no zero character. -/
theorem infos_of_eq_filled_iff {pkiDir : String} {infos : CertificateFields} :
    (CaRow.of pkiDir infos).infos = filled infos ↔
      ∀ text ∈ [infos.orgName.getD "", infos.orgUnit.getD "", infos.country.getD ""],
        '\x00' ∉ text.toList := by
  simp [CaRow.infos, filled, CaRow.of, cText_eq_self_iff]

/-- The last row that is written stands behind the rows of the other organisations. -/
theorem rows_tableOf_concat (front : List CaRow) (row : CaRow) :
    (tableOf (front ++ [row])).rows = (tableOf front).others row ++ [row] := by
  simp only [tableOf, RowTable.replaceAll, List.foldl_append, List.foldl_cons, List.foldl_nil]
  rfl

/-- The rows of the other organisations have no directory exactly when the last one that is written
for each of them is empty. -/
theorem directories_others_eq_empty_iff (front : List CaRow) (last : CaRow) :
    directories ((tableOf front).others last) = "" ↔
      ∀ row, lastWrite ((front ++ [last]).map fun row ↦ (row.orgName, row)) row.orgName =
          some row →
        row.orgName ≠ last.orgName → cText row.directory = "" := by
  rw [directories_eq_empty_iff]
  refine forall_congr' fun row ↦ ?_
  rw [RowTable.mem_others_iff, and_imp, tableOf, RowTable.mem_rows_replaceAll_iff, List.map_append,
    List.map_singleton, lastWrite_append, lastWrite_singleton]
  by_cases hkey : last.orgName = row.orgName
  · exact iff_of_true (fun _ hother ↦ absurd hkey.symm hother)
      (fun _ hother ↦ absurd hkey.symm hother)
  · rw [if_neg hkey, Option.none_or]

/-- The getters give the last configuration exactly when the last directory of every other
organisation is empty and the texts that are set last have no zero character. -/
theorem gettersAgree_iff (calls : List PkiCall) : GettersAgree calls ↔ NothingLeftOver calls := by
  have hwritten := writtenRows_of_lastConfig calls
  unfold GettersAgree NothingLeftOver
  rcases hlast : lastConfig calls with _ | ⟨pkiDir, infos⟩
  · rw [hlast] at hwritten
    refine iff_of_true ?_ nofun
    rw [afterCalls_eq, hwritten]
    rfl
  rw [hlast] at hwritten
  obtain ⟨front, hfront⟩ := hwritten
  have hdir : directories ((tableOf front).others (.of pkiDir infos) ++ [.of pkiDir infos]) =
      pkiDir ↔ directories ((tableOf front).others (.of pkiDir infos)) = "" ∧
        '\x00' ∉ pkiDir.toList := directories_concat_eq_iff
  have hzero : (CaRow.of pkiDir infos).ZeroFree ↔ '\x00' ∉ pkiDir.toList ∧
      ∀ text ∈ [infos.orgName.getD "", infos.orgUnit.getD "", infos.country.getD ""],
        '\x00' ∉ text.toList := List.forall_mem_cons
  rw [afterCalls_eq, hfront, PkiStore.observed, getPkiDir_connected, getPkiInfo_connected,
    rows_tableOf_concat, List.getLast?_concat, Option.map_some, Option.getD_some, Prod.mk.injEq,
    Except.ok.injEq, Except.ok.injEq, hdir, infos_of_eq_filled_iff,
    directories_others_eq_empty_iff, and_assoc, ← hzero]
  constructor
  · rintro ⟨hothers, hfree⟩
    intro pkiDir infos hsame
    obtain ⟨rfl, rfl⟩ := Prod.mk.inj (Option.some.inj hsame)
    exact ⟨hfree, hothers⟩
  · intro hnothing
    obtain ⟨hfree, hothers⟩ := hnothing pkiDir infos rfl
    exact ⟨hothers, hfree⟩

/-- A configuration for an organisation. -/
def sampleInfos (orgName : String) : CertificateFields :=
  ⟨some orgName, some "Lab", some "FR", none, some 365⟩

/-- With two organisations, the directory that is read is both directories. -/
theorem not_gettersAgree_two :
    ¬ GettersAgree [.setPkiConfig "/first" (sampleInfos "A"),
      .setPkiConfig "/second" (sampleInfos "B")] := by
  intro hagree
  have hdir := congrArg Prod.fst hagree
  have hboth : getPkiDir (afterCalls [.setPkiConfig "/first" (sampleInfos "A"),
      .setPkiConfig "/second" (sampleInfos "B")]) = .ok "/first/second" := by
    decide +kernel
  rw [PkiStore.observed, hboth] at hdir
  exact absurd hdir (by decide)

end Keysas.Admin
