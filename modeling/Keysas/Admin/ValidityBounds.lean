import Keysas.Admin.PkiRoundTrip
import Keysas.Pki.FieldBounds
import Keysas.Runs.HistoryRun

/-!
# The seconds of a validity

`constructTbsCertificate` turns the days of a validity into seconds with products of 32 bits. The
fields come from a user, for a PKI that is generated, or from the store, where a generation or a
restoration has put them. `fromFields` refuses a validity whose seconds do not fit, and a
restoration takes the days of whatever certificate the root has.

`forall_passesExact_iff_admits` says for which requests no product overflows: each restoration that
stores a validity is of a root that is valid for at most 49710 days.
-/

set_option autoImplicit false
set_option relaxedAutoImplicit false

namespace Keysas.Admin

open Crypto Keys Pki Runs RustStd Store

open Reports hiding HybridKeyPair

/-! ### Products of 32 bits -/

/-- A product, unless it overflows. -/
def checkedMul (first second : UInt32) : Option UInt32 :=
  if first.toNat * second.toNat < 2 ^ 32 then some (first * second) else none

/-- The seconds of a number of days, unless a product overflows. -/
def checkedSeconds (days : UInt32) : Option UInt32 := do
  let minutes ← checkedMul days 60
  let hours ← checkedMul minutes 60
  checkedMul hours 24

theorem checkedMul_eq_some_iff {first second product : UInt32} :
    checkedMul first second = some product ↔
      first.toNat * second.toNat < 2 ^ 32 ∧ product.toNat = first.toNat * second.toNat := by
  rw [checkedMul]
  split_ifs with hfits
  · rw [Option.some_inj, and_iff_right hfits, ← UInt32.toNat_inj, UInt32.toNat_mul,
      Nat.mod_eq_of_lt hfits]
    exact eq_comm
  · exact iff_of_false nofun fun hproduct ↦ hfits hproduct.1

/-- No product overflows exactly when the seconds fit 32 bits. -/
theorem checkedSeconds_ne_none_iff {days : UInt32} :
    checkedSeconds days ≠ none ↔ days.toNat * 86400 < 2 ^ 32 := by
  have hsixty : (60 : UInt32).toNat = 60 := rfl
  have hday : (24 : UInt32).toNat = 24 := rfl
  constructor
  · intro hsome
    obtain ⟨seconds, hseconds⟩ := Option.ne_none_iff_exists'.mp hsome
    obtain ⟨minutes, hminutes, hseconds⟩ := Option.bind_eq_some_iff.mp hseconds
    obtain ⟨hours, hhours, hseconds⟩ := Option.bind_eq_some_iff.mp hseconds
    rw [checkedMul_eq_some_iff, hsixty] at hminutes hhours
    rw [checkedMul_eq_some_iff, hday] at hseconds
    omega
  · intro hfits
    have hminutes : checkedMul days 60 = some (days * 60) := if_pos (by rw [hsixty]; omega)
    have hfirst := (checkedMul_eq_some_iff.mp hminutes).2
    rw [hsixty] at hfirst
    have hhours : checkedMul (days * 60) 60 = some (days * 60 * 60) :=
      if_pos (by rw [hsixty]; omega)
    have hsecond := (checkedMul_eq_some_iff.mp hhours).2
    rw [hsixty] at hsecond
    have hseconds : checkedMul (days * 60 * 60) 24 = some (days * 60 * 60 * 24) :=
      if_pos (by rw [hday]; omega)
    rw [checkedSeconds, hminutes]
    show ((checkedMul (days * 60) 60).bind fun hours ↦ checkedMul hours 24) ≠ none
    rw [hhours, Option.bind_some, hseconds]
    nofun

/-- No product overflows for the validity, if there is one, and the seconds are those of its
days. -/
def DurationExact (fields : CertificateFields) : Prop :=
  ∀ days, fields.validity = some days →
    checkedSeconds days ≠ none ∧ secondsOf days = days.toNat * 86400

theorem durationExact_iff {fields : CertificateFields} :
    DurationExact fields ↔ fields.SecondsFit := by
  refine forall₂_congr fun days _ ↦ ?_
  rw [checkedSeconds_ne_none_iff]
  exact and_iff_left_of_imp secondsOf_eq

/-! ### What is kept in the store -/

/-- The validity of every row of the table fits. -/
def PkiStore.ValiditiesFit (store : PkiStore) : Prop :=
  ∀ table, store.caTable = some table → ∀ row ∈ table.rows, row.validity.toNat * 86400 < 2 ^ 32

theorem validitiesFit_empty (connected : Bool) :
    PkiStore.ValiditiesFit ⟨connected, some (.empty _)⟩ := by
  intro table htable row hrow
  obtain rfl := Option.some.inj htable
  cases hrow

theorem keeps_initStore {ε : Type} (calls : SqliteCalls) :
    (initStore calls : Program ε PkiStore StoreError Unit).Keeps PkiStore.ValiditiesFit := by
  refine Program.keeps_bind Program.keeps_get fun store ↦ ?_
  refine Program.keeps_ite (Program.keeps_pure _) ?_
  refine Program.keeps_bind (Program.keeps_require _ _) fun _ ↦ ?_
  refine Program.keeps_bind (Program.keeps_require _ _) fun _ ↦ ?_
  refine Program.keeps_modify fun reached hfits ↦ ?_
  rcases reached with ⟨connected, _ | table⟩
  · exact validitiesFit_empty true
  · exact hfits

theorem keeps_dropPki {ε : Type} (calls : SqliteCalls) :
    (dropPki calls : Program ε PkiStore StoreError Unit).Keeps PkiStore.ValiditiesFit := by
  refine Program.keeps_bind Program.keeps_get fun store ↦ ?_
  refine Program.keeps_bind (Program.keeps_require _ _) fun _ ↦ ?_
  refine Program.keeps_bind (Program.keeps_require _ _) fun _ ↦ ?_
  refine Program.keeps_bind (Program.keeps_modify fun reached _ ↦ nofun) fun _ ↦ ?_
  refine Program.keeps_bind (Program.keeps_require _ _) fun _ ↦ ?_
  exact Program.keeps_modify fun reached _ ↦ validitiesFit_empty reached.connected

/-- A row of fields whose validity fits has one that does, also when there is none. -/
theorem validity_of_secondsFit {infos : CertificateFields} (hinfos : infos.SecondsFit)
    (pkiDir : String) : (CaRow.of pkiDir infos).validity.toNat * 86400 < 2 ^ 32 := by
  show (infos.validity.getD 0).toNat * 86400 < 2 ^ 32
  cases hvalidity : infos.validity with
  | none => decide
  | some days => exact hinfos days hvalidity

/-- Assumes: the validity that is stored fits. -/
theorem keeps_setPkiConfig {ε : Type} (calls : SqliteCalls) (pkiDir : String)
    {infos : CertificateFields} (hinfos : infos.SecondsFit) :
    (setPkiConfig calls pkiDir infos : Program ε PkiStore StoreError Unit).Keeps
      PkiStore.ValiditiesFit := by
  refine Program.keeps_bind Program.keeps_get fun store ↦ ?_
  refine Program.keeps_bind (Program.keeps_require _ _) fun _ ↦ ?_
  refine Program.keeps_bind (Program.keeps_require _ _) fun _ ↦ ?_
  refine Program.keeps_modify fun reached hfits table htable row hrow ↦ ?_
  obtain ⟨before, hbefore, rfl⟩ := Option.map_eq_some_iff.mp htable
  rcases RowTable.mem_rows_replace.mp hrow with rfl | ⟨hother, -⟩
  · exact validity_of_secondsFit hinfos pkiDir
  · exact hfits before hbefore row hother

/-- What is read from the store has a validity that fits. -/
theorem secondsFit_of_getPkiInfo {store : PkiStore} (hfits : store.ValiditiesFit)
    {infos : CertificateFields} (hinfos : getPkiInfo store = .ok infos) : infos.SecondsFit := by
  rcases store with ⟨_ | _, _ | table⟩
  · cases hinfos
  · cases hinfos
  · cases hinfos
  · rw [getPkiInfo_connected] at hinfos
    obtain rfl := Except.ok.inj hinfos
    cases hlast : table.rows.getLast? with
    | none => exact fun _ hdays ↦ by cases hdays
    | some row =>
      intro days hdays
      obtain rfl := Option.some.inj hdays
      exact hfits table rfl row (List.mem_of_getLast? hlast)

/-! ### Restorations -/

/-- The seconds of the days for which a certificate is valid fit 32 bits: it is valid for at most
49710 days. The days are a number of 32 bits. -/
def PeriodFits (cert : X509Certificate) : Prop :=
  (cert.tbsCertificate.validity.notAfter - cert.tbsCertificate.validity.notBefore) / 86400 %
    2 ^ 32 * 86400 < 2 ^ 32

/-- The validity that is read from the certificate of a root fits exactly when that of the
certificate does. -/
theorem secondsFit_restoredInfos_iff {display : RdnSequence → String} {cert : X509Certificate}
    {infos : CertificateFields} (hinfos : restoredInfos display cert = .ok infos) :
    infos.SecondsFit ↔ PeriodFits cert := by
  obtain ⟨days, hdays, hinfos⟩ := exists_of_bind_eq_ok hinfos
  obtain ⟨fields, -, hinfos⟩ := exists_of_bind_eq_ok hinfos
  split_ifs at hinfos
  obtain rfl := Except.ok.inj hinfos
  rw [daysOf] at hdays
  split_ifs at hdays
  obtain rfl := Except.ok.inj hdays
  simp only [CertificateFields.SecondsFit, Option.some_inj, forall_eq', UInt32.toNat_ofNat']
  rfl

/-! ### Requests to the application -/

variable {schemes : Schemes}

/-- The steps of `generate_pki_in_dir` before there are keys: the fields for which all of its
certificates are made. -/
def storeInfos (calls : GenerateCalls schemes) (orgName orgUnit country validity pkiDir : String) :
    Program PkiWrite PkiStore GenerateError CertificateFields := do
  let infos ← .ofExcept ((fromFields (some orgName) (some orgUnit) (some country) none
    (some validity)).mapError .ofFields)
  .ofExcept (createPkiDir calls)
  (setPkiConfig calls.sqlite pkiDir infos).mapError .store
  return infos

variable (schemes) in
/-- What is asked of the application. `initKeysas` stands for what reads the fields from the store
to make certificates for them. -/
inductive AdminRequest where
  /-- The application ends and starts again, with the same database. -/
  | restart
  | initStore (calls : SqliteCalls)
  | delPki (calls : SqliteCalls)
  | generatePkiInDir (calls : GenerateCalls schemes)
    (orgName orgUnit country validity adminPwd pkiDir : String)
  | restorePki (directory : PkiDirectory) (calls : SqliteCalls) (baseDirectory adminPwd : String)
  | initKeysas

variable (formats : KeyFormats schemes) (x509 : X509) (display : RdnSequence → String)

/-- The store after a request. -/
def storeAfter (store : PkiStore) : AdminRequest schemes → PkiStore
  | .restart => { store with connected := false }
  | .initStore calls => ((initStore calls : Program Empty _ _ _).run store).state
  | .delPki calls => ((dropPki calls : Program Empty _ _ _).run store).state
  | .generatePkiInDir calls orgName orgUnit country validity adminPwd pkiDir =>
    ((generatePkiInDir formats x509 calls orgName orgUnit country validity adminPwd pkiDir).run
      store).state
  | .restorePki directory calls baseDirectory adminPwd =>
    ((checkRestorePki formats x509 display calls directory baseDirectory adminPwd :
      Program Empty _ _ _).run store).state
  | .initKeysas => store

/-- The fields that a request passes on to make certificates. -/
def fieldsPassed (store : PkiStore) : AdminRequest schemes → List CertificateFields
  | .generatePkiInDir calls orgName orgUnit country validity _ pkiDir =>
    ((storeInfos calls orgName orgUnit country validity pkiDir).run store).value.toOption.toList
  | .initKeysas => (getPkiInfo store).toOption.toList
  | _ => []

/-- One request: the store afterwards, and the fields that are passed on. -/
def adminStep (store : PkiStore) (request : AdminRequest schemes) :
    PkiStore × List CertificateFields :=
  (storeAfter formats x509 display store request, fieldsPassed store request)

/-- When a request restores a PKI and gets as far as to store its configuration, the certificate of
the root is valid for at most 49710 days. -/
def RestoresFitting (store : PkiStore) : AdminRequest schemes → Prop
  | .restorePki directory calls _ adminPwd =>
    ∀ root infos, validatedRoot formats x509 directory adminPwd = .ok root →
      restoredInfos display root.classicCert = .ok infos → store.Droppable calls →
        calls.creates = true → calls.replaces = true → PeriodFits root.classicCert
  | _ => True

/-- The keys of a PKI are made for the fields that are stored. -/
theorem generatePkiInDir_eq (calls : GenerateCalls schemes)
    (orgName orgUnit country validity adminPwd pkiDir : String) :
    generatePkiInDir formats x509 calls orgName orgUnit country validity adminPwd pkiDir =
      storeInfos calls orgName orgUnit country validity pkiDir >>= fun infos ↦
        (generateKeys formats x509 calls infos adminPwd).mapError GenerateError.pki >>= fun _ ↦
          pure "PKI created" := by
  simp only [generatePkiInDir, storeInfos, Program.bind_assoc, Program.pure_bind]

theorem keeps_storeInfos (calls : GenerateCalls schemes)
    (orgName orgUnit country validity pkiDir : String) :
    (storeInfos calls orgName orgUnit country validity pkiDir).Keeps PkiStore.ValiditiesFit := by
  refine Program.keeps_ofExcept_bind fun infos hinfos ↦ ?_
  have hfits := secondsFit_of_fromFields (mapError_eq_ok_iff.mp hinfos)
  refine Program.keeps_bind (Program.keeps_ofExcept _) fun _ ↦ ?_
  refine Program.keeps_bind ?_ fun _ ↦ Program.keeps_pure _
  exact Program.keeps_mapError (keeps_setPkiConfig calls.sqlite pkiDir hfits)

/-- The fields that a generation stores and passes on are accepted. -/
theorem secondsFit_of_storeInfos {calls : GenerateCalls schemes}
    {orgName orgUnit country validity pkiDir : String} {store : PkiStore} :
    (storeInfos calls orgName orgUnit country validity pkiDir).Establishes store
      fun _ _ infos ↦ infos.SecondsFit := by
  rw [storeInfos, Program.establishes_ofExcept_bind_iff]
  intro infos hinfos
  have hfits := secondsFit_of_fromFields (mapError_eq_ok_iff.mp hinfos)
  rw [Program.establishes_ofExcept_bind_iff]
  intro _ _
  exact Program.establishes_bind fun _ _ ↦ Program.establishes_pure_iff.mpr hfits

/-- What a restoration does after the configuration is dropped. -/
theorem run_afterDrop {ε : Type} (calls : SqliteCalls) (baseDirectory : String)
    (cert : X509Certificate) :
    (((initStore calls).mapError RestoreError.store >>= fun _ ↦
        Program.ofExcept (restoredInfos display cert) >>= fun infos ↦
          (setPkiConfig calls baseDirectory infos).mapError .store :
        Program ε PkiStore RestoreError Unit).run ⟨true, some (.empty _)⟩).state =
      match restoredInfos display cert with
      | .error _ => ⟨true, some (.empty _)⟩
      | .ok infos => if calls.replaces
        then ⟨true, some ((RowTable.empty _).replace (.of baseDirectory infos))⟩
        else ⟨true, some (.empty _)⟩ := by
  have hinit : (initStore calls : Program ε PkiStore StoreError Unit).run
      ⟨true, some (.empty _)⟩ = ⟨[], ⟨true, some (.empty _)⟩, .ok ()⟩ := rfl
  rw [Program.run_bind, Program.run_mapError, hinit]
  show ((Program.ofExcept (restoredInfos display cert) >>= fun infos ↦
    (setPkiConfig calls baseDirectory infos).mapError RestoreError.store :
      Program ε PkiStore RestoreError Unit).run ⟨true, some (.empty _)⟩).state = _
  rcases restoredInfos display cert with error | infos
  · rfl
  · rw [Program.run_ofExcept_ok_bind, Program.run_mapError, run_setPkiConfig]
    dsimp only
    split_ifs
    · rfl
    · rfl

/-- What a restoration leaves: the configuration that is read from the root, or no row of it, and
then nothing is asked of its root. -/
theorem storeAfter_restorePki_cases (store : PkiStore) (directory : PkiDirectory)
    (calls : SqliteCalls) (baseDirectory adminPwd : String) :
    (∃ root infos, validatedRoot formats x509 directory adminPwd = .ok root ∧
        restoredInfos display root.classicCert = .ok infos ∧ store.Droppable calls ∧
        calls.creates = true ∧ calls.replaces = true ∧
        storeAfter formats x509 display store (.restorePki directory calls baseDirectory adminPwd) =
          ⟨true, some ((RowTable.empty _).replace (.of baseDirectory infos))⟩) ∨
      (storeAfter formats x509 display store (.restorePki directory calls baseDirectory adminPwd) ∈
          [store, ⟨true, none⟩, ⟨true, some (.empty _)⟩] ∧
        RestoresFitting formats x509 display store
          (.restorePki directory calls baseDirectory adminPwd)) := by
  rw [storeAfter, checkRestorePki, RestoresFitting]
  cases hroot : validatedRoot formats x509 directory adminPwd with
  | error error =>
    rw [Program.run_ofExcept_error_bind]
    exact .inr ⟨.head _, fun _ _ hok ↦ by cases hok⟩
  | ok root =>
    rw [Program.run_ofExcept_ok_bind, Program.run_bind, Program.run_mapError]
    by_cases hdroppable : store.Droppable calls
    · rw [run_dropPki hdroppable]
      by_cases hcreates : calls.creates = true
      · rw [if_pos hcreates]
        simp only [Except.mapError, Ending.state_after, run_afterDrop]
        rcases hinfos : restoredInfos display root.classicCert with error | infos
        · refine .inr ⟨.tail _ (.tail _ (.head _)), fun other infos hother hok ↦ ?_⟩
          obtain rfl := Except.ok.inj hother
          rw [hinfos] at hok
          cases hok
        dsimp only
        by_cases hreplaces : calls.replaces = true
        · exact .inl ⟨root, infos, rfl, hinfos, hdroppable, hcreates, hreplaces, if_pos hreplaces⟩
        · rw [if_neg hreplaces]
          exact .inr ⟨.tail _ (.tail _ (.head _)), fun _ _ _ _ _ _ hok ↦ absurd hok hreplaces⟩
      · rw [if_neg hcreates]
        exact .inr ⟨.tail _ (.head _), fun _ _ _ _ _ hok ↦ absurd hok hcreates⟩
    · obtain ⟨error, hrun⟩ := exists_run_dropPki (ε := Empty) hdroppable
      rw [hrun]
      exact .inr ⟨.head _, fun _ _ _ _ hok ↦ absurd hok hdroppable⟩

/-- Where the configuration of a restored root is the only row, the validities fit exactly when the
certificate does. -/
theorem validitiesFit_restored_iff {cert : X509Certificate} {infos : CertificateFields}
    (hinfos : restoredInfos display cert = .ok infos) {baseDirectory : String} :
    PkiStore.ValiditiesFit
        ⟨true, some ((RowTable.empty _).replace (.of baseDirectory infos))⟩ ↔ PeriodFits cert := by
  rw [← secondsFit_restoredInfos_iff hinfos]
  constructor
  · intro hfits days hdays
    have hrow := hfits _ rfl (.of baseDirectory infos) (RowTable.mem_rows_replace.mpr (.inl rfl))
    have hvalidity : (CaRow.of baseDirectory infos).validity = days := by
      rw [CaRow.of, hdays, Option.getD_some]
    rwa [hvalidity] at hrow
  · intro hinfos table htable row hrow
    obtain rfl := Option.some.inj htable
    rcases RowTable.mem_rows_replace.mp hrow with rfl | ⟨hother, -⟩
    · exact validity_of_secondsFit hinfos baseDirectory
    · cases hother

/-- A request leaves validities that fit exactly when what it restores fits. Assumes: what is stored
before it fits. -/
theorem validitiesFit_storeAfter_iff {store : PkiStore} (hfits : store.ValiditiesFit)
    (request : AdminRequest schemes) :
    (storeAfter formats x509 display store request).ValiditiesFit ↔
      RestoresFitting formats x509 display store request := by
  cases request with
  | restart => exact iff_of_true hfits trivial
  | initStore calls => exact iff_of_true (keeps_initStore calls store hfits) trivial
  | delPki calls => exact iff_of_true (keeps_dropPki calls store hfits) trivial
  | generatePkiInDir calls orgName orgUnit country validity adminPwd pkiDir =>
    refine iff_of_true ?_ trivial
    show PkiStore.ValiditiesFit (Program.run _ store).state
    rw [generatePkiInDir_eq]
    refine Program.keeps_bind (keeps_storeInfos _ _ _ _ _ _) (fun infos ↦ ?_) store hfits
    refine Program.keeps_bind (fun reached hreached ↦ ?_) fun _ ↦ Program.keeps_pure _
    rw [Program.run_mapError, state_generateKeys]
    exact hreached
  | restorePki directory calls baseDirectory adminPwd =>
    rcases storeAfter_restorePki_cases formats x509 display store directory calls baseDirectory
      adminPwd with ⟨root, infos, hroot, hinfos, hdroppable, hcreates, hreplaces, hafter⟩ |
        ⟨hafter, hfitting⟩
    · rw [hafter, validitiesFit_restored_iff display hinfos]
      constructor
      · intro hperiod other _ hother _ _ _ _
        obtain rfl := Except.ok.inj (hroot.symm.trans hother)
        exact hperiod
      · intro hfitting
        exact hfitting root infos hroot hinfos hdroppable hcreates hreplaces
    · refine iff_of_true ?_ hfitting
      simp only [List.mem_cons, List.not_mem_nil, or_false] at hafter
      rcases hafter with hafter | hafter | hafter <;> rw [hafter]
      · exact hfits
      · exact fun table htable ↦ by cases htable
      · exact validitiesFit_empty true
  | initKeysas => exact iff_of_true hfits trivial

/-! ### Runs -/

variable (schemes) in
/-- For whatever fields are passed on in a state, no product overflows and the seconds are those of
the days. -/
def PassesExact (store : PkiStore) : Prop :=
  ∀ (request : AdminRequest schemes) (fields : CertificateFields),
    fields ∈ fieldsPassed store request → DurationExact fields

theorem mem_toList_toOption_iff {ε α : Type} {result : Except ε α} {value : α} :
    value ∈ result.toOption.toList ↔ result = .ok value := by
  cases result with
  | error error => exact iff_of_false (fun hmem ↦ by cases hmem) (fun hok ↦ by cases hok)
  | ok found =>
    show value ∈ [found] ↔ _
    rw [List.mem_singleton, Except.ok.injEq]
    exact eq_comm

theorem passesExact_of_validitiesFit {store : PkiStore} (hfits : store.ValiditiesFit) :
    PassesExact schemes store := by
  intro request fields hfields
  rw [durationExact_iff]
  cases request with
  | generatePkiInDir calls orgName orgUnit country validity adminPwd pkiDir =>
    exact secondsFit_of_storeInfos fields (mem_toList_toOption_iff.mp hfields)
  | initKeysas => exact secondsFit_of_getPkiInfo hfits (mem_toList_toOption_iff.mp hfields)
  | _ => cases hfields

/-- What is passed on of a row that is the only one tells of its validity. -/
theorem validitiesFit_of_passesExact {row : CaRow}
    (hexact : PassesExact schemes ⟨true, some ((RowTable.empty _).replace row)⟩) :
    PkiStore.ValiditiesFit ⟨true, some ((RowTable.empty _).replace row)⟩ := by
  have hread : row.infos ∈ fieldsPassed ⟨true, some ((RowTable.empty _).replace row)⟩
      (.initKeysas : AdminRequest schemes) := by
    rw [fieldsPassed, getPkiInfo_connected]
    exact .head _
  have hfits := durationExact_iff.mp (hexact .initKeysas row.infos hread) row.validity rfl
  intro table htable other hother
  obtain rfl := Option.some.inj htable
  rcases RowTable.mem_rows_replace.mp hother with rfl | ⟨hbefore, -⟩
  · exact hfits
  · cases hbefore

/-- After a request what is passed on is exact when the request restores what fits, and only then.
Assumes: what is stored before it fits. -/
theorem passesExact_storeAfter_iff {store : PkiStore} (hfits : store.ValiditiesFit)
    (request : AdminRequest schemes) :
    PassesExact schemes (storeAfter formats x509 display store request) ↔
      RestoresFitting formats x509 display store request := by
  rw [← validitiesFit_storeAfter_iff formats x509 display hfits]
  refine ⟨fun hexact ↦ ?_, passesExact_of_validitiesFit⟩
  cases request with
  | restorePki directory calls baseDirectory adminPwd =>
    rcases storeAfter_restorePki_cases formats x509 display store directory calls baseDirectory
      adminPwd with ⟨_, _, -, -, -, -, -, hafter⟩ | ⟨-, hfitting⟩
    · rw [hafter] at hexact ⊢
      exact validitiesFit_of_passesExact hexact
    · exact (validitiesFit_storeAfter_iff formats x509 display hfits _).mpr hfitting
  | _ => exact (validitiesFit_storeAfter_iff formats x509 display hfits _).mpr trivial

/-- Whatever is asked of the application with a new database, the fields that can be passed on in
every state it reaches are exact when each restoration that stores a configuration is of a root that
is valid for at most 49710 days, and only then. -/
theorem forall_passesExact_iff_admits (requests : List (AdminRequest schemes)) :
    (∀ front, front <+: requests →
        PassesExact schemes (execute (adminStep formats x509 display) ⟨false, none⟩ front).2) ↔
      Admits (adminStep formats x509 display)
        (fun _ store request ↦ RestoresFitting formats x509 display store request) [] ⟨false, none⟩
        requests := by
  have hstart : PkiStore.ValiditiesFit ⟨false, none⟩ := fun table htable ↦ by cases htable
  exact @forall_prefix_iff_admits_of_invariant _ _ _ (adminStep formats x509 display)
    (fun _ store request ↦ RestoresFitting formats x509 display store request)
    PkiStore.ValiditiesFit (PassesExact schemes) (fun _ ↦ passesExact_of_validitiesFit)
    (fun _ _ request hfits ↦ passesExact_storeAfter_iff formats x509 display hfits request)
    (fun _ _ request hfits ↦
      (validitiesFit_storeAfter_iff formats x509 display hfits request).mpr) _ _ _ hstart

/-! ### A root that is valid for long -/

/-- The signed part of a certificate with a key, for a subject and 49711 days. -/
def longTbs (oid : String) (key : List UInt8) : TbsCertificate :=
  { (keyCertificate oid key).tbsCertificate with
    validity := ⟨0, 49711 * 86400⟩
    subject := [subjectEntries ⟨"FR", "Keysas", "Lab"⟩] }

/-- An authority with the keys 1 and 2 and self-signed certificates for 49711 days. -/
def longRoot : HybridKeyPair markedSchemes where
  classic := (1 : UInt8)
  classicCert := ⟨longTbs ed25519Oid (repeated 32 1), ⟨ed25519Oid, none⟩,
    .fromBytes (markedEd25519.sign (1 : UInt8)
      (unaryX509.tbsToDer (longTbs ed25519Oid (repeated 32 1))))⟩
  pq := (2 : UInt8)
  pqCert := ⟨longTbs mlDsa87Oid (repeated 2592 2), ⟨mlDsa87Oid, none⟩,
    .fromBytes (marked 2035 (repeated 2592 2)
      (unaryX509.tbsToDer (longTbs mlDsa87Oid (repeated 2592 2))))⟩

theorem isAuthority_longRoot : longRoot.IsAuthority unaryX509 where
  isBelow := by
    refine ⟨fun algorithm ↦ ?_, ⟨_, ofLength_repeated 2592 2⟩⟩
    cases algorithm with
    | ed25519 => rfl
    | mlDsa87 => exact ⟨_, rfl, rfl⟩
  hasKey algorithm := by
    cases algorithm with
    | ed25519 => exact ⟨rfl, rfl⟩
    | mlDsa87 => exact ⟨rfl, rfl⟩

/-- The documents of the keys of the root. -/
theorem documents_longRoot : ∃ classic pq, longRoot.Documents unaryFormats "secret" classic pq :=
  ⟨_, _, ⟨[], rfl⟩, ⟨[], rfl⟩⟩

/-- There is a directory of a PKI whose root is this authority. -/
theorem exists_validatedRoot_longRoot :
    ∃ directory, validatedRoot unaryFormats unaryX509 directory "secret" = .ok longRoot := by
  obtain ⟨classic, pq, hdocuments⟩ := documents_longRoot
  exact ⟨_, validatedRoot_generatedDirectory isAuthority_longRoot isAuthority_longRoot.isBelow
    isAuthority_longRoot.isBelow hdocuments hdocuments hdocuments ⟨true, [], ∅⟩⟩

/-- The fields that are read from the certificate of the root. -/
theorem restoredInfos_longRoot :
    restoredInfos sampleNames.toText longRoot.classicCert =
      .ok (pkiFields ⟨"FR", "Keysas", "Lab"⟩ 49711) := by
  have hread : readSubject (sampleNames.toText [subjectEntries ⟨"FR", "Keysas", "Lab"⟩]) =
      .ok ⟨"FR", "Keysas", "Lab"⟩ := by
    refine (readSubject_toText_eq_iff sampleNames (.refl _) ?_ ?_ ?_).mpr ⟨?_, ?_, ?_⟩
    all_goals decide
  have hdays : daysOf longRoot.classicCert.tbsCertificate.validity = .ok 49711 :=
    if_pos (Nat.zero_le _)
  have hsubject : longRoot.classicCert.tbsCertificate.subject =
      [subjectEntries ⟨"FR", "Keysas", "Lab"⟩] := rfl
  rw [restoredInfos, hdays, hsubject, ok_bind, hread, ok_bind, if_pos (by decide)]
  rfl

/-- The store after the root is restored. -/
theorem storeAfter_restore_longRoot {directory : PkiDirectory}
    (hdirectory : validatedRoot unaryFormats unaryX509 directory "secret" = .ok longRoot) :
    storeAfter unaryFormats unaryX509 sampleNames.toText ⟨true, some (.empty _)⟩
        (.restorePki directory .succeeding "/pki" "secret") =
      ⟨true, some ((RowTable.empty _).replace
        (.of "/pki" (pkiFields ⟨"FR", "Keysas", "Lab"⟩ 49711)))⟩ := by
  have hdrop : (dropPki .succeeding : Program Empty PkiStore StoreError Unit).run
      ⟨true, some (.empty _)⟩ = ⟨[], ⟨true, some (.empty _)⟩, .ok ()⟩ := rfl
  rw [storeAfter, checkRestorePki, hdirectory, Program.run_ofExcept_ok_bind, Program.run_bind,
    Program.run_mapError, hdrop]
  show (Program.run (Program.ofExcept (restoredInfos _ _) >>= _) _).state = _
  rw [restoredInfos_longRoot]
  rfl

/-- When a root that is valid for 49711 days has been restored, the seconds of the validity that is
read do not fit 32 bits. -/
theorem not_passesExact_longRoot :
    ∃ requests, ¬ PassesExact markedSchemes
      (execute (adminStep unaryFormats unaryX509 sampleNames.toText) ⟨false, none⟩ requests).2 := by
  obtain ⟨directory, hdirectory⟩ := exists_validatedRoot_longRoot
  refine ⟨[.initStore .succeeding, .restorePki directory .succeeding "/pki" "secret"],
    fun hexact ↦ ?_⟩
  change PassesExact markedSchemes (storeAfter unaryFormats unaryX509 sampleNames.toText
    ⟨true, some (.empty _)⟩ (.restorePki directory .succeeding "/pki" "secret")) at hexact
  rw [storeAfter_restore_longRoot hdirectory] at hexact
  have hfits := validitiesFit_of_passesExact hexact
  rw [validitiesFit_restored_iff _ restoredInfos_longRoot] at hfits
  exact absurd hfits (show ¬ (49711 * 86400 - 0) / 86400 % 2 ^ 32 * 86400 < 2 ^ 32 by decide)

end Keysas.Admin
