import Keysas.Admin.RestorePki

/-!
# Generation of a PKI

`generatePkiInDir` checks what a user enters, makes the directories of a PKI and stores its
configuration. Then it generates the keys of the root and of the two authorities below it, and saves
them.

The configuration is stored before there are any keys. `keepsConfiguration_generatePkiInDir_iff`
says when an error keeps the old one, and `keepsConfiguration_iff` puts this together with what
`check_restore_pki` does. `ends_generatePkiInDir` says that it ends when its calls succeed, and
`establishes_generateKeys` what is then in the files.
-/

set_option autoImplicit false
set_option relaxedAutoImplicit false

namespace Keysas.Admin

open Crypto Keys Pki Runs RustStd Store

/-! ### Generation -/

/-- The errors of `generate_pki_in_dir`. -/
inductive GenerateError where
  /-- "Invalid user input". -/
  | input
  /-- The country is cut within a character, which is a panic. -/
  | panic
  /-- "Invalid PKI directory path". -/
  | directory
  /-- "Store error". -/
  | store (error : StoreError)
  /-- "PKI error". -/
  | pki (error : PkiError)

/-- The error for fields that are not valid. -/
def GenerateError.ofFields : FieldsError → GenerateError
  | .countryBoundary => .panic
  | _ => .input

/-- What a run of `generate_pki_in_dir` meets and draws: whether the path is a directory, whether
each directory in it is there or can be made, whether each file can be written, and what is drawn
for each of the three pairs of keys. -/
structure GenerateCalls (schemes : Schemes) where
  sqlite : SqliteCalls
  isDirectory : Bool
  createsDirectory : String → Bool
  writes : String → String → Bool
  root : KeyDraw schemes
  st : KeyDraw schemes
  usb : KeyDraw schemes

section Generate

variable {schemes : Schemes} (formats : KeyFormats schemes) (x509 : X509)
  (calls : GenerateCalls schemes)

/-- The directories of a PKI. -/
def pkiDirectories : List String :=
  ["/CA", "/CA/root", "/CA/st", "/CA/usb", "/CRL", "/CERT"]

/-- `create_pki_dir`. -/
def createPkiDir : Except GenerateError Unit :=
  if calls.isDirectory then
    pkiDirectories.forM fun path ↦
      if calls.createsDirectory path then .ok () else .error .directory
  else .error .directory

/-- The keys of an authority below the root, with a common name. -/
def generateAuthority {σ : Type} (root : HybridKeyPair schemes) (infos : CertificateFields)
    (commonName name path adminPwd : String) (isAppKey : Bool) (draw : KeyDraw schemes) :
    Program PkiWrite σ PkiError Unit := do
  let nameInfos ← .ofExcept ((fromFields none none none (some commonName) none).mapError .fields)
  let keys ← .ofExcept (generateSignedKeypair x509 root (nameInfos.generateDn x509) infos isAppKey
    draw)
  keys.save calls.writes formats x509 name path path adminPwd draw.random

/-- The steps of `generate_pki_in_dir` after the configuration is stored. -/
def generateKeys {σ : Type} (infos : CertificateFields) (adminPwd : String) :
    Program PkiWrite σ PkiError Unit := do
  let root ← .ofExcept (generateRoot x509 infos calls.root)
  root.save calls.writes formats x509 "root" "root" "root" adminPwd calls.root.random
  generateAuthority formats x509 calls root infos "Station CA" "st-ca" "st" adminPwd false calls.st
  generateAuthority formats x509 calls root infos "USB admin" "usb" "usb" adminPwd true calls.usb

/-- `generate_pki_in_dir`. -/
def generatePkiInDir (orgName orgUnit country validity adminPwd pkiDir : String) :
    Program PkiWrite PkiStore GenerateError String := do
  let infos ← .ofExcept ((fromFields (some orgName) (some orgUnit) (some country) none
    (some validity)).mapError .ofFields)
  .ofExcept (createPkiDir calls)
  (setPkiConfig calls.sqlite pkiDir infos).mapError .store
  (generateKeys formats x509 calls infos adminPwd).mapError .pki
  return "PKI created"

end Generate

/-! ### What is generated -/

variable {schemes : Schemes} {formats : KeyFormats schemes} {x509 : X509}
  {calls : GenerateCalls schemes}

/-- The files of the three pairs of keys of a PKI. -/
structure PkiKeys (formats : KeyFormats schemes) (x509 : X509) (infos : CertificateFields)
    (adminPwd : String) (files : List PkiWrite) : Prop where
  exists_keys : ∃ root st usb : HybridKeyPair schemes, root.IsRoot x509 infos ∧
    st.IsBelow root x509 ∧ usb.IsBelow root x509 ∧
    ∃ rootClassic rootPq stClassic stPq usbClassic usbPq,
      root.Documents formats adminPwd rootClassic rootPq ∧
      st.Documents formats adminPwd stClassic stPq ∧
      usb.Documents formats adminPwd usbClassic usbPq ∧
      files = root.files x509 "root" "root" rootClassic rootPq ++
        st.files x509 "st-ca" "st" stClassic stPq ++ usb.files x509 "usb" "usb" usbClassic usbPq

theorem establishes_generateAuthority {σ : Type} {root : HybridKeyPair schemes}
    {infos : CertificateFields} {commonName name path adminPwd : String} {isAppKey : Bool}
    {draw : KeyDraw schemes} {start : σ} :
    Program.Establishes (generateAuthority formats x509 calls root infos commonName name path
      adminPwd isAppKey draw) start fun trace _ _ ↦
        ∃ keys : HybridKeyPair schemes, keys.IsBelow root x509 ∧
          ∃ classic pq, keys.Documents formats adminPwd classic pq ∧
            trace = keys.files x509 name path classic pq := by
  rw [generateAuthority, Program.establishes_ofExcept_bind_iff]
  intro nameInfos _
  rw [Program.establishes_ofExcept_bind_iff]
  intro keys hkeys
  refine establishes_save.mono ?_
  rintro trace _ _ ⟨-, -, classic, pq, hdocuments, rfl⟩
  exact ⟨keys, isBelow_of_generateSignedKeypair hkeys, classic, pq, hdocuments, rfl⟩

/-- When nothing fails, the keys of a PKI are written to its files. -/
theorem establishes_generateKeys {σ : Type} {infos : CertificateFields} {adminPwd : String}
    {start : σ} :
    Program.Establishes (generateKeys formats x509 calls infos adminPwd) start fun trace _ _ ↦
      calls.writes "root" "root-cl.p8" = true ∧ PkiKeys formats x509 infos adminPwd trace := by
  rw [generateKeys, Program.establishes_ofExcept_bind_iff]
  intro root hroot
  refine Program.establishes_bind (establishes_save.mono ?_)
  rintro _ _ _ ⟨-, hwrites, rootClassic, rootPq, hrootDocuments, rfl⟩
  refine Program.establishes_bind (establishes_generateAuthority.mono ?_)
  rintro _ _ _ ⟨st, hst, stClassic, stPq, hstDocuments, rfl⟩
  refine establishes_generateAuthority.mono ?_
  rintro _ _ _ ⟨usb, husb, usbClassic, usbPq, husbDocuments, rfl⟩
  refine ⟨hwrites, ⟨root, st, usb, isRoot_of_generateRoot hroot, hst, husb, rootClassic, rootPq,
    stClassic, stPq, usbClassic, usbPq, hrootDocuments, hstDocuments, husbDocuments, ?_⟩⟩
  rw [List.append_assoc]

/-! ### When keys are generated -/

/-- Nothing around the generation of a PKI with some fields fails. -/
structure GenerateCalls.Succeed (calls : GenerateCalls schemes) (formats : KeyFormats schemes)
    (infos : CertificateFields) : Prop where
  isDirectory : calls.isDirectory = true
  createsDirectory : ∀ path, calls.createsDirectory path = true
  replaces : calls.sqlite.replaces = true
  writes : ∀ path name, calls.writes path name = true
  encrypts : ∀ info random pwd, (formats.encryptWithParams info random pwd).isSome = true
  root : calls.root.Succeeds infos
  st : calls.st.Succeeds infos
  usb : calls.usb.Succeeds infos

theorem ends_generateAuthority {σ : Type} (hideal : IdealSchemes schemes)
    {infos : CertificateFields} (hcalls : calls.Succeed formats infos)
    (root : HybridKeyPair schemes) (commonName name path adminPwd : String) (isAppKey : Bool)
    {draw : KeyDraw schemes} (hdraw : draw.Succeeds infos) (start : σ) :
    Program.Ends (generateAuthority formats x509 calls root infos commonName name path adminPwd
      isAppKey draw) start := by
  let nameInfos : CertificateFields := ⟨none, none, none, some commonName, none⟩
  obtain ⟨keys, hkeys⟩ :=
    exists_generateSignedKeypair hideal root (nameInfos.generateDn x509) isAppKey hdraw
  rw [generateAuthority, Program.ends_ofExcept_bind_iff]
  refine ⟨nameInfos, rfl, ?_⟩
  rw [Program.ends_ofExcept_bind_iff]
  exact ⟨keys, hkeys, ends_save keys _ _ _ _ hcalls.writes hcalls.encrypts⟩

/-- The keys of a PKI are generated when nothing fails. Assumes: signing does not fail. -/
theorem ends_generateKeys {σ : Type} (hideal : IdealSchemes schemes) {infos : CertificateFields}
    (hcalls : calls.Succeed formats infos) (adminPwd : String) (start : σ) :
    Program.Ends (generateKeys formats x509 calls infos adminPwd) start := by
  obtain ⟨root, hroot⟩ := @exists_generateRoot _ x509 hideal _ _ hcalls.root
  rw [generateKeys, Program.ends_ofExcept_bind_iff]
  refine ⟨root, hroot, ?_⟩
  refine Program.ends_bind (ends_save root _ _ _ _ hcalls.writes hcalls.encrypts) fun _ _ ↦ ?_
  refine Program.ends_bind (ends_generateAuthority hideal hcalls root _ _ _ _ _ hcalls.st _)
    fun _ _ ↦ ?_
  exact ends_generateAuthority hideal hcalls root _ _ _ _ _ hcalls.usb _

/-- A PKI is generated when its fields are valid and nothing fails. Assumes: signing does not
fail. -/
theorem ends_generatePkiInDir (hideal : IdealSchemes schemes)
    {orgName orgUnit country validity : String} {infos : CertificateFields}
    (hfields : fromFields (some orgName) (some orgUnit) (some country) none (some validity) =
      .ok infos) (hcalls : calls.Succeed formats infos) (adminPwd pkiDir : String)
    (table : CaTable) :
    Program.Ends (generatePkiInDir formats x509 calls orgName orgUnit country validity adminPwd
      pkiDir) ⟨true, some table⟩ := by
  have hdirectories : createPkiDir calls = .ok () := by
    rw [createPkiDir, if_pos hcalls.isDirectory]
    exact forM_eq_ok fun path _ ↦ if_pos (hcalls.createsDirectory path)
  have hset : Program.Ends (setPkiConfig calls.sqlite pkiDir infos :
      Program PkiWrite PkiStore StoreError Unit) ⟨true, some table⟩ := by
    rw [Program.Ends, run_setPkiConfig, if_pos hcalls.replaces]
    exact ⟨(), rfl⟩
  rw [generatePkiInDir, Program.ends_ofExcept_bind_iff]
  refine ⟨infos, by rw [hfields]; rfl, ?_⟩
  rw [Program.ends_ofExcept_bind_iff]
  refine ⟨(), hdirectories, ?_⟩
  refine Program.ends_bind (Program.ends_mapError_iff.mpr hset) fun _ _ ↦ ?_
  refine Program.ends_bind ?_ fun _ _ ↦ Program.ends_pure
  exact Program.ends_mapError_iff.mpr (ends_generateKeys hideal hcalls adminPwd _)

/-! ### Errors and the stored configuration -/

theorem keeps_saveFile {σ : Type} {invariant : σ → Prop} {writes : String → String → Bool}
    (path name : String) (content : Option (List UInt8)) :
    Program.Keeps (saveFile writes path name content) invariant :=
  Program.keeps_bind (Program.keeps_ofExcept _) fun _ ↦
    Program.keeps_bind (Program.keeps_require _ _) fun _ ↦ Program.keeps_emit _

theorem keeps_save {σ : Type} {invariant : σ → Prop} {writes : String → String → Bool}
    (keys : HybridKeyPair schemes) (name keysPath certsPath pwd : String)
    (random : KeyAlgorithm → List UInt8) :
    Program.Keeps (keys.save writes formats x509 name keysPath certsPath pwd random) invariant :=
  Program.keeps_bind (keeps_saveFile _ _ _) fun _ ↦
    Program.keeps_bind (keeps_saveFile _ _ _) fun _ ↦
      Program.keeps_bind (keeps_saveFile _ _ _) fun _ ↦ keeps_saveFile _ _ _

theorem keeps_generateAuthority {σ : Type} {invariant : σ → Prop} (root : HybridKeyPair schemes)
    (infos : CertificateFields) (commonName name path adminPwd : String) (isAppKey : Bool)
    (draw : KeyDraw schemes) :
    Program.Keeps (generateAuthority formats x509 calls root infos commonName name path adminPwd
      isAppKey draw) invariant :=
  Program.keeps_bind (Program.keeps_ofExcept _) fun _ ↦
    Program.keeps_bind (Program.keeps_ofExcept _) fun _ ↦ keeps_save _ _ _ _ _ _

/-- The generation of keys does not touch the store. -/
theorem state_generateKeys {σ : Type} (infos : CertificateFields) (adminPwd : String) (start : σ) :
    ((generateKeys formats x509 calls infos adminPwd).run start).state = start := by
  have hkeeps : Program.Keeps (generateKeys formats x509 calls infos adminPwd) (· = start) :=
    Program.keeps_bind (Program.keeps_ofExcept _) fun _ ↦
      Program.keeps_bind (keeps_save _ _ _ _ _ _) fun _ ↦
        Program.keeps_bind (keeps_generateAuthority _ _ _ _ _ _ _ _) fun _ ↦
          keeps_generateAuthority _ _ _ _ _ _ _ _
  exact hkeeps start rfl

/-- An error that is returned, and not a panic. -/
def GenerateError.Returned : GenerateError → Prop
  | .panic => False
  | _ => True

/-- What is read from the table is already the row: the last row has the same fields, and the
directories of the table are those of the other rows and then that of the row. -/
def AlreadyStored (table : CaTable) (row : CaRow) : Prop :=
  table.rows.getLast?.map CaRow.infos = some row.infos ∧
    directories table.rows = directories (table.others row ++ [row])

/-- A replacement is not seen exactly when what is read is already the row. -/
theorem observed_replace_eq_iff {table : CaTable} {row : CaRow} :
    (PkiStore.mk true (some (table.replace row))).observed =
        (PkiStore.mk true (some table)).observed ↔ AlreadyStored table row := by
  have hrows : (table.replace row).rows = table.others row ++ [row] := rfl
  rw [PkiStore.observed, PkiStore.observed, getPkiInfo_connected, getPkiInfo_connected,
    getPkiDir_connected, getPkiDir_connected, Prod.mk.injEq, Except.ok.injEq, Except.ok.injEq,
    hrows, List.getLast?_concat, Option.map_some, Option.getD_some, AlreadyStored, and_comm,
    eq_comm (a := directories (table.others row ++ [row]))]
  refine and_congr_left' ?_
  cases table.rows.getLast? with
  | none => exact iff_of_false (by rintro ⟨⟩) (by rintro ⟨⟩)
  | some last =>
    rw [Option.map_some, Option.getD_some, Option.some_inj]
    exact eq_comm

/-- After the configuration is stored, an error keeps the old one exactly when nothing fails, or
when the two are the same. -/
theorem leaves_generateKeys_iff (infos : CertificateFields) (adminPwd : String) (start : PkiStore)
    (seen : Except StoreError String × Except StoreError CertificateFields) :
    Program.Leaves (do
        (generateKeys formats x509 calls infos adminPwd).mapError GenerateError.pki
        return "PKI created") start
      (fun reached value ↦ ∀ error, value = .error error → error.Returned →
        reached.observed = seen) ↔
      (generateKeys formats x509 calls infos adminPwd).Ends start ∨ start.observed = seen := by
  rw [Program.leaves_bind_iff, Program.leaves_mapError_iff, Program.Leaves, state_generateKeys,
    Program.Ends]
  rcases ((generateKeys formats x509 calls infos adminPwd).run start).value with error | ⟨⟩
  · have hfails : ¬ ∃ value, (Except.error error : Except PkiError Unit) = .ok value := by
      rintro ⟨_, ⟨⟩⟩
    rw [or_iff_right hfails]
    exact ⟨fun hkeeps ↦ hkeeps _ rfl trivial, fun hsame _ _ _ ↦ hsame⟩
  · exact iff_of_true (by rintro _ ⟨⟩) (.inl ⟨(), rfl⟩)

section Keeps

variable (formats : KeyFormats schemes) (x509 : X509) (calls : GenerateCalls schemes)
  (orgName orgUnit country validity adminPwd pkiDir : String)

/-- An error of `generate_pki_in_dir` keeps the configuration that is stored exactly when the fields
or the directory are not accepted, when nothing is written to the store, when nothing fails after
it, or when what is stored was there before. -/
theorem keepsConfiguration_generatePkiInDir_iff (store : PkiStore) :
    KeepsConfiguration GenerateError.Returned (generatePkiInDir formats x509 calls orgName orgUnit
        country validity adminPwd pkiDir) store ↔
      ∀ infos table, fromFields (some orgName) (some orgUnit) (some country) none (some validity) =
          .ok infos →
        createPkiDir calls = .ok () → store.caTable = some table → store.Writable calls.sqlite →
          (generateKeys formats x509 calls infos adminPwd).Ends
              (PkiStore.mk true (some (table.replace (.of pkiDir infos)))) ∨
            AlreadyStored table (.of pkiDir infos) := by
  rw [KeepsConfiguration, generatePkiInDir, Program.leaves_ofExcept_bind_iff]
  rcases fromFields (some orgName) (some orgUnit) (some country) none (some validity) with
    error | infos
  · exact iff_of_true (fun _ _ _ ↦ rfl) (by rintro _ _ ⟨⟩)
  dsimp only [Except.mapError]
  rw [Program.leaves_ofExcept_bind_iff]
  rcases createPkiDir calls with error | ⟨⟩
  · exact iff_of_true (fun _ _ _ ↦ rfl) (by rintro _ _ - ⟨⟩)
  dsimp only
  rw [Program.leaves_bind_iff, Program.leaves_mapError_iff]
  by_cases hwritable : store.Writable calls.sqlite
  · obtain ⟨table, rfl⟩ := exists_table_of_runs hwritable
    have hsafe : (∀ infos' table', (Except.ok infos : Except FieldsError _) = .ok infos' →
        (Except.ok () : Except GenerateError Unit) = .ok () →
        (PkiStore.mk true (some table)).caTable = some table' →
        (PkiStore.mk true (some table)).Writable calls.sqlite →
          (generateKeys formats x509 calls infos' adminPwd).Ends
              (PkiStore.mk true (some (table'.replace (.of pkiDir infos')))) ∨
            AlreadyStored table' (.of pkiDir infos')) ↔
        (generateKeys formats x509 calls infos adminPwd).Ends
            (PkiStore.mk true (some (table.replace (.of pkiDir infos)))) ∨
          AlreadyStored table (.of pkiDir infos) := by
      constructor
      · exact fun hall ↦ hall infos table rfl rfl rfl hwritable
      · rintro hsafe _ _ hinfos - htable -
        obtain rfl := Except.ok.inj hinfos
        obtain rfl := Option.some.inj htable
        exact hsafe
    have hreplaces : calls.sqlite.replaces = true := hwritable.2
    rw [hsafe, Program.Leaves, run_setPkiConfig, if_pos hreplaces, ← observed_replace_eq_iff]
    exact leaves_generateKeys_iff infos adminPwd _ _
  · obtain ⟨error, hrun⟩ := exists_run_setPkiConfig (ε := PkiWrite) hwritable pkiDir infos
    refine iff_of_true ?_ fun _ _ _ _ _ hwrites ↦ absurd hwrites hwritable
    rw [Program.Leaves, hrun]
    exact fun _ _ _ ↦ rfl

end Keeps

/-- An error of `check_restore_pki` keeps the configuration that is stored exactly when nothing
fails after it is dropped, and one of `generate_pki_in_dir` exactly when nothing fails after the
new one is stored, or when the two are seen as the same. -/
theorem keepsConfiguration_iff (formats : KeyFormats schemes) (x509 : X509)
    (display : RdnSequence → String) (store : PkiStore) :
    (∀ (calls : SqliteCalls) (directory : PkiDirectory) (baseDirectory adminPwd : String),
      KeepsConfiguration RestoreError.Returned (checkRestorePki formats x509 display calls directory
          baseDirectory adminPwd : Program PkiWrite PkiStore RestoreError Unit) store ↔
        ∀ root table, validatedRoot formats x509 directory adminPwd = .ok root →
          store.caTable = some table → store.Droppable calls →
            SafeRestore display calls table root.classicCert) ∧
    ∀ (calls : GenerateCalls schemes)
      (orgName orgUnit country validity adminPwd pkiDir : String),
      KeepsConfiguration GenerateError.Returned (generatePkiInDir formats x509 calls orgName
          orgUnit country validity adminPwd pkiDir) store ↔
        ∀ infos table, fromFields (some orgName) (some orgUnit) (some country) none
            (some validity) = .ok infos →
          createPkiDir calls = .ok () → store.caTable = some table →
          store.Writable calls.sqlite →
            (generateKeys formats x509 calls infos adminPwd).Ends
                (PkiStore.mk true (some (table.replace (.of pkiDir infos)))) ∨
              AlreadyStored table (.of pkiDir infos) := by
  constructor
  · intro calls directory baseDirectory adminPwd
    exact keepsConfiguration_checkRestorePki_iff formats x509 display calls directory baseDirectory
      adminPwd store
  · intro calls orgName orgUnit country validity adminPwd pkiDir
    exact keepsConfiguration_generatePkiInDir_iff formats x509 calls orgName orgUnit country
      validity adminPwd pkiDir store

/-- A pair of keys from a byte. -/
def sampleDraw (key : UInt8) : KeyDraw markedSchemes where
  classic := key
  pq := some key
  now := fun _ ↦ 0
  serial := fun _ ↦ []
  random := fun _ ↦ []

/-- A run in which no file can be written. -/
def fullDiskCalls : GenerateCalls markedSchemes where
  sqlite := .succeeding
  isDirectory := true
  createsDirectory := fun _ ↦ true
  writes := fun _ _ ↦ false
  root := sampleDraw 1
  st := sampleDraw 2
  usb := sampleDraw 3

/-- When the disk is full, the configuration of a PKI that is not there is stored. -/
theorem not_keepsConfiguration_fullDisk :
    ¬ KeepsConfiguration GenerateError.Returned (generatePkiInDir unaryFormats unaryX509
      fullDiskCalls "Keysas" "Lab" "FR" "365" "secret" "/pki") ⟨true, some (.empty _)⟩ := by
  rw [keepsConfiguration_generatePkiInDir_iff]
  intro hkeeps
  have hfields : fromFields (some "Keysas") (some "Lab") (some "FR") none (some "365") =
      .ok yearFields := by
    decide +kernel
  rcases hkeeps _ _ hfields rfl rfl ⟨rfl, rfl⟩ with ⟨⟨⟩, hends⟩ | hstored
  · exact absurd (establishes_generateKeys () hends).1 (by decide)
  · exact absurd hstored.1 nofun

end Keysas.Admin
