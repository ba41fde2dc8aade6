import Keysas.Admin.PkiStore
import Keysas.Pki.KeyGeneration

/-!
# Restoration of a PKI

`checkRestorePki` loads the keys of a PKI from a directory and validates their certificates. Then it
drops the configuration that is stored, reads a new one from the certificate of the root and stores
that.

The new configuration is read after the old one is dropped, and an error on the way leaves none.
`keepsConfiguration_checkRestorePki_iff` says when an error keeps the old one.
-/

set_option autoImplicit false
set_option relaxedAutoImplicit false

namespace Keysas.Admin

open Keys Pki Runs RustStd Store

open Reports hiding HybridKeyPair

/-! ### Validation -/

/-- The errors of `check_restore_pki`. -/
inductive RestoreError where
  /-- "Directory CA does not exist." -/
  | noCaDirectory
  /-- "Directory do not exist". -/
  | noDirectory
  /-- "Invalid algorithm OID", for a file that is not there. -/
  | noFile
  /-- "PKI error: cannot open st HybridkeyPair", or the same for other keys. -/
  | load (error : LoadError)
  /-- A certificate is not valid. -/
  | certificate (error : ReportError)
  /-- The store fails. -/
  | store (error : StoreError)
  /-- The certificate of the root ends before it begins, which is a panic. -/
  | panic
  /-- "RdnSequence not valid: length is not 2". -/
  | rdnSequence
  /-- "RdnSequence tags not correctly parsed". -/
  | tags

/-- `directories_and_files`. -/
def directoriesAndFiles : List (String × String) :=
  [("root", "root-cl.p8"), ("root", "root-cl.pem"), ("root", "root-pq.p8"), ("root", "root-pq.pem"),
    ("st", "st-ca-cl.p8"), ("st", "st-ca-cl.pem"), ("st", "st-ca-pq.p8"), ("st", "st-ca-pq.pem"),
    ("usb", "usb-cl.p8"), ("usb", "usb-cl.pem"), ("usb", "usb-pq.p8"), ("usb", "usb-pq.pem")]

/-- One directory and file are there. -/
def checkFile (directory : PkiDirectory) (entry : String × String) : Except RestoreError Unit :=
  if entry.1 ∈ directory.subdirectories then
    if (directory.files.lookup entry).isSome then .ok () else .error .noFile
  else .error .noDirectory

/-- The directories and the files are there. -/
def checkFiles (directory : PkiDirectory) : Except RestoreError Unit :=
  if directory.caDirectory then directoriesAndFiles.forM (checkFile directory)
  else .error .noCaDirectory

section Restore

variable {schemes : Schemes} (formats : KeyFormats schemes) (x509 : X509)

variable (schemes) in
/-- A certificate is valid under that of an authority. -/
def checkCertificate (cert authority : X509Certificate) : Except RestoreError Unit := do
  let _ ← (validateSigningCertificate schemes x509.parse (x509.toPem cert)
    (some (x509.view authority))).mapError .certificate
  return ()

/-- The keys of an authority, whose certificates are valid under those of the root. -/
def loadAuthority (directory : PkiDirectory) (name path adminPwd : String)
    (root : HybridKeyPair schemes) : Except RestoreError Unit := do
  let keys ← (HybridKeyPair.load formats x509 directory name path path adminPwd).mapError .load
  checkCertificate schemes x509 keys.classicCert root.classicCert
  checkCertificate schemes x509 keys.pqCert root.pqCert

/-- The steps of `check_restore_pki` before the store is written: the keys of the root of a PKI that
is valid. -/
def validatedRoot (directory : PkiDirectory) (adminPwd : String) :
    Except RestoreError (HybridKeyPair schemes) := do
  checkFiles directory
  let root ← (HybridKeyPair.load formats x509 directory "root" "root" "root" adminPwd).mapError
    .load
  checkCertificate schemes x509 root.classicCert root.classicCert
  checkCertificate schemes x509 root.pqCert root.pqCert
  loadAuthority formats x509 directory "st-ca" "st" adminPwd root
  loadAuthority formats x509 directory "usb" "usb" adminPwd root
  return root

/-! ### The configuration of a root -/

/-- The attributes of a subject that are looked for. -/
structure SubjectFields where
  country : String
  organization : String
  organizationalUnit : String
  deriving DecidableEq

/-- One attribute of a subject. -/
def readAttribute (fields : SubjectFields) (attributeStr : String) :
    Except RestoreError SubjectFields :=
  match splitOnce '=' attributeStr with
  | none => .error .rdnSequence
  | some (attrType, attrValue) =>
    if trim attrType = "C" then .ok { fields with country := trim attrValue }
    else if trim attrType = "O" then .ok { fields with organization := trim attrValue }
    else if trim attrType = "OU" then .ok { fields with organizationalUnit := trim attrValue }
    else .ok fields

/-- The attributes of the text of a subject. -/
def readSubject (name : String) : Except RestoreError SubjectFields :=
  (split '+' name).foldlM readAttribute ⟨"", "", ""⟩

/-- The days of a validity. -/
def daysOf (validity : Validity) : Except RestoreError UInt32 :=
  if validity.notBefore ≤ validity.notAfter then
    .ok (UInt32.ofNat ((validity.notAfter - validity.notBefore) / 86400))
  else .error .panic

/-- The configuration that is read from the certificate of a root, for the text form of names. -/
def restoredInfos (display : RdnSequence → String) (cert : X509Certificate) :
    Except RestoreError CertificateFields := do
  let days ← daysOf cert.tbsCertificate.validity
  let fields ← readSubject (display cert.tbsCertificate.subject)
  if fields.country ≠ "" ∧ fields.organization ≠ "" ∧ fields.organizationalUnit ≠ "" then
    return ⟨some fields.organization, some fields.organizationalUnit, some fields.country, none,
      some days⟩
  else throw .tags

/-- `check_restore_pki`. -/
def checkRestorePki {ε : Type} (display : RdnSequence → String) (calls : SqliteCalls)
    (directory : PkiDirectory) (baseDirectory adminPwd : String) :
    Program ε PkiStore RestoreError Unit := do
  let root ← .ofExcept (validatedRoot formats x509 directory adminPwd)
  (dropPki calls).mapError .store
  (initStore calls).mapError .store
  let infos ← .ofExcept (restoredInfos display root.classicCert)
  (setPkiConfig calls baseDirectory infos).mapError .store

end Restore

/-! ### Errors and the stored configuration -/

/-- When the program returns an error, the configuration that is seen is what it was before. -/
def KeepsConfiguration {ε ρ α : Type} (returned : ρ → Prop) (program : Program ε PkiStore ρ α)
    (store : PkiStore) : Prop :=
  program.Leaves store fun reached value ↦
    ∀ error, value = .error error → returned error → reached.observed = store.observed

/-- An error that is returned, and not a panic. -/
def RestoreError.Returned : RestoreError → Prop
  | .panic => False
  | _ => True

/-- The errors that come after the configuration is dropped do not happen, or there was no
configuration: the table is made anew, and either it was empty, or the certificate of the root has a
configuration and this is stored. A certificate that ends before it begins is a panic. -/
def SafeRestore (display : RdnSequence → String) (calls : SqliteCalls) (table : CaTable)
    (cert : X509Certificate) : Prop :=
  calls.creates = true ∧ (table.rows = [] ∨
    match restoredInfos display cert with
    | .error error => ¬ error.Returned
    | .ok _ => calls.replaces = true)

/-- A table without rows is seen as such. -/
theorem observed_eq_empty_iff {table : CaTable} :
    (PkiStore.mk true (some (.empty _))).observed = (PkiStore.mk true (some table)).observed ↔
      table.rows = [] := by
  rw [PkiStore.observed, PkiStore.observed, getPkiInfo_connected, getPkiInfo_connected,
    getPkiDir_connected, getPkiDir_connected, Prod.mk.injEq, Except.ok.injEq, Except.ok.injEq]
  constructor
  · rintro ⟨-, hinfo⟩
    cases hrows : table.rows using List.reverseRecOn with
    | nil => rfl
    | append_singleton rows row =>
      rw [hrows, List.getLast?_concat] at hinfo
      cases hinfo
  · intro hrows
    rw [hrows]
    exact ⟨rfl, rfl⟩

section Keeps

variable {schemes : Schemes} (formats : KeyFormats schemes) (x509 : X509)
  (display : RdnSequence → String) (calls : SqliteCalls) (directory : PkiDirectory)
  (baseDirectory adminPwd : String)

/-- After the configuration is dropped, an error keeps it exactly when there was none, or when a new
one is stored. -/
theorem leaves_afterDrop_iff {ε : Type} (table : CaTable) (cert : X509Certificate) :
    Program.Leaves (do
        (initStore calls).mapError RestoreError.store
        let infos ← .ofExcept (restoredInfos display cert)
        (setPkiConfig calls baseDirectory infos).mapError .store :
          Program ε PkiStore RestoreError Unit) ⟨true, some (.empty _)⟩
      (fun reached value ↦ ∀ error, value = .error error → error.Returned →
        reached.observed = (PkiStore.mk true (some table)).observed) ↔
      table.rows = [] ∨
        match restoredInfos display cert with
        | .error error => ¬ error.Returned
        | .ok _ => calls.replaces = true := by
  have hinit : (initStore calls : Program ε PkiStore StoreError Unit).run
      ⟨true, some (.empty _)⟩ = ⟨[], ⟨true, some (.empty _)⟩, .ok ()⟩ := rfl
  rw [Program.leaves_bind_iff, Program.leaves_mapError_iff, Program.Leaves, hinit]
  dsimp only [Except.mapError]
  rw [Program.leaves_ofExcept_bind_iff]
  rcases restoredInfos display cert with error | infos
  · dsimp only
    rw [observed_eq_empty_iff]
    constructor
    · intro hkeeps
      by_cases hreturned : error.Returned
      · exact .inl (hkeeps error rfl hreturned)
      · exact .inr hreturned
    · rintro (hrows | hpanic) found hfound hreturned
      · exact hrows
      · obtain rfl := Except.error.inj hfound
        exact absurd hreturned hpanic
  · dsimp only
    rw [Program.leaves_mapError_iff, Program.Leaves, run_setPkiConfig]
    by_cases hreplaces : calls.replaces = true
    · rw [if_pos hreplaces]
      exact iff_of_true (by rintro _ ⟨⟩) (.inr hreplaces)
    · rw [if_neg hreplaces, or_iff_left hreplaces, ← observed_eq_empty_iff]
      exact ⟨fun hkeeps ↦ hkeeps _ rfl trivial, fun hsame _ _ _ ↦ hsame⟩

/-- An error of `check_restore_pki` keeps the configuration that is stored exactly when the PKI is
not valid, when the configuration is not dropped, or when nothing fails after it is dropped. -/
theorem keepsConfiguration_checkRestorePki_iff {ε : Type} (store : PkiStore) :
    KeepsConfiguration RestoreError.Returned (checkRestorePki formats x509 display calls directory
        baseDirectory adminPwd : Program ε PkiStore RestoreError Unit) store ↔
      ∀ root table, validatedRoot formats x509 directory adminPwd = .ok root →
        store.caTable = some table → store.Droppable calls →
          SafeRestore display calls table root.classicCert := by
  rw [KeepsConfiguration, checkRestorePki, Program.leaves_ofExcept_bind_iff]
  rcases validatedRoot formats x509 directory adminPwd with error | root
  · exact iff_of_true (fun _ _ _ ↦ rfl) (by rintro _ _ ⟨⟩)
  dsimp only
  rw [Program.leaves_bind_iff, Program.leaves_mapError_iff]
  by_cases hdroppable : store.Droppable calls
  · obtain ⟨table, rfl⟩ := exists_table_of_runs hdroppable
    have hsafe : (∀ root' table', (Except.ok root : Except RestoreError _) = .ok root' →
        (PkiStore.mk true (some table)).caTable = some table' →
          (PkiStore.mk true (some table)).Droppable calls →
            SafeRestore display calls table' root'.classicCert) ↔
        SafeRestore display calls table root.classicCert := by
      constructor
      · exact fun hall ↦ hall root table rfl rfl hdroppable
      · rintro hsafe _ _ hroot htable -
        obtain rfl := Except.ok.inj hroot
        obtain rfl := Option.some.inj htable
        exact hsafe
    rw [hsafe, Program.Leaves, run_dropPki hdroppable]
    by_cases hcreates : calls.creates = true
    · rw [if_pos hcreates, leaves_afterDrop_iff]
      exact (and_iff_right hcreates).symm
    · rw [if_neg hcreates]
      refine iff_of_false (fun hkeeps ↦ ?_) fun hsafe ↦ hcreates hsafe.1
      exact absurd (hkeeps _ rfl trivial) (by rintro ⟨⟩)
  · obtain ⟨error, hrun⟩ := exists_run_dropPki (ε := ε) hdroppable
    refine iff_of_true ?_ fun _ _ _ _ hdrops ↦ absurd hdrops hdroppable
    rw [Program.Leaves, hrun]
    exact fun _ _ _ ↦ rfl

end Keeps

end Keysas.Admin
