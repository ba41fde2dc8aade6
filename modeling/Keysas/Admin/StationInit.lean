import Keysas.Admin.PkiRoundTrip
import Keysas.Runs.FileWrites

/-!
# Initialisation of a station

`initKeysas` has a station generate its keys, makes certificates for its two requests, saves both
certificates in the PKI directory and loads them on the station, together with the certificates of
the authority for USB devices.

It saves the first certificate under both names. An `Initialization` is what a run that returns has
gone through, and there is such a run for each (`Initialization.Of.exists_run`).
`filesRightCertificates_iff` says that whenever the program returns for two certificates that are
not written alike, the file of the second one does not hold it; those for an Ed25519 and an
ML-DSA-87 request are never written alike (`Initialization.Issued.toPem_ne`).
-/

set_option autoImplicit false
set_option relaxedAutoImplicit false

namespace Keysas.Admin

open Crypto Keys Pki Runs RustStd Store Wire.Bincode

open Reports hiding HybridKeyPair

/-! ### The program -/

/-- The errors of `init_keysas`. -/
inductive InitError where
  /-- "No SSH key". -/
  | noSshKey
  /-- "Invalid PKI configuration". -/
  | pkiConfiguration
  /-- "Connection failed". -/
  | connectionFailed
  /-- "PKI error". -/
  | pki
  /-- "Connection error". -/
  | connection
  deriving DecidableEq

/-- What a run of `init_keysas` meets and draws. -/
structure InitCalls where
  /-- The private SSH key of the administrator, when the store has one. -/
  sshKey : Option String
  store : PkiStore
  connects : String → String → Bool
  tryQuote : String → Option String
  csrFromPem : String → Option CertReq
  /-- The answer of the station to a command, by its number in the session, unless it fails. -/
  answers : ℕ → String → Option (List UInt8)
  directory : String → PkiDirectory
  nowCl : ℕ
  serialCl : List UInt8
  nowPq : ℕ
  serialPq : List UInt8
  fileCl : FileCalls
  filePq : FileCalls

/-- `trim_end_matches` of two line feeds, on the reversed text. -/
def dropLinePairs : List Char → List Char
  | '\n' :: '\n' :: rest => dropLinePairs rest
  | rest => rest

/-- `str::trim_end_matches` of two line feeds. -/
def trimEndLinePairs (text : String) : String :=
  String.ofList (dropLinePairs text.toList.reverse).reverse

/-- The command that generates the keys of a station, for a quoted name. -/
def generateCommand (nameEscaped : String) : String :=
  "sudo /usr/bin/keysas-sign --generate" ++ " --name " ++ nameEscaped

/-- The command that loads a certificate of some kind on a station. -/
def loadCommand (kind output : String) : String :=
  "sudo /usr/bin/keysas-sign --load --certtype " ++ kind ++ " --cert=" ++ ("\"" ++ output ++ "\"")

/-- The command that gives the files of a station to keysas-out. -/
def chownCommand : String :=
  "sudo /bin/chown keysas-out:keysas-out /etc/keysas/file-sign-cl.p8 " ++
    "/etc/keysas/file-sign-cl.pem /etc/keysas/file-sign-pq.p8 /etc/keysas/file-sign-pq.pem " ++
      "/etc/keysas/usb-ca-cl.pem /etc/keysas/usb-ca-pq.pem"

/-- The command that restarts a station. -/
def restartCommand : String :=
  "sudo /bin/systemctl restart keysas"

section Programs

variable {schemes : Schemes} (formats : KeyFormats schemes) (x509 : X509) (calls : InitCalls)

/-- `session_exec`. What the command has done is not looked at. -/
def sessionExec (number : ℕ) (command : String) (error : InitError) :
    Program String Files InitError (List UInt8) := do
  let output ← .ofExcept (okOr (calls.answers number command) error)
  .emit command
  return output

/-- The two requests in the answer of a station, which stand around a bar. -/
def readCsrs (output : List UInt8) : Except InitError (CertReq × CertReq) := do
  let certReq ← okOr (fromUtf8 output) .pki
  let csrCl ← okOr (calls.csrFromPem (((splitOnce '|' certReq).map Prod.fst).getD certReq)) .pki
  let remainder ← okOr ((splitOnce '|' certReq).map Prod.snd) .pki
  let csrPq ← okOr (calls.csrFromPem (trimEndLinePairs remainder)) .pki
  return (csrCl, csrPq)

/-- `cmd_generate_key_and_get_csr`. -/
def cmdGenerateKeyAndGetCsr (name : String) :
    Program String Files InitError (CertReq × CertReq) := do
  let nameEscaped ← .ofExcept (okOr (calls.tryQuote name) .pki)
  let output ← sessionExec calls 0 (generateCommand nameEscaped) .pki
  .ofExcept (readCsrs calls output)

/-- `send_cert_to_station`, whose commands have the numbers from `first` on. -/
def sendCertToStation (first : ℕ) (cert : X509Certificate) (kind : String) :
    Program String Files InitError Unit := do
  let _ ← sessionExec calls first (loadCommand kind (x509.toPem cert)) .connection
  let _ ← sessionExec calls (first + 1) chownCommand .connection
  let _ ← sessionExec calls (first + 2) restartCommand .connection
  return ()

/-- `save_certificate`. -/
def saveCertificate (file : FileCalls) (cert : X509Certificate) (path : String) :
    Program String Files InitError Unit :=
  (writeFile file path (utf8 (x509.toPem cert))).mapError fun _ ↦ .pki

/-- The file of a certificate of a station in a PKI directory. -/
def certFile (pkiDir name suffix : String) : String :=
  pkiDir ++ "/CERT/" ++ name ++ suffix

/-- `init_keysas`. -/
def initKeysas (ip name caPwd : String) : Program String Files InitError String := do
  let sshKey ← .ofExcept (okOr calls.sshKey .noSshKey)
  let pkiDir ← .ofExcept ((getPkiDir calls.store).mapError fun _ ↦ .pkiConfiguration)
  let pkiInfo ← .ofExcept ((getPkiInfo calls.store).mapError fun _ ↦ .pkiConfiguration)
  .require (calls.connects ip sshKey) .connectionFailed
  let csrs ← cmdGenerateKeyAndGetCsr calls name
  let stCaKeys ← .ofExcept ((HybridKeyPair.load formats x509 (calls.directory pkiDir) "st-ca" "st"
    "st" caPwd).mapError fun _ ↦ .pki)
  let usbKeys ← .ofExcept ((HybridKeyPair.load formats x509 (calls.directory pkiDir) "usb" "usb"
    "usb" caPwd).mapError fun _ ↦ .pki)
  let certCl ← .ofExcept ((generateCertFromCsr x509 stCaKeys csrs.1 pkiInfo true calls.nowCl
    calls.serialCl).mapError fun _ ↦ .pki)
  let certPq ← .ofExcept ((generateCertFromCsr x509 stCaKeys csrs.2 pkiInfo true calls.nowPq
    calls.serialPq).mapError fun _ ↦ .pki)
  saveCertificate x509 calls.fileCl certCl (certFile pkiDir name "-cl.pem")
  saveCertificate x509 calls.filePq certCl (certFile pkiDir name "-pq.pem")
  sendCertToStation x509 calls 1 certCl "file-cl"
  sendCertToStation x509 calls 4 certPq "file-pq"
  sendCertToStation x509 calls 7 usbKeys.classicCert "usb-cl"
  sendCertToStation x509 calls 10 usbKeys.pqCert "usb-pq"
  return "true"

end Programs

/-! ### What the steps do -/

section Steps

variable {x509 : X509} {calls : InitCalls}

/-- A command that is answered leaves the files as they are. -/
theorem establishes_sessionExec {number : ℕ} {command : String} {error : InitError}
    {files : Files} :
    (sessionExec calls number command error).Establishes files fun _ after output ↦
      after = files ∧ calls.answers number command = some output := by
  rw [sessionExec, Program.establishes_ofExcept_bind_iff]
  intro output houtput
  rw [Program.establishes_emit_bind_iff, Program.establishes_pure_iff]
  exact ⟨rfl, okOr_eq_ok_iff.mp houtput⟩

theorem run_sessionExec {number : ℕ} {command : String} {error : InitError} {output : List UInt8}
    (houtput : calls.answers number command = some output) (files : Files) :
    (sessionExec calls number command error).run files = ⟨[command], files, .ok output⟩ := by
  rw [sessionExec, houtput]
  rfl

/-- The two requests of a station, when they are there. -/
def requests (calls : InitCalls) (name : String) : Except InitError (CertReq × CertReq) := do
  let nameEscaped ← okOr (calls.tryQuote name) .pki
  let output ← okOr (calls.answers 0 (generateCommand nameEscaped)) .pki
  readCsrs calls output

theorem establishes_cmdGenerateKeyAndGetCsr {name : String} {files : Files} :
    (cmdGenerateKeyAndGetCsr calls name).Establishes files fun _ after csrs ↦
      after = files ∧ requests calls name = .ok csrs := by
  rw [cmdGenerateKeyAndGetCsr, Program.establishes_ofExcept_bind_iff]
  intro nameEscaped hname
  refine Program.establishes_bind (establishes_sessionExec.mono ?_)
  rintro _ _ output ⟨rfl, houtput⟩ csrs hcsrs
  refine ⟨rfl, ?_⟩
  rw [requests, okOr_eq_ok_iff.mp hname, okOr_some, ok_bind, houtput, okOr_some, ok_bind]
  exact hcsrs

theorem run_cmdGenerateKeyAndGetCsr {name : String} {csrs : CertReq × CertReq}
    (hcsrs : requests calls name = .ok csrs) (files : Files) :
    ∃ command, (cmdGenerateKeyAndGetCsr calls name).run files = ⟨[command], files, .ok csrs⟩ := by
  obtain ⟨nameEscaped, hname, hcsrs⟩ := exists_of_okOr_bind_eq_ok hcsrs
  obtain ⟨output, houtput, hcsrs⟩ := exists_of_okOr_bind_eq_ok hcsrs
  refine ⟨generateCommand nameEscaped, ?_⟩
  rw [cmdGenerateKeyAndGetCsr, hname, okOr_some, Program.run_ofExcept_ok_bind, Program.run_bind,
    run_sessionExec houtput]
  show Ending.mk [generateCommand nameEscaped] files (readCsrs calls output) = _
  rw [hcsrs]

/-- The station answers the three commands by which a certificate is sent. -/
def InitCalls.Answers (calls : InitCalls) (first : ℕ) (kind output : String) : Prop :=
  (calls.answers first (loadCommand kind output)).isSome = true ∧
    (calls.answers (first + 1) chownCommand).isSome = true ∧
      (calls.answers (first + 2) restartCommand).isSome = true

theorem establishes_sendCertToStation {first : ℕ} {cert : X509Certificate} {kind : String}
    {files : Files} :
    (sendCertToStation x509 calls first cert kind).Establishes files fun _ after _ ↦
      after = files ∧ calls.Answers first kind (x509.toPem cert) := by
  rw [sendCertToStation]
  refine Program.establishes_bind (establishes_sessionExec.mono ?_)
  rintro _ _ loaded ⟨rfl, hloaded⟩
  refine Program.establishes_bind (establishes_sessionExec.mono ?_)
  rintro _ _ owned ⟨rfl, howned⟩
  refine Program.establishes_bind (establishes_sessionExec.mono ?_)
  rintro _ _ restarted ⟨rfl, hrestarted⟩
  rw [Program.establishes_pure_iff]
  exact ⟨rfl, Option.isSome_of_eq_some hloaded, Option.isSome_of_eq_some howned,
    Option.isSome_of_eq_some hrestarted⟩

theorem run_sendCertToStation {first : ℕ} {cert : X509Certificate} {kind : String}
    (hanswers : calls.Answers first kind (x509.toPem cert)) (files : Files) :
    (sendCertToStation x509 calls first cert kind).run files =
      ⟨[loadCommand kind (x509.toPem cert), chownCommand, restartCommand], files, .ok ()⟩ := by
  obtain ⟨hload, hchown, hrestart⟩ := hanswers
  obtain ⟨loaded, hloaded⟩ := Option.isSome_iff_exists.mp hload
  obtain ⟨owned, howned⟩ := Option.isSome_iff_exists.mp hchown
  obtain ⟨restarted, hrestarted⟩ := Option.isSome_iff_exists.mp hrestart
  rw [sendCertToStation, Program.run_bind, run_sessionExec hloaded]
  dsimp only
  rw [Program.run_bind, run_sessionExec howned]
  dsimp only
  rw [Program.run_bind, run_sessionExec hrestarted]
  rfl

/-- There is room for a certificate in a file. -/
def Writable (file : FileCalls) (x509 : X509) (cert : X509Certificate) : Prop :=
  file.creates = true ∧ (utf8 (x509.toPem cert)).length ≤ file.room

theorem writable_succeeding (x509 : X509) (cert : X509Certificate) :
    Writable (.succeeding (utf8 (x509.toPem cert)).length) x509 cert :=
  ⟨rfl, le_rfl⟩

theorem establishes_saveCertificate {file : FileCalls} {cert : X509Certificate} {path : String}
    {files : Files} :
    (saveCertificate x509 file cert path).Establishes files fun _ after _ ↦
      Writable file x509 cert ∧ Assigns files after path (some (utf8 (x509.toPem cert))) := by
  rw [saveCertificate, Program.establishes_mapError_iff]
  intro value hvalue
  exact ⟨ends_writeFile_iff.mp ⟨value, hvalue⟩, (establishes_writeFile value hvalue).2⟩

theorem run_saveCertificate {file : FileCalls} {cert : X509Certificate} (path : String)
    (hwritable : Writable file x509 cert) (files : Files) :
    ∃ after, (saveCertificate x509 file cert path).run files = ⟨[], after, .ok ()⟩ ∧
      Assigns files after path (some (utf8 (x509.toPem cert))) := by
  obtain ⟨hcreates, hroom⟩ := hwritable
  have hassigns := @assigns_run_writeFile String file path (utf8 (x509.toPem cert)) files hcreates
  rw [run_writeFile hcreates, List.take_of_length_le hroom] at hassigns
  refine ⟨_, ?_, hassigns⟩
  rw [saveCertificate, Program.run_mapError, run_writeFile hcreates, if_pos hroom,
    List.take_of_length_le hroom]
  rfl

end Steps

/-! ### Initialisations -/

section Initialization

variable (schemes : Schemes) in
/-- What an initialisation finds and makes on its way. -/
structure Initialization where
  sshKey : String
  pkiDir : String
  pkiInfo : CertificateFields
  csrCl : CertReq
  csrPq : CertReq
  stCaKeys : HybridKeyPair schemes
  usbKeys : HybridKeyPair schemes
  certCl : X509Certificate
  certPq : X509Certificate

variable {schemes : Schemes} (formats : KeyFormats schemes) (x509 : X509) (calls : InitCalls)
  (ip name caPwd : String)

/-- The certificates are those that are issued for the two requests of the station. -/
structure Initialization.Issued (init : Initialization schemes) : Prop where
  pkiDir : getPkiDir calls.store = .ok init.pkiDir
  pkiInfo : getPkiInfo calls.store = .ok init.pkiInfo
  csrs : requests calls name = .ok (init.csrCl, init.csrPq)
  stCaKeys : HybridKeyPair.load formats x509 (calls.directory init.pkiDir) "st-ca" "st" "st" caPwd =
    .ok init.stCaKeys
  certCl : generateCertFromCsr x509 init.stCaKeys init.csrCl init.pkiInfo true calls.nowCl
    calls.serialCl = .ok init.certCl
  certPq : generateCertFromCsr x509 init.stCaKeys init.csrPq init.pkiInfo true calls.nowPq
    calls.serialPq = .ok init.certPq

/-- No step of the initialisation fails. -/
structure Initialization.Of (init : Initialization schemes) : Prop
    extends init.Issued formats x509 calls name caPwd where
  sshKey : calls.sshKey = some init.sshKey
  connects : calls.connects ip init.sshKey = true
  usbKeys : HybridKeyPair.load formats x509 (calls.directory init.pkiDir) "usb" "usb" "usb" caPwd =
    .ok init.usbKeys
  fileCl : Writable calls.fileCl x509 init.certCl
  filePq : Writable calls.filePq x509 init.certCl
  sendsCl : calls.Answers 1 "file-cl" (x509.toPem init.certCl)
  sendsPq : calls.Answers 4 "file-pq" (x509.toPem init.certPq)
  sendsUsbCl : calls.Answers 7 "usb-cl" (x509.toPem init.usbKeys.classicCert)
  sendsUsbPq : calls.Answers 10 "usb-pq" (x509.toPem init.usbKeys.pqCert)

variable {formats x509 calls ip name caPwd}

/-- An initialisation that returns has not failed in any step. -/
theorem exists_initialization_of_ends {files : Files}
    (hends : (initKeysas formats x509 calls ip name caPwd).Ends files) :
    ∃ init : Initialization schemes, init.Of formats x509 calls ip name caPwd := by
  have hestablishes : (initKeysas formats x509 calls ip name caPwd).Establishes files
      fun _ _ _ ↦ ∃ init : Initialization schemes, init.Of formats x509 calls ip name caPwd := by
    simp only [initKeysas, Program.establishes_ofExcept_bind_iff,
      Program.establishes_require_bind_iff, okOr_eq_ok_iff, mapError_eq_ok_iff]
    intro sshKey hsshKey pkiDir hpkiDir pkiInfo hpkiInfo hconnects
    refine Program.establishes_bind (establishes_cmdGenerateKeyAndGetCsr.mono ?_)
    rintro _ _ ⟨csrCl, csrPq⟩ ⟨rfl, hcsrs⟩
    simp only [Program.establishes_ofExcept_bind_iff, mapError_eq_ok_iff]
    intro stCaKeys hstCaKeys usbKeys husbKeys certCl hcertCl certPq hcertPq
    refine Program.establishes_bind (establishes_saveCertificate.mono ?_)
    rintro _ _ _ ⟨hfileCl, -⟩
    refine Program.establishes_bind (establishes_saveCertificate.mono ?_)
    rintro _ _ _ ⟨hfilePq, -⟩
    refine Program.establishes_bind (establishes_sendCertToStation.mono ?_)
    rintro _ _ _ ⟨rfl, hsendsCl⟩
    refine Program.establishes_bind (establishes_sendCertToStation.mono ?_)
    rintro _ _ _ ⟨rfl, hsendsPq⟩
    refine Program.establishes_bind (establishes_sendCertToStation.mono ?_)
    rintro _ _ _ ⟨rfl, hsendsUsbCl⟩
    refine Program.establishes_bind (establishes_sendCertToStation.mono ?_)
    rintro _ _ _ ⟨rfl, hsendsUsbPq⟩
    rw [Program.establishes_pure_iff]
    exact ⟨⟨sshKey, pkiDir, pkiInfo, csrCl, csrPq, stCaKeys, usbKeys, certCl, certPq⟩,
      { sshKey := hsshKey, pkiDir := hpkiDir, pkiInfo := hpkiInfo, connects := hconnects,
        csrs := hcsrs, stCaKeys := hstCaKeys, usbKeys := husbKeys, certCl := hcertCl,
        certPq := hcertPq, fileCl := hfileCl, filePq := hfilePq, sendsCl := hsendsCl,
        sendsPq := hsendsPq, sendsUsbCl := hsendsUsbCl, sendsUsbPq := hsendsUsbPq }⟩
  obtain ⟨value, hvalue⟩ := hends
  exact hestablishes value hvalue

/-- The commands by which the four certificates of an initialisation are sent. -/
def Initialization.loadCommands (init : Initialization schemes) (x509 : X509) : List String :=
  [loadCommand "file-cl" (x509.toPem init.certCl), chownCommand, restartCommand,
    loadCommand "file-pq" (x509.toPem init.certPq), chownCommand, restartCommand,
    loadCommand "usb-cl" (x509.toPem init.usbKeys.classicCert), chownCommand, restartCommand,
    loadCommand "usb-pq" (x509.toPem init.usbKeys.pqCert), chownCommand, restartCommand]

/-- What an initialisation does in which no step fails: both files get the first certificate. -/
theorem Initialization.Of.exists_run {init : Initialization schemes}
    (hinit : init.Of formats x509 calls ip name caPwd) (files : Files) :
    ∃ command after, (initKeysas formats x509 calls ip name caPwd).run files =
        ⟨command :: init.loadCommands x509, after, .ok "true"⟩ ∧
      after.lookup (certFile init.pkiDir name "-cl.pem") =
        some (utf8 (x509.toPem init.certCl)) ∧
      after.lookup (certFile init.pkiDir name "-pq.pem") =
        some (utf8 (x509.toPem init.certCl)) := by
  obtain ⟨command, hcommand⟩ := run_cmdGenerateKeyAndGetCsr hinit.csrs files
  obtain ⟨middle, hfileCl, hmiddle⟩ :=
    run_saveCertificate (certFile init.pkiDir name "-cl.pem") hinit.fileCl files
  obtain ⟨after, hfilePq, hafter⟩ :=
    run_saveCertificate (certFile init.pkiDir name "-pq.pem") hinit.filePq middle
  have hpaths : certFile init.pkiDir name "-cl.pem" ≠ certFile init.pkiDir name "-pq.pem" := by
    rw [certFile, certFile, ne_eq, String.append_right_inj]
    decide
  refine ⟨command, after, ?_, ?_, hafter.lookup_self⟩
  swap
  · rw [hafter.lookup_of_ne hpaths, hmiddle.lookup_self]
  simp only [initKeysas, hinit.sshKey, hinit.pkiDir, hinit.pkiInfo, okOr_some, Except.mapError,
    Program.run_ofExcept_ok_bind, Program.run_require_bind, hinit.connects, if_true]
  rw [Program.run_bind, hcommand]
  simp only [hinit.stCaKeys, hinit.usbKeys, hinit.certCl, hinit.certPq,
    Program.run_ofExcept_ok_bind]
  rw [Program.run_bind, hfileCl]
  dsimp only
  rw [Program.run_bind, hfilePq]
  dsimp only
  rw [Program.run_bind, run_sendCertToStation hinit.sendsCl]
  dsimp only
  rw [Program.run_bind, run_sendCertToStation hinit.sendsPq]
  dsimp only
  rw [Program.run_bind, run_sendCertToStation hinit.sendsUsbCl]
  dsimp only
  rw [Program.run_bind, run_sendCertToStation hinit.sendsUsbPq]
  rfl

/-- What is issued for the two requests is determined by what the program finds. -/
theorem Initialization.Issued.unique {init other : Initialization schemes}
    (hissued : init.Issued formats x509 calls name caPwd)
    (hother : other.Issued formats x509 calls name caPwd) :
    other = { init with sshKey := other.sshKey, usbKeys := other.usbKeys } := by
  obtain ⟨sshKey, pkiDir, pkiInfo, csrCl, csrPq, stCaKeys, usbKeys, certCl, certPq⟩ := other
  obtain rfl := Except.ok.inj (hissued.pkiDir.symm.trans hother.pkiDir)
  obtain rfl := Except.ok.inj (hissued.pkiInfo.symm.trans hother.pkiInfo)
  obtain ⟨rfl, rfl⟩ := Prod.mk.inj (Except.ok.inj (hissued.csrs.symm.trans hother.csrs))
  obtain rfl := Except.ok.inj (hissued.stCaKeys.symm.trans hother.stCaKeys)
  obtain rfl := Except.ok.inj (hissued.certCl.symm.trans hother.certCl)
  obtain rfl := Except.ok.inj (hissued.certPq.symm.trans hother.certPq)
  rfl

/-- An initialisation is determined by what it meets. -/
theorem Initialization.Of.unique {init other : Initialization schemes}
    (hinit : init.Of formats x509 calls ip name caPwd)
    (hother : other.Of formats x509 calls ip name caPwd) : other = init := by
  rw [hinit.toIssued.unique hother.toIssued,
    Option.some.inj (hother.sshKey.symm.trans hinit.sshKey)]
  have husbKeys := hother.usbKeys
  rw [hinit.toIssued.unique hother.toIssued, hinit.usbKeys] at husbKeys
  rw [← Except.ok.inj husbKeys]

/-- When the initialisation returns, each of the two certificates of the station is in its own file,
and has been sent under its own kind. -/
def FilesRightCertificates (formats : KeyFormats schemes) (x509 : X509) (calls : InitCalls)
    (ip name caPwd : String) (files : Files) : Prop :=
  ∀ init : Initialization schemes, init.Issued formats x509 calls name caPwd →
    (initKeysas formats x509 calls ip name caPwd).Establishes files fun trace after _ ↦
      after.lookup (certFile init.pkiDir name "-cl.pem") =
          some (utf8 (x509.toPem init.certCl)) ∧
        after.lookup (certFile init.pkiDir name "-pq.pem") =
          some (utf8 (x509.toPem init.certPq)) ∧
        loadCommand "file-cl" (x509.toPem init.certCl) ∈ trace ∧
        loadCommand "file-pq" (x509.toPem init.certPq) ∈ trace

/-- An initialisation in which no step fails puts the first certificate into the file of the second
one, so that this file is right only when they are written alike. -/
theorem Initialization.Of.toPem_eq {init : Initialization schemes} {files : Files}
    (hinit : init.Of formats x509 calls ip name caPwd)
    (hfiles : FilesRightCertificates formats x509 calls ip name caPwd files) :
    x509.toPem init.certPq = x509.toPem init.certCl := by
  obtain ⟨command, after, hrun, -, hafter⟩ := hinit.exists_run files
  have hpost := hfiles init hinit.toIssued "true" (by rw [hrun])
  rw [hrun] at hpost
  exact utf8_injective (Option.some.inj (hpost.2.1.symm.trans hafter))

/-- The files get the right certificates exactly when some step fails, or when the two certificates
are written alike: the first one is saved under both names. -/
theorem filesRightCertificates_iff (formats : KeyFormats schemes) (x509 : X509) (calls : InitCalls)
    (ip name caPwd : String) (files : Files) :
    FilesRightCertificates formats x509 calls ip name caPwd files ↔
      ∀ init : Initialization schemes, init.Of formats x509 calls ip name caPwd →
        x509.toPem init.certPq = x509.toPem init.certCl := by
  constructor
  · intro hfiles init hinit
    exact hinit.toPem_eq hfiles
  · intro halike init hissued value hvalue
    obtain ⟨other, hother⟩ := exists_initialization_of_ends ⟨value, hvalue⟩
    have hpem := halike other hother
    obtain ⟨command, after, hrun, hafterCl, hafterPq⟩ := hother.exists_run files
    rw [hissued.unique hother.toIssued] at hpem hafterCl hafterPq
    rw [hrun]
    refine ⟨hafterCl, by rw [hpem]; exact hafterPq, ?_⟩
    rw [hissued.unique hother.toIssued]
    simp [Initialization.loadCommands]

/-- Certificates for an Ed25519 and an ML-DSA-87 request are not written alike. -/
theorem Initialization.Issued.toPem_ne {init : Initialization schemes}
    (hissued : init.Issued formats x509 calls name caPwd)
    (hcl : init.csrCl.info.publicKey.algorithm.oid = ed25519Oid)
    (hpq : init.csrPq.info.publicKey.algorithm.oid = mlDsa87Oid) :
    x509.toPem init.certPq ≠ x509.toPem init.certCl := by
  intro htext
  have hparsed := congrArg x509.fromPem htext
  rw [x509.fromPem_toPem, x509.fromPem_toPem] at hparsed
  have hoid := congrArg
    (fun cert ↦ cert.tbsCertificate.subjectPublicKeyInfo.algorithm.oid) (Option.some.inj hparsed)
  rw [oid_of_generateCertFromCsr hissued.certCl, oid_of_generateCertFromCsr hissued.certPq,
    hcl, hpq] at hoid
  exact absurd hoid (by decide)

end Initialization

/-! ### A sample station -/

/-- The row of a PKI. -/
def sampleRow : CaRow :=
  .of "/pki" (sampleInfos "Keysas")

/-- A store with this row. -/
def sampleStore : PkiStore :=
  ⟨true, some ((RowTable.empty _).replace sampleRow)⟩

theorem getPkiDir_sampleStore : getPkiDir sampleStore = .ok "/pki" := by decide +kernel

theorem getPkiInfo_sampleStore : getPkiInfo sampleStore = .ok sampleRow.infos := by
  rw [sampleStore, getPkiInfo_connected]
  rfl

theorem validFor_sampleRow : sampleRow.infos.ValidFor 0 :=
  ⟨365, rfl, by decide, by decide⟩

/-- There is a directory with the keys of both authorities. -/
theorem exists_sampleDirectory :
    ∃ directory, HybridKeyPair.load unaryFormats unaryX509 directory "st-ca" "st" "st" "secret" =
        .ok markedCa.toHybridKeyPair ∧
      HybridKeyPair.load unaryFormats unaryX509 directory "usb" "usb" "usb" "secret" =
        .ok markedCa.toHybridKeyPair := by
  have hdocuments : ∃ classic pq,
      markedCa.toHybridKeyPair.Documents unaryFormats "secret" classic pq :=
    ⟨_, _, ⟨[], rfl⟩, ⟨[], rfl⟩⟩
  have hkey : markedCa.toHybridKeyPair.HasPublicKey := ⟨_, ofLength_repeated 2592 2⟩
  obtain ⟨classic, pq, hdocuments⟩ := hdocuments
  let files : List PkiWrite := markedCa.toHybridKeyPair.files unaryX509 "st-ca" "st" classic pq ++
    markedCa.toHybridKeyPair.files unaryX509 "usb" "usb" classic pq
  have hnodup : (files.map Prod.fst).Nodup := by
    show [("st", "st-ca-cl.p8"), ("st", "st-ca-pq.p8"), ("st", "st-ca-cl.pem"),
      ("st", "st-ca-pq.pem"), ("usb", "usb-cl.p8"), ("usb", "usb-pq.p8"), ("usb", "usb-cl.pem"),
      ("usb", "usb-pq.pem")].Nodup
    decide
  refine ⟨generatedDirectory ⟨true, [], ∅⟩ files, load_of_storedIn ?_, load_of_storedIn ?_⟩
  · exact storedIn_generatedDirectory hdocuments hkey hnodup
      fun _ hfile ↦ List.mem_append_left _ hfile
  · exact storedIn_generatedDirectory hdocuments hkey hnodup
      fun _ hfile ↦ List.mem_append_right _ hfile

/-- The requests of a station with two keys, and certificates for them. -/
theorem exists_sampleCertificates :
    ∃ csrCl csrPq certCl certPq,
      csrCl.info.publicKey.algorithm.oid = ed25519Oid ∧
      csrPq.info.publicKey.algorithm.oid = mlDsa87Oid ∧
      generateCertFromCsr unaryX509 markedCa.toHybridKeyPair csrCl sampleRow.infos true 0 [] =
        .ok certCl ∧
      generateCertFromCsr unaryX509 markedCa.toHybridKeyPair csrPq sampleRow.infos true 0 [] =
        .ok certPq := by
  obtain ⟨csrPq, -, hinfo, hself⟩ :=
    @exists_generateCsrPq markedSchemes unaryX509 idealSchemes_marked (4 : UInt8) []
  have hoid : csrPq.info.publicKey.algorithm.oid = KeyAlgorithm.mlDsa87.oid := by
    rw [hinfo]
    rfl
  have hbytes : csrPq.info.publicKey.subjectPublicKey.asBytes =
      some (markedSchemes.mlDsa87.publicKeyBytes (4 : UInt8)) := by
    rw [hinfo]
    rfl
  obtain ⟨certCl, hcertCl, -⟩ := exists_of_selfSignedBy idealSchemes_marked
    markedCa.toHybridKeyPair validFor_sampleRow true [] rfl rfl
    (@selfSignedBy_generateCsrClassic markedSchemes unaryX509 (3 : UInt8) [])
  obtain ⟨certPq, hcertPq, -⟩ := exists_of_selfSignedBy idealSchemes_marked
    markedCa.toHybridKeyPair validFor_sampleRow true [] hoid hbytes hself
  exact ⟨_, csrPq, certCl, certPq, rfl, hoid, hcertCl, hcertPq⟩

/-- A run in which every step succeeds, for two requests that are written as two words. -/
def sampleInitCalls (directory : PkiDirectory) (csrCl csrPq : CertReq) (room : ℕ) : InitCalls where
  sshKey := some "/home/admin/.ssh/id"
  store := sampleStore
  connects _ _ := true
  tryQuote name := some name
  csrFromPem pem := if pem = "CL" then some csrCl else if pem = "PQ" then some csrPq else none
  answers _ _ := some (utf8 "CL|PQ")
  directory _ := directory
  nowCl := 0
  serialCl := []
  nowPq := 0
  serialPq := []
  fileCl := .succeeding room
  filePq := .succeeding room

theorem requests_sampleInitCalls (directory : PkiDirectory) (csrCl csrPq : CertReq) (room : ℕ) :
    requests (sampleInitCalls directory csrCl csrPq room) "station" = .ok (csrCl, csrPq) := by
  have hcut : splitOnce '|' "CL|PQ" = some ("CL", "PQ") := by decide +kernel
  have htrim : trimEndLinePairs "PQ" = "PQ" := by decide +kernel
  rw [requests]
  show readCsrs (sampleInitCalls directory csrCl csrPq room) (utf8 "CL|PQ") = _
  rw [readCsrs, fromUtf8_utf8, okOr_some, ok_bind, hcut, Option.map_some, Option.map_some,
    Option.getD_some]
  simp only [sampleInitCalls, okOr_some, ok_bind, htrim, if_true]
  rfl

/-- In a run in which every step succeeds, the file of the ML-DSA-87 certificate gets the other
certificate. -/
theorem not_filesRightCertificates_sample :
    ∃ calls, ¬ FilesRightCertificates unaryFormats unaryX509 calls "192.168.0.2" "station" "secret"
      ∅ := by
  obtain ⟨directory, hstCa, husb⟩ := exists_sampleDirectory
  obtain ⟨csrCl, csrPq, certCl, certPq, hcl, hpq, hcertCl, hcertPq⟩ := exists_sampleCertificates
  let room := (utf8 (unaryX509.toPem certCl)).length
  let init : Initialization markedSchemes := ⟨"/home/admin/.ssh/id", "/pki", sampleRow.infos, csrCl,
    csrPq, markedCa.toHybridKeyPair, markedCa.toHybridKeyPair, certCl, certPq⟩
  have hroom : Writable (.succeeding room) unaryX509 certCl := writable_succeeding unaryX509 certCl
  have hinit : init.Of unaryFormats unaryX509 (sampleInitCalls directory csrCl csrPq room)
      "192.168.0.2" "station" "secret" :=
    { pkiDir := getPkiDir_sampleStore
      pkiInfo := getPkiInfo_sampleStore
      csrs := requests_sampleInitCalls directory csrCl csrPq room
      stCaKeys := hstCa
      certCl := hcertCl
      certPq := hcertPq
      sshKey := rfl
      connects := rfl
      usbKeys := husb
      fileCl := hroom
      filePq := hroom
      sendsCl := ⟨rfl, rfl, rfl⟩
      sendsPq := ⟨rfl, rfl, rfl⟩
      sendsUsbCl := ⟨rfl, rfl, rfl⟩
      sendsUsbPq := ⟨rfl, rfl, rfl⟩ }
  exact ⟨_, fun hfiles ↦ hinit.toIssued.toPem_ne hcl hpq (hinit.toPem_eq hfiles)⟩

end Keysas.Admin
