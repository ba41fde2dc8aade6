import Keysas.Admin.StationInit
import Keysas.Posix.ShellWords
import Keysas.Sign.SigningKeypair

/-!
# Enrolment of a station

`initKeysas` runs on the machine of the administrator and keysas-sign on the station. They meet in
the text of a shell command and in the text that a command prints. `Station.execute` is a command on
the station: its shell cuts it into words, and keysas-sign reads these as its arguments.

`readCsrs_hybrid` is the way of the two requests to the administrator, and `words_loadCommand` that
of a certificate to the station. `enrolled_of_initKeysas` puts both
together: when the administrator is done, keysas-out loads keys whose reports are accepted under the
certificates of the authority for stations.
-/

set_option autoImplicit false
set_option relaxedAutoImplicit false

namespace Keysas.Admin

open Crypto Keys Pki Posix Runs RustStd Sign Store Wire.Bincode

open Reports hiding HybridKeyPair

/-! ### Requests on their way to the administrator -/

/-- The line feeds behind a text that does not end in one are trimmed when they are two. -/
theorem trimEndLinePairs_append {text : String} (htext : text.toList.getLast? ≠ some '\n') :
    trimEndLinePairs (text ++ "\n" ++ "\n") = text := by
  have hreverse : (text ++ "\n" ++ "\n").toList.reverse = '\n' :: '\n' :: text.toList.reverse := by
    simp
  have hstop : dropLinePairs text.toList.reverse = text.toList.reverse := by
    rw [List.getLast?_eq_head?_reverse] at htext
    rcases hrest : text.toList.reverse with _ | ⟨first, rest⟩
    · rfl
    · have hfirst : first ≠ '\n' := by
        rintro rfl
        exact htext (by rw [hrest]; rfl)
      rw [dropLinePairs]
      rintro more ⟨⟩
      exact absurd rfl hfirst
  rw [trimEndLinePairs, hreverse, dropLinePairs, hstop, List.reverse_reverse, String.ofList_toList]

/-- The requests that a station prints are read by its administrator. -/
theorem readCsrs_hybrid {csrPem : CsrPem} {calls : InitCalls}
    (hpem : calls.csrFromPem = csrPem.fromPem) (csrCl csrPq : CertReq) :
    readCsrs calls (utf8 (csrPem.hybrid csrCl csrPq ++ "\n")) = .ok (csrCl, csrPq) := by
  have hbar : '|' ∉ (csrPem.toPem csrCl).toList := by
    rw [CsrPem.toPem, String.toList_append, List.mem_append]
    rintro (hmem | hmem)
    · exact csrPem.bar_not_mem csrCl hmem
    · exact absurd hmem (by decide)
  have hcut : splitOnce '|' (csrPem.hybrid csrCl csrPq ++ "\n") =
      some (csrPem.toPem csrCl, csrPem.toPem csrPq ++ "\n") := by
    rw [CsrPem.hybrid, String.append_assoc]
    exact splitOnce_append hbar _
  have htrim : trimEndLinePairs (csrPem.toPem csrPq ++ "\n") = csrPem.text csrPq := by
    refine trimEndLinePairs_append ?_
    rw [csrPem.getLast?_text]
    decide
  rw [readCsrs, fromUtf8_utf8, okOr_some, ok_bind, hcut, Option.map_some, Option.map_some,
    Option.getD_some, hpem, CsrPem.toPem, csrPem.fromPem_line, okOr_some, ok_bind, okOr_some,
    ok_bind, ← CsrPem.toPem, htrim, csrPem.fromPem_text, okOr_some, ok_bind]
  rfl

/-- A station that prints nothing has no requests. -/
theorem readCsrs_empty {csrPem : CsrPem} {calls : InitCalls}
    (hpem : calls.csrFromPem = csrPem.fromPem) (csrs : CertReq × CertReq) :
    readCsrs calls (utf8 "") ≠ .ok csrs := by
  intro hread
  have hcut : splitOnce '|' "" = none := by decide
  rw [readCsrs, fromUtf8_utf8, okOr_some, ok_bind, hcut, Option.map_none, Option.getD_none, hpem,
    csrPem.fromPem_empty] at hread
  cases hread

/-! ### Commands on their way to the station -/

/-- PEM has neither a bar nor a character that a shell changes within double quotes. -/
structure PemText (x509 : X509) : Prop where
  plain : ∀ cert, ∀ character ∈ (x509.toPem cert).toList, isPlainInDouble character
  bar_not_mem : ∀ cert, '|' ∉ (x509.toPem cert).toList

section Commands

variable (shell : Shell)

/-- The words of the command that generates keys. Assumes: the quoted name stands for the name. -/
theorem words_generateCommand {nameEscaped name : String} (hname : shell.Quotes nameEscaped name) :
    shell.words (generateCommand nameEscaped) =
      some ["sudo", "/usr/bin/keysas-sign", "--generate", "--name", name] := by
  have hsudo : isProgramName "sudo" = true := by decide
  have hfront : ["/usr/bin/keysas-sign", "--generate", "--name"].all isPlainWord = true := by
    decide
  have hjoined : "sudo /usr/bin/keysas-sign --generate" ++ " --name " =
      joinPieces "sudo" ["/usr/bin/keysas-sign", "--generate", "--name"] ++ " " := by
    decide +kernel
  have hwords := shell.words_joinPieces hsudo
    (shell.forall₂_quotes_append hfront (.cons hname .nil))
  unfold generateCommand
  rw [append_joinPieces hjoined nameEscaped]
  exact hwords

/-- The words of the command that loads a certificate: its text arrives as it is. Assumes: the kind
is plain. -/
theorem words_loadCommand {kind : String} (hkind : isPlainWord kind = true) {output : String}
    (houtput : ∀ character ∈ output.toList, isPlainInDouble character = true) :
    shell.words (loadCommand kind output) =
      some ["sudo", "/usr/bin/keysas-sign", "--load", "--certtype", kind, "--cert=" ++ output] := by
  have hsudo : isProgramName "sudo" = true := by decide
  have hfront : ["/usr/bin/keysas-sign", "--load", "--certtype"].all isPlainWord = true := by
    decide
  have hoption : isPlainWord "--cert=" = true := by decide
  have hcert : shell.Quotes ("--cert=" ++ ("\"" ++ output ++ "\"")) ("--cert=" ++ output) :=
    shell.quotes_append (shell.quotes_word hoption) (shell.quotes_double houtput)
  have hjoined : "sudo /usr/bin/keysas-sign --load --certtype " =
      joinPieces "sudo" ["/usr/bin/keysas-sign", "--load", "--certtype"] ++ " " := by
    decide +kernel
  have hblank : " --cert=" = " " ++ "--cert=" := by decide
  have hwords := shell.words_joinPieces hsudo
    (shell.forall₂_quotes_append hfront (.cons (shell.quotes_word hkind) (.cons hcert .nil)))
  unfold loadCommand
  rw [hblank, append_option_joinPieces hjoined kind]
  exact hwords

/-- The words of the command that gives files away. -/
def chownWords : List String :=
  ["/bin/chown", "keysas-out:keysas-out", "/etc/keysas/file-sign-cl.p8",
    "/etc/keysas/file-sign-cl.pem", "/etc/keysas/file-sign-pq.p8", "/etc/keysas/file-sign-pq.pem",
    "/etc/keysas/usb-ca-cl.pem", "/etc/keysas/usb-ca-pq.pem"]

theorem words_chownCommand : shell.words chownCommand = some ("sudo" :: chownWords) :=
  shell.words_of_plain (by decide) (by decide +kernel) (by decide +kernel)

theorem words_restartCommand :
    shell.words restartCommand = some ["sudo", "/bin/systemctl", "restart", "keysas"] :=
  shell.words_of_plain (by decide) (by decide +kernel) (by decide +kernel)

end Commands

/-! ### The station -/

/-- What a station is: its formats, its shell, and how keysas-sign reads its command line and what
it meets at each command of a session. -/
structure Station (schemes : Schemes) where
  formats : KeyFormats schemes
  x509 : X509
  csrPem : CsrPem
  shell : Shell
  clap : Clap
  calls : ℕ → SignCalls schemes

section Station

variable {schemes : Schemes} (station : Station schemes)

/-- A command on the station: what it prints, and the contents of the files behind it. The other
commands of a session change no content. -/
def Station.execute (number : ℕ) (command : String) (files : Files) : String × Files :=
  match station.shell.words command with
  | some (front :: program :: arguments) =>
    if front = "sudo" ∧ program = "/usr/bin/keysas-sign" then
      keysasSign station.formats station.x509 station.csrPem station.clap (station.calls number)
        arguments files
    else ("", files)
  | _ => ("", files)

/-- The files of the station after the commands of a session from some number on. -/
def Station.serve (station : Station schemes) (number : ℕ) : List String → Files → Files
  | [], files => files
  | command :: rest, files =>
    station.serve (number + 1) rest (station.execute number command files).2

/-- An administrator meets a station: what the station prints for the first command is what the
administrator is answered, the name is quoted for the shell of the station, and both have the same
formats. -/
structure Station.Meets (calls : InitCalls) (files : Files) : Prop where
  answer : ∀ command output, calls.answers 0 command = some output →
    output = utf8 (station.execute 0 command files).1
  quotes : ∀ name quoted, calls.tryQuote name = some quoted → station.shell.Quotes quoted name
  csrFromPem : calls.csrFromPem = station.csrPem.fromPem

variable {station}

theorem execute_of_words {number : ℕ} {command : String} {arguments : List String}
    (hwords : station.shell.words command = some ("sudo" :: "/usr/bin/keysas-sign" :: arguments))
    (files : Files) :
    station.execute number command files =
      keysasSign station.formats station.x509 station.csrPem station.clap (station.calls number)
        arguments files := by
  rw [Station.execute, hwords]
  exact if_pos ⟨rfl, rfl⟩

theorem execute_of_ne {number : ℕ} {command program : String} {arguments : List String}
    (hwords : station.shell.words command = some ("sudo" :: program :: arguments))
    (hprogram : program ≠ "/usr/bin/keysas-sign") (files : Files) :
    station.execute number command files = ("", files) := by
  rw [Station.execute, hwords]
  exact if_neg fun hboth ↦ hprogram hboth.2

@[simp] theorem execute_chownCommand (number : ℕ) (files : Files) :
    station.execute number chownCommand files = ("", files) :=
  execute_of_ne (words_chownCommand _) (by decide) files

@[simp] theorem execute_restartCommand (number : ℕ) (files : Files) :
    station.execute number restartCommand files = ("", files) :=
  execute_of_ne (words_restartCommand _) (by decide) files

/-- The station writes a certificate that it is sent. -/
def Station.Writes (station : Station schemes) (number : ℕ) (cert : X509Certificate) : Prop :=
  Writable (station.calls number).fileCert station.x509 cert

/-- A certificate that is sent to the station gets into the file of its kind. Assumes: it can be
written, and PEM goes through a shell. -/
theorem assigns_execute_loadCommand (hpem : PemText station.x509) {number : ℕ}
    {cert : X509Certificate} (hwrites : station.Writes number cert) {kind path : String}
    (hpath : certPath kind = some path) (hkind : isPlainWord kind = true)
    (hoption : looksLikeOption kind = false) (files : Files) :
    Assigns files (station.execute number (loadCommand kind (station.x509.toPem cert)) files).2
      path (some (utf8 (station.x509.toPem cert))) := by
  have hparses : Parses station.x509.parse (station.x509.toPem cert) := by
    rw [Parses, X509.parse, station.x509.fromPem_toPem]
    rfl
  rw [execute_of_words (words_loadCommand _ hkind (hpem.plain cert))]
  exact assigns_keysasSign_load hpath hoption hparses hwrites.1 hwrites.2 files

/-- The three commands by which a certificate is sent put it into the file of its kind. -/
theorem exists_serve_sent (hpem : PemText station.x509) {number : ℕ} {cert : X509Certificate}
    (hwrites : station.Writes number cert) {kind path : String}
    (hpath : certPath kind = some path) (hkind : isPlainWord kind = true)
    (hoption : looksLikeOption kind = false) (files : Files) :
    ∃ after, Assigns files after path (some (utf8 (station.x509.toPem cert))) ∧
      ∀ rest, station.serve number (loadCommand kind (station.x509.toPem cert) :: chownCommand ::
        restartCommand :: rest) files = station.serve (number + 3) rest after := by
  refine ⟨_, assigns_execute_loadCommand hpem hwrites hpath hkind hoption files, fun rest ↦ ?_⟩
  rw [Station.serve, Station.serve, Station.serve, execute_chownCommand, execute_restartCommand]

/-- What a session leaves that sends four certificates. -/
theorem serve_loadCommands (hpem : PemText station.x509) {init : Initialization schemes}
    (hcl : station.Writes 1 init.certCl) (hpq : station.Writes 4 init.certPq)
    (husbCl : station.Writes 7 init.usbKeys.classicCert)
    (husbPq : station.Writes 10 init.usbKeys.pqCert) (files : Files) :
    let after := station.serve 1 (init.loadCommands station.x509) files
    after.lookup fileCertClPath = some (utf8 (station.x509.toPem init.certCl)) ∧
      after.lookup fileCertPqPath = some (utf8 (station.x509.toPem init.certPq)) ∧
      after.lookup usbCertClPath = some (utf8 (station.x509.toPem init.usbKeys.classicCert)) ∧
      after.lookup usbCertPqPath = some (utf8 (station.x509.toPem init.usbKeys.pqCert)) ∧
      ∀ path, path ∉ [fileCertClPath, fileCertPqPath, usbCertClPath, usbCertPqPath] →
        after.lookup path = files.lookup path := by
  obtain ⟨first, hfirst, hsentFirst⟩ := @exists_serve_sent _ _ hpem 1 _ hcl "file-cl"
    fileCertClPath (by decide) (by decide) (by decide) files
  obtain ⟨second, hsecond, hsentSecond⟩ := @exists_serve_sent _ _ hpem 4 _ hpq "file-pq"
    fileCertPqPath (by decide) (by decide) (by decide) first
  obtain ⟨third, hthird, hsentThird⟩ := @exists_serve_sent _ _ hpem 7 _ husbCl "usb-cl"
    usbCertClPath (by decide) (by decide) (by decide) second
  obtain ⟨fourth, hfourth, hsentFourth⟩ := @exists_serve_sent _ _ hpem 10 _ husbPq "usb-pq"
    usbCertPqPath (by decide) (by decide) (by decide) third
  rw [Initialization.loadCommands, hsentFirst, hsentSecond, hsentThird, hsentFourth, Station.serve]
  refine ⟨?_, ?_, ?_, hfourth.lookup_self, fun path hpath ↦ ?_⟩
  · rw [hfourth.lookup_of_ne (by decide), hthird.lookup_of_ne (by decide),
      hsecond.lookup_of_ne (by decide), hfirst.lookup_self]
  · rw [hfourth.lookup_of_ne (by decide), hthird.lookup_of_ne (by decide), hsecond.lookup_self]
  · rw [hfourth.lookup_of_ne (by decide), hthird.lookup_self]
  · simp only [List.mem_cons, List.not_mem_nil, or_false, not_or] at hpath
    rw [hfourth.lookup_of_ne hpath.2.2.2, hthird.lookup_of_ne hpath.2.2.1,
      hsecond.lookup_of_ne hpath.2.1, hfirst.lookup_of_ne hpath.1]

end Station

/-! ### The session -/

section Session

variable {schemes : Schemes} {formats : KeyFormats schemes} {station : Station schemes}
  {calls : InitCalls} {ip name caPwd : String}

/-- The trace of an initialisation in which no step fails begins with the command for the quoted
name. -/
theorem Initialization.Of.exists_trace {init : Initialization schemes}
    (hinit : init.Of formats station.x509 calls ip name caPwd) (files : Files) :
    ∃ nameEscaped, calls.tryQuote name = some nameEscaped ∧
      ((initKeysas formats station.x509 calls ip name caPwd).run files).trace =
        generateCommand nameEscaped :: init.loadCommands station.x509 := by
  obtain ⟨nameEscaped, hname, hcsrs⟩ := exists_of_okOr_bind_eq_ok hinit.csrs
  obtain ⟨output, houtput, hcsrs⟩ := exists_of_okOr_bind_eq_ok hcsrs
  refine ⟨nameEscaped, hname, ?_⟩
  obtain ⟨command, after, hrun, -⟩ := hinit.exists_run files
  have hfirst : (cmdGenerateKeyAndGetCsr calls name).run files =
      ⟨[generateCommand nameEscaped], files, readCsrs calls output⟩ := by
    rw [cmdGenerateKeyAndGetCsr, hname, okOr_some, Program.run_ofExcept_ok_bind, Program.run_bind,
      run_sessionExec houtput]
    rfl
  have hhead : ((initKeysas formats station.x509 calls ip name caPwd).run files).trace.head? =
      some (generateCommand nameEscaped) := by
    simp only [initKeysas, hinit.sshKey, hinit.pkiDir, hinit.pkiInfo, okOr_some, Except.mapError,
      Program.run_ofExcept_ok_bind, Program.run_require_bind, hinit.connects, if_true]
    rw [Program.run_bind, hfirst, hcsrs]
    rfl
  rw [hrun] at hhead ⊢
  rw [Option.some.inj hhead]

/-- The requests that the administrator reads are those for the keys that the station has saved. -/
theorem exists_keys_of_requests {files : Files} (hmeets : station.Meets calls files)
    {csrs : CertReq × CertReq} (hrequests : requests calls name = .ok csrs) {nameEscaped : String}
    (hname : calls.tryQuote name = some nameEscaped) :
    ∃ classic pq, RequestsFor station.x509 name classic pq csrs.1 csrs.2 ∧
      PrivateKeysIn station.formats filePrivClPath filePrivPqPath keyPasswd classic pq
        (station.execute 0 (generateCommand nameEscaped) files).2 := by
  rw [requests, hname, okOr_some, ok_bind] at hrequests
  obtain ⟨output, houtput, hread⟩ := exists_of_okOr_bind_eq_ok hrequests
  obtain rfl := hmeets.answer _ _ houtput
  rw [execute_of_words (words_generateCommand _ (hmeets.quotes name nameEscaped hname))]
    at hread ⊢
  rcases @keysasSign_generate schemes station.formats station.x509 station.csrPem station.clap
    (station.calls 0) name files with
    hempty | ⟨classic, pq, csrCl, csrPq, hkeys, hprinted, hstored⟩
  · rw [hempty] at hread
    exact absurd hread (readCsrs_empty hmeets.csrFromPem csrs)
  · rw [hprinted, readCsrs_hybrid hmeets.csrFromPem] at hread
    obtain rfl := Except.ok.inj hread
    exact ⟨classic, pq, hkeys, hstored⟩

/-- What is made for a request has the subject and the key of the request, and the signature of the
authority for the algorithm of the request. -/
theorem certifies_of_generateCertFromCsr {x509 : X509} {caKeys : HybridKeyPair schemes}
    {csr : CertReq} {pkiInfo : CertificateFields} {isAppCert : Bool} {now : ℕ}
    {serial pubKey : List UInt8} {cert : X509Certificate}
    (hissued : generateCertFromCsr x509 caKeys csr pkiInfo isAppCert now serial = .ok cert)
    {algorithm : KeyAlgorithm} (hoid : csr.info.publicKey.algorithm.oid = algorithm.oid)
    (hkey : csr.info.publicKey.subjectPublicKey = .fromBytes pubKey) :
    caKeys.Certifies x509 cert csr.info.subject pubKey algorithm := by
  obtain ⟨found, hfound, hissued⟩ := exists_of_okOr_bind_eq_ok hissued
  rw [hkey] at hfound
  obtain rfl : pubKey = found := Option.some.inj hfound
  cases algorithm with
  | ed25519 =>
    have hed25519 : csr.info.publicKey.algorithm.oid = ed25519Oid := hoid
    rw [if_pos hed25519] at hissued
    obtain ⟨⟨⟩, -, hissued⟩ := exists_of_bind_eq_ok hissued
    exact (of_generateCertificateClassic hissued).1
  | mlDsa87 =>
    have hmlDsa87 : csr.info.publicKey.algorithm.oid = mlDsa87Oid := hoid
    have hother : csr.info.publicKey.algorithm.oid ≠ ed25519Oid := by
      rw [hmlDsa87]
      decide
    rw [if_neg hother, if_pos hmlDsa87] at hissued
    obtain ⟨⟨⟩, -, hissued⟩ := exists_of_bind_eq_ok hissued
    exact of_generateCertificatePq hissued

/-! ### The keys of keysas-out -/

/-- `KEY_FILE_DIR`. -/
def keyFileDir : String := "/etc/keysas"

/-- What keysas-out finds among the files of a station: those of the directory of its keys. It runs
in the root directory, so that the path that it makes of a dot and this directory leads there. -/
def keyDirectory (files : Files) : PkiDirectory where
  caDirectory := false
  subdirectories := []
  files := rekey (fun path ↦ (stripPrefix (keyFileDir ++ "/") path).map fun name ↦
    (keyFileDir, name)) some files

theorem read_keyDirectory (files : Files) (name : String) :
    (keyDirectory files).read keyFileDir name = files.lookup (keyFileDir ++ "/" ++ name) := by
  have hkey : ∀ path, ((stripPrefix (keyFileDir ++ "/") path).map fun name ↦
      (keyFileDir, name)) = some (keyFileDir, name) ↔ path = keyFileDir ++ "/" ++ name := by
    intro path
    rw [← stripPrefix_eq_some_iff, Option.map_eq_some_iff]
    constructor
    · rintro ⟨found, hfound, hpair⟩
      rw [hfound, (Prod.mk.inj hpair).2]
    · intro hfound
      exact ⟨name, hfound, rfl⟩
  show ((keyDirectory files).files.lookup (keyFileDir, name)).join = _
  rw [keyDirectory, lookup_rekey hkey]
  cases files.lookup (keyFileDir ++ "/" ++ name) <;> rfl

/-- The keys that keysas-out loads when it starts. -/
def loadSignKeys (station : Station schemes) (files : Files) :
    Except LoadError (HybridKeyPair schemes) :=
  HybridKeyPair.load station.formats station.x509 (keyDirectory files) "file-sign" keyFileDir
    keyFileDir keyPasswd

/-- The certificates that keysas-out puts into its reports. -/
def signCert (station : Station schemes) (keys : HybridKeyPair schemes) : String :=
  station.x509.toPem keys.classicCert ++ "|" ++ station.x509.toPem keys.pqCert

/-- The keys are loaded that have been saved, with the certificates that have been sent. -/
theorem loadSignKeys_of_stored {files : Files} {keys : HybridKeyPair schemes}
    (hstored : PrivateKeysIn station.formats filePrivClPath filePrivPqPath keyPasswd keys.classic
      keys.pq files)
    (hcl : files.lookup fileCertClPath = some (utf8 (station.x509.toPem keys.classicCert)))
    (hpq : files.lookup fileCertPqPath = some (utf8 (station.x509.toPem keys.pqCert))) :
    loadSignKeys station files = .ok keys := by
  obtain ⟨⟨random, classicDocument, hclassic, hclassicFile⟩, ⟨other, pqDocument, hpqDocument,
    hpqFile⟩, publicKey⟩ := hstored
  refine load_of_storedIn ⟨⟨classicDocument, pqDocument, ⟨⟨random, hclassic⟩, ⟨other,
    hpqDocument⟩⟩, ?_⟩, publicKey⟩
  simp only [HybridKeyPair.files, List.forall_mem_cons, read_keyDirectory]
  exact ⟨hclassicFile, hpqFile, hcl, hpq, List.forall_mem_nil _⟩

/-! ### Enrolment -/

/-- The private keys of a station, as keysas-out signs with them. -/
def signKeys (keys : HybridKeyPair schemes) : Reports.HybridKeyPair schemes :=
  ⟨keys.classic, keys.pq⟩

/-- The station writes the certificates that an initialisation sends. -/
structure Station.Receives (station : Station schemes) (init : Initialization schemes) : Prop where
  certCl : station.Writes 1 init.certCl
  certPq : station.Writes 4 init.certPq
  usbCl : station.Writes 7 init.usbKeys.classicCert
  usbPq : station.Writes 10 init.usbKeys.pqCert

/-- A station is enrolled for a name with an authority for stations and one for USB devices:
keysas-out loads keys that are certified for the name, every report that is signed with them is
accepted with its file under the certificates of the first authority, and the station holds those of
the second. -/
structure Enrolled (station : Station schemes) (name : String) (stCa usb : HybridKeyPair schemes)
    (files : Files) : Prop where
  keys : ∃ keys, loadSignKeys station files = .ok keys ∧
    (∀ algorithm, (keys.certFor algorithm).tbsCertificate.subject =
      (stationFields name).generateDn station.x509) ∧
    ∀ (sha256 : Sha256) (json : Reports.ReportJson) (f : Reports.FileMetadata)
      (metadata : Reports.MetaData) (file : List UInt8) (report : Reports.Report),
      f.digest = sha256.hexDigest file →
      Reports.bindAndSign sha256 json f metadata (some (signKeys keys)) (signCert station keys) =
        some report →
      Reports.parseReport schemes sha256 json station.x509.parse
        (some (json.reportToString report)) (some (some file))
        (some (station.x509.view stCa.classicCert)) (some (station.x509.view stCa.pqCert)) =
          .ok report
  usbCl : files.lookup usbCertClPath = some (utf8 (station.x509.toPem usb.classicCert))
  usbPq : files.lookup usbCertPqPath = some (utf8 (station.x509.toPem usb.pqCert))

/-- Certificates for the keys of a station, which an authority has signed, make certified keys. -/
theorem certifiedKeys_of_certifies {x509 : X509} (hpem : PemText x509)
    {stCa keys : HybridKeyPair schemes}
    (hauthority : ∀ algorithm, (stCa.certFor algorithm).HasKey algorithm.oid
      (stCa.publicKeyBytes algorithm)) {subject : RdnSequence}
    (hcertifies : ∀ algorithm, stCa.Certifies x509 (keys.certFor algorithm) subject
      (keys.publicKeyBytes algorithm) algorithm) :
    Reports.CertifiedKeys schemes x509.parse (signKeys keys) (x509.toPem keys.classicCert)
      (x509.toPem keys.pqCert) (x509.view stCa.classicCert) (x509.view stCa.pqCert) := by
  have hparse : ∀ cert, x509.parse (x509.toPem cert) = some (x509.view cert) := by
    intro cert
    rw [X509.parse, x509.fromPem_toPem]
    rfl
  have hissued := fun algorithm ↦
    issuedBy_of_signed (hcertifies algorithm).signed (hauthority algorithm)
  have hkey : ∀ algorithm, (x509.view (keys.certFor algorithm)).publicKey =
      keys.publicKeyBytes algorithm := by
    intro algorithm
    show (keys.certFor algorithm).tbsCertificate.subjectPublicKeyInfo.subjectPublicKey.bytes = _
    rw [(hcertifies algorithm).hasKey]
    rfl
  exact ⟨hpem.bar_not_mem _, hpem.bar_not_mem _,
    ⟨_, hparse keys.classicCert, hissued .ed25519, hkey .ed25519⟩,
    ⟨_, hparse keys.pqCert, hissued .mlDsa87, hkey .mlDsa87⟩⟩

/-- When the administrator is done with a station, the station is enrolled under its name, whatever
has been on it before. Assumes: the certificates of the authority for stations are those of its
keys, and the station writes what it is sent. -/
theorem enrolled_of_initKeysas (hpem : PemText station.x509) {stationFiles : Files}
    (hmeets : station.Meets calls stationFiles)
    (hauthority : ∀ pkiDir stCa,
      HybridKeyPair.load formats station.x509 (calls.directory pkiDir) "st-ca" "st" "st" caPwd =
        .ok stCa →
      ∀ algorithm, (stCa.certFor algorithm).HasKey algorithm.oid (stCa.publicKeyBytes algorithm))
    {files : Files} (hends : (initKeysas formats station.x509 calls ip name caPwd).Ends files) :
    ∃ init : Initialization schemes, init.Of formats station.x509 calls ip name caPwd ∧
      (station.Receives init →
        Enrolled station name init.stCaKeys init.usbKeys (station.serve 0
          ((initKeysas formats station.x509 calls ip name caPwd).run files).trace
          stationFiles)) := by
  obtain ⟨init, hinit⟩ := exists_initialization_of_ends hends
  refine ⟨init, hinit, fun hreceives ↦ ?_⟩
  obtain ⟨nameEscaped, hname, htrace⟩ := hinit.exists_trace files
  obtain ⟨classic, pq, hrequests, hstored⟩ := exists_keys_of_requests hmeets hinit.csrs hname
  rw [htrace, Station.serve, Nat.zero_add]
  generalize (station.execute 0 (generateCommand nameEscaped) stationFiles).2 = generated
    at hstored ⊢
  obtain ⟨hcl, hpq, husbCl, husbPq, hothers⟩ := serve_loadCommands hpem hreceives.certCl
    hreceives.certPq hreceives.usbCl hreceives.usbPq generated
  generalize station.serve 1 (init.loadCommands station.x509) generated = after
    at hcl hpq husbCl husbPq hothers ⊢
  let keys : HybridKeyPair schemes := ⟨classic, init.certCl, pq, init.certPq⟩
  -- The private keys stay where they have been saved: only certificates are written.
  have hkept : PrivateKeysIn station.formats filePrivClPath filePrivPqPath keyPasswd keys.classic
      keys.pq after := by
    obtain ⟨hclassic, hpqDocument, hpublic⟩ := hstored
    rw [← hothers filePrivClPath (by decide)] at hclassic
    rw [← hothers filePrivPqPath (by decide)] at hpqDocument
    exact ⟨hclassic, hpqDocument, hpublic⟩
  have hcertifies : ∀ algorithm, init.stCaKeys.Certifies station.x509 (keys.certFor algorithm)
      ((stationFields name).generateDn station.x509) (keys.publicKeyBytes algorithm)
      algorithm := by
    obtain ⟨hclassic, hpqRequest⟩ := hrequests
    obtain ⟨signature, -, hpqRequest⟩ := exists_of_okOr_bind_eq_ok hpqRequest
    have hclassic : init.csrCl = _ := hclassic
    have hpqRequest := Except.ok.inj hpqRequest
    have hinfoCl : init.csrCl.info = requestInfo ed25519Oid
        (schemes.ed25519.verifyingKeyBytes classic) _ := congrArg CertReq.info hclassic
    have hinfoPq : requestInfo mlDsa87Oid (schemes.mlDsa87.publicKeyBytes pq) _ =
        init.csrPq.info := congrArg CertReq.info hpqRequest
    intro algorithm
    cases algorithm with
    | ed25519 =>
      have hoid : init.csrCl.info.publicKey.algorithm.oid = KeyAlgorithm.ed25519.oid := by
        rw [hinfoCl]
        rfl
      have hmade := certifies_of_generateCertFromCsr hinit.certCl hoid (by rw [hinfoCl]; rfl)
      rw [hinfoCl] at hmade
      exact hmade
    | mlDsa87 =>
      have hoid : init.csrPq.info.publicKey.algorithm.oid = KeyAlgorithm.mlDsa87.oid := by
        rw [← hinfoPq]
        rfl
      have hmade := certifies_of_generateCertFromCsr hinit.certPq hoid (by rw [← hinfoPq]; rfl)
      rw [← hinfoPq] at hmade
      exact hmade
  refine ⟨⟨keys, loadSignKeys_of_stored hkept hcl hpq, fun algorithm ↦
    (hcertifies algorithm).subject, ?_⟩, husbCl, husbPq⟩
  intro sha256 json f metadata file report hdigest hsigned
  exact Reports.parseReport_of_bindAndSign hdigest (certifiedKeys_of_certifies hpem
    (hauthority init.pkiDir init.stCaKeys hinit.stCaKeys) hcertifies) hsigned

end Session

/-! ### A sample session -/

deriving instance Encodable for CertReq

/-- Requests that are written as their numbers, with a dash at the end. -/
def unaryCsrPem : CsrPem where
  text csr := String.ofList (List.replicate (Encodable.encode csr) '1' ++ ['-'])
  fromPem text :=
    if '-' ∈ text.toList then
      Encodable.decode (text.toList.takeWhile fun character ↦ character == '1').length
    else none
  fromPem_text csr := by simp
  fromPem_line csr := by simp
  fromPem_empty := rfl
  bar_not_mem csr := by simp
  getLast?_text csr := by simp

theorem pemText_unaryX509 : PemText unaryX509 where
  plain cert character hcharacter := by
    obtain ⟨-, rfl⟩ : _ ∧ character = '1' := by simpa [unaryX509] using hcharacter
    rfl
  bar_not_mem cert := by simp [unaryX509]

/-- A name between single quotes, when every character stands for itself there. -/
def singleQuoted (name : String) : Option String :=
  if name.toList.all isPlainInSingle then some ("'" ++ name ++ "'") else none

theorem quotes_singleQuoted (shell : Shell) {name quoted : String}
    (hquoted : singleQuoted name = some quoted) : shell.Quotes quoted name := by
  rw [singleQuoted] at hquoted
  split_ifs at hquoted with hplain
  obtain rfl := Option.some.inj hquoted
  exact shell.quotes_single (List.all_eq_true.mp hplain)

/-- A station with the keys 3 and 4 and room for files up to some length. -/
def sampleStation (room : ℕ) : Station markedSchemes where
  formats := unaryFormats
  x509 := unaryX509
  csrPem := unaryCsrPem
  shell := wordShell
  clap := .plain
  calls _ :=
    { classic := (3 : UInt8)
      pq := some (4 : UInt8)
      random := fun _ ↦ []
      fileCl := .succeeding room
      filePq := .succeeding room
      fileCert := .succeeding room }

/-- An administrator who meets the station. -/
def sampleMeeting (directory : PkiDirectory) (room : ℕ) : InitCalls where
  sshKey := some "/home/admin/.ssh/id"
  store := sampleStore
  connects _ _ := true
  tryQuote := singleQuoted
  csrFromPem := unaryCsrPem.fromPem
  answers
    | 0, command => some (utf8 ((sampleStation room).execute 0 command ∅).1)
    | _ + 1, _ => some []
  directory _ := directory
  nowCl := 0
  serialCl := []
  nowPq := 0
  serialPq := []
  fileCl := .succeeding room
  filePq := .succeeding room

theorem meets_sampleMeeting (directory : PkiDirectory) (room : ℕ) :
    (sampleStation room).Meets (sampleMeeting directory room) ∅ where
  answer _ _ houtput := (Option.some.inj houtput).symm
  quotes _ _ hquoted := quotes_singleQuoted _ hquoted
  csrFromPem := rfl

/-- The two requests of the sample station, whatever room there is, when there is enough. -/
theorem exists_sampleRequests :
    ∃ csrCl csrPq needed, (∃ certCl,
        generateCertFromCsr unaryX509 markedCa.toHybridKeyPair csrCl sampleRow.infos true 0 [] =
          .ok certCl) ∧
      (∃ certPq,
        generateCertFromCsr unaryX509 markedCa.toHybridKeyPair csrPq sampleRow.infos true 0 [] =
          .ok certPq) ∧
      ∀ room, needed ≤ room → ∀ directory,
        requests (sampleMeeting directory room) "salle A" = .ok (csrCl, csrPq) := by
  obtain ⟨csrPq, hcsrPq, hinfo, hself⟩ := @exists_generateCsrPq markedSchemes unaryX509
    idealSchemes_marked (4 : UInt8) ((stationFields "salle A").generateDn unaryX509)
  have hoid : csrPq.info.publicKey.algorithm.oid = KeyAlgorithm.mlDsa87.oid := by
    rw [hinfo]
    rfl
  have hbytes : csrPq.info.publicKey.subjectPublicKey.asBytes =
      some (markedSchemes.mlDsa87.publicKeyBytes (4 : UInt8)) := by
    rw [hinfo]
    rfl
  obtain ⟨certCl, hcertCl, -⟩ := exists_of_selfSignedBy idealSchemes_marked
    markedCa.toHybridKeyPair validFor_sampleRow true [] rfl rfl
    (@selfSignedBy_generateCsrClassic markedSchemes unaryX509 (3 : UInt8)
      ((stationFields "salle A").generateDn unaryX509))
  -- The requests stay closed: their unary texts are too long to look at.
  generalize hcsrCl : @generateCsrClassic markedSchemes unaryX509 (3 : UInt8)
    ((stationFields "salle A").generateDn unaryX509) = csrCl at hcertCl
  obtain ⟨certPq, hcertPq, -⟩ := exists_of_selfSignedBy idealSchemes_marked
    markedCa.toHybridKeyPair validFor_sampleRow true [] hoid hbytes hself
  obtain ⟨classicDocument, hclassic⟩ : ∃ document,
      @saveKeysClassic markedSchemes unaryFormats (3 : UInt8) keyPasswd [] = some document :=
    ⟨_, rfl⟩
  obtain ⟨pqDocument, hpqDocument⟩ : ∃ document,
      @saveKeysPq markedSchemes unaryFormats (4 : UInt8) keyPasswd [] = some document := ⟨_, rfl⟩
  refine ⟨csrCl, csrPq, classicDocument.length + pqDocument.length, ⟨certCl, hcertCl⟩,
    ⟨certPq, hcertPq⟩, fun room hroom directory ↦ ?_⟩
  have hends := @ends_generateSigningKeypair markedSchemes unaryFormats unaryX509 unaryCsrPem
    ((sampleStation room).calls 0) "salle A" filePrivClPath filePrivPqPath keyPasswd (4 : UInt8)
    classicDocument pqDocument csrPq ∅ rfl hclassic hpqDocument hcsrPq
    ⟨rfl, (Nat.le_add_right _ _).trans hroom⟩ ⟨rfl, (Nat.le_add_left _ _).trans hroom⟩
  obtain ⟨pq, foundCl, foundPq, hpq, ⟨hrequestCl, hrequestPq⟩, hprinted⟩ :=
    exists_keysasSign_generate (by decide) hends
  obtain rfl : (4 : UInt8) = pq := Option.some.inj hpq
  obtain rfl : csrPq = foundPq := Except.ok.inj (hcsrPq.symm.trans hrequestPq)
  obtain rfl : csrCl = foundCl := hcsrCl.symm.trans hrequestCl.symm
  have hmeets := meets_sampleMeeting directory room
  have hname : singleQuoted "salle A" = some "'salle A'" := by decide
  have hwords := words_generateCommand wordShell (quotes_singleQuoted _ hname)
  have hanswer : (sampleMeeting directory room).answers 0 (generateCommand "'salle A'") =
      some (utf8 ((sampleStation room).execute 0 (generateCommand "'salle A'") ∅).1) := rfl
  have hquote : (sampleMeeting directory room).tryQuote "salle A" = some "'salle A'" := hname
  rw [requests, hquote, okOr_some, ok_bind, hanswer, okOr_some, ok_bind,
    execute_of_words hwords]
  show readCsrs _ (utf8 (keysasSign unaryFormats unaryX509 unaryCsrPem _ _ _ _).1) = _
  rw [hprinted]
  exact readCsrs_hybrid hmeets.csrFromPem _ _

/-- There is enough room for some certificates. -/
theorem exists_room (needed : ℕ) (certs : List X509Certificate) :
    ∃ room, needed ≤ room ∧ ∀ cert ∈ certs, Writable (.succeeding room) unaryX509 cert := by
  induction certs with
  | nil => exact ⟨needed, le_rfl, List.forall_mem_nil _⟩
  | cons cert certs ih =>
    obtain ⟨room, hneeded, hcerts⟩ := ih
    refine ⟨max room (utf8 (unaryX509.toPem cert)).length, hneeded.trans (le_max_left _ _),
      List.forall_mem_cons.mpr ⟨⟨rfl, le_max_right _ _⟩, fun other hother ↦ ⟨rfl, ?_⟩⟩⟩
    exact (hcerts other hother).2.trans (le_max_left _ _)

/-- A station is enrolled whose name has a blank in it. -/
theorem enrolled_of_initKeysas_sample :
    ∃ (station : Station markedSchemes) (calls : InitCalls)
        (stCa usb : HybridKeyPair markedSchemes),
      station.Meets calls ∅ ∧
      Enrolled station "salle A" stCa usb (station.serve 0
        ((initKeysas unaryFormats station.x509 calls "192.168.0.2" "salle A" "secret").run
          ∅).trace ∅) := by
  obtain ⟨directory, hstCa, husb⟩ := exists_sampleDirectory
  obtain ⟨csrCl, csrPq, needed, ⟨certCl, hcertCl⟩, ⟨certPq, hcertPq⟩, hrequests⟩ :=
    exists_sampleRequests
  have hkey := markedCa.hasKey
  -- The certificates of the authority stay closed: their unary texts are too long to look at.
  generalize markedCa.toHybridKeyPair = ca at hstCa husb hcertCl hcertPq hkey
  obtain ⟨room, hneeded, hwritable⟩ := exists_room needed
    [certCl, certPq, ca.classicCert, ca.pqCert]
  simp only [List.forall_mem_cons] at hwritable
  obtain ⟨hwritableCl, hwritablePq, hwritableCaCl, hwritableCaPq, -⟩ := hwritable
  let init : Initialization markedSchemes := ⟨"/home/admin/.ssh/id", "/pki", sampleRow.infos, csrCl,
    csrPq, ca, ca, certCl, certPq⟩
  have hinit : init.Of unaryFormats (sampleStation room).x509 (sampleMeeting directory room)
      "192.168.0.2" "salle A" "secret" :=
    { pkiDir := getPkiDir_sampleStore
      pkiInfo := getPkiInfo_sampleStore
      csrs := hrequests room hneeded directory
      stCaKeys := hstCa
      certCl := hcertCl
      certPq := hcertPq
      sshKey := rfl
      connects := rfl
      usbKeys := husb
      fileCl := hwritableCl
      filePq := hwritableCl
      sendsCl := ⟨rfl, rfl, rfl⟩
      sendsPq := ⟨rfl, rfl, rfl⟩
      sendsUsbCl := ⟨rfl, rfl, rfl⟩
      sendsUsbPq := ⟨rfl, rfl, rfl⟩ }
  have hauthority : ∀ pkiDir stCa, HybridKeyPair.load unaryFormats (sampleStation room).x509
      ((sampleMeeting directory room).directory pkiDir) "st-ca" "st" "st" "secret" = .ok stCa →
      ∀ algorithm, (stCa.certFor algorithm).HasKey algorithm.oid
        (stCa.publicKeyBytes algorithm) := by
    intro pkiDir stCa hload
    obtain rfl := Except.ok.inj (hstCa.symm.trans hload)
    exact hkey
  obtain ⟨command, after, hrun, -⟩ := hinit.exists_run ∅
  have hends : (initKeysas unaryFormats (sampleStation room).x509 (sampleMeeting directory room)
      "192.168.0.2" "salle A" "secret").Ends ∅ := ⟨"true", by rw [hrun]⟩
  obtain ⟨other, hother, henrolled⟩ := @enrolled_of_initKeysas markedSchemes unaryFormats
    (sampleStation room) (sampleMeeting directory room) "192.168.0.2" "salle A" "secret"
    pemText_unaryX509 ∅ (meets_sampleMeeting directory room) hauthority ∅ hends
  obtain rfl := hother.unique hinit
  refine ⟨sampleStation room, sampleMeeting directory room, _, _,
    meets_sampleMeeting directory room, henrolled ?_⟩
  exact ⟨hwritableCl, hwritablePq, hwritableCaCl, hwritableCaPq⟩

end Keysas.Admin
