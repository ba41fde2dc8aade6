import Keysas.Pki.KeyGeneration
import Keysas.Sign.LoadCertificate

/-!
# Generation of the keys of a station

keysas-sign runs on a station. `generateSigningKeypair` draws the two private keys of the station,
saves them and answers with a request for each, and `keysasSign` is the whole program: it reads its
command line (`commandArgs`) and either generates keys or saves a certificate.

`establishes_generateSigningKeypair` says what keys that are generated leave behind, and
`keysasSign_generate` what a station answers to its administrator.
-/

set_option autoImplicit false
set_option relaxedAutoImplicit false

namespace Keysas.Sign

open Crypto Keys Pki Runs RustStd Store Wire.Bincode

open Reports hiding HybridKeyPair

/-! ### The command line -/

/-- `Config`. -/
structure Config where
  generate : Bool
  load : Bool
  name : String
  certType : String
  cert : String
  deriving DecidableEq

/-- What is given on a command line, without the defaults. -/
structure Given where
  generate : Bool
  load : Bool
  name : Option String
  certType : Option String
  cert : Option String
  deriving DecidableEq

/-- The options that take a value. -/
inductive ValueOption where
  | name
  | certType
  | cert
  deriving DecidableEq

/-- The options that take none. -/
inductive FlagOption where
  | generate
  | load
  deriving DecidableEq

/-- The option that takes a value, by what is written on a command line. -/
def valueOption (argument : String) : Option ValueOption :=
  if argument = "--name" ∨ argument = "-n" then some .name
  else if argument = "--certtype" ∨ argument = "-t" then some .certType
  else if argument = "--cert" ∨ argument = "-c" then some .cert
  else none

/-- The option that takes no value, by what is written on a command line. -/
def flagOption (argument : String) : Option FlagOption :=
  if argument = "--generate" ∨ argument = "-g" then some .generate
  else if argument = "--load" ∨ argument = "-l" then some .load
  else none

/-- A flag is given, unless it has been given before. -/
def Given.raise (given : Given) : FlagOption → Option Given
  | .generate => if given.generate then none else some { given with generate := true }
  | .load => if given.load then none else some { given with load := true }

/-- A value is given, unless there has been one before. -/
def Given.assign (given : Given) (value : String) : ValueOption → Option Given
  | .name => if given.name.isSome then none else some { given with name := some value }
  | .certType => if given.certType.isSome then none else some { given with certType := some value }
  | .cert => if given.cert.isSome then none else some { given with cert := some value }

/-- An argument that is taken for an option and not for the value of the one before it. -/
def looksLikeOption (argument : String) : Bool :=
  match argument.toList with
  | '-' :: _ :: _ => true
  | _ => false

/-- How clap reads a command line with these options, when some of it has been read. It may refuse.
Nothing is said about other arguments, such as short options that stand together. -/
structure Clap where
  getMatches : Given → List String → Option Given
  getMatches_nil : ∀ given, getMatches given [] = some given
  getMatches_flag : ∀ {argument flag}, flagOption argument = some flag → ∀ given rest,
    getMatches given (argument :: rest) =
      (given.raise flag).bind fun next ↦ getMatches next rest
  getMatches_joined : ∀ {option found}, valueOption option = some found → ∀ given value rest,
    getMatches given ((option ++ "=" ++ value) :: rest) =
      (given.assign value found).bind fun next ↦ getMatches next rest
  getMatches_separate : ∀ {option found}, valueOption option = some found → ∀ given value rest,
    getMatches given (option :: value :: rest) =
      if looksLikeOption value then none
      else (given.assign value found).bind fun next ↦ getMatches next rest

/-- The arguments of a command line, unless they are refused. Short options that stand together in
one argument are refused. -/
def takeArguments (given : Given) : List String → Option Given
  | [] => some given
  | argument :: rest =>
    match flagOption argument, splitOnce '=' argument, valueOption argument with
    | some flag, _, _ => (given.raise flag).bind fun next ↦ takeArguments next rest
    | none, some (option, value), _ =>
      (valueOption option).bind fun found ↦
        (given.assign value found).bind fun next ↦ takeArguments next rest
    | none, none, some found =>
      match rest with
      | [] => none
      | value :: rest =>
        if looksLikeOption value then none
        else (given.assign value found).bind fun next ↦ takeArguments next rest
    | none, none, none => none

/-- No option that takes a value is a flag, or has the sign that joins it to its value. -/
theorem separate_of_valueOption {option : String} {found : ValueOption}
    (hoption : valueOption option = some found) :
    flagOption option = none ∧ splitOnce '=' option = none ∧ '=' ∉ option.toList := by
  have hall : ["--name", "-n", "--certtype", "-t", "--cert", "-c"].all (fun option ↦
      flagOption option = none ∧ splitOnce '=' option = none ∧ '=' ∉ option.toList) = true := by
    decide +kernel
  have hmem : option ∈ ["--name", "-n", "--certtype", "-t", "--cert", "-c"] := by
    unfold valueOption at hoption
    split_ifs at hoption with hname htype hcert
    · rcases hname with rfl | rfl <;> simp
    · rcases htype with rfl | rfl <;> simp
    · rcases hcert with rfl | rfl <;> simp
  exact of_decide_eq_true (List.all_eq_true.mp hall option hmem)

/-- No flag has the sign that joins an option to its value. -/
theorem flagOption_eq_none {argument : String} (hmem : '=' ∈ argument.toList) :
    flagOption argument = none := by
  have hne : ∀ flag : String, '=' ∉ flag.toList → argument ≠ flag := by
    rintro flag hflag rfl
    exact hflag hmem
  rw [flagOption, if_neg, if_neg]
  · rintro (hload | hload)
    · exact hne _ (by decide) hload
    · exact hne _ (by decide) hload
  · rintro (hgenerate | hgenerate)
    · exact hne _ (by decide) hgenerate
    · exact hne _ (by decide) hgenerate

/-- The reading of options that stand alone. -/
def Clap.plain : Clap where
  getMatches := takeArguments
  getMatches_nil _ := rfl
  getMatches_flag hflag given rest := by
    simp only [takeArguments, hflag]
  getMatches_joined := by
    intro option found hoption given value rest
    obtain ⟨-, -, hfront⟩ := separate_of_valueOption hoption
    have hcut : splitOnce '=' (option ++ "=" ++ value) = some (option, value) :=
      splitOnce_append hfront value
    have hflag : flagOption (option ++ "=" ++ value) = none := flagOption_eq_none (by simp)
    simp only [takeArguments, hflag, hcut, hoption, Option.bind_some]
  getMatches_separate := by
    intro option found hoption given value rest
    obtain ⟨hflag, hcut, -⟩ := separate_of_valueOption hoption
    simp only [takeArguments, hflag, hcut, hoption]

section CommandLine

variable (clap : Clap)

/-- `command_args`: both flags exclude each other, and `load` needs a type. -/
def commandArgs (arguments : List String) : Option Config := do
  let given ← clap.getMatches ⟨false, false, none, none, none⟩ arguments
  if given.generate && given.load then none
  else if given.load && given.certType.isNone then none
  else some ⟨given.generate, given.load, given.name.getD "", given.certType.getD "",
    given.cert.getD ""⟩

/-- The command line for the keys of a station is read when its name does not look like an option,
and not otherwise. -/
theorem commandArgs_generate (name : String) :
    commandArgs clap ["--generate", "--name", name] =
      if looksLikeOption name then none else some ⟨true, false, name, "", ""⟩ := by
  have hgenerate : flagOption "--generate" = some .generate := by decide
  have hname : valueOption "--name" = some .name := by decide
  show (clap.getMatches _ _).bind _ = _
  rw [clap.getMatches_flag hgenerate]
  show (clap.getMatches ⟨true, false, none, none, none⟩ _).bind _ = _
  rw [clap.getMatches_separate hname]
  by_cases hoption : looksLikeOption name = true
  · rw [if_pos hoption, if_pos hoption]
    rfl
  · rw [if_neg hoption, if_neg hoption]
    show (clap.getMatches ⟨true, false, some name, none, none⟩ []).bind _ = _
    rw [clap.getMatches_nil]
    rfl

/-- The command line that loads a certificate is read, whatever the certificate is. Assumes: its
type does not look like an option. -/
theorem commandArgs_load {certType : String} (htype : looksLikeOption certType = false)
    (cert : String) :
    commandArgs clap ["--load", "--certtype", certType, "--cert=" ++ cert] =
      some ⟨false, true, "", certType, cert⟩ := by
  have hload : flagOption "--load" = some .load := by decide
  have hcertType : valueOption "--certtype" = some .certType := by decide
  have hcert : valueOption "--cert" = some .cert := by decide
  have hjoined : "--cert=" = "--cert" ++ "=" := by decide
  show (clap.getMatches _ _).bind _ = _
  rw [clap.getMatches_flag hload]
  show (clap.getMatches ⟨false, true, none, none, none⟩ _).bind _ = _
  rw [clap.getMatches_separate hcertType, htype, if_neg Bool.false_ne_true]
  show (clap.getMatches ⟨false, true, none, some certType, none⟩ _).bind _ = _
  rw [hjoined, clap.getMatches_joined hcert]
  show (clap.getMatches ⟨false, true, none, some certType, some cert⟩ []).bind _ = _
  rw [clap.getMatches_nil]
  rfl

end CommandLine

/-! ### Requests as text -/

/-- The PEM format of requests. A text is read with or without the line feed at its end. -/
structure CsrPem where
  /-- The text of a request, without the line feed at its end. -/
  text : CertReq → String
  fromPem : String → Option CertReq
  fromPem_text : ∀ csr, fromPem (text csr) = some csr
  fromPem_line : ∀ csr, fromPem (text csr ++ "\n") = some csr
  fromPem_empty : fromPem "" = none
  bar_not_mem : ∀ csr, '|' ∉ (text csr).toList
  getLast?_text : ∀ csr, (text csr).toList.getLast? = some '-'

/-- `to_pem`. -/
def CsrPem.toPem (csrPem : CsrPem) (csr : CertReq) : String :=
  csrPem.text csr ++ "\n"

/-- Two requests with a bar between them. -/
def CsrPem.hybrid (csrPem : CsrPem) (csrCl csrPq : CertReq) : String :=
  csrPem.toPem csrCl ++ "|" ++ csrPem.toPem csrPq

/-! ### The program -/

/-- `FILE_PRIV_CL_PATH`. -/
def filePrivClPath : String := "/etc/keysas/file-sign-cl.p8"

/-- `FILE_PRIV_PQ_PATH`. -/
def filePrivPqPath : String := "/etc/keysas/file-sign-pq.p8"

/-- `KEY_PASSWD`. -/
def keyPasswd : String := "Keysas007"

/-- The errors of `generate_signing_keypair`. -/
inductive KeypairError where
  /-- The ML-DSA-87 key is not generated. -/
  | key
  /-- "Failed to encrypt private key". -/
  | encrypt
  /-- The document of a private key is not written. -/
  | file (error : FileError)
  | fields (error : FieldsError)
  /-- A request is not signed. -/
  | csr (error : IssueError)
  deriving DecidableEq

/-- What a run of keysas-sign draws and meets. -/
structure SignCalls (schemes : Schemes) where
  classic : schemes.ed25519.SigningKey
  /-- There is none when the scheme or the pair fails. -/
  pq : Option schemes.mlDsa87.SecretKey
  random : KeyAlgorithm → List UInt8
  fileCl : FileCalls
  filePq : FileCalls
  /-- The file of a certificate. -/
  fileCert : FileCalls

section Programs

variable {schemes : Schemes} (formats : KeyFormats schemes) (x509 : X509) (csrPem : CsrPem)
  (clap : Clap) (calls : SignCalls schemes)

/-- The document of a private key, and the file for it. -/
def saveDocument (file : FileCalls) (path : String) (document : Option (List UInt8)) :
    Program Empty Files KeypairError Unit := do
  let bytes ← .ofExcept (okOr document .encrypt)
  (writeFile file path bytes).mapError .file

/-- `generate_signing_keypair`. -/
def generateSigningKeypair (name clPath pqPath pwd : String) :
    Program Empty Files KeypairError String := do
  let pq ← .ofExcept (okOr calls.pq .key)
  saveDocument calls.fileCl clPath
    (saveKeysClassic formats calls.classic pwd (calls.random .ed25519))
  saveDocument calls.filePq pqPath (saveKeysPq formats pq pwd (calls.random .mlDsa87))
  let infos ← .ofExcept ((fromFields none none none (some name) none).mapError .fields)
  let subject := infos.generateDn x509
  let csrPq ← .ofExcept ((generateCsrPq x509 pq subject).mapError .csr)
  return csrPem.hybrid (generateCsrClassic x509 calls.classic subject) csrPq

/-- What is printed at the end of a program, and the files that it leaves. -/
def printed {ρ α : Type} (ending : Ending Empty Files ρ α) (text : α → String) : String × Files :=
  match ending.value with
  | .ok value => (text value, ending.state)
  | .error _ => ("", ending.state)

theorem text_printed {ρ α : Type} {ending : Ending Empty Files ρ α} {value : α}
    (hvalue : ending.value = .ok value) (text : α → String) :
    (printed ending text).1 = text value := by
  rw [printed, hvalue]

theorem files_printed {ρ α : Type} (ending : Ending Empty Files ρ α) (text : α → String) :
    (printed ending text).2 = ending.state := by
  unfold printed
  split <;> rfl

/-- The program: what it prints on its standard output, and the files at its end. -/
def keysasSign (arguments : List String) (files : Files) : String × Files :=
  match commandArgs clap arguments with
  | none => ("", files)
  | some config =>
    if config.generate then
      printed ((generateSigningKeypair formats x509 csrPem calls config.name filePrivClPath
        filePrivPqPath keyPasswd).run files) fun csrs ↦ csrs ++ "\n"
    else if config.load then
      printed ((saveCertificate schemes x509.parse calls.fileCert config.certType
        config.cert).run files) fun _ ↦ "OK\n"
    else ("", files)

end Programs

/-! ### Keys that are generated -/

section Generated

variable {schemes : Schemes} {formats : KeyFormats schemes} {x509 : X509} {csrPem : CsrPem}
  {clap : Clap} {calls : SignCalls schemes}

/-- The private keys of a station are in two files, encrypted with a password. -/
structure PrivateKeysIn (formats : KeyFormats schemes) (clPath pqPath pwd : String)
    (classic : schemes.ed25519.SigningKey) (pq : schemes.mlDsa87.SecretKey) (files : Files) :
    Prop where
  classicDocument : ∃ random document,
    saveKeysClassic formats classic pwd random = some document ∧
      files.lookup clPath = some document
  pqDocument : ∃ random document, saveKeysPq formats pq pwd random = some document ∧
    files.lookup pqPath = some document
  publicKey : ∃ publicKey, schemes.mlDsa87.publicKeyFromBytes
    (schemes.mlDsa87.publicKeyBytes pq) = some publicKey

/-- The name of a station in its requests. -/
def stationFields (name : String) : CertificateFields :=
  ⟨none, none, none, some name, none⟩

/-- The requests of a station for its two keys. -/
structure RequestsFor (x509 : X509) (name : String) (classic : schemes.ed25519.SigningKey)
    (pq : schemes.mlDsa87.SecretKey) (csrCl csrPq : CertReq) : Prop where
  classic : csrCl = generateCsrClassic x509 classic ((stationFields name).generateDn x509)
  pq : generateCsrPq x509 pq ((stationFields name).generateDn x509) = .ok csrPq

theorem establishes_saveDocument {file : FileCalls} {path : String}
    {document : Option (List UInt8)} {files : Files} :
    (saveDocument file path document).Establishes files fun _ after _ ↦
      ∃ bytes, document = some bytes ∧ Assigns files after path (some bytes) := by
  rw [saveDocument, Program.establishes_ofExcept_bind_iff]
  intro bytes hbytes
  rw [Program.establishes_mapError_iff]
  intro value hvalue
  exact ⟨bytes, okOr_eq_ok_iff.mp hbytes, (establishes_writeFile value hvalue).2⟩

/-- Keys that are generated are saved, and the answer has the requests for them. Assumes: the two
files are different. -/
theorem establishes_generateSigningKeypair {name clPath pqPath pwd : String}
    (hpaths : clPath ≠ pqPath) {files : Files} :
    (generateSigningKeypair formats x509 csrPem calls name clPath pqPath pwd).Establishes files
      fun _ after csrs ↦ ∃ pq csrCl csrPq, calls.pq = some pq ∧
        PrivateKeysIn formats clPath pqPath pwd calls.classic pq after ∧
        RequestsFor x509 name calls.classic pq csrCl csrPq ∧
        csrs = csrPem.hybrid csrCl csrPq := by
  rw [generateSigningKeypair, Program.establishes_ofExcept_bind_iff]
  intro pq hdrawn
  refine Program.establishes_bind (establishes_saveDocument.mono ?_)
  rintro _ middle _ ⟨classicDocument, hclassic, hmiddle⟩
  refine Program.establishes_bind (establishes_saveDocument.mono ?_)
  rintro _ after _ ⟨pqDocument, hpq, hafter⟩
  rw [Program.establishes_ofExcept_bind_iff]
  intro infos hinfos
  obtain rfl : stationFields name = infos := Except.ok.inj hinfos
  rw [Program.establishes_ofExcept_bind_iff]
  intro csrPq hcsrPq
  rw [Program.establishes_pure_iff]
  have hcsrPq := mapError_eq_ok_iff.mp hcsrPq
  obtain ⟨signature, hsign, -⟩ := exists_of_okOr_bind_eq_ok hcsrPq
  obtain ⟨publicKey, -, hkey, -⟩ := schemes.mlDsa87.verify_sign hsign
  refine ⟨pq, _, csrPq, okOr_eq_ok_iff.mp hdrawn, ⟨⟨_, classicDocument, hclassic, ?_⟩,
    ⟨_, pqDocument, hpq, ?_⟩, publicKey, hkey⟩, ⟨rfl, hcsrPq⟩, rfl⟩
  · rw [hafter.lookup_of_ne hpaths, hmiddle.lookup_self]
  · exact hafter.lookup_self

theorem ends_saveDocument {file : FileCalls} {path : String} {bytes : List UInt8} {files : Files}
    (hcreates : file.creates = true) (hroom : bytes.length ≤ file.room) :
    (saveDocument file path (some bytes)).Ends files := by
  rw [saveDocument, Program.ends_ofExcept_bind_iff]
  refine ⟨bytes, rfl, ?_⟩
  rw [Program.ends_mapError_iff, ends_writeFile_iff]
  exact ⟨hcreates, hroom⟩

/-- Keys are generated when the ML-DSA-87 key is drawn and signs its request, and both documents are
made and written. -/
theorem ends_generateSigningKeypair {name clPath pqPath pwd : String}
    {pq : schemes.mlDsa87.SecretKey} {classicDocument pqDocument : List UInt8} {csrPq : CertReq}
    {files : Files} (hpq : calls.pq = some pq)
    (hclassic : saveKeysClassic formats calls.classic pwd (calls.random .ed25519) =
      some classicDocument)
    (hpqDocument : saveKeysPq formats pq pwd (calls.random .mlDsa87) = some pqDocument)
    (hcsrPq : generateCsrPq x509 pq ((stationFields name).generateDn x509) = .ok csrPq)
    (hcl : calls.fileCl.creates = true ∧ classicDocument.length ≤ calls.fileCl.room)
    (hfilePq : calls.filePq.creates = true ∧ pqDocument.length ≤ calls.filePq.room) :
    (generateSigningKeypair formats x509 csrPem calls name clPath pqPath pwd).Ends files := by
  rw [generateSigningKeypair, Program.ends_ofExcept_bind_iff]
  refine ⟨pq, by rw [hpq, okOr_some], ?_⟩
  rw [hclassic, hpqDocument]
  refine Program.ends_bind (ends_saveDocument hcl.1 hcl.2) fun _ _ ↦ ?_
  refine Program.ends_bind (ends_saveDocument hfilePq.1 hfilePq.2) fun _ _ ↦ ?_
  dsimp only
  rw [Program.ends_ofExcept_bind_iff]
  refine ⟨stationFields name, rfl, ?_⟩
  rw [Program.ends_ofExcept_bind_iff]
  exact ⟨csrPq, by rw [hcsrPq]; rfl, Program.ends_pure⟩

/-- What a station that is to generate keys answers: nothing, or the requests for the keys that it
has saved. -/
theorem keysasSign_generate (name : String) (files : Files) :
    (keysasSign formats x509 csrPem clap calls ["--generate", "--name", name] files).1 = "" ∨
      ∃ classic pq csrCl csrPq, RequestsFor x509 name classic pq csrCl csrPq ∧
        (keysasSign formats x509 csrPem clap calls ["--generate", "--name", name] files).1 =
          csrPem.hybrid csrCl csrPq ++ "\n" ∧
        PrivateKeysIn formats filePrivClPath filePrivPqPath keyPasswd classic pq
          (keysasSign formats x509 csrPem clap calls ["--generate", "--name", name] files).2 := by
  rw [keysasSign, commandArgs_generate]
  by_cases hoption : looksLikeOption name = true
  · rw [if_pos hoption]
    exact .inl rfl
  rw [if_neg hoption]
  have hestablishes := @establishes_generateSigningKeypair schemes formats x509 csrPem calls name
    filePrivClPath filePrivPqPath keyPasswd (by decide) files
  simp only [if_true]
  cases hvalue : ((generateSigningKeypair formats x509 csrPem calls name filePrivClPath
      filePrivPqPath keyPasswd).run files).value with
  | error error =>
    rw [printed, hvalue]
    exact .inl rfl
  | ok csrs =>
    obtain ⟨pq, csrCl, csrPq, -, hstored, hrequests, rfl⟩ := hestablishes csrs hvalue
    rw [printed, hvalue]
    exact .inr ⟨calls.classic, pq, csrCl, csrPq, hrequests, rfl, hstored⟩

/-- What a station that has generated keys answers. Assumes: its name does not look like an
option. -/
theorem exists_keysasSign_generate {name : String} (hoption : looksLikeOption name = false)
    {files : Files} (hends : (generateSigningKeypair formats x509 csrPem calls name filePrivClPath
      filePrivPqPath keyPasswd).Ends files) :
    ∃ pq csrCl csrPq, calls.pq = some pq ∧
      RequestsFor x509 name calls.classic pq csrCl csrPq ∧
      (keysasSign formats x509 csrPem clap calls ["--generate", "--name", name] files).1 =
        csrPem.hybrid csrCl csrPq ++ "\n" := by
  obtain ⟨csrs, hcsrs⟩ := hends
  obtain ⟨pq, csrCl, csrPq, hpq, -, hrequests, rfl⟩ :=
    establishes_generateSigningKeypair (by decide) csrs hcsrs
  refine ⟨pq, csrCl, csrPq, hpq, hrequests, ?_⟩
  rw [keysasSign, commandArgs_generate, hoption]
  simp only [Bool.false_eq_true, if_false, if_true]
  exact text_printed hcsrs _

/-- What a station does that is to load a certificate: the file of its type gets the text. Assumes:
the text parses and the file can be written. -/
theorem assigns_keysasSign_load {certType cert path : String}
    (hpath : certPath certType = some path) (htype : looksLikeOption certType = false)
    (hparses : Parses x509.parse cert) (hcreates : calls.fileCert.creates = true)
    (hroom : (utf8 cert).length ≤ calls.fileCert.room) (files : Files) :
    Assigns files (keysasSign formats x509 csrPem clap calls
      ["--load", "--certtype", certType, "--cert=" ++ cert] files).2 path (some (utf8 cert)) := by
  have hassigns := @assigns_run_writeFile Empty calls.fileCert path (utf8 cert) files hcreates
  rw [List.take_of_length_le hroom] at hassigns
  rw [keysasSign, commandArgs_load clap htype]
  simp only [Bool.false_eq_true, if_false, if_true]
  rw [files_printed, run_saveCertificate hparses hpath, Program.run_mapError]
  exact hassigns

end Generated

end Keysas.Sign
