import Keysas.Pki.Issuance
import Keysas.Runs.TracedProgram
import Keysas.Store.KeyedTable

/-!
# Files of keys

A pair of keys is kept in four files of a PKI directory: the two private keys as encrypted documents
and the two certificates in PEM. `HybridKeyPair.save` writes them and `HybridKeyPair.load` reads
them.

`establishes_save` says what a pair of keys leaves when it is saved, and `load_of_storedIn` that it
is loaded from there. `KeyFormats` is the library of the formats.
-/

set_option autoImplicit false
set_option relaxedAutoImplicit false

namespace Keysas.Pki

open Crypto Keys Reports Runs RustStd Store Wire Wire.Bincode

/-! ### Private keys -/

/-- `PrivateKeyInfo`. -/
structure PrivateKeyInfo where
  algorithmOid : String
  privateKey : List UInt8
  publicKey : Option (List UInt8)

/-- The formats of private keys. -/
structure KeyFormats (schemes : Schemes) where
  /-- `encrypt_with_params`, with random bytes for the salt and the initialization vector. -/
  encryptWithParams : PrivateKeyInfo → List UInt8 → String → Option (List UInt8)
  /-- Parse a document, decrypt it with a password and decode what is in it. -/
  decryptDocument : List UInt8 → String → Option PrivateKeyInfo
  signingKeyToBytes : schemes.ed25519.SigningKey → List UInt8
  /-- The key of 32 bytes. -/
  signingKeyFromBytes : List UInt8 → schemes.ed25519.SigningKey
  secretKeyToBytes : schemes.mlDsa87.SecretKey → List UInt8
  secretKeyFromBytes : List UInt8 → Option schemes.mlDsa87.SecretKey
  decryptDocument_encryptWithParams : ∀ {info random pwd cipher},
    encryptWithParams info random pwd = some cipher → decryptDocument cipher pwd = some info
  length_signingKeyToBytes : ∀ key, (signingKeyToBytes key).length = 32
  signingKeyFromBytes_toBytes : ∀ key, signingKeyFromBytes (signingKeyToBytes key) = key
  secretKeyFromBytes_toBytes : ∀ key, secretKeyFromBytes (secretKeyToBytes key) = some key

/-- The ways in which a pair of keys is not loaded. -/
inductive LoadError where
  /-- A file cannot be read. -/
  | read
  /-- "Failed to decrypt document", or it is not one. -/
  | decrypt
  /-- "Key is not 32 bytes long". -/
  | keyLength
  /-- "Cannot parse secret pq private key from decode value". -/
  | secretKey
  /-- "No PQC public key found in pkcs#8 format". -/
  | noPublicKey
  /-- "Cannot parse PQC public key from pkcs#8". -/
  | publicKey
  /-- A certificate is not PEM. -/
  | pem
  deriving DecidableEq

section Keys

variable {schemes : Schemes} (formats : KeyFormats schemes)

/-- `store_keypair`, up to the writing of the document. -/
def storeKeypair (prk pbk : List UInt8) (oid pwd : String) (random : List UInt8) :
    Option (List UInt8) :=
  formats.encryptWithParams ⟨oid, prk, some pbk⟩ random pwd

/-- The document of `SigningKey::save_keys`. -/
def saveKeysClassic (key : schemes.ed25519.SigningKey) (pwd : String) (random : List UInt8) :
    Option (List UInt8) :=
  storeKeypair formats (formats.signingKeyToBytes key) (schemes.ed25519.verifyingKeyBytes key)
    ed25519Oid pwd random

/-- The document of `KeysasPQKey::save_keys`. -/
def saveKeysPq (key : schemes.mlDsa87.SecretKey) (pwd : String) (random : List UInt8) :
    Option (List UInt8) :=
  storeKeypair formats (formats.secretKeyToBytes key) (schemes.mlDsa87.publicKeyBytes key)
    mlDsa87Oid pwd random

/-- `SigningKey::load_keys`. -/
def loadKeysClassic (cipher : List UInt8) (pwd : String) :
    Except LoadError schemes.ed25519.SigningKey := do
  let decoded ← okOr (formats.decryptDocument cipher pwd) .decrypt
  if decoded.privateKey.length = 32 then return formats.signingKeyFromBytes decoded.privateKey
  else throw .keyLength

/-- `KeysasPQKey::load_keys`. The public key has to be one, and is not looked at later. -/
def loadKeysPq (cipher : List UInt8) (pwd : String) :
    Except LoadError schemes.mlDsa87.SecretKey := do
  let decoded ← okOr (formats.decryptDocument cipher pwd) .decrypt
  let secretKey ← okOr (formats.secretKeyFromBytes decoded.privateKey) .secretKey
  let publicKey ← okOr decoded.publicKey .noPublicKey
  let _ ← okOr (schemes.mlDsa87.publicKeyFromBytes publicKey) .publicKey
  return secretKey

end Keys

/-! ### Directories -/

/-- What is in a PKI directory: whether `CA` is a directory, the directories in it, and the files in
these by directory and name. A file may not be readable. -/
structure PkiDirectory where
  caDirectory : Bool
  subdirectories : List String
  files : Table (String × String) (Option (List UInt8))

/-- `fs::read` of a file. -/
def PkiDirectory.read (directory : PkiDirectory) (path name : String) : Option (List UInt8) :=
  (directory.files.lookup (path, name)).join

/-- A file that is written: its directory and name, and its content. -/
abbrev PkiWrite := (String × String) × List UInt8

/-- The ways in which a PKI is not generated, after its configuration is stored. -/
inductive PkiError where
  /-- The fields of a name are not valid. -/
  | fields (error : FieldsError)
  /-- A key cannot be generated. -/
  | key
  /-- A certificate cannot be made. -/
  | certificate (error : IssueError)
  /-- A private key cannot be encrypted. -/
  | encrypt
  /-- A file cannot be written. -/
  | write
  deriving DecidableEq

section Files

variable {σ : Type} (writes : String → String → Bool)

/-- A file with a content, when there is one and the file can be written. -/
def saveFile (path name : String) (content : Option (List UInt8)) :
    Program PkiWrite σ PkiError Unit := do
  let bytes ← .ofExcept (okOr content .encrypt)
  .require (writes path name) .write
  .emit ((path, name), bytes)

variable {schemes : Schemes} (formats : KeyFormats schemes) (x509 : X509)

/-- `HybridKeyPair::save`. -/
def HybridKeyPair.save (keys : HybridKeyPair schemes) (name keysPath certsPath pwd : String)
    (random : KeyAlgorithm → List UInt8) : Program PkiWrite σ PkiError Unit := do
  saveFile writes keysPath (name ++ "-cl.p8")
    (saveKeysClassic formats keys.classic pwd (random .ed25519))
  saveFile writes keysPath (name ++ "-pq.p8") (saveKeysPq formats keys.pq pwd (random .mlDsa87))
  saveFile writes certsPath (name ++ "-cl.pem") (some (utf8 (x509.toPem keys.classicCert)))
  saveFile writes certsPath (name ++ "-pq.pem") (some (utf8 (x509.toPem keys.pqCert)))

/-- A certificate in a file. -/
def loadCertificate (directory : PkiDirectory) (path name : String) :
    Except LoadError X509Certificate := do
  let bytes ← okOr (directory.read path name) .read
  let pem ← okOr (fromUtf8 bytes) .read
  okOr (x509.fromPem pem) .pem

/-- `HybridKeyPair::load`, from a PKI directory. -/
def HybridKeyPair.load (directory : PkiDirectory) (name keysPath certsPath pwd : String) :
    Except LoadError (HybridKeyPair schemes) := do
  let classicDocument ← okOr (directory.read keysPath (name ++ "-cl.p8")) .read
  let classic ← loadKeysClassic formats classicDocument pwd
  let pqDocument ← okOr (directory.read keysPath (name ++ "-pq.p8")) .read
  let pq ← loadKeysPq formats pqDocument pwd
  let classicCert ← loadCertificate x509 directory certsPath (name ++ "-cl.pem")
  let pqCert ← loadCertificate x509 directory certsPath (name ++ "-pq.pem")
  return ⟨classic, classicCert, pq, pqCert⟩

/-! ### Saving and loading -/

variable {writes formats x509}

theorem loadKeysClassic_of_saveKeysClassic {key : schemes.ed25519.SigningKey} {pwd : String}
    {random cipher : List UInt8} (hsave : saveKeysClassic formats key pwd random = some cipher) :
    loadKeysClassic formats cipher pwd = .ok key := by
  rw [loadKeysClassic, formats.decryptDocument_encryptWithParams hsave, okOr_some, ok_bind,
    if_pos (formats.length_signingKeyToBytes key), formats.signingKeyFromBytes_toBytes]
  rfl

/-- Assumes: the public key of the private key is one. -/
theorem loadKeysPq_of_saveKeysPq {key : schemes.mlDsa87.SecretKey} {pwd : String}
    {random cipher : List UInt8} (hsave : saveKeysPq formats key pwd random = some cipher)
    {publicKey : schemes.mlDsa87.PublicKey}
    (hkey : schemes.mlDsa87.publicKeyFromBytes (schemes.mlDsa87.publicKeyBytes key) =
      some publicKey) : loadKeysPq formats cipher pwd = .ok key := by
  rw [loadKeysPq, formats.decryptDocument_encryptWithParams hsave, okOr_some, ok_bind,
    formats.secretKeyFromBytes_toBytes, okOr_some, ok_bind, okOr_some, ok_bind, hkey, okOr_some,
    ok_bind]
  rfl

/-- The four files of a pair of keys in one directory, with some documents of the private keys. -/
def HybridKeyPair.files (keys : HybridKeyPair schemes) (x509 : X509) (name path : String)
    (classic pq : List UInt8) : List PkiWrite :=
  [((path, name ++ "-cl.p8"), classic), ((path, name ++ "-pq.p8"), pq),
    ((path, name ++ "-cl.pem"), utf8 (x509.toPem keys.classicCert)),
    ((path, name ++ "-pq.pem"), utf8 (x509.toPem keys.pqCert))]

/-- The private keys of a pair in two documents that are encrypted with a password. -/
structure HybridKeyPair.Documents (keys : HybridKeyPair schemes) (formats : KeyFormats schemes)
    (pwd : String) (classic pq : List UInt8) : Prop where
  classic : ∃ random, saveKeysClassic formats keys.classic pwd random = some classic
  pq : ∃ random, saveKeysPq formats keys.pq pwd random = some pq

theorem establishes_saveFile {path name : String} {content : Option (List UInt8)} {start : σ} :
    Program.Establishes (saveFile writes path name content) start fun trace state _ ↦
      state = start ∧ writes path name = true ∧
        ∃ bytes, content = some bytes ∧ trace = [((path, name), bytes)] := by
  rw [saveFile, Program.establishes_ofExcept_bind_iff]
  intro bytes hbytes
  rw [Program.establishes_require_bind_iff]
  intro hwrites
  rw [Program.establishes_emit_iff]
  exact ⟨rfl, hwrites, bytes, okOr_eq_ok_iff.mp hbytes, rfl⟩

/-- What a pair of keys leaves when it is saved: its four files. -/
theorem establishes_save {keys : HybridKeyPair schemes} {name path pwd : String}
    {random : KeyAlgorithm → List UInt8} {start : σ} :
    Program.Establishes (keys.save writes formats x509 name path path pwd random) start
      fun trace state _ ↦ state = start ∧ writes path (name ++ "-cl.p8") = true ∧
        ∃ classic pq, keys.Documents formats pwd classic pq ∧
          trace = keys.files x509 name path classic pq := by
  rw [HybridKeyPair.save]
  refine Program.establishes_bind (establishes_saveFile.mono ?_)
  rintro _ _ _ ⟨rfl, hwrites, classic, hclassic, rfl⟩
  refine Program.establishes_bind (establishes_saveFile.mono ?_)
  rintro _ _ _ ⟨rfl, -, pq, hpq, rfl⟩
  refine Program.establishes_bind (establishes_saveFile.mono ?_)
  rintro _ _ _ ⟨rfl, -, _, hclassicCert, rfl⟩
  refine establishes_saveFile.mono ?_
  rintro _ _ _ ⟨rfl, -, _, hpqCert, rfl⟩
  obtain rfl := Option.some.inj hclassicCert
  obtain rfl := Option.some.inj hpqCert
  exact ⟨rfl, hwrites, classic, pq, ⟨⟨_, hclassic⟩, ⟨_, hpq⟩⟩, rfl⟩

theorem ends_saveFile {path name : String} {content : Option (List UInt8)} {start : σ}
    (hwrites : writes path name = true) (hcontent : content.isSome = true) :
    Program.Ends (saveFile writes path name content) start := by
  obtain ⟨bytes, rfl⟩ := Option.isSome_iff_exists.mp hcontent
  rw [saveFile, Program.ends_ofExcept_bind_iff]
  refine ⟨bytes, rfl, ?_⟩
  rw [Program.ends_require_bind_iff]
  exact ⟨hwrites, Program.ends_emit⟩

/-- A pair of keys is saved when its files can be written and its private keys encrypted. -/
theorem ends_save (keys : HybridKeyPair schemes) (name path pwd : String)
    (random : KeyAlgorithm → List UInt8) {start : σ}
    (hwrites : ∀ path name, writes path name = true)
    (hencrypts : ∀ info random pwd, (formats.encryptWithParams info random pwd).isSome = true) :
    Program.Ends (keys.save writes formats x509 name path path pwd random) start := by
  rw [HybridKeyPair.save]
  refine Program.ends_bind (ends_saveFile (hwrites _ _) (hencrypts _ _ _)) fun _ _ ↦ ?_
  refine Program.ends_bind (ends_saveFile (hwrites _ _) (hencrypts _ _ _)) fun _ _ ↦ ?_
  refine Program.ends_bind (ends_saveFile (hwrites _ _) rfl) fun _ _ ↦ ?_
  exact ends_saveFile (hwrites _ _) rfl

/-- A pair of keys is in the files of a directory. -/
structure HybridKeyPair.StoredIn (keys : HybridKeyPair schemes) (formats : KeyFormats schemes)
    (x509 : X509) (directory : PkiDirectory) (name path pwd : String) : Prop where
  reads : ∃ classic pq, keys.Documents formats pwd classic pq ∧
    ∀ file ∈ keys.files x509 name path classic pq, directory.read file.1.1 file.1.2 = some file.2
  publicKey : ∃ publicKey, schemes.mlDsa87.publicKeyFromBytes
    (schemes.mlDsa87.publicKeyBytes keys.pq) = some publicKey

theorem loadCertificate_of_read {cert : X509Certificate} {directory : PkiDirectory}
    {path name : String} (hread : directory.read path name = some (utf8 (x509.toPem cert))) :
    loadCertificate x509 directory path name = .ok cert := by
  rw [loadCertificate, hread, okOr_some, ok_bind, fromUtf8_utf8, okOr_some, ok_bind,
    x509.fromPem_toPem, okOr_some]

/-- A pair of keys is loaded from its files. -/
theorem load_of_storedIn {keys : HybridKeyPair schemes} {directory : PkiDirectory}
    {name path pwd : String} (hstored : keys.StoredIn formats x509 directory name path pwd) :
    HybridKeyPair.load formats x509 directory name path path pwd = .ok keys := by
  obtain ⟨⟨classic, pq, ⟨⟨_, hclassic⟩, ⟨_, hpq⟩⟩, hreads⟩, publicKey, hkey⟩ := hstored
  simp only [HybridKeyPair.files, List.forall_mem_cons] at hreads
  obtain ⟨hreadClassic, hreadPq, hreadClassicCert, hreadPqCert, -⟩ := hreads
  rw [HybridKeyPair.load, hreadClassic, okOr_some, ok_bind,
    loadKeysClassic_of_saveKeysClassic hclassic, ok_bind, hreadPq, okOr_some, ok_bind,
    loadKeysPq_of_saveKeysPq hpq hkey, ok_bind, loadCertificate_of_read hreadClassicCert, ok_bind,
    loadCertificate_of_read hreadPqCert, ok_bind]
  rfl

end Files

/-! ### Sample formats -/

theorem headD_repeated (length : ℕ) (key : UInt8) : (repeated (length + 1) key).headD 0 = key := by
  rw [repeated, List.replicate_succ, List.headD_cons]

/-- A signing key is written with 32 bytes. -/
theorem length_repeated_signingKey (key : UInt8) : (repeated 32 key).length = 32 :=
  length_repeated 32 key

/-- Formats in which a document is written as the number of its parts, and of the password. -/
def unaryFormats : KeyFormats markedSchemes where
  encryptWithParams info _ pwd :=
    some (unary (info.algorithmOid, info.privateKey, info.publicKey, pwd))
  decryptDocument cipher pwd :=
    let parts : Option (String × List UInt8 × Option (List UInt8) × String) :=
      Encodable.decode cipher.length
    parts.bind fun ⟨oid, privateKey, publicKey, password⟩ ↦
      if password = pwd then some ⟨oid, privateKey, publicKey⟩ else none
  signingKeyToBytes := repeated 32
  signingKeyFromBytes bytes := bytes.headD (0 : UInt8)
  secretKeyToBytes key := [key]
  secretKeyFromBytes := List.head?
  decryptDocument_encryptWithParams := by
    rintro ⟨oid, privateKey, publicKey⟩ random pwd cipher hencrypt
    obtain rfl := Option.some.inj hencrypt
    simp [unary]
  length_signingKeyToBytes := length_repeated_signingKey
  signingKeyFromBytes_toBytes := headD_repeated 31
  secretKeyFromBytes_toBytes _ := rfl

end Keysas.Pki
