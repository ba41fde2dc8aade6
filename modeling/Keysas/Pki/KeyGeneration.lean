import Keysas.Pki.KeyFiles

/-!
# Generation of keys

`generateRoot` makes the keys and the self-signed certificates of the root of a PKI, and
`generateSignedKeypair` the keys of an authority below it: for each algorithm it makes a request for
a new key, for which `generateCertFromCsr` makes a certificate.

`isRoot_of_generateRoot` and `isBelow_of_generateSignedKeypair` say what they make when they return.
Both kinds of certificates are valid under those of the root
(`HybridKeyPair.IsAuthority.validUnder`).
-/

set_option autoImplicit false
set_option relaxedAutoImplicit false

namespace Keysas.Pki

open Crypto Keys Reports RustStd

variable {schemes : Schemes}

/-! ### Draws -/

variable (schemes) in
/-- What is drawn and read while a pair of keys is generated and saved: the private keys, and for
each algorithm the time, the serial number and the random bytes of the encryption. -/
structure KeyDraw where
  classic : schemes.ed25519.SigningKey
  /-- There is none when the scheme or the pair fails. -/
  pq : Option schemes.mlDsa87.SecretKey
  now : KeyAlgorithm → ℕ
  serial : KeyAlgorithm → List UInt8
  random : KeyAlgorithm → List UInt8

/-! ### Roots -/

section Generate

variable (x509 : X509)

/-- The serial number of the Ed25519 certificate of a root. -/
def rootSerialClassic : List UInt8 := List.replicate 20 1

/-- The serial number of the ML-DSA-87 certificate of a root. -/
def rootSerialPq : List UInt8 := 2 :: List.replicate 19 1

/-- `generate_root_ed25519`, for a key. -/
def generateRootEd25519 (infos : CertificateFields) (key : schemes.ed25519.SigningKey) (now : ℕ) :
    Except IssueError X509Certificate :=
  generateCertificateClassic x509 key infos now (infos.generateDn x509)
    (schemes.ed25519.verifyingKeyBytes key) rootSerialClassic true

/-- `generate_root_mldsa`, for a key. -/
def generateRootMldsa (infos : CertificateFields) (key : schemes.mlDsa87.SecretKey) (now : ℕ) :
    Except IssueError X509Certificate :=
  generateCertificatePq x509 key infos now (infos.generateDn x509)
    (schemes.mlDsa87.publicKeyBytes key) rootSerialPq true

/-- `HybridKeyPair::generate_root`. -/
def generateRoot (infos : CertificateFields) (draw : KeyDraw schemes) :
    Except PkiError (HybridKeyPair schemes) := do
  let classicCert ← (generateRootEd25519 x509 infos draw.classic (draw.now .ed25519)).mapError
    .certificate
  let pq ← okOr draw.pq .key
  let pqCert ← (generateRootMldsa x509 infos pq (draw.now .mlDsa87)).mapError .certificate
  return ⟨draw.classic, classicCert, pq, pqCert⟩

/-! ### Authorities below a root -/

/-- What a request for a key is about. -/
def requestInfo (oid : String) (pubKey : List UInt8) (subject : RdnSequence) : CertReqInfo where
  subject := subject
  publicKey := ⟨⟨oid, none⟩, .fromBytes pubKey⟩
  attributes := []

/-- `SigningKey::generate_csr`. -/
def generateCsrClassic (key : schemes.ed25519.SigningKey) (subject : RdnSequence) : CertReq where
  info := requestInfo ed25519Oid (schemes.ed25519.verifyingKeyBytes key) subject
  algorithm := ⟨ed25519Oid, none⟩
  signature := .fromBytes (schemes.ed25519.sign key (x509.infoToDer
    (requestInfo ed25519Oid (schemes.ed25519.verifyingKeyBytes key) subject)))

/-- `KeysasPQKey::generate_csr`. -/
def generateCsrPq (key : schemes.mlDsa87.SecretKey) (subject : RdnSequence) :
    Except IssueError CertReq := do
  let info := requestInfo mlDsa87Oid (schemes.mlDsa87.publicKeyBytes key) subject
  let signature ← okOr (schemes.mlDsa87.sign key (x509.infoToDer info)) .sign
  return ⟨info, ⟨mlDsa87Oid, none⟩, .fromBytes signature⟩

/-- `HybridKeyPair::generate_signed_keypair`. -/
def generateSignedKeypair (caKeys : HybridKeyPair schemes) (subjectName : RdnSequence)
    (pkiInfos : CertificateFields) (isAppKey : Bool) (draw : KeyDraw schemes) :
    Except PkiError (HybridKeyPair schemes) := do
  let classicCert ← (generateCertFromCsr x509 caKeys
    (generateCsrClassic x509 draw.classic subjectName) pkiInfos isAppKey (draw.now .ed25519)
    (draw.serial .ed25519)).mapError .certificate
  let pq ← okOr draw.pq .key
  let csr ← (generateCsrPq x509 pq subjectName).mapError .certificate
  let pqCert ← (generateCertFromCsr x509 caKeys csr pkiInfos isAppKey (draw.now .mlDsa87)
    (draw.serial .mlDsa87)).mapError .certificate
  return ⟨draw.classic, classicCert, pq, pqCert⟩

end Generate

/-! ### What is made -/

variable {x509 : X509}

theorem mapError_eq_ok_iff {ε δ α : Type} {convert : ε → δ} {result : Except ε α} {value : α} :
    result.mapError convert = .ok value ↔ result = .ok value := by
  cases result <;> simp [Except.mapError]

theorem of_constructTbsCertificate {fields : CertificateFields} {now : ℕ}
    {subjectName : RdnSequence} {pubValue serial : List UInt8} {algoOid : String}
    {isAppCert : Bool} {tbs : TbsCertificate}
    (hconstruct : fields.constructTbsCertificate x509 now subjectName pubValue serial algoOid
      isAppCert = .ok tbs) :
    tbs.subject = subjectName ∧
      tbs.subjectPublicKeyInfo = ⟨⟨algoOid, none⟩, .fromBytes pubValue⟩ ∧
      ∃ days, fields.validity = some days ∧ tbs.validity = ⟨now, now + secondsOf days⟩ := by
  obtain ⟨days, hdays, hconstruct⟩ := exists_of_okOr_bind_eq_ok hconstruct
  obtain ⟨validity, hvalidity, hconstruct⟩ := exists_of_bind_eq_ok hconstruct
  obtain rfl := Except.ok.inj hconstruct
  rw [validityFromNow] at hvalidity
  split_ifs at hvalidity
  obtain rfl := Except.ok.inj hvalidity
  exact ⟨rfl, rfl, days, hdays, rfl⟩

theorem of_generateCertificateClassic {keys : HybridKeyPair schemes} {caInfos : CertificateFields}
    {now : ℕ} {subject : RdnSequence} {pubKey serial : List UInt8} {isAppCert : Bool}
    {cert : X509Certificate}
    (hissued : generateCertificateClassic x509 keys.classic caInfos now subject pubKey serial
      isAppCert = .ok cert) :
    keys.Certifies x509 cert subject pubKey .ed25519 ∧
      ∃ days, caInfos.validity = some days ∧
        cert.tbsCertificate.validity = ⟨now, now + secondsOf days⟩ := by
  obtain ⟨tbs, hconstruct, hissued⟩ := exists_of_bind_eq_ok hissued
  obtain rfl := Except.ok.inj hissued
  obtain ⟨hsubject, hkey, hvalidity⟩ := of_constructTbsCertificate hconstruct
  exact ⟨⟨hsubject, hkey, rfl⟩, hvalidity⟩

theorem of_generateCertificatePq {keys : HybridKeyPair schemes} {caInfos : CertificateFields}
    {now : ℕ} {subject : RdnSequence} {pubKey serial : List UInt8} {isAppCert : Bool}
    {cert : X509Certificate}
    (hissued : generateCertificatePq x509 keys.pq caInfos now subject pubKey serial isAppCert =
      .ok cert) :
    keys.Certifies x509 cert subject pubKey .mlDsa87 := by
  obtain ⟨tbs, hconstruct, hissued⟩ := exists_of_bind_eq_ok hissued
  obtain ⟨signed, hsigned, hissued⟩ := exists_of_okOr_bind_eq_ok hissued
  obtain rfl := Except.ok.inj hissued
  obtain ⟨hsubject, hkey, -⟩ := of_constructTbsCertificate hconstruct
  exact ⟨hsubject, hkey, signed, hsigned, rfl⟩

/-- What is made for a request is signed with the key of the algorithm of the request. -/
theorem signed_of_generateCertFromCsr {caKeys : HybridKeyPair schemes} {csr : CertReq}
    {pkiInfo : CertificateFields} {isAppCert : Bool} {now : ℕ} {serial : List UInt8}
    {cert : X509Certificate}
    (hissued : generateCertFromCsr x509 caKeys csr pkiInfo isAppCert now serial = .ok cert)
    {algorithm : KeyAlgorithm} (hoid : csr.info.publicKey.algorithm.oid = algorithm.oid) :
    caKeys.Signed x509 cert algorithm := by
  obtain ⟨pubKey, -, hissued⟩ := exists_of_okOr_bind_eq_ok hissued
  cases algorithm with
  | ed25519 =>
    have hed25519 : csr.info.publicKey.algorithm.oid = ed25519Oid := hoid
    rw [if_pos hed25519] at hissued
    obtain ⟨⟨⟩, -, hissued⟩ := exists_of_bind_eq_ok hissued
    exact (of_generateCertificateClassic hissued).1.signed
  | mlDsa87 =>
    have hmlDsa87 : csr.info.publicKey.algorithm.oid = mlDsa87Oid := hoid
    have hother : csr.info.publicKey.algorithm.oid ≠ ed25519Oid := by
      rw [hmlDsa87]
      decide
    rw [if_neg hother, if_pos hmlDsa87] at hissued
    obtain ⟨⟨⟩, -, hissued⟩ := exists_of_bind_eq_ok hissued
    exact (of_generateCertificatePq hissued).signed

/-- What is made for a request has a key of the algorithm of the request. -/
theorem oid_of_generateCertFromCsr {caKeys : HybridKeyPair schemes} {csr : CertReq}
    {pkiInfo : CertificateFields} {isAppCert : Bool} {now : ℕ} {serial : List UInt8}
    {cert : X509Certificate}
    (hissued : generateCertFromCsr x509 caKeys csr pkiInfo isAppCert now serial = .ok cert) :
    cert.tbsCertificate.subjectPublicKeyInfo.algorithm.oid =
      csr.info.publicKey.algorithm.oid := by
  obtain ⟨pubKey, -, hissued⟩ := exists_of_okOr_bind_eq_ok hissued
  split_ifs at hissued with hed25519 hmlDsa87
  · obtain ⟨⟨⟩, -, hissued⟩ := exists_of_bind_eq_ok hissued
    rw [(of_generateCertificateClassic hissued).1.hasKey, hed25519]
    rfl
  · obtain ⟨⟨⟩, -, hissued⟩ := exists_of_bind_eq_ok hissued
    rw [(of_generateCertificatePq hissued).hasKey, hmlDsa87]
    rfl

/-- The public key of a pair of keys is one. -/
def HybridKeyPair.HasPublicKey (keys : HybridKeyPair schemes) : Prop :=
  ∃ publicKey, schemes.mlDsa87.publicKeyFromBytes (schemes.mlDsa87.publicKeyBytes keys.pq) =
    some publicKey

/-- The public key of a private key that has signed is one. -/
theorem hasPublicKey_of_sign {keys : HybridKeyPair schemes} {message signed : List UInt8}
    (hsign : schemes.mlDsa87.sign keys.pq message = some signed) : keys.HasPublicKey := by
  obtain ⟨publicKey, -, hkey, -⟩ := schemes.mlDsa87.verify_sign hsign
  exact ⟨publicKey, hkey⟩

/-- The keys of a root with its self-signed certificates, whose subject and validity are those of
some fields. -/
structure HybridKeyPair.IsRoot (root : HybridKeyPair schemes) (x509 : X509)
    (infos : CertificateFields) : Prop where
  certifies : ∀ algorithm, root.Certifies x509 (root.certFor algorithm) (infos.generateDn x509)
    (root.publicKeyBytes algorithm) algorithm
  validity : ∃ now days, infos.validity = some days ∧
    root.classicCert.tbsCertificate.validity = ⟨now, now + secondsOf days⟩
  hasPublicKey : root.HasPublicKey

/-- A root that is generated has the fields that it is generated for. -/
theorem isRoot_of_generateRoot {infos : CertificateFields} {draw : KeyDraw schemes}
    {root : HybridKeyPair schemes} (hroot : generateRoot x509 infos draw = .ok root) :
    root.IsRoot x509 infos := by
  obtain ⟨classicCert, hclassic, hroot⟩ := exists_of_bind_eq_ok hroot
  obtain ⟨pq, -, hroot⟩ := exists_of_okOr_bind_eq_ok hroot
  obtain ⟨pqCert, hpq, hroot⟩ := exists_of_bind_eq_ok hroot
  obtain rfl := Except.ok.inj hroot
  let root : HybridKeyPair schemes := ⟨draw.classic, classicCert, pq, pqCert⟩
  have hclassicCert : root.Certifies x509 classicCert _ _ .ed25519 ∧ _ :=
    of_generateCertificateClassic (mapError_eq_ok_iff.mp hclassic)
  have hpqCert : root.Certifies x509 pqCert _ _ .mlDsa87 :=
    of_generateCertificatePq (mapError_eq_ok_iff.mp hpq)
  obtain ⟨hcertifies, days, hdays, hvalidity⟩ := hclassicCert
  obtain ⟨signed, hsign, -⟩ := hpqCert.signed
  refine ⟨fun algorithm ↦ ?_, ⟨_, days, hdays, hvalidity⟩, hasPublicKey_of_sign hsign⟩
  cases algorithm with
  | ed25519 => exact hcertifies
  | mlDsa87 => exact hpqCert

/-- The keys of an authority below a root, with certificates that are signed by the root. -/
structure HybridKeyPair.IsBelow (keys root : HybridKeyPair schemes) (x509 : X509) : Prop where
  signed : ∀ algorithm, root.Signed x509 (keys.certFor algorithm) algorithm
  hasPublicKey : keys.HasPublicKey

/-- The keys that are generated below a root have certificates that are signed by it. -/
theorem isBelow_of_generateSignedKeypair {caKeys keys : HybridKeyPair schemes}
    {subjectName : RdnSequence} {pkiInfos : CertificateFields} {isAppKey : Bool}
    {draw : KeyDraw schemes}
    (hkeys : generateSignedKeypair x509 caKeys subjectName pkiInfos isAppKey draw = .ok keys) :
    keys.IsBelow caKeys x509 := by
  obtain ⟨classicCert, hclassic, hkeys⟩ := exists_of_bind_eq_ok hkeys
  obtain ⟨pq, -, hkeys⟩ := exists_of_okOr_bind_eq_ok hkeys
  obtain ⟨csr, hcsr, hkeys⟩ := exists_of_bind_eq_ok hkeys
  obtain ⟨pqCert, hpq, hkeys⟩ := exists_of_bind_eq_ok hkeys
  obtain rfl := Except.ok.inj hkeys
  obtain ⟨signature, hsign, hcsr⟩ := exists_of_okOr_bind_eq_ok (mapError_eq_ok_iff.mp hcsr)
  obtain rfl := Except.ok.inj hcsr
  let keys : HybridKeyPair schemes := ⟨draw.classic, classicCert, pq, pqCert⟩
  have hpublic : keys.HasPublicKey := hasPublicKey_of_sign hsign
  refine ⟨fun algorithm ↦ ?_, hpublic⟩
  cases algorithm with
  | ed25519 => exact signed_of_generateCertFromCsr (mapError_eq_ok_iff.mp hclassic) rfl
  | mlDsa87 => exact signed_of_generateCertFromCsr (mapError_eq_ok_iff.mp hpq) rfl

/-- The keys of an authority with self-signed certificates of its keys, of whatever subject and
validity. -/
structure HybridKeyPair.IsAuthority (root : HybridKeyPair schemes) (x509 : X509) : Prop where
  isBelow : root.IsBelow root x509
  hasKey : ∀ algorithm, (root.certFor algorithm).HasKey algorithm.oid
    (root.publicKeyBytes algorithm)

/-- What is signed by an authority is valid under its certificate for the algorithm. -/
theorem HybridKeyPair.IsAuthority.validUnder {root : HybridKeyPair schemes}
    (hroot : root.IsAuthority x509) {cert : X509Certificate} {algorithm : KeyAlgorithm}
    (hsigned : root.Signed x509 cert algorithm) :
    ValidUnder schemes x509 cert (root.certFor algorithm) := by
  have hparse : x509.parse (x509.toPem cert) = some (x509.view cert) := by
    rw [X509.parse, x509.fromPem_toPem]
    rfl
  exact ⟨_, validateSigningCertificate_of_issuedBy hparse
    (issuedBy_of_signed hsigned (hroot.hasKey algorithm))⟩

/-- A root is an authority. -/
theorem HybridKeyPair.IsRoot.isAuthority {root : HybridKeyPair schemes}
    {infos : CertificateFields} (hroot : root.IsRoot x509 infos) : root.IsAuthority x509 where
  isBelow := ⟨fun algorithm ↦ (hroot.certifies algorithm).signed, hroot.hasPublicKey⟩
  hasKey algorithm := by
    rw [X509Certificate.HasKey, (hroot.certifies algorithm).hasKey]
    exact ⟨rfl, rfl⟩

/-! ### When keys are made -/

/-- Nothing is in the way of a pair of keys: its ML-DSA-87 key is drawn, and at both times a
certificate can be made for the fields. -/
structure KeyDraw.Succeeds (draw : KeyDraw schemes) (infos : CertificateFields) : Prop where
  pq : draw.pq.isSome
  validFor : ∀ algorithm, infos.ValidFor (draw.now algorithm)

/-- A root is generated when nothing is in the way. Assumes: signing does not fail. -/
theorem exists_generateRoot (hideal : IdealSchemes schemes) {infos : CertificateFields}
    {draw : KeyDraw schemes} (hdraw : draw.Succeeds infos) :
    ∃ root, generateRoot x509 infos draw = .ok root := by
  obtain ⟨pq, hpq⟩ := Option.isSome_iff_exists.mp hdraw.pq
  have hclassic : ∃ cert, generateRootEd25519 x509 infos draw.classic (draw.now .ed25519) =
      .ok cert := by
    obtain ⟨tbs, hconstruct, -⟩ := constructTbsCertificate_of_validFor x509
      (hdraw.validFor .ed25519) (infos.generateDn x509)
      (schemes.ed25519.verifyingKeyBytes draw.classic) rootSerialClassic ed25519Oid true
    rw [generateRootEd25519, generateCertificateClassic, hconstruct, ok_bind]
    exact ⟨_, rfl⟩
  have hmldsa : ∃ cert, generateRootMldsa x509 infos pq (draw.now .mlDsa87) = .ok cert := by
    obtain ⟨tbs, hconstruct, -⟩ := constructTbsCertificate_of_validFor x509
      (hdraw.validFor .mlDsa87) (infos.generateDn x509) (schemes.mlDsa87.publicKeyBytes pq)
      rootSerialPq mlDsa87Oid true
    obtain ⟨signed, hsigned⟩ := Option.isSome_iff_exists.mp (hideal.signs pq (x509.tbsToDer tbs))
    rw [generateRootMldsa, generateCertificatePq, hconstruct, ok_bind, hsigned, okOr_some, ok_bind]
    exact ⟨_, rfl⟩
  obtain ⟨classicCert, hclassicCert⟩ := hclassic
  obtain ⟨pqCert, hpqCert⟩ := hmldsa
  refine ⟨⟨draw.classic, classicCert, pq, pqCert⟩, ?_⟩
  rw [generateRoot, hclassicCert, hpq]
  show ((generateRootMldsa x509 infos pq (draw.now .mlDsa87)).mapError PkiError.certificate >>=
    fun pqCert ↦ _) = _
  rw [hpqCert]
  rfl

/-- A request for an Ed25519 key that is generated is signed by this key. -/
theorem selfSignedBy_generateCsrClassic (key : schemes.ed25519.SigningKey)
    (subject : RdnSequence) :
    (generateCsrClassic x509 key subject).SelfSignedBy schemes x509
      (schemes.ed25519.verifyingKeyBytes key) .ed25519 := by
  obtain ⟨verifying, hkey, hverify⟩ := schemes.ed25519.verifyStrict_sign key
  refine ⟨schemes.ed25519.length_verifyingKeyBytes key, ?_, verifying, hkey, hverify _⟩
  exact schemes.ed25519.length_sign key _

/-- A request for an ML-DSA-87 key is generated, and is signed by this key. Assumes: signing does
not fail. -/
theorem exists_generateCsrPq (hideal : IdealSchemes schemes) (key : schemes.mlDsa87.SecretKey)
    (subject : RdnSequence) :
    ∃ csr, generateCsrPq x509 key subject = .ok csr ∧
      csr.info = requestInfo mlDsa87Oid (schemes.mlDsa87.publicKeyBytes key) subject ∧
      csr.SelfSignedBy schemes x509 (schemes.mlDsa87.publicKeyBytes key) .mlDsa87 := by
  obtain ⟨signed, hsigned⟩ := Option.isSome_iff_exists.mp (hideal.signs key
    (x509.infoToDer (requestInfo mlDsa87Oid (schemes.mlDsa87.publicKeyBytes key) subject)))
  obtain ⟨publicKey, signature, hkey, hsignature, hverify⟩ := schemes.mlDsa87.verify_sign hsigned
  refine ⟨⟨requestInfo mlDsa87Oid (schemes.mlDsa87.publicKeyBytes key) subject,
    ⟨mlDsa87Oid, none⟩, .fromBytes signed⟩, ?_, rfl, publicKey, signature, hkey, hsignature,
    hverify⟩
  rw [generateCsrPq, hsigned]
  rfl

/-- The keys of an authority are generated when nothing is in the way. Assumes: signing does not
fail. -/
theorem exists_generateSignedKeypair (hideal : IdealSchemes schemes)
    (caKeys : HybridKeyPair schemes) (subjectName : RdnSequence) {infos : CertificateFields}
    (isAppKey : Bool) {draw : KeyDraw schemes} (hdraw : draw.Succeeds infos) :
    ∃ keys, generateSignedKeypair x509 caKeys subjectName infos isAppKey draw = .ok keys := by
  obtain ⟨pq, hpq⟩ := Option.isSome_iff_exists.mp hdraw.pq
  obtain ⟨csr, hcsr, hinfo, hself⟩ := @exists_generateCsrPq _ x509 hideal pq subjectName
  have hoid : csr.info.publicKey.algorithm.oid = KeyAlgorithm.mlDsa87.oid := by
    rw [hinfo]
    rfl
  have hbytes : csr.info.publicKey.subjectPublicKey.asBytes =
      some (schemes.mlDsa87.publicKeyBytes pq) := by
    rw [hinfo]
    rfl
  obtain ⟨classicCert, hclassicCert, -⟩ := exists_of_selfSignedBy hideal caKeys
    (hdraw.validFor .ed25519) isAppKey (draw.serial .ed25519) rfl rfl
    (selfSignedBy_generateCsrClassic draw.classic subjectName)
  obtain ⟨pqCert, hpqCert, -⟩ := exists_of_selfSignedBy hideal caKeys (hdraw.validFor .mlDsa87)
    isAppKey (draw.serial .mlDsa87) hoid hbytes hself
  refine ⟨⟨draw.classic, classicCert, pq, pqCert⟩, ?_⟩
  rw [generateSignedKeypair, hclassicCert, hpq]
  show ((generateCsrPq x509 pq subjectName).mapError PkiError.certificate >>= fun csr ↦ _) = _
  rw [hcsr]
  show ((generateCertFromCsr x509 caKeys csr infos isAppKey (draw.now .mlDsa87)
    (draw.serial .mlDsa87)).mapError PkiError.certificate >>= fun pqCert ↦ _) = _
  rw [hpqCert]
  rfl

end Keysas.Pki
