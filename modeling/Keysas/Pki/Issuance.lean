import Mathlib.Logic.Equiv.List
import Mathlib.Tactic.DeriveEncodable
import Keysas.Pki.CertificateFields
import Keysas.Reports.ReportSoundness

/-!
# Issuance of certificates

`generateCertFromCsr` makes a certificate for a request whose signature verifies under the public
key in it, signed with the key of the authority of the same algorithm. `validateSigningCertificate`
is written apart from it, for the verifiers of certificates.

`generateCertFromCsr_iff` says that the two agree: exactly the requests that are signed by their own
key get a certificate, which has the subject and the key of the request and is valid under the
certificate of the authority of the same algorithm, and under no other key. `IdealSchemes` collects
what is documented of the signature schemes and that a signature verifies under the key of its maker
only. Schemes that satisfy all of it are at the end.
-/

set_option autoImplicit false
set_option relaxedAutoImplicit false

namespace Keysas.Pki

open Crypto Keys Reports RustStd

variable {schemes : Schemes}

/-! ### Authorities -/

variable (schemes) in
/-- `HybridKeyPair`: two private keys with their certificates. -/
structure HybridKeyPair where
  classic : schemes.ed25519.SigningKey
  classicCert : X509Certificate
  pq : schemes.mlDsa87.SecretKey
  pqCert : X509Certificate

/-- The algorithms of keys. -/
inductive KeyAlgorithm where
  | ed25519
  | mlDsa87
  deriving DecidableEq

/-- The object identifier of an algorithm. -/
def KeyAlgorithm.oid : KeyAlgorithm → String
  | .ed25519 => ed25519Oid
  | .mlDsa87 => mlDsa87Oid

theorem KeyAlgorithm.oid_injective : Function.Injective KeyAlgorithm.oid := by
  intro first second hoid
  cases first <;> cases second <;> first | rfl | exact absurd hoid (by decide)

/-- The public key of a pair for an algorithm. -/
def HybridKeyPair.publicKeyBytes (keys : HybridKeyPair schemes) : KeyAlgorithm → List UInt8
  | .ed25519 => schemes.ed25519.verifyingKeyBytes keys.classic
  | .mlDsa87 => schemes.mlDsa87.publicKeyBytes keys.pq

/-- The certificate of a pair for an algorithm. -/
def HybridKeyPair.certFor (keys : HybridKeyPair schemes) : KeyAlgorithm → X509Certificate
  | .ed25519 => keys.classicCert
  | .mlDsa87 => keys.pqCert

/-- The algorithm and the public key in a certificate. -/
def X509Certificate.HasKey (cert : X509Certificate) (oid : String) (key : List UInt8) : Prop :=
  cert.tbsCertificate.subjectPublicKeyInfo.algorithm.oid = oid ∧
    cert.tbsCertificate.subjectPublicKeyInfo.subjectPublicKey.bytes = key

variable (schemes) in
/-- A hybrid authority: a pair of keys whose certificates are those of its keys. -/
structure HybridCa extends HybridKeyPair schemes where
  hasKey : ∀ algorithm, (toHybridKeyPair.certFor algorithm).HasKey algorithm.oid
    (toHybridKeyPair.publicKeyBytes algorithm)

/-! ### Issuance -/

/-- An error unless a check passes. -/
def demand (check : Bool) (error : IssueError) : Except IssueError Unit :=
  if check then .ok () else .error error

section Issue

variable (x509 : X509)

/-- `SigningKey::generate_certificate`. -/
def generateCertificateClassic (key : schemes.ed25519.SigningKey) (caInfos : CertificateFields)
    (now : ℕ) (subjectInfos : RdnSequence) (subjectKey serial : List UInt8) (isAppCert : Bool) :
    Except IssueError X509Certificate := do
  let tbs ← caInfos.constructTbsCertificate x509 now subjectInfos subjectKey serial ed25519Oid
    isAppCert
  return ⟨tbs, ⟨ed25519Oid, none⟩, .fromBytes (schemes.ed25519.sign key (x509.tbsToDer tbs))⟩

/-- `KeysasPQKey::generate_certificate`. -/
def generateCertificatePq (key : schemes.mlDsa87.SecretKey) (caInfos : CertificateFields)
    (now : ℕ) (subjectInfos : RdnSequence) (subjectKey serial : List UInt8) (isAppCert : Bool) :
    Except IssueError X509Certificate := do
  let tbs ← caInfos.constructTbsCertificate x509 now subjectInfos subjectKey serial mlDsa87Oid
    isAppCert
  let signature ← okOr (schemes.mlDsa87.sign key (x509.tbsToDer tbs)) .sign
  return ⟨tbs, ⟨mlDsa87Oid, none⟩, .fromBytes signature⟩

variable (schemes) in
/-- The check of a request with an Ed25519 key. -/
def checkCsrClassic (csr : CertReq) (pubKey : List UInt8) : Except IssueError Unit := do
  demand (pubKey.length = 32) .publicKeyLength
  let key ← okOr (schemes.ed25519.verifyingKeyFromBytes pubKey) .publicKeyPoint
  demand (csr.signature.bytes.length = 64) .signatureLength
  demand (schemes.ed25519.verifyStrict key (x509.infoToDer csr.info) csr.signature.bytes)
    .invalidSignature

variable (schemes) in
/-- The check of a request with an ML-DSA-87 key. -/
def checkCsrPq (csr : CertReq) (pubKey : List UInt8) : Except IssueError Unit := do
  let signature ← okOr (schemes.mlDsa87.signatureFromBytes csr.signature.bytes) .createSignature
  let key ← okOr (schemes.mlDsa87.publicKeyFromBytes pubKey) .createPublicKey
  demand (schemes.mlDsa87.verify key (x509.infoToDer csr.info) signature) .invalidSignature

/-- `generate_cert_from_csr`, at a time and with a serial number of 20 random bytes. The algorithm
is that of the public key; the one of the signature is not looked at. -/
def generateCertFromCsr (caKeys : HybridKeyPair schemes) (csr : CertReq)
    (pkiInfo : CertificateFields) (isAppCert : Bool) (now : ℕ) (serial : List UInt8) :
    Except IssueError X509Certificate := do
  let subject := csr.info.subject
  let pubKey ← okOr csr.info.publicKey.subjectPublicKey.asBytes .publicKeyMissing
  if csr.info.publicKey.algorithm.oid = ed25519Oid then
    checkCsrClassic schemes x509 csr pubKey
    generateCertificateClassic x509 caKeys.classic pkiInfo now subject pubKey serial isAppCert
  else if csr.info.publicKey.algorithm.oid = mlDsa87Oid then
    checkCsrPq schemes x509 csr pubKey
    generateCertificatePq x509 caKeys.pq pkiInfo now subject pubKey serial isAppCert
  else throw .algorithmOid

end Issue

/-! ### Requests -/

variable (schemes) in
/-- The signature of a request verifies under the public key in it, for an algorithm. -/
def CertReq.SelfSignedBy (x509 : X509) (csr : CertReq) (pubKey : List UInt8) : KeyAlgorithm → Prop
  | .ed25519 => pubKey.length = 32 ∧ csr.signature.bytes.length = 64 ∧
    ∃ key, schemes.ed25519.verifyingKeyFromBytes pubKey = some key ∧
      schemes.ed25519.verifyStrict key (x509.infoToDer csr.info) csr.signature.bytes = true
  | .mlDsa87 => ∃ key signature, schemes.mlDsa87.publicKeyFromBytes pubKey = some key ∧
    schemes.mlDsa87.signatureFromBytes csr.signature.bytes = some signature ∧
      schemes.mlDsa87.verify key (x509.infoToDer csr.info) signature = true

variable (schemes) in
/-- The request has an Ed25519 or an ML-DSA-87 key, and its signature verifies under this key. -/
def CertReq.SelfSigned (x509 : X509) (csr : CertReq) : Prop :=
  ∃ algorithm : KeyAlgorithm, csr.info.publicKey.algorithm.oid = algorithm.oid ∧
    ∃ pubKey, csr.info.publicKey.subjectPublicKey.asBytes = some pubKey ∧
      csr.SelfSignedBy schemes x509 pubKey algorithm

variable (schemes) in
/-- What is documented of the schemes, and ideal signatures: what a key has signed verifies under
its own public key only. -/
structure IdealSchemes : Prop where
  classic : ∀ {key message bytes verifying},
    schemes.ed25519.verifyingKeyFromBytes bytes = some verifying →
    schemes.ed25519.verifyStrict verifying message (schemes.ed25519.sign key message) = true →
      bytes = schemes.ed25519.verifyingKeyBytes key
  pq : ∀ {key message signed bytes publicKey signature},
    schemes.mlDsa87.sign key message = some signed →
    schemes.mlDsa87.signatureFromBytes signed = some signature →
    schemes.mlDsa87.publicKeyFromBytes bytes = some publicKey →
    schemes.mlDsa87.verify publicKey message signature = true →
      bytes = schemes.mlDsa87.publicKeyBytes key
  /-- Signing does not fail. -/
  signs : ∀ key message, (schemes.mlDsa87.sign key message).isSome
  /-- An Ed25519 signature has 64 bytes. -/
  classicLength : ∀ {key message signature},
    schemes.ed25519.verifyStrict key message signature = true → signature.length = 64
  /-- An ML-DSA-87 signature has 4627 bytes. -/
  pqLength : ∀ {key message bytes signature},
    schemes.mlDsa87.signatureFromBytes bytes = some signature →
    schemes.mlDsa87.verify key message signature = true → bytes.length = 4627

/-! ### Checks of requests -/

variable {x509 : X509}

theorem BitString.eq_fromBytes_of_asBytes {bits : BitString} {bytes : List UInt8}
    (hbytes : bits.asBytes = some bytes) : bits = .fromBytes bytes := by
  rcases bits with ⟨unusedBits, content⟩
  obtain ⟨hfull, hcontent⟩ : unusedBits = 0 ∧ content = bytes := by
    simpa [BitString.asBytes] using hbytes
  rw [hfull, hcontent, BitString.fromBytes]

theorem demand_eq_ok_iff {check : Bool} {error : IssueError} :
    demand check error = .ok () ↔ check = true := by
  cases check <;> simp [demand]

theorem demand_bind_eq_ok_iff {α : Type} {check : Bool} {error : IssueError}
    {next : Unit → Except IssueError α} {result : α} :
    (demand check error >>= next) = .ok result ↔ check = true ∧ next () = .ok result := by
  cases check with
  | false => exact iff_of_false nofun (by simp)
  | true => exact (and_iff_right rfl).symm

theorem okOr_bind_eq_ok_iff {α β : Type} {value : Option α} {error : IssueError}
    {next : α → Except IssueError β} {result : β} :
    (okOr value error >>= next) = .ok result ↔
      ∃ found, value = some found ∧ next found = .ok result := by
  cases value with
  | none => exact iff_of_false nofun (by simp)
  | some found => simp

theorem checkCsrClassic_eq_ok_iff {csr : CertReq} {pubKey : List UInt8} :
    checkCsrClassic schemes x509 csr pubKey = .ok () ↔
      csr.SelfSignedBy schemes x509 pubKey .ed25519 := by
  rw [checkCsrClassic, demand_bind_eq_ok_iff, okOr_bind_eq_ok_iff]
  simp only [demand_bind_eq_ok_iff, demand_eq_ok_iff, decide_eq_true_eq, CertReq.SelfSignedBy]
  constructor
  · rintro ⟨hkey, key, hpoint, hsignature, hverify⟩
    exact ⟨hkey, hsignature, key, hpoint, hverify⟩
  · rintro ⟨hkey, hsignature, key, hpoint, hverify⟩
    exact ⟨hkey, key, hpoint, hsignature, hverify⟩

theorem checkCsrPq_eq_ok_iff {csr : CertReq} {pubKey : List UInt8} :
    checkCsrPq schemes x509 csr pubKey = .ok () ↔
      csr.SelfSignedBy schemes x509 pubKey .mlDsa87 := by
  rw [checkCsrPq, okOr_bind_eq_ok_iff]
  simp only [okOr_bind_eq_ok_iff, demand_eq_ok_iff, CertReq.SelfSignedBy]
  constructor
  · rintro ⟨signature, hsignature, key, hkey, hverify⟩
    exact ⟨key, signature, hkey, hsignature, hverify⟩
  · rintro ⟨key, signature, hkey, hsignature, hverify⟩
    exact ⟨signature, hsignature, key, hkey, hverify⟩

/-! ### Certificates that are made -/

/-- The certificate is signed with the key of a pair for an algorithm. -/
def HybridKeyPair.Signed (keys : HybridKeyPair schemes) (x509 : X509) (cert : X509Certificate) :
    KeyAlgorithm → Prop
  | .ed25519 => cert.signature =
    .fromBytes (schemes.ed25519.sign keys.classic (x509.tbsToDer cert.tbsCertificate))
  | .mlDsa87 => ∃ signed,
    schemes.mlDsa87.sign keys.pq (x509.tbsToDer cert.tbsCertificate) = some signed ∧
      cert.signature = .fromBytes signed

/-- A certificate for a subject and a key of an algorithm, from a pair of keys. -/
structure HybridKeyPair.Certifies (keys : HybridKeyPair schemes) (x509 : X509)
    (cert : X509Certificate) (subject : RdnSequence) (pubKey : List UInt8)
    (algorithm : KeyAlgorithm) : Prop where
  subject : cert.tbsCertificate.subject = subject
  hasKey : cert.tbsCertificate.subjectPublicKeyInfo =
    ⟨⟨algorithm.oid, none⟩, .fromBytes pubKey⟩
  signed : keys.Signed x509 cert algorithm

/-- Assumes: the fields have a valid validity. -/
theorem exists_generateCertificateClassic (keys : HybridKeyPair schemes)
    {caInfos : CertificateFields} {now : ℕ} (hvalid : caInfos.ValidFor now)
    (subject : RdnSequence) (pubKey serial : List UInt8) (isAppCert : Bool) :
    ∃ cert, generateCertificateClassic x509 keys.classic caInfos now subject pubKey serial
        isAppCert = .ok cert ∧ keys.Certifies x509 cert subject pubKey .ed25519 := by
  obtain ⟨tbs, hconstruct, hsubject, hkey, -⟩ := constructTbsCertificate_of_validFor x509 hvalid
    subject pubKey serial ed25519Oid isAppCert
  rw [generateCertificateClassic, hconstruct, ok_bind]
  exact ⟨_, rfl, hsubject, hkey, rfl⟩

/-- Assumes: the fields have a valid validity, and signing does not fail. -/
theorem exists_generateCertificatePq (hideal : IdealSchemes schemes)
    (keys : HybridKeyPair schemes) {caInfos : CertificateFields} {now : ℕ}
    (hvalid : caInfos.ValidFor now) (subject : RdnSequence) (pubKey serial : List UInt8)
    (isAppCert : Bool) :
    ∃ cert, generateCertificatePq x509 keys.pq caInfos now subject pubKey serial isAppCert =
        .ok cert ∧ keys.Certifies x509 cert subject pubKey .mlDsa87 := by
  obtain ⟨tbs, hconstruct, hsubject, hkey, -⟩ := constructTbsCertificate_of_validFor x509 hvalid
    subject pubKey serial mlDsa87Oid isAppCert
  obtain ⟨signed, hsigned⟩ := Option.isSome_iff_exists.mp
    (hideal.signs keys.pq (x509.tbsToDer tbs))
  rw [generateCertificatePq, hconstruct, ok_bind, hsigned, okOr_some, ok_bind]
  exact ⟨_, rfl, hsubject, hkey, signed, hsigned, rfl⟩

/-- A request that is signed by its own key gets a certificate. -/
theorem exists_of_selfSignedBy (hideal : IdealSchemes schemes) (keys : HybridKeyPair schemes)
    {csr : CertReq} {fields : CertificateFields} {now : ℕ} (hvalid : fields.ValidFor now)
    (isAppCert : Bool) (serial : List UInt8) {algorithm : KeyAlgorithm} {pubKey : List UInt8}
    (hoid : csr.info.publicKey.algorithm.oid = algorithm.oid)
    (hkey : csr.info.publicKey.subjectPublicKey.asBytes = some pubKey)
    (hsigned : csr.SelfSignedBy schemes x509 pubKey algorithm) :
    ∃ cert, generateCertFromCsr x509 keys csr fields isAppCert now serial = .ok cert ∧
      keys.Certifies x509 cert csr.info.subject pubKey algorithm := by
  rw [generateCertFromCsr, hkey, okOr_some, ok_bind]
  cases algorithm with
  | ed25519 =>
    have hed25519 : csr.info.publicKey.algorithm.oid = ed25519Oid := hoid
    rw [if_pos hed25519, checkCsrClassic_eq_ok_iff.mpr hsigned, ok_bind]
    exact exists_generateCertificateClassic keys hvalid _ _ _ _
  | mlDsa87 =>
    have hmlDsa87 : csr.info.publicKey.algorithm.oid = mlDsa87Oid := hoid
    have hother : csr.info.publicKey.algorithm.oid ≠ ed25519Oid := by
      rw [hmlDsa87]
      decide
    rw [if_neg hother, if_pos hmlDsa87, checkCsrPq_eq_ok_iff.mpr hsigned, ok_bind]
    exact exists_generateCertificatePq hideal keys hvalid _ _ _ _

/-- A request that gets a certificate is signed by its own key. -/
theorem selfSigned_of_generateCertFromCsr {keys : HybridKeyPair schemes} {csr : CertReq}
    {fields : CertificateFields} {now : ℕ} {isAppCert : Bool} {serial : List UInt8}
    {cert : X509Certificate}
    (hissued : generateCertFromCsr x509 keys csr fields isAppCert now serial = .ok cert) :
    csr.SelfSigned schemes x509 := by
  obtain ⟨pubKey, hkey, hissued⟩ := okOr_bind_eq_ok_iff.mp hissued
  by_cases hed25519 : csr.info.publicKey.algorithm.oid = ed25519Oid
  · rw [if_pos hed25519] at hissued
    obtain ⟨⟨⟩, hchecked, -⟩ := exists_of_bind_eq_ok hissued
    exact ⟨.ed25519, hed25519, pubKey, hkey, checkCsrClassic_eq_ok_iff.mp hchecked⟩
  rw [if_neg hed25519] at hissued
  by_cases hmlDsa87 : csr.info.publicKey.algorithm.oid = mlDsa87Oid
  · rw [if_pos hmlDsa87] at hissued
    obtain ⟨⟨⟩, hchecked, -⟩ := exists_of_bind_eq_ok hissued
    exact ⟨.mlDsa87, hmlDsa87, pubKey, hkey, checkCsrPq_eq_ok_iff.mp hchecked⟩
  · rw [if_neg hmlDsa87] at hissued
    cases hissued

/-! ### Verification of what is made -/

/-- The certificate is valid under that of an authority. -/
def ValidUnder (schemes : Schemes) (x509 : X509) (cert authority : X509Certificate) : Prop :=
  ∃ checked, validateSigningCertificate schemes x509.parse (x509.toPem cert)
    (some (x509.view authority)) = .ok checked

/-- A signed certificate is issued by whoever has the key in a certificate. -/
theorem issuedBy_of_signed {keys : HybridKeyPair schemes} {cert authority : X509Certificate}
    {algorithm : KeyAlgorithm} (hsigned : keys.Signed x509 cert algorithm)
    (hkey : authority.HasKey algorithm.oid (keys.publicKeyBytes algorithm)) :
    IssuedBy schemes (x509.view cert) (x509.view authority) := by
  cases algorithm with
  | ed25519 =>
    refine .inl ⟨hkey.1, keys.classic, x509.tbsToDer cert.tbsCertificate, hkey.2, rfl, ?_⟩
    show cert.signature.asBytes = _
    rw [hsigned]
    rfl
  | mlDsa87 =>
    obtain ⟨signed, hsign, hsignature⟩ := hsigned
    refine .inr ⟨hkey.1, keys.pq, x509.tbsToDer cert.tbsCertificate, signed, hkey.2, rfl, hsign,
      ?_⟩
    show cert.signature.asBytes = _
    rw [hsignature]
    rfl

/-- A signed certificate verifies under the key of its maker only. -/
theorem hasKey_of_signedByCa (hideal : IdealSchemes schemes) {keys : HybridKeyPair schemes}
    {cert authority : X509Certificate} {algorithm : KeyAlgorithm}
    (hsigned : keys.Signed x509 cert algorithm)
    (hchain : SignedByCa schemes (x509.view cert) (x509.view authority)) :
    authority.HasKey algorithm.oid (keys.publicKeyBytes algorithm) := by
  have hbytes : (x509.view cert).signature = cert.signature.asBytes := rfl
  rcases hchain with ⟨hoid, caKey, tbs, signature, hcaKey, htbs, hsignature, hverify⟩ |
    ⟨hoid, caKey, tbs, bytes, signature, hcaKey, htbs, hsignature, hparsed, hverify⟩
  · obtain rfl := Option.some.inj htbs
    cases algorithm with
    | ed25519 =>
      rw [hbytes, hsigned] at hsignature
      obtain rfl := Option.some.inj hsignature
      exact ⟨hoid, hideal.classic hcaKey hverify⟩
    | mlDsa87 =>
      -- An ML-DSA-87 signature is too long for an Ed25519 key.
      obtain ⟨signed, hsign, hcert⟩ := hsigned
      rw [hbytes, hcert] at hsignature
      obtain rfl := Option.some.inj hsignature
      obtain ⟨publicKey, parsed, -, hparsed, hverified⟩ := schemes.mlDsa87.verify_sign hsign
      have hclassic : signed.length = 64 := hideal.classicLength hverify
      have hpq : signed.length = 4627 := hideal.pqLength hparsed hverified
      rw [hclassic] at hpq
      exact absurd hpq (by decide)
  · obtain rfl := Option.some.inj htbs
    cases algorithm with
    | ed25519 =>
      rw [hbytes, hsigned] at hsignature
      obtain rfl := Option.some.inj hsignature
      have hclassic := schemes.ed25519.length_sign keys.classic (x509.tbsToDer cert.tbsCertificate)
      have hpq : (schemes.ed25519.sign keys.classic
          (x509.tbsToDer cert.tbsCertificate)).length = 4627 := hideal.pqLength hparsed hverify
      rw [hclassic] at hpq
      exact absurd hpq (by decide)
    | mlDsa87 =>
      obtain ⟨signed, hsign, hcert⟩ := hsigned
      rw [hbytes, hcert] at hsignature
      obtain rfl := Option.some.inj hsignature
      exact ⟨hoid, hideal.pq hsign hparsed hcaKey hverify⟩

/-- A signed certificate is valid exactly under the certificates with the key of its maker. -/
theorem validUnder_iff (hideal : IdealSchemes schemes) {keys : HybridKeyPair schemes}
    {cert : X509Certificate} {algorithm : KeyAlgorithm}
    (hsigned : keys.Signed x509 cert algorithm) (authority : X509Certificate) :
    ValidUnder schemes x509 cert authority ↔
      authority.HasKey algorithm.oid (keys.publicKeyBytes algorithm) := by
  have hparse : x509.parse (x509.toPem cert) = some (x509.view cert) := by
    rw [X509.parse, x509.fromPem_toPem]
    rfl
  constructor
  · rintro ⟨checked, hvalid⟩
    obtain ⟨hchecked, hchain⟩ := signedByCa_of_validateSigningCertificate hvalid
    rw [hparse] at hchecked
    obtain rfl := Option.some.inj hchecked
    exact hasKey_of_signedByCa hideal hsigned hchain
  · intro hkey
    exact ⟨_, validateSigningCertificate_of_issuedBy hparse (issuedBy_of_signed hsigned hkey)⟩

/-! ### Issuance and verification -/

/-- A request gets a certificate exactly when it is signed by its own key. The certificate has the
subject and the key of the request. It is valid under the certificate of the authority for exactly
the algorithm of the request, and under no certificate with another key. Assumes: ideal signatures,
and fields with a valid validity. -/
theorem generateCertFromCsr_iff (hideal : IdealSchemes schemes) (ca : HybridCa schemes)
    (csr : CertReq) {fields : CertificateFields} {now : ℕ} (hvalid : fields.ValidFor now)
    (isAppCert : Bool) (serial : List UInt8) :
    ((∃ cert, generateCertFromCsr x509 ca.toHybridKeyPair csr fields isAppCert now serial =
        .ok cert) ↔ csr.SelfSigned schemes x509) ∧
      ∀ cert, generateCertFromCsr x509 ca.toHybridKeyPair csr fields isAppCert now serial =
          .ok cert →
        cert.tbsCertificate.subject = csr.info.subject ∧
        cert.tbsCertificate.subjectPublicKeyInfo.algorithm.oid =
          csr.info.publicKey.algorithm.oid ∧
        cert.tbsCertificate.subjectPublicKeyInfo.subjectPublicKey =
          csr.info.publicKey.subjectPublicKey ∧
        (∀ algorithm, ValidUnder schemes x509 cert (ca.certFor algorithm) ↔
          csr.info.publicKey.algorithm.oid = algorithm.oid) ∧
        ∀ authority, ValidUnder schemes x509 cert authority →
          ∃ algorithm, csr.info.publicKey.algorithm.oid = algorithm.oid ∧
            authority.HasKey algorithm.oid (ca.publicKeyBytes algorithm) := by
  refine ⟨⟨?_, ?_⟩, fun cert hissued ↦ ?_⟩
  · rintro ⟨cert, hissued⟩
    exact selfSigned_of_generateCertFromCsr hissued
  · rintro ⟨algorithm, hoid, pubKey, hkey, hsigned⟩
    obtain ⟨cert, hissued, -⟩ :=
      exists_of_selfSignedBy hideal ca.toHybridKeyPair hvalid isAppCert serial hoid hkey hsigned
    exact ⟨cert, hissued⟩
  · obtain ⟨algorithm, hoid, pubKey, hkey, hself⟩ := selfSigned_of_generateCertFromCsr hissued
    obtain ⟨other, hother, hcertifies⟩ :=
      exists_of_selfSignedBy hideal ca.toHybridKeyPair hvalid isAppCert serial hoid hkey hself
    rw [hissued] at hother
    obtain rfl := Except.ok.inj hother
    have hunder := validUnder_iff hideal hcertifies.signed
    refine ⟨hcertifies.subject, ?_, ?_, fun tested ↦ ?_, fun authority hvalid ↦ ?_⟩
    · rw [hcertifies.hasKey, hoid]
    · rw [hcertifies.hasKey, BitString.eq_fromBytes_of_asBytes hkey]
    · rw [hunder, hoid]
      constructor
      · intro hhas
        exact hhas.1.symm.trans (ca.hasKey tested).1
      · intro hsame
        obtain rfl := KeyAlgorithm.oid_injective hsame
        exact ca.hasKey algorithm
    · exact ⟨algorithm, hoid, (hunder authority).mp hvalid⟩

/-! ### A sample authority -/

/-- A message as a run of bytes of a length. -/
def padded (length : ℕ) (message : List UInt8) : List UInt8 :=
  (message ++ List.replicate length 0).take length

theorem length_padded (length : ℕ) (message : List UInt8) :
    (padded length message).length = length := by
  simp [padded]

/-- The bytes, when there is that number of them. -/
def ofLength (length : ℕ) (bytes : List UInt8) : Option (List UInt8) :=
  if bytes.length = length then some bytes else none

theorem ofLength_eq_some_iff {length : ℕ} {bytes found : List UInt8} :
    ofLength length bytes = some found ↔ bytes.length = length ∧ bytes = found := by
  simp [ofLength]

/-- The public key of a private key that is a byte. -/
@[irreducible] def repeated (length : ℕ) (key : UInt8) : List UInt8 :=
  List.replicate length key

theorem length_repeated (length : ℕ) (key : UInt8) : (repeated length key).length = length := by
  rw [repeated, List.length_replicate]

theorem ofLength_repeated (length : ℕ) (key : UInt8) :
    ofLength length (repeated length key) = some (repeated length key) :=
  ofLength_eq_some_iff.mpr ⟨length_repeated length key, rfl⟩

/-- A signature that carries a public key. -/
@[irreducible] def marked (length : ℕ) (publicKey message : List UInt8) : List UInt8 :=
  publicKey ++ padded length message

theorem length_marked_repeated (keyLength length : ℕ) (key : UInt8) (message : List UInt8) :
    (marked length (repeated keyLength key) message).length = keyLength + length := by
  rw [marked, List.length_append, length_repeated, length_padded]

/-- A signature determines the public key that it carries. -/
theorem eq_of_marked_eq {length : ℕ} {first second message : List UInt8}
    (hsame : marked length first message = marked length second message) : first = second := by
  rw [marked, marked] at hsame
  exact List.append_cancel_right hsame

/-- An Ed25519 whose signatures carry the public key. -/
def markedEd25519 : Ed25519 where
  SigningKey := UInt8
  VerifyingKey := List UInt8
  verifyingKeyFromBytes := ofLength 32
  verifyStrict key message signature :=
    signature.length == 64 && signature == marked 32 key message
  verifyingKeyBytes := repeated 32
  sign key message := marked 32 (repeated 32 key) message
  length_verifyingKeyBytes := length_repeated 32
  length_sign := length_marked_repeated 32 32
  verifyStrict_sign key := by
    refine ⟨repeated 32 key, ofLength_repeated 32 key, fun message ↦ ?_⟩
    rw [length_marked_repeated, beq_self_eq_true, beq_self_eq_true, Bool.and_self]

/-- An ML-DSA-87 whose signatures carry the public key. -/
def markedMlDsa87 : MlDsa87 where
  SecretKey := UInt8
  PublicKey := List UInt8
  Signature := List UInt8
  publicKeyFromBytes := ofLength 2592
  signatureFromBytes := ofLength 4627
  verify key message signature := signature == marked 2035 key message
  publicKeyBytes := repeated 2592
  sign key message := some (marked 2035 (repeated 2592 key) message)
  sign_ne_nil := by
    intro key message bytes hsign hnil
    obtain rfl := Option.some.inj hsign
    have hlength := length_marked_repeated 2592 2035 key message
    rw [hnil] at hlength
    exact absurd hlength (by decide)
  verify_sign := by
    intro key message bytes hsign
    obtain rfl := Option.some.inj hsign
    exact ⟨_, _, ofLength_repeated 2592 key,
      ofLength_eq_some_iff.mpr ⟨length_marked_repeated 2592 2035 key message, rfl⟩,
      beq_self_eq_true _⟩

/-- The schemes whose signatures carry the public key. -/
def markedSchemes : Schemes :=
  ⟨markedEd25519, markedMlDsa87⟩

/-- A signature that carries the public key verifies under this key only. -/
theorem idealSchemes_marked : IdealSchemes markedSchemes where
  classic := by
    intro key message bytes verifying hpoint hverify
    obtain ⟨-, rfl⟩ := ofLength_eq_some_iff.mp hpoint
    have hsame : marked 32 (repeated 32 key) message = marked 32 bytes message :=
      eq_of_beq ((Bool.and_eq_true _ _).mp hverify).2
    exact (eq_of_marked_eq hsame).symm
  pq := by
    intro key message signed bytes publicKey signature hsign hparsed hkey hverify
    obtain rfl := Option.some.inj hsign
    obtain ⟨-, rfl⟩ := ofLength_eq_some_iff.mp hkey
    obtain ⟨-, rfl⟩ := ofLength_eq_some_iff.mp hparsed
    have hsame : marked 2035 (repeated 2592 key) message = marked 2035 bytes message :=
      eq_of_beq hverify
    exact (eq_of_marked_eq hsame).symm
  signs _ _ := rfl
  classicLength := by
    intro key message signature hverify
    exact eq_of_beq ((Bool.and_eq_true _ _).mp hverify).1
  pqLength := by
    intro key message bytes signature hparsed hverify
    exact (ofLength_eq_some_iff.mp hparsed).1

instance encodableUInt8 : Encodable UInt8 :=
  Encodable.ofLeftInverse UInt8.toNat UInt8.ofNat fun byte ↦ by simp

instance encodableChar : Encodable Char :=
  Encodable.ofLeftInverse Char.toNat Char.ofNat fun character ↦ by simp

instance encodableString : Encodable String :=
  Encodable.ofLeftInverse String.toList String.ofList fun text ↦ by simp

deriving instance Encodable for Any
deriving instance Encodable for AttributeTypeAndValue
deriving instance Encodable for BitString
deriving instance Encodable for AlgorithmIdentifier
deriving instance Encodable for SubjectPublicKeyInfo
deriving instance Encodable for Validity
deriving instance Encodable for Extension
deriving instance Encodable for TbsCertificate
deriving instance Encodable for X509Certificate
deriving instance Encodable for CertReqInfo

/-- The number of a value as a run of bytes. -/
def unary {α : Type} [Encodable α] (value : α) : List UInt8 :=
  List.replicate (Encodable.encode value) 0

/-- Formats in which everything is written as its number. -/
def unaryX509 : X509 where
  attributeToDer := unary
  nameToDer := unary
  infoToDer := unary
  tbsToDer := unary
  toPem cert := String.ofList (List.replicate (Encodable.encode cert) '1')
  fromPem text := Encodable.decode text.toList.length
  fromPem_toPem cert := by simp

/-- A certificate with a key. -/
def keyCertificate (oid : String) (key : List UInt8) : X509Certificate where
  tbsCertificate :=
    { version := 2
      serialNumber := 1
      signature := ⟨oid, none⟩
      issuer := []
      validity := ⟨0, 86400⟩
      subject := []
      subjectPublicKeyInfo := ⟨⟨oid, none⟩, .fromBytes key⟩
      extensions := [] }
  signatureAlgorithm := ⟨oid, none⟩
  signature := .fromBytes []

/-- An authority with the keys 1 and 2. -/
def markedCa : HybridCa markedSchemes where
  classic := (1 : UInt8)
  classicCert := keyCertificate ed25519Oid (repeated 32 1)
  pq := (2 : UInt8)
  pqCert := keyCertificate mlDsa87Oid (repeated 2592 2)
  hasKey algorithm := by cases algorithm <;> exact ⟨rfl, rfl⟩

/-- A request to sign for the Ed25519 key 7. -/
def markedInfo : CertReqInfo where
  subject := [[attributeOf oidO "Keysas"]]
  publicKey := ⟨⟨ed25519Oid, none⟩, .fromBytes (repeated 32 7)⟩
  attributes := []

/-- The request with its signature. -/
def markedCsr : CertReq where
  info := markedInfo
  algorithm := ⟨ed25519Oid, none⟩
  signature := .fromBytes (markedEd25519.sign (7 : UInt8) (unary markedInfo))

/-- The fields of an authority, for a year. -/
def yearFields : CertificateFields :=
  ⟨some "Keysas", some "Lab", some "FR", none, some 365⟩

theorem validFor_yearFields : yearFields.ValidFor 0 :=
  ⟨365, rfl, by decide, by decide⟩

theorem selfSigned_markedCsr : markedCsr.SelfSigned markedSchemes unaryX509 := by
  refine ⟨.ed25519, rfl, repeated 32 7, rfl, length_repeated 32 7, ?_, repeated 32 7,
    ofLength_repeated 32 7, ?_⟩
  · exact length_marked_repeated 32 32 7 (unary markedInfo)
  · have hlength := length_marked_repeated 32 32 7 (unary markedInfo)
    exact (Bool.and_eq_true _ _).mpr ⟨beq_iff_eq.mpr hlength, beq_self_eq_true _⟩

/-- The sample request gets a certificate, which is valid under the Ed25519 certificate of the
authority only. -/
theorem generateCertFromCsr_iff_markedCsr :
    ∃ cert, generateCertFromCsr unaryX509 markedCa.toHybridKeyPair markedCsr yearFields true 0 [] =
        .ok cert ∧
      ValidUnder markedSchemes unaryX509 cert markedCa.classicCert ∧
      ¬ ValidUnder markedSchemes unaryX509 cert markedCa.pqCert := by
  obtain ⟨hissued, hsound⟩ := @generateCertFromCsr_iff markedSchemes unaryX509 idealSchemes_marked
    markedCa markedCsr yearFields 0 validFor_yearFields true []
  obtain ⟨cert, hcert⟩ := hissued.mpr selfSigned_markedCsr
  obtain ⟨-, -, -, hunder, -⟩ := hsound cert hcert
  refine ⟨cert, hcert, (hunder .ed25519).mpr rfl, fun hpq ↦ ?_⟩
  exact absurd ((hunder .mlDsa87).mp hpq) (by decide)

end Keysas.Pki
