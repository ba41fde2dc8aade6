import Keysas.Reports.JsonFormat

/-!
# Round trip of reports

A report that a station makes is accepted: `parseReport` reads back from the JSON of a report the
report itself, when it gets the file and the certificates of the authorities that issued the
certificates of the station (`parseReport_bindAndSign`).

`IssuedBy` says how a certificate came about: an authority signed it with the private key whose
public key is in its own certificate. `CertifiedKeys` collects what a station is set up with. The
proof follows the verifier: `validateSigningCertificate_of_issuedBy` for the certificates,
`checkedFileDigest_eq_ok` for the file, `verifyBlob_signBlob` for the two signatures in their
blob.

A station that satisfies every assumption is at the end.
-/

set_option autoImplicit false
set_option relaxedAutoImplicit false

namespace Keysas.Reports

open Crypto Keys RustStd

variable {schemes : Schemes}

@[simp] theorem ensure_true (error : ReportError) : ensure true error = .ok () := rfl

/-! ### Certificates -/

variable (schemes) in
/-- The authority signed the certificate with the private key that belongs to the public key in its
own certificate. -/
def IssuedBy (cert ca : Certificate) : Prop :=
  (ca.algorithmOid = ed25519Oid ∧ ∃ caKey tbs,
    ca.publicKey = schemes.ed25519.verifyingKeyBytes caKey ∧ cert.tbsDer = some tbs ∧
    cert.signature = some (schemes.ed25519.sign caKey tbs)) ∨
  (ca.algorithmOid = mlDsa87Oid ∧ ∃ caKey tbs signature,
    ca.publicKey = schemes.mlDsa87.publicKeyBytes caKey ∧ cert.tbsDer = some tbs ∧
    schemes.mlDsa87.sign caKey tbs = some signature ∧ cert.signature = some signature)

/-- An issued certificate is valid under the certificate of its authority. -/
theorem validateSigningCertificate_of_issuedBy {fromPem : FromPem} {pem : String}
    {cert ca : Certificate} (hparsed : fromPem pem = some cert)
    (hissued : IssuedBy schemes cert ca) :
    validateSigningCertificate schemes fromPem pem (some ca) = .ok cert := by
  rcases hissued with ⟨hoid, caKey, tbs, hkey, htbs, hsignature⟩ |
    ⟨hoid, caKey, tbs, signature, hkey, htbs, hsign, hsignature⟩
  · obtain ⟨verifying, hverifying, hverify⟩ := schemes.ed25519.verifyStrict_sign caKey
    have hvalid : validateEd25519 schemes cert ca = .ok () := by
      simp [validateEd25519, hkey, hsignature, htbs, hverifying, hverify,
        schemes.ed25519.length_verifyingKeyBytes, schemes.ed25519.length_sign]
    simp [validateSigningCertificate, hparsed, hoid, hvalid]
  · obtain ⟨publicKey, parsed, hpublicKey, hparsedSignature, hverify⟩ :=
      schemes.mlDsa87.verify_sign hsign
    have hvalid : validateMlDsa87 schemes cert ca = .ok () := by
      simp [validateMlDsa87, hkey, hsignature, htbs, hpublicKey, hparsedSignature, hverify]
    have hother : mlDsa87Oid ≠ ed25519Oid := by decide
    simp [validateSigningCertificate, hparsed, hoid, hother, hvalid]

variable (schemes) in
/-- What a station is set up with: the certificates of its two keys in PEM, each issued by its
authority. The separator of the certificates in a report does not occur in PEM. -/
structure CertifiedKeys (fromPem : FromPem) (keys : HybridKeyPair schemes) (pemCl pemPq : String)
    (caCertCl caCertPq : Certificate) : Prop where
  separator_not_mem_cl : '|' ∉ pemCl.toList
  separator_not_mem_pq : '|' ∉ pemPq.toList
  classic : ∃ cert, fromPem pemCl = some cert ∧ IssuedBy schemes cert caCertCl ∧
    cert.publicKey = schemes.ed25519.verifyingKeyBytes keys.classic
  pq : ∃ cert, fromPem pemPq = some cert ∧ IssuedBy schemes cert caCertPq ∧
    cert.publicKey = schemes.mlDsa87.publicKeyBytes keys.pq

/-! ### Digest and signatures -/

/-- The digest in a report of a file is accepted with the file. -/
theorem checkedFileDigest_eq_ok {sha256 : Sha256} {binding : Bd} {bytes : List UInt8}
    (hdigest : binding.fileDigest =
      Base64.encode (Wire.Bincode.utf8 (sha256.hexDigest bytes))) :
    checkedFileDigest sha256 binding (some (some bytes)) = .ok (sha256.hexDigest bytes) := by
  simp [checkedFileDigest, hdigest]

/-- The blob of a message is accepted for the message: its first 64 bytes are the Ed25519 signature
and the rest is the ML-DSA-87 signature, which is not empty. -/
theorem verifyBlob_signBlob {keys : HybridKeyPair schemes} {message blob : List UInt8}
    {certCl certPq : Certificate} (hblob : signBlob message (some keys) = some blob)
    (hclassic : certCl.publicKey = schemes.ed25519.verifyingKeyBytes keys.classic)
    (hpq : certPq.publicKey = schemes.mlDsa87.publicKeyBytes keys.pq) :
    verifyBlob schemes certCl certPq message blob = .ok () := by
  obtain ⟨signature, hsign, hconcat⟩ := Option.bind_eq_some_iff.mp hblob
  obtain rfl := Option.some.inj hconcat
  obtain ⟨verifying, hverifying, hverifyStrict⟩ :=
    schemes.ed25519.verifyStrict_sign keys.classic
  obtain ⟨publicKey, parsed, hpublicKey, hparsed, hverify⟩ := schemes.mlDsa87.verify_sign hsign
  have hclassicLength := schemes.ed25519.length_sign keys.classic message
  have hlong : 64 < (schemes.ed25519.sign keys.classic message ++ signature).length := by
    have hpositive := List.length_pos_iff.mpr (schemes.mlDsa87.sign_ne_nil hsign)
    rw [List.length_append]
    omega
  have htake : (schemes.ed25519.sign keys.classic message ++ signature).take 64 =
      schemes.ed25519.sign keys.classic message := List.take_left' hclassicLength
  have hdrop : (schemes.ed25519.sign keys.classic message ++ signature).drop 64 = signature :=
    List.drop_left' hclassicLength
  unfold verifyBlob
  simp only [hlong, hclassic, hpq, htake, hdrop, hverifying, hpublicKey, hparsed, hverify,
    hverifyStrict, schemes.ed25519.length_verifyingKeyBytes, decide_true, ensure_true, okOr_some,
    ok_bind]

/-! ### Reports -/

/-- A report that was signed is accepted with its file. Assumes: the digest in the metadata is that
of the file, and the station is set up with issued certificates. -/
theorem parseReport_of_bindAndSign {sha256 : Sha256} {json : ReportJson} {fromPem : FromPem}
    {f : FileMetadata} {metadata : MetaData} {file : List UInt8} {keys : HybridKeyPair schemes}
    {pemCl pemPq : String} {caCertCl caCertPq : Certificate} {report : Report}
    (hdigest : f.digest = sha256.hexDigest file)
    (hcertified : CertifiedKeys schemes fromPem keys pemCl pemPq caCertCl caCertPq)
    (hsigned : bindAndSign sha256 json f metadata (some keys) (pemCl ++ "|" ++ pemPq) =
      some report) :
    parseReport schemes sha256 json fromPem (some (json.reportToString report)) (some (some file))
      (some caCertCl) (some caCertPq) = .ok report := by
  obtain ⟨blob, hblob, hreport⟩ := Option.bind_eq_some_iff.mp hsigned
  obtain rfl := Option.some.inj hreport
  obtain ⟨certCl, hcertCl, hissuedCl, hkeyCl⟩ := hcertified.classic
  obtain ⟨certPq, hcertPq, hissuedPq, hkeyPq⟩ := hcertified.pq
  have hvalidCl := validateSigningCertificate_of_issuedBy hcertCl hissuedCl
  have hvalidPq := validateSigningCertificate_of_issuedBy hcertPq hissuedPq
  have hcerts : split '|' (pemCl ++ "|" ++ pemPq) = [pemCl, pemPq] :=
    split_join hcertified.separator_not_mem_cl hcertified.separator_not_mem_pq
  have hverified := verifyBlob_signBlob hblob hkeyCl hkeyPq
  rw [hdigest] at hverified
  unfold parseReport
  simp only [json.reportFromStr_toString, okOr_some, ok_bind, hcerts, Option.isSome_some,
    Bool.or_true, ensure_true, List.length_cons, List.length_nil, List.headD_cons, List.tail_cons,
    decide_true, hvalidCl, hvalidPq, hdigest, checkedFileDigest_eq_ok, Base64.decode_encode,
    hverified, Nat.zero_add, Nat.reduceAdd]
  rfl

/-! ### A station -/

/-- The key pair of a station under the transparent schemes. -/
def stationKeys : HybridKeyPair transparentSchemes where
  classic := (7 : UInt8)
  pq := (7 : UInt8)

/-- The certificate of the Ed25519 authority. -/
def stationCaCl : Certificate where
  tbsDer := none
  algorithmOid := ed25519Oid
  publicKey := transparentEd25519.verifyingKeyBytes (1 : UInt8)
  signature := none

/-- The certificate of the ML-DSA-87 authority. -/
def stationCaPq : Certificate where
  tbsDer := none
  algorithmOid := mlDsa87Oid
  publicKey := transparentMlDsa87.publicKeyBytes (2 : UInt8)
  signature := none

/-- The Ed25519 certificate of the station. -/
def stationCertCl : Certificate where
  tbsDer := some [0x30, 0x01]
  algorithmOid := ed25519Oid
  publicKey := transparentEd25519.verifyingKeyBytes (7 : UInt8)
  signature := some (transparentEd25519.sign (1 : UInt8) [0x30, 0x01])

/-- The ML-DSA-87 certificate of the station. -/
def stationCertPq : Certificate where
  tbsDer := some [0x30, 0x02]
  algorithmOid := mlDsa87Oid
  publicKey := transparentMlDsa87.publicKeyBytes (7 : UInt8)
  signature := transparentMlDsa87.sign (2 : UInt8) [0x30, 0x02]

/-- A parser that knows the two certificates of the station. -/
def stationPem : FromPem := fun pem ↦
  if pem = "station-cl.pem" then some stationCertCl
  else if pem = "station-pq.pem" then some stationCertPq
  else none

theorem stationKeys_certified :
    CertifiedKeys transparentSchemes stationPem stationKeys "station-cl.pem" "station-pq.pem"
      stationCaCl stationCaPq where
  separator_not_mem_cl := by decide
  separator_not_mem_pq := by decide
  classic := ⟨stationCertCl, by decide, .inl ⟨rfl, (1 : UInt8), [0x30, 0x01], rfl, rfl, rfl⟩, rfl⟩
  pq := ⟨stationCertPq, by decide,
    .inr ⟨rfl, (2 : UInt8), [0x30, 0x02], [0x02, 0x30, 0x02], rfl, rfl, rfl, rfl⟩, rfl⟩

/-- What the checks found about a clean file of four bytes. -/
def stationFile : FileMetadata where
  filename := "note.txt"
  digest := paddingSha256.hexDigest [0x6E, 0x6F, 0x74, 0x65]
  isDigestOk := true
  isToobig := false
  size := 4
  isTypeAllowed := true
  avPass := true
  avReport := []
  yaraPass := true
  yaraReport := ""
  timestamp := "12-3-2025_10-0-0-0"
  isCorrupted := false
  fileType := "txt"
  specializedPass := true
  specializedAnalyzer := ""
  specializedSummary := ""
  vtPass := true
  vtDetections := 0
  vtSummary := ""

/-! ### The round trip -/

/-- A station with a file makes a report that is accepted, and that is read back as it was made.
Assumes: the metadata has the digest of the file, the station is set up with issued certificates,
and ML-DSA-87 signs. -/
theorem parseReport_bindAndSign {sha256 : Sha256} {json : ReportJson} {fromPem : FromPem}
    {f : FileMetadata} {date : String} {file : List UInt8} {keys : HybridKeyPair schemes}
    {pemCl pemPq : String} {caCertCl caCertPq : Certificate}
    (hdigest : f.digest = sha256.hexDigest file)
    (hcertified : CertifiedKeys schemes fromPem keys pemCl pemPq caCertCl caCertPq)
    (hsigns : ∀ message, (schemes.mlDsa87.sign keys.pq message).isSome) :
    ∃ report, bindAndSign sha256 json f (generateReportMetadata date f) (some keys)
        (pemCl ++ "|" ++ pemPq) = some report ∧
      parseReport schemes sha256 json fromPem (some (json.reportToString report))
        (some (some file)) (some caCertCl) (some caCertPq) = .ok report := by
  obtain ⟨report, hreport⟩ : ∃ report, bindAndSign sha256 json f (generateReportMetadata date f)
      (some keys) (pemCl ++ "|" ++ pemPq) = some report := by
    obtain ⟨signature, hsignature⟩ := Option.isSome_iff_exists.mp (hsigns (Wire.Bincode.utf8
      (signedText f.digest (metadataDigest sha256 json (generateReportMetadata date f)))))
    simp [bindAndSign, signBlob, hsignature]
  exact ⟨report, hreport, parseReport_of_bindAndSign hdigest hcertified hreport⟩

theorem parseReport_bindAndSign_note :
    ∃ report, bindAndSign paddingSha256 serdeReportJson stationFile
        (generateReportMetadata "12-3-2025_10-0-1-0" stationFile) (some stationKeys)
        ("station-cl.pem" ++ "|" ++ "station-pq.pem") = some report ∧
      parseReport transparentSchemes paddingSha256 serdeReportJson stationPem
        (some (serdeReportJson.reportToString report)) (some (some [0x6E, 0x6F, 0x74, 0x65]))
        (some stationCaCl) (some stationCaPq) = .ok report :=
  parseReport_bindAndSign rfl stationKeys_certified fun _ ↦ rfl

end Keysas.Reports
