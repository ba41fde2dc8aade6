import Mathlib.Data.Set.Function
import Keysas.Reports.RoundTrip

/-!
# Soundness of report verification

An accepted report has a complete chain: its two certificates are signed by the authorities, and the
two signatures in its binding are signatures of one message under the keys of the certificates, the
digest of the file and the digest of the signed part of the report joined by a dash. `Chain` states
this, and `chain_of_parseReport` derives it from the checks of `parseReport` one by one.

The message determines the file and the signed part when the hash function has no collision among
what was hashed, since digests have no dash and the serializer is injective
(`reportMessage_injOn`). So when one of the two signatures in a report is good for the messages of
issued reports only, the file and the metadata were issued (`Chain.mem_issued`). When signatures are
good for one message, a report with another file or other metadata and the same signatures is
refused.
-/

set_option autoImplicit false
set_option relaxedAutoImplicit false

namespace Keysas.Reports

open Crypto Keys RustStd

variable {schemes : Schemes}

/-! ### Checks that passed -/

theorem ensure_bind_eq_ok {α : Type} {check : Bool} {error : ReportError}
    {next : Unit → Except ReportError α} {result : α}
    (hresult : (ensure check error).bind next = .ok result) :
    check = true ∧ next () = .ok result := by
  cases check with
  | false => cases hresult
  | true => exact ⟨rfl, hresult⟩

theorem ensure_eq_ok {check : Bool} {error : ReportError} {result : Unit}
    (hresult : ensure check error = .ok result) : check = true := by
  cases check with
  | false => cases hresult
  | true => rfl

/-! ### Certificates -/

variable (schemes) in
/-- The certificate is signed with the key of the authority, by the algorithm of that key. -/
def SignedByCa (cert ca : Certificate) : Prop :=
  (ca.algorithmOid = ed25519Oid ∧ ∃ caKey tbs signature,
    schemes.ed25519.verifyingKeyFromBytes ca.publicKey = some caKey ∧
    cert.tbsDer = some tbs ∧ cert.signature = some signature ∧
    schemes.ed25519.verifyStrict caKey tbs signature) ∨
  (ca.algorithmOid = mlDsa87Oid ∧ ∃ caKey tbs bytes signature,
    schemes.mlDsa87.publicKeyFromBytes ca.publicKey = some caKey ∧
    cert.tbsDer = some tbs ∧ cert.signature = some bytes ∧
    schemes.mlDsa87.signatureFromBytes bytes = some signature ∧
    schemes.mlDsa87.verify caKey tbs signature)

theorem signedByCa_of_validateSigningCertificate {fromPem : FromPem} {pem : String}
    {ca cert : Certificate}
    (hvalid : validateSigningCertificate schemes fromPem pem (some ca) = .ok cert) :
    fromPem pem = some cert ∧ SignedByCa schemes cert ca := by
  obtain ⟨parsed, hparsed, hvalid⟩ := exists_of_okOr_bind_eq_ok hvalid
  by_cases hed25519 : ca.algorithmOid = ed25519Oid
  · simp only [hed25519, if_true] at hvalid
    obtain ⟨⟨⟩, hchecked, hcert⟩ := exists_of_bind_eq_ok hvalid
    obtain rfl := Except.ok.inj hcert
    obtain ⟨-, hchecked⟩ := ensure_bind_eq_ok hchecked
    obtain ⟨caKey, hcaKey, hchecked⟩ := exists_of_okOr_bind_eq_ok hchecked
    obtain ⟨signature, hsignature, hchecked⟩ := exists_of_okOr_bind_eq_ok hchecked
    obtain ⟨-, hchecked⟩ := ensure_bind_eq_ok hchecked
    obtain ⟨tbs, htbs, hchecked⟩ := exists_of_okOr_bind_eq_ok hchecked
    exact ⟨hparsed, .inl ⟨hed25519, caKey, tbs, signature, hcaKey, htbs, hsignature,
      ensure_eq_ok hchecked⟩⟩
  by_cases hmlDsa87 : ca.algorithmOid = mlDsa87Oid
  · simp only [hed25519, if_false] at hvalid
    rw [if_pos hmlDsa87] at hvalid
    obtain ⟨⟨⟩, hchecked, hcert⟩ := exists_of_bind_eq_ok hvalid
    obtain rfl := Except.ok.inj hcert
    obtain ⟨caKey, hcaKey, hchecked⟩ := exists_of_okOr_bind_eq_ok hchecked
    obtain ⟨bytes, hbytes, hchecked⟩ := exists_of_okOr_bind_eq_ok hchecked
    obtain ⟨signature, hsignature, hchecked⟩ := exists_of_okOr_bind_eq_ok hchecked
    obtain ⟨tbs, htbs, hchecked⟩ := exists_of_okOr_bind_eq_ok hchecked
    exact ⟨hparsed, .inr ⟨hmlDsa87, caKey, tbs, bytes, signature, hcaKey, htbs, hbytes, hsignature,
      ensure_eq_ok hchecked⟩⟩
  · simp only [hed25519, hmlDsa87, if_false] at hvalid
    cases hvalid

/-! ### The chain of an accepted report -/

/-- The message that the signatures of a report cover: the digest of the file, empty without one,
and the digest of the signed part. -/
def reportMessage (sha256 : Sha256) (json : ReportJson) (file : Option (List UInt8))
    (metadata : MetaData) : List UInt8 :=
  Wire.Bincode.utf8
    (signedText ((file.map sha256.hexDigest).getD "") (metadataDigest sha256 json metadata))

variable (schemes) in
/-- The first 64 bytes of a blob are a signature of a message under the Ed25519 key of a
certificate. -/
def ClassicSigns (cert : Certificate) (blob message : List UInt8) : Prop :=
  ∃ key, schemes.ed25519.verifyingKeyFromBytes cert.publicKey = some key ∧
    schemes.ed25519.verifyStrict key message (blob.take 64) = true

variable (schemes) in
/-- The rest of a blob is a signature of a message under the ML-DSA-87 key of a certificate. -/
def PqSigns (cert : Certificate) (blob message : List UInt8) : Prop :=
  ∃ key signature, schemes.mlDsa87.publicKeyFromBytes cert.publicKey = some key ∧
    schemes.mlDsa87.signatureFromBytes (blob.drop 64) = some signature ∧
    schemes.mlDsa87.verify key message signature = true

variable (schemes) in
/-- What an accepted report has established about its certificates, its file and the signatures in
its binding, which are the parts of one blob. -/
structure Chain (sha256 : Sha256) (json : ReportJson) (fromPem : FromPem) (report : Report)
    (file : Option (List UInt8)) (caCertCl caCertPq certCl certPq : Certificate)
    (blob : List UInt8) : Prop where
  certificates : ∃ pemCl pemPq, split '|' report.binding.stationCertificate = [pemCl, pemPq] ∧
    fromPem pemCl = some certCl ∧ fromPem pemPq = some certPq
  classicCa : SignedByCa schemes certCl caCertCl
  pqCa : SignedByCa schemes certPq caCertPq
  named : file = none → report.metadata.name = ""
  signatures : Base64.decode report.binding.reportSignature = some blob
  classic : ClassicSigns schemes certCl blob (reportMessage sha256 json file report.metadata)
  pq : PqSigns schemes certPq blob (reportMessage sha256 json file report.metadata)

/-- The digest that was checked is that of the supplied file, or empty without one. -/
theorem content_of_checkedFileDigest {sha256 : Sha256} {binding : Bd}
    {file : Option (Option (List UInt8))} {fileDigest : String}
    (hchecked : checkedFileDigest sha256 binding file = .ok fileDigest) :
    ∃ content : Option (List UInt8), file = content.map some ∧
      fileDigest = (content.map sha256.hexDigest).getD "" := by
  cases file with
  | none => exact ⟨none, rfl, (Except.ok.inj hchecked).symm⟩
  | some content =>
    obtain ⟨bytes, rfl, hchecked⟩ := exists_of_okOr_bind_eq_ok hchecked
    obtain ⟨-, hdigest⟩ := ensure_bind_eq_ok hchecked
    exact ⟨some bytes, rfl, (Except.ok.inj hdigest).symm⟩

/-- The two parts of a blob that verifies are signatures of the message. -/
theorem signs_of_verifyBlob {certCl certPq : Certificate} {message blob : List UInt8}
    (hverified : verifyBlob schemes certCl certPq message blob = .ok ()) :
    ClassicSigns schemes certCl blob message ∧ PqSigns schemes certPq blob message := by
  obtain ⟨-, hverified⟩ := ensure_bind_eq_ok hverified
  obtain ⟨-, hverified⟩ := ensure_bind_eq_ok hverified
  obtain ⟨pubCl, hpubCl, hverified⟩ := exists_of_okOr_bind_eq_ok hverified
  obtain ⟨hclassic, hverified⟩ := ensure_bind_eq_ok hverified
  obtain ⟨pubPq, hpubPq, hverified⟩ := exists_of_okOr_bind_eq_ok hverified
  obtain ⟨sigPq, hsigPq, hverified⟩ := exists_of_okOr_bind_eq_ok hverified
  exact ⟨⟨pubCl, hpubCl, hclassic⟩, pubPq, sigPq, hpubPq, hsigPq, ensure_eq_ok hverified⟩

/-- An accepted report has a complete chain. -/
theorem chain_of_parseReport {sha256 : Sha256} {json : ReportJson} {fromPem : FromPem}
    {reportContent : Option String} {file : Option (Option (List UInt8))}
    {caCertCl caCertPq : Certificate} {report : Report}
    (hparsed : parseReport schemes sha256 json fromPem reportContent file (some caCertCl)
      (some caCertPq) = .ok report) :
    ∃ content certCl certPq blob, file = content.map some ∧
      Chain schemes sha256 json fromPem report content caCertCl caCertPq certCl certPq blob := by
  obtain ⟨text, -, hparsed⟩ := exists_of_okOr_bind_eq_ok hparsed
  obtain ⟨read, -, hparsed⟩ := exists_of_okOr_bind_eq_ok hparsed
  obtain ⟨hnamed, hparsed⟩ := ensure_bind_eq_ok hparsed
  obtain ⟨hcount, hparsed⟩ := ensure_bind_eq_ok hparsed
  obtain ⟨certCl, hcertCl, hparsed⟩ := exists_of_bind_eq_ok hparsed
  obtain ⟨certPq, hcertPq, hparsed⟩ := exists_of_bind_eq_ok hparsed
  obtain ⟨fileDigest, hfileDigest, hparsed⟩ := exists_of_bind_eq_ok hparsed
  obtain ⟨-, hparsed⟩ := ensure_bind_eq_ok hparsed
  obtain ⟨blob, hdecoded, hparsed⟩ := exists_of_okOr_bind_eq_ok hparsed
  obtain ⟨⟨⟩, hblob, hreport⟩ := exists_of_bind_eq_ok hparsed
  obtain rfl := Except.ok.inj hreport
  obtain ⟨pemCl, pemPq, hpems⟩ := List.length_eq_two.mp (of_decide_eq_true hcount)
  rw [hpems] at hcertCl hcertPq
  obtain ⟨hpemCl, hcaCl⟩ := signedByCa_of_validateSigningCertificate hcertCl
  obtain ⟨hpemPq, hcaPq⟩ := signedByCa_of_validateSigningCertificate hcertPq
  obtain ⟨content, rfl, hmessage⟩ := content_of_checkedFileDigest hfileDigest
  obtain ⟨hclassic, hpq⟩ := signs_of_verifyBlob hblob
  refine ⟨content, certCl, certPq, blob, rfl, ⟨pemCl, pemPq, hpems, hpemCl, hpemPq⟩, hcaCl, hcaPq,
    ?_, hdecoded, ?_, ?_⟩
  · rintro rfl
    simpa using hnamed
  · rwa [reportMessage, ← hmessage]
  · rwa [reportMessage, ← hmessage]

/-! ### The message determines what is signed -/

/-- What is hashed for a file, if there is one, and the signed part of its report. -/
def hashedInputs (json : ReportJson) (pairs : Set (Option (List UInt8) × MetaData)) :
    Set (List UInt8) :=
  {input | ∃ pair ∈ pairs, pair.1 = some input ∨
    input = Wire.Bincode.utf8 (json.metadataToString pair.2)}

/-- The two digests in a message. -/
theorem digests_of_reportMessage_eq {sha256 : Sha256} {json : ReportJson}
    {first second : Option (List UInt8) × MetaData}
    (hmessage : reportMessage sha256 json first.1 first.2 =
      reportMessage sha256 json second.1 second.2) :
    (first.1.map sha256.hexDigest).getD "" = (second.1.map sha256.hexDigest).getD "" ∧
      metadataDigest sha256 json first.2 = metadataDigest sha256 json second.2 := by
  have hfree : ∀ file : Option (List UInt8),
      '-' ∉ ((file.map sha256.hexDigest).getD "").toList := by
    intro file
    cases file with
    | none => simp
    | some bytes => exact sha256.dash_not_mem_hexDigest bytes
  have hsplit : ∀ pair : Option (List UInt8) × MetaData,
      split '-' (signedText ((pair.1.map sha256.hexDigest).getD "")
        (metadataDigest sha256 json pair.2)) =
      [(pair.1.map sha256.hexDigest).getD "", metadataDigest sha256 json pair.2] :=
    fun pair ↦ split_join (hfree pair.1) (sha256.dash_not_mem_hexDigest _)
  have htexts := congrArg (split '-') (Wire.Bincode.utf8_injective hmessage)
  rw [hsplit first, hsplit second] at htexts
  simpa using htexts

/-- Without a collision among what was hashed, a message determines the file and the signed part. -/
theorem reportMessage_injOn {sha256 : Sha256} {json : ReportJson}
    {pairs : Set (Option (List UInt8) × MetaData)}
    (hcollision : Set.InjOn sha256.hash (hashedInputs json pairs)) :
    Set.InjOn (fun pair ↦ reportMessage sha256 json pair.1 pair.2) pairs := by
  rintro ⟨firstFile, firstMeta⟩ hfirst ⟨secondFile, secondMeta⟩ hsecond hmessage
  obtain ⟨hfile, hmeta⟩ := digests_of_reportMessage_eq hmessage
  have hmetaEq : firstMeta = secondMeta :=
    json.metadataToString_injective <| Wire.Bincode.utf8_injective <|
      hcollision ⟨_, hfirst, .inr rfl⟩ ⟨_, hsecond, .inr rfl⟩
        (sha256.hash_eq_of_hexDigest_eq hmeta)
  have hfileEq : firstFile = secondFile := by
    cases firstFile with
    | none =>
      cases secondFile with
      | none => rfl
      | some second => exact absurd hfile.symm (sha256.hexDigest_ne_empty second)
    | some first =>
      cases secondFile with
      | none => exact absurd hfile (sha256.hexDigest_ne_empty first)
      | some second =>
        exact congrArg some <| hcollision ⟨_, hfirst, .inl rfl⟩ ⟨_, hsecond, .inl rfl⟩
          (sha256.hash_eq_of_hexDigest_eq hfile)
  rw [hmetaEq, hfileEq]

/-! ### Ideal signatures -/

/-- Of the messages of reports, only those of issued pairs verify. -/
def OnlyIssued (sha256 : Sha256) (json : ReportJson) (verifies : List UInt8 → Prop)
    (issued : Set (Option (List UInt8) × MetaData)) : Prop :=
  ∀ file metadata, verifies (reportMessage sha256 json file metadata) →
    ∃ pair ∈ issued, reportMessage sha256 json file metadata =
      reportMessage sha256 json pair.1 pair.2

variable (schemes) in
/-- One of the two signatures in a blob was made for issued pairs: under the key in the certificate
of the station it is good for no other message of a report. -/
def IdealStation (sha256 : Sha256) (json : ReportJson) (certCl certPq : Certificate)
    (blob : List UInt8) (issued : Set (Option (List UInt8) × MetaData)) : Prop :=
  OnlyIssued sha256 json (ClassicSigns schemes certCl blob) issued ∨
    OnlyIssued sha256 json (PqSigns schemes certPq blob) issued

variable (schemes) in
/-- In one of the two schemes, a signature is good for one message of a report under a key. -/
def IdealSignatures (sha256 : Sha256) (json : ReportJson) : Prop :=
  (∀ key signature, Set.Subsingleton {message |
    (∃ file metadata, message = reportMessage sha256 json file metadata) ∧
      schemes.ed25519.verifyStrict key message signature = true}) ∨
  ∀ key signature, Set.Subsingleton {message |
    (∃ file metadata, message = reportMessage sha256 json file metadata) ∧
      schemes.mlDsa87.verify key message signature = true}

section Ideal

variable {sha256 : Sha256} {json : ReportJson} {fromPem : FromPem} {report : Report}
  {file : Option (List UInt8)} {caCertCl caCertPq certCl certPq : Certificate} {blob : List UInt8}

/-- A complete chain under an ideal station is one of an issued pair. Assumes: the hash function has
no collision among what was hashed for the issued pairs and for this one. -/
theorem Chain.mem_issued
    (hchain : Chain schemes sha256 json fromPem report file caCertCl caCertPq certCl certPq blob)
    {issued : Set (Option (List UInt8) × MetaData)}
    (hideal : IdealStation schemes sha256 json certCl certPq blob issued)
    (hcollision : Set.InjOn sha256.hash
      (hashedInputs json (insert (file, report.metadata) issued))) :
    (file, report.metadata) ∈ issued := by
  have hissued : ∃ pair ∈ issued, reportMessage sha256 json file report.metadata =
      reportMessage sha256 json pair.1 pair.2 := by
    rcases hideal with hclassic | hpq
    · exact hclassic file report.metadata hchain.classic
    · exact hpq file report.metadata hchain.pq
  obtain ⟨pair, hpair, hmessage⟩ := hissued
  have hsame : (file, report.metadata) = pair :=
    reportMessage_injOn hcollision (Set.mem_insert _ _) (Set.mem_insert_of_mem _ hpair) hmessage
  rw [hsame]
  exact hpair

/-- With ideal signatures, those in an accepted report are good for its file and its signed part
only. -/
theorem Chain.idealStation
    (hchain : Chain schemes sha256 json fromPem report file caCertCl caCertPq certCl certPq blob)
    (hideal : IdealSignatures schemes sha256 json) :
    IdealStation schemes sha256 json certCl certPq blob {(file, report.metadata)} := by
  refine hideal.imp (fun hclassic other metadata hsigns ↦ ?_) (fun hpq other metadata hsigns ↦ ?_)
  · obtain ⟨key, hkey, hverified⟩ := hchain.classic
    obtain ⟨otherKey, hotherKey, hother⟩ := hsigns
    obtain rfl : otherKey = key := Option.some.inj (hotherKey.symm.trans hkey)
    exact ⟨_, rfl, hclassic otherKey _ ⟨⟨_, _, rfl⟩, hother⟩ ⟨⟨_, _, rfl⟩, hverified⟩⟩
  · obtain ⟨key, signature, hkey, hsignature, hverified⟩ := hchain.pq
    obtain ⟨otherKey, otherSignature, hotherKey, hotherSignature, hother⟩ := hsigns
    obtain rfl : otherKey = key := Option.some.inj (hotherKey.symm.trans hkey)
    obtain rfl : otherSignature = signature :=
      Option.some.inj (hotherSignature.symm.trans hsignature)
    exact ⟨_, rfl, hpq otherKey otherSignature ⟨⟨_, _, rfl⟩, hother⟩ ⟨⟨_, _, rfl⟩, hverified⟩⟩

/-- The certificates and the blob of a chain are those in the binding of the report. -/
theorem Chain.unique
    (hchain : Chain schemes sha256 json fromPem report file caCertCl caCertPq certCl certPq blob)
    {other : Report} {otherFile : Option (List UInt8)} {otherCl otherPq : Certificate}
    {otherBlob : List UInt8}
    (hother : Chain schemes sha256 json fromPem other otherFile caCertCl caCertPq otherCl otherPq
      otherBlob)
    (hcertificate : other.binding.stationCertificate = report.binding.stationCertificate)
    (hsignature : other.binding.reportSignature = report.binding.reportSignature) :
    otherCl = certCl ∧ otherPq = certPq ∧ otherBlob = blob := by
  obtain ⟨pemCl, pemPq, hpems, hpemCl, hpemPq⟩ := hchain.certificates
  obtain ⟨otherPemCl, otherPemPq, hotherPems, hotherCl, hotherPq⟩ := hother.certificates
  have hsame : [otherPemCl, otherPemPq] = [pemCl, pemPq] := by
    rw [← hpems, ← hotherPems, hcertificate]
  obtain ⟨rfl, rfl⟩ : otherPemCl = pemCl ∧ otherPemPq = pemPq := by simpa using hsame
  refine ⟨Option.some.inj (hotherCl.symm.trans hpemCl),
    Option.some.inj (hotherPq.symm.trans hpemPq), Option.some.inj ?_⟩
  rw [← hchain.signatures, ← hother.signatures, hsignature]

end Ideal

/-- An accepted report has a complete chain. When one of the two signatures in it was made for
issued pairs, and without collisions, its file and its signed part were issued together. With ideal
signatures and without collisions, whatever is accepted with the same certificates and signatures
has the same file and the same signed part, so that a change of either makes the verification fail.
Assumes: the report is accepted with certificates of both authorities. -/
theorem parseReport_sound {sha256 : Sha256} {json : ReportJson} {fromPem : FromPem}
    {reportContent : Option String} {file : Option (Option (List UInt8))}
    {caCertCl caCertPq : Certificate} {report : Report}
    (hparsed : parseReport schemes sha256 json fromPem reportContent file (some caCertCl)
      (some caCertPq) = .ok report) :
    ∃ content certCl certPq blob, file = content.map some ∧
      Chain schemes sha256 json fromPem report content caCertCl caCertPq certCl certPq blob ∧
      (∀ issued, IdealStation schemes sha256 json certCl certPq blob issued →
        Set.InjOn sha256.hash (hashedInputs json (insert (content, report.metadata) issued)) →
        (content, report.metadata) ∈ issued) ∧
      ∀ otherContent otherFile other, IdealSignatures schemes sha256 json →
        Set.InjOn sha256.hash
          (hashedInputs json {(otherFile, other.metadata), (content, report.metadata)}) →
        parseReport schemes sha256 json fromPem otherContent (otherFile.map some) (some caCertCl)
          (some caCertPq) = .ok other →
        other.binding.stationCertificate = report.binding.stationCertificate →
        other.binding.reportSignature = report.binding.reportSignature →
          otherFile = content ∧ other.metadata = report.metadata := by
  obtain ⟨content, certCl, certPq, blob, hfile, hchain⟩ := chain_of_parseReport hparsed
  refine ⟨content, certCl, certPq, blob, hfile, hchain, fun _ hideal hcollision ↦
    hchain.mem_issued hideal hcollision, ?_⟩
  intro otherContent otherFile other hideal hcollision hotherParsed hcertificate hsignature
  obtain ⟨otherBytes, otherCl, otherPq, otherBlob, hotherFile, hother⟩ :=
    chain_of_parseReport hotherParsed
  obtain rfl : otherFile = otherBytes := Option.map_injective (Option.some_injective _) hotherFile
  obtain ⟨rfl, rfl, rfl⟩ := hchain.unique hother hcertificate hsignature
  have hissued := hother.mem_issued (hchain.idealStation hideal) hcollision
  exact Prod.mk.inj (Set.mem_singleton_iff.mp hissued)

/-- A signature of the transparent ML-DSA-87 is good for one message. -/
theorem idealSignatures_transparent (sha256 : Sha256) (json : ReportJson) :
    IdealSignatures transparentSchemes sha256 json := by
  refine .inr fun key signature first hfirst second hsecond ↦ ?_
  have hsame : key :: first = key :: second := (eq_of_beq hfirst.2).symm.trans (eq_of_beq hsecond.2)
  exact (List.cons.inj hsame).2

/-- Two files and one signed part whose digests differ have no collision among them. -/
theorem injOn_hashedInputs_pair {sha256 : Sha256} {json : ReportJson} {first second : List UInt8}
    {metadata : MetaData}
    (hnodup : ([first, second, Wire.Bincode.utf8 (json.metadataToString metadata)].map
      sha256.hash).Nodup) :
    Set.InjOn sha256.hash
      (hashedInputs json {(some first, metadata), (some second, metadata)}) := by
  have hlisted : ∀ input ∈ hashedInputs json {(some first, metadata), (some second, metadata)},
      input ∈ [first, second, Wire.Bincode.utf8 (json.metadataToString metadata)] := by
    rintro input ⟨pair, rfl | rfl, hinput | rfl⟩
    · simp [Option.some.inj hinput]
    · simp
    · simp [Option.some.inj hinput]
    · simp
  exact fun input hinput other hother ↦
    List.inj_on_of_nodup_map hnodup (hlisted input hinput) (hlisted other hother)

theorem parseReport_sound_note :
    ∃ report, bindAndSign paddingSha256 serdeReportJson stationFile
        (generateReportMetadata "12-3-2025_10-0-1-0" stationFile) (some stationKeys)
        ("station-cl.pem" ++ "|" ++ "station-pq.pem") = some report ∧
      (∃ certCl certPq blob,
        Chain transparentSchemes paddingSha256 serdeReportJson stationPem report
          (some [0x6E, 0x6F, 0x74, 0x65]) stationCaCl stationCaPq certCl certPq blob) ∧
      (some [0x6E, 0x6F, 0x74, 0x65], report.metadata) ∈
        ({(some [0x6E, 0x6F, 0x74, 0x65],
          generateReportMetadata "12-3-2025_10-0-1-0" stationFile)} :
            Set (Option (List UInt8) × MetaData)) ∧
      ∀ other, parseReport transparentSchemes paddingSha256 serdeReportJson stationPem
        (some (serdeReportJson.reportToString report)) (some (some [0x6F])) (some stationCaCl)
        (some stationCaPq) ≠ .ok other := by
  obtain ⟨report, hsigned⟩ : ∃ report, bindAndSign paddingSha256 serdeReportJson stationFile
      (generateReportMetadata "12-3-2025_10-0-1-0" stationFile) (some stationKeys)
      ("station-cl.pem" ++ "|" ++ "station-pq.pem") = some report := ⟨_, rfl⟩
  have hmetadata := metadata_of_bindAndSign hsigned
  obtain ⟨content, certCl, certPq, blob, hfile, hchain, hissued, hchanged⟩ :=
    parseReport_sound (parseReport_of_bindAndSign rfl stationKeys_certified hsigned)
  obtain rfl : some [0x6E, 0x6F, 0x74, 0x65] = content :=
    Option.map_injective (Option.some_injective _) hfile
  have hnodup : ([[0x6F], [0x6E, 0x6F, 0x74, 0x65],
      Wire.Bincode.utf8 (serdeReportJson.metadataToString
        (generateReportMetadata "12-3-2025_10-0-1-0" stationFile))].map
          paddingSha256.hash).Nodup := by
    decide +kernel
  rw [← hmetadata] at hnodup
  have hcollision := injOn_hashedInputs_pair hnodup
  refine ⟨report, hsigned, ⟨certCl, certPq, blob, hchain⟩, ?_, fun other hother ↦ ?_⟩
  · rw [← hmetadata]
    refine hissued _ (hchain.idealStation (idealSignatures_transparent _ _)) ?_
    refine hcollision.mono fun input hinput ↦ ?_
    obtain ⟨pair, hpair, hhashed⟩ := hinput
    rw [Set.insert_eq_of_mem (Set.mem_singleton _)] at hpair
    exact ⟨pair, .inr hpair, hhashed⟩
  · obtain ⟨text, htext, hread⟩ := exists_content_of_parseReport hother
    rw [← Option.some.inj htext, serdeReportJson.reportFromStr_toString] at hread
    obtain rfl := Option.some.inj hread
    obtain ⟨hfile, -⟩ := hchanged _ (some [0x6F]) report (idealSignatures_transparent _ _)
      hcollision hother rfl rfl
    exact absurd hfile (by decide)

end Keysas.Reports
