import Keysas.Pki.Issuance
import Keysas.Runs.FileWrites

/-!
# Loading a certificate on a station

`saveCertificate` of keysas-sign writes the text of a certificate to the file of its kind, when the
text parses. A text that does not parse is not written, and the result is the same as for one that
is. `reportsTruthfully_iff` says when the result tells what has been done.
-/

set_option autoImplicit false
set_option relaxedAutoImplicit false

namespace Keysas.Sign

open Crypto Keys Pki Runs RustStd Store Wire.Bincode

open Reports hiding HybridKeyPair

/-- `FILE_CERT_CL_PATH`. -/
def fileCertClPath : String := "/etc/keysas/file-sign-cl.pem"

/-- `FILE_CERT_PQ_PATH`. -/
def fileCertPqPath : String := "/etc/keysas/file-sign-pq.pem"

/-- `USB_CERT_CL_PATH`. -/
def usbCertClPath : String := "/etc/keysas/usb-ca-cl.pem"

/-- `USB_CERT_PQ_PATH`. -/
def usbCertPqPath : String := "/etc/keysas/usb-ca-pq.pem"

/-- The file of a kind of certificates. -/
def certPath (certType : String) : Option String :=
  if certType = "usb-cl" then some usbCertClPath
  else if certType = "usb-pq" then some usbCertPqPath
  else if certType = "file-cl" then some fileCertClPath
  else if certType = "file-pq" then some fileCertPqPath
  else none

/-- The errors of `save_certificate`. -/
inductive SaveError where
  /-- "Invalid certificate type". -/
  | certType
  /-- The file is not written. -/
  | file (error : FileError)
  deriving DecidableEq

variable (schemes : Schemes) (fromPem : FromPem)

/-- The text parses as a certificate. -/
def Parses (cert : String) : Prop :=
  (fromPem cert).isSome = true

instance decidableParses (cert : String) : Decidable (Parses fromPem cert) :=
  inferInstanceAs (Decidable (_ = _))

/-- `save_certificate`. -/
def saveCertificate (calls : FileCalls) (certType cert : String) :
    Program Empty Files SaveError Unit :=
  match validateSigningCertificate schemes fromPem cert none with
  | .error _ => pure ()
  | .ok _ => do
    let path ← .ofExcept (okOr (certPath certType) .certType)
    (writeFile calls path (utf8 cert)).mapError .file

/-- The result is a success exactly when the text is that of a certificate, its kind is one of the
four and the file of this kind now contains the text, and else no file of a certificate changes. -/
def ReportsTruthfully (calls : FileCalls) (certType cert : String) (files : Files) : Prop :=
  let ending := (saveCertificate schemes fromPem calls certType cert).run files
  (ending.value = .ok () ↔ Parses fromPem cert ∧ ∃ path, certPath certType = some path ∧
      ending.state.lookup path = some (utf8 cert)) ∧
    (ending.value ≠ .ok () → ∀ kind path, certPath kind = some path →
      ending.state.lookup path = files.lookup path)

/-- The text parses. When its kind is one of the four, its file is written, or nothing changes and
it did not contain the text before: either the file is not created, or there is room for the
bytes that it contains already. -/
def Loads (calls : FileCalls) (certType cert : String) (files : Files) : Prop :=
  Parses fromPem cert ∧ ∀ path, certPath certType = some path →
    if calls.creates then
      (utf8 cert).length ≤ calls.room ∨
        files.lookup path = some ((utf8 cert).take calls.room)
    else files.lookup path ≠ some (utf8 cert)

variable {schemes fromPem}

theorem validateSigningCertificate_none_isOk_iff {cert : String} :
    (∃ parsed, validateSigningCertificate schemes fromPem cert none = .ok parsed) ↔
      Parses fromPem cert := by
  rw [validateSigningCertificate, Parses]
  cases fromPem cert with
  | none =>
    refine iff_of_false ?_ (by decide)
    rintro ⟨_, hok⟩
    cases hok
  | some parsed => exact iff_of_true ⟨parsed, rfl⟩ rfl

/-- What the program is for a text that parses, and for one that does not. -/
theorem saveCertificate_of_parses {calls : FileCalls} {certType cert : String}
    (hparses : Parses fromPem cert) :
    saveCertificate schemes fromPem calls certType cert =
      .ofExcept (okOr (certPath certType) .certType) >>= fun path ↦
        (writeFile calls path (utf8 cert)).mapError .file := by
  obtain ⟨parsed, hparsed⟩ := validateSigningCertificate_none_isOk_iff.mpr hparses
  rw [saveCertificate, hparsed]

theorem saveCertificate_of_not_parses {calls : FileCalls} {certType cert : String}
    (hparses : ¬ Parses fromPem cert) :
    saveCertificate schemes fromPem calls certType cert = pure () := by
  rw [saveCertificate]
  cases hresult : validateSigningCertificate schemes fromPem cert none with
  | error error => rfl
  | ok parsed =>
    exact absurd (validateSigningCertificate_none_isOk_iff.mp ⟨parsed, hresult⟩) hparses

/-- The result and the files for a text that parses and whose kind is not one of the four. -/
theorem run_saveCertificate_of_certPath_eq_none {calls : FileCalls} {certType cert : String}
    {files : Files} (hparses : Parses fromPem cert) (hpath : certPath certType = none) :
    (saveCertificate schemes fromPem calls certType cert).run files =
      ⟨[], files, .error .certType⟩ := by
  rw [saveCertificate_of_parses hparses, hpath]
  rfl

/-- The result and the files for a text that parses and a kind that has a file. -/
theorem run_saveCertificate {calls : FileCalls} {certType cert path : String} {files : Files}
    (hparses : Parses fromPem cert) (hpath : certPath certType = some path) :
    (saveCertificate schemes fromPem calls certType cert).run files =
      (Program.mapError SaveError.file (writeFile calls path (utf8 cert))).run files := by
  rw [saveCertificate_of_parses hparses, hpath, okOr_some, Program.run_ofExcept_ok_bind]

/-- After the file of a kind is created, the result is truthful exactly when there is room for the
text, or for what the file has contained before. -/
theorem reportsTruthfully_created_iff {calls : FileCalls} {certType cert path : String}
    {files : Files} (hparses : Parses fromPem cert) (hpath : certPath certType = some path)
    (hcreates : calls.creates = true) :
    ReportsTruthfully schemes fromPem calls certType cert files ↔
      (utf8 cert).length ≤ calls.room ∨
        files.lookup path = some ((utf8 cert).take calls.room) := by
  have hassigns := @assigns_run_writeFile Empty calls path (utf8 cert) files hcreates
  rw [ReportsTruthfully, run_saveCertificate hparses hpath, Program.run_mapError]
  simp only [hpath, Option.some.injEq, exists_eq_left', hassigns.lookup_self]
  rw [run_writeFile hcreates]
  by_cases hroom : (utf8 cert).length ≤ calls.room
  · rw [if_pos hroom, List.take_of_length_le hroom]
    exact iff_of_true ⟨iff_of_true rfl ⟨hparses, rfl⟩, fun hfails ↦ absurd rfl hfails⟩ (.inl hroom)
  · have hshort : (utf8 cert).take calls.room ≠ utf8 cert :=
      fun htake ↦ hroom (List.take_eq_self_iff _ |>.mp htake)
    rw [if_neg hroom, or_iff_right hroom, and_iff_right]
    · constructor
      · intro hunchanged
        rw [← hunchanged nofun certType path hpath]
        exact AList.lookup_insert _
      · intro hbefore _ kind other _
        by_cases hother : other = path
        · rw [hother, hbefore]
          exact AList.lookup_insert _
        · rw [AList.lookup_insert_ne hother, AList.lookup_insert_ne hother]
    · exact iff_of_false nofun fun hholds ↦ hshort hholds.2

/-- The result of the program is truthful exactly when the text parses and its file is written, or
was not to be. -/
theorem reportsTruthfully_iff (calls : FileCalls) (certType cert : String) (files : Files) :
    ReportsTruthfully schemes fromPem calls certType cert files ↔
      Loads fromPem calls certType cert files := by
  rw [Loads]
  by_cases hparses : Parses fromPem cert
  · rw [and_iff_right hparses]
    cases hpath : certPath certType with
    | none =>
      refine iff_of_true ?_ fun path hsome ↦ by cases hsome
      rw [ReportsTruthfully, run_saveCertificate_of_certPath_eq_none hparses hpath]
      refine ⟨iff_of_false nofun ?_, fun _ _ _ _ ↦ rfl⟩
      rintro ⟨-, path, hsome, -⟩
      rw [hpath] at hsome
      cases hsome
    | some path =>
      simp only [Option.some.injEq, forall_eq']
      by_cases hcreates : calls.creates = true
      · rw [if_pos hcreates]
        exact reportsTruthfully_created_iff hparses hpath hcreates
      · rw [if_neg hcreates, ReportsTruthfully, run_saveCertificate hparses hpath,
          Program.run_mapError, run_writeFile_of_not_creates hcreates]
        simp only [hpath, Option.some.injEq, exists_eq_left']
        constructor
        · intro htruthful hholds
          cases htruthful.1.mpr ⟨hparses, hholds⟩
        · intro hdiffers
          exact ⟨iff_of_false nofun fun hholds ↦ hdiffers hholds.2, fun _ _ _ _ ↦ trivial⟩
  · refine iff_of_false (fun htruthful ↦ ?_) fun hloads ↦ hparses hloads.1
    rw [ReportsTruthfully, saveCertificate_of_not_parses hparses] at htruthful
    exact hparses (htruthful.1.mp rfl).1

/-- A text that is not a certificate is not written, and the result is a success. -/
theorem not_reportsTruthfully_hello :
    (saveCertificate markedSchemes (fun _ ↦ none) (.succeeding 100000) "file-cl" "hello").run ∅ =
        ⟨[], ∅, .ok ()⟩ ∧
      ¬ ReportsTruthfully markedSchemes (fun _ ↦ none) (.succeeding 100000) "file-cl" "hello"
        ∅ := by
  refine ⟨rfl, fun htruthful ↦ ?_⟩
  have hparses := (htruthful.1.mp rfl).1
  cases hparses

end Keysas.Sign
