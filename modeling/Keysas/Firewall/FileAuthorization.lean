import Keysas.Firewall.ServiceController
import Keysas.Reports.RoundTrip
import Keysas.Rust.UnixPath

/-!
# Authorization of files

`authorizeFile` decides whether a file of a USB device may be opened. What belongs to Windows and
directories are let through, then a file is validated by its station report, and what is left is put
to the user in a dialog.

Two of these steps promise more than they do. The user may grant read access to unverified files
only when `allow_user_file_read` is set, and write access only when `allow_user_file_write` is, but
neither the policy nor the kind of access is looked at on the way to the dialog. And
`validateFile` should validate the file and its report together, but the calls of `parse_report` are
not there: it only looks whether the report is a file. `obeysPolicy_iff` and `validatedByReport_iff`
say exactly when the two keep their promises.

`FileSystem` is what the file system answers at the time of the call.
-/

set_option autoImplicit false
set_option relaxedAutoImplicit false

namespace Keysas.Firewall

open Crypto Keys Reports RustStd

/-! ### Data -/

/-- The kind of what is found under a path. -/
inductive FileKind where
  | regular
  | directory
  | other
  deriving DecidableEq

/-- The answers of the file system. -/
structure FileSystem where
  /-- `Path::metadata`, which follows symbolic links. -/
  metadata : OsString → Option FileKind
  /-- The content of a file, when it can be read. -/
  read : OsString → Option (List UInt8)

/-- `Path::is_file`. -/
def FileSystem.isFile (files : FileSystem) (path : OsString) : Bool :=
  files.metadata path = some .regular

/-- The content of a file that is text. -/
def FileSystem.readToString (files : FileSystem) (path : OsString) : Option String :=
  (files.read path).bind Wire.Bincode.fromUtf8

/-- A file as the filter reports it. -/
structure FilteredFile where
  path : Option OsString
  deriving DecidableEq

/-- The authorization of a file. -/
inductive FileAuthorization where
  | pending
  | block
  | allowRead
  | allowRW
  deriving DecidableEq

/-- The message that asks the user about a file. -/
structure FileUpdateMessage where
  device : String
  id : List UInt16
  path : String
  authorization : FileAuthorization
  deriving DecidableEq

/-- The errors of an authorization. -/
inductive FileError where
  /-- The filter has no path for the file. -/
  | invalidFile
  /-- The file system has no metadata for the path. -/
  | metadata
  /-- The dialog with the user fails. -/
  | dialog
  deriving DecidableEq

/-- `request_file_auth` of the GUI: the answer of the user. -/
abbrev RequestFileAuth := FileUpdateMessage → Except FileError Bool

/-! ### Validation by a report -/

/-- The file is a station report by its extension. -/
def isStationReport (path : OsString) : Bool :=
  path.extension.any fun ext ↦ ext.eqIgnoreAsciiCase (.ofText "krp")

/-- The data file of a station report: the extension goes, and a leading dot of the name. -/
def dataFilePath (path : OsString) : OsString :=
  let filePath := path.withoutExtension
  match filePath.parent, filePath.fileName with
  | some parent, some name =>
    match name.toStringLossy.toList with
    | '.' :: stripped => parent.join (.ofText (String.ofList stripped))
    | _ => filePath
  | _, _ => filePath

/-- The station report of a file: in the same directory, hidden, with the name of the file. -/
def reportPath (path : OsString) : OsString :=
  match path.parent, path.fileName with
  | some parent, some name => parent.join (.ofText ("." ++ name.toStringLossy ++ ".krp"))
  | _, _ => path

/-- `validate_file`. For a station report the data file is looked for, but both of the branches that
follow are empty. -/
def validateFile (files : FileSystem) (path : OsString) : Except FileError Bool := do
  if isStationReport path then
    match files.isFile (dataFilePath path) with
    | true => pure ()
    | false => pure ()
  match files.isFile (reportPath path) with
  | true => return true
  | false => return false

/-- The validation only looks whether the report is a file. -/
theorem validateFile_eq (files : FileSystem) (path : OsString) :
    validateFile files path = .ok (files.isFile (reportPath path)) := by
  have hresult : (match files.isFile (reportPath path) with
      | true => Except.ok true
      | false => Except.ok false : Except FileError Bool) =
        .ok (files.isFile (reportPath path)) := by
    cases files.isFile (reportPath path) <;> rfl
  rw [← hresult, validateFile]
  by_cases hreport : isStationReport path
  · cases files.isFile (dataFilePath path) <;> simp [hreport] <;> rfl
  · simp [hreport]
    rfl

example : reportPath (.ofText "/media/usb/a.txt") = .ofText "/media/usb/.a.txt.krp" := by decide

/-! ### Authorization -/

/-- The components behind the root: nothing for a path without one. -/
def behindRoot : List Component → List Component
  | [] => []
  | .rootDir :: rest => rest
  | _ :: rest => behindRoot rest

/-- The path is internal to Windows. -/
def isWhitelisted (path : OsString) : Bool :=
  (behindRoot path.components).head? = some (.normal (.ofText "System Volume Information"))

/-- The message of `user_authorize_file`. -/
def fileRequest (path : OsString) : FileUpdateMessage where
  device := ""
  id := List.replicate 16 0
  path := path.toStringLossy
  authorization := .allowRead

/-- `user_authorize_file`. -/
def userAuthorizeFile (gui : RequestFileAuth) (path : OsString) : Except FileError Bool :=
  gui (fileRequest path)

variable {schemes : Schemes}

/-- `authorize_file`. The controller and the kind of access are not looked at. -/
def authorizeFile (_controller : ServiceController schemes) (gui : RequestFileAuth)
    (files : FileSystem) (file : FilteredFile) (_write : Bool) : Except FileError Bool := do
  let path ← okOr file.path .invalidFile
  if isWhitelisted path then return true
  let kind ← okOr (files.metadata path) .metadata
  if kind = .directory then return true
  match validateFile files path with
  | .ok true => return true
  | _ => userAuthorizeFile gui path

/-- The user is asked about the path: it is neither whitelisted, nor a directory, nor validated. -/
def asksUser (files : FileSystem) (path : OsString) : Bool :=
  !isWhitelisted path &&
    (files.metadata path).any (fun kind ↦ kind ≠ .directory) &&
    !files.isFile (reportPath path)

/-- A file is authorized when it is let through without a question, or when the user is asked and
accepts. -/
theorem authorizeFile_eq_ok_true_iff (controller : ServiceController schemes)
    (gui : RequestFileAuth) (files : FileSystem) (file : FilteredFile) (write : Bool) :
    authorizeFile controller gui files file write = .ok true ↔
      ∃ path, file.path = some path ∧
        (isWhitelisted path ∨ files.metadata path = some .directory ∨
          ((files.metadata path).isSome ∧ validateFile files path = .ok true) ∨
          (asksUser files path ∧ userAuthorizeFile gui path = .ok true)) := by
  rw [authorizeFile]
  rcases hfile : file.path with _ | path
  · simp [okOr, bind, Except.bind]
  simp only [okOr_some, ok_bind, Option.some.injEq, exists_eq_left']
  by_cases hwhitelisted : isWhitelisted path
  · simp [hwhitelisted, pure, Except.pure]
  rcases hmetadata : files.metadata path with _ | kind
  · simp [hwhitelisted, asksUser, hmetadata, okOr, bind, Except.bind]
  by_cases hdirectory : kind = .directory
  · simp [hwhitelisted, hdirectory, pure, Except.pure]
  by_cases hreport : files.isFile (reportPath path)
  · simp [hwhitelisted, hdirectory, validateFile_eq, hreport, pure, Except.pure]
  · simp [hwhitelisted, hmetadata, hdirectory, validateFile_eq, hreport, asksUser]

/-! ### The policy of the administrator -/

/-- The policy lets the user grant the access. -/
def userMayGrant (policy : SecurityPolicy) (write : Bool) : Bool :=
  policy.allowUserFileRead && (!write || policy.allowUserFileWrite)

theorem userMayGrant_iff {policy : SecurityPolicy} {write : Bool} :
    userMayGrant policy write ↔
      policy.allowUserFileRead ∧ (write → policy.allowUserFileWrite) := by
  cases write with
  | false => simp [userMayGrant]
  | true => simp [userMayGrant]

/-- The reasons for which the policy lets a file be opened. -/
def PermittedByPolicy (policy : SecurityPolicy) (gui : RequestFileAuth) (files : FileSystem)
    (file : FilteredFile) (write : Bool) : Prop :=
  ∃ path, file.path = some path ∧
    (isWhitelisted path ∨ files.metadata path = some .directory ∨
      validateFile files path = .ok true ∨
      (userAuthorizeFile gui path = .ok true ∧ policy.allowUserFileRead ∧
        (write → policy.allowUserFileWrite)))

/-- About a file that the user is asked about there is no reason but the user. -/
theorem no_reason_of_asksUser {files : FileSystem} {path : OsString}
    (hasks : asksUser files path) :
    ¬ (isWhitelisted path ∨ files.metadata path = some .directory ∨
      validateFile files path = .ok true) := by
  rw [validateFile_eq]
  rcases hmetadata : files.metadata path with _ | kind
  · simp [asksUser, hmetadata] at hasks
  · simpa [asksUser, hmetadata, and_assoc] using hasks

/-- An authorization obeys the policy if and only if the user is not asked about the file, or does
not accept, or may grant the access. -/
theorem obeysPolicy_iff (controller : ServiceController schemes) (gui : RequestFileAuth)
    (files : FileSystem) (file : FilteredFile) (write : Bool) :
    (authorizeFile controller gui files file write = .ok true →
        PermittedByPolicy controller.policy gui files file write) ↔
      ∀ path, file.path = some path → asksUser files path →
        userAuthorizeFile gui path = .ok true → userMayGrant controller.policy write := by
  rw [authorizeFile_eq_ok_true_iff]
  constructor
  · intro hobeys path hpath hasks haccepts
    obtain ⟨other, hother, hreason⟩ := hobeys ⟨path, hpath, .inr (.inr (.inr ⟨hasks, haccepts⟩))⟩
    obtain rfl : path = other := Option.some.inj (hpath.symm.trans hother)
    have hnone := no_reason_of_asksUser hasks
    rcases hreason with hreason | hreason | hreason | ⟨-, hgrant⟩
    · exact absurd (.inl hreason) hnone
    · exact absurd (.inr (.inl hreason)) hnone
    · exact absurd (.inr (.inr hreason)) hnone
    · exact userMayGrant_iff.mpr hgrant
  · rintro hmay ⟨path, hpath, hreason⟩
    refine ⟨path, hpath, ?_⟩
    rcases hreason with hwhitelisted | hdirectory | ⟨-, hvalidated⟩ | ⟨hasks, haccepts⟩
    · exact .inl hwhitelisted
    · exact .inr (.inl hdirectory)
    · exact .inr (.inr (.inl hvalidated))
    · exact .inr (.inr (.inr ⟨haccepts, userMayGrant_iff.mp (hmay path hpath hasks haccepts)⟩))

/-- The policy that grants nothing to the user. -/
def strictPolicy : SecurityPolicy where
  disableUnsignedUsb := false
  allowUserUsbAuthorization := false
  allowUserFileRead := false
  allowUserFileWrite := false

/-- A USB device with nothing but one empty file. -/
def loneFile (path : OsString) : FileSystem where
  metadata other := if other = path then some .regular else none
  read other := if other = path then some [] else none

/-- Not every authorization obeys the policy: under the policy that grants nothing to the user, a
file without a report is opened when the user accepts. -/
theorem not_forall_obeysPolicy :
    ¬ ∀ (schemes : Schemes) (controller : ServiceController schemes) (gui : RequestFileAuth)
      (files : FileSystem) (file : FilteredFile) (write : Bool),
      authorizeFile controller gui files file write = .ok true →
        PermittedByPolicy controller.policy gui files file write := by
  intro hobeys
  let path : OsString := .ofText "/media/usb/a.txt"
  have haccepted : authorizeFile (.init strictPolicy (transparentPubKeys 0)) (fun _ ↦ .ok true)
      (loneFile path) ⟨some path⟩ true = .ok true := by decide
  obtain ⟨other, hother, hreason⟩ := hobeys _ _ _ _ _ _ haccepted
  obtain rfl := Option.some.inj hother
  have hasks : asksUser (loneFile path) path = true := by decide
  have hnone := no_reason_of_asksUser hasks
  rcases hreason with hreason | hreason | hreason | ⟨-, hread, -⟩
  · exact hnone (.inl hreason)
  · exact hnone (.inr (.inl hreason))
  · exact hnone (.inr (.inr hreason))
  · exact Bool.noConfusion hread

/-! ### Sound validation -/

section Validation

variable (schemes) (sha256 : Sha256) (json : ReportJson) (fromPem : FromPem)
  (caCertCl caCertPq : Certificate) (files : FileSystem) (path : OsString)

/-- The report of the file verifies together with it, and finds the file valid. -/
def ReportAccepts (report : OsString) : Prop :=
  ∃ parsed, parseReport schemes sha256 json fromPem (files.readToString report)
      (some (files.read path)) (some caCertCl) (some caCertPq) = .ok parsed ∧
    parsed.metadata.isValid

/-- The file is validated by its report: the hidden file with its name in the same directory. -/
def ValidatedByReport : Prop :=
  ∃ parent name, path.parent = some parent ∧ path.fileName = some name ∧
    let report := parent.join (.ofText ("." ++ name.toStringLossy ++ ".krp"))
    files.isFile report ∧
      ReportAccepts schemes sha256 json fromPem caCertCl caCertPq files path report

/-- A validation is sound if and only if the path under which a report is looked for is not that of
a file, or the path has a file name and the report verifies and finds the file valid. -/
theorem validatedByReport_iff :
    (validateFile files path = .ok true →
        ValidatedByReport schemes sha256 json fromPem caCertCl caCertPq files path) ↔
      files.isFile (reportPath path) = false ∨
        path.fileName.isSome ∧
          ReportAccepts schemes sha256 json fromPem caCertCl caCertPq files path
            (reportPath path) := by
  rw [validateFile_eq]
  by_cases hreport : files.isFile (reportPath path)
  swap
  · simp [hreport]
  simp only [hreport, forall_const, Bool.true_eq_false, false_or]
  constructor
  · rintro ⟨parent, name, hparent, hname, -, haccepts⟩
    refine ⟨by rw [hname]; rfl, ?_⟩
    rwa [reportPath, hparent, hname]
  · rintro ⟨hsome, haccepts⟩
    obtain ⟨name, hname⟩ := Option.isSome_iff_exists.mp hsome
    obtain ⟨parent, hparent⟩ := OsString.exists_parent_of_fileName hname
    rw [reportPath, hparent, hname] at hreport haccepts
    exact ⟨parent, name, hparent, hname, hreport, haccepts⟩

end Validation

/-- A USB device with two files, of which the second one is empty as well. -/
def twoFiles (first second : OsString) : FileSystem where
  metadata other := if other = first ∨ other = second then some .regular else none
  read other := if other = first ∨ other = second then some [] else none

/-- Not every validation is sound: an empty file under the name of the report is enough. -/
theorem not_forall_validatedByReport :
    ¬ ∀ (schemes : Schemes) (sha256 : Sha256) (json : ReportJson) (fromPem : FromPem)
      (caCertCl caCertPq : Certificate) (files : FileSystem) (path : OsString),
      validateFile files path = .ok true →
        ValidatedByReport schemes sha256 json fromPem caCertCl caCertPq files path := by
  intro hsound
  let path : OsString := .ofText "/media/usb/a.txt"
  let report : OsString := .ofText "/media/usb/.a.txt.krp"
  have hvalidated : validateFile (twoFiles path report) path = .ok true := by decide
  obtain ⟨parent, name, hparent, hname, -, parsed, hparsed, -⟩ :=
    hsound transparentSchemes paddingSha256 serdeReportJson (fun _ ↦ none) ⟨none, "", [], none⟩
      ⟨none, "", [], none⟩ _ _ hvalidated
  have hpath : path.parent = some (.ofText "/media/usb") ∧
      path.fileName = some (.ofText "a.txt") := by decide
  obtain rfl := Option.some.inj (hpath.1.symm.trans hparent)
  obtain rfl := Option.some.inj (hpath.2.symm.trans hname)
  have hempty : (twoFiles path report).readToString
      ((OsString.ofText "/media/usb").join
        (.ofText ("." ++ (OsString.ofText "a.txt").toStringLossy ++ ".krp"))) = some "" := by
    decide
  have hrefused : serdeReportJson.reportFromStr "" = none := by decide +kernel
  obtain ⟨text, htext, hread⟩ := exists_content_of_parseReport hparsed
  obtain rfl := Option.some.inj (hempty.symm.trans htext)
  rw [hrefused] at hread
  cases hread

end Keysas.Firewall
