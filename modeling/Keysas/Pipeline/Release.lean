import Keysas.Out.FileEffects
import Keysas.Pipeline.MetadataTransport
import Keysas.Reports.RoundTrip

/-!
# Release of files

A file goes through transit, where it is checked, and through the output daemon, where its digest is
checked once more and where it is written to the output directory. `cleared_of_outputsLeft` says
that an output file is left there only when every check of transit succeeded with a good result and
the content has the digest that the input daemon computed, whatever fails on the way. What stands in
the output file has this digest, too, exactly when no copy is cut short (`failClosed_iff`): the copy
goes to the place of the file itself, which stays empty when the cursor cannot be positioned, and
keeps what was written when an error ends the copy or when the last bytes cannot be flushed.

Three places draw a verdict from the metadata: transit publishes one, the report has one, and the
output daemon decides. `oneVerdict_iff` says that they agree except for a file that is marked
corrupted and clean otherwise, which transit publishes as passed.
-/

set_option autoImplicit false
set_option relaxedAutoImplicit false

namespace Keysas.Pipeline

open Crypto Keys Reports RustStd Runs Runs.Program Wire Wire.PrefixCodec Wire.Bincode
open Transit (AncillaryData receivedFds Cleared InputMetadata)

variable {schemes : Schemes} {sha256 : Sha256} {json : ReportJson} {conf : Transit.Configuration}
  {outConf : Out.Configuration} {signKeys : Option (HybridKeyPair schemes)} {signCert : String}
  {tools : Transit.TypeTools}

/-! ### A clean note -/

/-- The content of a note. -/
def noteContent : List UInt8 := [0x6E, 0x6F, 0x74, 0x65]

/-- The metadata of the note that the input daemon sends. -/
def noteInput (isCorrupted : Bool) : InputMetadata where
  filename := "note.txt"
  digest := paddingSha256.hexDigest noteContent
  timestamp := "12-03-2025_10-00-00-000"
  isCorrupted := isCorrupted

/-- The scans of the note. -/
def noteScans : Transit.FileScans :=
  Transit.cleanScans (paddingSha256.hexDigest noteContent) noteContent

/-- The calls of the output daemon on the note. -/
def noteCalls : Out.OutputCalls where
  lseek := true
  content := some noteContent
  now := "12-3-2025_10-0-1-0"
  openReport := true
  writeReport := true
  openOutput := true
  lseekCopy := true
  copy := .complete

/-- An output daemon that removes files for a Yara match. -/
def strictOut : Out.Configuration where
  sasOut := "/var/local/out"
  yaraClean := true
  krpMode := .failOnly

theorem cleared_note (isCorrupted : Bool) (yaraRequired : Prop) :
    Cleared Transit.zipTypeTools Transit.defaultConf noteScans yaraRequired
      (noteInput isCorrupted) where
  digest := rfl
  size := ⟨4, rfl, by decide⟩
  type := by
    have hallowed : Transit.checkIsExtensionAllowed Transit.zipTypeTools Transit.defaultConf
        noteContent "note.txt" = true := by
      decide +kernel
    exact ⟨noteContent, rfl, .inr hallowed⟩
  av := ⟨⟨false, []⟩, rfl, rfl⟩
  yara _ := ⟨rfl, rfl⟩
  specialized := rfl
  vt := rfl

theorem ends_checkFile_note (isCorrupted : Bool) :
    Ends (Transit.checkFile Transit.zipTypeTools Transit.defaultConf noteScans)
      (.ofInput (noteInput isCorrupted)) :=
  Transit.ends_checkFile noteScans ⟨rfl, fun _ _ ↦ rfl⟩ _

theorem ends_outputFile_note (md : FileMetadata) :
    Ends (Out.outputFile paddingSha256 serdeReportJson strictOut
      (none : Option (HybridKeyPair transparentSchemes)) "" noteCalls) md :=
  Out.ends_outputFile (by decide) rfl

theorem unchanged_note (digest : String) (content : List UInt8)
    (hdigest : noteScans.digest = some digest) (hcontent : noteCalls.content = some content) :
    digest = paddingSha256.hexDigest content := by
  rw [← Option.some.inj hdigest, ← Option.some.inj hcontent]

/-! ### The decision of the output daemon -/

/-- The output daemon releases exactly the files that are cleared, not corrupted, and whose content
has the digest of the metadata. -/
theorem released_iff {scans : Transit.FileScans} {input : InputMetadata} {content : List UInt8} :
    Out.released outConf (Out.recheckDigest sha256 content
        (Transit.checked tools conf scans (.ofInput input)).toReceived) = true ↔
      Cleared tools conf scans (outConf.yaraClean = true) input ∧ input.isCorrupted = false ∧
        sha256.hexDigest content = input.digest := by
  have hdigest : (Transit.checked tools conf scans (.ofInput input)).toReceived.digest =
      input.digest := by
    rw [Transit.checked_ofInput]
    rfl
  have hcorrupted : (Transit.checked tools conf scans (.ofInput input)).isCorrupted =
      input.isCorrupted := by
    rw [Transit.checked_ofInput]
  unfold Out.recheckDigest
  rw [hdigest, Transit.cleared_iff, ← hcorrupted]
  split_ifs with hchanged
  · simp [Out.released, hchanged]
  · rw [not_ne_iff.mp hchanged]
    simp only [Out.released, Transit.FileMetadata.toReceived, Bool.and_eq_true, Bool.or_eq_true,
      Bool.not_eq_true', and_true]
    cases outConf.yaraClean <;> simp <;> tauto

/-! ### Nothing is released that is not cleared -/

/-- The files that transit receives, with what its checks leave. -/
theorem exists_input_of_checkFiles {scansOf : ℕ → Transit.FileScans}
    {messages : List (Option AncillaryData)} {buffer : List UInt8}
    {outcome : List (Transit.FileData × List Transit.ProgressCall)}
    (hchecked : Transit.checkFiles tools conf scansOf (Transit.parseMessages messages buffer) =
      some outcome) {f : Transit.FileData × List Transit.ProgressCall} (hf : f ∈ outcome) :
    ∃ input rest, decodeWithLimit 4128 InputMetadata.reader buffer = some (input, rest) ∧
      f.1.md = Transit.checked tools conf (scansOf f.1.fd) (.ofInput input) := by
  rw [Transit.eq_of_checkFiles_eq_some hchecked] at hf
  obtain ⟨received, hreceived, rfl⟩ := List.mem_map.mp hf
  obtain ⟨fd, -, hdecoded⟩ := List.mem_filterMap.mp hreceived
  obtain ⟨⟨input, rest⟩, hinput, rfl⟩ := Option.map_eq_some_iff.mp hdecoded
  exact ⟨input, rest, hinput, rfl⟩

/-- The metadata that the output daemon receives are those that transit sent. -/
theorem md_of_parseMessages {md : Transit.FileMetadata} {message : List UInt8}
    {messages : List (Option AncillaryData)} {received : List Out.FileData}
    (hsent : Transit.FileMetadata.codec.encode md = some message)
    (hreceived : Out.parseMessages messages (receiveInto 4128 message) = some received)
    {f : Out.FileData} (hf : f ∈ received) : f.md = md.toReceived := by
  rw [parseMessages_sent hsent] at hreceived
  split_ifs at hreceived with hfits hnone
  · obtain rfl := Option.some.inj hreceived
    obtain ⟨fd, -, rfl⟩ := List.mem_map.mp hf
    rfl
  · obtain rfl := Option.some.inj hreceived
    exact absurd hf List.not_mem_nil

section Received

variable {scansOf : ℕ → Transit.FileScans} {callsOf : ℕ → Out.OutputCalls}
  {messages messagesOut : List (Option AncillaryData)} {buffer message : List UInt8}
  {outcome : List (Transit.FileData × List Transit.ProgressCall)}
  {f : Transit.FileData × List Transit.ProgressCall} {received : List Out.FileData}

/-- A file that the output daemon releases is cleared, and its content has the digest of the input
daemon. Assumes: transit received and checked the file and sent its metadata, and the output daemon
received them. -/
theorem cleared_of_released {content : List UInt8} {output : Out.FileData}
    (hchecked : Transit.checkFiles tools conf scansOf (Transit.parseMessages messages buffer) =
      some outcome)
    (hf : f ∈ outcome)
    (hsent : Transit.FileMetadata.codec.encode f.1.md = some message)
    (hreceived : Out.parseMessages messagesOut (receiveInto 4128 message) = some received)
    (houtput : output ∈ received)
    (hreleased : Out.released outConf (Out.recheckDigest sha256 content output.md) = true) :
    ∃ input rest, decodeWithLimit 4128 InputMetadata.reader buffer = some (input, rest) ∧
      Cleared tools conf (scansOf f.1.fd) (outConf.yaraClean = true) input ∧
      input.isCorrupted = false ∧ sha256.hexDigest content = input.digest := by
  obtain ⟨input, rest, hinput, hmd⟩ := exists_input_of_checkFiles hchecked hf
  rw [md_of_parseMessages hsent hreceived houtput, hmd] at hreleased
  exact ⟨input, rest, hinput, released_iff.mp hreleased⟩

/-- A file reaches the output directory only when it is cleared: the bytes that are left are what
the copy leaves of a content with the digest of the input daemon, every check of transit succeeded
with a good result, and the file is not marked corrupted. Assumes: transit received and checked the
file and sent its metadata, the output daemon received them, and it left the output file. -/
theorem cleared_of_outputsLeft {path : String} {bytes : List UInt8}
    (hchecked : Transit.checkFiles tools conf scansOf (Transit.parseMessages messages buffer) =
      some outcome)
    (hf : f ∈ outcome)
    (hsent : Transit.FileMetadata.codec.encode f.1.md = some message)
    (hreceived : Out.parseMessages messagesOut (receiveInto 4128 message) = some received)
    (hleft : (path, bytes) ∈ Out.outputsLeft
      (Out.outputFiles sha256 json outConf signKeys signCert callsOf received).1) :
    ∃ input rest output content,
      decodeWithLimit 4128 InputMetadata.reader buffer = some (input, rest) ∧
      Out.OpensOutput sha256 json outConf signKeys signCert callsOf received output content ∧
      bytes = Out.leftBytes (callsOf output.fd) content ∧
      Cleared tools conf (scansOf f.1.fd) (outConf.yaraClean = true) input ∧
      input.isCorrupted = false ∧ sha256.hexDigest content = input.digest := by
  obtain ⟨output, content, hopens, hbytes⟩ := Out.mem_outputsLeft_iff.mp hleft
  obtain ⟨input, rest, hinput, hcleared⟩ := cleared_of_released hchecked hf hsent hreceived
    hopens.reached.mem (Out.released_of_opensOutput hopens.opens)
  exact ⟨input, rest, output, content, hinput, hopens, (Prod.mk.inj hbytes).2, hcleared⟩

/-- Whatever is left in the output directory is cleared for release: the bytes have the digest that
the input daemon computed, the file is not marked corrupted, and every check of transit succeeded
with a good result. -/
def FailClosed (sha256 : Sha256) (tools : Transit.TypeTools) (conf : Transit.Configuration)
    (scans : Transit.FileScans) (yaraRequired : Prop) (input : InputMetadata)
    (trace : List Out.Effect) : Prop :=
  ∀ path bytes, (path, bytes) ∈ Out.outputsLeft trace →
    sha256.hexDigest bytes = input.digest ∧ input.isCorrupted = false ∧
      Cleared tools conf scans yaraRequired input

variable (sha256) in
/-- The content is copied to its end and flushed, or what the copy leaves of it happens to have the
digest of the whole. -/
def KeepsDigest (content : List UInt8) (calls : Out.OutputCalls) : Prop :=
  (calls.lseekCopy = true ∧ calls.copy = .complete) ∨
    sha256.hexDigest (Out.leftBytes calls content) = sha256.hexDigest content

/-- A copy that is complete and flushed leaves the content, and so its digest. -/
theorem keepsDigest_iff {content : List UInt8} {calls : Out.OutputCalls} :
    KeepsDigest sha256 content calls ↔
      sha256.hexDigest (Out.leftBytes calls content) = sha256.hexDigest content := by
  refine or_iff_right_of_imp ?_
  rintro ⟨hseek, hcomplete⟩
  rw [Out.leftBytes, if_pos hseek, hcomplete]
  rfl

/-- What the output daemon leaves is cleared for release if and only if every output file that it
opens gets the whole content, or bytes with the same digest. Assumes: transit received the metadata
of the input daemon, checked the file and sent its metadata, and the output daemon received them. -/
theorem failClosed_iff {input : InputMetadata} {rest : List UInt8}
    (hinput : decodeWithLimit 4128 InputMetadata.reader buffer = some (input, rest))
    (hchecked : Transit.checkFiles tools conf scansOf (Transit.parseMessages messages buffer) =
      some outcome)
    (hf : f ∈ outcome)
    (hsent : Transit.FileMetadata.codec.encode f.1.md = some message)
    (hreceived : Out.parseMessages messagesOut (receiveInto 4128 message) = some received) :
    FailClosed sha256 tools conf (scansOf f.1.fd) (outConf.yaraClean = true) input
        (Out.outputFiles sha256 json outConf signKeys signCert callsOf received).1 ↔
      ∀ output content,
        Out.OpensOutput sha256 json outConf signKeys signCert callsOf received output content →
          KeepsDigest sha256 content (callsOf output.fd) := by
  have hunique : ∀ {other : InputMetadata} {left : List UInt8},
      decodeWithLimit 4128 InputMetadata.reader buffer = some (other, left) → other = input := by
    intro other left hother
    rw [hinput] at hother
    exact (Prod.mk.inj (Option.some.inj hother)).1.symm
  constructor
  · intro hclosed output content hopens
    obtain ⟨other, left, hother, -, -, hdigest⟩ := cleared_of_released hchecked hf hsent hreceived
      hopens.reached.mem (Out.released_of_opensOutput hopens.opens)
    obtain rfl := hunique hother
    obtain ⟨hleft, -⟩ := hclosed _ _ <|
      Out.mem_outputsLeft_iff.mpr ⟨output, content, hopens, rfl⟩
    exact keepsDigest_iff.mpr (hleft.trans hdigest.symm)
  · intro hkeeps path bytes hleft
    obtain ⟨other, left, output, content, hother, hopens, rfl, hcleared, hcorrupted, hdigest⟩ :=
      cleared_of_outputsLeft hchecked hf hsent hreceived hleft
    obtain rfl := hunique hother
    have hkept := keepsDigest_iff.mp (hkeeps output content hopens)
    exact ⟨hkept.trans hdigest, hcorrupted, hcleared⟩

end Received

/-- The metadata of the note after the checks. -/
def noteChecks : Transit.FileMetadata :=
  Transit.checked Transit.zipTypeTools Transit.defaultConf noteScans (.ofInput (noteInput false))

/-- The note after the checks. -/
def notePublished : List (Transit.FileData × List Transit.ProgressCall) :=
  [(⟨3, noteChecks⟩, Transit.stepCalls Transit.defaultConf "note.txt" ++
    Transit.publication (Transit.passed noteChecks))]

theorem claimed_note : (noteInput false).claimed ≤ 4128 := by decide +kernel

theorem wireSize_noteChecks : noteChecks.wireSize ≤ 4128 := by decide +kernel

/-- The messages about the note: that of the input daemon, and that of transit. -/
theorem exists_noteMessages :
    ∃ received sent, InputMetadata.codec.encode (noteInput false) = some received ∧
      Transit.FileMetadata.codec.encode noteChecks = some sent := by
  have hreceived := InputMetadata.codec_encodesBelow le_rfl (noteInput false) <|
    (InputMetadata.size_le_of_claimed_le claimed_note).trans_lt (by decide)
  have hsent := Transit.FileMetadata.codec_encodesBelow le_rfl noteChecks <| by
    rw [Transit.FileMetadata.size_codec]
    exact wireSize_noteChecks.trans_lt (by decide)
  obtain ⟨received, hreceived⟩ := hreceived
  obtain ⟨sent, hsent⟩ := hsent
  exact ⟨received, sent, hreceived, hsent⟩

theorem checkFiles_note {received : List UInt8}
    (hreceived : InputMetadata.codec.encode (noteInput false) = some received) :
    Transit.checkFiles Transit.zipTypeTools Transit.defaultConf (fun _ ↦ noteScans)
      (Transit.parseMessages [some (.scmRights [3])] (receiveInto 4128 received)) =
        some notePublished := by
  have hparsed := Transit.parseMessages_receiveInto hreceived [some (.scmRights [3])]
  rw [if_pos claimed_note] at hparsed
  rw [hparsed]
  have husable : ∀ f ∈ (receivedFds [some (.scmRights [3])]).map fun fd ↦
      (⟨fd, .ofInput (noteInput false)⟩ : Transit.FileData), noteScans.Usable :=
    fun _ _ ↦ ⟨rfl, fun _ _ ↦ rfl⟩
  obtain ⟨outcome, houtcome⟩ := Option.isSome_iff_exists.mp <|
    @Transit.isSome_checkFiles Transit.zipTypeTools Transit.defaultConf (fun _ ↦ noteScans) _
      husable
  rw [houtcome, Transit.eq_of_checkFiles_eq_some houtcome]
  rfl

/-- The calls of the output daemon on the note, when the copy may fail. -/
def noteCopy (lseekCopy : Bool) (copy : Out.CopyResult) : Out.OutputCalls :=
  { noteCalls with lseekCopy := lseekCopy, copy := copy }

/-- What the output daemon does with the note that it receives from transit. -/
def noteEffects (calls : Out.OutputCalls) : List Out.Effect :=
  (Out.outputFiles paddingSha256 serdeReportJson strictOut
    (none : Option (HybridKeyPair transparentSchemes)) "" (fun _ ↦ calls)
    [⟨7, noteChecks.toReceived⟩]).1

/-- The output daemon opens an output file for the note, and leaves what the copy leaves. -/
theorem mem_outputsLeft_note (lseekCopy : Bool) (copy : Out.CopyResult) :
    ("/var/local/out/note.txt", Out.leftBytes (noteCopy lseekCopy copy) noteContent) ∈
      Out.outputsLeft (noteEffects (noteCopy lseekCopy copy)) := by
  have hreleased : Out.released strictOut
      (Out.recheckDigest paddingSha256 noteContent noteChecks.toReceived) = true :=
    released_iff.mpr ⟨cleared_note false _, rfl, rfl⟩
  have hpath : push strictOut.sasOut noteChecks.toReceived.filename =
      "/var/local/out/note.txt" := by
    decide +kernel
  refine Out.mem_outputsLeft_iff.mpr ⟨⟨7, noteChecks.toReceived⟩, noteContent,
    ⟨⟨[], [], rfl, fun _ hother ↦ absurd hother List.not_mem_nil⟩, ⟨_, rfl, rfl, rfl⟩, ?_⟩, ?_⟩
  · rw [Out.opensOutput, hreleased, Out.reportCompletes]
    simp [noteCopy, noteCalls]
  · rw [hpath]

/-- The note is left, and cleared. -/
theorem failClosed_iff_note :
    ("/var/local/out/note.txt", noteContent) ∈ Out.outputsLeft (noteEffects noteCalls) ∧
      FailClosed paddingSha256 Transit.zipTypeTools Transit.defaultConf noteScans
        (strictOut.yaraClean = true) (noteInput false) (noteEffects noteCalls) := by
  refine ⟨mem_outputsLeft_note true .complete, ?_⟩
  obtain ⟨received, sent, hreceived, hsent⟩ := exists_noteMessages
  have hinput := InputMetadata.decodeWithLimit_receiveInto hreceived claimed_note
  exact (failClosed_iff hinput (checkFiles_note hreceived) (List.mem_singleton_self _) hsent
    ((parseMessages_sent_iff hsent 7).mpr wireSize_noteChecks)).mpr
      fun _ _ _ ↦ .inl ⟨rfl, rfl⟩

/-- What is left of the note is not cleared when it has another digest. -/
theorem not_failClosed_of_hash_ne {lseekCopy : Bool} {copy : Out.CopyResult}
    (hhash : paddingSha256.hash (Out.leftBytes (noteCopy lseekCopy copy) noteContent) ≠
      paddingSha256.hash noteContent) :
    ¬ FailClosed paddingSha256 Transit.zipTypeTools Transit.defaultConf noteScans
      (strictOut.yaraClean = true) (noteInput false) (noteEffects (noteCopy lseekCopy copy)) := by
  intro hclosed
  obtain ⟨hdigest, -⟩ := hclosed _ _ (mem_outputsLeft_note lseekCopy copy)
  exact hhash (paddingSha256.hash_eq_of_hexDigest_eq hdigest)

/-- What is left need not be cleared for release. When an error ends the copy of the note after two
bytes, or the last two bytes cannot be flushed, the first two stand in the output directory, and
when the cursor cannot be positioned for the copy, an empty file stands there. -/
theorem not_failClosed_note :
    ¬ FailClosed paddingSha256 Transit.zipTypeTools Transit.defaultConf noteScans
        (strictOut.yaraClean = true) (noteInput false)
        (noteEffects (noteCopy true (.failed 2))) ∧
      ¬ FailClosed paddingSha256 Transit.zipTypeTools Transit.defaultConf noteScans
        (strictOut.yaraClean = true) (noteInput false)
        (noteEffects (noteCopy true (.unflushed 2))) ∧
      ¬ FailClosed paddingSha256 Transit.zipTypeTools Transit.defaultConf noteScans
        (strictOut.yaraClean = true) (noteInput false)
        (noteEffects (noteCopy false .complete)) :=
  ⟨not_failClosed_of_hash_ne (by decide), not_failClosed_of_hash_ne (by decide),
    not_failClosed_of_hash_ne (by decide)⟩

/-! ### One verdict -/

/-- The verdict that transit publishes last, that of the report, and the decision of the output
daemon, when it removes files for a Yara match, are one. -/
def OneVerdict (outConf : Out.Configuration) (transitTrace : List Transit.ProgressCall)
    (outTrace : List Out.Effect) : Prop :=
  ∃ verdict, Transit.publication verdict <:+ transitTrace ∧
    (∃ report, .logReport report ∈ outTrace ∧ report.metadata.isValid = verdict) ∧
    (outConf.yaraClean = true → ((∃ path, .createOutput path ∈ outTrace) ↔ verdict = true))

/-- A trace ends with the publication of one verdict. -/
theorem publication_suffix_iff {front : List Transit.ProgressCall} {first second : Bool} :
    Transit.publication first <:+ front ++ Transit.publication second ↔ first = second := by
  constructor
  · rintro ⟨other, hother⟩
    have hpublished := (List.append_inj' hother rfl).2
    simpa [Transit.publication] using congrArg List.head? hpublished
  · rintro rfl
    exact List.suffix_append front _

/-- The second check of the digest changes nothing when the file is unchanged. -/
theorem recheckDigest_of_unchanged {scans : Transit.FileScans} {input : InputMetadata}
    {content : List UInt8}
    (hunchanged : ∀ digest, scans.digest = some digest → digest = sha256.hexDigest content) :
    Out.recheckDigest sha256 content
        (Transit.checked tools conf scans (.ofInput input)).toReceived =
      (Transit.checked tools conf scans (.ofInput input)).toReceived := by
  have hflag : (Transit.checked tools conf scans (.ofInput input)).isDigestOk =
      decide (scans.digest = some input.digest) := by
    rw [Transit.checked_ofInput]
  have hdigest : (Transit.checked tools conf scans (.ofInput input)).digest = input.digest := by
    rw [Transit.checked_ofInput]
  refine Out.recheckDigest_eq_self fun hok ↦ ?_
  show sha256.hexDigest content = (Transit.checked tools conf scans (.ofInput input)).digest
  have hchecked : decide (scans.digest = some input.digest) = true := hflag ▸ hok
  rw [hdigest]
  exact (hunchanged _ (of_decide_eq_true hchecked)).symm

/-- The verdict of the report is that of transit, unless the file is marked corrupted. -/
theorem isValid_toReceived (md : Transit.FileMetadata) :
    md.toReceived.isValid = (Transit.passed md && !md.isCorrupted) := by
  simp only [FileMetadata.isValid, Transit.FileMetadata.toReceived, Transit.passed]
  ac_rfl

/-- The decision of the output daemon is the verdict of the report, when it removes files for a
Yara match. -/
theorem released_eq_isValid (hyaraClean : outConf.yaraClean = true) (md : FileMetadata) :
    Out.released outConf md = md.isValid := by
  simp only [Out.released, FileMetadata.isValid, hyaraClean, Bool.not_true, Bool.or_false]
  ac_rfl

/-- The verdict of the report and that of transit differ for a file that is marked corrupted and
cleared by every other check. -/
theorem isValid_eq_passed_iff (scans : Transit.FileScans) (input : InputMetadata) :
    (Transit.checked tools conf scans (.ofInput input)).toReceived.isValid =
        Transit.passed (Transit.checked tools conf scans (.ofInput input)) ↔
      ¬ (input.isCorrupted = true ∧ Cleared tools conf scans True input) := by
  have hcorrupted : (Transit.checked tools conf scans (.ofInput input)).isCorrupted =
      input.isCorrupted := by
    rw [Transit.checked_ofInput]
  rw [isValid_toReceived, hcorrupted, ← Transit.passed_checked_iff]
  cases input.isCorrupted <;>
    cases Transit.passed (Transit.checked tools conf scans (.ofInput input)) <;> simp

/-- The three verdicts about a file are one exactly when that of the report is that of transit. -/
theorem oneVerdict_iff_isValid {scans : Transit.FileScans} {input : InputMetadata}
    {calls : Out.OutputCalls}
    (htransit : Ends (Transit.checkFile tools conf scans) (.ofInput input))
    (hout : Ends (Out.outputFile sha256 json outConf signKeys signCert calls)
      ((Transit.checkFile tools conf scans).run (.ofInput input)).state.toReceived)
    (hunchanged : ∀ digest content, scans.digest = some digest → calls.content = some content →
      digest = sha256.hexDigest content) :
    OneVerdict outConf ((Transit.checkFile tools conf scans).run (.ofInput input)).trace
        ((Out.outputFile sha256 json outConf signKeys signCert calls).run
          ((Transit.checkFile tools conf scans).run (.ofInput input)).state.toReceived).trace ↔
      (Transit.checked tools conf scans (.ofInput input)).toReceived.isValid =
        Transit.passed (Transit.checked tools conf scans (.ofInput input)) := by
  obtain ⟨value, hvalue⟩ := htransit
  obtain ⟨hstate, htrace⟩ :=
    Transit.establishes_checkFile tools conf scans (.ofInput input) value hvalue
  rw [hstate] at hout ⊢
  rw [htrace]
  obtain ⟨outValue, houtValue⟩ := hout
  obtain ⟨content, report, hcontent, hreport, hcreated, -⟩ :=
    Out.establishes_outputFile _ outValue houtValue
  have hsame : Out.recheckDigest sha256 content
      (Transit.checked tools conf scans (.ofInput input)).toReceived =
        (Transit.checked tools conf scans (.ofInput input)).toReceived :=
    recheckDigest_of_unchanged fun digest hdigest ↦ hunchanged digest content hdigest hcontent
  rw [hsame] at hcreated
  have hlogged : ∀ logged, .logReport logged ∈ ((Out.outputFile sha256 json outConf signKeys
      signCert calls).run (Transit.checked tools conf scans (.ofInput input)).toReceived).trace →
      logged.metadata.isValid =
        (Transit.checked tools conf scans (.ofInput input)).toReceived.isValid := by
    intro logged hmem
    obtain ⟨read, hread, hmetadata⟩ := Out.emits_outputFile _ _ hmem
    rw [hmetadata, Option.some.inj (hread.symm.trans hcontent), hsame]
    rfl
  constructor
  · rintro ⟨verdict, hpublished, ⟨logged, hmem, rfl⟩, -⟩
    rw [← hlogged logged hmem]
    exact publication_suffix_iff.mp hpublished
  · intro hverdict
    refine ⟨_, publication_suffix_iff.mpr rfl, ⟨report, hreport, ?_⟩, fun hyaraClean ↦ ?_⟩
    · rw [hlogged report hreport, hverdict]
    · rw [hcreated, released_eq_isValid hyaraClean, hverdict]

/-- The three verdicts about a file are one exactly when it is not both marked corrupted and
cleared by every other check. Assumes: transit checks the file to the end, the output daemon
receives its metadata and processes it without an error, and the file is unchanged in between. -/
theorem oneVerdict_iff {scans : Transit.FileScans} {input : InputMetadata} {calls : Out.OutputCalls}
    (htransit : Ends (Transit.checkFile tools conf scans) (.ofInput input))
    (hout : Ends (Out.outputFile sha256 json outConf signKeys signCert calls)
      ((Transit.checkFile tools conf scans).run (.ofInput input)).state.toReceived)
    (hunchanged : ∀ digest content, scans.digest = some digest → calls.content = some content →
      digest = sha256.hexDigest content) :
    OneVerdict outConf ((Transit.checkFile tools conf scans).run (.ofInput input)).trace
        ((Out.outputFile sha256 json outConf signKeys signCert calls).run
          ((Transit.checkFile tools conf scans).run (.ofInput input)).state.toReceived).trace ↔
      ¬ (input.isCorrupted = true ∧ Cleared tools conf scans True input) := by
  rw [oneVerdict_iff_isValid htransit hout hunchanged]
  exact isValid_eq_passed_iff scans input

theorem oneVerdict_iff_note :
    OneVerdict strictOut
        ((Transit.checkFile Transit.zipTypeTools Transit.defaultConf noteScans).run
          (.ofInput (noteInput false))).trace
        ((Out.outputFile paddingSha256 serdeReportJson strictOut
          (none : Option (HybridKeyPair transparentSchemes)) "" noteCalls).run
          ((Transit.checkFile Transit.zipTypeTools Transit.defaultConf noteScans).run
            (.ofInput (noteInput false))).state.toReceived).trace ↔
      ¬ ((noteInput false).isCorrupted = true ∧
        Cleared Transit.zipTypeTools Transit.defaultConf noteScans True (noteInput false)) :=
  oneVerdict_iff (ends_checkFile_note false) (ends_outputFile_note _) unchanged_note

/-- Transit publishes a pass for a note that is marked corrupted, the report says that it is not
valid, and it is not written. -/
theorem not_oneVerdict_corrupted_note :
    Ends (Transit.checkFile Transit.zipTypeTools Transit.defaultConf noteScans)
        (.ofInput (noteInput true)) ∧
      Ends (Out.outputFile paddingSha256 serdeReportJson strictOut
        (none : Option (HybridKeyPair transparentSchemes)) "" noteCalls)
        ((Transit.checkFile Transit.zipTypeTools Transit.defaultConf noteScans).run
          (.ofInput (noteInput true))).state.toReceived ∧
      (∀ digest content, noteScans.digest = some digest → noteCalls.content = some content →
        digest = paddingSha256.hexDigest content) ∧
      ¬ OneVerdict strictOut
        ((Transit.checkFile Transit.zipTypeTools Transit.defaultConf noteScans).run
          (.ofInput (noteInput true))).trace
        ((Out.outputFile paddingSha256 serdeReportJson strictOut
          (none : Option (HybridKeyPair transparentSchemes)) "" noteCalls).run
          ((Transit.checkFile Transit.zipTypeTools Transit.defaultConf noteScans).run
            (.ofInput (noteInput true))).state.toReceived).trace := by
  refine ⟨ends_checkFile_note true, ends_outputFile_note _, unchanged_note, ?_⟩
  rw [oneVerdict_iff_isValid (ends_checkFile_note true) (ends_outputFile_note _) unchanged_note,
    isValid_eq_passed_iff]
  exact not_not_intro ⟨rfl, cleared_note true True⟩

end Keysas.Pipeline
