import Keysas.Out.OutputFiles
import Keysas.Transit.CheckFiles

/-!
# Transport of metadata

The output daemon receives the metadata of a file into a fixed buffer of 4128 bytes. It decodes
exactly what transit sent when the encoding fits the buffer, and ends when it does not
(`parseMessages_sent`), so that nothing is ever decoded in place of what was sent.

`parseMessages_sent_iff` is the equivalence for one file. The size is that of the metadata with all
its reports, and the longest summary that the analyzer can deliver is over the limit by itself.
-/

set_option autoImplicit false
set_option relaxedAutoImplicit false

namespace Keysas.Pipeline

open RustStd Wire Wire.PrefixCodec Wire.Bincode Keysas.Analyze
open Transit (AncillaryData receivedFds)

/-- What the output daemon makes of a message of transit, with any descriptors: the metadata as it
was sent for each, or the end of the process. -/
theorem parseMessages_sent {md : Transit.FileMetadata} {message : List UInt8}
    (hsent : Transit.FileMetadata.codec.encode md = some message)
    (messages : List (Option AncillaryData)) :
    Out.parseMessages messages (receiveInto 4128 message) =
      if md.wireSize ≤ 4128 then
        some ((receivedFds messages).map fun fd ↦ ⟨fd, md.toReceived⟩)
      else if receivedFds messages = [] then some [] else none := by
  have hencoded : Reports.FileMetadata.codec.encode md.toReceived = some message := hsent
  have hlength : message.length = md.wireSize := by
    rw [Transit.FileMetadata.codec.length_encode hsent, Transit.FileMetadata.size_codec]
  unfold Out.parseMessages
  by_cases hfits : md.wireSize ≤ 4128
  · rw [if_pos hfits, Reports.FileMetadata.codec.decode_receiveInto hencoded (by omega)]
    simp only [Option.map_some]
    induction receivedFds messages with
    | nil => rfl
    | cons fd fds ih => simp [List.mapM_cons, ih]
  · rw [if_neg hfits, Reports.FileMetadata.codec.decode_receiveInto_of_lt hencoded (by omega)]
    cases receivedFds messages with
    | nil => rfl
    | cons fd fds => simp [List.mapM_cons]

/-- The output daemon decodes the metadata of a file as transit sent it exactly when they take at
most 4128 bytes. Assumes: transit could encode them. -/
theorem parseMessages_sent_iff {md : Transit.FileMetadata} {message : List UInt8}
    (hsent : Transit.FileMetadata.codec.encode md = some message) (fd : ℕ) :
    Out.parseMessages [some (.scmRights [fd])] (receiveInto 4128 message) =
        some [⟨fd, md.toReceived⟩] ↔
      md.wireSize ≤ 4128 := by
  rw [parseMessages_sent hsent]
  split_ifs with hfits hnone
  · exact iff_of_true rfl hfits
  · cases hnone
  · exact iff_of_false not_false hfits

theorem parseMessages_sent_iff_note :
    Out.parseMessages [some (.scmRights [3])] (receiveInto 4128
        ((Transit.FileMetadata.codec.encode
          (.ofInput ⟨"note.txt", "", "12-03-2025_10-00-00-000", false⟩)).getD [])) =
        some [⟨3, (Transit.FileMetadata.ofInput
          ⟨"note.txt", "", "12-03-2025_10-00-00-000", false⟩).toReceived⟩] ↔
      (Transit.FileMetadata.ofInput
        ⟨"note.txt", "", "12-03-2025_10-00-00-000", false⟩).wireSize ≤ 4128 :=
  parseMessages_sent_iff rfl 3

/-! ### A ZIP file with a long entry name -/

/-- The metadata of a ZIP file that the input daemon sends. -/
def zipInput : Transit.InputMetadata where
  filename := "a.zip"
  digest := "9f86d081884c7d659a2feaa0c55ad015a3bf4f1b2b0b822cd15d6c15b0f00a08"
  timestamp := "12-03-2025_10-00-00-000"
  isCorrupted := false

/-- The scans of a ZIP file with one encrypted entry whose name has a number of letters. -/
def zipScans (count : ℕ) : Transit.FileScans :=
  { Transit.cleanScans zipInput.digest (encryptedZip (utf8 (Transit.longName count))) with
    analyze := Transit.analyzeDaemon (encryptedZipAnalyzers (Transit.longName count))
      "/run/keysas-analyze" (encryptedZip (utf8 (Transit.longName count))) }

theorem zipScans_usable (count : ℕ) : (zipScans count).Usable :=
  ⟨rfl, fun _ _ ↦ rfl⟩

theorem detectedType_zipScans (count : ℕ) :
    Transit.detectedType Transit.zipTypeTools (zipScans count) = "application/zip" := by
  have hmagic : [0x50, 0x4B, 0x03, 0x04] <+: encryptedZip (utf8 (Transit.longName count)) := by
    simp [encryptedZip]
  simp [Transit.detectedType, zipScans, Transit.cleanScans, Transit.getExtension,
    Transit.zipTypeTools, hmagic]

theorem specializedVerdict_zipScans {count : ℕ} (hcount : 234 ≤ count) (hlimit : count ≤ 4058) :
    Transit.specializedVerdict Transit.zipTypeTools Transit.defaultConf (zipScans count) "a.zip" =
      (false, "archive-scanner", "encrypted entry: " ++ Transit.longName count) := by
  have hcall : Transit.callSpecializedAnalyzer (zipScans count).analyze "a.zip"
      "application/zip" =
      (false, "archive-scanner", "encrypted entry: " ++ Transit.longName count) := by
    have hfits : count + 38 ≤ 4096 := by omega
    have hanswer := Transit.callSpecializedAnalyzer_encryptedZip "/run/keysas-analyze" hcount
      (by omega)
    rw [if_pos hfits] at hanswer
    exact hanswer
  have hsocket : Transit.defaultConf.socketAnalyze = true := rfl
  unfold Transit.specializedVerdict
  rw [if_pos hsocket, detectedType_zipScans, hcall]

/-- The size of the metadata of a ZIP file with a long entry name. -/
theorem wireSize_zipScans {count : ℕ} (hcount : 234 ≤ count) (hlimit : count ≤ 4058) :
    (Transit.checked Transit.zipTypeTools Transit.defaultConf (zipScans count)
      (.ofInput zipInput)).wireSize =
        count + 159 + varintSize ((zipScans count).len.getD 0).toNat := by
  have hverdict : Transit.specializedVerdict Transit.zipTypeTools Transit.defaultConf
      (zipScans count) zipInput.filename =
        (false, "archive-scanner", "encrypted entry: " ++ Transit.longName count) :=
    specializedVerdict_zipScans hcount hlimit
  have hvt : Transit.vtVerdict Transit.defaultConf (zipScans count) zipInput.digest =
      (true, 0, "") := rfl
  have hsummary := Transit.stringSize_encrypted hcount (by omega)
  have hfilename : stringSize zipInput.filename = 6 := rfl
  have hdigest : stringSize zipInput.digest = 65 := rfl
  have htimestamp : stringSize zipInput.timestamp = 24 := rfl
  have htype : stringSize "application/zip" = 16 := rfl
  have hanalyzer : stringSize "archive-scanner" = 16 := rfl
  have hempty : stringSize "" = 1 := rfl
  have hzero : varintSize 0 = 1 := rfl
  rw [Transit.checked_ofInput, hverdict, hvt, detectedType_zipScans]
  show stringSize zipInput.filename + stringSize zipInput.digest +
    varintSize ((zipScans count).len.getD 0).toNat + (varintSize 0 + 0) + stringSize "" +
    stringSize zipInput.timestamp + stringSize "application/zip" + stringSize "archive-scanner" +
    stringSize ("encrypted entry: " ++ Transit.longName count) + varintSize 0 +
      stringSize "" + 8 = _
  omega

theorem checkFiles_zipScans (count : ℕ) :
    ∃ calls, Transit.checkFiles Transit.zipTypeTools Transit.defaultConf (fun _ ↦ zipScans count)
        [⟨3, .ofInput zipInput⟩] =
      some [(⟨3, Transit.checked Transit.zipTypeTools Transit.defaultConf (zipScans count)
        (.ofInput zipInput)⟩, calls)] := by
  have hends : (Transit.checkFiles Transit.zipTypeTools Transit.defaultConf
      (fun _ ↦ zipScans count) [⟨3, .ofInput zipInput⟩]).isSome :=
    Transit.isSome_checkFiles fun _ _ ↦ zipScans_usable count
  obtain ⟨outcome, houtcome⟩ := Option.isSome_iff_exists.mp hends
  rw [houtcome, Transit.eq_of_checkFiles_eq_some houtcome]
  exact ⟨_, rfl⟩

/-- The output daemon ends when it receives the metadata of a ZIP file whose encrypted entry has a
name of 4058 letters, although the analyzer can deliver its summary. -/
theorem not_forall_parseMessages_sent :
    ¬ ∀ (tools : Transit.TypeTools) (conf : Transit.Configuration)
      (scansOf : ℕ → Transit.FileScans) (fd : ℕ) (input : Transit.InputMetadata)
      (outcome : List (Transit.FileData × List Transit.ProgressCall)) (message : List UInt8),
      input.filename.utf8ByteSize ≤ 255 →
      Transit.checkFiles tools conf scansOf [⟨fd, .ofInput input⟩] = some outcome →
      ∀ f ∈ outcome, Transit.FileMetadata.codec.encode f.1.md = some message →
        Out.parseMessages [some (.scmRights [fd])] (receiveInto 4128 message) =
          some [⟨fd, f.1.md.toReceived⟩] := by
  intro hlossless
  obtain ⟨calls, hchecked⟩ := checkFiles_zipScans 4058
  have hsize := wireSize_zipScans (by decide : 234 ≤ 4058) (by decide : 4058 ≤ 4058)
  have hpositive := one_le_varintSize ((zipScans 4058).len.getD 0).toNat
  have hbounded := varintSize_le ((zipScans 4058).len.getD 0).toNat
  obtain ⟨message, hmessage⟩ := Transit.FileMetadata.codec_encodesBelow (Nat.le_refl (2 ^ 64))
    (Transit.checked Transit.zipTypeTools Transit.defaultConf (zipScans 4058) (.ofInput zipInput))
    (by rw [Transit.FileMetadata.size_codec]; omega)
  have hreceived := hlossless _ _ _ 3 zipInput _ message (by decide) hchecked _
    List.mem_cons_self hmessage
  rw [parseMessages_sent_iff hmessage] at hreceived
  omega

end Keysas.Pipeline
