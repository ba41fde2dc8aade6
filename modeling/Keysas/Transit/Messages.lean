import Mathlib.Tactic.Ring
import Keysas.Reports.FileReport

/-!
# Messages of transit

Transit receives a descriptor and the `InputMetadata` of a file from the input daemon, and sends the
descriptor and the `FileMetadata` of the file to the output daemon. `parseMessages` makes the
`FileData` of a received message: every verdict starts as failed but the two of the side daemons,
which start as passed because the daemons are optional.

`FileMetadata` is declared twice in the source, in transit for the encoder and in the library for
the decoder. `FileMetadata.toReceived` goes from the one to the other field by field, and
`encode_toReceived` says that the two have the same bytes.
-/

set_option autoImplicit false
set_option relaxedAutoImplicit false

namespace Keysas.Transit

open Wire Wire.PrefixCodec Wire.Bincode

/-! ### Ancillary data -/

/-- The control messages that come with the bytes of a message. -/
inductive AncillaryData where
  | scmRights (fds : List ℕ)
  | scmCredentials
  deriving DecidableEq

/-- The descriptors of the control messages that can be read. -/
def receivedFds (messages : List (Option AncillaryData)) : List ℕ :=
  messages.flatMap fun
    | some (.scmRights fds) => fds
    | _ => []

/-! ### Metadata -/

/-- `InputMetadata`, which the input daemon calls `FileMetadata`. -/
structure InputMetadata where
  filename : String
  digest : String
  timestamp : String
  isCorrupted : Bool
  deriving DecidableEq

/-- The bincode format of `InputMetadata`. -/
def InputMetadata.codec : PrefixCodec InputMetadata :=
  (string.pair <| string.pair <| string.pair bool).imap
    (fun (filename, digest, timestamp, isCorrupted) ↦
      some ⟨filename, digest, timestamp, isCorrupted⟩)
    (fun metadata ↦
      (metadata.filename, metadata.digest, metadata.timestamp, metadata.isCorrupted))
    fun _ ↦ rfl

theorem InputMetadata.size_codec (metadata : InputMetadata) :
    codec.size metadata = stringSize metadata.filename +
      (stringSize metadata.digest + (stringSize metadata.timestamp + 1)) := by
  rw [← size_string, ← size_string, ← size_string]
  rfl

/-- The number of bytes that transit claims for the metadata of a message: 8 for the length of each
text, the bytes of the texts, and the flag. -/
def InputMetadata.claimed (metadata : InputMetadata) : ℕ :=
  (8 + metadata.filename.utf8ByteSize) + ((8 + metadata.digest.utf8ByteSize) +
    ((8 + metadata.timestamp.utf8ByteSize) + 1))

/-- The reader of `InputMetadata` under a limit. -/
def InputMetadata.reader : LimitedReader InputMetadata.codec :=
  (LimitedReader.string.pair <| LimitedReader.string.pair <|
    LimitedReader.string.pair LimitedReader.bool).imap claimed
    fun {_ _} hpack ↦ Option.some.inj hpack ▸ rfl

/-- Metadata that claim at most the size of the buffer of transit fit it. -/
theorem InputMetadata.size_le_of_claimed_le {metadata : InputMetadata}
    (hclaimed : metadata.claimed ≤ 4128) : codec.size metadata ≤ 4128 := by
  have hsize : ∀ count ≤ 4128, varintSize count ≤ 8 := by
    intro count hcount
    unfold varintSize
    split_ifs <;> omega
  rw [claimed] at hclaimed
  have hfilename := hsize metadata.filename.utf8ByteSize (by omega)
  have hdigest := hsize metadata.digest.utf8ByteSize (by omega)
  have htimestamp := hsize metadata.timestamp.utf8ByteSize (by omega)
  rw [size_codec, stringSize, stringSize, stringSize]
  omega

theorem InputMetadata.codec_encodesBelow {bound : ℕ} (hbound : bound ≤ 2 ^ 64) :
    codec.EncodesBelow bound := by
  have htext := string_encodesBelow hbound
  exact imap_encodesBelow (pair_encodesBelow htext <| pair_encodesBelow htext <|
    pair_encodesBelow htext (bool_encodesBelow bound)) _ _ _

/-- `FileMetadata`, as transit declares it. -/
structure FileMetadata where
  filename : String
  digest : String
  isDigestOk : Bool
  isToobig : Bool
  size : UInt64
  isTypeAllowed : Bool
  avPass : Bool
  avReport : List String
  yaraPass : Bool
  yaraReport : String
  timestamp : String
  isCorrupted : Bool
  fileType : String
  specializedPass : Bool
  specializedAnalyzer : String
  specializedSummary : String
  vtPass : Bool
  vtDetections : UInt32
  vtSummary : String
  deriving DecidableEq

/-- The bincode format of `FileMetadata`: its fields in the order of their declaration. -/
def FileMetadata.codec : PrefixCodec FileMetadata :=
  (string.pair <| string.pair <| bool.pair <| bool.pair <| u64.pair <| bool.pair <| bool.pair <|
    strings.pair <| bool.pair <| string.pair <| string.pair <| bool.pair <| string.pair <|
    bool.pair <| string.pair <| string.pair <| bool.pair <| u32.pair string).imap
    (fun (filename, digest, isDigestOk, isToobig, size, isTypeAllowed, avPass, avReport, yaraPass,
        yaraReport, timestamp, isCorrupted, fileType, specializedPass, specializedAnalyzer,
        specializedSummary, vtPass, vtDetections, vtSummary) ↦
      some ⟨filename, digest, isDigestOk, isToobig, size, isTypeAllowed, avPass, avReport, yaraPass,
        yaraReport, timestamp, isCorrupted, fileType, specializedPass, specializedAnalyzer,
        specializedSummary, vtPass, vtDetections, vtSummary⟩)
    (fun metadata ↦
      (metadata.filename, metadata.digest, metadata.isDigestOk, metadata.isToobig, metadata.size,
        metadata.isTypeAllowed, metadata.avPass, metadata.avReport, metadata.yaraPass,
        metadata.yaraReport, metadata.timestamp, metadata.isCorrupted, metadata.fileType,
        metadata.specializedPass, metadata.specializedAnalyzer, metadata.specializedSummary,
        metadata.vtPass, metadata.vtDetections, metadata.vtSummary))
    fun _ ↦ rfl

/-- The metadata as the output daemon declares it. -/
def FileMetadata.toReceived (metadata : FileMetadata) : Reports.FileMetadata where
  filename := metadata.filename
  digest := metadata.digest
  isDigestOk := metadata.isDigestOk
  isToobig := metadata.isToobig
  size := metadata.size
  isTypeAllowed := metadata.isTypeAllowed
  avPass := metadata.avPass
  avReport := metadata.avReport
  yaraPass := metadata.yaraPass
  yaraReport := metadata.yaraReport
  timestamp := metadata.timestamp
  isCorrupted := metadata.isCorrupted
  fileType := metadata.fileType
  specializedPass := metadata.specializedPass
  specializedAnalyzer := metadata.specializedAnalyzer
  specializedSummary := metadata.specializedSummary
  vtPass := metadata.vtPass
  vtDetections := metadata.vtDetections
  vtSummary := metadata.vtSummary

/-- The encoder of transit writes the bytes that the decoder of the output daemon reads. -/
theorem FileMetadata.encode_toReceived (metadata : FileMetadata) :
    Reports.FileMetadata.codec.encode metadata.toReceived = codec.encode metadata := rfl

/-- The number of bytes of metadata, field by field. -/
def FileMetadata.wireSize (metadata : FileMetadata) : ℕ :=
  stringSize metadata.filename + stringSize metadata.digest + varintSize metadata.size.toNat +
    (varintSize metadata.avReport.length + (metadata.avReport.map stringSize).sum) +
    stringSize metadata.yaraReport + stringSize metadata.timestamp + stringSize metadata.fileType +
    stringSize metadata.specializedAnalyzer + stringSize metadata.specializedSummary +
    varintSize metadata.vtDetections.toNat + stringSize metadata.vtSummary + 8

theorem FileMetadata.size_codec (metadata : FileMetadata) :
    codec.size metadata = metadata.wireSize := by
  have hsize : codec.size metadata =
      string.size metadata.filename + (string.size metadata.digest + (1 + (1 +
        (u64.size metadata.size + (1 + (1 + (strings.size metadata.avReport + (1 +
          (string.size metadata.yaraReport + (string.size metadata.timestamp + (1 +
            (string.size metadata.fileType + (1 + (string.size metadata.specializedAnalyzer +
              (string.size metadata.specializedSummary + (1 +
                (u32.size metadata.vtDetections +
                  string.size metadata.vtSummary))))))))))))))))) := rfl
  rw [hsize]
  simp only [size_string, size_u64, size_u32, size_strings, wireSize]
  ring

theorem FileMetadata.codec_size_pos (metadata : FileMetadata) : 0 < codec.size metadata := by
  rw [size_codec, wireSize]
  exact Nat.add_pos_right _ (by decide)

theorem FileMetadata.codec_encodesBelow {bound : ℕ} (hbound : bound ≤ 2 ^ 64) :
    codec.EncodesBelow bound := by
  have htext := string_encodesBelow hbound
  have hflag := bool_encodesBelow bound
  exact imap_encodesBelow (pair_encodesBelow htext <| pair_encodesBelow htext <|
    pair_encodesBelow hflag <| pair_encodesBelow hflag <|
    pair_encodesBelow (u64_encodesBelow bound) <| pair_encodesBelow hflag <|
    pair_encodesBelow hflag <|
    pair_encodesBelow (strings_encodesBelow hbound) <| pair_encodesBelow hflag <|
    pair_encodesBelow htext <| pair_encodesBelow htext <| pair_encodesBelow hflag <|
    pair_encodesBelow htext <| pair_encodesBelow hflag <| pair_encodesBelow htext <|
    pair_encodesBelow htext <| pair_encodesBelow hflag <|
    pair_encodesBelow (u32_encodesBelow bound) htext) _ _ _

/-! ### Received messages -/

/-- `FileData`: a descriptor and the metadata of its file. -/
structure FileData where
  fd : ℕ
  md : FileMetadata
  deriving DecidableEq

/-- The metadata before the checks. -/
def FileMetadata.ofInput (input : InputMetadata) : FileMetadata where
  filename := input.filename
  digest := input.digest
  isDigestOk := false
  isToobig := true
  size := 0
  isTypeAllowed := false
  avPass := false
  avReport := []
  yaraPass := false
  yaraReport := ""
  timestamp := input.timestamp
  isCorrupted := input.isCorrupted
  fileType := "Unknown"
  specializedPass := true
  specializedAnalyzer := ""
  specializedSummary := ""
  vtPass := true
  vtDetections := 0
  vtSummary := ""

/-- `parse_messages` of transit: one file for each descriptor, when the metadata can be decoded
under the limit of its configuration. -/
def parseMessages (messages : List (Option AncillaryData)) (buffer : List UInt8) :
    List FileData :=
  (receivedFds messages).filterMap fun fd ↦
    (decodeWithLimit 4128 InputMetadata.reader buffer).map fun decoded ↦
      ⟨fd, .ofInput decoded.1⟩

/-- Metadata within the limit of transit are read from its buffer. Assumes: the input daemon could
encode them. -/
theorem InputMetadata.decodeWithLimit_receiveInto {metadata : InputMetadata} {bytes : List UInt8}
    (hencode : InputMetadata.codec.encode metadata = some bytes)
    (hclaimed : metadata.claimed ≤ 4128) :
    decodeWithLimit 4128 InputMetadata.reader (receiveInto 4128 bytes) =
      some (metadata, List.replicate (4128 - bytes.length) 0) := by
  have hreader : InputMetadata.reader.claimed metadata = metadata.claimed := rfl
  have hfits : bytes.length ≤ 4128 := by
    rw [InputMetadata.codec.length_encode hencode]
    exact InputMetadata.size_le_of_claimed_le hclaimed
  rw [decodeWithLimit_eq, InputMetadata.codec.decode_receiveInto hencode hfits,
    Option.filter_some, hreader, if_pos (decide_eq_true hclaimed)]

/-- Transit makes one file of each descriptor of a message when it claims at most its limit for the
metadata, and none else. Metadata within the limit fit the buffer. Assumes: the input daemon could
encode the metadata. -/
theorem parseMessages_receiveInto {metadata : InputMetadata} {bytes : List UInt8}
    (hencode : InputMetadata.codec.encode metadata = some bytes)
    (messages : List (Option AncillaryData)) :
    parseMessages messages (receiveInto 4128 bytes) =
      if metadata.claimed ≤ 4128 then
        (receivedFds messages).map fun fd ↦ ⟨fd, .ofInput metadata⟩
      else [] := by
  have hreader : InputMetadata.reader.claimed = InputMetadata.claimed := rfl
  unfold parseMessages
  by_cases hclaimed : metadata.claimed ≤ 4128
  · rw [InputMetadata.decodeWithLimit_receiveInto hencode hclaimed, if_pos hclaimed]
    simp
  rw [decodeWithLimit_eq, hreader, if_neg hclaimed]
  by_cases hfits : bytes.length ≤ 4128
  · rw [InputMetadata.codec.decode_receiveInto hencode hfits]
    simp [Option.filter, hclaimed]
  · rw [InputMetadata.codec.decode_receiveInto_of_lt hencode (Nat.lt_of_not_le hfits)]
    simp

end Keysas.Transit
