import Keysas.Analyze.ArchiveScan

/-!
# The analysis daemon

`detectCategory` chooses an analyzer by the extension and the detected type of a file, `dispatch`
runs it, and `serve` is what the daemon does with one connection: it reads the request into a
buffer of 4096 bytes, analyzes the file whose descriptor came with it, and answers.

The analyzers other than that of archives are parameters.
-/

set_option autoImplicit false
set_option relaxedAutoImplicit false

namespace Keysas.Analyze

open RustStd Wire Wire.PrefixCodec Wire.Bincode

/-! ### Messages -/

/-- `AnalyzeRequest`. -/
structure AnalyzeRequest where
  filename : String
  fileType : String
  deriving DecidableEq

/-- `AnalyzeResponse`. -/
structure AnalyzeResponse where
  performed : Bool
  passed : Bool
  analyzer : String
  summary : String
  deriving DecidableEq

/-- The bincode format of a request. -/
def AnalyzeRequest.codec : PrefixCodec AnalyzeRequest :=
  (string.pair string).imap (fun (filename, fileType) ↦ some ⟨filename, fileType⟩)
    (fun request ↦ (request.filename, request.fileType)) fun _ ↦ rfl

/-- The bincode format of a response. -/
def AnalyzeResponse.codec : PrefixCodec AnalyzeResponse :=
  (bool.pair <| bool.pair <| string.pair string).imap
    (fun (performed, passed, analyzer, summary) ↦ some ⟨performed, passed, analyzer, summary⟩)
    (fun response ↦ (response.performed, response.passed, response.analyzer, response.summary))
    fun _ ↦ rfl

@[simp] theorem AnalyzeRequest.size_codec (request : AnalyzeRequest) :
    codec.size request = stringSize request.filename + stringSize request.fileType := by
  rw [← size_string, ← size_string]
  rfl

@[simp] theorem AnalyzeResponse.size_codec (response : AnalyzeResponse) :
    codec.size response = 2 + stringSize response.analyzer + stringSize response.summary := by
  have hsize : codec.size response =
      1 + (1 + (string.size response.analyzer + string.size response.summary)) := rfl
  rw [hsize, size_string, size_string]
  omega

theorem AnalyzeRequest.codec_encodesBelow {bound : ℕ} (hbound : bound ≤ 2 ^ 64) :
    codec.EncodesBelow bound :=
  imap_encodesBelow (pair_encodesBelow (string_encodesBelow hbound) (string_encodesBelow hbound))
    _ _ _

theorem AnalyzeResponse.codec_encodesBelow {bound : ℕ} (hbound : bound ≤ 2 ^ 64) :
    codec.EncodesBelow bound :=
  imap_encodesBelow (pair_encodesBelow (bool_encodesBelow bound) <|
    pair_encodesBelow (bool_encodesBelow bound) <|
      pair_encodesBelow (string_encodesBelow hbound) (string_encodesBelow hbound)) _ _ _

/-! ### Categories -/

/-- The categories of files. -/
inductive Category where
  | lnk
  | office
  | pdf
  | pe
  | script
  | archive
  | iso
  | unknown
  deriving DecidableEq

/-- `detect_category`. -/
def detectCategory (tables : UnicodeTables) (filename fileType : String) : Category :=
  let ext := toLowercase tables ((extension filename).getD "")
  let ft := toLowercase tables fileType
  if ext = "lnk" then .lnk
  else if ext ∈ ["doc", "docx", "xls", "xlsx", "ppt", "pptx", "rtf"] || contains ft "msoffice" ||
      contains ft "openxmlformats" || contains ft "ms-excel" || contains ft "ms-powerpoint" ||
      contains ft "msword" || contains ft "rtf" then .office
  else if ext = "pdf" || contains ft "pdf" then .pdf
  else if ext ∈ ["exe", "dll", "com", "efi", "msi"] || contains ft "x-dosexec" ||
      contains ft "x-msdos-program" || contains ft "x-msdownload" ||
      contains ft "x-executable" then .pe
  else if ext ∈ ["ps1", "vbs", "vbe", "bat", "sh", "py", "js", "hta", "jnlp"] then .script
  else if ext ∈ ["zip", "jar", "war", "ear", "tar", "gz", "tgz", "bz2", "tbz2", "xz", "txz"] ||
      contains ft "application/zip" || contains ft "application/x-tar" ||
      contains ft "application/gzip" || contains ft "application/x-bzip2" ||
      contains ft "application/x-xz" || contains ft "application/x-gzip" then .archive
  else if ext = "iso" || contains ft "iso9660" || contains ft "x-iso" then .iso
  else .unknown

/-! ### Dispatch -/

/-- An analyzer: the verdict and the summary for a content, a file name and the directory for
temporary files. -/
abbrev Analyzer := List UInt8 → String → String → Bool × String

/-- The analyzers of the daemon, and what that of archives uses. -/
structure Analyzers where
  tables : UnicodeTables
  tools : ArchiveTools
  office : Analyzer
  pdf : Analyzer
  pe : Analyzer
  script : List UInt8 → String → Bool × String
  lnk : List UInt8 → String → Bool × String
  iso : Analyzer

/-- The response of an analyzer. -/
def AnalyzeResponse.ofResult (analyzer : String) (result : Bool × String) : AnalyzeResponse where
  performed := true
  passed := result.1
  analyzer := analyzer
  summary := result.2

/-- The response without an analysis, which lets the file pass. -/
def AnalyzeResponse.failOpen : AnalyzeResponse where
  performed := false
  passed := true
  analyzer := ""
  summary := ""

variable (analyzers : Analyzers) (tmpDir : String)

/-- `dispatch`. -/
def dispatch (content : List UInt8) (filename fileType : String) : AnalyzeResponse :=
  match detectCategory analyzers.tables filename fileType with
  | .office => .ofResult "office-native" (analyzers.office content filename tmpDir)
  | .pdf => .ofResult "pdfid" (analyzers.pdf content filename tmpDir)
  | .pe => .ofResult "goblin" (analyzers.pe content filename tmpDir)
  | .script => .ofResult "script-patterns" (analyzers.script content filename)
  | .lnk => .ofResult "lnk-parser" (analyzers.lnk content filename)
  | .archive =>
    .ofResult "archive-scanner"
      (analyzeArchive analyzers.tables analyzers.tools content filename tmpDir)
  | .iso => .ofResult "iso-scanner" (analyzers.iso content filename tmpDir)
  | .unknown => .failOpen

/-! ### Connections -/

/-- `send_response`: the bytes that are sent, unless the response cannot be encoded. -/
def sendResponse (response : AnalyzeResponse) : Option (List UInt8) :=
  AnalyzeResponse.codec.encode response

/-- One round of the main loop: a message, and the content of the file whose descriptor came with
it, to the bytes that are sent back, if any. An empty message is a closed connection. -/
def serve (message : List UInt8) (fd : Option (List UInt8)) : Option (List UInt8) :=
  if message = [] then none
  else
    match fd with
    | none => sendResponse .failOpen
    | some content =>
      match AnalyzeRequest.codec.decode (receiveInto 4096 message) with
      | none => sendResponse .failOpen
      | some (request, _) =>
        sendResponse (dispatch analyzers tmpDir content request.filename request.fileType)

/-- A request that fits the buffer is answered with what `dispatch` returns. Assumes: the request
takes at most 4096 bytes. -/
theorem serve_request {filename fileType : String} {message content : List UInt8}
    (hrequest : AnalyzeRequest.codec.encode ⟨filename, fileType⟩ = some message)
    (hreceived : AnalyzeRequest.codec.size ⟨filename, fileType⟩ ≤ 4096) :
    serve analyzers tmpDir message (some content) =
      sendResponse (dispatch analyzers tmpDir content filename fileType) := by
  have hlength := AnalyzeRequest.codec.length_encode hrequest
  have hnonempty : message ≠ [] := by
    rintro rfl
    have hpositive := one_le_varintSize filename.utf8ByteSize
    simp only [List.length_nil, AnalyzeRequest.size_codec, stringSize] at hlength
    omega
  have hdecoded := AnalyzeRequest.codec.decode_receiveInto hrequest (hlength ▸ hreceived)
  unfold serve
  rw [if_neg hnonempty, hdecoded]

/-! ### Refused ZIP files -/

/-- A ZIP file with an encrypted entry behind entries that are not refused gets a response that
names the entry. -/
theorem dispatch_encrypted_entry {content : List UInt8} {filename fileType name : String}
    {before after : List ZipEntry} {opened : Option OpenZipEntry}
    (hcategory : detectCategory analyzers.tables filename fileType = .archive)
    (hname : ∀ suffix ∈ otherSuffixes,
      endsWith (toLowercase analyzers.tables filename) suffix = false)
    (hwritten : ∀ path, analyzers.tools.writeTmp path content = true)
    (hopened : ∀ path, analyzers.tools.openError path = none)
    (hentries : analyzers.tools.zipEntries content =
      .ok (before ++ ⟨some ⟨false, true, name⟩, opened⟩ :: after))
    (hbefore : ∀ other ∈ before, zipEntryRefusal analyzers.tables other = none) :
    dispatch analyzers tmpDir content filename fileType =
      .ofResult "archive-scanner" (false, "encrypted entry: " ++ name) := by
  unfold dispatch analyzeArchive
  simp only [hcategory, hwritten, if_true, analyzePath_eq_analyzeZip hname]
  rw [analyzeZip_eq_of_refusal (hopened _) hentries hbefore rfl]

/-- A ZIP file with one encrypted entry of no bytes: its local header, the 12 bytes of the
encryption, the central directory and the end of the directory. -/
def encryptedZip (name : List UInt8) : List UInt8 :=
  [0x50, 0x4B, 0x03, 0x04, 0x14, 0, 1, 0, 0, 0, 0, 0, 0x21, 0, 0, 0, 0, 0, 12, 0, 0, 0, 0, 0, 0,
    0] ++
    littleEndianBytes 2 name.length ++ [0, 0] ++ name ++ List.replicate 12 0 ++
  [0x50, 0x4B, 0x01, 0x02, 0x14, 0, 0x14, 0, 1, 0, 0, 0, 0, 0, 0x21, 0, 0, 0, 0, 0, 12, 0, 0, 0, 0,
    0, 0, 0] ++ littleEndianBytes 2 name.length ++ List.replicate 16 0 ++ name ++
  [0x50, 0x4B, 0x05, 0x06, 0, 0, 0, 0, 1, 0, 1, 0] ++ littleEndianBytes 4 (46 + name.length) ++
    littleEndianBytes 4 (42 + name.length) ++ [0, 0]

/-- A daemon whose ZIP reader knows one file with one encrypted entry. -/
def encryptedZipAnalyzers (name : String) : Analyzers where
  tables := asciiTables
  tools :=
    { writeTmp := fun _ _ ↦ true
      openError := fun _ ↦ none
      zipEntries := fun content ↦
        if content = encryptedZip (utf8 name) then .ok [⟨some ⟨false, true, name⟩, none⟩]
        else .error "invalid Zip archive: Could not find EOCD"
      tarEntries := fun _ _ ↦ .ok []
      firstBytes := fun _ _ ↦ none }
  office _ _ _ := (true, "")
  pdf _ _ _ := (true, "")
  pe _ _ _ := (true, "")
  script _ _ := (true, "")
  lnk _ _ := (true, "")
  iso _ _ _ := (true, "")

theorem dispatch_encryptedZip (name : String) :
    dispatch (encryptedZipAnalyzers name) tmpDir (encryptedZip (utf8 name)) "a.zip"
        "application/zip" =
      .ofResult "archive-scanner" (false, "encrypted entry: " ++ name) := by
  have hcategory : detectCategory asciiTables "a.zip" "application/zip" = .archive := by
    decide +kernel
  have hname : ∀ suffix ∈ otherSuffixes,
      endsWith (toLowercase asciiTables "a.zip") suffix = false := by
    decide +kernel
  have hentries : (encryptedZipAnalyzers name).tools.zipEntries (encryptedZip (utf8 name)) =
      .ok ([] ++ ⟨some ⟨false, true, name⟩, none⟩ :: []) := by
    simp only [encryptedZipAnalyzers, if_true, List.nil_append]
  exact dispatch_encrypted_entry (encryptedZipAnalyzers name) tmpDir hcategory hname
    (fun _ ↦ rfl) (fun _ ↦ rfl) hentries fun _ hother ↦ absurd hother List.not_mem_nil

end Keysas.Analyze
