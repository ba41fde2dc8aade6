import Keysas.Analyze.PdfScan
import Keysas.Transit.CheckFiles
import Keysas.VirusTotal.Lookup
import Mathlib.Algebra.Order.BigOperators.Group.List

/-!
# The verdict on PDF documents

The summary of the analyzer of PDF documents names each keyword at most once, so that it is short
whatever the document is. `refused_iff_of_pdf` says what follows for transit: unlike the refusal of
an archive, that of a PDF document always arrives. `not_occurs_of_cleared` says what a document is
that passes all checks.
-/

set_option autoImplicit false
set_option relaxedAutoImplicit false

namespace Keysas.Transit

open RustStd Wire Wire.PrefixCodec Wire.Bincode Keysas.Analyze

/-! ### The size of a summary -/

theorem utf8ByteSize_intercalate_le (pieces : List String) :
    ("; ".intercalate pieces).utf8ByteSize ≤
      (pieces.map fun piece ↦ piece.utf8ByteSize + 2).sum := by
  have hseparator : "; ".utf8ByteSize = 2 := rfl
  induction pieces with
  | nil => exact Nat.le_refl 0
  | cons piece pieces ih =>
    rw [List.map_cons, List.sum_cons]
    cases pieces with
    | nil =>
      rw [String.intercalate_singleton]
      omega
    | cons next rest =>
      rw [String.intercalate_cons_cons, String.utf8ByteSize_append, String.utf8ByteSize_append]
      omega

theorem utf8ByteSize_summaryOf_le (nothing : String) (blocking info : List String) :
    (summaryOf nothing blocking info).utf8ByteSize ≤ nothing.utf8ByteSize + 15 +
      (blocking.map fun piece ↦ piece.utf8ByteSize + 2).sum +
        (info.map fun piece ↦ piece.utf8ByteSize + 2).sum := by
  have hblocking := utf8ByteSize_intercalate_le blocking
  have hinfo := utf8ByteSize_intercalate_le info
  have hfirst : "info: ".utf8ByteSize = 6 := rfl
  have hsecond : "ALERT: ".utf8ByteSize = 7 := rfl
  have hthird : "; info: ".utf8ByteSize = 8 := rfl
  unfold summaryOf
  split
  · omega
  · rw [String.utf8ByteSize_append]
    omega
  · rw [String.utf8ByteSize_append]
    omega
  · rw [String.utf8ByteSize_append, String.utf8ByteSize_append, String.utf8ByteSize_append]
    omega

/-- What is said about the pages of a document of less than 2^64 bytes is short. -/
theorem utf8ByteSize_pageInfo_le {pages : ℕ} (hpages : pages < 2 ^ 64) :
    ((Pdf.pageInfo pages).map fun piece ↦ piece.utf8ByteSize + 2).sum ≤ 100 := by
  have hdigits : (Nat.toDigits 10 pages).length ≤ 20 :=
    Nat.toDigits_length 10 pages 20 (by decide) (hpages.trans (by decide))
  have hbytes := VirusTotal.utf8ByteSize_ofList_le (Nat.toDigits 10 pages)
  have hnumber : (toString pages).utf8ByteSize ≤ 80 := by
    show (String.ofList (Nat.toDigits 10 pages)).utf8ByteSize ≤ 80
    omega
  have hfirst : "~".utf8ByteSize = 1 := rfl
  have hlast : " /Page object(s)".utf8ByteSize = 16 := rfl
  unfold Pdf.pageInfo
  split_ifs
  · simp only [List.map_cons, List.map_nil, List.sum_cons, List.sum_nil, String.utf8ByteSize_append]
    omega
  · exact Nat.zero_le 100

/-- A sublist of a table of keywords has no more bytes than the table. -/
theorem sum_le_of_sublist {findings table : List String} (hsublist : findings.Sublist table) :
    (findings.map fun piece ↦ piece.utf8ByteSize + 2).sum ≤
      (table.map fun piece ↦ piece.utf8ByteSize + 2).sum :=
  (hsublist.map _).sum_le_sum fun _ _ ↦ Nat.zero_le _

/-- The pages that are counted are at most as many as the bytes. -/
theorem count_le_length {needle text : List UInt8} {count : ℕ} (hneedle : needle ≠ [])
    (hoccurs : OccursTimes needle count text) : count ≤ text.length := by
  have hlength := List.length_pos_iff.mpr hneedle
  induction hoccurs with
  | zero => exact Nat.zero_le _
  | behind gap hrest ih =>
    rw [List.length_append, List.length_append]
    omega

theorem utf8ByteSize_pdf_le {content : List UInt8} (hcontent : content.length < 2 ^ 64)
    (filename tmpDir : String) :
    (Pdf.analyze (.content content) filename tmpDir).2.utf8ByteSize ≤ 400 := by
  obtain ⟨blocking, info, pages, hanalyze, hblocking, hinfo, -, -, hpages⟩ :=
    Pdf.analyze_content content filename tmpDir
  have hcount := count_le_length (by decide) ((hpages pages).mpr (Nat.le_refl pages))
  have hsummary := utf8ByteSize_summaryOf_le "no suspicious objects" blocking
    (info ++ Pdf.pageInfo pages)
  rw [List.map_append, List.sum_append] at hsummary
  have hpageInfo := utf8ByteSize_pageInfo_le (Nat.lt_of_le_of_lt hcount hcontent)
  have hfirst := sum_le_of_sublist hblocking
  have hsecond := sum_le_of_sublist hinfo
  have hblockingTable :
      (Pdf.blockingKeywords.map fun piece ↦ piece.utf8ByteSize + 2).sum = 72 := rfl
  have hinfoTable : (Pdf.infoKeywords.map fun piece ↦ piece.utf8ByteSize + 2).sum = 50 := rfl
  have hnothing : "no suspicious objects".utf8ByteSize = 21 := rfl
  rw [hanalyze]
  show (summaryOf "no suspicious objects" blocking (info ++ Pdf.pageInfo pages)).utf8ByteSize ≤ 400
  omega

/-! ### What transit hears -/

variable {analyzers : Analyzers} {tmpDir : String}

/-- The daemon uses the analyzer of PDF documents. -/
def ScansPdf (analyzers : Analyzers) : Prop :=
  ∀ content filename tmpDir,
    analyzers.pdf content filename tmpDir = Pdf.analyze (.content content) filename tmpDir

/-- The answer of the daemon about a document is what its analyzer says. -/
theorem callSpecializedAnalyzer_of_pdf (hscans : ScansPdf analyzers) {content : List UInt8}
    (hcontent : content.length < 2 ^ 64) {filename fileType : String}
    (hcategory : detectCategory analyzers.tables filename fileType = .pdf)
    (hreceived : AnalyzeRequest.codec.size ⟨filename, fileType⟩ ≤ 4096) :
    callSpecializedAnalyzer (analyzeDaemon analyzers tmpDir content) filename fileType =
      ((Pdf.analyze (.content content) filename tmpDir).1, "pdfid",
        (Pdf.analyze (.content content) filename tmpDir).2) := by
  have hsummary := utf8ByteSize_pdf_le hcontent filename tmpDir
  have hdispatch : dispatch analyzers tmpDir content filename fileType =
      .ofResult "pdfid" (Pdf.analyze (.content content) filename tmpDir) := by
    unfold dispatch
    simp only [hcategory, hscans content filename tmpDir]
  have hsize : AnalyzeResponse.codec.size
      (dispatch analyzers tmpDir content filename fileType) ≤ 4096 := by
    have hname : stringSize "pdfid" = 6 := rfl
    have hvarint := varintSize_le
      (Pdf.analyze (.content content) filename tmpDir).2.utf8ByteSize
    rw [hdispatch, AnalyzeResponse.size_codec]
    show 2 + stringSize "pdfid" +
      stringSize (Pdf.analyze (.content content) filename tmpDir).2 ≤ 4096
    rw [hname, stringSize]
    omega
  obtain ⟨reply, hreply⟩ := AnalyzeResponse.codec_encodesBelow (Nat.le_refl (2 ^ 64))
    (dispatch analyzers tmpDir content filename fileType) (Nat.lt_of_le_of_lt hsize (by decide))
  rw [callSpecializedAnalyzer_of_ask (ask_analyzeDaemon hreceived hreply) hreply, if_pos hsize,
    hdispatch]
  rfl

/-- Transit hears that a document is refused exactly when a blocking keyword occurs in it. -/
theorem refused_iff_of_pdf (hscans : ScansPdf analyzers) {content : List UInt8}
    (hcontent : content.length < 2 ^ 64) {filename fileType : String}
    (hcategory : detectCategory analyzers.tables filename fileType = .pdf)
    (hreceived : AnalyzeRequest.codec.size ⟨filename, fileType⟩ ≤ 4096) :
    (callSpecializedAnalyzer (analyzeDaemon analyzers tmpDir content) filename fileType).1 = false ↔
      ∃ keyword ∈ Pdf.blockingKeywords, utf8 keyword <:+: content := by
  rw [callSpecializedAnalyzer_of_pdf hscans hcontent hcategory hreceived]
  exact Pdf.refuses_iff content filename tmpDir

/-- A daemon with the analyzer of PDF documents. -/
def pdfAnalyzers : Analyzers :=
  { encryptedZipAnalyzers "" with
    pdf := fun content filename tmpDir ↦ Pdf.analyze (.content content) filename tmpDir }

theorem refused_iff_of_pdf_launch :
    (callSpecializedAnalyzer (analyzeDaemon pdfAnalyzers "/run/keysas-analyze"
        (utf8 "%PDF-1.7 /Launch")) "a.pdf" "application/pdf").1 = false ↔
      ∃ keyword ∈ Pdf.blockingKeywords, utf8 keyword <:+: utf8 "%PDF-1.7 /Launch" :=
  refused_iff_of_pdf (fun _ _ _ ↦ rfl) (by decide) (by decide +kernel) (by decide)

/-- A document that is cleared with the analysis daemon has no blocking keyword. -/
theorem not_occurs_of_cleared (hscans : ScansPdf analyzers) {content : List UInt8}
    (hcontent : content.length < 2 ^ 64) {tools : TypeTools} {conf : Configuration}
    {scans : FileScans} {input : InputMetadata} {yaraRequired : Prop}
    (hconfigured : conf.socketAnalyze = true)
    (hdaemon : scans.analyze = analyzeDaemon analyzers tmpDir content)
    (hcategory : detectCategory analyzers.tables input.filename (detectedType tools scans) = .pdf)
    (hreceived :
      AnalyzeRequest.codec.size ⟨input.filename, detectedType tools scans⟩ ≤ 4096)
    (hcleared : Cleared tools conf scans yaraRequired input) :
    ∀ keyword ∈ Pdf.blockingKeywords, ¬ utf8 keyword <:+: content := by
  intro keyword hkeyword hoccurs
  have hverdict := hcleared.specialized
  have hrefused := (Pdf.refuses_iff content input.filename tmpDir).mpr ⟨keyword, hkeyword, hoccurs⟩
  rw [specializedVerdict, if_pos hconfigured, hdaemon,
    callSpecializedAnalyzer_of_pdf hscans hcontent hcategory hreceived] at hverdict
  exact absurd (hrefused.symm.trans hverdict) Bool.false_ne_true

end Keysas.Transit
