import Keysas.Minifilter.HandlerRuns
import Keysas.Rust.Utf16

/-!
# File names in requests

The minifilter puts the identifier of a file and its name behind each other in the content of a
request, and the daemon takes both apart again. The name is any run of 16-bit units without a zero
unit, and the daemon makes a text of it with `from_utf16_lossy`.

`judgedAsOpened_iff` says for any two files whether the daemon judges each by its own identifier and
name, and under paths that differ where the names do. It does when both of the names are well formed
UTF-16. A surrogate that stands alone is read as U+FFFD, so that `loneSurrogates_not_judged` has two
names that are judged under one path.
-/

set_option autoImplicit false
set_option relaxedAutoImplicit false

namespace Keysas.Minifilter

open Firewall RustStd Runs

/-! ### Decoding names -/

theorem toNat_charOfNat {code : ℕ} (hvalid : code.isValidChar) :
    (Char.ofNat code).toNat = code := by
  rw [Char.ofNat, dif_pos hvalid]
  rfl

theorem isSurrogate_eq (unit : UInt16) :
    isSurrogate unit = (isLeadingSurrogate unit || isTrailingSurrogate unit) := by
  rw [Bool.eq_iff_iff]
  simp [isSurrogate, isLeadingSurrogate, isTrailingSurrogate, UInt16.le_iff_toNat_le,
    UInt16.lt_iff_toNat_lt]
  omega

/-- A unit that is no surrogate encodes its own character. -/
theorem encodeUtf16Char_ofNat {unit : UInt16} (hunit : isSurrogate unit = false) :
    encodeUtf16Char (Char.ofNat unit.toNat) = [unit] := by
  have hbound := unit.toNat_lt
  have hvalid : unit.toNat.isValidChar := by
    simp [isSurrogate, UInt16.le_iff_toNat_le] at hunit
    rw [Nat.isValidChar]
    omega
  rw [encodeUtf16Char, toNat_charOfNat hvalid, if_pos hbound]
  simp

/-- The two halves of a pair encode its character. -/
theorem encodeUtf16Char_pair {leading trailing : UInt16}
    (hleading : isLeadingSurrogate leading) (htrailing : isTrailingSurrogate trailing) :
    encodeUtf16Char
      (Char.ofNat (0x10000 + (leading.toNat - 0xD800) * 0x400 + (trailing.toNat - 0xDC00))) =
        [leading, trailing] := by
  simp [isLeadingSurrogate, UInt16.le_iff_toNat_le, UInt16.lt_iff_toNat_lt] at hleading
  simp [isTrailingSurrogate, UInt16.le_iff_toNat_le] at htrailing
  set code := 0x10000 + (leading.toNat - 0xD800) * 0x400 + (trailing.toNat - 0xDC00) with hcode
  have hvalid : code.isValidChar := by
    rw [Nat.isValidChar]
    omega
  have hquotient : 0xD800 + (code - 0x10000) / 0x400 = leading.toNat := by omega
  have hremainder : 0xDC00 + (code - 0x10000) % 0x400 = trailing.toNat := by omega
  rw [encodeUtf16Char, toNat_charOfNat hvalid, if_neg (by omega), hquotient, hremainder]
  simp

/-- What `from_utf16_lossy` reads as a pair consists of two halves. -/
theorem pair_of_utf16Chars {unit next : UInt16} (hunit : ¬(!isSurrogate unit) = true)
    (hpair : (unit < 0xDC00 && 0xDC00 ≤ next && next ≤ 0xDFFF) = true) :
    isLeadingSurrogate unit ∧ isTrailingSurrogate next := by
  simp [isSurrogate] at hunit
  simp [isLeadingSurrogate, isTrailingSurrogate] at hpair ⊢
  exact ⟨⟨hunit.1, hpair.1.1⟩, hpair.1.2, hpair.2⟩

/-- The characters of well formed units encode to the units. -/
theorem encodeUtf16_utf16Chars {units : List UInt16} (hunits : wellFormedUtf16 units) :
    encodeUtf16 (String.ofList (utf16Chars units)) = units := by
  induction units using utf16Chars.induct with
  | case1 => rfl
  | case2 unit =>
    have hunit : isSurrogate unit = false := by
      simpa [isSurrogate_eq, wellFormedUtf16] using hunits
    rw [utf16Chars, if_neg (by simp [hunit]), encodeUtf16_ofList_cons, encodeUtf16_ofList_nil,
      encodeUtf16Char_ofNat hunit, List.append_nil]
  | case3 unit next rest hunit ih =>
    have hsurrogate : isSurrogate unit = false := by simpa using hunit
    have hhalves : isLeadingSurrogate unit = false ∧ isTrailingSurrogate unit = false := by
      simpa [isSurrogate_eq] using hsurrogate
    rw [wellFormedUtf16_cons hhalves.1 hhalves.2] at hunits
    rw [utf16Chars, if_pos hunit, encodeUtf16_ofList_cons, encodeUtf16Char_ofNat hsurrogate,
      ih hunits, List.singleton_append]
  | case4 unit next rest hunit hpair ih =>
    obtain ⟨hleading, htrailing⟩ := pair_of_utf16Chars hunit hpair
    rw [wellFormedUtf16, if_pos hleading, htrailing, Bool.true_and] at hunits
    rw [utf16Chars, if_neg hunit, if_pos hpair, encodeUtf16_ofList_cons,
      encodeUtf16Char_pair hleading htrailing, ih hunits]
    rfl
  | case5 unit next rest hunit hpair ih =>
    rw [wellFormedUtf16] at hunits
    split_ifs at hunits with hleading
    · have htrailing : isTrailingSurrogate next := (Bool.and_eq_true_iff.mp hunits).1
      refine absurd ?_ hpair
      simp [isLeadingSurrogate, isTrailingSurrogate] at hleading htrailing ⊢
      exact ⟨⟨hleading.2, htrailing.1⟩, htrailing.2⟩
    · have hnone : isTrailingSurrogate unit = false := by
        simpa using (Bool.and_eq_true_iff.mp hunits).1
      simp [isSurrogate_eq, hleading, hnone] at hunit

/-- A text with the units of a name encodes to the name exactly when the name is well formed. -/
theorem encodeUtf16_fromUtf16Lossy_eq_iff {units : List UInt16} :
    encodeUtf16 (fromUtf16Lossy units) = units ↔ wellFormedUtf16 units := by
  constructor
  · intro hunits
    rw [← hunits]
    exact wellFormedUtf16_encodeUtf16 _
  · exact encodeUtf16_utf16Chars

/-! ### Taking a request apart -/

theorem toNat_unit (low high : UInt8) :
    (low.toUInt16 ||| high.toUInt16 <<< 8).toNat = high.toNat * 256 + low.toNat := by
  have hlow := low.toNat_lt
  have hhigh := high.toNat_lt
  have hsum := Nat.two_pow_add_eq_or_of_lt hlow high.toNat
  rw [UInt16.toNat_or, UInt16.toNat_shiftLeft]
  simp [Nat.shiftLeft_eq]
  rw [Nat.mod_eq_of_lt (by omega), Nat.or_comm, Nat.mul_comm high.toNat 256, ← hsum]

/-- The bytes of a unit are the two that it was made of. -/
theorem bytesOfUnits_singleton (low high : UInt8) :
    bytesOfUnits [low.toUInt16 ||| high.toUInt16 <<< 8] = [low, high] := by
  have hunit := toNat_unit low high
  have hlow := low.toNat_lt
  have hhigh := high.toNat_lt
  simp only [bytesOfUnits, List.flatMap_cons, List.flatMap_nil, List.append_nil]
  congr 1
  · apply UInt8.toNat_inj.mp
    rw [UInt16.toNat_toUInt8, hunit]
    omega
  · congr 1
    apply UInt8.toNat_inj.mp
    rw [UInt16.toNat_toUInt8, UInt16.toNat_shiftRight, hunit]
    simp [Nat.shiftRight_eq_div_pow]
    omega

/-- A buffer of an even length is got back from its units, which are half as many. -/
theorem bytesOfUnits_unitsOfBytes {bytes : List UInt8} {count : ℕ}
    (hlength : bytes.length = 2 * count) :
    bytesOfUnits (unitsOfBytes bytes) = bytes ∧ (unitsOfBytes bytes).length = count := by
  induction count generalizing bytes with
  | zero =>
    rw [List.length_eq_zero_iff.mp hlength]
    exact ⟨rfl, rfl⟩
  | succ count ih =>
    match bytes with
    | low :: high :: rest =>
      have hrest : rest.length = 2 * count := by simpa [Nat.mul_add] using hlength
      obtain ⟨hbytes, hcount⟩ := ih hrest
      constructor
      · have hsingleton := bytesOfUnits_singleton low high
        rw [unitsOfBytes, bytesOfUnits, List.flatMap_cons]
        rw [bytesOfUnits, List.flatMap_singleton] at hsingleton
        rw [hsingleton, ← bytesOfUnits, hbytes]
        rfl
      · rw [unitsOfBytes, List.length_cons, hcount]

/-- What is received is what was sent and then zeros. -/
theorem receivedContent_eq {content : List UInt16} (hlength : content.length ≤ 1024) :
    receivedContent content = content ++ List.replicate (1024 - content.length) 0 := by
  rw [receivedContent, List.take_append, List.take_of_length_le hlength, List.take_replicate,
    Nat.min_eq_left (Nat.sub_le _ _)]

/-- The daemon finds the identifier, and the name as far as it can be read. -/
theorem scannedFile_fileContent {fileId : List UInt8} {fileName : List UInt16}
    (hlength : fileId.length = 32) (hname : 0 ∉ fileName) (hfits : nameFits fileName) :
    scannedFile (fileContent fileId fileName) = ⟨fileId, fromUtf16Lossy fileName⟩ := by
  have hhalf : fileId.length = 2 * 16 := hlength
  obtain ⟨hbytes, hcount⟩ := bytesOfUnits_unitsOfBytes hhalf
  have hbound : fileName.length ≤ 1007 := by
    simp [nameFits, keysasRequestBufferSize] at hfits
    omega
  have hzeros : 1024 - (unitsOfBytes fileId ++ fileName).length =
      (1007 - fileName.length) + 1 := by
    rw [List.length_append, hcount]
    omega
  have hreceived : receivedContent (fileContent fileId fileName) =
      unitsOfBytes fileId ++ (fileName ++ 0 :: List.replicate (1007 - fileName.length) 0) := by
    rw [fileContent, receivedContent_eq (by rw [List.length_append, hcount]; omega), hzeros,
      List.replicate_succ, List.append_assoc]
  have hunits : (fileName ++ 0 :: List.replicate (1007 - fileName.length) 0).takeWhile
      (fun unit : UInt16 ↦ unit ≠ 0) = fileName := by
    rw [List.takeWhile_append_of_pos]
    · simp
    · intro unit hunit
      simpa using ne_of_mem_of_not_mem hunit hname
  rw [scannedFile, hreceived, List.take_left' hcount, List.drop_left' hcount, hunits, hbytes]

/-! ### Two files -/

/-- A file for which the minifilter sends a request. -/
structure FileScan (ν φ : Type) [DecidableEq φ] where
  state : FilterState ν φ
  input : FileOpen ν φ
  operation : KeysasFilterOperation
  /-- The buffer `FileID` of the context. -/
  fileId : List UInt8
  hasFileId : state.fileId input.file = some fileId
  length_fileId : fileId.length = 32
  /-- A name ends before the first zero unit. -/
  zero_notMem : 0 ∉ input.fileName
  /-- The request that `keysasScanFileInUserMode` sends. -/
  request : DriverRequest
  isSent : .sent request ∈ ((keysasScanFileInUserMode input operation).run state).trace

section FileScan

variable {ν φ : Type} [DecidableEq φ]

namespace FileScan

/-- The daemon judges the file by its own identifier and name. -/
def JudgedAsOpened (scan : FileScan ν φ) : Prop :=
  (scannedFile scan.request.content).id = scan.fileId ∧
    encodeUtf16 (scannedFile scan.request.content).path = scan.input.fileName

/-- A request is sent for a name that fits, with the identifier and the name. -/
theorem nameFits_and_content (scan : FileScan ν φ) :
    nameFits scan.input.fileName ∧
      scan.request.content = fileContent scan.fileId scan.input.fileName := by
  have hsent := scan.isSent
  rw [run_keysasScanFileInUserMode, scanResult] at hsent
  split_ifs at hsent with hbuilt hreplied
  · have hrequest : scan.request = driverRequestFor scan.state scan.input scan.operation := by
      simpa using hsent
    refine ⟨(Bool.and_eq_true_iff.mp hbuilt).2, ?_⟩
    rw [hrequest, driverRequestFor, scan.hasFileId, Option.getD_some]
  · have hrequest : scan.request = driverRequestFor scan.state scan.input scan.operation := by
      simpa using hsent
    refine ⟨(Bool.and_eq_true_iff.mp hbuilt).2, ?_⟩
    rw [hrequest, driverRequestFor, scan.hasFileId, Option.getD_some]
  · cases hsent

theorem scannedFile_request (scan : FileScan ν φ) :
    scannedFile scan.request.content = ⟨scan.fileId, fromUtf16Lossy scan.input.fileName⟩ := by
  obtain ⟨hfits, hcontent⟩ := scan.nameFits_and_content
  rw [hcontent, scannedFile_fileContent scan.length_fileId scan.zero_notMem hfits]

/-- A file is judged as it is opened exactly when its name is well formed. -/
theorem judgedAsOpened_iff_wellFormed (scan : FileScan ν φ) :
    scan.JudgedAsOpened ↔ wellFormedUtf16 scan.input.fileName := by
  rw [JudgedAsOpened, scan.scannedFile_request, encodeUtf16_fromUtf16Lossy_eq_iff]
  exact and_iff_right rfl

/-- Files that are judged as they are opened, under one path, have one name. -/
theorem fileName_eq_of_path_eq {first second : FileScan ν φ} (hfirst : first.JudgedAsOpened)
    (hsecond : second.JudgedAsOpened)
    (hpath : (scannedFile first.request.content).path =
      (scannedFile second.request.content).path) :
    first.input.fileName = second.input.fileName := by
  rw [← hfirst.2, ← hsecond.2, hpath]

end FileScan

/-- Two files are judged by their own identifiers and names, and under paths that differ where the
names do, exactly when both of the names are well formed UTF-16. -/
theorem judgedAsOpened_iff (first second : FileScan ν φ) :
    (first.JudgedAsOpened ∧ second.JudgedAsOpened ∧
      (first.input.fileName ≠ second.input.fileName →
        (scannedFile first.request.content).path ≠
          (scannedFile second.request.content).path)) ↔
      wellFormedUtf16 first.input.fileName ∧ wellFormedUtf16 second.input.fileName := by
  rw [← first.judgedAsOpened_iff_wellFormed, ← second.judgedAsOpened_iff_wellFormed, ← and_assoc]
  refine and_iff_left_of_imp fun hjudged hnames hpath ↦ hnames ?_
  exact FileScan.fileName_eq_of_path_eq hjudged.1 hjudged.2 hpath

/-- The file `E:\` and one surrogate. -/
def loneSurrogate (surrogate : UInt16) : FileOpen ℕ ℕ :=
  { openOne true with fileName := [0x45, 0x3A, 0x5C, surrogate] }

/-- The minifilter with a daemon and the context of the file 1. -/
def oneCtx : FilterState ℕ ℕ where
  clientPort := true
  instances := ∅
  fileCtxList := [⟨some 1, .pending, some (List.replicate 32 7)⟩]

/-- The request for the file `E:\` and one surrogate. -/
def loneSurrogateScan (surrogate : UInt16) (hsurrogate : surrogate ≠ 0) : FileScan ℕ ℕ where
  state := oneCtx
  input := loneSurrogate surrogate
  operation := .scanFile
  fileId := List.replicate 32 7
  hasFileId := rfl
  length_fileId := rfl
  zero_notMem := by simp [loneSurrogate, hsurrogate.symm]
  request := driverRequestFor oneCtx (loneSurrogate surrogate) .scanFile
  isSent := by
    rw [run_keysasScanFileInUserMode]
    exact .head _

/-- Two names that end in different surrogates are judged under one path. -/
theorem loneSurrogates_not_judged :
    (loneSurrogate 0xD800).fileName ≠ (loneSurrogate 0xD801).fileName ∧
      (scannedFile (loneSurrogateScan 0xD800 (by decide)).request.content).path =
        (scannedFile (loneSurrogateScan 0xD801 (by decide)).request.content).path ∧
      ¬(loneSurrogateScan 0xD800 (by decide)).JudgedAsOpened := by
  refine ⟨by decide, ?_, ?_⟩
  · rw [FileScan.scannedFile_request, FileScan.scannedFile_request]
    decide
  · rw [FileScan.judgedAsOpened_iff_wellFormed]
    decide

end FileScan

end Keysas.Minifilter
