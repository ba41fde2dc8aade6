import Keysas.Analyze.Findings
import Keysas.Rust.Occurrences

/-!
# The scan of PDF documents

The analyzer of PDF documents looks for keywords in the bytes of the file. `countOccurrences` takes
the first occurrence of a keyword and goes on behind it. `le_countOccurrences_iff` says that no
other choice of occurrences that do not overlap has more of them, and `analyze_content` what follows
for the verdict and the summary.
-/

set_option autoImplicit false
set_option relaxedAutoImplicit false

namespace Keysas.Analyze.Pdf

open RustStd Wire.Bincode

/-! ### The scan -/

/-- `BLOCKING_KEYWORDS`. -/
def blockingKeywords : List String :=
  ["/JavaScript", "/JS", "/OpenAction", "/Launch", "/RichMedia", "/XFA", "/JBIG2Decode"]

/-- `INFO_KEYWORDS`. -/
def infoKeywords : List String :=
  ["/AA", "/EmbeddedFile", "/AcroForm", "/Encrypt", "/ObjStm"]

/-- The position of the first window that is the needle. -/
def positionOf (haystack needle : List UInt8) : Option ℕ :=
  (windows needle.length haystack).findIdx? (· == needle)

theorem isFirst_of_positionOf {haystack needle : List UInt8} {position : ℕ}
    (hposition : positionOf haystack needle = some position) :
    IsFirst needle haystack position := by
  obtain ⟨hbound, hwindow, hbefore⟩ := List.findIdx?_eq_some_iff_getElem.mp hposition
  have hget : ∀ (start : ℕ) (hstart : start < (windows needle.length haystack).length),
      (windows needle.length haystack)[start] = (haystack.drop start).take needle.length := by
    intro start hstart
    simp [windows]
  refine ⟨?_, fun gap rest hsplit ↦ ?_⟩
  · rw [← beq_iff_eq.mp hwindow, hget]
    exact List.take_prefix _ _
  · by_contra hlater
    refine hbefore gap.length (by omega) (beq_iff_eq.mpr ?_)
    rw [hget, hsplit, List.append_assoc, List.drop_left, List.take_left]

theorem positionOf_eq_none_iff {haystack needle : List UInt8} (hneedle : needle ≠ []) :
    positionOf haystack needle = none ↔ ¬ needle <:+: haystack := by
  rw [positionOf, List.findIdx?_eq_none_iff]
  have hlength := List.length_pos_iff.mpr hneedle
  constructor
  · intro hnone hpart
    have hmem := (mem_windows_iff hlength).mpr ⟨hpart, rfl⟩
    simpa using hnone needle hmem
  · intro hpart window hwindow
    rw [beq_eq_false_iff_ne]
    rintro rfl
    exact hpart ((mem_windows_iff hlength).mp hwindow).1

/-- `count_occurrences`. -/
def countOccurrences (haystack needle : List UInt8) : ℕ :=
  if needle = [] then 0
  else
    match hposition : positionOf haystack needle with
    | none => 0
    | some position => countOccurrences (haystack.drop (position + needle.length)) needle + 1
termination_by haystack.length
decreasing_by
  have hlength := List.length_pos_iff.mpr ‹needle ≠ []›
  have hle := (isFirst_of_positionOf hposition).length_le
  rw [List.length_drop]
  omega

/-- The occurrences that are counted do not overlap, and no others are more. -/
theorem le_countOccurrences_iff {haystack needle : List UInt8} (hneedle : needle ≠ []) {count : ℕ} :
    count ≤ countOccurrences haystack needle ↔ OccursTimes needle count haystack := by
  fun_induction countOccurrences haystack needle generalizing count with
  | case1 haystack hnil => exact absurd hnil hneedle
  | case2 haystack hnil hnone =>
    cases count with
    | zero => exact iff_of_true (Nat.le_refl 0) (.zero haystack)
    | succ count =>
      refine iff_of_false (Nat.not_succ_le_zero count) ?_
      exact not_occursTimes_succ ((positionOf_eq_none_iff hneedle).mp hnone)
  | case3 haystack hnil position hposition ih =>
    cases count with
    | zero => exact iff_of_true (Nat.zero_le _) (.zero haystack)
    | succ count =>
      rw [Nat.succ_le_succ_iff, ih, occursTimes_succ_iff (isFirst_of_positionOf hposition)]

theorem countOccurrences_pos_iff {haystack needle : List UInt8} (hneedle : needle ≠ []) :
    0 < countOccurrences haystack needle ↔ needle <:+: haystack :=
  (le_countOccurrences_iff hneedle).trans occursTimes_one_iff

/-- `build_summary`. -/
def buildSummary (blocking info : List String) : String :=
  summaryOf "no suspicious objects" blocking info

/-- What is said about the pages. -/
def pageInfo (pages : ℕ) : List String :=
  if 0 < pages then ["~" ++ toString pages ++ " /Page object(s)"] else []

/-- `analyze`. -/
def analyze (file : FdRead) (_filename _tmpDir : String) : Bool × String :=
  match file.bytes with
  | none => (true, "read error - analysis skipped")
  | some buf =>
    let blocking := blockingKeywords.filter fun keyword ↦ 0 < countOccurrences buf (utf8 keyword)
    let info := infoKeywords.filter fun keyword ↦ 0 < countOccurrences buf (utf8 keyword)
    let pages := countOccurrences buf (utf8 "/Page")
    (blocking.isEmpty, buildSummary blocking (info ++ pageInfo pages))

/-! ### What the scan finds -/

theorem utf8_ne_nil {keyword : String} (hkeyword : keyword ∈ blockingKeywords ++ infoKeywords) :
    utf8 keyword ≠ [] := by
  have hall : ∀ keyword ∈ blockingKeywords ++ infoKeywords, utf8 keyword ≠ [] := by decide
  exact hall keyword hkeyword

/-- The findings are the keywords of a table that occur in the file. -/
theorem mem_filter_iff {table : List String} (htable : table ⊆ blockingKeywords ++ infoKeywords)
    (bytes : List UInt8) (keyword : String) :
    keyword ∈ table.filter (fun keyword ↦ 0 < countOccurrences bytes (utf8 keyword)) ↔
      keyword ∈ table ∧ utf8 keyword <:+: bytes := by
  rw [List.mem_filter, decide_eq_true_iff]
  exact and_congr_right fun hmem ↦ countOccurrences_pos_iff (utf8_ne_nil (htable hmem))

/-- The verdict and the summary of a file that can be read: the findings that block are the blocking
keywords that occur in it, each once, and so are those that inform; the number of pages is the
greatest number of occurrences of `/Page` that do not overlap. -/
theorem analyze_content (bytes : List UInt8) (filename tmpDir : String) :
    ∃ blocking info pages,
      analyze (.content bytes) filename tmpDir =
          (blocking.isEmpty, buildSummary blocking (info ++ pageInfo pages)) ∧
        blocking.Sublist blockingKeywords ∧ info.Sublist infoKeywords ∧
        (∀ keyword, keyword ∈ blocking ↔ keyword ∈ blockingKeywords ∧ utf8 keyword <:+: bytes) ∧
        (∀ keyword, keyword ∈ info ↔ keyword ∈ infoKeywords ∧ utf8 keyword <:+: bytes) ∧
        ∀ count, OccursTimes (utf8 "/Page") count bytes ↔ count ≤ pages :=
  ⟨_, _, _, rfl, List.filter_sublist, List.filter_sublist,
    mem_filter_iff (List.subset_append_left _ _) bytes,
    mem_filter_iff (List.subset_append_right _ _) bytes,
    fun _ ↦ (le_countOccurrences_iff (by decide)).symm⟩

/-- A document that can be read is refused exactly when a blocking keyword occurs in it. -/
theorem refuses_iff (bytes : List UInt8) (filename tmpDir : String) :
    (analyze (.content bytes) filename tmpDir).1 = false ↔
      ∃ keyword ∈ blockingKeywords, utf8 keyword <:+: bytes := by
  obtain ⟨blocking, info, pages, hanalyze, -, -, hblocking, -, -⟩ :=
    analyze_content bytes filename tmpDir
  rw [hanalyze]
  show blocking.isEmpty = false ↔ _
  rw [List.isEmpty_eq_false_iff_exists_mem]
  exact exists_congr hblocking

end Keysas.Analyze.Pdf
