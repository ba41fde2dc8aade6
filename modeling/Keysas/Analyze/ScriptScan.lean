import Keysas.Analyze.Findings

/-!
# The scan of scripts

The analyzer of scripts reads the file as a text and looks for the patterns of a table, which it
chooses by the extension, in the lowercase of the text. A pattern that blocks refuses the file.

`detects_iff` says when the scan is complete. A word that occurs in the bytes of a text, in any
letter case, stands in its lowercase, so that nothing is missed in a file that is UTF-8. A single
byte that is not UTF-8 makes the file unreadable as a text, and then it passes.
-/

set_option autoImplicit false
set_option relaxedAutoImplicit false

namespace Keysas.Analyze.Script

open RustStd Wire.Bincode

/-! ### Patterns -/

/-- A pattern with whether it blocks and its description. -/
structure Pattern where
  text : String
  blocking : Bool
  description : String
  deriving DecidableEq

/-- `PS1_PATTERNS`. -/
def ps1Patterns : List Pattern :=
  [⟨"Invoke-Expression", true, "dynamic code execution (IEX)"⟩,
    ⟨"IEX", true, "dynamic code execution (IEX)"⟩,
    ⟨"DownloadString", true, "downloads and executes remote code"⟩,
    ⟨"-EncodedCommand", true, "obfuscated encoded command"⟩,
    ⟨"bypass", true, "execution policy bypass"⟩,
    ⟨"AMSI", true, "AMSI bypass attempt"⟩,
    ⟨"FromBase64String", true, "base64 decoding (obfuscation)"⟩,
    ⟨"Reflection.Assembly", true, "in-memory assembly loading"⟩,
    ⟨"Start-Process", false, "process execution"⟩,
    ⟨"System.Net.WebClient", false, "network download capability"⟩]

/-- `JS_HTA_PATTERNS`. -/
def jsHtaPatterns : List Pattern :=
  [⟨"eval(", true, "dynamic code evaluation"⟩,
    ⟨"unescape(", true, "string deobfuscation"⟩,
    ⟨"ActiveXObject", true, "ActiveX object (system access)"⟩,
    ⟨"WScript.Shell", true, "shell execution via WScript"⟩,
    ⟨"document.write(unescape", true, "obfuscated DOM injection"⟩,
    ⟨"XMLHttpRequest", false, "HTTP request"⟩,
    ⟨"String.fromCharCode", false, "character code obfuscation"⟩]

/-- `VBS_PATTERNS`. -/
def vbsPatterns : List Pattern :=
  [⟨"WScript.Shell", true, "shell execution via WScript"⟩,
    ⟨"Execute", true, "dynamic code execution"⟩,
    ⟨"Eval", true, "dynamic code evaluation"⟩,
    ⟨"Shell", true, "shell execution"⟩,
    ⟨"CreateObject", false, "COM object creation"⟩,
    ⟨"Chr(", false, "character encoding"⟩,
    ⟨"StrReverse", false, "string obfuscation"⟩]

/-- `PY_SH_PATTERNS`. -/
def pyShPatterns : List Pattern :=
  [⟨"os.system", true, "OS command execution"⟩,
    ⟨"exec(", true, "dynamic code execution"⟩,
    ⟨"__import__", true, "dynamic module import"⟩,
    ⟨"subprocess", false, "subprocess execution"⟩,
    ⟨"base64.b64decode", false, "base64 decoding"⟩,
    ⟨"urllib.request", false, "network download"⟩,
    ⟨"curl ", false, "curl invocation"⟩,
    ⟨"wget ", false, "wget invocation"⟩]

/-- `JNLP_PATTERNS`. -/
def jnlpPatterns : List Pattern :=
  [⟨"http://", true, "insecure HTTP jar loading"⟩,
    ⟨"<jar ", false, "JAR dependency"⟩,
    ⟨"<extension ", false, "JNLP extension"⟩]

/-- The table of patterns for an extension. -/
def patternsOf (ext : String) : Option (List Pattern) :=
  if ext ∈ ["ps1", "bat"] then some ps1Patterns
  else if ext ∈ ["js", "hta"] then some jsHtaPatterns
  else if ext ∈ ["vbs", "vbe"] then some vbsPatterns
  else if ext ∈ ["py", "sh"] then some pyShPatterns
  else if ext ∈ ["jnlp"] then some jnlpPatterns
  else none

/-! ### The scan -/

/-- `build_summary`. -/
def buildSummary (blocking info : List String) (ext : String) : String :=
  summaryOf ("no suspicious patterns in ." ++ ext) blocking info

/-- A finding: a pattern with its description. -/
def Pattern.finding (pattern : Pattern) : String :=
  pattern.text ++ " (" ++ pattern.description ++ ")"

variable (tables : UnicodeTables)

/-- A pattern is found in a text. -/
def Pattern.foundIn (content : String) (pattern : Pattern) : Bool :=
  contains (toLowercase tables content) (toLowercase tables pattern.text)

/-- `analyze`. -/
def analyze (file : FdRead) (filename : String) : Bool × String :=
  match file with
  | .dupFailed => (true, "fd dup failed")
  | .readFailed => (true, "file read failed")
  | .content bytes =>
    match fromUtf8 bytes with
    | none => (true, "file read failed")
    | some content =>
      let ext := lowerExt tables filename
      match patternsOf ext with
      | none => (true, "unsupported script type")
      | some patterns =>
        let found := patterns.filter (Pattern.foundIn tables content)
        let blockingFindings := (found.filter (·.blocking)).map Pattern.finding
        let infoFindings := (found.filter (!·.blocking)).map Pattern.finding
        (blockingFindings.isEmpty, buildSummary blockingFindings infoFindings ext)

/-! ### Completeness -/

variable {tables}

/-- Every pattern of a table is ASCII. -/
theorem isAscii_of_mem_patternsOf {ext : String} {patterns : List Pattern}
    (hpatterns : patternsOf ext = some patterns) :
    ∀ pattern ∈ patterns, IsAscii (utf8 pattern.text) := by
  have hall : ∀ table ∈ [ps1Patterns, jsHtaPatterns, vbsPatterns, pyShPatterns, jnlpPatterns],
      table.all (fun pattern ↦ (utf8 pattern.text).all fun byte ↦ byte.toNat < 128) = true := by
    decide +kernel
  have hmem : patterns ∈ [ps1Patterns, jsHtaPatterns, vbsPatterns, pyShPatterns, jnlpPatterns] := by
    rw [patternsOf] at hpatterns
    split_ifs at hpatterns <;> obtain rfl := Option.some.inj hpatterns <;> simp
  intro pattern hpattern byte hbyte
  have htable := List.all_eq_true.mp (hall patterns hmem) pattern hpattern
  exact of_decide_eq_true (List.all_eq_true.mp htable byte hbyte)

/-- A file is in the category of scripts by its extension. -/
theorem lowerExt_of_detectCategory {filename fileType : String}
    (hcategory : detectCategory tables filename fileType = .script) :
    lowerExt tables filename ∈ ["ps1", "vbs", "vbe", "bat", "sh", "py", "js", "hta", "jnlp"] := by
  by_contra hext
  rw [lowerExt] at hext
  simp only [detectCategory, if_neg hext] at hcategory
  split_ifs at hcategory

/-- There is a table of patterns for every script. -/
theorem exists_patternsOf {filename fileType : String}
    (hcategory : detectCategory tables filename fileType = .script) :
    ∃ patterns, patternsOf (lowerExt tables filename) = some patterns := by
  have hall : ∀ ext ∈ ["ps1", "vbs", "vbe", "bat", "sh", "py", "js", "hta", "jnlp"],
      (patternsOf ext).isSome = true := by
    decide +kernel
  exact Option.isSome_iff_exists.mp (hall _ (lowerExt_of_detectCategory hcategory))

/-- What the scan of a text returns. -/
theorem analyze_content {text filename : String} {patterns : List Pattern}
    (hpatterns : patternsOf (lowerExt tables filename) = some patterns) :
    (analyze tables (.content (utf8 text)) filename).1 = false ↔
      ∃ pattern ∈ patterns, pattern.blocking = true ∧ pattern.foundIn tables text = true := by
  simp only [analyze, fromUtf8_utf8, hpatterns]
  simp [and_left_comm]

/-- A pattern that blocks occurs in a content, in any letter case. -/
def HasBlockingPattern (patterns : List Pattern) (content : List UInt8) : Prop :=
  ∃ pattern ∈ patterns, pattern.blocking = true ∧ OccursIn (utf8 pattern.text) content

/-- There is a table of patterns for a script, and a content in which one occurs that blocks is
refused. -/
def Detects (tables : UnicodeTables) (filename : String) (content : List UInt8) : Prop :=
  ∃ patterns, patternsOf (lowerExt tables filename) = some patterns ∧
    (HasBlockingPattern patterns content →
      (analyze tables (.content content) filename).1 = false)

/-- A script is UTF-8, or no pattern that blocks occurs in it. -/
def ReadsAsText (tables : UnicodeTables) (filename : String) (content : List UInt8) : Prop :=
  ∀ patterns, patternsOf (lowerExt tables filename) = some patterns →
    HasBlockingPattern patterns content → ∃ text, fromUtf8 content = some text

/-- The scan of a script is complete if and only if the script is UTF-8 or has no pattern that
blocks. Assumes: the file is in the category of scripts. -/
theorem detects_iff {filename fileType : String}
    (hcategory : detectCategory tables filename fileType = .script) (content : List UInt8) :
    Detects tables filename content ↔ ReadsAsText tables filename content := by
  constructor
  · rintro ⟨patterns, hpatterns, hrefused⟩ others hothers hblocking
    obtain rfl : patterns = others := by
      rw [hpatterns] at hothers
      exact Option.some.inj hothers
    have hresult := hrefused hblocking
    rcases hread : fromUtf8 content with _ | text
    · simp [analyze, hread] at hresult
    · exact ⟨text, rfl⟩
  · intro hreads
    obtain ⟨patterns, hpatterns⟩ := exists_patternsOf hcategory
    refine ⟨patterns, hpatterns, fun hblocking ↦ ?_⟩
    obtain ⟨text, htext⟩ := hreads patterns hpatterns hblocking
    obtain ⟨pattern, hmem, hblocks, hoccurs⟩ := hblocking
    have hascii := isAscii_of_mem_patternsOf hpatterns pattern hmem
    obtain rfl := fromUtf8_eq_some_iff.mp htext
    rw [analyze_content hpatterns]
    exact ⟨pattern, hmem, hblocks, contains_toLowercase_of_occursIn tables hoccurs hascii⟩

/-- A script that evaluates a text. -/
def evalScript : List UInt8 := utf8 "EVAL(x)"

theorem detects_iff_evalScript :
    Detects asciiTables "a.js" evalScript ↔ ReadsAsText asciiTables "a.js" evalScript := by
  have hcategory : detectCategory asciiTables "a.js" "text/plain" = .script := by decide +kernel
  exact detects_iff hcategory evalScript

/-- The scan is not complete: behind a byte that is not UTF-8 the script passes. -/
theorem not_forall_detects :
    ¬ ∀ (tables : UnicodeTables) (filename fileType : String) (content : List UInt8),
      detectCategory tables filename fileType = .script → Detects tables filename content := by
  intro hall
  have hcategory : detectCategory asciiTables "a.js" "text/plain" = .script := by decide +kernel
  obtain ⟨patterns, hpatterns, hrefused⟩ :=
    hall asciiTables "a.js" "text/plain" (evalScript ++ [0xFF]) hcategory
  have htable : patternsOf (lowerExt asciiTables "a.js") = some jsHtaPatterns := by decide +kernel
  rw [htable] at hpatterns
  obtain rfl := Option.some.inj hpatterns
  have hoccurs : OccursIn (utf8 "eval(") (evalScript ++ [0xFF]) := by decide +kernel
  have hresult := hrefused ⟨_, .head _, rfl, hoccurs⟩
  have hpasses : (analyze asciiTables (.content (evalScript ++ [0xFF])) "a.js").1 = true := by
    decide +kernel
  rw [hpasses] at hresult
  cases hresult

end Keysas.Analyze.Script
