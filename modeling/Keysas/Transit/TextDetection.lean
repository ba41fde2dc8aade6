import Keysas.Rust.AsciiCase
import Keysas.Rust.Utf8Cut
import Keysas.Transit.CheckFiles

/-!
# Which texts are taken for texts

A file without a magic number is allowed when it looks like plain text. `isLikelyText` looks at its
first 8192 bytes only, and a sample that ends within a character is not UTF-8.
`checkIsExtensionAllowed_text_iff` says that a text is allowed exactly when the sample ends at the
boundary of a character.
-/

set_option autoImplicit false
set_option relaxedAutoImplicit false

namespace Keysas.Transit

open RustStd Wire.Bincode

/-- The number of bytes that are looked at. -/
def sampleSize : ℕ := 8192

theorem isLikelyText_iff {text : String} (hzero : 0 ∉ utf8 text) :
    isLikelyText (utf8 text) = true ↔ IsCharBoundary (utf8 text) sampleSize := by
  rw [isLikelyText]
  split_ifs with hempty
  · refine iff_of_true rfl (isCharBoundary_of_length_le ?_)
    rw [hempty]
    exact Nat.zero_le _
  · have hsample : 0 ∉ (utf8 text).take sampleSize := fun hmem ↦ hzero (List.mem_of_mem_take hmem)
    rw [← isSome_fromUtf8_take_iff, Bool.and_eq_true, ← sampleSize, decide_eq_false hsample]
    exact and_iff_right rfl

/-- The magic numbers of KeePass databases are not UTF-8. -/
theorem not_isPrefixOf_utf8 (text : String) :
    (List.isPrefixOf [0x03, 0xD9, 0xA2, 0x9A] (utf8 text) ||
      List.isPrefixOf [0x03, 0xD9, 0xA2, 0x9B] (utf8 text)) = false := by
  have hcut : ∀ last : UInt8, (fromUtf8 [0x03, 0xD9, 0xA2]).isSome = true →
      ¬ last.IsUTF8FirstByte → List.isPrefixOf [0x03, 0xD9, 0xA2, last] (utf8 text) = false := by
    intro last hvalid hlast
    rw [← Bool.not_eq_true, List.isPrefixOf_iff_prefix]
    rintro ⟨rest, hrest⟩
    have htake : (utf8 text).take 3 = [0x03, 0xD9, 0xA2] := by
      rw [← hrest]
      rfl
    rw [← htake, isSome_fromUtf8_take_iff] at hvalid
    refine hlast (hvalid last ?_)
    rw [← hrest]
    rfl
  have hvalid : (fromUtf8 [0x03, 0xD9, 0xA2]).isSome = true := by decide +kernel
  rw [hcut 0x9A hvalid (by decide), hcut 0x9B hvalid (by decide)]
  rfl

theorem checkIsExtensionAllowed_of_none (tools : TypeTools) (conf : Configuration)
    (filename : String) {text : String} (hnone : tools.get (utf8 text) = none) :
    checkIsExtensionAllowed tools conf (utf8 text) filename = isLikelyText (utf8 text) := by
  simp only [checkIsExtensionAllowed, hnone, not_isPrefixOf_utf8, Bool.and_false, Bool.false_or]

/-- A text is allowed, whatever the file is called, if and only if a character begins at the end of
the sample or the text ends there or before. Assumes: the text has no zero byte and no magic
number. -/
theorem checkIsExtensionAllowed_text_iff (tools : TypeTools) (conf : Configuration)
    (filename : String) {text : String} (hzero : 0 ∉ utf8 text)
    (hnone : tools.get (utf8 text) = none) :
    checkIsExtensionAllowed tools conf (utf8 text) filename = true ↔
      IsCharBoundary (utf8 text) sampleSize := by
  rw [checkIsExtensionAllowed_of_none tools conf filename hnone, isLikelyText_iff hzero]

theorem checkIsExtensionAllowed_text_iff_hello :
    checkIsExtensionAllowed zipTypeTools defaultConf (utf8 "hello") "a.txt" = true ↔
      IsCharBoundary (utf8 "hello") sampleSize :=
  checkIsExtensionAllowed_text_iff zipTypeTools defaultConf "a.txt" (by decide +kernel) rfl

/-- A text of 8191 letters and the letter `é` behind them. -/
def accentedText : String :=
  asciiText (List.replicate 8191 0x61) ++ "é"

theorem utf8_accentedText : utf8 accentedText = List.replicate 8191 0x61 ++ [0xC3, 0xA9] := by
  have hascii : IsAscii (List.replicate 8191 0x61) := by
    intro byte hbyte
    rw [List.eq_of_mem_replicate hbyte]
    decide
  have haccent : utf8 "é" = [0xC3, 0xA9] := by decide +kernel
  rw [accentedText, utf8_append, utf8_asciiText hascii, haccent]

/-- Text that begins with the letter `a` has no magic number of an archive. -/
theorem zipTypeTools_get_letters {count : ℕ} (hletters : count ≠ 0) (rest : List UInt8) :
    zipTypeTools.get (List.replicate count 0x61 ++ rest) = none := by
  obtain ⟨further, rfl⟩ := Nat.exists_eq_succ_of_ne_zero hletters
  rw [List.replicate_succ]
  rfl

theorem getElem?_letters (count : ℕ) (first second : UInt8) :
    (List.replicate count 0x61 ++ [first, second])[count + 1]? = some second := by
  rw [List.getElem?_append_right (by rw [List.length_replicate]; omega), List.length_replicate,
    Nat.add_sub_cancel_left]
  rfl

/-- A text with a letter of two bytes across the end of the sample is not allowed. -/
theorem not_checkIsExtensionAllowed_accented :
    0 ∉ utf8 accentedText ∧ zipTypeTools.get (utf8 accentedText) = none ∧
      checkIsExtensionAllowed zipTypeTools defaultConf (utf8 accentedText) "a.txt" = false := by
  have hzero : 0 ∉ utf8 accentedText := by
    rw [utf8_accentedText, List.mem_append, List.mem_replicate]
    rintro (⟨-, hletter⟩ | haccent)
    · exact absurd hletter (by decide)
    · exact absurd haccent (by decide)
  have hnone : zipTypeTools.get (utf8 accentedText) = none := by
    rw [utf8_accentedText]
    exact zipTypeTools_get_letters (Nat.succ_ne_zero 8190) _
  have hcut : isLikelyText (utf8 accentedText) = false := by
    rw [← Bool.not_eq_true, isLikelyText_iff hzero, utf8_accentedText]
    intro hboundary
    exact absurd (hboundary 0xA9 (getElem?_letters 8191 0xC3 0xA9)) (by decide)
  exact ⟨hzero, hnone, (checkIsExtensionAllowed_of_none _ _ _ hnone).trans hcut⟩

end Keysas.Transit
