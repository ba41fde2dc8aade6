import Keysas.Analyze.Dispatch
import Keysas.Rust.AsciiCase

/-!
# Findings

What the analyzers that look for patterns have in common: they read the received file from its
start, and they report what they found as findings that block and findings that inform.
-/

set_option autoImplicit false
set_option relaxedAutoImplicit false

namespace Keysas.Analyze

open RustStd Wire.Bincode

/-! ### Reading -/

/-- What comes of duplicating a received descriptor and reading the file from its start. -/
inductive FdRead where
  | dupFailed
  | readFailed
  | content (bytes : List UInt8)

/-- `read_fd`. -/
def FdRead.bytes : FdRead → Option (List UInt8)
  | .content bytes => some bytes
  | _ => none

/-- The extension of a file name in lowercase. -/
def lowerExt (tables : UnicodeTables) (filename : String) : String :=
  toLowercase tables ((extension filename).getD "")

/-! ### Summaries -/

/-- The summary of the findings that block and those that inform, or a text when there are none. -/
def summaryOf (nothing : String) (blocking info : List String) : String :=
  match blocking.isEmpty, info.isEmpty with
  | true, true => nothing
  | true, false => "info: " ++ "; ".intercalate info
  | false, true => "ALERT: " ++ "; ".intercalate blocking
  | false, false => "ALERT: " ++ "; ".intercalate blocking ++ "; info: " ++ "; ".intercalate info

/-- A summary is the text for no findings, or it begins with one of two words. -/
theorem summaryOf_cases (nothing : String) (blocking info : List String) :
    summaryOf nothing blocking info = nothing ∨
      (∃ rest, summaryOf nothing blocking info = "info: " ++ rest) ∨
      ∃ rest, summaryOf nothing blocking info = "ALERT: " ++ rest := by
  rw [summaryOf]
  split
  · exact .inl rfl
  · exact .inr (.inl ⟨_, rfl⟩)
  · exact .inr (.inr ⟨_, rfl⟩)
  · refine .inr (.inr ⟨"; ".intercalate blocking ++ "; info: " ++ "; ".intercalate info, ?_⟩)
    simp only [String.append_assoc]

/-- A summary is not another text. Assumes: the text for no findings is not the other one, which
begins neither with `i` nor with `A`. -/
theorem summaryOf_ne {nothing other : String} (hnothing : nothing ≠ other)
    (hinfo : other.toList.head? ≠ some 'i') (halert : other.toList.head? ≠ some 'A')
    (blocking info : List String) : summaryOf nothing blocking info ≠ other := by
  rcases summaryOf_cases nothing blocking info with hsame | ⟨rest, hrest⟩ | ⟨rest, hrest⟩
  · rw [hsame]
    exact hnothing
  · rintro rfl
    exact hinfo (by rw [hrest, String.toList_append]; rfl)
  · rintro rfl
    exact halert (by rw [hrest, String.toList_append]; rfl)

end Keysas.Analyze
