import Keysas.Wire.BincodeStandard

/-!
# Cutting texts at bytes

A text may be cut at a position only where a character begins or where it ends. A front of the bytes
of a text is itself a text exactly when it ends at such a position (`isSome_fromUtf8_take_iff`).
-/

set_option autoImplicit false
set_option relaxedAutoImplicit false

namespace RustStd

open Wire.Bincode

/-- A character begins at a position, or the bytes end there or before it. -/
def IsCharBoundary (bytes : List UInt8) (position : ℕ) : Prop :=
  ∀ byte, bytes[position]? = some byte → byte.IsUTF8FirstByte

instance decidableIsCharBoundary (bytes : List UInt8) (position : ℕ) :
    Decidable (IsCharBoundary bytes position) :=
  decidable_of_iff (bytes[position]?.all fun byte ↦ decide byte.IsUTF8FirstByte) (by
    cases hbyte : bytes[position]? with
    | none => simp [IsCharBoundary, hbyte]
    | some byte => simp [IsCharBoundary, hbyte])

theorem isCharBoundary_of_length_le {bytes : List UInt8} {position : ℕ}
    (hlength : bytes.length ≤ position) : IsCharBoundary bytes position := by
  intro byte hbyte
  rw [List.getElem?_eq_none hlength] at hbyte
  cases hbyte

theorem isSome_fromUtf8_iff {bytes : List UInt8} :
    (fromUtf8 bytes).isSome = true ↔ (ByteArray.mk bytes.toArray).IsValidUTF8 := by
  unfold fromUtf8 String.fromUTF8?
  split_ifs with hvalid
  · exact iff_of_true rfl hvalid
  · exact iff_of_false (by simp) hvalid

/-- A front of the bytes of a text is a text when it ends at the boundary of a character. -/
theorem isSome_fromUtf8_take_iff (text : String) (count : ℕ) :
    (fromUtf8 ((utf8 text).take count)).isSome = true ↔ IsCharBoundary (utf8 text) count := by
  by_cases hlength : (utf8 text).length ≤ count
  · rw [List.take_of_length_le hlength, fromUtf8_utf8]
    exact iff_of_true rfl (isCharBoundary_of_length_le hlength)
  rw [Nat.not_le] at hlength
  have hinside : (⟨count⟩ : String.Pos.Raw) < text.rawEndPos := by
    rw [length_utf8] at hlength
    exact hlength
  have hcut : ByteArray.mk ((utf8 text).take count).toArray = text.toByteArray.extract 0 count := by
    apply ByteArray.ext
    rw [ByteArray.data_extract, utf8, String.toUTF8_eq_toByteArray, ← Array.toList_inj]
    simp
  have hbyte : (utf8 text)[count]? = some (text.getUTF8Byte ⟨count⟩ hinside) := by
    rw [List.getElem?_eq_getElem hlength]
    simp [utf8, String.getUTF8Byte, ByteArray.getElem_eq_getElem_data]
  rw [isSome_fromUtf8_iff, hcut]
  constructor
  · intro hvalid byte hfound
    have hposition : (⟨count⟩ : String.Pos.Raw).IsValid text :=
      String.Pos.Raw.isValid_iff_isValidUTF8_extract_zero.mpr ⟨Nat.le_of_lt hinside, hvalid⟩
    rcases String.Pos.Raw.isValid_iff_isUTF8FirstByte.mp hposition with hend | ⟨_, hfirst⟩
    · rw [hend] at hinside
      exact absurd hinside (Nat.lt_irrefl _)
    · rw [hbyte] at hfound
      rw [← Option.some.inj hfound]
      exact hfirst
  · intro hboundary
    have hposition : (⟨count⟩ : String.Pos.Raw).IsValid text :=
      String.Pos.Raw.isValid_iff_isUTF8FirstByte.mpr (.inr ⟨hinside, hboundary _ hbyte⟩)
    exact (String.Pos.Raw.isValid_iff_isValidUTF8_extract_zero.mp hposition).2

/-- Characters of one byte each have the bytes of their numbers. -/
theorem utf8_of_utf8Size_eq_one {characters : List Char}
    (hsize : ∀ character ∈ characters, character.utf8Size = 1) :
    utf8 (String.ofList characters) = characters.map fun character ↦ character.val.toUInt8 := by
  rw [utf8_eq_flatMap, String.toList_ofList]
  induction characters with
  | nil => rfl
  | cons character characters ih =>
    rw [List.flatMap_cons, String.utf8EncodeChar_eq_singleton (hsize _ (.head _)),
      ih fun other hother ↦ hsize other (.tail _ hother)]
    rfl

/-- A text whose bytes are a front of those of another is a front of the other. -/
theorem exists_eq_append_of_utf8 {front text : String} {bytes : List UInt8}
    (hbytes : utf8 front ++ bytes = utf8 text) : ∃ back, text = front ++ back := by
  have hlength : front.utf8ByteSize ≤ text.utf8ByteSize := by
    rw [← length_utf8, ← length_utf8, ← hbytes, List.length_append]
    exact Nat.le_add_right _ _
  have htake : (utf8 text).take front.utf8ByteSize = utf8 front := by
    rw [← hbytes, ← length_utf8, List.take_left]
  have hcut : front.toByteArray = text.toByteArray.extract 0 front.utf8ByteSize := by
    apply ByteArray.ext
    rw [ByteArray.data_extract, ← Array.toList_inj]
    simpa [utf8, String.toUTF8_eq_toByteArray] using htake.symm
  have hposition : (⟨front.utf8ByteSize⟩ : String.Pos.Raw).IsValid text :=
    String.Pos.Raw.isValid_iff_isValidUTF8_extract_zero.mpr
      ⟨hlength, hcut ▸ front.isValidUTF8⟩
  obtain ⟨start, back, rfl, hstart⟩ := String.Pos.Raw.isValid_iff_exists_append.mp hposition
  refine ⟨back, ?_⟩
  have hsize : front.utf8ByteSize = (utf8 start).length := by
    rw [length_utf8]
    exact congrArg String.Pos.Raw.byteIdx hstart
  rw [utf8_append, hsize, List.take_left] at htake
  rw [utf8_injective htake]

end RustStd
