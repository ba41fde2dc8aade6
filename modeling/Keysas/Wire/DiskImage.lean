import Keysas.Wire.PrefixCodec

/-!
# Disk images

A disk as the run of its bytes, written at an offset. `writeAt` overwrites what the disk has there
and leaves the rest as it is; a write behind the end fills the gap with zeros, as a file does.

What is read behind an offset is all that a reader sees, so the lemmas speak of `List.drop`:
`drop_writeAt` reads at the offset of a write, `drop_writeAt_of_le` behind the bytes written, and
`writeAt_writeAt` joins a write to the one that continues it.

A length in front of a record is big endian. `bigEndianValue_bigEndianBytes` and
`bigEndianBytes_bigEndianValue` are its round trips.
-/

set_option autoImplicit false
set_option relaxedAutoImplicit false

namespace Wire

open PrefixCodec

/-! ### Writes at an offset -/

/-- The bytes of a disk after a write at an offset. -/
def writeAt (offset : ℕ) (bytes image : List UInt8) : List UInt8 :=
  (image ++ List.replicate (offset - image.length) 0).take offset ++
    (bytes ++ image.drop (offset + bytes.length))

/-- The part of a disk in front of a write reaches up to it. -/
theorem length_take_replicate (offset : ℕ) (image : List UInt8) :
    ((image ++ List.replicate (offset - image.length) 0).take offset).length = offset := by
  rw [List.length_take, List.length_append, List.length_replicate]
  omega

/-- From the offset of a write on, a disk has the bytes written and then what it had behind them. -/
theorem drop_writeAt (offset : ℕ) (bytes image : List UInt8) :
    (writeAt offset bytes image).drop offset = bytes ++ image.drop (offset + bytes.length) :=
  List.drop_left' (length_take_replicate offset image)

/-- Behind the bytes written, a disk is what it was. Assumes: the position is not in front of the
end of the write. -/
theorem drop_writeAt_of_le {offset position : ℕ} {bytes : List UInt8}
    (hposition : offset + bytes.length ≤ position) (image : List UInt8) :
    (writeAt offset bytes image).drop position = image.drop position := by
  have hsplit : position = offset + (bytes.length + (position - (offset + bytes.length))) := by
    omega
  calc (writeAt offset bytes image).drop position
      = ((writeAt offset bytes image).drop offset).drop
          (bytes.length + (position - (offset + bytes.length))) := by
        rw [List.drop_drop, ← hsplit]
    _ = (image.drop (offset + bytes.length)).drop (position - (offset + bytes.length)) := by
        rw [drop_writeAt, List.drop_append]
        simp
    _ = image.drop position := by
        rw [List.drop_drop]
        congr 1
        omega

/-- Two writes, the second where the first ends, are one write. -/
theorem writeAt_writeAt (offset : ℕ) (first second image : List UInt8) :
    writeAt (offset + first.length) second (writeAt offset first image) =
      writeAt offset (first ++ second) image := by
  have hfront : ((writeAt offset first image) ++ List.replicate
      (offset + first.length - (writeAt offset first image).length) 0).take
        (offset + first.length) =
      (image ++ List.replicate (offset - image.length) 0).take offset ++ first := by
    have hlength := length_take_replicate offset image
    rw [writeAt, ← List.append_assoc, List.append_assoc]
    exact List.take_left' (by rw [List.length_append, hlength])
  have hback : (writeAt offset first image).drop (offset + first.length + second.length) =
      image.drop (offset + first.length + second.length) :=
    drop_writeAt_of_le (by omega) image
  rw [writeAt, hfront, hback, writeAt, List.length_append, Nat.add_assoc]
  simp only [List.append_assoc]

/-- A write at the end of a disk continues it. -/
theorem writeAt_length (bytes image : List UInt8) :
    writeAt image.length bytes image = image ++ bytes := by
  rw [writeAt, Nat.sub_self, List.replicate_zero, List.append_nil, List.take_length,
    List.drop_eq_nil_of_le (Nat.le_add_right _ _), List.append_nil]

/-! ### Big-endian numbers -/

/-- The last `width` bytes of a number, the most significant one first. -/
def bigEndianBytes (width value : ℕ) : List UInt8 :=
  (littleEndianBytes width value).reverse

/-- The number that a run of bytes stands for, the most significant one first. -/
def bigEndianValue (bytes : List UInt8) : ℕ :=
  bytes.foldl (fun value digit ↦ 256 * value + digit.toNat) 0

@[simp] theorem length_bigEndianBytes (width value : ℕ) :
    (bigEndianBytes width value).length = width := by
  rw [bigEndianBytes, List.length_reverse, length_littleEndianBytes]

/-- A number is read back from its bytes. Assumes: it fits them. -/
theorem bigEndianValue_bigEndianBytes {width value : ℕ} (hvalue : value < 256 ^ width) :
    bigEndianValue (bigEndianBytes width value) = value := by
  rw [bigEndianValue, bigEndianBytes, List.foldl_reverse]
  induction width generalizing value with
  | zero =>
    rw [Nat.pow_zero] at hvalue
    rw [littleEndianBytes, List.foldr_nil]
    omega
  | succ width ih =>
    rw [littleEndianBytes, List.foldr_cons, ih (div_lt_pow_of_lt hvalue), toNat_lowDigit]
    omega

/-- Bytes are the bytes of the number they stand for. -/
theorem bigEndianBytes_bigEndianValue (bytes : List UInt8) :
    bigEndianBytes bytes.length (bigEndianValue bytes) = bytes := by
  have hdigits : ∀ digits : List UInt8, littleEndianBytes digits.length
      (digits.foldr (fun digit value ↦ 256 * value + digit.toNat) 0) = digits := by
    intro digits
    induction digits with
    | nil => rfl
    | cons digit digits ih =>
      have hdigit := digit.toNat_lt
      rw [List.foldr_cons, List.length_cons, littleEndianBytes]
      generalize digits.foldr (fun digit value ↦ 256 * value + digit.toNat) 0 = value at ih ⊢
      have hlow : (256 * value + digit.toNat) % 256 = digit.toNat := by omega
      have hhigh : (256 * value + digit.toNat) / 256 = value := by omega
      rw [hlow, hhigh, ih, UInt8.ofNat_toNat]
  have hreverse := hdigits bytes.reverse
  rw [List.foldr_reverse, List.length_reverse] at hreverse
  rw [bigEndianBytes, bigEndianValue, hreverse, List.reverse_reverse]

example : bigEndianBytes 4 7683 = [0, 0, 30, 3] ∧ bigEndianValue [0, 0, 30, 3] = 7683 :=
  ⟨rfl, rfl⟩

end Wire
