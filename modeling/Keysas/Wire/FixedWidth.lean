import Keysas.Wire.PrefixCodec

/-!
# Records of fixed width

The integers of a record that a kernel or a driver writes have a fixed number of bytes, the lowest
first. `littleEndian` is the format of such a number, and `u8` to `i32` are those of the types of a
record. Every value has an encoding, so that `bytesOf` is total on these formats and on the products
of them: `encode_eq_bytesOf` says so, and `decode_bytesOf` is the round trip.
-/

set_option autoImplicit false
set_option relaxedAutoImplicit false

namespace Wire.PrefixCodec

universe u v

variable {α : Type u} {β : Type v}

/-- A number with `width` bytes. -/
def littleEndian (width : ℕ) : PrefixCodec ℕ where
  encode value := if value < 256 ^ width then some (littleEndianBytes width value) else none
  decode := littleEndianValue width
  size _ := width
  length_encode := by
    intro value bytes hencode
    split_ifs at hencode
    obtain rfl := Option.some.inj hencode
    exact length_littleEndianBytes width value
  decode_append := by
    intro value bytes hencode rest
    split_ifs at hencode with hvalue
    obtain rfl := Option.some.inj hencode
    exact littleEndianValue_append hvalue rest
  decode_extend := littleEndianValue_extend

/-! ### Formats in which every value has an encoding -/

/-- Every value has an encoding. -/
def IsTotal (codec : PrefixCodec α) : Prop :=
  ∀ value, (codec.encode value).isSome

/-- The encoding of a value. -/
def bytesOf (codec : PrefixCodec α) (value : α) : List UInt8 :=
  (codec.encode value).getD []

section Total

variable {codec : PrefixCodec α} (htotal : codec.IsTotal)

include htotal

theorem encode_eq_bytesOf (value : α) : codec.encode value = some (codec.bytesOf value) := by
  obtain ⟨bytes, hbytes⟩ := Option.isSome_iff_exists.mp (htotal value)
  rw [bytesOf, hbytes, Option.getD_some]

theorem length_bytesOf (value : α) : (codec.bytesOf value).length = codec.size value :=
  codec.length_encode (encode_eq_bytesOf htotal value)

/-- A value is read from in front of anything. -/
theorem decode_bytesOf (value : α) (rest : List UInt8) :
    codec.decode (codec.bytesOf value ++ rest) = some (value, rest) :=
  codec.decode_append (encode_eq_bytesOf htotal value) rest

theorem pair_isTotal {other : PrefixCodec β} (hother : other.IsTotal) :
    (codec.pair other).IsTotal := by
  rintro ⟨first, second⟩
  simp [pair, encode_eq_bytesOf htotal, encode_eq_bytesOf hother]

theorem imap_isTotal (pack : α → Option β) (unpack : β → α)
    (pack_unpack : ∀ value, pack (unpack value) = some value) :
    (codec.imap pack unpack pack_unpack).IsTotal :=
  fun value ↦ htotal (unpack value)

end Total

theorem isSome_encode_littleEndian {width value : ℕ} (hvalue : value < 256 ^ width) :
    ((littleEndian width).encode value).isSome := by
  simp [littleEndian, hvalue]

/-! ### Integers -/

theorem ofNat_toNat_u16 (value : UInt16) : some (UInt16.ofNat value.toNat) = some value := by
  rw [UInt16.ofNat_toNat]

theorem ofNat_toNat_u32 (value : UInt32) : some (UInt32.ofNat value.toNat) = some value := by
  rw [UInt32.ofNat_toNat]

theorem ofNat_toNat_u64 (value : UInt64) : some (UInt64.ofNat value.toNat) = some value := by
  rw [UInt64.ofNat_toNat]

/-- `u16`. -/
def fixedU16 : PrefixCodec UInt16 :=
  (littleEndian 2).imap (fun value ↦ some (UInt16.ofNat value)) UInt16.toNat ofNat_toNat_u16

/-- `u32`. -/
def fixedU32 : PrefixCodec UInt32 :=
  (littleEndian 4).imap (fun value ↦ some (UInt32.ofNat value)) UInt32.toNat ofNat_toNat_u32

/-- `u64`. -/
def fixedU64 : PrefixCodec UInt64 :=
  (littleEndian 8).imap (fun value ↦ some (UInt64.ofNat value)) UInt64.toNat ofNat_toNat_u64

/-- `i32`, in two's complement. -/
def fixedI32 : PrefixCodec Int32 :=
  fixedU32.imap (fun value ↦ some value.toInt32) Int32.toUInt32
    fun value ↦ by rw [Int32.toInt32_toUInt32]

theorem byte_isTotal : byte.IsTotal :=
  fun _ ↦ rfl

theorem fixedU16_isTotal : fixedU16.IsTotal :=
  fun value ↦ isSome_encode_littleEndian value.toNat_lt

theorem fixedU32_isTotal : fixedU32.IsTotal :=
  fun value ↦ isSome_encode_littleEndian value.toNat_lt

theorem fixedU64_isTotal : fixedU64.IsTotal :=
  fun value ↦ isSome_encode_littleEndian value.toNat_lt

theorem fixedI32_isTotal : fixedI32.IsTotal :=
  fun value ↦ fixedU32_isTotal value.toUInt32

end Wire.PrefixCodec
