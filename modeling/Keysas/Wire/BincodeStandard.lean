import Keysas.Wire.PrefixCodec

/-!
# The standard bincode format

The `standard` configuration of bincode: little-endian, variable-length integers, no limit. An
integer below 251 is one byte; a larger one is a marker (251, 252 or 253) and its 2, 4 or 8
little-endian bytes. A reader of a 32-bit integer refuses the 8-byte marker, and every reader
refuses the markers above. A `bool` is a byte that must be 0 or 1, a `String` is its number of bytes
and its UTF-8 bytes, which the reader validates, and a `Vec` is its number of elements and the
elements. A record is its fields in the order of their declaration, without names.

Sizes are counted without encoding: `varintSize` for an integer, `stringSize` for a text. Everything
whose size is below `2 ^ 64` has an encoding (`string_encodesBelow` and its companions), so the
partiality of the writers only excludes lengths that no machine can hold.

`decodeWithLimit` is the `with_limit` configuration. Its readers claim the bytes of a value against
the limit before they read it, and a value is refused when the claims are more than the limit. An
integer of 64 bits is claimed with 8 bytes whatever it takes, so that a text behind its length
claims more than it takes.
-/

set_option autoImplicit false
set_option relaxedAutoImplicit false

namespace Wire.Bincode

open PrefixCodec

universe u v

/-! ### Integers -/

/-- The number of bytes of a variable-length integer. -/
def varintSize (value : ℕ) : ℕ :=
  if value < 251 then 1 else if value < 2 ^ 16 then 3 else if value < 2 ^ 32 then 5 else 9

/-- The bytes of a variable-length integer below `limit`. -/
def varintEncode (limit value : ℕ) : Option (List UInt8) :=
  if limit ≤ value then none
  else if value < 251 then some [UInt8.ofNat value]
  else if value < 2 ^ 16 then some (251 :: littleEndianBytes 2 value)
  else if value < 2 ^ 32 then some (252 :: littleEndianBytes 4 value)
  else if value < 2 ^ 64 then some (253 :: littleEndianBytes 8 value)
  else none

/-- Read a variable-length integer of a type whose values are below `limit`. -/
def varintDecode (limit : ℕ) : List UInt8 → Option (ℕ × List UInt8)
  | [] => none
  | marker :: rest =>
    if marker < 251 then some (marker.toNat, rest)
    else if marker = 251 then littleEndianValue 2 rest
    else if marker = 252 then littleEndianValue 4 rest
    else if marker = 253 ∧ 2 ^ 32 < limit then littleEndianValue 8 rest
    else none

theorem length_varintEncode {limit value : ℕ} {bytes : List UInt8}
    (hencode : varintEncode limit value = some bytes) : bytes.length = varintSize value := by
  unfold varintEncode at hencode
  unfold varintSize
  split_ifs at hencode ⊢ with hlimit hbyte hshort hword hlong <;>
    first | omega | (obtain rfl := Option.some.inj hencode; simp)

theorem varintDecode_append {limit value : ℕ} {bytes : List UInt8}
    (hencode : varintEncode limit value = some bytes) (rest : List UInt8) :
    varintDecode limit (bytes ++ rest) = some (value, rest) := by
  unfold varintEncode at hencode
  split_ifs at hencode with hlimit hbyte hshort hword hlong <;>
    obtain rfl := Option.some.inj hencode
  · have hvalue : (UInt8.ofNat value).toNat = value := by
      rw [UInt8.toNat_ofNat']
      exact Nat.mod_eq_of_lt (by omega)
    have hmarker : UInt8.ofNat value < 251 := by
      rw [UInt8.lt_iff_toNat_lt, hvalue]
      exact hbyte
    simp [varintDecode, hmarker, hvalue]
  · have hwidth : value < 256 ^ 2 := by omega
    exact littleEndianValue_append hwidth rest
  · have hwidth : value < 256 ^ 4 := by omega
    exact littleEndianValue_append hwidth rest
  · have hwide : 2 ^ 32 < limit := by omega
    have hwidth : value < 256 ^ 8 := by omega
    simp only [List.cons_append, varintDecode, hwide]
    exact littleEndianValue_append hwidth rest

theorem varintDecode_extend {limit value : ℕ} {input rest : List UInt8}
    (hdecode : varintDecode limit input = some (value, rest)) (more : List UInt8) :
    varintDecode limit (input ++ more) = some (value, rest ++ more) := by
  cases input with
  | nil => simp [varintDecode] at hdecode
  | cons marker tail =>
    simp only [List.cons_append, varintDecode] at hdecode ⊢
    split_ifs at hdecode ⊢ with hbyte hshort hword hlong
    · obtain ⟨rfl, rfl⟩ : marker.toNat = value ∧ tail = rest := by simpa using hdecode
      rfl
    · exact littleEndianValue_extend hdecode more
    · exact littleEndianValue_extend hdecode more
    · exact littleEndianValue_extend hdecode more

/-- Variable-length integers below `limit`. -/
def varint (limit : ℕ) : PrefixCodec ℕ where
  encode := varintEncode limit
  decode := varintDecode limit
  size := varintSize
  length_encode := length_varintEncode
  decode_append := varintDecode_append
  decode_extend := varintDecode_extend

/-- Every integer below the limit has an encoding. Assumes: the limit is at most `2 ^ 64`. -/
theorem varint_encode_of_lt {limit value : ℕ} (hlimit : limit ≤ 2 ^ 64) (hvalue : value < limit) :
    ∃ bytes, (varint limit).encode value = some bytes := by
  change ∃ bytes, varintEncode limit value = some bytes
  unfold varintEncode
  split_ifs with habove hbyte hshort hword hlong
  · omega
  · exact ⟨_, rfl⟩
  · exact ⟨_, rfl⟩
  · exact ⟨_, rfl⟩
  · exact ⟨_, rfl⟩
  · omega

/-- A 64-bit integer. -/
def u64 : PrefixCodec UInt64 :=
  (varint (2 ^ 64)).imap (fun value ↦ some (UInt64.ofNat value)) UInt64.toNat
    fun value ↦ by rw [UInt64.ofNat_toNat]

/-- A 32-bit integer. -/
def u32 : PrefixCodec UInt32 :=
  (varint (2 ^ 32)).imap (fun value ↦ some (UInt32.ofNat value)) UInt32.toNat
    fun value ↦ by rw [UInt32.ofNat_toNat]

theorem u64_encodesBelow (bound : ℕ) : u64.EncodesBelow bound :=
  fun value _ ↦ varint_encode_of_lt (Nat.le_refl _) value.toNat_lt

theorem u32_encodesBelow (bound : ℕ) : u32.EncodesBelow bound :=
  fun value _ ↦ varint_encode_of_lt (by decide) value.toNat_lt

/-! ### Booleans, texts and lists -/

/-- A boolean is the byte 0 or 1. -/
def bool : PrefixCodec Bool :=
  byte.imap (fun value ↦ if value = 0 then some false else if value = 1 then some true else none)
    (fun value ↦ if value then 1 else 0) fun value ↦ by cases value <;> rfl

theorem bool_encodesBelow (bound : ℕ) : bool.EncodesBelow bound :=
  imap_encodesBelow (byte_encodesBelow bound) _ _ _

/-- The UTF-8 bytes of a text. -/
def utf8 (text : String) : List UInt8 :=
  text.toUTF8.data.toList

/-- The bytes of two texts are joined with the texts. -/
theorem utf8_append (first second : String) :
    utf8 (first ++ second) = utf8 first ++ utf8 second := by
  simp [utf8, String.toByteArray_append]

/-- The bytes of a text are those of its characters. -/
theorem utf8_eq_flatMap (text : String) :
    utf8 text = text.toList.flatMap String.utf8EncodeChar := by
  rw [utf8, String.toUTF8_eq_toByteArray, ← String.utf8Encode_toList, List.utf8Encode,
    List.data_toByteArray]

/-- The text of a run of UTF-8 bytes, when they are valid. -/
def fromUtf8 (bytes : List UInt8) : Option String :=
  String.fromUTF8? ⟨bytes.toArray⟩

@[simp] theorem fromUtf8_utf8 (text : String) : fromUtf8 (utf8 text) = some text := by
  simp only [fromUtf8, utf8, Array.toArray_toList]
  exact dif_pos text.isValidUTF8

/-- The bytes that a text is read from are those of the text. -/
theorem fromUtf8_eq_some_iff {bytes : List UInt8} {text : String} :
    fromUtf8 bytes = some text ↔ utf8 text = bytes := by
  constructor
  · intro hread
    unfold fromUtf8 String.fromUTF8? at hread
    split_ifs at hread with hvalid
    rw [← Option.some.inj hread]
    rfl
  · rintro rfl
    exact fromUtf8_utf8 text

@[simp] theorem length_utf8 (text : String) : (utf8 text).length = text.utf8ByteSize := by
  rw [utf8, Array.length_toList]
  rfl

/-- A repeated ASCII character has as many bytes as it has occurrences. Assumes: the character is
one byte. -/
theorem utf8ByteSize_replicate {character : Char} (hcharacter : character.utf8Size = 1)
    (count : ℕ) : (String.ofList (List.replicate count character)).utf8ByteSize = count := by
  induction count with
  | zero => rfl
  | succ count ih =>
    have hcons : String.ofList (List.replicate (count + 1) character) =
        String.singleton character ++ String.ofList (List.replicate count character) := by
      rw [List.replicate_succ, String.ofList_cons]
    rw [hcons, String.utf8ByteSize_append, ih, String.utf8ByteSize_singleton, hcharacter,
      Nat.add_comm]

theorem utf8_injective : Function.Injective utf8 := by
  intro first second hbytes
  have hdecode := fromUtf8_utf8 first
  rw [hbytes, fromUtf8_utf8] at hdecode
  simpa using hdecode.symm

/-- The number of bytes of a text behind its length. -/
def stringSize (text : String) : ℕ :=
  varintSize text.utf8ByteSize + text.utf8ByteSize

/-- A text behind its number of bytes. -/
def string : PrefixCodec String :=
  (lengthPrefixed (varint (2 ^ 64))).imap fromUtf8 utf8 fromUtf8_utf8

@[simp] theorem size_u64 (value : UInt64) : u64.size value = varintSize value.toNat := rfl

@[simp] theorem size_u32 (value : UInt32) : u32.size value = varintSize value.toNat := rfl

@[simp] theorem size_string (text : String) : string.size text = stringSize text := by
  change varintSize (utf8 text).length + (utf8 text).length = stringSize text
  rw [length_utf8]
  rfl

theorem one_le_varintSize (value : ℕ) : 1 ≤ varintSize value := by
  unfold varintSize
  split_ifs <;> omega

theorem varintSize_le (value : ℕ) : varintSize value ≤ 9 := by
  unfold varintSize
  split_ifs <;> omega

theorem string_encodesBelow {bound : ℕ} (hbound : bound ≤ 2 ^ 64) : string.EncodesBelow bound :=
  imap_encodesBelow (lengthPrefixed_encodesBelow fun _ hcount ↦
    varint_encode_of_lt (Nat.le_refl _) (Nat.lt_of_lt_of_le hcount hbound)) _ _ _

/-- A list of texts behind their number. -/
def strings : PrefixCodec (List String) :=
  vec (varint (2 ^ 64)) string

@[simp] theorem size_strings (texts : List String) :
    strings.size texts = varintSize texts.length + (texts.map stringSize).sum := by
  change varintSize texts.length + (texts.map string.size).sum = _
  rw [show string.size = stringSize from funext size_string]

theorem strings_encodesBelow {bound : ℕ} (hbound : bound ≤ 2 ^ 64) :
    strings.EncodesBelow bound := by
  refine vec_encodesBelow (fun _ hcount ↦ varint_encode_of_lt (Nat.le_refl _)
    (Nat.lt_of_lt_of_le hcount hbound)) (string_encodesBelow hbound) fun text ↦ ?_
  have hheader := one_le_varintSize text.utf8ByteSize
  rw [size_string, stringSize]
  omega

/-! ### Reading under a limit -/

/-- Claim bytes against what is left of a limit. -/
def claim (count left : ℕ) : Option ℕ :=
  if count ≤ left then some (left - count) else none

/-- Two claims in a row are one claim. -/
theorem claim_bind_claim (first second left : ℕ) :
    (claim first left).bind (claim second) = claim (first + second) left := by
  unfold claim
  split_ifs with hfirst hboth hboth
  · rw [Option.bind_some, if_pos (by omega), Nat.sub_sub]
  · exact if_neg (by omega)
  · omega
  · rfl

/-- A reader of the values of a codec under a limit: it claims bytes against what is left of the
limit as it goes. `read_eq` says that it reads what the codec reads, and claims a number of bytes
that depends on the value only. -/
structure LimitedReader {α : Type u} (codec : PrefixCodec α) where
  /-- One value read from the front of the input, what is left of the limit, and the bytes that
  follow the value. -/
  read : ℕ → List UInt8 → Option (α × ℕ × List UInt8)
  /-- The number of bytes that are claimed for a value. -/
  claimed : α → ℕ
  read_eq : ∀ left input, read left input =
    (codec.decode input).bind fun value ↦
      (claim (claimed value.1) left).map fun left ↦ (value.1, left, value.2)

namespace LimitedReader

variable {α : Type u} {β : Type v}

/-- A byte is claimed as such. -/
def byte : LimitedReader PrefixCodec.byte where
  read left input :=
    (claim 1 left).bind fun left ↦
      (PrefixCodec.byte.decode input).map fun value ↦ (value.1, left, value.2)
  claimed _ := 1
  read_eq left input := by
    cases claim 1 left <;> cases PrefixCodec.byte.decode input <;> rfl

/-- For a run of bytes behind its length, 8 bytes are claimed for the length, however many it
takes, and then the bytes of the run. -/
def lengthPrefixed : LimitedReader (PrefixCodec.lengthPrefixed (varint (2 ^ 64))) where
  read left input :=
    (claim 8 left).bind fun left ↦
      (varintDecode (2 ^ 64) input).bind fun length ↦
        (claim length.1 left).bind fun left ↦
          (takeExactly length.1 length.2).map fun value ↦ (value.1, left, value.2)
  claimed bytes := 8 + bytes.length
  read_eq left input := by
    change _ = ((varintDecode (2 ^ 64) input).bind fun length ↦
      takeExactly length.1 length.2).bind _
    cases varintDecode (2 ^ 64) input with
    | none => cases claim 8 left <;> rfl
    | some length =>
      simp only [Option.bind_some]
      cases htake : takeExactly length.1 length.2 with
      | none =>
        cases claim 8 left with
        | none => rfl
        | some left => simp
      | some value =>
        obtain ⟨hlength, -⟩ := takeExactly_eq_some_iff.mp htake
        rw [Option.bind_some, hlength, ← claim_bind_claim]
        cases claim 8 left with
        | none => rfl
        | some left => cases hclaim : claim length.1 left <;> simp [hclaim]

/-- The claims of two values add up. -/
def pair {left : PrefixCodec α} {right : PrefixCodec β} (first : LimitedReader left)
    (second : LimitedReader right) : LimitedReader (left.pair right) where
  read left input :=
    (first.read left input).bind fun value ↦
      (second.read value.2.1 value.2.2).map fun other ↦ ((value.1, other.1), other.2)
  claimed value := first.claimed value.1 + second.claimed value.2
  read_eq budget input := by
    change _ = ((left.decode input).bind fun value ↦
      (right.decode value.2).map fun other ↦ ((value.1, other.1), other.2)).bind _
    rw [first.read_eq]
    cases left.decode input with
    | none => rfl
    | some value =>
      simp only [Option.bind_some, second.read_eq]
      cases hother : right.decode value.2 with
      | none => cases claim (first.claimed value.1) budget <;> simp [hother]
      | some other =>
        simp only [Option.bind_some, Option.map_some, ← claim_bind_claim]
        cases claim (first.claimed value.1) budget with
        | none => rfl
        | some left => cases hclaim : claim (second.claimed other.1) left <;> simp [hother, hclaim]

/-- The same claims for a value that is read as another type. Assumes: they can be told from what is
packed. -/
def imap {codec : PrefixCodec α} (reader : LimitedReader codec) {pack : α → Option β}
    {unpack : β → α} {pack_unpack : ∀ value, pack (unpack value) = some value} (claimed : β → ℕ)
    (claimed_pack : ∀ {raw value}, pack raw = some value → claimed value = reader.claimed raw) :
    LimitedReader (codec.imap pack unpack pack_unpack) where
  read left input :=
    (reader.read left input).bind fun raw ↦ (pack raw.1).map fun value ↦ (value, raw.2)
  claimed := claimed
  read_eq left input := by
    change _ = ((codec.decode input).bind fun raw ↦
      (pack raw.1).map fun value ↦ (value, raw.2)).bind _
    rw [reader.read_eq]
    cases codec.decode input with
    | none => rfl
    | some raw =>
      simp only [Option.bind_some]
      cases hpack : pack raw.1 with
      | none => cases claim (reader.claimed raw.1) left <;> simp [hpack]
      | some value =>
        rw [Option.map_some, Option.bind_some, claimed_pack hpack]
        cases claim (reader.claimed raw.1) left <;> simp [hpack]

/-- A boolean is claimed as its byte. -/
def bool : LimitedReader Bincode.bool :=
  byte.imap (fun _ ↦ 1) fun _ ↦ rfl

/-- A text is claimed as its bytes behind their number. -/
def string : LimitedReader Bincode.string :=
  lengthPrefixed.imap (fun text ↦ 8 + text.utf8ByteSize) fun {raw text} hread ↦ by
    rw [← fromUtf8_eq_some_iff.mp hread, ← length_utf8]
    rfl

end LimitedReader

/-- Read one value for which at most `limit` bytes are claimed. -/
def decodeWithLimit {α : Type u} {codec : PrefixCodec α} (limit : ℕ) (reader : LimitedReader codec)
    (input : List UInt8) : Option (α × List UInt8) :=
  (reader.read limit input).map fun value ↦ (value.1, value.2.2)

/-- The limit refuses the values for which more is claimed, and nothing else. -/
theorem decodeWithLimit_eq {α : Type u} {codec : PrefixCodec α} (limit : ℕ)
    (reader : LimitedReader codec) (input : List UInt8) :
    decodeWithLimit limit reader input =
      (codec.decode input).filter fun value ↦ decide (reader.claimed value.1 ≤ limit) := by
  rw [decodeWithLimit, reader.read_eq]
  cases codec.decode input with
  | none => rfl
  | some value =>
    rw [Option.bind_some, claim]
    split_ifs with hclaimed
    · simp [Option.filter, hclaimed]
    · simp [Option.filter, hclaimed]

end Wire.Bincode
