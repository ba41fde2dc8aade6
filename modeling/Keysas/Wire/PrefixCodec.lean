import Mathlib.Algebra.Ring.Nat
import Mathlib.Data.List.Basic
import Mathlib.Data.Option.Basic
import Mathlib.Tactic.Common

/-!
# Prefix codecs and fixed receive buffers

A prefix codec is a binary format whose reader knows by itself where a value ends: `decode` reads
one value from the front of its input and returns the bytes it did not use. The writer is partial,
as serializers are: a value that the format has no room for has no encoding.

Two laws carry everything. `decode_append` is the round trip in front of any suffix, and
`decode_extend` says that a successful read does not depend on what follows it. Together they give
`decode_truncated`: no strict prefix of an encoding decodes at all. `length_encode` ties the length
of an encoding to a `size` that is computed without encoding, so that the sizes of products and
lists add up by themselves. `EncodesBelow` says that every value whose size is below a bound has an
encoding.

`pair`, `imap`, `lengthPrefixed` and `vec` build the codec of a record from the codecs of its
fields in the order in which they are written.

`receiveInto` is what a reader with one fixed, zero-filled buffer holds after a single read of a
message. `decode_receiveInto` and `decode_receiveInto_of_lt` say that the reader gets the value back
when its encoding fits the buffer and nothing when it does not, whatever the format. `decode_take`
is the same for a reader that looks at the bytes it has read only.
-/

set_option autoImplicit false
set_option relaxedAutoImplicit false

namespace Wire

universe u v

/-- A binary format that delimits itself: a partial writer, a reader that returns the unread rest,
and the size of the encoding, with the laws that connect them. -/
structure PrefixCodec (α : Type u) where
  /-- The bytes of a value, or nothing when the format cannot represent it. -/
  encode : α → Option (List UInt8)
  /-- One value read from the front of the input, and the bytes that follow it. -/
  decode : List UInt8 → Option (α × List UInt8)
  /-- The number of bytes of the encoding of a value. -/
  size : α → ℕ
  length_encode : ∀ {value : α} {bytes : List UInt8},
    encode value = some bytes → bytes.length = size value
  decode_append : ∀ {value : α} {bytes : List UInt8},
    encode value = some bytes → ∀ rest, decode (bytes ++ rest) = some (value, rest)
  decode_extend : ∀ {input rest : List UInt8} {value : α},
    decode input = some (value, rest) → ∀ more, decode (input ++ more) = some (value, rest ++ more)

namespace PrefixCodec

variable {α : Type u} {β : Type v}

/-- A complete encoding decodes to its value with nothing left over. -/
theorem decode_encode (codec : PrefixCodec α) {value : α} {bytes : List UInt8}
    (hencode : codec.encode value = some bytes) : codec.decode bytes = some (value, []) := by
  simpa using codec.decode_append hencode []

/-- No strict prefix of an encoding decodes. Assumes: the prefix misses at least one byte. -/
theorem decode_truncated (codec : PrefixCodec α) {value : α} {front back : List UInt8}
    (hencode : codec.encode value = some (front ++ back)) (hback : back ≠ []) :
    codec.decode front = none := by
  by_contra hdecode
  obtain ⟨⟨other, rest⟩, hother⟩ := Option.ne_none_iff_exists'.mp hdecode
  have hextended := codec.decode_extend hother back
  rw [codec.decode_encode hencode] at hextended
  have hrest : [] = rest ++ back := by
    simpa using congrArg (Option.map Prod.snd) hextended
  exact hback (List.append_eq_nil_iff.mp hrest.symm).2

/-- Every value whose size is below a bound has an encoding. -/
def EncodesBelow (codec : PrefixCodec α) (bound : ℕ) : Prop :=
  ∀ value, codec.size value < bound → ∃ bytes, codec.encode value = some bytes

/-! ### Single bytes and fixed runs of bytes -/

/-- One byte. -/
def byte : PrefixCodec UInt8 where
  encode value := some [value]
  decode
    | [] => none
    | head :: rest => some (head, rest)
  size _ := 1
  length_encode := by
    intro value bytes hencode
    obtain rfl := Option.some.inj hencode
    rfl
  decode_append := by
    intro value bytes hencode rest
    obtain rfl := Option.some.inj hencode
    rfl
  decode_extend := by
    intro input rest value hdecode more
    cases input with
    | nil => simp at hdecode
    | cons head tail =>
      obtain ⟨rfl, rfl⟩ : head = value ∧ tail = rest := by simpa using hdecode
      rfl

theorem byte_encodesBelow (bound : ℕ) : byte.EncodesBelow bound :=
  fun value _ ↦ ⟨[value], rfl⟩

/-- The first `count` bytes of the input, when it has that many. -/
def takeExactly (count : ℕ) (input : List UInt8) : Option (List UInt8 × List UInt8) :=
  if count ≤ input.length then some (input.take count, input.drop count) else none

theorem takeExactly_append (front rest : List UInt8) :
    takeExactly front.length (front ++ rest) = some (front, rest) := by
  simp [takeExactly]

/-- What is taken has the length asked for, and the rest follows it. -/
theorem takeExactly_eq_some_iff {count : ℕ} {input front rest : List UInt8} :
    takeExactly count input = some (front, rest) ↔
      front.length = count ∧ input = front ++ rest := by
  constructor
  · intro htake
    unfold takeExactly at htake
    split_ifs at htake with hlength
    obtain ⟨rfl, rfl⟩ : input.take count = front ∧ input.drop count = rest := by simpa using htake
    exact ⟨List.length_take_of_le hlength, (List.take_append_drop count input).symm⟩
  · rintro ⟨rfl, rfl⟩
    exact takeExactly_append front rest

theorem takeExactly_extend {count : ℕ} {input front rest : List UInt8}
    (htake : takeExactly count input = some (front, rest)) (more : List UInt8) :
    takeExactly count (input ++ more) = some (front, rest ++ more) := by
  unfold takeExactly at htake ⊢
  split_ifs at htake with hlength
  obtain ⟨rfl, rfl⟩ : input.take count = front ∧ input.drop count = rest := by simpa using htake
  have hlonger : count ≤ (input ++ more).length := by
    rw [List.length_append]
    omega
  rw [if_pos hlonger, List.take_append_of_le_length hlength, List.drop_append_of_le_length hlength]

/-! ### Little-endian integers -/

/-- The `width` base-256 digits of a number, the lowest first. -/
def littleEndianBytes : ℕ → ℕ → List UInt8
  | 0, _ => []
  | width + 1, value => UInt8.ofNat (value % 256) :: littleEndianBytes width (value / 256)

/-- The number whose `width` lowest-first base-256 digits stand at the front of the input. -/
def littleEndianValue : ℕ → List UInt8 → Option (ℕ × List UInt8)
  | 0, input => some (0, input)
  | _ + 1, [] => none
  | width + 1, digit :: rest =>
    (littleEndianValue width rest).map fun read ↦ (digit.toNat + 256 * read.1, read.2)

@[simp] theorem length_littleEndianBytes (width value : ℕ) :
    (littleEndianBytes width value).length = width := by
  induction width generalizing value with
  | zero => rfl
  | succ width ih => simp [littleEndianBytes, ih]

/-- The lowest digit of a number is a byte. -/
theorem toNat_lowDigit (value : ℕ) : (UInt8.ofNat (value % 256)).toNat = value % 256 := by
  rw [UInt8.toNat_ofNat']
  exact Nat.mod_eq_of_lt (Nat.mod_lt _ (by decide))

/-- Without its lowest digit a number has one digit less. -/
theorem div_lt_pow_of_lt {width value : ℕ} (hvalue : value < 256 ^ (width + 1)) :
    value / 256 < 256 ^ width := by
  rw [Nat.pow_succ] at hvalue
  exact Nat.div_lt_of_lt_mul (by omega)

theorem littleEndianValue_append {width value : ℕ} (hvalue : value < 256 ^ width)
    (rest : List UInt8) :
    littleEndianValue width (littleEndianBytes width value ++ rest) = some (value, rest) := by
  induction width generalizing value with
  | zero =>
    obtain rfl : value = 0 := by simpa using hvalue
    rfl
  | succ width ih =>
    simp only [littleEndianBytes, List.cons_append, littleEndianValue, ih (div_lt_pow_of_lt hvalue),
      Option.map_some, toNat_lowDigit, Nat.mod_add_div]

/-- A number is read from an input that is long enough, and it has not more digits than were
read. -/
theorem exists_littleEndianValue {width : ℕ} {input : List UInt8} (hlength : width ≤ input.length) :
    ∃ value < 256 ^ width, littleEndianValue width input = some (value, input.drop width) := by
  induction width generalizing input with
  | zero => exact ⟨0, Nat.one_pos, rfl⟩
  | succ width ih =>
    cases input with
    | nil => exact absurd hlength (Nat.not_succ_le_zero width)
    | cons digit rest =>
      obtain ⟨high, hhigh, hread⟩ := ih (Nat.le_of_succ_le_succ hlength)
      have hdigit := digit.toNat_lt
      refine ⟨digit.toNat + 256 * high, ?_, by simp [littleEndianValue, hread]⟩
      rw [Nat.pow_succ]
      omega

/-- No number is read from an input that is too short. -/
theorem littleEndianValue_of_length_lt {width : ℕ} {input : List UInt8}
    (hlength : input.length < width) : littleEndianValue width input = none := by
  induction width generalizing input with
  | zero => exact absurd hlength (Nat.not_lt_zero _)
  | succ width ih =>
    cases input with
    | nil => rfl
    | cons digit rest =>
      rw [littleEndianValue, ih (Nat.lt_of_succ_lt_succ hlength), Option.map_none]

theorem littleEndianValue_extend {width value : ℕ} {input rest : List UInt8}
    (hread : littleEndianValue width input = some (value, rest)) (more : List UInt8) :
    littleEndianValue width (input ++ more) = some (value, rest ++ more) := by
  induction width generalizing input value with
  | zero =>
    obtain ⟨rfl, rfl⟩ : 0 = value ∧ input = rest := by simpa [littleEndianValue] using hread
    rfl
  | succ width ih =>
    cases input with
    | nil => simp [littleEndianValue] at hread
    | cons digit tail =>
      obtain ⟨⟨high, unread⟩, htail, hvalue⟩ := Option.map_eq_some_iff.mp hread
      obtain ⟨rfl, rfl⟩ : digit.toNat + 256 * high = value ∧ unread = rest := by
        simpa using hvalue
      simp [littleEndianValue, ih htail]

/-! ### Products and changes of representation -/

/-- Two values, the first written in front of the second. -/
def pair (left : PrefixCodec α) (right : PrefixCodec β) : PrefixCodec (α × β) where
  encode value :=
    (left.encode value.1).bind fun front ↦ (right.encode value.2).map fun back ↦ front ++ back
  decode input :=
    (left.decode input).bind fun first ↦
      (right.decode first.2).map fun second ↦ ((first.1, second.1), second.2)
  size value := left.size value.1 + right.size value.2
  length_encode := by
    rintro ⟨first, second⟩ bytes hencode
    obtain ⟨front, hfront, hencode⟩ := Option.bind_eq_some_iff.mp hencode
    obtain ⟨back, hback, rfl⟩ := Option.map_eq_some_iff.mp hencode
    rw [List.length_append, left.length_encode hfront, right.length_encode hback]
  decode_append := by
    rintro ⟨first, second⟩ bytes hencode rest
    obtain ⟨front, hfront, hencode⟩ := Option.bind_eq_some_iff.mp hencode
    obtain ⟨back, hback, rfl⟩ := Option.map_eq_some_iff.mp hencode
    simp [List.append_assoc, left.decode_append hfront, right.decode_append hback]
  decode_extend := by
    rintro input rest ⟨first, second⟩ hdecode more
    obtain ⟨⟨readFirst, middle⟩, hfirst, hdecode⟩ := Option.bind_eq_some_iff.mp hdecode
    obtain ⟨⟨readSecond, unread⟩, hsecond, hread⟩ := Option.map_eq_some_iff.mp hdecode
    obtain ⟨⟨rfl, rfl⟩, rfl⟩ : (readFirst = first ∧ readSecond = second) ∧ unread = rest := by
      simpa using hread
    simp [left.decode_extend hfirst, right.decode_extend hsecond]

theorem pair_encodesBelow {left : PrefixCodec α} {right : PrefixCodec β} {bound : ℕ}
    (hleft : left.EncodesBelow bound) (hright : right.EncodesBelow bound) :
    (left.pair right).EncodesBelow bound := by
  rintro ⟨first, second⟩ hsize
  have hsum : left.size first + right.size second < bound := hsize
  obtain ⟨front, hfront⟩ := hleft first (by omega)
  obtain ⟨back, hback⟩ := hright second (by omega)
  exact ⟨front ++ back, by simp [pair, hfront, hback]⟩

/-- The same bytes read as another type: `pack` may refuse what it reads, and accepts everything
that `unpack` writes. -/
def imap (codec : PrefixCodec α) (pack : α → Option β) (unpack : β → α)
    (pack_unpack : ∀ value, pack (unpack value) = some value) : PrefixCodec β where
  encode value := codec.encode (unpack value)
  decode input :=
    (codec.decode input).bind fun read ↦ (pack read.1).map fun value ↦ (value, read.2)
  size value := codec.size (unpack value)
  length_encode := codec.length_encode
  decode_append := by
    intro value bytes hencode rest
    simp [codec.decode_append hencode, pack_unpack]
  decode_extend := by
    intro input rest value hdecode more
    obtain ⟨⟨raw, unread⟩, hraw, hdecode⟩ := Option.bind_eq_some_iff.mp hdecode
    obtain ⟨packed, hpacked, hread⟩ := Option.map_eq_some_iff.mp hdecode
    obtain ⟨rfl, rfl⟩ : packed = value ∧ unread = rest := by simpa using hread
    simp [codec.decode_extend hraw, hpacked]

theorem imap_encodesBelow {codec : PrefixCodec α} {bound : ℕ} (hcodec : codec.EncodesBelow bound)
    (pack : α → Option β) (unpack : β → α)
    (pack_unpack : ∀ value, pack (unpack value) = some value) :
    (codec.imap pack unpack pack_unpack).EncodesBelow bound :=
  fun value hsize ↦ hcodec (unpack value) hsize

/-! ### Length-prefixed bytes and lists -/

/-- A run of bytes behind its length. -/
def lengthPrefixed (lengths : PrefixCodec ℕ) : PrefixCodec (List UInt8) where
  encode value := (lengths.encode value.length).map fun header ↦ header ++ value
  decode input := (lengths.decode input).bind fun read ↦ takeExactly read.1 read.2
  size value := lengths.size value.length + value.length
  length_encode := by
    intro value bytes hencode
    obtain ⟨header, hheader, rfl⟩ := Option.map_eq_some_iff.mp hencode
    rw [List.length_append, lengths.length_encode hheader]
  decode_append := by
    intro value bytes hencode rest
    obtain ⟨header, hheader, rfl⟩ := Option.map_eq_some_iff.mp hencode
    simp [List.append_assoc, lengths.decode_append hheader, takeExactly_append]
  decode_extend := by
    intro input rest value hdecode more
    obtain ⟨⟨count, unread⟩, hcount, htake⟩ := Option.bind_eq_some_iff.mp hdecode
    simp [lengths.decode_extend hcount, takeExactly_extend htake]

/-- `count` values read one after the other. -/
def decodeMany (codec : PrefixCodec α) : ℕ → List UInt8 → Option (List α × List UInt8)
  | 0, input => some ([], input)
  | count + 1, input =>
    (codec.decode input).bind fun first ↦
      (decodeMany codec count first.2).map fun others ↦ (first.1 :: others.1, others.2)

/-- The encodings of the values one after the other. -/
def encodeMany (codec : PrefixCodec α) : List α → Option (List UInt8)
  | [] => some []
  | first :: others =>
    (codec.encode first).bind fun front ↦ (encodeMany codec others).map fun back ↦ front ++ back

theorem length_encodeMany (codec : PrefixCodec α) {values : List α} {bytes : List UInt8}
    (hencode : encodeMany codec values = some bytes) :
    bytes.length = (values.map codec.size).sum := by
  induction values generalizing bytes with
  | nil =>
    obtain rfl := Option.some.inj hencode
    rfl
  | cons first others ih =>
    obtain ⟨front, hfront, hencode⟩ := Option.bind_eq_some_iff.mp hencode
    obtain ⟨back, hback, rfl⟩ := Option.map_eq_some_iff.mp hencode
    rw [List.length_append, codec.length_encode hfront, ih hback, List.map_cons, List.sum_cons]

theorem decodeMany_append (codec : PrefixCodec α) {values : List α} {bytes : List UInt8}
    (hencode : encodeMany codec values = some bytes) (rest : List UInt8) :
    decodeMany codec values.length (bytes ++ rest) = some (values, rest) := by
  induction values generalizing bytes with
  | nil =>
    obtain rfl := Option.some.inj hencode
    rfl
  | cons first others ih =>
    obtain ⟨front, hfront, hencode⟩ := Option.bind_eq_some_iff.mp hencode
    obtain ⟨back, hback, rfl⟩ := Option.map_eq_some_iff.mp hencode
    simp [decodeMany, List.append_assoc, codec.decode_append hfront, ih hback]

theorem decodeMany_extend (codec : PrefixCodec α) {count : ℕ} {input rest : List UInt8}
    {values : List α} (hdecode : decodeMany codec count input = some (values, rest))
    (more : List UInt8) :
    decodeMany codec count (input ++ more) = some (values, rest ++ more) := by
  induction count generalizing input values with
  | zero =>
    obtain ⟨rfl, rfl⟩ : [] = values ∧ input = rest := by simpa [decodeMany] using hdecode
    rfl
  | succ count ih =>
    obtain ⟨⟨first, middle⟩, hfirst, hdecode⟩ := Option.bind_eq_some_iff.mp hdecode
    obtain ⟨⟨others, unread⟩, hothers, hread⟩ := Option.map_eq_some_iff.mp hdecode
    obtain ⟨rfl, rfl⟩ : first :: others = values ∧ unread = rest := by simpa using hread
    simp [decodeMany, codec.decode_extend hfirst, ih hothers]

/-- A list of values behind their number. -/
def vec (lengths : PrefixCodec ℕ) (codec : PrefixCodec α) : PrefixCodec (List α) where
  encode values :=
    (lengths.encode values.length).bind fun header ↦
      (encodeMany codec values).map fun body ↦ header ++ body
  decode input := (lengths.decode input).bind fun read ↦ decodeMany codec read.1 read.2
  size values := lengths.size values.length + (values.map codec.size).sum
  length_encode := by
    intro values bytes hencode
    obtain ⟨header, hheader, hencode⟩ := Option.bind_eq_some_iff.mp hencode
    obtain ⟨body, hbody, rfl⟩ := Option.map_eq_some_iff.mp hencode
    rw [List.length_append, lengths.length_encode hheader, length_encodeMany codec hbody]
  decode_append := by
    intro values bytes hencode rest
    obtain ⟨header, hheader, hencode⟩ := Option.bind_eq_some_iff.mp hencode
    obtain ⟨body, hbody, rfl⟩ := Option.map_eq_some_iff.mp hencode
    simp [List.append_assoc, lengths.decode_append hheader, decodeMany_append codec hbody]
  decode_extend := by
    intro input rest values hdecode more
    obtain ⟨⟨count, unread⟩, hcount, hmany⟩ := Option.bind_eq_some_iff.mp hdecode
    simp [lengths.decode_extend hcount, decodeMany_extend codec hmany]

/-- Assumes: every value of the codec takes at least one byte, values below the bound have
encodings, and so do the lengths below the bound. -/
theorem vec_encodesBelow {lengths : PrefixCodec ℕ} {codec : PrefixCodec α} {bound : ℕ}
    (hlengths : ∀ count, count < bound → ∃ bytes, lengths.encode count = some bytes)
    (hcodec : codec.EncodesBelow bound) (hpositive : ∀ value, 1 ≤ codec.size value) :
    (vec lengths codec).EncodesBelow bound := by
  intro values hsize
  have hsum : lengths.size values.length + (values.map codec.size).sum < bound := hsize
  have hcount : values.length ≤ (values.map codec.size).sum := by
    clear hsum hsize
    induction values with
    | nil => simp
    | cons first others ih =>
      have hfirst := hpositive first
      simp only [List.length_cons, List.map_cons, List.sum_cons]
      omega
  have hmany : ∀ others : List α, (others.map codec.size).sum < bound →
      ∃ bytes, encodeMany codec others = some bytes := by
    intro others hothers
    induction others with
    | nil => exact ⟨[], rfl⟩
    | cons first others ih =>
      rw [List.map_cons, List.sum_cons] at hothers
      obtain ⟨front, hfront⟩ := hcodec first (by omega)
      obtain ⟨back, hback⟩ := ih (by omega)
      exact ⟨front ++ back, by simp [encodeMany, hfront, hback]⟩
  obtain ⟨header, hheader⟩ := hlengths values.length (by omega)
  obtain ⟨body, hbody⟩ := hmany values (by omega)
  exact ⟨header ++ body, by simp [vec, hheader, hbody]⟩

/-- Assumes: the lengths below the bound have encodings. -/
theorem lengthPrefixed_encodesBelow {lengths : PrefixCodec ℕ} {bound : ℕ}
    (hlengths : ∀ count, count < bound → ∃ bytes, lengths.encode count = some bytes) :
    (lengthPrefixed lengths).EncodesBelow bound := by
  intro value hsize
  have hsum : lengths.size value.length + value.length < bound := hsize
  obtain ⟨header, hheader⟩ := hlengths value.length (by omega)
  exact ⟨header ++ value, by simp [lengthPrefixed, hheader]⟩

/-! ### Fixed receive buffers -/

/-- A zero-filled buffer of `capacity` bytes after one read of a message: the front of the message
that fits, and zeros behind it. -/
def receiveInto (capacity : ℕ) (message : List UInt8) : List UInt8 :=
  message.take capacity ++ List.replicate (capacity - message.length) 0

/-- A value whose encoding fits the buffer is read back from it, whatever the zeros behind it.
Assumes: the encoding is at most as long as the buffer. -/
theorem decode_receiveInto (codec : PrefixCodec α) {value : α} {message : List UInt8}
    {capacity : ℕ} (hencode : codec.encode value = some message)
    (hfits : message.length ≤ capacity) :
    codec.decode (receiveInto capacity message) =
      some (value, List.replicate (capacity - message.length) 0) := by
  rw [receiveInto, List.take_of_length_le hfits]
  exact codec.decode_append hencode _

/-- A value whose encoding is longer than the buffer is not read back from it, and nothing else is
read in its place. Assumes: the encoding is longer than the buffer. -/
theorem decode_receiveInto_of_lt (codec : PrefixCodec α) {value : α} {message : List UInt8}
    {capacity : ℕ} (hencode : codec.encode value = some message)
    (hlong : capacity < message.length) :
    codec.decode (receiveInto capacity message) = none := by
  have hpadding : capacity - message.length = 0 := by omega
  have hsplit : codec.encode value = some (message.take capacity ++ message.drop capacity) := by
    rw [List.take_append_drop]
    exact hencode
  have hdropped : message.drop capacity ≠ [] := by
    rw [Ne, List.drop_eq_nil_iff]
    omega
  rw [receiveInto, hpadding, List.replicate_zero, List.append_nil]
  exact codec.decode_truncated hsplit hdropped

/-- A single read of at most a number of bytes gives the value back exactly when its encoding is
not longer. -/
theorem decode_take (codec : PrefixCodec α) {value : α} {message : List UInt8}
    (hencode : codec.encode value = some message) (capacity : ℕ) :
    codec.decode (message.take capacity) =
      if codec.size value ≤ capacity then some (value, []) else none := by
  rw [← codec.length_encode hencode]
  split_ifs with hfits
  · rw [List.take_of_length_le hfits]
    exact codec.decode_encode hencode
  · have hfull := codec.decode_receiveInto_of_lt hencode (Nat.lt_of_not_le hfits)
    rwa [receiveInto, Nat.sub_eq_zero_of_le (Nat.le_of_not_le hfits), List.replicate_zero,
      List.append_nil] at hfull

end PrefixCodec

end Wire
