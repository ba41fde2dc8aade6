import Mathlib.Data.List.Basic
import Mathlib.Data.Option.Basic
import Mathlib.Tactic.Common

/-!
# Base64 and hexadecimal texts

Base64 in the standard alphabet with canonical padding: `encode` writes three bytes as four digits
and pads the last group, and `decode` accepts a text exactly when it is the encoding of some bytes,
so that neither missing padding nor stray bits behind it pass. `decode_encode` is the round trip,
`utf8ByteSize_encode` is the length of an encoding, and `bar_not_mem_encode` says that a bar may
stand between two encodings.

`hexEncode` writes each byte as two lowercase hexadecimal digits. The digits determine the bytes
(`hexChars_injective`), and `dash_not_mem_hexChars` keeps a dash out of them.
-/

set_option autoImplicit false
set_option relaxedAutoImplicit false

namespace Crypto

/-! ### Base64 -/

namespace Base64

/-- The digit of a number below 64. -/
def digit (value : ℕ) : Char :=
  if value < 26 then Char.ofNat (65 + value)
  else if value < 52 then Char.ofNat (71 + value)
  else if value < 62 then Char.ofNat (value - 4)
  else if value = 62 then '+'
  else '/'

/-- The number of a digit. -/
def digitValue (character : Char) : Option ℕ :=
  let code := character.toNat
  if 65 ≤ code ∧ code ≤ 90 then some (code - 65)
  else if 97 ≤ code ∧ code ≤ 122 then some (code - 71)
  else if 48 ≤ code ∧ code ≤ 57 then some (code + 4)
  else if character = '+' then some 62
  else if character = '/' then some 63
  else none

theorem digitValue_digit {value : ℕ} (hvalue : value < 64) :
    digitValue (digit value) = some value := by
  have hall : ∀ small < 64, digitValue (digit small) = some small := by decide
  exact hall value hvalue

theorem digit_ne_pad {value : ℕ} (hvalue : value < 64) : digit value ≠ '=' := by
  have hall : ∀ small < 64, digit small ≠ '=' := by decide
  exact hall value hvalue

/-- The digits of a run of bytes. -/
def encodeChars : List UInt8 → List Char
  | [] => []
  | [first] =>
    let block := first.toNat * 16
    [digit (block / 64), digit (block % 64), '=', '=']
  | [first, second] =>
    let block := first.toNat * 1024 + second.toNat * 4
    [digit (block / 4096), digit (block / 64 % 64), digit (block % 64), '=']
  | first :: second :: third :: rest =>
    let block := first.toNat * 65536 + second.toNat * 256 + third.toNat
    digit (block / 262144) :: digit (block / 4096 % 64) :: digit (block / 64 % 64) ::
      digit (block % 64) :: encodeChars rest

/-- The bytes of a run of digits, without a test that the padding is canonical. -/
def decodeChars : List Char → Option (List UInt8)
  | [] => some []
  | first :: second :: third :: fourth :: rest => do
    let high ← digitValue first
    let low ← digitValue second
    if third = '=' ∧ fourth = '=' ∧ rest = [] then
      return [UInt8.ofNat ((high * 64 + low) / 16)]
    else
      let next ← digitValue third
      if fourth = '=' ∧ rest = [] then
        let block := high * 4096 + low * 64 + next
        return [UInt8.ofNat (block / 1024), UInt8.ofNat (block / 4 % 256)]
      else
        let last ← digitValue fourth
        let others ← decodeChars rest
        let block := high * 262144 + low * 4096 + next * 64 + last
        return UInt8.ofNat (block / 65536) :: UInt8.ofNat (block / 256 % 256) ::
          UInt8.ofNat (block % 256) :: others
  | _ => none

/-- The encoding of a run of bytes. -/
def encode (bytes : List UInt8) : String :=
  String.ofList (encodeChars bytes)

/-- The bytes of a canonical encoding. -/
def decode (text : String) : Option (List UInt8) :=
  (decodeChars text.toList).filter fun bytes ↦ decide (encode bytes = text)

/-- A byte is read back from its value. -/
theorem ofNat_eq {value : ℕ} {byte : UInt8} (hvalue : value = byte.toNat) :
    UInt8.ofNat value = byte := by
  rw [hvalue, UInt8.ofNat_toNat]

/-- A block of two bytes is put together again from its three digits. -/
theorem threeDigits_eq (block : ℕ) :
    block / 4096 * 4096 + block / 64 % 64 * 64 + block % 64 = block := by
  omega

/-- A block of three bytes is put together again from its four digits. -/
theorem fourDigits_eq (block : ℕ) :
    block / 262144 * 262144 + block / 4096 % 64 * 4096 + block / 64 % 64 * 64 + block % 64 =
      block := by
  omega

theorem decodeChars_encodeChars (bytes : List UInt8) :
    decodeChars (encodeChars bytes) = some bytes := by
  induction bytes using encodeChars.induct with
  | case1 => rfl
  | case2 first =>
    have hfirst := first.toNat_lt
    have hbyte : UInt8.ofNat ((first.toNat * 16 / 64 * 64 + first.toNat * 16 % 64) / 16) = first :=
      ofNat_eq (by omega)
    simp only [encodeChars, decodeChars]
    rw [digitValue_digit (by omega), digitValue_digit (by omega)]
    simp only [Option.bind_eq_bind, Option.bind_some, and_self, if_true, hbyte]
    rfl
  | case3 first second =>
    have hfirst := first.toNat_lt
    have hsecond := second.toNat_lt
    simp only [encodeChars, decodeChars]
    generalize hblock : first.toNat * 1024 + second.toNat * 4 = block
    have hnext : block % 64 < 64 := by omega
    have hfirstByte : UInt8.ofNat (block / 1024) = first := ofNat_eq (by omega)
    have hsecondByte : UInt8.ofNat (block / 4 % 256) = second := ofNat_eq (by omega)
    rw [digitValue_digit (by omega), digitValue_digit (by omega), digitValue_digit hnext]
    simp only [Option.bind_eq_bind, Option.bind_some, digit_ne_pad hnext, and_self, false_and,
      if_true, if_false, threeDigits_eq, hfirstByte, hsecondByte]
    rfl
  | case4 first second third rest ih =>
    have hfirst := first.toNat_lt
    have hsecond := second.toNat_lt
    have hthird := third.toNat_lt
    simp only [encodeChars, decodeChars]
    generalize hblock : first.toNat * 65536 + second.toNat * 256 + third.toNat = block
    have hnext : block / 64 % 64 < 64 := by omega
    have hlast : block % 64 < 64 := by omega
    have hfirstByte : UInt8.ofNat (block / 65536) = first := ofNat_eq (by omega)
    have hsecondByte : UInt8.ofNat (block / 256 % 256) = second := ofNat_eq (by omega)
    have hthirdByte : UInt8.ofNat (block % 256) = third := ofNat_eq (by omega)
    rw [digitValue_digit (by omega), digitValue_digit (by omega), digitValue_digit hnext,
      digitValue_digit hlast, ih]
    simp only [Option.bind_eq_bind, Option.bind_some, digit_ne_pad hnext, digit_ne_pad hlast,
      false_and, if_false, fourDigits_eq, hfirstByte, hsecondByte, hthirdByte]
    rfl

@[simp] theorem decode_encode (bytes : List UInt8) : decode (encode bytes) = some bytes := by
  simp [decode, encode, decodeChars_encodeChars, Option.filter]

theorem digit_eq_slash {value : ℕ} (hvalue : ¬ value < 64) : digit value = '/' := by
  unfold digit
  rw [if_neg (by omega), if_neg (by omega), if_neg (by omega), if_neg (by omega)]

theorem digit_ne_bar (value : ℕ) : digit value ≠ '|' := by
  by_cases hvalue : value < 64
  · have hall : ∀ small < 64, digit small ≠ '|' := by decide
    exact hall value hvalue
  · rw [digit_eq_slash hvalue]
    decide

/-- A bar may separate two encodings: it occurs in none. -/
theorem bar_not_mem_encode (bytes : List UInt8) : '|' ∉ (encode bytes).toList := by
  rw [encode, String.toList_ofList]
  induction bytes using encodeChars.induct with
  | case1 => exact List.not_mem_nil
  | case2 first => simp [encodeChars, (digit_ne_bar _).symm]
  | case3 first second => simp [encodeChars, (digit_ne_bar _).symm]
  | case4 first second third rest ih => simp [encodeChars, (digit_ne_bar _).symm, ih]

theorem utf8Size_digit (value : ℕ) : (digit value).utf8Size = 1 := by
  by_cases hvalue : value < 64
  · have hall : ∀ small < 64, (digit small).utf8Size = 1 := by decide
    exact hall value hvalue
  · rw [digit_eq_slash hvalue]
    rfl

theorem utf8ByteSize_ofList_cons (character : Char) (rest : List Char) :
    (String.ofList (character :: rest)).utf8ByteSize =
      character.utf8Size + (String.ofList rest).utf8ByteSize := by
  rw [String.ofList_cons, String.utf8ByteSize_append, String.utf8ByteSize_singleton]

/-- An encoding has four characters of one byte for every three bytes, also for an incomplete
group. -/
theorem utf8ByteSize_encode (bytes : List UInt8) :
    (encode bytes).utf8ByteSize = 4 * ((bytes.length + 2) / 3) := by
  have hpad : Char.utf8Size '=' = 1 := rfl
  have hnil : (String.ofList []).utf8ByteSize = 0 := rfl
  unfold encode
  induction bytes using encodeChars.induct with
  | case1 => rfl
  | case2 first =>
    simp only [encodeChars, utf8ByteSize_ofList_cons, utf8Size_digit, hpad, hnil, List.length_cons,
      List.length_nil]
  | case3 first second =>
    simp only [encodeChars, utf8ByteSize_ofList_cons, utf8Size_digit, hpad, hnil, List.length_cons,
      List.length_nil]
  | case4 first second third rest ih =>
    simp only [encodeChars, utf8ByteSize_ofList_cons, utf8Size_digit, ih, List.length_cons]
    omega

example : encode [0x4B, 0x65, 0x79, 0x73] = "S2V5cw==" ∧ decode "S2V5cx==" = none := by decide

end Base64

/-! ### Hexadecimal -/

/-- A lowercase hexadecimal digit. -/
def hexDigit (value : ℕ) : Char :=
  if value < 10 then Char.ofNat (48 + value) else Char.ofNat (87 + value)

/-- The two digits of each byte. -/
def hexChars (bytes : List UInt8) : List Char :=
  bytes.flatMap fun byte ↦ [hexDigit (byte.toNat / 16), hexDigit (byte.toNat % 16)]

/-- The bytes as a text of lowercase hexadecimal digits. -/
def hexEncode (bytes : List UInt8) : String :=
  String.ofList (hexChars bytes)

theorem length_hexChars (bytes : List UInt8) : (hexChars bytes).length = 2 * bytes.length := by
  induction bytes with
  | nil => rfl
  | cons byte rest ih =>
    rw [hexChars, List.flatMap_cons, ← hexChars, List.length_append, ih]
    simp only [List.length_cons, List.length_nil]
    omega

/-- Hexadecimal digits take one byte. -/
theorem utf8ByteSize_hexEncode (bytes : List UInt8) :
    (hexEncode bytes).utf8ByteSize = 2 * bytes.length := by
  have hdigit : ∀ small < 16, (hexDigit small).utf8Size = 1 := by decide
  unfold hexEncode
  induction bytes with
  | nil => rfl
  | cons byte rest ih =>
    have hbyte := byte.toNat_lt
    rw [hexChars, List.flatMap_cons, ← hexChars, List.cons_append, List.cons_append,
      List.nil_append, Base64.utf8ByteSize_ofList_cons, Base64.utf8ByteSize_ofList_cons, ih,
      hdigit _ (by omega), hdigit _ (by omega), List.length_cons]
    omega

theorem hexChars_injective : Function.Injective hexChars := by
  have hdigit : ∀ first < 16, ∀ second < 16, hexDigit first = hexDigit second → first = second := by
    decide
  intro first second hchars
  induction first generalizing second with
  | nil =>
    cases second with
    | nil => rfl
    | cons byte rest => simp [hexChars] at hchars
  | cons byte rest ih =>
    cases second with
    | nil => simp [hexChars] at hchars
    | cons other others =>
      have hbyte := byte.toNat_lt
      have hother := other.toNat_lt
      simp only [hexChars, List.flatMap_cons, List.cons_append, List.nil_append,
        List.cons.injEq] at hchars
      obtain ⟨hhigh, hlow, hrest⟩ := hchars
      have hhighs := hdigit _ (by omega) _ (by omega) hhigh
      have hlows := hdigit _ (by omega) _ (by omega) hlow
      have hbytes : byte = other := UInt8.toNat_inj.mp (by omega)
      rw [hbytes, ih hrest]

/-- Every character of a hexadecimal text is a digit. -/
theorem exists_hexDigit_of_mem {bytes : List UInt8} {character : Char}
    (hmem : character ∈ hexChars bytes) : ∃ value < 16, character = hexDigit value := by
  obtain ⟨byte, -, hdigit⟩ := List.mem_flatMap.mp hmem
  have hbyte := byte.toNat_lt
  rcases List.mem_pair.mp hdigit with rfl | rfl
  · exact ⟨byte.toNat / 16, by omega, rfl⟩
  · exact ⟨byte.toNat % 16, by omega, rfl⟩

/-- The separator of two digests does not occur in them. -/
theorem dash_not_mem_hexChars (bytes : List UInt8) : '-' ∉ hexChars bytes := by
  intro hmem
  obtain ⟨value, hvalue, hdash⟩ := exists_hexDigit_of_mem hmem
  have hall : ∀ small < 16, '-' ≠ hexDigit small := by decide
  exact hall value hvalue hdash

end Crypto
