import Keysas.Pki.CertificateFields

/-!
# The text form of names

RFC 4514 writes a set of attributes with plus signs between them, each as its type and its value. A
value that is a text has some characters behind a backslash, and a value that is none is written in
hexadecimal digits.

A PrintableString has letters, digits and a few signs only. `backslash_not_mem_escape_iff` says that
one is written without a backslash exactly when it is plain: it has no plus sign and no comma, and
no space at its ends. `NameText` is the library that writes names.
-/

set_option autoImplicit false
set_option relaxedAutoImplicit false

namespace Keysas.Pki

open Crypto RustStd Wire Wire.Bincode

/-! ### Printable strings -/

/-- The characters of a PrintableString: letters, digits and the signs of the list. -/
def isPrintable (character : Char) : Bool :=
  character.isAlphanum || " '()+,-./:=?".toList.contains character

/-- The text is a PrintableString. -/
def Printable (text : String) : Prop :=
  ∀ character ∈ text.toList, isPrintable character = true

instance (text : String) : Decidable (Printable text) :=
  decidable_of_iff (text.toList.all isPrintable = true) List.all_eq_true

/-- The text is a PrintableString without plus signs and commas, and has no space at its ends. -/
@[mk_iff]
structure Plain (text : String) : Prop where
  printable : Printable text
  plus : '+' ∉ text.toList
  comma : ',' ∉ text.toList
  head : text.toList.head? ≠ some ' '
  last : text.toList.getLast? ≠ some ' '

instance (text : String) : Decidable (Plain text) :=
  decidable_of_iff _ (plain_iff text).symm

/-! ### Escapes -/

/-- A character has a backslash before it: everywhere, at the beginning, or at the end. -/
def needsEscape (isFirst isLast : Bool) (character : Char) : Bool :=
  "\"+,;<>\\".toList.contains character || (isFirst && " #".toList.contains character) ||
    (isLast && character == ' ')

/-- The characters of a text with backslashes. -/
def escapeChars (isFirst : Bool) : List Char → List Char
  | [] => []
  | character :: rest =>
    if needsEscape isFirst rest.isEmpty character then
      '\\' :: character :: escapeChars false rest
    else character :: escapeChars false rest

/-- A text with backslashes. -/
def escape (text : String) : String :=
  String.ofList (escapeChars true text.toList)

/-- A text without backslashes is not changed by its escapes. -/
theorem escapeChars_eq_self {isFirst : Bool} {characters : List Char}
    (hescape : '\\' ∉ escapeChars isFirst characters) :
    escapeChars isFirst characters = characters := by
  induction characters generalizing isFirst with
  | nil => rfl
  | cons character rest ih =>
    rw [escapeChars] at hescape ⊢
    split_ifs at hescape ⊢ with hneeds
    · exact absurd (.head _) hescape
    · rw [ih (List.not_mem_of_not_mem_cons hescape)]

/-- The characters of a text with backslashes are those of the text, and backslashes. -/
theorem mem_escapeChars {isFirst : Bool} {characters : List Char} {found : Char}
    (hfound : found ∈ escapeChars isFirst characters) : found ∈ characters ∨ found = '\\' := by
  induction characters generalizing isFirst with
  | nil => exact .inl hfound
  | cons character rest ih =>
    have hrest : found ∈ escapeChars false rest → found ∈ character :: rest ∨ found = '\\' := by
      intro hin
      exact (ih hin).imp_left (.tail character)
    rw [escapeChars] at hfound
    split_ifs at hfound
    · rcases List.mem_cons.mp hfound with hbackslash | hfound
      · exact .inr hbackslash
      · rcases List.mem_cons.mp hfound with rfl | hin
        · exact .inl (.head _)
        · exact hrest hin
    · rcases List.mem_cons.mp hfound with rfl | hin
      · exact .inl (.head _)
      · exact hrest hin

/-- A printable character needs an escape when it is a plus sign, a comma, or a space at an end. -/
theorem needsEscape_iff {isFirst isLast : Bool} {character : Char}
    (hprintable : isPrintable character = true) :
    needsEscape isFirst isLast character = true ↔ character = '+' ∨ character = ',' ∨
      isFirst = true ∧ character = ' ' ∨ isLast = true ∧ character = ' ' := by
  have hspecial : "\"+,;<>\\".toList.contains character = true ↔
      character = '+' ∨ character = ',' := by
    rw [List.contains_iff_mem]
    constructor
    · intro hmem
      have hcases : character = '"' ∨ character = '+' ∨ character = ',' ∨ character = ';' ∨
          character = '<' ∨ character = '>' ∨ character = '\\' := by simpa using hmem
      rcases hcases with rfl | hplus | hcomma | rfl | rfl | rfl | rfl
      · exact absurd hprintable (by decide)
      · exact .inl hplus
      · exact .inr hcomma
      all_goals exact absurd hprintable (by decide)
    · rintro (rfl | rfl) <;> decide
  have hfirst : " #".toList.contains character = true ↔ character = ' ' := by
    rw [List.contains_iff_mem]
    constructor
    · intro hmem
      have hcases : character = ' ' ∨ character = '#' := by simpa using hmem
      rcases hcases with hspace | rfl
      · exact hspace
      · exact absurd hprintable (by decide)
    · rintro rfl
      decide
  rw [needsEscape, Bool.or_eq_true, Bool.or_eq_true, Bool.and_eq_true, Bool.and_eq_true, hspecial,
    hfirst, beq_iff_eq, or_assoc, or_assoc]

/-- Printable characters are written without a backslash exactly when none of them needs an
escape. -/
theorem backslash_not_mem_escapeChars_iff {isFirst : Bool} {characters : List Char}
    (hprintable : ∀ character ∈ characters, isPrintable character = true) :
    '\\' ∉ escapeChars isFirst characters ↔ '+' ∉ characters ∧ ',' ∉ characters ∧
      (isFirst = true → characters.head? ≠ some ' ') ∧ characters.getLast? ≠ some ' ' := by
  induction characters generalizing isFirst with
  | nil => simp [escapeChars]
  | cons character rest ih =>
    have hcharacter := hprintable character (.head _)
    have hrest : '\\' ∉ escapeChars false rest ↔ '+' ∉ rest ∧ ',' ∉ rest ∧
        (false = true → rest.head? ≠ some ' ') ∧ rest.getLast? ≠ some ' ' :=
      ih fun other hother ↦ hprintable other (.tail _ hother)
    have hneeds : needsEscape isFirst rest.isEmpty character = true ↔
        character = '+' ∨ character = ',' ∨ isFirst = true ∧ character = ' ' ∨
          rest.isEmpty = true ∧ character = ' ' :=
      needsEscape_iff hcharacter
    have hbackslash : character ≠ '\\' := by
      rintro rfl
      exact absurd hcharacter (by decide)
    have hlast : (character :: rest).getLast? ≠ some ' ' ↔
        rest.getLast? ≠ some ' ' ∧ ¬ (rest.isEmpty = true ∧ character = ' ') := by
      cases rest with
      | nil => simp
      | cons next others => simp
    rw [escapeChars, hlast]
    by_cases hescape : needsEscape isFirst rest.isEmpty character = true
    · rw [if_pos hescape]
      refine iff_of_false (fun habsent ↦ habsent (.head _)) ?_
      rintro ⟨hplus, hcomma, hhead, -, hend⟩
      rcases hneeds.mp hescape with rfl | rfl | ⟨hfirst, rfl⟩ | hspace
      · exact hplus (.head _)
      · exact hcomma (.head _)
      · exact hhead hfirst rfl
      · exact hend hspace
    · rw [if_neg hescape, List.mem_cons, not_or, hrest]
      have hnot := hneeds.not.mp hescape
      rw [not_or, not_or, not_or, not_and] at hnot
      obtain ⟨hplus, hcomma, hfirst, hend⟩ := hnot
      have hhead : isFirst = true → (character :: rest).head? ≠ some ' ' :=
        fun hstart hsame ↦ hfirst hstart (Option.some.inj hsame)
      rw [List.mem_cons, not_or, List.mem_cons, not_or]
      constructor
      · rintro ⟨-, hplusRest, hcommaRest, -, hlastRest⟩
        exact ⟨⟨Ne.symm hplus, hplusRest⟩, ⟨Ne.symm hcomma, hcommaRest⟩, hhead, hlastRest, hend⟩
      · rintro ⟨⟨-, hplusRest⟩, ⟨-, hcommaRest⟩, -, hlastRest, -⟩
        exact ⟨Ne.symm hbackslash, hplusRest, hcommaRest, nofun, hlastRest⟩

/-- A PrintableString is written without a backslash exactly when it is plain. -/
theorem backslash_not_mem_escape_iff {text : String} (hprintable : Printable text) :
    '\\' ∉ (escape text).toList ↔ Plain text := by
  rw [escape, String.toList_ofList, backslash_not_mem_escapeChars_iff hprintable]
  constructor
  · rintro ⟨hplus, hcomma, hhead, hlast⟩
    exact ⟨hprintable, hplus, hcomma, hhead rfl, hlast⟩
  · intro hplain
    exact ⟨hplain.plus, hplain.comma, fun _ ↦ hplain.head, hplain.last⟩

/-- A plain text is not changed by its escapes. -/
theorem Plain.escape_eq {text : String} (hplain : Plain text) : escape text = text := by
  have habsent := (backslash_not_mem_escape_iff hplain.printable).mpr hplain
  rw [escape, String.toList_ofList] at habsent
  rw [escape, escapeChars_eq_self habsent, String.ofList_toList]

/-- The only printable white space is the space. -/
theorem eq_space_of_isWhitespace {character : Char} (hprintable : isPrintable character = true)
    (hspace : isWhitespace character = true) : character = ' ' := by
  have hcodes : ∀ code ∈ [0x09, 0x0A, 0x0B, 0x0C, 0x0D, 0x20, 0x85, 0xA0, 0x1680, 0x2000, 0x2001,
      0x2002, 0x2003, 0x2004, 0x2005, 0x2006, 0x2007, 0x2008, 0x2009, 0x200A, 0x2028, 0x2029,
      0x202F, 0x205F, 0x3000], isPrintable (Char.ofNat code) = true → code = 0x20 := by decide
  have hcode := hcodes character.toNat
  rw [Char.ofNat_toNat] at hcode
  refine Char.toNat_inj.mp (hcode ?_ hprintable)
  simp only [isWhitespace, Bool.or_eq_true, Bool.and_eq_true, decide_eq_true_eq] at hspace
  simp only [List.mem_cons, List.not_mem_nil, or_false]
  omega

/-- A plain text is trimmed already. -/
theorem Plain.trim_eq {text : String} (hplain : Plain text) : trim text = text := by
  refine trim_eq_self (fun character hhead ↦ ?_) fun character hlast ↦ ?_
  · by_contra hspace
    have hprintable := hplain.printable character (List.mem_of_mem_head? hhead)
    rw [Bool.not_eq_false] at hspace
    rw [eq_space_of_isWhitespace hprintable hspace] at hhead
    exact hplain.head hhead
  · by_contra hspace
    have hprintable := hplain.printable character (List.mem_of_mem_getLast? hlast)
    rw [Bool.not_eq_false] at hspace
    rw [eq_space_of_isWhitespace hprintable hspace] at hlast
    exact hplain.last hlast

/-! ### Names -/

/-- The short names of the types of attributes. -/
def shortName (oid : String) : Option String :=
  if oid = oidC then some "C" else if oid = oidO then some "O" else if oid = oidOu then some "OU"
  else if oid = oidCn then some "CN" else none

/-- The text of a value that is tagged as a PrintableString. -/
def printableText (value : Any) : Option String :=
  (fromUtf8 value.value).bind fun text ↦ if Printable text then some text else none

/-- The text of an attribute, for the DER encoding of values. -/
def attributeText (valueToDer : Any → List UInt8) (entry : AttributeTypeAndValue) : String :=
  match shortName entry.oid, printableText entry.value with
  | some key, some text => key ++ "=" ++ escape text
  | _, _ => entry.oid ++ "=#" ++ hexEncode (valueToDer entry.value)

/-- A PrintableString is written as it is, with backslashes. -/
theorem attributeText_of_printable {valueToDer : Any → List UInt8} {oid key text : String}
    (hkey : shortName oid = some key) (htext : Printable text) :
    attributeText valueToDer (attributeOf oid text) = key ++ "=" ++ escape text := by
  have hvalue : printableText (attributeOf oid text).value = some text := by
    rw [printableText, attributeOf, fromUtf8_utf8, Option.bind_some, if_pos htext]
  rw [attributeText, hvalue]
  show (match shortName oid, some text with
    | some key, some text => key ++ "=" ++ escape text
    | _, _ => _) = _
  rw [hkey]

/-- Another text is written in hexadecimal digits. -/
theorem attributeText_of_not_printable {valueToDer : Any → List UInt8} {oid text : String}
    (htext : ¬ Printable text) :
    attributeText valueToDer (attributeOf oid text) =
      oid ++ "=#" ++ hexEncode (valueToDer (attributeOf oid text).value) := by
  have hvalue : printableText (attributeOf oid text).value = none := by
    rw [printableText, attributeOf, fromUtf8_utf8, Option.bind_some, if_neg htext]
  rw [attributeText, hvalue]
  cases shortName (attributeOf oid text).oid with
  | none => rfl
  | some key => rfl

/-- Neither the type of an attribute nor its name has a plus sign. -/
theorem plus_not_mem_of_shortName {oid key : String} (hkey : shortName oid = some key) :
    '+' ∉ oid.toList ∧ '+' ∉ key.toList := by
  rw [shortName] at hkey
  split_ifs at hkey with hcountry horganization hunit hname
  · rw [hcountry, ← Option.some.inj hkey]
    decide
  · rw [horganization, ← Option.some.inj hkey]
    decide
  · rw [hunit, ← Option.some.inj hkey]
    decide
  · rw [hname, ← Option.some.inj hkey]
    decide

/-- The text of an attribute has no plus sign when its value has none. Assumes: its type is known.
-/
theorem plus_not_mem_attributeText {valueToDer : Any → List UInt8} {oid key text : String}
    (hkey : shortName oid = some key) (hplus : '+' ∉ text.toList) :
    '+' ∉ (attributeText valueToDer (attributeOf oid text)).toList := by
  obtain ⟨hoid, hname⟩ := plus_not_mem_of_shortName hkey
  by_cases htext : Printable text
  · have hescape : '+' ∉ (escape text).toList := by
      rw [escape, String.toList_ofList]
      intro hmem
      rcases mem_escapeChars hmem with hin | hbackslash
      · exact hplus hin
      · exact absurd hbackslash (by decide)
    have hsign : '+' ∉ "=".toList := by decide
    rw [attributeText_of_printable hkey htext, String.toList_append, String.toList_append]
    simp only [List.mem_append, hname, hsign, hescape, or_self, not_false_eq_true]
  · have hdigits : '+' ∉ (hexEncode (valueToDer (attributeOf oid text).value)).toList := by
      rw [hexEncode, String.toList_ofList]
      intro hmem
      obtain ⟨value, hvalue, hdigit⟩ := exists_hexDigit_of_mem hmem
      have hall : ∀ small < 16, '+' ≠ hexDigit small := by decide
      exact hall value hvalue hdigit
    have hsigns : '+' ∉ "=#".toList := by decide
    rw [attributeText_of_not_printable htext, String.toList_append, String.toList_append]
    simp only [List.mem_append, hoid, hsigns, hdigits, or_self, not_false_eq_true]

/-- The library that writes names in the form of RFC 4514, for a name of one set of attributes that
are of known types and tagged as PrintableStrings. -/
structure NameText where
  valueToDer : Any → List UInt8
  toText : RdnSequence → String
  toText_singleton : ∀ set : RelativeDistinguishedName,
    (∀ entry ∈ set, (shortName entry.oid).isSome = true ∧ entry.value.tag = printableString) →
      toText [set] = "+".intercalate (set.map (attributeText valueToDer))

end Keysas.Pki
