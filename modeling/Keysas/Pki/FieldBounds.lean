import Keysas.Pki.CertificateFields
import Keysas.Rust.Utf8Cut

/-!
# The country and the validity that are accepted

`fromFields` counts the country in bytes and keeps the first two of them. When they do not end with
a character the cut is a panic, and when they are one character the country that is kept is not a
code of two letters. `fieldsWithinBounds_iff` says for which texts neither happens.
-/

set_option autoImplicit false
set_option relaxedAutoImplicit false

namespace Keysas.Pki

open RustStd Wire.Bincode

/-! ### Texts of two bytes -/

/-- A text of two bytes has two characters when the second byte begins one. -/
theorem length_eq_two_iff {text : String} (hbytes : (utf8 text).length = 2) :
    text.length = 2 ↔ IsCharBoundary (utf8 text) 1 := by
  have hlist : (text.toList.flatMap String.utf8EncodeChar).length = 2 := by
    rw [← utf8_eq_flatMap, hbytes]
  rw [← String.length_toList, utf8_eq_flatMap]
  match htext : text.toList with
  | [] =>
    rw [htext] at hlist
    cases hlist
  | [character] =>
    rw [htext, List.flatMap_singleton] at hlist
    rw [List.flatMap_singleton]
    refine iff_of_false (by simp) fun hboundary ↦ ?_
    have hfirst := hboundary _ (List.getElem?_eq_getElem (by omega))
    rw [UInt8.isUTF8FirstByte_getElem_utf8EncodeChar] at hfirst
    cases hfirst
  | [first, second] =>
    rw [htext] at hlist
    have hfirst := first.utf8Size_pos
    have hsecond := second.utf8Size_pos
    simp only [List.flatMap_cons, List.flatMap_nil, List.append_nil, List.length_append,
      String.length_utf8EncodeChar] at hlist ⊢
    have hone : (String.utf8EncodeChar first).length = 1 := by
      rw [String.length_utf8EncodeChar]
      omega
    have hnonempty : 0 < (String.utf8EncodeChar second).length := by
      rw [String.length_utf8EncodeChar]
      exact hsecond
    refine iff_of_true rfl fun byte hbyte ↦ ?_
    rw [List.getElem?_append_right hone.le, hone, List.getElem?_eq_getElem hnonempty] at hbyte
    rw [← Option.some.inj hbyte, UInt8.isUTF8FirstByte_getElem_utf8EncodeChar]
  | first :: second :: third :: rest =>
    have hfirst := first.utf8Size_pos
    have hsecond := second.utf8Size_pos
    have hthird := third.utf8Size_pos
    rw [htext] at hlist
    simp only [List.flatMap_cons, List.length_append, String.length_utf8EncodeChar] at hlist
    omega

/-! ### Countries and validities -/

/-- What becomes of a country: it is refused, or its cut is within a character, or its first two
bytes are kept. -/
theorem countryOf_cases (name : String) :
    (utf8 name).length < 2 ∧ countryOf name = .error .countryName ∨
      2 ≤ (utf8 name).length ∧ ¬ IsCharBoundary (utf8 name) 2 ∧
        countryOf name = .error .countryBoundary ∨
      2 ≤ (utf8 name).length ∧ IsCharBoundary (utf8 name) 2 ∧
        ∃ stored, countryOf name = .ok stored ∧ utf8 stored = (utf8 name).take 2 := by
  rw [length_utf8, countryOf]
  split
  · next hsize => exact .inl ⟨by omega, rfl⟩
  · next hsize => exact .inl ⟨by omega, rfl⟩
  · next hsize =>
    have hlength : (utf8 name).length ≤ 2 := by rw [length_utf8, hsize]
    refine .inr (.inr ⟨hsize.ge, isCharBoundary_of_length_le hlength, name, rfl, ?_⟩)
    rw [List.take_of_length_le hlength]
  · next hzero hone htwo =>
    have hlong : 2 ≤ name.utf8ByteSize := Nat.two_le_iff _ |>.mpr ⟨hzero, hone⟩
    rw [← isSome_fromUtf8_take_iff]
    cases hcut : fromUtf8 ((utf8 name).take 2) with
    | none => exact .inr (.inl ⟨hlong, by simp, rfl⟩)
    | some stored => exact .inr (.inr ⟨hlong, rfl, stored, rfl, fromUtf8_eq_some_iff.mp hcut⟩)

/-- A validity is a number of days of 32 bits whose seconds fit 32 bits as well. -/
def IsValidity (value : String) : Prop :=
  ∃ days, parseU32 value = some days ∧ days.toNat * 86400 < 2 ^ 32

theorem validityOf_eq_ok_iff {value : String} {days : UInt32} :
    validityOf value = .ok days ↔
      parseU32 value = some days ∧ days.toNat * 86400 < 2 ^ 32 := by
  rw [validityOf]
  cases parseU32 value with
  | none => exact iff_of_false (fun hok ↦ by cases hok) (fun hdays ↦ by cases hdays.1)
  | some number =>
    rw [okOr_some, ok_bind, Option.some.injEq]
    split_ifs with hfits
    · constructor
      · intro hok
        obtain rfl := Except.ok.inj hok
        exact ⟨rfl, hfits⟩
      · rintro ⟨rfl, -⟩
        rfl
    · refine iff_of_false (fun hok ↦ by cases hok) ?_
      rintro ⟨rfl, hdays⟩
      exact hfits hdays

/-- A validity never makes a panic. -/
theorem validityOf_ne_countryBoundary (value : String) :
    validityOf value ≠ .error .countryBoundary := by
  rw [validityOf]
  cases parseU32 value with
  | none => exact fun herror ↦ by cases herror
  | some number =>
    rw [okOr_some, ok_bind]
    split_ifs
    · exact fun herror ↦ by cases herror
    · exact fun herror ↦ by cases herror

/-- What becomes of a validity that may be given: it fits, or it is refused. -/
theorem mapM_validityOf_cases (validity : Option String) :
    (∃ days, validity.mapM validityOf = .ok days ∧
        (∀ value, validity = some value → IsValidity value) ∧
        ∀ number, days = some number → number.toNat * 86400 < 2 ^ 32) ∨
      ∃ error value, validity.mapM validityOf = .error error ∧ error ≠ .countryBoundary ∧
        validity = some value ∧ ¬ IsValidity value := by
  cases validity with
  | none => exact .inl ⟨none, rfl, fun _ hvalue ↦ (by cases hvalue), fun _ hdays ↦ (by cases hdays)⟩
  | some value =>
    cases hresult : validityOf value with
    | error error =>
      refine .inr ⟨error, value, ?_, ?_, rfl, ?_⟩
      · show (validityOf value).bind _ = _
        rw [hresult]
        rfl
      · rintro rfl
        exact validityOf_ne_countryBoundary value hresult
      · rintro ⟨days, hdays⟩
        rw [validityOf_eq_ok_iff.mpr hdays] at hresult
        cases hresult
    | ok days =>
      have hdays := validityOf_eq_ok_iff.mp hresult
      refine .inl ⟨some days, ?_, ?_, ?_⟩
      · show (validityOf value).bind _ = _
        rw [hresult]
        rfl
      · intro other hother
        obtain rfl := Option.some.inj hother
        exact ⟨days, hdays⟩
      · intro number hnumber
        obtain rfl := Option.some.inj hnumber
        exact hdays.2

/-! ### Fields -/

/-- There is no panic, a country that is kept has two characters, and the seconds of a validity that
is kept fit 32 bits. -/
def FieldsWithinBounds (orgName orgUnit country commonName validity : Option String) : Prop :=
  fromFields orgName orgUnit country commonName validity ≠ .error .countryBoundary ∧
    ∀ infos, fromFields orgName orgUnit country commonName validity = .ok infos →
      (country.isSome = true → ∃ stored, infos.country = some stored ∧ stored.length = 2) ∧
      ∀ days, infos.validity = some days → days.toNat * 86400 < 2 ^ 32

/-- A country that is given is refused for its length, or begins with two characters of one byte, or
begins with a character of two bytes and stands beside a validity that is refused. -/
def CountryCutsWell (country validity : Option String) : Prop :=
  ∀ name, country = some name →
    (utf8 name).length < 2 ∨
      IsCharBoundary (utf8 name) 2 ∧
        (IsCharBoundary (utf8 name) 1 ∨ ∃ value, validity = some value ∧ ¬ IsValidity value)

theorem fromFields_none (orgName orgUnit commonName validity : Option String) :
    fromFields orgName orgUnit none commonName validity =
      (validity.mapM validityOf).bind fun days ↦
        .ok ⟨orgName, orgUnit, none, commonName, days⟩ := rfl

theorem fromFields_some (orgName orgUnit : Option String) (country : String)
    (commonName validity : Option String) :
    fromFields orgName orgUnit (some country) commonName validity =
      (countryOf country).bind fun stored ↦ (validity.mapM validityOf).bind fun days ↦
        .ok ⟨orgName, orgUnit, some stored, commonName, days⟩ := by
  show ((countryOf country).bind fun stored ↦ .ok (some stored)).bind _ = _
  cases countryOf country with
  | error error => rfl
  | ok stored => rfl

/-- Fields that are refused by an error are within their bounds. -/
theorem fieldsWithinBounds_of_error {orgName orgUnit country commonName validity : Option String}
    {error : FieldsError} (hne : error ≠ .countryBoundary)
    (herror : fromFields orgName orgUnit country commonName validity = .error error) :
    FieldsWithinBounds orgName orgUnit country commonName validity := by
  rw [FieldsWithinBounds, herror]
  exact ⟨fun hpanic ↦ hne (Except.error.inj hpanic), fun _ hinfos ↦ (by cases hinfos)⟩

/-- Fields that are made are within their bounds when their country has two characters. -/
theorem fieldsWithinBounds_of_ok {orgName orgUnit country commonName validity : Option String}
    {stored : Option String} {days : Option UInt32}
    (hfits : ∀ number, days = some number → number.toNat * 86400 < 2 ^ 32)
    (hok : fromFields orgName orgUnit country commonName validity =
      .ok ⟨orgName, orgUnit, stored, commonName, days⟩) :
    FieldsWithinBounds orgName orgUnit country commonName validity ↔
      (country.isSome = true → ∃ code, stored = some code ∧ code.length = 2) := by
  rw [FieldsWithinBounds, hok]
  constructor
  · intro hbounds
    exact (hbounds.2 _ rfl).1
  · intro hcode
    refine ⟨fun hpanic ↦ (by cases hpanic), fun infos hinfos ↦ ?_⟩
    obtain rfl := Except.ok.inj hinfos
    exact ⟨hcode, hfits⟩

/-- The seconds of the validity, if there is one, fit 32 bits. -/
def CertificateFields.SecondsFit (fields : CertificateFields) : Prop :=
  ∀ days, fields.validity = some days → days.toNat * 86400 < 2 ^ 32

/-- Fields that are accepted have a validity whose seconds fit. -/
theorem secondsFit_of_fromFields {orgName orgUnit country commonName validity : Option String}
    {infos : CertificateFields}
    (hinfos : fromFields orgName orgUnit country commonName validity = .ok infos) :
    infos.SecondsFit := by
  obtain ⟨stored, -, hinfos⟩ := exists_of_bind_eq_ok hinfos
  obtain ⟨days, hdays, hinfos⟩ := exists_of_bind_eq_ok hinfos
  obtain rfl := Except.ok.inj hinfos
  rcases mapM_validityOf_cases validity with ⟨found, hfound, -, hfits⟩ | ⟨error, _, herror, -⟩
  · obtain rfl := Except.ok.inj (hdays.symm.trans hfound)
    exact hfits
  · rw [herror] at hdays
    cases hdays

/-- Fields without a country are within their bounds. -/
theorem fieldsWithinBounds_none (orgName orgUnit commonName validity : Option String) :
    FieldsWithinBounds orgName orgUnit none commonName validity := by
  rcases mapM_validityOf_cases validity with ⟨days, hdays, -, hfits⟩ | ⟨error, _, herror, hne, -⟩
  · have hmade : fromFields orgName orgUnit none commonName validity =
        .ok ⟨orgName, orgUnit, none, commonName, days⟩ := by
      rw [fromFields_none, hdays]
      rfl
    exact (fieldsWithinBounds_of_ok hfits hmade).mpr (fun hgiven ↦ by cases hgiven)
  · refine fieldsWithinBounds_of_error hne ?_
    rw [fromFields_none, herror]
    rfl

/-- Fields with a country that is kept are within their bounds when it has two characters, or when
the validity is refused. -/
theorem fieldsWithinBounds_of_countryOf {name stored : String}
    (hcountry : countryOf name = .ok stored) (orgName orgUnit commonName validity : Option String) :
    FieldsWithinBounds orgName orgUnit (some name) commonName validity ↔
      stored.length = 2 ∨ ∃ value, validity = some value ∧ ¬ IsValidity value := by
  rcases mapM_validityOf_cases validity with
    ⟨days, hdays, hvalid, hfits⟩ | ⟨error, value, herror, hne, hvalue, hrefused⟩
  · have hmade : fromFields orgName orgUnit (some name) commonName validity =
        .ok ⟨orgName, orgUnit, some stored, commonName, days⟩ := by
      rw [fromFields_some, hcountry, hdays]
      rfl
    rw [fieldsWithinBounds_of_ok hfits hmade]
    constructor
    · intro hcode
      obtain ⟨code, hsome, hcode⟩ := hcode rfl
      obtain rfl := Option.some.inj hsome
      exact .inl hcode
    · rintro (hcode | ⟨value, hvalue, hrefused⟩) -
      · exact ⟨stored, rfl, hcode⟩
      · exact absurd (hvalid value hvalue) hrefused
  · refine iff_of_true (fieldsWithinBounds_of_error hne ?_) (.inr ⟨value, hvalue, hrefused⟩)
    rw [fromFields_some, hcountry, herror]
    rfl

/-- Whatever is entered, the fields are made without a panic and within their bounds exactly when
the country cuts well. -/
theorem fieldsWithinBounds_iff (orgName orgUnit country commonName validity : Option String) :
    FieldsWithinBounds orgName orgUnit country commonName validity ↔
      CountryCutsWell country validity := by
  rw [CountryCutsWell]
  cases country with
  | none =>
    exact iff_of_true (fieldsWithinBounds_none orgName orgUnit commonName validity)
      (fun _ hname ↦ by cases hname)
  | some name =>
    simp only [Option.some.injEq, forall_eq']
    rcases countryOf_cases name with ⟨hshort, hcountry⟩ | ⟨hlong, hcut, hcountry⟩ |
      ⟨hlong, hcut, stored, hcountry, hstored⟩
    · have hrefused : fromFields orgName orgUnit (some name) commonName validity =
          .error .countryName := by
        rw [fromFields_some, hcountry]
        rfl
      exact iff_of_true (fieldsWithinBounds_of_error (by decide) hrefused) (.inl hshort)
    · refine iff_of_false (fun hbounds ↦ hbounds.1 ?_) ?_
      · rw [fromFields_some, hcountry]
        rfl
      · rintro (hshort | ⟨hboundary, -⟩)
        · omega
        · exact hcut hboundary
    · have htwo : (utf8 stored).length = 2 := by
        rw [hstored, List.length_take]
        omega
      have hfirst : stored.length = 2 ↔ IsCharBoundary (utf8 name) 1 := by
        rw [length_eq_two_iff htwo, hstored]
        simp only [IsCharBoundary, List.getElem?_take_of_lt Nat.one_lt_two]
      rw [fieldsWithinBounds_of_countryOf hcountry, hfirst]
      constructor
      · exact fun hwell ↦ .inr ⟨hcut, hwell⟩
      · rintro (hshort | ⟨-, hwell⟩)
        · omega
        · exact hwell

/-- A country of two characters is cut within the first of them, which is a panic, and of a letter
of two bytes nothing else is kept. -/
theorem not_fieldsWithinBounds_kanji :
    fromFields none none (some "日本") none none = .error .countryBoundary ∧
      fromFields none none (some "été") none none = .ok ⟨none, none, some "é", none, none⟩ ∧
      ¬ FieldsWithinBounds none none (some "日本") none none ∧
      ¬ FieldsWithinBounds none none (some "été") none none := by
  have hpanic : fromFields none none (some "日本") none none = .error .countryBoundary := by
    decide +kernel
  have hletter : fromFields none none (some "été") none none =
      .ok ⟨none, none, some "é", none, none⟩ := by
    decide +kernel
  refine ⟨hpanic, hletter, fun hbounds ↦ hbounds.1 hpanic, fun hbounds ↦ ?_⟩
  obtain ⟨stored, hsome, hlength⟩ := (hbounds.2 _ hletter).1 rfl
  obtain rfl := Option.some.inj hsome
  exact absurd hlength (by decide)

end Keysas.Pki
