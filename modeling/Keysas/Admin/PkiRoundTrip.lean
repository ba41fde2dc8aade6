import Keysas.Admin.GeneratePki
import Keysas.Pki.NameText

/-!
# A PKI is generated and restored

`generate_pki_in_dir` puts the fields of a PKI into one set of attributes of the subject of its
root. `check_restore_pki` reads the fields back from the text of this subject, which it cuts at
plus signs and at the first equality sign of each piece, without taking the backslashes out.

`readSubject_toText_eq_iff` says which fields are read back, and `restores_iff` what is restored of
a PKI that has been generated: exactly the fields whose texts are plain.
-/

set_option autoImplicit false
set_option relaxedAutoImplicit false

namespace Keysas.Admin

open Crypto Keys Pki Runs RustStd Store Wire Wire.Bincode

/-! ### Texts that are read back -/

/-- What is read of a text that is written in a name. -/
def readBack (text : String) : String :=
  if Printable text then trim (escape text) else ""

/-- A text is read back exactly when it is plain. Assumes: it is not empty. -/
theorem readBack_eq_self_iff {text : String} (htext : text ≠ "") :
    readBack text = text ↔ Plain text := by
  constructor
  · intro hread
    rw [readBack] at hread
    split_ifs at hread with hprintable
    · refine (backslash_not_mem_escape_iff hprintable).mp fun hbackslash ↦ ?_
      have hmem := mem_trim hbackslash (by decide)
      rw [hread] at hmem
      exact absurd (hprintable _ hmem) (by decide)
    · exact absurd hread.symm htext
  · intro hplain
    rw [readBack, if_pos hplain.printable, hplain.escape_eq, hplain.trim_eq]

/-! ### Attributes -/

/-- A text among the fields of a subject, by the type of its attribute. -/
def SubjectFields.assign (fields : SubjectFields) (oid text : String) : SubjectFields :=
  if oid = oidC then { fields with country := text }
  else if oid = oidO then { fields with organization := text }
  else if oid = oidOu then { fields with organizationalUnit := text }
  else fields

/-- Attributes of different types are read in any order. -/
theorem assign_assign_of_ne {fields : SubjectFields} {first second text other : String}
    (hne : first ≠ second) :
    (fields.assign first text).assign second other =
      (fields.assign second other).assign first text := by
  unfold SubjectFields.assign
  split_ifs <;> first | rfl | exact absurd (‹first = _›.trans ‹second = _›.symm) hne

/-- The fields of a subject after an attribute is read. -/
def readEntry (fields : SubjectFields) (oid text : String) : SubjectFields :=
  if Printable text then fields.assign oid (trim (escape text)) else fields

theorem readEntry_comm {fields : SubjectFields} {first second text other : String}
    (hne : first ≠ second) :
    readEntry (readEntry fields first text) second other =
      readEntry (readEntry fields second other) first text := by
  unfold readEntry
  split_ifs
  · exact assign_assign_of_ne hne
  all_goals rfl

/-- The types of the attributes that are read. -/
def subjectOids : List String :=
  [oidC, oidO, oidOu]

/-- The type and the value of an attribute are what stands around its equality sign. Assumes: the
type has none. -/
theorem readAttribute_append {key : String} (hkey : '=' ∉ key.toList) (value : String)
    (fields : SubjectFields) :
    readAttribute fields (key ++ "=" ++ value) =
      if trim key = "C" then .ok { fields with country := trim value }
      else if trim key = "O" then .ok { fields with organization := trim value }
      else if trim key = "OU" then .ok { fields with organizationalUnit := trim value }
      else .ok fields := by
  have hcut : splitOnce '=' (key ++ "=" ++ value) = some (key, value) := splitOnce_append hkey value
  rw [readAttribute, hcut]

/-- An attribute is read as its text is written. Assumes: it is of a type that is read. -/
theorem readAttribute_attributeText {valueToDer : Any → List UInt8} {oid : String}
    (hoid : oid ∈ subjectOids) (text : String) (fields : SubjectFields) :
    readAttribute fields (attributeText valueToDer (attributeOf oid text)) =
      .ok (readEntry fields oid text) := by
  have hcases : oid = oidC ∨ oid = oidO ∨ oid = oidOu := by simpa [subjectOids] using hoid
  by_cases htext : Printable text
  · rw [readEntry, if_pos htext]
    rcases hcases with rfl | rfl | rfl
    · rw [attributeText_of_printable (show shortName oidC = some "C" from rfl) htext,
        readAttribute_append (by decide)]
      rfl
    · rw [attributeText_of_printable (show shortName oidO = some "O" from rfl) htext,
        readAttribute_append (by decide)]
      rfl
    · rw [attributeText_of_printable (show shortName oidOu = some "OU" from rfl) htext,
        readAttribute_append (by decide)]
      rfl
  · have hnumber : ∀ number ∈ subjectOids, '=' ∉ number.toList ∧ trim number ≠ "C" ∧
        trim number ≠ "O" ∧ trim number ≠ "OU" := by decide
    obtain ⟨hequality, hcountry, horganization, hunit⟩ := hnumber oid hoid
    have hjoined : oid ++ "=#" ++ hexEncode (valueToDer (attributeOf oid text).value) =
        oid ++ "=" ++ ("#" ++ hexEncode (valueToDer (attributeOf oid text).value)) := by
      have hsigns : "=#" = "=" ++ "#" := rfl
      rw [hsigns]
      simp only [String.append_assoc]
    rw [readEntry, if_neg htext, attributeText_of_not_printable htext, hjoined,
      readAttribute_append hequality, if_neg hcountry, if_neg horganization, if_neg hunit]

/-! ### Subjects -/

/-- The attributes of the subject of a root. -/
def subjectEntries (fields : SubjectFields) : List AttributeTypeAndValue :=
  [attributeOf oidC fields.country, attributeOf oidO fields.organization,
    attributeOf oidOu fields.organizationalUnit]

theorem of_mem_subjectEntries {fields : SubjectFields} {entry : AttributeTypeAndValue}
    (hentry : entry ∈ subjectEntries fields) :
    entry.oid ∈ subjectOids ∧ ∃ text, entry = attributeOf entry.oid text ∧
      text ∈ [fields.country, fields.organization, fields.organizationalUnit] := by
  have hcases : entry = attributeOf oidC fields.country ∨
      entry = attributeOf oidO fields.organization ∨
      entry = attributeOf oidOu fields.organizationalUnit := by
    simpa [subjectEntries] using hentry
  rcases hcases with rfl | rfl | rfl
  · exact ⟨.head _, _, rfl, .head _⟩
  · exact ⟨.tail _ (.head _), _, rfl, .tail _ (.head _)⟩
  · exact ⟨.tail _ (.tail _ (.head _)), _, rfl, .tail _ (.tail _ (.head _))⟩

/-- What is read of the fields of a subject. -/
def readFields (fields : SubjectFields) : SubjectFields where
  country := readBack fields.country
  organization := readBack fields.organization
  organizationalUnit := readBack fields.organizationalUnit

/-- Each field is read from its own attribute. -/
theorem readEntry_subject (fields : SubjectFields) :
    readEntry (readEntry (readEntry ⟨"", "", ""⟩ oidC fields.country) oidO fields.organization)
      oidOu fields.organizationalUnit = readFields fields := by
  unfold readEntry readFields readBack
  split_ifs <;> rfl

/-- The texts of the attributes of a subject are read in whatever order they are in. -/
theorem foldlM_readAttribute_map {valueToDer : Any → List UInt8} {fields : SubjectFields}
    {set : RelativeDistinguishedName} (hset : set.Perm (subjectEntries fields)) :
    (set.map (attributeText valueToDer)).foldlM readAttribute ⟨"", "", ""⟩ =
      .ok (readFields fields) := by
  have hnodup : ((subjectEntries fields).map AttributeTypeAndValue.oid).Nodup := by
    show [oidC, oidO, oidOu].Nodup
    decide
  rw [List.foldlM_map, List.foldlM_eq_foldl, hset.foldl_eq']
  · have hread : ∀ oid ∈ subjectOids, ∀ (text : String) (current : SubjectFields),
        readAttribute current (attributeText valueToDer (attributeOf oid text)) =
          .ok (readEntry current oid text) := fun oid hoid text current ↦
      readAttribute_attributeText hoid text current
    show (((Except.ok ⟨"", "", ""⟩ >>= fun current ↦ readAttribute current _) >>=
      fun current ↦ readAttribute current _) >>= fun current ↦ readAttribute current _) = _
    rw [ok_bind, hread oidC (by decide), ok_bind, hread oidO (by decide), ok_bind,
      hread oidOu (by decide), readEntry_subject]
  · intro first hfirst second hsecond current
    rcases current with error | current
    · rfl
    by_cases hsame : first.oid = second.oid
    · rw [List.inj_on_of_nodup_map hnodup (hset.subset hfirst) (hset.subset hsecond) hsame]
    · obtain ⟨hfirstOid, firstText, hfirstEntry, -⟩ := of_mem_subjectEntries (hset.subset hfirst)
      obtain ⟨hsecondOid, secondText, hsecondEntry, -⟩ :=
        of_mem_subjectEntries (hset.subset hsecond)
      rw [hfirstEntry, hsecondEntry]
      simp only [ok_bind, readAttribute_attributeText hfirstOid,
        readAttribute_attributeText hsecondOid, readEntry_comm hsame]

/-- No field has a plus sign. -/
def SubjectFields.PlusFree (fields : SubjectFields) : Prop :=
  ∀ text ∈ [fields.country, fields.organization, fields.organizationalUnit], '+' ∉ text.toList

theorem SubjectFields.plusFree_iff {fields : SubjectFields} :
    fields.PlusFree ↔ '+' ∉ fields.country.toList ∧ '+' ∉ fields.organization.toList ∧
      '+' ∉ fields.organizationalUnit.toList := by
  simp [SubjectFields.PlusFree]

/-- Assumes: the text of the attribute has no plus sign. -/
theorem plusFree_of_readAttribute {fields result : SubjectFields} (hfields : fields.PlusFree)
    {attributeStr : String} (hplus : '+' ∉ attributeStr.toList)
    (hread : readAttribute fields attributeStr = .ok result) : result.PlusFree := by
  rw [SubjectFields.plusFree_iff] at hfields ⊢
  obtain ⟨hcountry, horganization, hunit⟩ := hfields
  rw [readAttribute] at hread
  rcases hcut : splitOnce '=' attributeStr with _ | ⟨attrType, attrValue⟩
  · rw [hcut] at hread
    cases hread
  · rw [hcut] at hread
    have hvalue : '+' ∉ (trim attrValue).toList :=
      fun hmem ↦ hplus (mem_of_splitOnce hcut (mem_of_mem_trim hmem))
    dsimp only at hread
    split_ifs at hread
    · obtain rfl := Except.ok.inj hread
      exact ⟨hvalue, horganization, hunit⟩
    · obtain rfl := Except.ok.inj hread
      exact ⟨hcountry, hvalue, hunit⟩
    · obtain rfl := Except.ok.inj hread
      exact ⟨hcountry, horganization, hvalue⟩
    · obtain rfl := Except.ok.inj hread
      exact ⟨hcountry, horganization, hunit⟩

/-- No field that is read of a subject has a plus sign, whatever the text is. -/
theorem plusFree_of_readSubject {name : String} {result : SubjectFields}
    (hread : readSubject name = .ok result) : result.PlusFree := by
  have hpieces : ∀ piece ∈ split '+' name, '+' ∉ piece.toList :=
    fun piece hpiece ↦ not_mem_of_mem_split hpiece
  have hempty : SubjectFields.PlusFree ⟨"", "", ""⟩ := by
    rw [SubjectFields.plusFree_iff]
    decide
  rw [readSubject] at hread
  generalize split '+' name = pieces at hread hpieces
  generalize (⟨"", "", ""⟩ : SubjectFields) = fields at hread hempty
  -- Each piece adds a text without a plus sign to fields without one.
  induction pieces generalizing fields with
  | nil =>
    obtain rfl := Except.ok.inj hread
    exact hempty
  | cons piece rest ih =>
    rw [List.foldlM_cons] at hread
    obtain ⟨next, hnext, hrest⟩ := exists_of_bind_eq_ok hread
    exact ih (fun other hother ↦ hpieces other (.tail _ hother)) next hrest
      (plusFree_of_readAttribute hempty (hpieces piece (.head _)) hnext)

/-- The fields of a subject are read from its text. Assumes: none of them has a plus sign. -/
theorem readSubject_toText (names : NameText) {fields : SubjectFields}
    {set : RelativeDistinguishedName} (hset : set.Perm (subjectEntries fields))
    (hplus : fields.PlusFree) :
    readSubject (names.toText [set]) = .ok (readFields fields) := by
  have hknown : ∀ oid ∈ subjectOids, ∃ key, shortName oid = some key := by
    intro oid hoid
    have hall : ∀ oid ∈ subjectOids, (shortName oid).isSome = true := by decide
    exact Option.isSome_iff_exists.mp (hall oid hoid)
  have htext : names.toText [set] = "+".intercalate (set.map (attributeText names.valueToDer)) := by
    refine names.toText_singleton set fun entry hentry ↦ ?_
    obtain ⟨hoid, text, hform, -⟩ := of_mem_subjectEntries (hset.subset hentry)
    rw [hform]
    exact ⟨Option.isSome_iff_exists.mpr (hknown entry.oid hoid), rfl⟩
  have hpieces : set.map (attributeText names.valueToDer) ≠ [] := by
    rw [ne_eq, List.map_eq_nil_iff]
    rintro rfl
    exact absurd hset.length_eq (by simp [subjectEntries])
  have hfree : ∀ piece ∈ set.map (attributeText names.valueToDer), '+' ∉ piece.toList := by
    intro piece hpiece
    obtain ⟨entry, hentry, rfl⟩ := List.mem_map.mp hpiece
    obtain ⟨hoid, text, hform, htext⟩ := of_mem_subjectEntries (hset.subset hentry)
    obtain ⟨key, hkey⟩ := hknown entry.oid hoid
    rw [hform]
    exact plus_not_mem_attributeText hkey (hplus text htext)
  rw [readSubject, htext]
  show (split '+' ((String.singleton '+').intercalate _)).foldlM _ _ = _
  rw [split_intercalate hpieces hfree]
  exact foldlM_readAttribute_map hset

/-- The fields of a subject that are read back unchanged: their texts are plain. -/
structure SubjectFields.AllPlain (fields : SubjectFields) : Prop where
  country : Plain fields.country
  organization : Plain fields.organization
  organizationalUnit : Plain fields.organizationalUnit

/-- The fields of a subject are read back exactly when their texts are plain. Assumes: none of them
is empty. -/
theorem readSubject_toText_eq_iff (names : NameText) {fields : SubjectFields}
    {set : RelativeDistinguishedName} (hset : set.Perm (subjectEntries fields))
    (hcountry : fields.country ≠ "") (horganization : fields.organization ≠ "")
    (hunit : fields.organizationalUnit ≠ "") :
    readSubject (names.toText [set]) = .ok fields ↔ fields.AllPlain := by
  have hread : readFields fields = fields ↔ fields.AllPlain := by
    rw [readFields, SubjectFields.mk.injEq, readBack_eq_self_iff hcountry,
      readBack_eq_self_iff horganization, readBack_eq_self_iff hunit]
    constructor
    · rintro ⟨hcountry, horganization, hunit⟩
      exact ⟨hcountry, horganization, hunit⟩
    · rintro ⟨hcountry, horganization, hunit⟩
      exact ⟨hcountry, horganization, hunit⟩
  constructor
  · intro hresult
    rw [readSubject_toText names hset (plusFree_of_readSubject hresult)] at hresult
    exact hread.mp (Except.ok.inj hresult)
  · intro hplain
    have hplus : fields.PlusFree := SubjectFields.plusFree_iff.mpr
      ⟨hplain.country.plus, hplain.organization.plus, hplain.organizationalUnit.plus⟩
    rw [readSubject_toText names hset hplus, hread.mpr hplain]

/-! ### The directory of a PKI -/

/-- A directory after the directories of a PKI are made and some files are written. -/
def generatedDirectory (before : PkiDirectory) (files : List PkiWrite) : PkiDirectory where
  caDirectory := true
  subdirectories := ["root", "st", "usb"] ++ before.subdirectories
  files := replay before.files (files.map fun file ↦ (file.1, some file.2))

/-- A file that is written once is there with its content. -/
theorem lookup_generatedDirectory {before : PkiDirectory} {files : List PkiWrite}
    (hnodup : (files.map Prod.fst).Nodup) {file : PkiWrite} (hfile : file ∈ files) :
    (generatedDirectory before files).files.lookup file.1 = some (some file.2) := by
  have hlast : lastWrite (files.map fun file ↦ (file.1, some file.2)) file.1 =
      some (some file.2) := by
    refine lastWrite_of_mem ?_ (List.mem_map.mpr ⟨file, hfile, rfl⟩)
    rw [List.map_map]
    exact hnodup
  rw [generatedDirectory, lookup_replay, hlast]
  rfl

variable {schemes : Schemes} {formats : KeyFormats schemes} {x509 : X509}

/-- The files of a pair of keys are stored when they are among those that are written, once each. -/
theorem storedIn_generatedDirectory {keys : HybridKeyPair schemes} {name path adminPwd : String}
    {classic pq : List UInt8} (hdocuments : keys.Documents formats adminPwd classic pq)
    (hkey : keys.HasPublicKey) {before : PkiDirectory} {files : List PkiWrite}
    (hnodup : (files.map Prod.fst).Nodup) (hfiles : keys.files x509 name path classic pq ⊆ files) :
    keys.StoredIn formats x509 (generatedDirectory before files) name path adminPwd := by
  refine ⟨⟨classic, pq, hdocuments, fun file hfile ↦ ?_⟩, hkey⟩
  have hlookup : (generatedDirectory before files).files.lookup file.1 = some (some file.2) :=
    lookup_generatedDirectory hnodup (hfiles hfile)
  rw [PkiDirectory.read]
  show ((generatedDirectory before files).files.lookup file.1).join = _
  rw [hlookup]
  rfl

/-- The directories and the files of a PKI are there when each of them is written. -/
theorem checkFiles_generatedDirectory {before : PkiDirectory} {files : List PkiWrite}
    (hnodup : (files.map Prod.fst).Nodup) (hfiles : directoriesAndFiles ⊆ files.map Prod.fst) :
    checkFiles (generatedDirectory before files) = .ok () := by
  have hpaths : ∀ entry ∈ directoriesAndFiles, entry.1 ∈ ["root", "st", "usb"] := by decide
  rw [checkFiles]
  show directoriesAndFiles.forM _ = _
  refine forM_eq_ok fun entry hentry ↦ ?_
  obtain ⟨file, hfile, rfl⟩ := List.mem_map.mp (hfiles hentry)
  have hpath : file.1.1 ∈ (generatedDirectory before files).subdirectories :=
    List.mem_append_left _ (hpaths file.1 hentry)
  rw [checkFile, if_pos hpath, lookup_generatedDirectory hnodup hfile]
  rfl

/-- A certificate that is valid passes the check. -/
theorem checkCertificate_of_validUnder {cert authority : X509Certificate}
    (hvalid : ValidUnder schemes x509 cert authority) :
    checkCertificate schemes x509 cert authority = .ok () := by
  obtain ⟨checked, hchecked⟩ := hvalid
  rw [checkCertificate, hchecked]
  rfl

/-- The keys of an authority below a root are loaded. -/
theorem loadAuthority_of_storedIn {keys root : HybridKeyPair schemes} {directory : PkiDirectory}
    {name path adminPwd : String} (hroot : root.IsAuthority x509) (hkeys : keys.IsBelow root x509)
    (hstored : keys.StoredIn formats x509 directory name path adminPwd) :
    loadAuthority formats x509 directory name path adminPwd root = .ok () := by
  have hclassic : checkCertificate schemes x509 keys.classicCert root.classicCert = .ok () :=
    checkCertificate_of_validUnder (hroot.validUnder (hkeys.signed .ed25519))
  have hpq : checkCertificate schemes x509 keys.pqCert root.pqCert = .ok () :=
    checkCertificate_of_validUnder (hroot.validUnder (hkeys.signed .mlDsa87))
  rw [loadAuthority, load_of_storedIn hstored]
  show (checkCertificate schemes x509 keys.classicCert root.classicCert >>= fun _ ↦ _) = _
  rw [hclassic, ok_bind, hpq]

/-- The files of an authority and of two pairs of keys below it are valid. -/
theorem validatedRoot_generatedDirectory {root st usb : HybridKeyPair schemes}
    (hroot : root.IsAuthority x509) (hst : st.IsBelow root x509) (husb : usb.IsBelow root x509)
    {adminPwd : String} {rootClassic rootPq stClassic stPq usbClassic usbPq : List UInt8}
    (hrootDocuments : root.Documents formats adminPwd rootClassic rootPq)
    (hstDocuments : st.Documents formats adminPwd stClassic stPq)
    (husbDocuments : usb.Documents formats adminPwd usbClassic usbPq) (before : PkiDirectory) :
    validatedRoot formats x509 (generatedDirectory before
        (root.files x509 "root" "root" rootClassic rootPq ++
          st.files x509 "st-ca" "st" stClassic stPq ++
            usb.files x509 "usb" "usb" usbClassic usbPq)) adminPwd = .ok root := by
  let names : List (String × String) :=
    [("root", "root-cl.p8"), ("root", "root-pq.p8"), ("root", "root-cl.pem"),
      ("root", "root-pq.pem"), ("st", "st-ca-cl.p8"), ("st", "st-ca-pq.p8"),
      ("st", "st-ca-cl.pem"), ("st", "st-ca-pq.pem"), ("usb", "usb-cl.p8"), ("usb", "usb-pq.p8"),
      ("usb", "usb-cl.pem"), ("usb", "usb-pq.pem")]
  let files := root.files x509 "root" "root" rootClassic rootPq ++
    st.files x509 "st-ca" "st" stClassic stPq ++ usb.files x509 "usb" "usb" usbClassic usbPq
  have hnames : files.map Prod.fst = names := rfl
  have hnodup : (files.map Prod.fst).Nodup := by
    rw [hnames]
    decide
  have hall : directoriesAndFiles ⊆ files.map Prod.fst := by
    rw [hnames]
    decide
  have hrootStored : root.StoredIn formats x509 (generatedDirectory before files) "root" "root"
      adminPwd :=
    storedIn_generatedDirectory hrootDocuments hroot.isBelow.hasPublicKey hnodup
      fun _ hfile ↦ List.mem_append_left _ (List.mem_append_left _ hfile)
  have hstStored : st.StoredIn formats x509 (generatedDirectory before files) "st-ca" "st"
      adminPwd :=
    storedIn_generatedDirectory hstDocuments hst.hasPublicKey hnodup
      fun _ hfile ↦ List.mem_append_left _ (List.mem_append_right _ hfile)
  have husbStored : usb.StoredIn formats x509 (generatedDirectory before files) "usb" "usb"
      adminPwd :=
    storedIn_generatedDirectory husbDocuments husb.hasPublicKey hnodup
      fun _ hfile ↦ List.mem_append_right _ hfile
  have hclassic : checkCertificate schemes x509 root.classicCert root.classicCert = .ok () :=
    checkCertificate_of_validUnder (hroot.validUnder (hroot.isBelow.signed .ed25519))
  have hpq : checkCertificate schemes x509 root.pqCert root.pqCert = .ok () :=
    checkCertificate_of_validUnder (hroot.validUnder (hroot.isBelow.signed .mlDsa87))
  rw [validatedRoot, checkFiles_generatedDirectory hnodup hall, ok_bind,
    load_of_storedIn hrootStored]
  show (checkCertificate schemes x509 root.classicCert root.classicCert >>= fun _ ↦ _) = _
  rw [hclassic, ok_bind, hpq, ok_bind, loadAuthority_of_storedIn hroot hst hstStored, ok_bind,
    loadAuthority_of_storedIn hroot husb husbStored, ok_bind]
  rfl

/-- The files of a PKI are valid, and their root is that of the PKI. -/
theorem exists_validatedRoot {infos : CertificateFields} {adminPwd : String}
    {files : List PkiWrite} (hkeys : PkiKeys formats x509 infos adminPwd files)
    (before : PkiDirectory) :
    ∃ root : HybridKeyPair schemes, root.IsRoot x509 infos ∧
      validatedRoot formats x509 (generatedDirectory before files) adminPwd = .ok root := by
  obtain ⟨root, st, usb, hroot, hst, husb, _, _, _, _, _, _, hrootDocuments, hstDocuments,
    husbDocuments, rfl⟩ := hkeys
  exact ⟨root, hroot, validatedRoot_generatedDirectory hroot.isAuthority hst husb hrootDocuments
    hstDocuments husbDocuments before⟩

/-! ### What is restored -/

/-- The fields of a PKI with all of its texts and a validity. -/
def pkiFields (fields : SubjectFields) (days : UInt32) : CertificateFields :=
  ⟨some fields.organization, some fields.organizationalUnit, some fields.country, none, some days⟩

theorem of_pkiFields_inj {baseDirectory : String} {first second : SubjectFields}
    {firstDays secondDays : UInt32} :
    CaRow.of baseDirectory (pkiFields first firstDays) =
        CaRow.of baseDirectory (pkiFields second secondDays) ↔
      first = second ∧ firstDays = secondDays := by
  rcases first with ⟨country, organization, unit⟩
  rcases second with ⟨otherCountry, otherOrganization, otherUnit⟩
  simp only [CaRow.of, pkiFields, Option.getD_some, CaRow.mk.injEq, SubjectFields.mk.injEq,
    true_and]
  constructor
  · rintro ⟨rfl, rfl, rfl, rfl⟩
    exact ⟨⟨rfl, rfl, rfl⟩, rfl⟩
  · rintro ⟨⟨rfl, rfl, rfl⟩, rfl⟩
    exact ⟨rfl, rfl, rfl, rfl⟩

/-- The days of the validity of a root are those of its fields. -/
theorem daysOf_secondsOf {days : UInt32} (hdays : days.toNat * 86400 < 2 ^ 32) (now : ℕ) :
    daysOf ⟨now, now + secondsOf days⟩ = .ok days := by
  rw [daysOf, if_pos (Nat.le_add_right _ _), Nat.add_sub_cancel_left, secondsOf_eq hdays,
    Nat.mul_div_cancel _ (by decide), UInt32.ofNat_toNat]

/-- The configuration that is read from the certificate of a root is the one it is made for exactly
when the texts of this are plain. Assumes: none of them is empty, and the seconds of the validity
fit 32 bits. -/
theorem restoredInfos_eq_iff (names : NameText) {root : HybridKeyPair schemes}
    {fields : SubjectFields} {days : UInt32} (hroot : root.IsRoot x509 (pkiFields fields days))
    (hdays : days.toNat * 86400 < 2 ^ 32) (hcountry : fields.country ≠ "")
    (horganization : fields.organization ≠ "") (hunit : fields.organizationalUnit ≠ "") :
    restoredInfos names.toText root.classicCert = .ok (pkiFields fields days) ↔
      fields.AllPlain := by
  obtain ⟨now, found, hfound, hvalidity⟩ := hroot.validity
  obtain rfl : found = days := Option.some.inj hfound.symm
  obtain ⟨set, hname, hset⟩ := perm_generateDn x509 (pkiFields fields found)
  have hsubject : root.classicCert.tbsCertificate.subject = [set] :=
    (hroot.certifies .ed25519).subject.trans hname
  rw [restoredInfos, hvalidity, daysOf_secondsOf hdays, ok_bind, hsubject,
    ← readSubject_toText_eq_iff names hset hcountry horganization hunit]
  rcases readSubject (names.toText [set]) with error | read
  · exact iff_of_false nofun nofun
  rw [ok_bind, Except.ok.injEq]
  constructor
  · intro hread
    split_ifs at hread
    have hrow := congrArg (CaRow.of "") (Except.ok.inj hread)
    exact (of_pkiFields_inj.mp hrow).1
  · rintro rfl
    rw [if_pos ⟨hcountry, horganization, hunit⟩]
    rfl

/-- What is read from a certificate has all of its texts and a validity. -/
theorem exists_pkiFields_of_restoredInfos {display : RdnSequence → String} {cert : X509Certificate}
    {infos : CertificateFields} (hinfos : restoredInfos display cert = .ok infos) :
    ∃ fields days, infos = pkiFields fields days := by
  obtain ⟨days, -, hinfos⟩ := exists_of_bind_eq_ok hinfos
  obtain ⟨fields, -, hinfos⟩ := exists_of_bind_eq_ok hinfos
  split_ifs at hinfos
  obtain rfl := Except.ok.inj hinfos
  exact ⟨fields, days, rfl⟩

/-- A PKI in a directory is restored into a database that works: `check_restore_pki` ends, and the
table has the row of some fields, and no other. -/
def Restores (formats : KeyFormats schemes) (x509 : X509) (display : RdnSequence → String)
    (directory : PkiDirectory) (baseDirectory adminPwd : String) (table : CaTable)
    (infos : CertificateFields) : Prop :=
  Program.Reaches
    (checkRestorePki formats x509 display .succeeding directory baseDirectory adminPwd :
      Program PkiWrite PkiStore RestoreError Unit) ⟨true, some table⟩ fun reached _ ↦
    reached.caTable.map RowTable.rows = some [.of baseDirectory infos]

/-- What is restored of a directory is what is read from the certificate of its root. -/
theorem restores_iff_restoredInfos {display : RdnSequence → String} {directory : PkiDirectory}
    {baseDirectory adminPwd : String} {table : CaTable} {root : HybridKeyPair schemes}
    (hroot : validatedRoot formats x509 directory adminPwd = .ok root) {fields : SubjectFields}
    {days : UInt32} :
    Restores formats x509 display directory baseDirectory adminPwd table (pkiFields fields days) ↔
      restoredInfos display root.classicCert = .ok (pkiFields fields days) := by
  have hdrop : (dropPki .succeeding : Program PkiWrite PkiStore StoreError Unit).run
      ⟨true, some table⟩ = ⟨[], ⟨true, some (.empty _)⟩, .ok ()⟩ := rfl
  have hinit : (initStore .succeeding : Program PkiWrite PkiStore StoreError Unit).run
      ⟨true, some (.empty _)⟩ = ⟨[], ⟨true, some (.empty _)⟩, .ok ()⟩ := rfl
  have hset : ∀ infos, (setPkiConfig .succeeding baseDirectory infos :
      Program PkiWrite PkiStore StoreError Unit).run ⟨true, some (.empty _)⟩ =
        ⟨[], ⟨true, some ((RowTable.empty _).replace (.of baseDirectory infos))⟩, .ok ()⟩ :=
    fun _ ↦ rfl
  rw [Restores, checkRestorePki, hroot, Program.reaches_ofExcept_bind_iff]
  simp only [Except.ok.injEq, exists_eq_left', Program.reaches_bind_iff,
    Program.reaches_mapError_iff]
  simp only [Program.Reaches, hdrop, hinit, hset, Program.run_ofExcept, Option.map_some,
    Option.some_inj, true_and, exists_const]
  constructor
  · rintro ⟨infos, hinfos, hrows⟩
    obtain ⟨read, readDays, rfl⟩ := exists_pkiFields_of_restoredInfos hinfos
    have hrow : CaRow.of baseDirectory (pkiFields read readDays) =
        CaRow.of baseDirectory (pkiFields fields days) := List.singleton_inj.mp hrows
    obtain ⟨rfl, rfl⟩ := of_pkiFields_inj.mp hrow
    exact hinfos
  · exact fun hinfos ↦ ⟨_, hinfos, rfl⟩

/-! ### Generation and restoration -/

variable {calls : GenerateCalls schemes} {orgName orgUnit country validity adminPwd pkiDir : String}

/-- What a generation that ends writes: the files of the keys of the PKI. -/
theorem establishes_generatePkiInDir {infos : CertificateFields}
    (hfields : fromFields (some orgName) (some orgUnit) (some country) none (some validity) =
      .ok infos) {start : PkiStore} :
    Program.Establishes (generatePkiInDir formats x509 calls orgName orgUnit country validity
      adminPwd pkiDir) start fun trace _ _ ↦ PkiKeys formats x509 infos adminPwd trace := by
  have hset : Program.Establishes ((setPkiConfig calls.sqlite pkiDir infos :
      Program PkiWrite PkiStore StoreError Unit).mapError GenerateError.store) start
        fun trace _ _ ↦ trace = [] := by
    rw [Program.establishes_mapError_iff, setPkiConfig, Program.establishes_get_bind_iff,
      Program.establishes_require_bind_iff]
    intro _
    rw [Program.establishes_require_bind_iff]
    intro _
    rw [Program.establishes_modify_iff]
  rw [generatePkiInDir, Program.establishes_ofExcept_bind_iff]
  intro found hfound
  obtain rfl : infos = found := Except.ok.inj (hfields.symm.trans (mapError_eq_ok_iff.mp hfound))
  rw [Program.establishes_ofExcept_bind_iff]
  intro _ _
  refine Program.establishes_bind (hset.mono ?_)
  rintro _ _ _ rfl
  refine Program.establishes_bind
    (Program.establishes_mapError_iff.mpr (establishes_generateKeys.mono ?_))
  rintro trace _ _ ⟨-, hkeys⟩
  rw [Program.establishes_pure_iff, List.append_nil]
  exact hkeys

/-- The directory after a run of `generate_pki_in_dir`. -/
def directoryAfter (formats : KeyFormats schemes) (x509 : X509) (calls : GenerateCalls schemes)
    (orgName orgUnit country validity adminPwd pkiDir : String) (before : PkiDirectory)
    (start : PkiStore) : PkiDirectory :=
  generatedDirectory before ((generatePkiInDir formats x509 calls orgName orgUnit country validity
    adminPwd pkiDir).run start).trace

/-- What is restored of a PKI that is generated is what is read from the certificate of its root. -/
theorem exists_root_of_generatePkiInDir {fields : SubjectFields} {days : UInt32}
    (hfields : fromFields (some orgName) (some orgUnit) (some country) none (some validity) =
      .ok (pkiFields fields days)) {start : PkiStore}
    (hends : (generatePkiInDir formats x509 calls orgName orgUnit country validity adminPwd
      pkiDir).Ends start) (before : PkiDirectory) :
    ∃ root : HybridKeyPair schemes, root.IsRoot x509 (pkiFields fields days) ∧
      ∀ (display : RdnSequence → String) (baseDirectory : String) (table : CaTable),
        Restores formats x509 display (directoryAfter formats x509 calls orgName orgUnit country
            validity adminPwd pkiDir before start) baseDirectory adminPwd table
            (pkiFields fields days) ↔
          restoredInfos display root.classicCert = .ok (pkiFields fields days) := by
  obtain ⟨value, hvalue⟩ := hends
  obtain ⟨root, hroot, hvalidated⟩ :=
    exists_validatedRoot (establishes_generatePkiInDir hfields value hvalue) before
  exact ⟨root, hroot, fun _ _ _ ↦ restores_iff_restoredInfos hvalidated⟩

/-- A PKI that is generated is restored with its fields exactly when the texts of these are plain:
the organisation, its unit, and the country as it is accepted. Assumes: the fields are accepted, the
names are not empty, and the generation ends. -/
theorem restores_iff (names : NameText) {infos : CertificateFields}
    (hfields : fromFields (some orgName) (some orgUnit) (some country) none (some validity) =
      .ok infos) (hname : orgName ≠ "") (hunit : orgUnit ≠ "") {start : PkiStore}
    (hends : (generatePkiInDir formats x509 calls orgName orgUnit country validity adminPwd
      pkiDir).Ends start) (before : PkiDirectory) (baseDirectory : String) (table : CaTable) :
    Restores formats x509 names.toText (directoryAfter formats x509 calls orgName orgUnit country
        validity adminPwd pkiDir before start) baseDirectory adminPwd table infos ↔
      Plain orgName ∧ Plain orgUnit ∧ ∀ accepted, countryOf country = .ok accepted →
        Plain accepted := by
  obtain ⟨accepted, days, haccepted, hcountry, hdays, rfl⟩ := of_fromFields hfields
  have hpki : fromFields (some orgName) (some orgUnit) (some country) none (some validity) =
      .ok (pkiFields ⟨accepted, orgName, orgUnit⟩ days) := hfields
  obtain ⟨root, hroot, hrestores⟩ := exists_root_of_generatePkiInDir hpki hends before
  show Restores formats x509 names.toText _ baseDirectory adminPwd table
    (pkiFields ⟨accepted, orgName, orgUnit⟩ days) ↔ _
  rw [hrestores, restoredInfos_eq_iff names hroot hdays hcountry hname hunit]
  constructor
  · rintro ⟨hplain, horganization, hunit⟩
    refine ⟨horganization, hunit, fun found hfound ↦ ?_⟩
    obtain rfl := Except.ok.inj (haccepted.symm.trans hfound)
    exact hplain
  · rintro ⟨horganization, hunit, hplain⟩
    exact ⟨hplain accepted haccepted, horganization, hunit⟩

/-! ### A sample PKI -/

/-- A library that writes names with the content of a value as its encoding. -/
def sampleNames : NameText where
  valueToDer value := value.value
  toText name := "+".intercalate (name.flatten.map (attributeText Any.value))
  toText_singleton set _ := by rw [List.flatten_singleton]

/-- A run in which nothing fails. -/
def workingCalls : GenerateCalls markedSchemes :=
  { fullDiskCalls with writes := fun _ _ ↦ true }

theorem succeed_workingCalls (orgName : String) :
    workingCalls.Succeed unaryFormats (sampleInfos orgName) := by
  have hvalid : (sampleInfos orgName).ValidFor 0 := ⟨365, rfl, by decide, by decide⟩
  have hdraw : ∀ key, (sampleDraw key).Succeeds (sampleInfos orgName) :=
    fun _ ↦ ⟨rfl, fun _ ↦ hvalid⟩
  exact {
    isDirectory := rfl
    createsDirectory := fun _ ↦ rfl
    replaces := rfl
    writes := fun _ _ ↦ rfl
    encrypts := fun _ _ _ ↦ rfl
    root := hdraw 1
    st := hdraw 2
    usb := hdraw 3 }

/-- The country of the sample is accepted as it is. -/
theorem countryOf_sample : countryOf "FR" = .ok "FR" := by decide +kernel

/-- The fields of the sample are accepted, for any organisation. -/
theorem fromFields_sample (orgName : String) :
    fromFields (some orgName) (some "Lab") (some "FR") none (some "365") =
      .ok (sampleInfos orgName) := by
  have hvalidity : validityOf "365" = .ok 365 := by decide +kernel
  rw [fromFields, Option.mapM_some, countryOf_sample, Option.mapM_some, hvalidity]
  rfl

theorem ends_sample (orgName : String) :
    (generatePkiInDir unaryFormats unaryX509 workingCalls orgName "Lab" "FR" "365" "secret"
      "/pki").Ends ⟨true, some (.empty _)⟩ :=
  ends_generatePkiInDir idealSchemes_marked (fromFields_sample orgName)
    (succeed_workingCalls orgName) "secret" "/pki" (.empty _)

/-- The directory of a sample PKI, for an organisation. -/
def sampleDirectory (orgName : String) : PkiDirectory :=
  directoryAfter unaryFormats unaryX509 workingCalls orgName "Lab" "FR" "365" "secret" "/pki"
    ⟨true, [], ∅⟩ ⟨true, some (.empty _)⟩

/-- A sample PKI is restored. -/
theorem restores_sample :
    Restores unaryFormats unaryX509 sampleNames.toText (sampleDirectory "Keysas") "/pki" "secret"
      (.empty _) (sampleInfos "Keysas") := by
  refine (restores_iff sampleNames (fromFields_sample "Keysas") (by decide) (by decide)
    (ends_sample "Keysas") ⟨true, [], ∅⟩ "/pki" (.empty _)).mpr ?_
  refine ⟨by decide, by decide, ?_⟩
  intro accepted haccepted
  obtain rfl := Except.ok.inj (countryOf_sample.symm.trans haccepted)
  decide

/-- A PKI of an organisation with a plus sign is not restored. -/
theorem not_restores_plus :
    ¬ Restores unaryFormats unaryX509 sampleNames.toText (sampleDirectory "R+D") "/pki" "secret"
      (.empty _) (sampleInfos "R+D") := by
  intro hrestores
  have hfields : fromFields (some "R+D") (some "Lab") (some "FR") none (some "365") =
      .ok (pkiFields ⟨"FR", "R+D", "Lab"⟩ 365) := fromFields_sample "R+D"
  obtain ⟨root, hroot, hiff⟩ :=
    exists_root_of_generatePkiInDir hfields (ends_sample "R+D") ⟨true, [], ∅⟩
  have hinfos := (hiff sampleNames.toText "/pki" (.empty _)).mp hrestores
  have hplain := (restoredInfos_eq_iff sampleNames hroot (by decide) (by decide) (by decide)
    (by decide)).mp hinfos
  exact absurd hplain.organization.plus (by decide)

end Keysas.Admin
