import Keysas.Analyze.IsoScan

/-!
# The files that the scan of ISO images finds

A directory of an ISO image is a run of sectors with records in them. `RecordStart` says where the
records of a directory stand and `IsRecord` which of them name something; `ReachesDir` follows the
records of directories from the root to any depth, and `ReachesFile` are the records of files in the
directories so reached. None of this knows of the limits of the scan. A name ends at its first
semicolon, as for the scan: what stands behind it is the version of the file.

The scan does know of limits: it stops below eight directories, and it enters no directory any more
once 4096 names are collected. `mem_collect_of_reachesFile` says that it collects the path of every
file up to that depth when it collects fewer than 4096 names, and `not_dangerous_of_passes` what
follows for an image that passes. `passes_beyond_limits` has an image for each of the limits that
passes with an executable: in the ninth directory, or in a directory behind 4096 texts.
-/

set_option autoImplicit false
set_option relaxedAutoImplicit false

namespace Keysas.Analyze.Iso

open RustStd

/-! ### Reachable records -/

/-- The positions of a directory at which a record may stand: the first, behind a record, and the
next sector where there is none. -/
inductive RecordStart (dirData : List UInt8) : ℕ → Prop
  | first : RecordStart dirData 0
  | sector {pos : ℕ} (hstart : RecordStart dirData pos) (hpadding : dirData[pos]? = some 0) :
    RecordStart dirData ((pos / sectorSize + 1) * sectorSize)
  | next {pos : ℕ} {length : UInt8} (hstart : RecordStart dirData pos)
      (hlength : dirData[pos]? = some length) (hlong : 34 ≤ length.toNat)
      (hfits : pos + length.toNat ≤ dirData.length) :
    RecordStart dirData (pos + length.toNat)

/-- A well-formed record at a position of a directory, which has a name and is not that of the
directory itself or of its parent. -/
structure RecordAt (dirData : List UInt8) (pos : ℕ) (length : UInt8) (record : List UInt8) :
    Prop where
  start : RecordStart dirData pos
  length_eq : dirData[pos]? = some length
  long : 34 ≤ length.toNat
  fits : pos + length.toNat ≤ dirData.length
  record_eq : record = (dirData.drop pos).take length.toNat
  nameFits : 33 + nameLen record ≤ length.toNat
  not_self : nameRaw record ≠ [0x00]
  not_parent : nameRaw record ≠ [0x01]

/-- A record of a directory. -/
def IsRecord (dirData record : List UInt8) : Prop :=
  ∃ pos length, RecordAt dirData pos length record

/-- The directories that can be reached from the root record of an image, with the number of records
that were followed. -/
inductive ReachesDir (buf : List UInt8) : ℕ → ℕ → ℕ → Prop
  | root : ReachesDir buf 0 (readU32Le (pvd buf) 158) (readU32Le (pvd buf) 166)
  | child {depth lba size : ℕ} {record : List UInt8} (hdir : ReachesDir buf depth lba size)
      (hrecord : IsRecord (extent buf lba size) record) (hisDir : isDir record = true) :
    ReachesDir buf (depth + 1) (childLba record) (childSize record)

/-- The records of files that can be reached from the root record of an image. -/
def ReachesFile (buf : List UInt8) (depth : ℕ) (record : List UInt8) : Prop :=
  ∃ lba size, ReachesDir buf depth lba size ∧ IsRecord (extent buf lba size) record ∧
    isDir record = false

/-- The extension of the name of a record is that of an executable or of a script, in any case. The
name ends at its first semicolon. -/
def Dangerous (tables : UnicodeTables) (record : List UInt8) : Prop :=
  ∃ stem ext, baseName record = stem ++ "." ++ ext ∧
    toLowercase tables ext ∈ executableExts ++ scriptExts

/-- A buffer is accepted as an ISO image. -/
structure IsImage (buf : List UInt8) : Prop where
  long : pvdSector * sectorSize + 190 ≤ buf.length
  kind : (pvd buf)[0]? = some 1
  identifier : ((pvd buf).drop 1).take 5 = [0x43, 0x44, 0x30, 0x30, 0x31]

/-! ### What the loop does at a position -/

section Scan

variable {dirData record : List UInt8} {pos : ℕ} {length : UInt8}

/-- A position with no record passes to the next sector, if there is one. -/
theorem scanAt_of_padding (hpadding : dirData[pos]? = some 0)
    (hnext : (pos / sectorSize + 1) * sectorSize < dirData.length) :
    scanAt dirData pos = .pass ((pos / sectorSize + 1) * sectorSize) := by
  simp [scanAt, hpadding, Nat.not_le_of_lt hnext]

/-- A record is found where it stands. -/
theorem scanAt_of_recordAt (hrecord : RecordAt dirData pos length record) :
    scanAt dirData pos = .record record (pos + length.toNat) := by
  have hlong := hrecord.long
  have hfits := hrecord.fits
  have hname := hrecord.nameFits
  simp only [scanAt, hrecord.length_eq, ← hrecord.record_eq]
  rw [if_neg (by omega), if_neg (by omega),
    if_neg (by simp [hname, hrecord.not_self, hrecord.not_parent])]

/-- A record of a length that fits is passed, whatever its name is. -/
theorem scanAt_of_length (hlength : dirData[pos]? = some length) (hlong : 34 ≤ length.toNat)
    (hfits : pos + length.toNat ≤ dirData.length) :
    scanAt dirData pos = .pass (pos + length.toNat) ∨
      ∃ record, scanAt dirData pos = .record record (pos + length.toNat) := by
  simp only [scanAt, hlength]
  rw [if_neg (by omega), if_neg (by omega)]
  split_ifs with hskip
  · exact .inl rfl
  · exact .inr ⟨_, rfl⟩

end Scan

/-! ### The loop over one directory -/

/-- What the loop does with a record: it calls for a directory, and collects the path of a file. -/
def enter (tables : UnicodeTables) (descend : ℕ → ℕ → String → List String → List String)
    (pathPrefix : String) (files : List String) (record : List UInt8) : List String :=
  let path := fullPath tables pathPrefix record
  if isDir record then descend (childLba record) (childSize record) path files
  else files ++ [path]

section Entries

variable {tables : UnicodeTables} {descend : ℕ → ℕ → String → List String → List String}
  {dirData : List UInt8} {pathPrefix : String}

/-- A call for a directory keeps what has been collected. -/
def Extends (descend : ℕ → ℕ → String → List String → List String) : Prop :=
  ∀ lba size path files, files <+: descend lba size path files

/-- The loop keeps what has been collected. -/
theorem prefix_walkEntries (hdescend : Extends descend) (fuel pos : ℕ) (files : List String) :
    files <+: walkEntries tables descend dirData pathPrefix fuel pos files := by
  induction fuel generalizing pos files with
  | zero => exact List.prefix_rfl
  | succ fuel ih =>
    rw [walkEntries]
    cases scanAt dirData pos with
    | stop => exact List.prefix_rfl
    | pass next => exact ih next files
    | record record next =>
      refine List.IsPrefix.trans ?_ (ih next _)
      by_cases hdir : isDir record
      · rw [if_pos hdir]
        exact hdescend _ _ _ _
      · rw [if_neg hdir]
        exact List.prefix_append _ _

/-- The loop comes to a position with enough steps left. -/
def ComesTo (tables : UnicodeTables) (descend : ℕ → ℕ → String → List String → List String)
    (dirData : List UInt8) (pathPrefix : String) (files : List String) (pos : ℕ) : Prop :=
  ∃ fuel reached, dirData.length ≤ pos + fuel ∧
    walkEntries tables descend dirData pathPrefix dirData.length 0 files =
      walkEntries tables descend dirData pathPrefix fuel pos reached

/-- From a position within the directory the loop comes to the position where it goes on. -/
theorem ComesTo.step {files : List String} {pos next : ℕ}
    (hcomes : ComesTo tables descend dirData pathPrefix files pos) (hpos : pos < dirData.length)
    (hnext : pos < next)
    (hscan : scanAt dirData pos = .pass next ∨ ∃ record, scanAt dirData pos = .record record next) :
    ComesTo tables descend dirData pathPrefix files next := by
  obtain ⟨fuel, reached, hfuel, hwalk⟩ := hcomes
  obtain ⟨steps, rfl⟩ := Nat.exists_eq_succ_of_ne_zero (show fuel ≠ 0 by omega)
  rcases hscan with hpass | ⟨record, hrecord⟩
  · rw [walkEntries, hpass] at hwalk
    exact ⟨steps, _, by omega, hwalk⟩
  · rw [walkEntries, hrecord] at hwalk
    exact ⟨steps, _, by omega, hwalk⟩

/-- The loop comes to every position at which a record may stand. Assumes: the position is within
the directory. -/
theorem comesTo_of_recordStart (files : List String) {pos : ℕ} (hstart : RecordStart dirData pos)
    (hpos : pos < dirData.length) :
    ComesTo tables descend dirData pathPrefix files pos := by
  induction hstart with
  | first => exact ⟨dirData.length, files, by omega, rfl⟩
  | @sector pos _ hpadding ih =>
    have hbefore : pos < dirData.length := (List.getElem?_eq_some_iff.mp hpadding).1
    exact (ih hbefore).step hbefore (lt_nextSector pos) (.inl (scanAt_of_padding hpadding hpos))
  | @next pos length _ hlength hlong hfits ih =>
    have hbefore : pos < dirData.length := (List.getElem?_eq_some_iff.mp hlength).1
    exact (ih hbefore).step hbefore (by omega) (scanAt_of_length hlength hlong hfits)

/-- The loop deals with every record, and keeps what this collects. Assumes: calls for directories
keep what has been collected. -/
theorem exists_enter_prefix_walkEntries (hdescend : Extends descend) {record : List UInt8}
    (hrecord : IsRecord dirData record) (files : List String) :
    ∃ reached, enter tables descend pathPrefix reached record <+:
      walkEntries tables descend dirData pathPrefix dirData.length 0 files := by
  obtain ⟨pos, length, hat⟩ := hrecord
  have hpos : pos < dirData.length := (List.getElem?_eq_some_iff.mp hat.length_eq).1
  obtain ⟨fuel, reached, hfuel, hwalk⟩ :=
    @comesTo_of_recordStart tables descend dirData pathPrefix files pos hat.start hpos
  obtain ⟨steps, rfl⟩ := Nat.exists_eq_succ_of_ne_zero (show fuel ≠ 0 by omega)
  rw [walkEntries, scanAt_of_recordAt hat] at hwalk
  refine ⟨reached, ?_⟩
  rw [hwalk]
  exact prefix_walkEntries hdescend _ _ _

/-- The loop collects the path of every record of a file. Assumes: calls for directories keep what
has been collected. -/
theorem mem_walkEntries_of_file (hdescend : Extends descend) {record : List UInt8}
    (hrecord : IsRecord dirData record) (hfile : isDir record = false) (files : List String) :
    fullPath tables pathPrefix record ∈
      walkEntries tables descend dirData pathPrefix dirData.length 0 files := by
  obtain ⟨reached, hprefix⟩ :=
    @exists_enter_prefix_walkEntries tables descend dirData pathPrefix hdescend record hrecord files
  rw [enter, hfile, if_neg Bool.false_ne_true] at hprefix
  exact hprefix.subset (List.mem_append_right _ (List.mem_singleton_self _))

/-- The loop calls for every record of a directory, and keeps what the call collects. Assumes: calls
for directories keep what has been collected. -/
theorem exists_prefix_walkEntries_of_dir (hdescend : Extends descend) {record : List UInt8}
    (hrecord : IsRecord dirData record) (hdir : isDir record = true) (files : List String) :
    ∃ path reached, descend (childLba record) (childSize record) path reached <+:
      walkEntries tables descend dirData pathPrefix dirData.length 0 files := by
  obtain ⟨reached, hprefix⟩ :=
    @exists_enter_prefix_walkEntries tables descend dirData pathPrefix hdescend record hrecord files
  rw [enter, if_pos hdir] at hprefix
  exact ⟨_, reached, hprefix⟩

end Entries

/-! ### The walk over the tree -/

section Walk

variable {tables : UnicodeTables} {buf : List UInt8}

theorem extends_walkDir (levels : ℕ) : Extends (walkDir tables buf levels) := by
  induction levels with
  | zero => exact fun _ _ _ _ ↦ List.prefix_rfl
  | succ levels ih =>
    intro lba size path files
    rw [walkDir]
    split_ifs
    · exact List.prefix_rfl
    · exact List.prefix_rfl
    · exact prefix_walkEntries ih _ _ _

/-- A directory with a record begins within the image. -/
theorem lt_length_of_isRecord {lba size : ℕ} {record : List UInt8}
    (hrecord : IsRecord (extent buf lba size) record) : lba * sectorSize < buf.length := by
  obtain ⟨pos, length, hat⟩ := hrecord
  have hpos : pos < (extent buf lba size).length :=
    (List.getElem?_eq_some_iff.mp hat.length_eq).1
  rw [extent, List.length_take, List.length_drop] at hpos
  omega

/-- The walk of a directory with a record is the loop over it. Assumes: there are levels left, and
fewer than `maxFiles` names are collected in the end. -/
theorem walkDir_of_isRecord {levels lba size : ℕ} {record : List UInt8} {path : String}
    {files : List String} (hrecord : IsRecord (extent buf lba size) record)
    (hfew : (walkDir tables buf (levels + 1) lba size path files).length < maxFiles) :
    walkDir tables buf (levels + 1) lba size path files =
      walkEntries tables (walkDir tables buf levels) (extent buf lba size) path
        (extent buf lba size).length 0 files := by
  have hlength := (@extends_walkDir tables buf (levels + 1) lba size path files).length_le
  have hlba := lt_length_of_isRecord hrecord
  rw [walkDir, if_neg (by omega), if_neg (by omega)]

/-- The walk enters every directory that can be reached within its depth. Assumes: it collects fewer
than `maxFiles` names. -/
theorem exists_prefix_collect_of_reachesDir (hfew : (collect tables buf).length < maxFiles)
    {depth lba size : ℕ} (hdir : ReachesDir buf depth lba size) (hdepth : depth ≤ maxDepth) :
    ∃ path files, walkDir tables buf (maxDepth + 1 - depth) lba size path files <+:
      collect tables buf := by
  induction hdir with
  | root => exact ⟨"", [], List.prefix_rfl⟩
  | @child depth lba size record hdir hrecord hisDir ih =>
    obtain ⟨path, files, hprefix⟩ := ih (by omega)
    have hlevels : maxDepth + 1 - depth = (maxDepth + 1 - (depth + 1)) + 1 := by omega
    rw [hlevels] at hprefix
    have hbelow := lt_of_le_of_lt hprefix.length_le hfew
    rw [walkDir_of_isRecord hrecord hbelow] at hprefix
    obtain ⟨childPath, reached, hchild⟩ :=
      exists_prefix_walkEntries_of_dir (extends_walkDir _) hrecord hisDir files
    exact ⟨childPath, reached, hchild.trans hprefix⟩

/-- The walk collects the path of every file that can be reached within its depth. Assumes: it
collects fewer than `maxFiles` names. -/
theorem mem_collect_of_reachesFile (hfew : (collect tables buf).length < maxFiles) {depth : ℕ}
    {record : List UInt8} (hfile : ReachesFile buf depth record) (hdepth : depth ≤ maxDepth) :
    ∃ path, fullPath tables path record ∈ collect tables buf := by
  obtain ⟨lba, size, hdir, hrecord, hisFile⟩ := hfile
  obtain ⟨path, files, hprefix⟩ := exists_prefix_collect_of_reachesDir hfew hdir hdepth
  have hlevels : maxDepth + 1 - depth = (maxDepth - depth) + 1 := by omega
  rw [hlevels] at hprefix
  have hbelow := lt_of_le_of_lt hprefix.length_le hfew
  rw [walkDir_of_isRecord hrecord hbelow] at hprefix
  refine ⟨path, hprefix.subset ?_⟩
  exact mem_walkEntries_of_file (extends_walkDir _) hrecord hisFile files

end Walk

/-! ### Dangerous names -/

/-- The extensions that block are ASCII and in lowercase. -/
theorem lower_of_mem_exts : ∀ ext ∈ executableExts ++ scriptExts,
    ∀ character ∈ ext.toList, character.toNat < 128 ∧ character.toLower = character := by
  have hall : (executableExts ++ scriptExts).all (fun ext ↦ ext.toList.all fun character ↦
      decide (character.toNat < 128 ∧ character.toLower = character)) = true := by
    decide
  simpa only [List.all_eq_true, decide_eq_true_eq] using hall

/-- The extensions that block have no dot. -/
theorem dot_not_mem_of_mem_exts : ∀ ext ∈ executableExts ++ scriptExts, '.' ∉ ext.toList := by
  decide

/-- The lowercase of a name with an extension that blocks ends with that extension in lowercase. -/
theorem exists_toLowercase_append (tables : UnicodeTables) (stem : String) {ext : String}
    (hext : toLowercase tables ext ∈ executableExts ++ scriptExts) :
    ∃ lowered, toLowercase tables (stem ++ "." ++ ext) =
      lowered ++ String.singleton '.' ++ toLowercase tables ext := by
  have hascii : ∀ character ∈ lowercaseFrom tables [] ext.toList, character.toNat < 128 := by
    intro character hmem
    refine (lower_of_mem_exts _ hext character ?_).1
    rwa [toLowercase, String.toList_ofList]
  have hsigma := not_mem_of_lowercaseFrom_ascii hascii
  obtain ⟨lowered, hlowered⟩ :=
    exists_lowercaseFrom_append tables [] stem.toList ('.' :: ext.toList)
  have hdot : tables.lowercase '.' = ['.'] := tables.lowercase_ascii '.' (by decide)
  have hjoined : (stem ++ "." ++ ext).toList = stem.toList ++ '.' :: ext.toList := by simp
  refine ⟨String.ofList lowered, ?_⟩
  apply String.toList_injective
  rw [toLowercase, hjoined, hlowered, lowercaseFrom, if_neg (by decide), hdot,
    lowercaseFrom_of_not_mem tables hsigma _ []]
  simp [toLowercase]

/-- The path of a dangerous record has an extension that blocks. -/
theorem extOf_fullPath {tables : UnicodeTables} {record : List UInt8}
    (hdangerous : Dangerous tables record) (pathPrefix : String) :
    extOf tables (fullPath tables pathPrefix record) ∈ executableExts ++ scriptExts := by
  obtain ⟨stem, ext, hname, hext⟩ := hdangerous
  obtain ⟨lowered, hlowered⟩ := exists_toLowercase_append tables stem hext
  have hpath : ∃ front, fullPath tables pathPrefix record =
      front ++ String.singleton '.' ++ toLowercase tables ext := by
    rw [fullPath, hname, hlowered]
    by_cases hroot : pathPrefix = ""
    · exact ⟨lowered, if_pos hroot⟩
    · refine ⟨pathPrefix ++ "/" ++ lowered, (if_neg hroot).trans ?_⟩
      simp only [String.append_assoc]
  obtain ⟨front, hfront⟩ := hpath
  have hself : toLowercase tables (toLowercase tables ext) = toLowercase tables ext := by
    conv_lhs => rw [toLowercase]
    rw [lowercaseFrom_eq_self tables (lower_of_mem_exts _ hext), String.ofList_toList]
  rw [extOf, hfront, getLast?_split_append front (dot_not_mem_of_mem_exts _ hext),
    Option.getD_some, hself]
  exact hext

/-- An image with a collected path whose extension blocks is refused. -/
theorem verdict_of_mem {tables : UnicodeTables} {files : List String} {path : String}
    (hpath : path ∈ files) (hext : extOf tables path ∈ executableExts ++ scriptExts) :
    (verdict tables files).1 = false := by
  rw [verdict, Bool.and_eq_false_iff]
  by_cases hexecutable : extOf tables path ∈ executableExts
  · left
    apply decide_eq_false
    exact List.ne_nil_of_mem (List.mem_filter.mpr ⟨hpath, decide_eq_true hexecutable⟩)
  · right
    have hscript := (List.mem_append.mp hext).resolve_left hexecutable
    apply decide_eq_false
    refine List.ne_nil_of_mem (List.mem_filter.mpr ⟨?_, decide_eq_true hscript⟩)
    exact List.mem_filter.mpr ⟨hpath, decide_eq_true hexecutable⟩

/-- An image of whose collected paths none has an extension that blocks passes. -/
theorem verdict_of_forall {tables : UnicodeTables} {files : List String}
    (hfiles : ∀ path ∈ files, extOf tables path ∉ executableExts ++ scriptExts) :
    (verdict tables files).1 = true := by
  have hexts : ∀ path ∈ files, extOf tables path ∉ executableExts ∧
      extOf tables path ∉ scriptExts := fun path hpath ↦
    ⟨fun hmem ↦ hfiles path hpath (List.mem_append_left _ hmem),
      fun hmem ↦ hfiles path hpath (List.mem_append_right _ hmem)⟩
  rw [verdict, Bool.and_eq_true]
  refine ⟨decide_eq_true (List.filter_eq_nil_iff.mpr ?_),
    decide_eq_true (List.filter_eq_nil_iff.mpr ?_)⟩
  · intro path hpath
    exact fun hmem ↦ (hexts path hpath).1 (of_decide_eq_true hmem)
  · intro path hpath
    exact fun hmem ↦ (hexts path (List.mem_of_mem_filter hpath)).2 (of_decide_eq_true hmem)

theorem analyze_of_isImage (tables : UnicodeTables) {buf : List UInt8} (himage : IsImage buf) :
    analyze tables (some buf) = verdict tables (collect tables buf) := by
  rw [analyze, if_neg (Nat.not_lt_of_le himage.long), himage.kind, himage.identifier,
    if_neg (by simp)]

/-- In an image that passes no file that can be reached in at most eight directories below the root
has the extension of an executable or of a script, where a name ends at its first semicolon.
Assumes: the buffer is an image, and the scan collects fewer than `maxFiles` names. -/
theorem not_dangerous_of_passes {tables : UnicodeTables} {buf : List UInt8} (himage : IsImage buf)
    (hfew : (collect tables buf).length < maxFiles)
    (hpasses : (analyze tables (some buf)).1 = true) {depth : ℕ} (hdepth : depth ≤ maxDepth)
    {record : List UInt8} (hfile : ReachesFile buf depth record) : ¬ Dangerous tables record := by
  intro hdangerous
  obtain ⟨path, hmem⟩ := mem_collect_of_reachesFile hfew hfile hdepth
  have hrefused := verdict_of_mem hmem (extOf_fullPath hdangerous path)
  rw [analyze_of_isImage tables himage, hrefused] at hpasses
  cases hpasses

/-! ### Directories of short records -/

/-- A record of 38 bytes for contents of 38 bytes, with a name of five bytes. -/
def shortRecord (lba flags : UInt8) (name : List UInt8) : List UInt8 :=
  [38, 0, lba, 0, 0, 0, 0, 0, 0, lba, 38, 0, 0, 0, 0, 0, 0, 38, 0, 0, 0, 0, 0, 0, 0, flags, 0, 0,
    1, 0, 0, 1, 5] ++ name

/-- A record of this form. -/
def IsShort (record : List UInt8) : Prop :=
  ∃ lba flags name, name.length = 5 ∧ record = shortRecord lba flags name

theorem IsShort.length_eq {record : List UInt8} (hshort : IsShort record) : record.length = 38 := by
  obtain ⟨lba, flags, name, hname, rfl⟩ := hshort
  rw [shortRecord, List.length_append, hname]
  rfl

/-- Pieces of one length are dropped by their number. -/
theorem drop_flatten {pieces : List (List UInt8)} {width : ℕ}
    (hpieces : ∀ piece ∈ pieces, piece.length = width) (count : ℕ) :
    pieces.flatten.drop (count * width) = (pieces.drop count).flatten := by
  induction pieces generalizing count with
  | nil => simp
  | cons piece pieces ih =>
    cases count with
    | zero => rw [Nat.zero_mul, List.drop_zero, List.drop_zero]
    | succ count =>
      have hpiece := hpieces piece List.mem_cons_self
      rw [Nat.succ_mul, Nat.add_comm, ← List.drop_drop, List.flatten_cons, List.drop_left' hpiece,
        List.drop_succ_cons]
      exact ih (fun other hother ↦ hpieces other (List.mem_cons_of_mem _ hother)) count

theorem length_flatten_of_length {pieces : List (List UInt8)} {width : ℕ}
    (hpieces : ∀ piece ∈ pieces, piece.length = width) :
    pieces.flatten.length = pieces.length * width := by
  rw [List.length_flatten, List.map_eq_replicate_iff.mpr hpieces, List.sum_replicate_nat]

section Short

variable {records : List (List UInt8)}

/-- A short record that stands where a record may stand. -/
theorem IsShort.recordAt {dirData record rest : List UInt8} {pos : ℕ} (hshort : IsShort record)
    (hstart : RecordStart dirData pos) (hdrop : dirData.drop pos = record ++ rest) :
    RecordAt dirData pos 38 record := by
  have hlength := hshort.length_eq
  have hfits : dirData.length - pos = 38 + rest.length := by
    rw [← List.length_drop, hdrop, List.length_append, hlength]
  obtain ⟨lba, flags, name, hname, rfl⟩ := hshort
  have hraw : nameRaw (shortRecord lba flags name) = name := List.take_of_length_le hname.le
  have hfirst : dirData[pos]? = (dirData.drop pos)[0]? := by
    rw [List.getElem?_drop, Nat.add_zero]
  have hne : ∀ byte : UInt8, nameRaw (shortRecord lba flags name) ≠ [byte] := by
    intro byte hself
    rw [hraw] at hself
    subst hself
    cases hname
  exact
    { start := hstart
      length_eq := by rw [hfirst, hdrop]; rfl
      long := by decide
      fits := by
        show pos + 38 ≤ dirData.length
        omega
      record_eq := by
        rw [hdrop]
        exact (List.take_left' hlength).symm
      nameFits := Nat.le_refl 38
      not_self := hne 0x00
      not_parent := hne 0x01 }

/-- Each short record of a directory without gaps is a record of it. -/
theorem recordAt_flatten (hrecords : ∀ record ∈ records, IsShort record) {count : ℕ}
    {record : List UInt8} (hrecord : records[count]? = some record) :
    RecordAt records.flatten (count * 38) 38 record := by
  have hdrop : ∀ {count record}, records[count]? = some record →
      records.flatten.drop (count * 38) = record ++ (records.drop (count + 1)).flatten := by
    intro count record hrecord
    obtain ⟨hcount, rfl⟩ := List.getElem?_eq_some_iff.mp hrecord
    rw [drop_flatten (fun record hmem ↦ (hrecords record hmem).length_eq) count,
      List.drop_eq_getElem_cons hcount, List.flatten_cons]
  induction count generalizing record with
  | zero => exact (hrecords record (List.mem_of_getElem? hrecord)).recordAt .first (hdrop hrecord)
  | succ count ih =>
    obtain ⟨hcount, -⟩ := List.getElem?_eq_some_iff.mp hrecord
    have hbefore := ih (List.getElem?_eq_getElem (Nat.lt_of_succ_lt hcount))
    have hstart := RecordStart.next hbefore.start hbefore.length_eq hbefore.long hbefore.fits
    rw [show count * 38 + (38 : UInt8).toNat = (count + 1) * 38 from
      (Nat.succ_mul count 38).symm] at hstart
    exact (hrecords record (List.mem_of_getElem? hrecord)).recordAt hstart (hdrop hrecord)

theorem isRecord_flatten (hrecords : ∀ record ∈ records, IsShort record) {record : List UInt8}
    (hrecord : record ∈ records) : IsRecord records.flatten record := by
  obtain ⟨count, hcount⟩ := List.mem_iff_getElem?.mp hrecord
  exact ⟨count * 38, 38, recordAt_flatten hrecords hcount⟩

variable (tables : UnicodeTables) (descend : ℕ → ℕ → String → List String → List String)
  (pathPrefix : String)

/-- The loop over a directory of short records deals with one after the other. -/
theorem walkEntries_flatten (hrecords : ∀ record ∈ records, IsShort record) {fuel count : ℕ}
    (hfuel : records.length ≤ count + fuel) (files : List String) :
    walkEntries tables descend records.flatten pathPrefix fuel (count * 38) files =
      (records.drop count).foldl (enter tables descend pathPrefix) files := by
  induction fuel generalizing count files with
  | zero =>
    rw [List.drop_eq_nil_of_le (show records.length ≤ count from hfuel)]
    rfl
  | succ fuel ih =>
    rw [walkEntries]
    cases hrecord : records[count]? with
    | none =>
      have hcount := List.getElem?_eq_none_iff.mp hrecord
      have hend : records.flatten[count * 38]? = none := by
        rw [List.getElem?_eq_none_iff,
          length_flatten_of_length fun record hmem ↦ (hrecords record hmem).length_eq]
        exact Nat.mul_le_mul_right 38 hcount
      rw [scanAt, hend, List.drop_eq_nil_of_le hcount]
      rfl
    | some record =>
      obtain ⟨hcount, hget⟩ := List.getElem?_eq_some_iff.mp hrecord
      rw [scanAt_of_recordAt (recordAt_flatten hrecords hrecord), List.drop_eq_getElem_cons hcount,
        hget, List.foldl_cons, ← ih (by omega), Nat.succ_mul]
      rfl

/-- Files of one name are collected one after the other. -/
theorem foldl_enter_replicate {record : List UInt8} (hfile : isDir record = false) (count : ℕ)
    (files : List String) :
    (List.replicate count record).foldl (enter tables descend pathPrefix) files =
      files ++ List.replicate count (fullPath tables pathPrefix record) := by
  induction count generalizing files with
  | zero => exact (List.append_nil files).symm
  | succ count ih =>
    rw [List.replicate_succ, List.foldl_cons, ih, enter, hfile, if_neg Bool.false_ne_true,
      List.append_assoc, List.replicate_succ]
    rfl

/-- The walk of a directory of short records. -/
theorem walkDir_flatten (hrecords : ∀ record ∈ records, IsShort record) {buf : List UInt8}
    {levels lba size : ℕ} (hextent : extent buf lba size = records.flatten)
    (hlba : lba * sectorSize < buf.length) {files : List String} (hfew : files.length < maxFiles) :
    walkDir tables buf (levels + 1) lba size pathPrefix files =
      records.foldl (enter tables (walkDir tables buf levels) pathPrefix) files := by
  have hlength := length_flatten_of_length fun record hmem ↦ (hrecords record hmem).length_eq
  have hwalk := @walkEntries_flatten records tables (walkDir tables buf levels) pathPrefix hrecords
    records.flatten.length 0 (by omega) files
  rw [Nat.zero_mul, List.drop_zero] at hwalk
  rw [walkDir, if_neg (by omega), if_neg (by omega), hextent]
  exact hwalk

end Short

/-! ### Images of short records -/

/-- A sector that begins with some bytes. -/
def sectorOf (front : List UInt8) : List UInt8 :=
  front ++ List.replicate (sectorSize - front.length) 0

/-- A descriptor whose root directory begins at sector 0 and has 38 bytes. -/
def shortPvd : List UInt8 :=
  [1, 0x43, 0x44, 0x30, 0x30, 0x31] ++ List.replicate 150 0 ++ shortRecord 0 2 [0] |>.take 190

/-- An image with records at the front of its first sectors, and some bytes from its descriptor
on. -/
def imageWith (records : List (List UInt8)) (tail : List UInt8) : List UInt8 :=
  (records.map sectorOf).flatten ++
    (List.replicate ((pvdSector - records.length) * sectorSize) 0 ++ tail)

section ImageWith

variable {records : List (List UInt8)} {tail : List UInt8}

theorem length_sectorOf {front : List UInt8} (hfront : front.length ≤ sectorSize) :
    (sectorOf front).length = sectorSize := by
  rw [sectorOf, List.length_append, List.length_replicate, Nat.add_sub_cancel' hfront]

theorem length_of_mem_sectors (hrecords : ∀ record ∈ records, IsShort record) :
    ∀ sector ∈ records.map sectorOf, sector.length = sectorSize := by
  intro sector hsector
  obtain ⟨record, hmem, rfl⟩ := List.mem_map.mp hsector
  refine length_sectorOf ?_
  rw [(hrecords record hmem).length_eq]
  decide

/-- The contents of 38 bytes at one of the first sectors are its record. -/
theorem extent_imageWith (hrecords : ∀ record ∈ records, IsShort record) (tail : List UInt8)
    {count : ℕ} {record : List UInt8} (hrecord : records[count]? = some record) :
    extent (imageWith records tail) count 38 = [record].flatten := by
  obtain ⟨hcount, hget⟩ := List.getElem?_eq_some_iff.mp hrecord
  have hlength := (hrecords record (List.mem_of_getElem? hrecord)).length_eq
  have hsectors := length_of_mem_sectors hrecords
  have hbefore : count * sectorSize ≤ (records.map sectorOf).flatten.length := by
    rw [length_flatten_of_length hsectors, List.length_map]
    exact Nat.mul_le_mul_right _ hcount.le
  rw [extent, imageWith, List.drop_append_of_le_length hbefore, drop_flatten hsectors,
    ← List.map_drop, List.drop_eq_getElem_cons hcount, hget, List.map_cons, List.flatten_cons,
    sectorOf, List.append_assoc, List.append_assoc, List.flatten_singleton]
  exact List.take_left' hlength

theorem pvd_imageWith (hrecords : ∀ record ∈ records, IsShort record)
    (hcount : records.length ≤ pvdSector) : pvd (imageWith records tail) = tail := by
  rw [pvd, imageWith, ← List.append_assoc]
  apply List.drop_left'
  rw [List.length_append, length_flatten_of_length (length_of_mem_sectors hrecords),
    List.length_map, List.length_replicate, ← Nat.add_mul, Nat.add_sub_cancel' hcount]

theorem length_imageWith (hrecords : ∀ record ∈ records, IsShort record)
    (hcount : records.length ≤ pvdSector) :
    (imageWith records tail).length = pvdSector * sectorSize + tail.length := by
  rw [imageWith, List.length_append, List.length_append,
    length_flatten_of_length (length_of_mem_sectors hrecords), List.length_map,
    List.length_replicate, ← Nat.add_assoc, ← Nat.add_mul, Nat.add_sub_cancel' hcount]

/-- Assumes: the bytes begin with a descriptor. -/
theorem isImage_imageWith (hrecords : ∀ record ∈ records, IsShort record)
    (hcount : records.length ≤ pvdSector) (hlong : 190 ≤ tail.length) (hkind : tail[0]? = some 1)
    (hidentifier : (tail.drop 1).take 5 = [0x43, 0x44, 0x30, 0x30, 0x31]) :
    IsImage (imageWith records tail) := by
  have hpvd := @pvd_imageWith records tail hrecords hcount
  constructor
  · rw [length_imageWith hrecords hcount]
    omega
  · rw [hpvd, hkind]
  · rw [hpvd, hidentifier]

end ImageWith

/-! ### What passes -/

/-- The record of a text. -/
def textRecord : List UInt8 :=
  shortRecord 0 0 [0x41, 0x2E, 0x54, 0x58, 0x54]

theorem isShort_textRecord : IsShort textRecord := ⟨0, 0, _, rfl, rfl⟩

/-- An image with a text. -/
def textImage : List UInt8 :=
  imageWith [textRecord] shortPvd

theorem isShort_of_mem_text : ∀ record ∈ [textRecord], IsShort record :=
  List.forall_mem_singleton.mpr isShort_textRecord

theorem root_textImage :
    readU32Le (pvd textImage) 158 = 0 ∧ readU32Le (pvd textImage) 166 = 38 := by
  rw [textImage, pvd_imageWith isShort_of_mem_text (by decide)]
  exact ⟨rfl, rfl⟩

theorem collect_textImage (tables : UnicodeTables) :
    collect tables textImage = [fullPath tables "" textRecord] := by
  have hlength : 0 * sectorSize < textImage.length := by
    rw [textImage, length_imageWith isShort_of_mem_text (by decide)]
    exact Nat.add_pos_left (by decide) _
  rw [collect, root_textImage.1, root_textImage.2]
  exact walkDir_flatten tables "" isShort_of_mem_text
    (extent_imageWith isShort_of_mem_text shortPvd rfl) hlength (by decide)

/-- The image with a text passes, and its file is not dangerous. -/
theorem not_dangerous_of_passes_text : ¬ Dangerous asciiTables textRecord := by
  have himage : IsImage textImage :=
    isImage_imageWith isShort_of_mem_text (by decide) (by decide +kernel) rfl rfl
  have hroot := @ReachesDir.root textImage
  rw [root_textImage.1, root_textImage.2] at hroot
  have hrecord : IsRecord (extent textImage 0 38) textRecord := by
    rw [textImage, extent_imageWith isShort_of_mem_text shortPvd rfl]
    exact isRecord_flatten isShort_of_mem_text List.mem_cons_self
  refine not_dangerous_of_passes himage ?_ ?_ (Nat.zero_le _) ⟨0, 38, hroot, hrecord, rfl⟩
  · rw [collect_textImage]
    decide
  · rw [analyze_of_isImage asciiTables himage, collect_textImage]
    decide +kernel

/-! ### What the limits let pass -/

/-- The record of a directory at a sector. -/
def directoryRecord (lba : UInt8) : List UInt8 :=
  shortRecord lba 2 [0x44, 0x49, 0x52, 0x3B, 0x31]

/-- The record of an executable. -/
def executableRecord : List UInt8 :=
  shortRecord 0 0 [0x41, 0x2E, 0x45, 0x58, 0x45]

theorem isShort_directoryRecord (lba : UInt8) : IsShort (directoryRecord lba) :=
  ⟨lba, 2, _, rfl, rfl⟩

theorem isShort_executableRecord : IsShort executableRecord := ⟨0, 0, _, rfl, rfl⟩

theorem isDir_directoryRecord (lba : UInt8) : isDir (directoryRecord lba) = true := by
  show ((0x02 : UInt8) &&& 0x02 != 0) = true
  decide

theorem childSize_directoryRecord (lba : UInt8) : childSize (directoryRecord lba) = 38 := rfl

theorem dangerous_executableRecord : Dangerous asciiTables executableRecord :=
  ⟨"A", "EXE", by decide +kernel, by decide +kernel⟩

/-- The records of nine directories, each in the one before, and of an executable in the last. -/
def deepRecords : List (List UInt8) :=
  (List.range 9).map (fun count ↦ directoryRecord (UInt8.ofNat (count + 1))) ++ [executableRecord]

/-- The image with these records. -/
def deepImage : List UInt8 :=
  imageWith deepRecords shortPvd

theorem isShort_of_mem_deepRecords : ∀ record ∈ deepRecords, IsShort record := by
  intro record hrecord
  rcases List.mem_append.mp hrecord with hdirectory | hexecutable
  · obtain ⟨count, -, rfl⟩ := List.mem_map.mp hdirectory
    exact isShort_directoryRecord _
  · obtain rfl := List.mem_singleton.mp hexecutable
    exact isShort_executableRecord

theorem extent_deepImage {count : ℕ} {record : List UInt8}
    (hrecord : deepRecords[count]? = some record) :
    extent deepImage count 38 = [record].flatten :=
  extent_imageWith isShort_of_mem_deepRecords shortPvd hrecord

theorem isRecord_deepImage {count : ℕ} {record : List UInt8}
    (hrecord : deepRecords[count]? = some record) :
    IsRecord (extent deepImage count 38) record := by
  have hshort := isShort_of_mem_deepRecords record (List.mem_of_getElem? hrecord)
  rw [extent_deepImage hrecord]
  exact isRecord_flatten (List.forall_mem_singleton.mpr hshort) List.mem_cons_self

theorem getElem?_deepRecords {count : ℕ} (hcount : count < 9) :
    deepRecords[count]? = some (directoryRecord (UInt8.ofNat (count + 1))) := by
  rw [deepRecords, List.getElem?_append_left (by simpa using hcount), List.getElem?_map,
    List.getElem?_range hcount, Option.map_some]

theorem childLba_deep :
    ∀ count < 9, childLba (directoryRecord (UInt8.ofNat (count + 1))) = count + 1 := by
  decide

theorem root_deepImage :
    readU32Le (pvd deepImage) 158 = 0 ∧ readU32Le (pvd deepImage) 166 = 38 := by
  rw [deepImage, pvd_imageWith isShort_of_mem_deepRecords (by decide)]
  exact ⟨rfl, rfl⟩

/-- Each of the ten directories can be reached. -/
theorem reachesDir_deepImage {count : ℕ} (hcount : count ≤ 9) :
    ReachesDir deepImage count count 38 := by
  induction count with
  | zero =>
    have hroot := @ReachesDir.root deepImage
    rwa [root_deepImage.1, root_deepImage.2] at hroot
  | succ count ih =>
    have hchild := (ih (by omega)).child (isRecord_deepImage (getElem?_deepRecords hcount))
      (isDir_directoryRecord _)
    rwa [childLba_deep count hcount, childSize_directoryRecord] at hchild

/-- The scan goes down the directories one by one and collects nothing. -/
theorem exists_collect_deepImage (tables : UnicodeTables) {count : ℕ} (hcount : count ≤ 9) :
    ∃ path, collect tables deepImage = walkDir tables deepImage (9 - count) count 38 path [] := by
  induction count with
  | zero =>
    refine ⟨"", ?_⟩
    rw [collect, root_deepImage.1, root_deepImage.2]
    rfl
  | succ count ih =>
    obtain ⟨path, hcollect⟩ := ih (by omega)
    have hrecord := getElem?_deepRecords hcount
    have hlevels : 9 - count = (9 - (count + 1)) + 1 := by omega
    have hlba := lt_length_of_isRecord (isRecord_deepImage hrecord)
    rw [hlevels, walkDir_flatten tables path
      (List.forall_mem_singleton.mpr (isShort_directoryRecord _)) (extent_deepImage hrecord) hlba
      (by decide), List.foldl_cons, List.foldl_nil, enter, if_pos (isDir_directoryRecord _),
      childLba_deep count hcount, childSize_directoryRecord] at hcollect
    exact ⟨_, hcollect⟩

theorem collect_deepImage (tables : UnicodeTables) : collect tables deepImage = [] := by
  obtain ⟨path, hcollect⟩ := exists_collect_deepImage tables (Nat.le_refl 9)
  exact hcollect

theorem isImage_deepImage : IsImage deepImage :=
  isImage_imageWith isShort_of_mem_deepRecords (by decide) (by decide +kernel) rfl rfl

theorem reachesFile_deepImage : ReachesFile deepImage (maxDepth + 1) executableRecord :=
  ⟨9, 38, reachesDir_deepImage (Nat.le_refl 9), isRecord_deepImage rfl, rfl⟩

/-- The records of as many texts as are collected, and of a directory behind them. -/
def crowdedRecords : List (List UInt8) :=
  List.replicate maxFiles textRecord ++ [directoryRecord 0]

/-- A descriptor whose root directory begins at sector 17 and has room for these records. -/
def crowdedPvd : List UInt8 :=
  [1, 0x43, 0x44, 0x30, 0x30, 0x31] ++ List.replicate 150 0 ++
    [34, 0, 17, 0, 0, 0, 0, 0, 0, 17, 0x26, 0x60, 0x02, 0, 0, 0x02, 0x60, 0x26]

/-- The image with these records in its root directory, and an executable in the directory. -/
def crowdedImage : List UInt8 :=
  imageWith [executableRecord] (sectorOf crowdedPvd ++ crowdedRecords.flatten)

theorem isShort_of_mem_executable : ∀ record ∈ [executableRecord], IsShort record :=
  List.forall_mem_singleton.mpr isShort_executableRecord

theorem isShort_of_mem_crowdedRecords : ∀ record ∈ crowdedRecords, IsShort record := by
  intro record hrecord
  rcases List.mem_append.mp hrecord with htext | hdirectory
  · rw [List.eq_of_mem_replicate htext]
    exact isShort_textRecord
  · rw [List.mem_singleton.mp hdirectory]
    exact isShort_directoryRecord 0

theorem pvd_crowdedImage :
    pvd crowdedImage = sectorOf crowdedPvd ++ crowdedRecords.flatten :=
  pvd_imageWith isShort_of_mem_executable (by decide)

theorem length_crowdedPvd : (sectorOf crowdedPvd).length = sectorSize :=
  length_sectorOf (by decide +kernel)

theorem length_crowdedRecords : crowdedRecords.flatten.length = 155686 := by
  rw [length_flatten_of_length fun record hmem ↦
    (isShort_of_mem_crowdedRecords record hmem).length_eq, crowdedRecords, List.length_append,
    List.length_replicate]
  rfl

theorem isImage_crowdedImage : IsImage crowdedImage := by
  refine isImage_imageWith isShort_of_mem_executable (by decide) ?_ rfl rfl
  rw [List.length_append, length_crowdedPvd, sectorSize]
  omega

theorem root_crowdedImage :
    readU32Le (pvd crowdedImage) 158 = 17 ∧ readU32Le (pvd crowdedImage) 166 = 155686 := by
  rw [pvd_crowdedImage]
  exact ⟨rfl, rfl⟩

theorem extent_crowdedImage : extent crowdedImage 17 155686 = crowdedRecords.flatten := by
  have hbehind : crowdedImage.drop (17 * sectorSize) = crowdedRecords.flatten := by
    rw [show 17 * sectorSize = pvdSector * sectorSize + sectorSize from rfl, ← List.drop_drop,
      ← pvd, pvd_crowdedImage]
    exact List.drop_left' length_crowdedPvd
  rw [extent, hbehind]
  exact List.take_of_length_le length_crowdedRecords.le

theorem isRecord_crowdedImage : IsRecord (extent crowdedImage 17 155686) (directoryRecord 0) := by
  rw [extent_crowdedImage]
  exact isRecord_flatten isShort_of_mem_crowdedRecords (by simp [crowdedRecords])

theorem reachesFile_crowdedImage : ReachesFile crowdedImage 1 executableRecord := by
  have hroot := @ReachesDir.root crowdedImage
  rw [root_crowdedImage.1, root_crowdedImage.2] at hroot
  have hchild := hroot.child isRecord_crowdedImage (isDir_directoryRecord 0)
  refine ⟨0, 38, hchild, ?_, rfl⟩
  rw [crowdedImage, extent_imageWith isShort_of_mem_executable _ rfl]
  exact isRecord_flatten isShort_of_mem_executable List.mem_cons_self

/-- The scan collects the texts and does not enter the directory. -/
theorem collect_crowdedImage (tables : UnicodeTables) :
    collect tables crowdedImage =
      List.replicate maxFiles (fullPath tables "" textRecord) := by
  rw [collect, root_crowdedImage.1, root_crowdedImage.2, walkDir_flatten tables ""
    isShort_of_mem_crowdedRecords extent_crowdedImage (lt_length_of_isRecord isRecord_crowdedImage)
    (by decide), crowdedRecords, List.foldl_append, foldl_enter_replicate tables _ "" rfl,
    List.foldl_cons, List.foldl_nil, enter, if_pos (isDir_directoryRecord 0), List.nil_append,
    maxDepth, walkDir, if_pos (List.length_replicate).ge]

/-- An image can pass with an executable: in the ninth directory below the root, or in a directory
that comes behind 4096 texts. The name of the executable has no semicolon. -/
theorem passes_beyond_limits :
    (IsImage deepImage ∧ (collect asciiTables deepImage).length < maxFiles ∧
      (analyze asciiTables (some deepImage)).1 = true ∧
      ReachesFile deepImage (maxDepth + 1) executableRecord) ∧
    (IsImage crowdedImage ∧ (collect asciiTables crowdedImage).length = maxFiles ∧
      (analyze asciiTables (some crowdedImage)).1 = true ∧
      ReachesFile crowdedImage 1 executableRecord) ∧
    Dangerous asciiTables executableRecord := by
  refine ⟨⟨isImage_deepImage, ?_, ?_, reachesFile_deepImage⟩, ⟨isImage_crowdedImage, ?_, ?_,
    reachesFile_crowdedImage⟩, dangerous_executableRecord⟩
  · rw [collect_deepImage]
    decide
  · rw [analyze_of_isImage asciiTables isImage_deepImage, collect_deepImage]
    rfl
  · rw [collect_crowdedImage, List.length_replicate]
  · rw [analyze_of_isImage asciiTables isImage_crowdedImage, collect_crowdedImage]
    refine verdict_of_forall fun path hpath ↦ ?_
    rw [List.eq_of_mem_replicate hpath]
    decide +kernel

end Keysas.Analyze.Iso
