import Keysas.Analyze.IsoScan
import Keysas.Rust.Faults

/-!
# The scan of ISO images stays in bounds

The scan takes positions and lengths from the image: the extents of directories, the lengths of
records and of their names. `checkedAnalyze`, `checkedWalk` and `checkedEntries` are the functions
of the analyzer with every index, slice, sum and product that they make, each with its fault, and
with a number of steps for the loop over a directory and a number of nested calls.

`checkedAnalyze_eq_ok` says that none of the faults happens for any image, and that steps for each
byte of the image and a call for each level are enough. What comes out is what `analyze` gives. The
loop passes at least one byte in each step, and every call goes one level down, so that extents
which lead back to a directory above do no harm. No number overflows because extents have 32 bits.
-/

set_option autoImplicit false
set_option relaxedAutoImplicit false

namespace Keysas.Analyze.Iso

open RustStd Wire

/-! ### The analyzer with its faults -/

/-- `read_u32_le`. -/
def checkedReadU32Le (buf : List UInt8) (offset : ℕ) : Except Fault ℕ := do
  let last ← usizeAdd offset 4
  if buf.length < last then .ok 0
  else do
    let bytes ← slice buf offset last
    .ok (((PrefixCodec.littleEndianValue 4 bytes).map Prod.fst).getD 0)

variable (tables : UnicodeTables)

/-- The path of the name of a record under the path of its directory. -/
def pathOf (pathPrefix : String) (nameRaw : List UInt8) : String :=
  let name := toLowercase tables ((split ';' (OsString.toStringLossy ⟨nameRaw⟩)).headD "")
  if pathPrefix = "" then name else pathPrefix ++ "/" ++ name

/-- The loop of `walk_dir` with a number of steps. `descend` is the call for a directory within. -/
def checkedEntries (descend : ℕ → ℕ → String → List String → Except Fault (List String))
    (dirData : List UInt8) (pathPrefix : String) :
    ℕ → ℕ → List String → Except Fault (List String)
  | 0, pos, files => if dirData.length ≤ pos then .ok files else .error .unfinished
  | steps + 1, pos, files =>
    if dirData.length ≤ pos then .ok files
    else do
      let length ← index dirData pos
      let recordLen := length.toNat
      if recordLen = 0 then do
        let sector ← usizeAdd (pos / sectorSize) 1
        let next ← usizeMul sector sectorSize
        if dirData.length ≤ next then .ok files
        else checkedEntries descend dirData pathPrefix steps next files
      else do
        let last ← usizeAdd pos recordLen
        if dirData.length < last ∨ recordLen < 34 then .ok files
        else do
          let record ← slice dirData pos last
          let flags ← index record 25
          let name ← index record 32
          let nameEnd ← usizeAdd 33 name.toNat
          if recordLen < nameEnd then checkedEntries descend dirData pathPrefix steps last files
          else do
            let nameRaw ← slice record 33 nameEnd
            if nameRaw = [0x00] ∨ nameRaw = [0x01] then
              checkedEntries descend dirData pathPrefix steps last files
            else if flags &&& 0x02 != 0 then do
              let lba ← checkedReadU32Le record 2
              let size ← checkedReadU32Le record 10
              let found ← descend lba size (pathOf tables pathPrefix nameRaw) files
              checkedEntries descend dirData pathPrefix steps last found
            else
              checkedEntries descend dirData pathPrefix steps last
                (files ++ [pathOf tables pathPrefix nameRaw])

/-- `walk_dir` with a number of nested calls, and of steps for each of them. -/
def checkedWalk (buf : List UInt8) (steps : ℕ) :
    ℕ → ℕ → ℕ → String → List String → ℕ → Except Fault (List String)
  | 0, _, _, _, _, _ => .error .unfinished
  | calls + 1, lba, size, pathPrefix, files, depth =>
    if maxDepth < depth ∨ maxFiles ≤ files.length then .ok files
    else do
      let offset ← usizeMul lba sectorSize
      if buf.length ≤ offset then .ok files
      else do
        let last ← usizeAdd offset size
        let dirData ← slice buf offset (min last buf.length)
        let descend := fun lba size path files ↦ do
          let below ← usizeAdd depth 1
          checkedWalk buf steps calls lba size path files below
        checkedEntries tables descend dirData pathPrefix steps 0 files

/-- A line of the summary about files that block. -/
def checkedBlockingLine (kind : String) (paths : List String) : Except Fault (List String) :=
  if paths = [] then .ok []
  else do
    let shown ← slice paths 0 (min paths.length 3)
    .ok [toString paths.length ++ " " ++ kind ++ "(s): " ++ ", ".intercalate shown]

/-- The end of `analyze`. -/
def checkedVerdict (files : List String) : Except Fault (Bool × String) := do
  let executables := files.filter fun path ↦ extOf tables path ∈ executableExts
  let others := files.filter fun path ↦ extOf tables path ∉ executableExts
  let scripts := others.filter fun path ↦ extOf tables path ∈ scriptExts
  let installers := (others.filter fun path ↦ extOf tables path ∉ scriptExts).filter fun path ↦
    extOf tables path ∈ installerExts
  let executableLine ← checkedBlockingLine "executable" executables
  let scriptLine ← checkedBlockingLine "script" scripts
  let info := (if installers = [] then [] else [toString installers.length ++ " installer file(s)"])
    ++ [toString files.length ++ " file(s) in ISO"]
  .ok (decide (executables = []) && decide (scripts = []),
    buildSummary (executableLine ++ scriptLine) info)

/-- `analyze`. -/
def checkedAnalyze (calls steps : ℕ) (content : Option (List UInt8)) :
    Except Fault (Bool × String) :=
  match content with
  | none => .ok (true, "read error - analysis skipped")
  | some buf => do
    let pvdOffset ← usizeMul pvdSector sectorSize
    let least ← usizeAdd pvdOffset 190
    if buf.length < least then .ok (true, "too small to be a valid ISO")
    else do
      let descriptor ← slice buf pvdOffset buf.length
      let kind ← index descriptor 0
      if kind ≠ 1 then .ok (true, "not a valid ISO 9660 image")
      else do
        let identifier ← slice descriptor 1 6
        if identifier ≠ [0x43, 0x44, 0x30, 0x30, 0x31] then
          .ok (true, "not a valid ISO 9660 image")
        else do
          let rootLba ← checkedReadU32Le descriptor 158
          let rootSize ← checkedReadU32Le descriptor 166
          let files ← checkedWalk tables buf steps calls rootLba rootSize "" [] 0
          checkedVerdict tables files

/-! ### Reading a header field -/

/-- A field of an extent has 32 bits. -/
theorem readU32Le_lt (buf : List UInt8) (offset : ℕ) : readU32Le buf offset < 2 ^ 32 := by
  unfold readU32Le
  by_cases hlength : 4 ≤ (buf.drop offset).length
  · obtain ⟨value, hvalue, hread⟩ := PrefixCodec.exists_littleEndianValue hlength
    rw [hread]
    exact hvalue
  · rw [PrefixCodec.littleEndianValue_of_length_lt (Nat.lt_of_not_le hlength)]
    exact Nat.two_pow_pos 32

/-- A field is read without a fault, where the buffer has it and where it has not. -/
theorem checkedReadU32Le_eq_ok {buf : List UInt8} {offset : ℕ} (hoffset : offset + 4 < 2 ^ 64) :
    checkedReadU32Le buf offset = .ok (readU32Le buf offset) := by
  rw [checkedReadU32Le, usizeAdd_of_lt hoffset, ok_bind, readU32Le]
  by_cases hshort : buf.length < offset + 4
  · have hdrop : (buf.drop offset).length < 4 := by
      rw [List.length_drop]
      omega
    rw [if_pos hshort, PrefixCodec.littleEndianValue_of_length_lt hdrop]
    rfl
  · have hfour : 4 ≤ ((buf.drop offset).take (offset + 4 - offset)).length := by
      rw [List.length_take, List.length_drop]
      omega
    obtain ⟨value, -, hread⟩ := PrefixCodec.exists_littleEndianValue hfour
    have hwhole := PrefixCodec.littleEndianValue_extend hread
      ((buf.drop offset).drop (offset + 4 - offset))
    rw [List.take_append_drop] at hwhole
    rw [if_neg hshort, slice_of_le (Nat.le_add_right _ _) (Nat.le_of_not_lt hshort), ok_bind, hread,
      hwhole]
    rfl

/-! ### The loop over one directory -/

variable {tables}

/-- The path of a record is that of the bytes of its name. -/
theorem fullPath_eq_pathOf (pathPrefix : String) (record : List UInt8) :
    fullPath tables pathPrefix record = pathOf tables pathPrefix (nameRaw record) := rfl

/-- How the loop goes on after what stands at a position. -/
def afterScan (tables : UnicodeTables)
    (descend : ℕ → ℕ → String → List String → Except Fault (List String)) (pathPrefix : String)
    (goOn : ℕ → List String → Except Fault (List String)) (files : List String) :
    Scan → Except Fault (List String)
  | .stop => .ok files
  | .pass next => goOn next files
  | .record record next =>
    if isDir record then do
      let found ← descend (childLba record) (childSize record) (fullPath tables pathPrefix record)
        files
      goOn next found
    else goOn next (files ++ [fullPath tables pathPrefix record])

section Entries

variable {dirData : List UInt8} {pos : ℕ}

/-- A record that fits the directory is read without a fault. -/
theorem record_reads {recordLen : ℕ} (hfits : pos + recordLen ≤ dirData.length)
    (hlong : 34 ≤ recordLen) :
    let record := (dirData.drop pos).take recordLen
    slice dirData pos (pos + recordLen) = .ok record ∧ record.length = recordLen ∧
      index record 25 = .ok (record.getD 25 0) ∧ index record 32 = .ok (record.getD 32 0) := by
  intro record
  have hrecord : record.length = recordLen := by
    rw [List.length_take, List.length_drop]
    omega
  refine ⟨?_, hrecord, index_of_lt (by omega) 0, index_of_lt (by omega) 0⟩
  rw [slice_of_le (Nat.le_add_right pos recordLen) hfits, Nat.add_sub_cancel_left]

/-- A step of the loop has no fault: it goes on after what stands at its position. Assumes: the
position is within the directory, which has not more bytes than an extent. -/
theorem checkedEntries_succ (hlength : dirData.length < 2 ^ 32) (hpos : pos < dirData.length)
    (descend : ℕ → ℕ → String → List String → Except Fault (List String)) (pathPrefix : String)
    (steps : ℕ) (files : List String) :
    checkedEntries tables descend dirData pathPrefix (steps + 1) pos files =
      afterScan tables descend pathPrefix
        (checkedEntries tables descend dirData pathPrefix steps) files (scanAt dirData pos) := by
  obtain ⟨length, hbyte⟩ : ∃ length, dirData[pos]? = some length :=
    ⟨_, List.getElem?_eq_getElem hpos⟩
  have hsmall := length.toNat_lt
  simp only [checkedEntries, if_neg (Nat.not_le_of_lt hpos), index_of_getElem? hbyte, ok_bind,
    scanAt, hbyte]
  by_cases hzero : length.toNat = 0
  · -- The position is padded to the next sector.
    have hsector : pos / sectorSize + 1 < 2 ^ 64 := by
      have hle := Nat.div_le_self pos sectorSize
      omega
    have hnext : (pos / sectorSize + 1) * sectorSize < 2 ^ 64 := by
      unfold sectorSize
      omega
    rw [if_pos hzero, if_pos hzero, usizeAdd_of_lt hsector, ok_bind, usizeMul_of_lt hnext, ok_bind]
    split_ifs <;> rfl
  rw [if_neg hzero, if_neg hzero, usizeAdd_of_lt (by omega), ok_bind]
  by_cases hstop : dirData.length < pos + length.toNat ∨ length.toNat < 34
  · rw [if_pos hstop, if_pos hstop]
    rfl
  rw [not_or, Nat.not_lt, Nat.not_lt] at hstop
  obtain ⟨hslice, hrecord, hflags, hname⟩ := record_reads hstop.1 hstop.2
  have hnameLen := UInt8.toNat_lt (((dirData.drop pos).take length.toNat).getD 32 0)
  rw [if_neg (by omega), if_neg (by omega), hslice, ok_bind, hflags, ok_bind, hname, ok_bind,
    usizeAdd_of_lt (by omega), ok_bind]
  generalize (dirData.drop pos).take length.toNat = record at hrecord hnameLen ⊢
  have hlen : (record.getD 32 0).toNat = nameLen record := rfl
  have hdirFlag : (record.getD 25 0 &&& 0x02 != 0) = isDir record := rfl
  rw [hlen, hdirFlag]
  by_cases hlong : length.toNat < 33 + nameLen record
  · rw [if_pos hlong, if_pos (.inl hlong)]
    rfl
  have hraw : slice record 33 (33 + nameLen record) = .ok (nameRaw record) := by
    rw [slice_of_le (Nat.le_add_right 33 _) (by omega), Nat.add_sub_cancel_left]
    rfl
  rw [if_neg hlong, hraw, ok_bind]
  by_cases hskip : nameRaw record = [0x00] ∨ nameRaw record = [0x01]
  · rw [if_pos hskip, if_pos (.inr hskip)]
    rfl
  rw [if_neg hskip, if_neg (not_or.mpr ⟨hlong, hskip⟩), ← fullPath_eq_pathOf,
    checkedReadU32Le_eq_ok (by decide), ok_bind, checkedReadU32Le_eq_ok (by decide), ok_bind]
  rfl

/-- The position where the loop goes on, if it does. -/
def Scan.next? : Scan → Option ℕ
  | .stop => none
  | .pass next => some next
  | .record _ next => some next

/-- A step of the loop passes at least one byte. -/
theorem lt_of_scanAt {next : ℕ} (hscan : (scanAt dirData pos).next? = some next) : pos < next := by
  unfold scanAt at hscan
  cases hbyte : dirData[pos]? with
  | none =>
    rw [hbyte] at hscan
    cases hscan
  | some length =>
    simp only [hbyte] at hscan
    split_ifs at hscan with hzero hend hstop hskip
    · cases hscan
    · obtain rfl := Option.some.inj hscan
      exact lt_nextSector pos
    · cases hscan
    · obtain rfl := Option.some.inj hscan
      omega
    · obtain rfl := Option.some.inj hscan
      omega

/-- Behind the end of the directory both loops are done. -/
theorem entries_of_le (hend : dirData.length ≤ pos)
    (checkedDescend : ℕ → ℕ → String → List String → Except Fault (List String))
    (descend : ℕ → ℕ → String → List String → List String) (pathPrefix : String) (steps fuel : ℕ)
    (files : List String) :
    checkedEntries tables checkedDescend dirData pathPrefix steps pos files = .ok files ∧
      walkEntries tables descend dirData pathPrefix fuel pos files = files := by
  have hstop : scanAt dirData pos = .stop := by
    rw [scanAt, List.getElem?_eq_none hend]
  constructor
  · cases steps with
    | zero => exact if_pos hend
    | succ steps => exact if_pos hend
  · cases fuel with
    | zero => rfl
    | succ fuel => rw [walkEntries, hstop]

/-- The loop ends without a fault when it has a step for each byte that is left. Assumes: the
directory has not more bytes than an extent, and the calls for directories within end without a
fault. -/
theorem checkedEntries_eq_ok
    {checkedDescend : ℕ → ℕ → String → List String → Except Fault (List String)}
    {descend : ℕ → ℕ → String → List String → List String} (hlength : dirData.length < 2 ^ 32)
    (hdescend : ∀ lba size path files, lba < 2 ^ 32 → size < 2 ^ 32 →
      checkedDescend lba size path files = .ok (descend lba size path files))
    (pathPrefix : String) {steps fuel : ℕ} (hsteps : dirData.length ≤ pos + steps)
    (hfuel : dirData.length ≤ pos + fuel) (files : List String) :
    checkedEntries tables checkedDescend dirData pathPrefix steps pos files =
      .ok (walkEntries tables descend dirData pathPrefix fuel pos files) := by
  induction steps generalizing pos fuel files with
  | zero =>
    obtain ⟨hchecked, hwalk⟩ :=
      @entries_of_le tables dirData pos hsteps checkedDescend descend pathPrefix 0 fuel files
    rw [hchecked, hwalk]
  | succ steps ih =>
    by_cases hend : dirData.length ≤ pos
    · obtain ⟨hchecked, hwalk⟩ := @entries_of_le tables dirData pos hend checkedDescend descend
        pathPrefix (steps + 1) fuel files
      rw [hchecked, hwalk]
    obtain ⟨fuel, rfl⟩ := Nat.exists_eq_succ_of_ne_zero (show fuel ≠ 0 by omega)
    rw [checkedEntries_succ hlength (Nat.lt_of_not_le hend), walkEntries]
    cases hscan : scanAt dirData pos with
    | stop => rfl
    | pass next =>
      have hnext := lt_of_scanAt (congrArg Scan.next? hscan)
      exact ih (by omega) (by omega) files
    | record record next =>
      have hnext := lt_of_scanAt (congrArg Scan.next? hscan)
      simp only [afterScan]
      by_cases hdir : isDir record = true
      · have hcall := hdescend (childLba record) (childSize record)
          (fullPath tables pathPrefix record) files (readU32Le_lt record 2) (readU32Le_lt record 10)
        rw [if_pos hdir, if_pos hdir, hcall, ok_bind]
        exact ih (by omega) (by omega) _
      · rw [if_neg hdir, if_neg hdir]
        exact ih (by omega) (by omega) _

end Entries

/-! ### The tree -/

/-- The walk ends without a fault when it has a call for each level that is left and one more, and
a step for each byte of the image. Assumes: the extent has 32 bits. -/
theorem checkedWalk_eq_ok (buf : List UInt8) {steps calls lba size depth : ℕ}
    (hlba : lba < 2 ^ 32) (hsize : size < 2 ^ 32) (hsteps : buf.length ≤ steps)
    (hcalls : maxDepth + 1 < depth + calls) (hcall : 0 < calls) (pathPrefix : String)
    (files : List String) :
    checkedWalk tables buf steps calls lba size pathPrefix files depth =
      .ok (walkDir tables buf (maxDepth + 1 - depth) lba size pathPrefix files) := by
  induction calls generalizing lba size depth pathPrefix files with
  | zero => exact absurd hcall (Nat.lt_irrefl 0)
  | succ calls ih =>
    rw [checkedWalk]
    by_cases hdeep : maxDepth < depth
    · rw [if_pos (.inl hdeep), Nat.sub_eq_zero_of_le hdeep]
      rfl
    obtain ⟨levels, hlevels⟩ : ∃ levels, maxDepth + 1 - depth = levels + 1 :=
      ⟨maxDepth - depth, by omega⟩
    rw [hlevels, walkDir]
    by_cases hfull : maxFiles ≤ files.length
    · rw [if_pos (.inr hfull), if_pos hfull]
    have hoffset : lba * sectorSize < 2 ^ 43 := by
      unfold sectorSize
      omega
    rw [if_neg (not_or.mpr ⟨hdeep, hfull⟩), if_neg hfull, usizeMul_of_lt (by omega), ok_bind]
    by_cases hbehind : buf.length ≤ lba * sectorSize
    · rw [if_pos hbehind, if_pos hbehind]
    rw [if_neg hbehind, if_neg hbehind, usizeAdd_of_lt (by omega), ok_bind,
      slice_of_le (by omega) (Nat.min_le_right _ _), ok_bind]
    have hextent : (buf.drop (lba * sectorSize)).take
        (min (lba * sectorSize + size) buf.length - lba * sectorSize) = extent buf lba size := by
      rw [extent, ← Nat.sub_min_sub_right, Nat.add_sub_cancel_left, ← List.length_drop,
        ← List.take_eq_take_min]
    rw [hextent]
    have hlength : (extent buf lba size).length ≤ size ∧
        (extent buf lba size).length ≤ buf.length := by
      rw [extent, List.length_take, List.length_drop]
      omega
    refine checkedEntries_eq_ok (by omega) ?_ pathPrefix (by omega) (by omega) files
    intro childLba childSize path found hchildLba hchildSize
    have hmax : maxDepth = 8 := rfl
    rw [usizeAdd_of_lt (by omega), ok_bind, ih hchildLba hchildSize (by omega) (by omega)]
    have hbelow : maxDepth + 1 - (depth + 1) = levels := by omega
    rw [hbelow]

/-! ### The analyzer -/

/-- The position of the volume descriptor, and the length that an image has at least. -/
theorem pvd_offsets :
    usizeMul pvdSector sectorSize = .ok (pvdSector * sectorSize) ∧
      usizeAdd (pvdSector * sectorSize) 190 = .ok (pvdSector * sectorSize + 190) :=
  ⟨usizeMul_of_lt (by decide), usizeAdd_of_lt (by decide)⟩

/-- The volume descriptor of an image that is long enough is read without a fault. -/
theorem pvd_reads {buf : List UInt8} (hlong : pvdSector * sectorSize + 190 ≤ buf.length) :
    slice buf (pvdSector * sectorSize) buf.length = .ok (pvd buf) ∧
      (∃ kind, (pvd buf)[0]? = some kind) ∧
      slice (pvd buf) 1 6 = .ok (((pvd buf).drop 1).take 5) := by
  have hlength : 190 ≤ (pvd buf).length := by
    rw [pvd, List.length_drop]
    omega
  exact ⟨slice_length (by omega), ⟨_, List.getElem?_eq_getElem (by omega)⟩,
    slice_of_le (by decide) (by omega)⟩

theorem checkedBlockingLine_eq_ok (kind : String) (paths : List String) :
    checkedBlockingLine kind paths = .ok (blockingLine kind paths) := by
  unfold checkedBlockingLine blockingLine
  by_cases hnone : paths = []
  · rw [if_pos hnone, if_pos hnone]
  · rw [if_neg hnone, if_neg hnone, slice_of_le (Nat.zero_le _) (Nat.min_le_left _ _), ok_bind,
      List.drop_zero, Nat.sub_zero, Nat.min_comm, ← List.take_eq_take_min]

theorem checkedVerdict_eq_ok (files : List String) :
    checkedVerdict tables files = .ok (verdict tables files) := by
  simp only [checkedVerdict, checkedBlockingLine_eq_ok, ok_bind]
  rfl

/-- The analyzer has no fault, whatever the image is: it ends with the verdict of `analyze`. So does
the walk from any extent of 32 bits and any depth. Steps for each byte of the image and a call for
each level and one more are enough. -/
theorem checkedAnalyze_eq_ok (tables : UnicodeTables) (buf : List UInt8) (calls steps : ℕ) :
    checkedAnalyze tables (calls + (maxDepth + 2)) (steps + buf.length) (some buf) =
        .ok (analyze tables (some buf)) ∧
      ∀ (lba size : UInt32) (pathPrefix : String) (files : List String) (depth : ℕ),
        checkedWalk tables buf (steps + buf.length) (calls + (maxDepth + 2)) lba.toNat size.toNat
            pathPrefix files depth =
          .ok (walkDir tables buf (maxDepth + 1 - depth) lba.toNat size.toNat pathPrefix
            files) := by
  constructor
  · obtain ⟨hoffset, hleast⟩ := pvd_offsets
    rw [checkedAnalyze, hoffset, ok_bind, hleast, ok_bind, analyze]
    by_cases hshort : buf.length < pvdSector * sectorSize + 190
    · rw [if_pos hshort, if_pos hshort]
    obtain ⟨hslice, ⟨kind, hkind⟩, hidentifier⟩ := pvd_reads (Nat.le_of_not_lt hshort)
    rw [if_neg hshort, if_neg hshort, hslice, ok_bind, index_of_getElem? hkind, ok_bind, hkind,
      hidentifier, ok_bind, checkedReadU32Le_eq_ok (by decide), ok_bind,
      checkedReadU32Le_eq_ok (by decide), ok_bind,
      checkedWalk_eq_ok buf (readU32Le_lt _ _) (readU32Le_lt _ _) (Nat.le_add_left _ _) (by omega)
        (by omega) "" [], ok_bind, checkedVerdict_eq_ok]
    by_cases hone : kind = 1
    · rw [if_neg (not_not.mpr hone), hone]
      simp only [ne_eq, not_true_eq_false, false_or]
      exact (apply_ite Except.ok _ _ _).symm
    · rw [if_pos hone, if_pos (.inl fun hsame ↦ hone (Option.some.inj hsame))]
  · intro lba size pathPrefix files depth
    exact checkedWalk_eq_ok buf lba.toNat_lt size.toNat_lt (Nat.le_add_left _ _) (by omega)
      (by omega) pathPrefix files

end Keysas.Analyze.Iso
