import Keysas.Rust.Text
import Keysas.Wire.PrefixCodec

/-!
# The scan of ISO images

The analyzer of ISO 9660 images looks at names only. It checks the primary volume descriptor, walks
the tree of directories from the root record, and refuses the image when a name that it collects
has the extension of an executable or of a script.

`walkDir` goes down at most `maxDepth` directories and does not enter a directory once `maxFiles`
names are collected. `walkEntries` is the loop over the records of one directory; what it does at a
position is `scanAt`. The loop is given as many steps as the directory has bytes, of which each step
passes at least one.
-/

set_option autoImplicit false
set_option relaxedAutoImplicit false

namespace Keysas.Analyze.Iso

open RustStd Wire

/-! ### Constants -/

def sectorSize : ℕ := 2048

def pvdSector : ℕ := 16

def maxDepth : ℕ := 8

def maxFiles : ℕ := 4096

def executableExts : List String :=
  ["exe", "dll", "msi", "com", "scr", "efi", "sys", "ocx"]

def scriptExts : List String :=
  ["ps1", "bat", "cmd", "vbs", "vbe", "js", "jse", "hta", "wsf", "wsh"]

def installerExts : List String :=
  ["inf", "reg"]

/-- The next sector is ahead. -/
theorem lt_nextSector (pos : ℕ) : pos < (pos / sectorSize + 1) * sectorSize := by
  unfold sectorSize
  omega

/-! ### Directory records -/

/-- `read_u32_le`. -/
def readU32Le (buf : List UInt8) (offset : ℕ) : ℕ :=
  ((PrefixCodec.littleEndianValue 4 (buf.drop offset)).map Prod.fst).getD 0

/-- The directory flag of a record. -/
def isDir (record : List UInt8) : Bool :=
  (record.getD 25 0) &&& 0x02 != 0

/-- The length of the name of a record. -/
def nameLen (record : List UInt8) : ℕ :=
  (record.getD 32 0).toNat

/-- The bytes of the name of a record. -/
def nameRaw (record : List UInt8) : List UInt8 :=
  (record.drop 33).take (nameLen record)

/-- The name of a record without its version. -/
def baseName (record : List UInt8) : String :=
  (split ';' (OsString.toStringLossy ⟨nameRaw record⟩)).headD ""

/-- The sector where the contents of a record begin. -/
def childLba (record : List UInt8) : ℕ :=
  readU32Le record 2

/-- The length of the contents of a record. -/
def childSize (record : List UInt8) : ℕ :=
  readU32Le record 10

/-- The bytes of the contents that begin at a sector, as far as the image reaches. -/
def extent (buf : List UInt8) (lba size : ℕ) : List UInt8 :=
  (buf.drop (lba * sectorSize)).take size

/-! ### Walking the tree -/

/-- What the loop over the records of a directory does at a position. -/
inductive Scan where
  /-- The loop ends. -/
  | stop
  /-- There is no record here: the loop goes on at a position. -/
  | pass (next : ℕ)
  /-- There is a record here, and the loop goes on at a position. -/
  | record (record : List UInt8) (next : ℕ)

/-- The front of the body of the loop of `walk_dir`. A length of 0 pads to the next sector; a
record whose name does not fit and the records of the directory itself and of its parent are
skipped. -/
def scanAt (dirData : List UInt8) (pos : ℕ) : Scan :=
  match dirData[pos]? with
  | none => .stop
  | some length =>
    let recordLen := length.toNat
    if recordLen = 0 then
      let next := (pos / sectorSize + 1) * sectorSize
      if dirData.length ≤ next then .stop else .pass next
    else if dirData.length < pos + recordLen ∨ recordLen < 34 then .stop
    else
      let record := (dirData.drop pos).take recordLen
      if recordLen < 33 + nameLen record ∨ nameRaw record = [0x00] ∨ nameRaw record = [0x01] then
        .pass (pos + recordLen)
      else .record record (pos + recordLen)

variable (tables : UnicodeTables)

/-- The path of a record under the path of its directory. -/
def fullPath (pathPrefix : String) (record : List UInt8) : String :=
  let name := toLowercase tables (baseName record)
  if pathPrefix = "" then name else pathPrefix ++ "/" ++ name

/-- The loop of `walk_dir`. `descend` is the call for a directory within. -/
def walkEntries (descend : ℕ → ℕ → String → List String → List String) (dirData : List UInt8)
    (pathPrefix : String) : ℕ → ℕ → List String → List String
  | 0, _, files => files
  | fuel + 1, pos, files =>
    match scanAt dirData pos with
    | .stop => files
    | .pass next => walkEntries descend dirData pathPrefix fuel next files
    | .record record next =>
      let path := fullPath tables pathPrefix record
      walkEntries descend dirData pathPrefix fuel next
        (if isDir record then descend (childLba record) (childSize record) path files
          else files ++ [path])

/-- `walk_dir`. `levels` is the number of levels that are still allowed, `MAX_DEPTH + 1 - depth`. -/
def walkDir (buf : List UInt8) : ℕ → ℕ → ℕ → String → List String → List String
  | 0, _, _, _, files => files
  | levels + 1, lba, size, pathPrefix, files =>
    if maxFiles ≤ files.length then files
    else if buf.length ≤ lba * sectorSize then files
    else
      let dirData := extent buf lba size
      walkEntries tables (walkDir buf levels) dirData pathPrefix dirData.length 0 files

/-! ### The verdict -/

/-- The part of a path behind its last dot, in lowercase. -/
def extOf (path : String) : String :=
  toLowercase tables ((split '.' path).getLast?.getD "")

/-- `build_summary`. -/
def buildSummary (blocking info : List String) : String :=
  match blocking, info with
  | [], [] => "no dangerous content"
  | [], info => "info: " ++ "; ".intercalate info
  | blocking, [] => "ALERT: " ++ "; ".intercalate blocking
  | blocking, info => "ALERT: " ++ "; ".intercalate blocking ++ "; info: " ++ "; ".intercalate info

/-- A line of the summary about files that block. -/
def blockingLine (kind : String) (paths : List String) : List String :=
  if paths = [] then []
  else [toString paths.length ++ " " ++ kind ++ "(s): " ++ ", ".intercalate (paths.take 3)]

/-- The end of `analyze`: the verdict on the collected names. -/
def verdict (files : List String) : Bool × String :=
  let executables := files.filter fun path ↦ extOf tables path ∈ executableExts
  let others := files.filter fun path ↦ extOf tables path ∉ executableExts
  let scripts := others.filter fun path ↦ extOf tables path ∈ scriptExts
  let installers := (others.filter fun path ↦ extOf tables path ∉ scriptExts).filter fun path ↦
    extOf tables path ∈ installerExts
  let blocking := blockingLine "executable" executables ++ blockingLine "script" scripts
  let info := (if installers = [] then [] else [toString installers.length ++ " installer file(s)"])
    ++ [toString files.length ++ " file(s) in ISO"]
  (decide (executables = []) && decide (scripts = []), buildSummary blocking info)

/-- The primary volume descriptor. -/
def pvd (buf : List UInt8) : List UInt8 :=
  buf.drop (pvdSector * sectorSize)

/-- The paths that `analyze` collects in an image. -/
def collect (buf : List UInt8) : List String :=
  walkDir tables buf (maxDepth + 1) (readU32Le (pvd buf) 158) (readU32Le (pvd buf) 166) "" []

/-- `analyze`, on the content of the file when it can be read. -/
def analyze (content : Option (List UInt8)) : Bool × String :=
  match content with
  | none => (true, "read error - analysis skipped")
  | some buf =>
    if buf.length < pvdSector * sectorSize + 190 then (true, "too small to be a valid ISO")
    else if (pvd buf)[0]? ≠ some 1 ∨ ((pvd buf).drop 1).take 5 ≠ [0x43, 0x44, 0x30, 0x30, 0x31] then
      (true, "not a valid ISO 9660 image")
    else verdict tables (collect tables buf)

end Keysas.Analyze.Iso
