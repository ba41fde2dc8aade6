import Mathlib.Data.List.DropRight
import Keysas.Rust.Text

/-!
# Paths as bytes

The methods of `Path` and `PathBuf` on Unix, where a path is any sequence of bytes and only the
separator and the dots mean something. A path is read as what stands before its body, the root or a
leading `.`, and the parts of the body between separators; empty parts and further `.` parts are not
components. `components`, `fileName`, `parent`, `extension`, `withoutExtension` and `join` are the
methods of these names, `withoutExtension` being `set_extension` with the empty text.
-/

set_option autoImplicit false
set_option relaxedAutoImplicit false

namespace RustStd

/-! ### Components -/

/-- A component of a path. -/
inductive Component where
  | rootDir
  | curDir
  | parentDir
  | normal (name : OsString)
  deriving DecidableEq

/-- The byte of the separator. -/
def separatorByte : UInt8 := 0x2F

/-- The byte of the dot. -/
def dotByte : UInt8 := 0x2E

/-- The part of a body is not a component. -/
def isBlankPart (part : List UInt8) : Bool :=
  part = [] || part = [dotByte]

/-- What stands before the body of a path, and the parts of the body between separators. -/
def OsString.frontAndParts (path : OsString) : List UInt8 × List (List UInt8) :=
  if path.bytes.head? = some separatorByte then
    ([separatorByte], path.bytes.tail.splitOn separatorByte)
  else if (path.bytes.splitOn separatorByte).head? = some [dotByte] then
    ([dotByte], path.bytes.tail.splitOn separatorByte)
  else ([], path.bytes.splitOn separatorByte)

/-- The component of a part of the body. -/
def componentOfPart (part : List UInt8) : Component :=
  if part = [dotByte, dotByte] then .parentDir else .normal ⟨part⟩

/-- `Path::components`. -/
def OsString.components (path : OsString) : List Component :=
  (if path.frontAndParts.1 = [separatorByte] then [.rootDir]
    else if path.frontAndParts.1 = [dotByte] then [.curDir] else []) ++
  (path.frontAndParts.2.filter fun part ↦ !isBlankPart part).map componentOfPart

/-- The parts of the body up to the last component. -/
def OsString.trimmedParts (path : OsString) : List (List UInt8) :=
  path.frontAndParts.2.rdropWhile isBlankPart

/-- The path with a front and the parts of a body. -/
def ofFrontAndParts (front : List UInt8) (parts : List (List UInt8)) : OsString :=
  ⟨front ++ [separatorByte].intercalate parts⟩

/-- `Path::file_name`: the last component, when it is a normal one. -/
def OsString.fileName (path : OsString) : Option OsString :=
  path.trimmedParts.getLast?.bind fun part ↦
    if part = [dotByte, dotByte] then none else some ⟨part⟩

/-- `Path::parent`: the path without its last component. -/
def OsString.parent (path : OsString) : Option OsString :=
  if path.trimmedParts = [] then
    if path.frontAndParts.1 = [dotByte] then some ⟨[]⟩ else none
  else
    some (ofFrontAndParts path.frontAndParts.1
      (path.trimmedParts.dropLast.rdropWhile isBlankPart))

/-- A path with a file name has a parent. -/
theorem OsString.exists_parent_of_fileName {path name : OsString}
    (hname : path.fileName = some name) : ∃ parent, path.parent = some parent := by
  have hparts : path.trimmedParts ≠ [] := by
    intro hnone
    simp [OsString.fileName, hnone] at hname
  exact ⟨_, by rw [OsString.parent, if_neg hparts]⟩

/-! ### Extensions -/

/-- A file name cut at its last dot, unless nothing precedes the dot. -/
def splitAtLastDot (name : List UInt8) : List UInt8 × Option (List UInt8) :=
  match name.reverse.dropWhile (· ≠ dotByte) with
  | [] => (name, none)
  | [_] => (name, none)
  | _ :: before => (before.reverse, some (name.reverse.takeWhile (· ≠ dotByte)).reverse)

/-- `Path::extension`. -/
def OsString.extension (path : OsString) : Option OsString :=
  path.fileName.bind fun name ↦ (splitAtLastDot name.bytes).2.map OsString.mk

/-- `PathBuf::set_extension` with the empty text: what follows the stem of the file name goes. -/
def OsString.withoutExtension (path : OsString) : OsString :=
  match path.fileName with
  | none => path
  | some name => ofFrontAndParts path.frontAndParts.1
      (path.trimmedParts.dropLast ++ [(splitAtLastDot name.bytes).1])

/-- `OsStr::eq_ignore_ascii_case`. -/
def OsString.eqIgnoreAsciiCase (first second : OsString) : Bool :=
  let lower := fun byte : UInt8 ↦ if 0x41 ≤ byte && byte ≤ 0x5A then byte + 0x20 else byte
  first.bytes.map lower == second.bytes.map lower

/-! ### Joining -/

/-- `Path::join`. -/
def OsString.join (base path : OsString) : OsString :=
  if path.bytes.head? = some separatorByte then path
  else if base.bytes = [] || base.bytes.getLast? = some separatorByte then
    ⟨base.bytes ++ path.bytes⟩
  else ⟨base.bytes ++ [separatorByte] ++ path.bytes⟩

end RustStd
