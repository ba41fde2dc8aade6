import Keysas.Rust.LossyText

/-!
# The mount table of the kernel

The kernel lists the mounted file systems in `/proc/mounts`, a line for each: the device, the mount
point, and further columns, separated by blanks. Blanks, tabs, line feeds and backslashes of a
column are written as a backslash and three octal digits (`mangle`).

`findMountPoint` looks a device up there. It takes the second column of the first line whose first
column is the device as it stands there. `findMountPoint_of_listedAt` says what it gives for a line
that the kernel writes.
-/

set_option autoImplicit false
set_option relaxedAutoImplicit false

namespace Keysas.Firewall

open RustStd

/-- The lines of `/proc/mounts`. One that is not text is `none`. -/
abbrev MountLines := List (Option String)

/-! ### The kernel -/

/-- How the kernel writes a character of a column. -/
def mangleChar : Char → List Char
  | ' ' => "\\040".toList
  | '\t' => "\\011".toList
  | '\n' => "\\012".toList
  | '\\' => "\\134".toList
  | character => [character]

/-- How the kernel writes a column. -/
def mangle (column : String) : String :=
  String.ofList (column.toList.flatMap mangleChar)

/-- The line of a mounted file system. -/
def mountLine (device mntPoint options : String) : String :=
  mangle device ++ " " ++ (mangle mntPoint ++ " " ++ options)

/-- The text has no character that the kernel writes as an escape. -/
def IsPlain (column : String) : Prop :=
  ∀ character ∈ column.toList, mangleChar character = [character]

instance decidableIsPlain (column : String) : Decidable (IsPlain column) :=
  List.decidableBAll (fun character ↦ mangleChar character = [character]) column.toList

/-- A character is written as it is, or as an escape of four characters. -/
theorem mangleChar_cases (character : Char) :
    (mangleChar character = [character] ∧ character ≠ ' ') ∨
      ((mangleChar character).length = 4 ∧ ' ' ∉ mangleChar character) := by
  unfold mangleChar
  split
  · exact .inr (by decide)
  · exact .inr (by decide)
  · exact .inr (by decide)
  · exact .inr (by decide)
  · exact .inl ⟨rfl, by assumption⟩

/-- A column is not shorter as the kernel writes it. -/
theorem length_le_flatMap_mangleChar (characters : List Char) :
    characters.length ≤ (characters.flatMap mangleChar).length := by
  induction characters with
  | nil => exact Nat.le_refl 0
  | cons first rest ih =>
    rw [List.flatMap_cons, List.length_cons, List.length_append]
    rcases mangleChar_cases first with ⟨hplain, -⟩ | ⟨hescape, -⟩
    · rw [hplain, List.length_singleton]
      omega
    · omega

/-- Only plain characters are written as they are. -/
theorem flatMap_mangleChar_eq_self_iff {characters : List Char} :
    characters.flatMap mangleChar = characters ↔
      ∀ character ∈ characters, mangleChar character = [character] := by
  induction characters with
  | nil => simp
  | cons first rest ih =>
    rw [List.flatMap_cons, List.forall_mem_cons, ← ih]
    constructor
    · intro hsame
      have hlength := congrArg List.length hsame
      have hrest := length_le_flatMap_mangleChar rest
      rw [List.length_append, List.length_cons] at hlength
      rcases mangleChar_cases first with ⟨hplain, -⟩ | ⟨hescape, -⟩
      · rw [hplain] at hsame
        exact ⟨hplain, (List.cons.inj hsame).2⟩
      · omega
    · rintro ⟨hplain, hrest⟩
      rw [hplain, hrest]
      rfl

/-- Only plain columns are written as they are. -/
theorem mangle_eq_self_iff {column : String} : mangle column = column ↔ IsPlain column := by
  rw [mangle, ← String.toList_inj, String.toList_ofList]
  exact flatMap_mangleChar_eq_self_iff

/-- A plain column is written as it is. -/
theorem mangle_of_isPlain {column : String} (hplain : IsPlain column) : mangle column = column :=
  mangle_eq_self_iff.mpr hplain

/-- A column has no blank as the kernel writes it. -/
theorem blank_notMem_mangle (column : String) : ' ' ∉ (mangle column).toList := by
  rw [mangle, String.toList_ofList, List.mem_flatMap]
  rintro ⟨character, -, hblank⟩
  rcases mangleChar_cases character with ⟨hplain, hne⟩ | ⟨-, hfree⟩
  · rw [hplain, List.mem_singleton] at hblank
    exact hne hblank.symm
  · exact hfree hblank

/-- A plain column has no blank. -/
theorem blank_notMem_of_isPlain {column : String} (hplain : IsPlain column) :
    ' ' ∉ column.toList := by
  have hfree := blank_notMem_mangle column
  rwa [mangle_of_isPlain hplain] at hfree

/-! ### Looking a device up -/

/-- The first two columns of a line. -/
def deviceAndMount (line : String) : Option (String × String) :=
  (splitOnce ' ' line).map fun (device, rest) ↦
    (device, ((splitOnce ' ' rest).map Prod.fst).getD rest)

/-- `find_mount_point`: the lines are read up to the first that is not text. -/
def findMountPoint (device : OsString) : MountLines → Option String
  | [] => none
  | none :: _ => none
  | some line :: lines =>
    match deviceAndMount line with
    | none => findMountPoint device lines
    | some (dev, mnt) =>
      if dev = device.toStringLossy then some mnt else findMountPoint device lines

/-- The lines before the first one of a device: they are text, and their first column is not the
device. -/
def PassedOver (device : String) (line : Option String) : Prop :=
  ∃ text, line = some text ∧ ∀ mnt, deviceAndMount text ≠ some (device, mnt)

/-- The first line of the device in the table is the line that the kernel writes for the device at
the mount point. -/
def ListedAt (lines : MountLines) (device mntPoint : String) : Prop :=
  ∃ before options after, lines = before ++ some (mountLine device mntPoint options) :: after ∧
    ∀ line ∈ before, PassedOver device line

/-- The first two columns of a line are the device and the mount point as the kernel writes them. -/
theorem deviceAndMount_mountLine (device mntPoint options : String) :
    deviceAndMount (mountLine device mntPoint options) =
      some (mangle device, mangle mntPoint) := by
  have hfirst : splitOnce ' ' (mangle device ++ " " ++ (mangle mntPoint ++ " " ++ options)) =
      some (mangle device, mangle mntPoint ++ " " ++ options) :=
    splitOnce_append (blank_notMem_mangle device) _
  have hsecond : splitOnce ' ' (mangle mntPoint ++ " " ++ options) =
      some (mangle mntPoint, options) :=
    splitOnce_append (blank_notMem_mangle mntPoint) _
  rw [deviceAndMount, mountLine, hfirst]
  simp [hsecond]

/-- A line of another device is passed over. -/
theorem findMountPoint_cons {device text : String}
    (hother : ∀ mnt, deviceAndMount text ≠ some (device, mnt)) (lines : MountLines) :
    findMountPoint (.ofText device) (some text :: lines) =
      findMountPoint (.ofText device) lines := by
  rw [findMountPoint]
  rcases hcolumns : deviceAndMount text with _ | ⟨dev, mnt⟩
  · rfl
  · refine if_neg fun hdevice ↦ ?_
    rw [toStringLossy_ofText] at hdevice
    exact hother mnt (by rw [hcolumns, hdevice])

/-- Lines of other devices are passed over. -/
theorem findMountPoint_append {device : String} {before : MountLines}
    (hbefore : ∀ line ∈ before, PassedOver device line) (after : MountLines) :
    findMountPoint (.ofText device) (before ++ after) = findMountPoint (.ofText device) after := by
  induction before with
  | nil => rfl
  | cons line before ih =>
    obtain ⟨text, rfl, hother⟩ := hbefore line List.mem_cons_self
    rw [List.cons_append, findMountPoint_cons hother]
    exact ih fun line hmem ↦ hbefore line (.tail _ hmem)

/-- A device is found at the mount point of its first line. Assumes: neither the device nor the
mount point has a character that the kernel escapes. -/
theorem findMountPoint_of_listedAt {lines : MountLines} {device mntPoint : String}
    (hlisted : ListedAt lines device mntPoint) (hdevice : IsPlain device)
    (hmount : IsPlain mntPoint) : findMountPoint (.ofText device) lines = some mntPoint := by
  obtain ⟨before, options, after, rfl, hbefore⟩ := hlisted
  rw [findMountPoint_append hbefore, findMountPoint, deviceAndMount_mountLine,
    mangle_of_isPlain hdevice, mangle_of_isPlain hmount]
  exact if_pos (toStringLossy_ofText device).symm

/-- No line of the table has the device in its first column. -/
def NotListed (lines : MountLines) (device : String) : Prop :=
  ∀ text, some text ∈ lines → ∀ mnt, deviceAndMount text ≠ some (device, mnt)

/-- A device without a line is not found. -/
theorem findMountPoint_of_notListed {lines : MountLines} {device : String}
    (hlines : NotListed lines device) : findMountPoint (.ofText device) lines = none := by
  induction lines with
  | nil => rfl
  | cons line lines ih =>
    rcases line with _ | text
    · rfl
    · rw [findMountPoint_cons (hlines text List.mem_cons_self)]
      exact ih fun text hmem ↦ hlines text (.tail _ hmem)

end Keysas.Firewall
