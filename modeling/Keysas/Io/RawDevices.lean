import Mathlib.Data.PNat.Notation
import Keysas.Rust.Text

/-!
# The disk behind a device node

The signature of a USB device stands on its disk, and an event may report a partition of it. Three
programs cut the partition number from the name of the node, each in its own way: keysas-admin
before it signs, keysas-io and the firewall on Linux before they read. `rmLast` and `rawDevice`
remove one digit from the end, if there is one; `removeLast` removes the last character whatever it
is. keysas-io calls it for disks and for partitions.

`stripped_partition` says that the three do the same to the node of a partition, and
`withoutLast_partition` what that is from number 10 on: the node of another partition.
`rawDevicesAgree_iff` says that the three find the disk exactly for the partitions whose number has
a single digit.
-/

set_option autoImplicit false
set_option relaxedAutoImplicit false

namespace Keysas.Io

open RustStd

/-! ### The three functions -/

/-- The table behind `char::is_numeric`, known on ASCII. -/
structure NumericTable where
  numeric : Char → Bool
  numeric_ascii : ∀ character : Char, character.toNat < 128 →
    numeric character = character.isDigit

/-- The text without its last character. -/
def withoutLast (text : String) : String :=
  String.ofList text.toList.dropLast

/-- `rm_last` of keysas-admin. -/
def rmLast (table : NumericTable) (value : String) : String :=
  match value.toList.getLast? with
  | some last => if table.numeric last then withoutLast value else value
  | none => value

/-- `remove_last` of keysas-io. -/
def removeLast (text : String) : String :=
  match text.toList.getLast? with
  | some _ => withoutLast text
  | none => text

/-- `raw_device` in `extract_usb_info` of the Linux monitor. -/
def rawDevice (devnode : String) : String :=
  if devnode.toList.getLast?.any Char.isDigit then withoutLast devnode else devnode

/-! ### Device nodes -/

/-- A whole disk: the letters that follow `sd` in the name of its node. -/
structure Disk where
  letters : List Char
  letters_ne_nil : letters ≠ []
  isLower : ∀ letter ∈ letters, letter.isLower

/-- The name of the node of a disk. -/
def Disk.name (disk : Disk) : String :=
  "/dev/sd" ++ String.ofList disk.letters

/-- A device node that an event reports: a disk or one of its partitions. -/
inductive DeviceNode where
  | disk (whole : Disk)
  | partition (whole : Disk) (number : ℕ+)

/-- The name of a node. The number of a partition is decimal. -/
def DeviceNode.name : DeviceNode → String
  | .disk whole => whole.name
  | .partition whole number => whole.name ++ toString (number : ℕ)

/-- The disk that a node is on. -/
def DeviceNode.wholeDisk : DeviceNode → Disk
  | .disk whole => whole
  | .partition whole _ => whole

/-- The device that is signed and the devices that are read are the disk of the node. -/
structure RawDevicesAgree (table : NumericTable) (node : DeviceNode) : Prop where
  admin : rmLast table node.name = node.wholeDisk.name
  io : removeLast node.name = node.wholeDisk.name
  firewall : rawDevice node.name = node.wholeDisk.name

/-! ### What they remove -/

theorem withoutLast_append (front : String) {back : String} (hback : back.toList ≠ []) :
    withoutLast (front ++ back) = front ++ withoutLast back := by
  apply String.ext
  simp [withoutLast, String.toList_append, List.dropLast_append_of_ne_nil hback]

theorem withoutLast_ne {text : String} (htext : text.toList ≠ []) : withoutLast text ≠ text := by
  intro hsame
  have hlist := congrArg String.toList hsame
  rw [withoutLast, String.toList_ofList] at hlist
  have hlength := congrArg List.length hlist
  rw [List.length_dropLast] at hlength
  have hpos := List.length_pos_iff.mpr htext
  omega

/-- keysas-io removes the last character of every name. -/
theorem removeLast_eq {text : String} (htext : text.toList ≠ []) :
    removeLast text = withoutLast text := by
  rw [removeLast, List.getLast?_eq_some_getLast htext]

/-- A digit at the end is removed by all three. Assumes: the last character is an ASCII digit. -/
theorem stripped_of_digit (table : NumericTable) {text : String} {last : Char}
    (hlast : text.toList.getLast? = some last) (hdigit : last.isDigit) :
    rmLast table text = withoutLast text ∧ removeLast text = withoutLast text ∧
      rawDevice text = withoutLast text := by
  have hascii : last.toNat < 128 := by
    have hbounds := hdigit
    simp only [Char.isDigit, Bool.and_eq_true, decide_eq_true_eq] at hbounds
    exact lt_of_le_of_lt hbounds.2 (by decide)
  refine ⟨?_, ?_, ?_⟩
  · simp [rmLast, hlast, table.numeric_ascii last hascii, hdigit]
  · simp [removeLast, hlast]
  · simp [rawDevice, hlast, hdigit]

/-! ### Numbers of partitions -/

/-- The number of a partition ends in a digit. -/
theorem exists_getLast_name (disk : Disk) (number : ℕ+) :
    ∃ last, (DeviceNode.partition disk number).name.toList.getLast? = some last ∧
      last.isDigit := by
  have hlist : (DeviceNode.partition disk number).name.toList =
      disk.name.toList ++ Nat.toDigits 10 number := by
    simp [DeviceNode.name, String.toList_append, Nat.toString_eq_repr, Nat.toList_repr]
  refine ⟨(Nat.toDigits 10 number).getLast Nat.toDigits_ne_nil, ?_, ?_⟩
  · rw [hlist, List.getLast?_append, List.getLast?_eq_some_getLast Nat.toDigits_ne_nil,
      Option.some_or]
  · exact Nat.isDigit_of_mem_toDigits (by omega) (by omega) (List.getLast_mem _)

/-- The three programs remove the last digit of the number of a partition. -/
theorem stripped_partition (table : NumericTable) (disk : Disk) (number : ℕ+) :
    let name := (DeviceNode.partition disk number).name
    rmLast table name = withoutLast name ∧ removeLast name = withoutLast name ∧
      rawDevice name = withoutLast name := by
  obtain ⟨last, hlast, hdigit⟩ := exists_getLast_name disk number
  exact stripped_of_digit table hlast hdigit

/-- Without its last digit a number of one digit is empty, and a longer one is its tenth. -/
theorem withoutLast_toString (number : ℕ) :
    withoutLast (toString number) = if number < 10 then "" else toString (number / 10) := by
  apply String.ext
  rw [withoutLast, String.toList_ofList, Nat.toString_eq_repr, Nat.toList_repr]
  split_ifs with hsmall
  · rw [Nat.toDigits_of_lt_base hsmall]
    rfl
  · rw [Nat.toDigits_of_base_le (by omega) (Nat.le_of_not_lt hsmall), Nat.toString_eq_repr,
      Nat.toList_repr]
    exact List.dropLast_concat

/-- Without the last digit of its number the node of a partition is that of its disk, or that of
another partition. -/
theorem withoutLast_partition (disk : Disk) (number : ℕ+) :
    withoutLast (DeviceNode.partition disk number).name =
      if (number : ℕ) < 10 then disk.name else disk.name ++ toString ((number : ℕ) / 10) := by
  have hdigits : (toString (number : ℕ)).toList ≠ [] := by
    rw [Nat.toString_eq_repr, Nat.toList_repr]
    exact Nat.toDigits_ne_nil
  rw [DeviceNode.name, withoutLast_append _ hdigits, withoutLast_toString]
  split_ifs with hsmall
  · exact String.append_empty
  · rfl

theorem Disk.toList_name_ne_nil (disk : Disk) : disk.name.toList ≠ [] := by
  rw [Disk.name, String.toList_append]
  exact List.append_ne_nil_of_left_ne_nil (by decide) _

/-! ### Agreement -/

/-- keysas-io does not read the disk of a disk event: it removes a letter of its name. -/
theorem removeLast_disk_ne (disk : Disk) :
    removeLast (DeviceNode.disk disk).name ≠ disk.name := by
  rw [DeviceNode.name, removeLast_eq disk.toList_name_ne_nil]
  exact withoutLast_ne disk.toList_name_ne_nil

/-- The device that is signed and the devices that are read are the disk of the node if and only if
the node is a partition whose number has a single digit. -/
theorem rawDevicesAgree_iff (table : NumericTable) (node : DeviceNode) :
    RawDevicesAgree table node ↔
      ∃ disk number, node = .partition disk number ∧ (number : ℕ) < 10 := by
  constructor
  · intro hagree
    cases node with
    | disk disk => exact absurd hagree.io (removeLast_disk_ne disk)
    | partition disk number =>
      refine ⟨disk, number, rfl, ?_⟩
      by_contra hlarge
      have hname := hagree.io
      rw [(stripped_partition table disk number).2.1, withoutLast_partition, if_neg hlarge] at hname
      have hlist := congrArg String.toList hname
      rw [String.toList_append, Nat.toString_eq_repr, Nat.toList_repr] at hlist
      exact Nat.toDigits_ne_nil (List.append_right_eq_self.mp hlist)
  · rintro ⟨disk, number, rfl, hsmall⟩
    obtain ⟨hadmin, hio, hfirewall⟩ := stripped_partition table disk number
    have hname := withoutLast_partition disk number
    rw [if_pos hsmall] at hname
    exact ⟨hadmin.trans hname, hio.trans hname, hfirewall.trans hname⟩

/-- The numeric characters of ASCII. -/
def asciiNumeric : NumericTable where
  numeric := Char.isDigit
  numeric_ascii := fun _ _ ↦ rfl

/-- The disk `sdb`. -/
def diskB : Disk where
  letters := ['b']
  letters_ne_nil := List.cons_ne_nil _ _
  isLower := by simp

/-- The devices do not always agree: keysas-io does not read the disk when a disk is reported, and
none of the programs finds it behind a partition with a number of two digits. -/
theorem not_rawDevicesAgree :
    ¬ RawDevicesAgree asciiNumeric (.disk diskB) ∧
      ¬ RawDevicesAgree asciiNumeric (.partition diskB ⟨12, by decide⟩) := by
  constructor
  · exact fun hagree ↦ absurd hagree.io (by decide +kernel)
  · exact fun hagree ↦ absurd hagree.admin (by decide +kernel)

end Keysas.Io
