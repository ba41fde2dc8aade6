import Keysas.Firewall.MountTable

/-!
# The mount point of a device

The firewall learns the mount point of a device in two ways. After it has mounted the device it
reads what `udisksctl` prints, `Mounted <device> at <mount point>`, with or without a period. Later
it looks the device up in the mount table. Neither reader undoes what the writer did: the first
takes what stands behind the first `at` and cuts white space and periods off its end, the second
compares and returns columns as the kernel writes them, and stops at a line that is not text.

`readsMountPoint_iff` says for which devices, mount points and tables both give the mount point,
whatever stands in the table behind the line of the device.
-/

set_option autoImplicit false
set_option relaxedAutoImplicit false

namespace Keysas.Firewall

open RustStd Wire.Bincode

/-! ### What `udisksctl` prints -/

/-- What `udisksctl mount` prints, with or without the period. -/
def mountedMessage (device mntPoint : String) (period : Bool) : String :=
  "Mounted " ++ device ++ " at " ++ mntPoint ++ (if period then "." else "") ++ "\n"

/-- `parse_udisksctl_output`. -/
def parseUdisksctlOutput (stdout : List UInt8) : Option String := do
  let s ← fromUtf8 stdout
  let behind ← afterFirst " at " s
  let rest := trimEndMatches '.' (trim behind)
  if rest = "" then none else some rest

/-- The two readers give the mount point of a device, whatever stands behind its line in the
table. -/
structure ReadsMountPoint (device mntPoint : String) (before : MountLines) : Prop where
  printed : ∀ period,
    parseUdisksctlOutput (utf8 (mountedMessage device mntPoint period)) = some mntPoint
  listed : ∀ options after,
    findMountPoint (.ofText device) (before ++ some (mountLine device mntPoint options) :: after) =
      some mntPoint

/-- A line before that of the device has the device and the mount point in its first columns, and
the lines before it are passed over. -/
def ListedBefore (device mntPoint : String) (before : MountLines) : Prop :=
  ∃ front text back, before = front ++ some text :: back ∧
    (∀ line ∈ front, PassedOver device line) ∧ deviceAndMount text = some (device, mntPoint)

/-- The device and the mount point can be read: the device is not the word that the message has
before the mount point, and nothing is cut off the end of the mount point. The kernel escapes
nothing in either, and the lines before that of the device are text and of other devices, or one of
them has the same two columns. -/
structure Readable (device mntPoint : String) (before : MountLines) : Prop where
  device_ne : device ≠ "at"
  last : ∀ character ∈ mntPoint.toList.getLast?,
    character ≠ '.' ∧ isWhitespace character = false
  found : (IsPlain device ∧ IsPlain mntPoint ∧ ∀ line ∈ before, PassedOver device line) ∨
    ListedBefore device mntPoint before

/-! ### The mount table -/

section Table

variable {device : String} {before : MountLines}

/-- The lines of a table are all passed over, or there is a first one that is not. -/
theorem forall_passedOver_or (device : String) (before : MountLines) :
    (∀ line ∈ before, PassedOver device line) ∨
      ∃ front line back, before = front ++ line :: back ∧
        (∀ other ∈ front, PassedOver device other) ∧ ¬ PassedOver device line := by
  induction before with
  | nil => exact .inl fun _ hmem ↦ absurd hmem List.not_mem_nil
  | cons first before ih =>
    by_cases hpassed : PassedOver device first
    swap
    · exact .inr ⟨[], first, before, rfl, fun _ hmem ↦ absurd hmem List.not_mem_nil, hpassed⟩
    rcases ih with hall | ⟨front, line, back, rfl, hfront, hline⟩
    · exact .inl (List.forall_mem_cons.mpr ⟨hpassed, hall⟩)
    · exact .inr ⟨first :: front, line, back, rfl, List.forall_mem_cons.mpr ⟨hpassed, hfront⟩,
        hline⟩

/-- A line of the device gives its second column. -/
theorem findMountPoint_of_deviceAndMount {text mntPoint : String}
    (hcolumns : deviceAndMount text = some (device, mntPoint)) (lines : MountLines) :
    findMountPoint (.ofText device) (some text :: lines) = some mntPoint := by
  rw [findMountPoint, hcolumns]
  exact if_pos (toStringLossy_ofText device).symm

/-- A device is found at the mount point of an earlier line. -/
theorem findMountPoint_of_listedBefore {mntPoint : String}
    (hlisted : ListedBefore device mntPoint before) (after : MountLines) :
    findMountPoint (.ofText device) (before ++ after) = some mntPoint := by
  obtain ⟨front, text, back, rfl, hfront, hcolumns⟩ := hlisted
  rw [List.append_assoc, List.cons_append, findMountPoint_append hfront,
    findMountPoint_of_deviceAndMount hcolumns]

/-- The device of a line has no blank. -/
theorem blank_notMem_of_deviceAndMount {text mntPoint : String}
    (hcolumns : deviceAndMount text = some (device, mntPoint)) : ' ' ∉ device.toList := by
  obtain ⟨⟨first, rest⟩, hcut, hpair⟩ := Option.map_eq_some_iff.mp hcolumns
  obtain ⟨rfl, -⟩ := Prod.mk.inj hpair
  exact not_mem_of_splitOnce hcut

/-- What the search gives, whatever stands behind the line of the device: the mount point, when the
lines before are passed over and the kernel writes both columns as they are, or when an earlier line
has the same columns, and not otherwise. -/
theorem findMountPoint_mountLine_iff (device mntPoint : String) (before : MountLines) :
    (∀ options after, findMountPoint (.ofText device)
        (before ++ some (mountLine device mntPoint options) :: after) = some mntPoint) ↔
      (IsPlain device ∧ IsPlain mntPoint ∧ ∀ line ∈ before, PassedOver device line) ∨
        ListedBefore device mntPoint before := by
  constructor
  · intro hfinds
    have hfound := hfinds "" []
    rcases forall_passedOver_or device before with hall | ⟨front, line, back, rfl, hfront, hline⟩
    · have hcolumns := deviceAndMount_mountLine device mntPoint ""
      rw [findMountPoint_append hall] at hfound
      by_cases hdevice : mangle device = device
      · rw [hdevice] at hcolumns
        rw [findMountPoint_of_deviceAndMount hcolumns, Option.some.injEq] at hfound
        exact .inl ⟨mangle_eq_self_iff.mp hdevice, mangle_eq_self_iff.mp hfound, hall⟩
      · have hother : ∀ mnt,
            deviceAndMount (mountLine device mntPoint "") ≠ some (device, mnt) := by
          intro mnt hsame
          rw [hcolumns] at hsame
          exact hdevice (Prod.mk.inj (Option.some.inj hsame)).1
        rw [findMountPoint_cons hother] at hfound
        cases hfound
    · rw [List.append_assoc, List.cons_append, findMountPoint_append hfront] at hfound
      rcases line with _ | text
      · cases hfound
      obtain ⟨mnt, hcolumns⟩ : ∃ mnt, deviceAndMount text = some (device, mnt) := by
        by_contra hnone
        exact hline ⟨text, rfl, fun mnt hcolumns ↦ hnone ⟨mnt, hcolumns⟩⟩
      rw [findMountPoint_of_deviceAndMount hcolumns, Option.some.injEq] at hfound
      exact .inr ⟨front, text, back, rfl, hfront, hfound ▸ hcolumns⟩
  · rintro (⟨hdevice, hmount, hall⟩ | hlisted) options after
    · exact findMountPoint_of_listedAt ⟨before, options, after, rfl, hall⟩ hdevice hmount
    · exact findMountPoint_of_listedBefore hlisted _

end Table

/-! ### The message -/

/-- A list loses nothing at its end when its last item is not one of those to drop. -/
theorem rdropWhile_eq_self_iff_getLast? {α : Type*} {drops : α → Bool} {items : List α} :
    items.rdropWhile drops = items ↔ ∀ item ∈ items.getLast?, drops item = false := by
  rw [List.rdropWhile_eq_self_iff]
  constructor
  · intro hkept item hlast
    have hne : items ≠ [] := by
      rintro rfl
      cases hlast
    rw [List.getLast?_eq_some_getLast hne, Option.mem_some_iff] at hlast
    rw [← hlast]
    exact Bool.eq_false_iff.mpr (hkept hne)
  · intro hkept hne
    exact Bool.eq_false_iff.mp (hkept _ (List.getLast?_eq_some_getLast hne))

/-- A list loses nothing to two droppings at its end when it loses nothing to either. -/
theorem rdropWhile_rdropWhile_eq_self_iff {α : Type*} {first second : α → Bool} {items : List α} :
    (items.rdropWhile first).rdropWhile second = items ↔
      items.rdropWhile first = items ∧ items.rdropWhile second = items := by
  constructor
  · intro hboth
    have houter := List.rdropWhile_prefix second (items.rdropWhile first)
    have hinner := List.rdropWhile_prefix first items
    rw [hboth] at houter
    have hfirst : items.rdropWhile first = items := hinner.eq_of_length_le houter.length_le
    rw [hfirst] at hboth
    exact ⟨hfirst, hboth⟩
  · rintro ⟨hfirst, hsecond⟩
    rw [hfirst, hsecond]

section Message

variable {device mntPoint : String}

/-- What the message has behind the mount point. -/
def messageEnd (period : Bool) : String :=
  (if period then "." else "") ++ "\n"

/-- The first `at` of the message stands before the mount point, unless the device is this word. -/
theorem afterFirst_mountedMessage (hdevice : ' ' ∉ device.toList) (period : Bool) :
    afterFirst " at " (mountedMessage device mntPoint period) =
      some (if device = "at" then "at " ++ (mntPoint ++ messageEnd period)
        else mntPoint ++ messageEnd period) := by
  have hpattern : " at ".toList = [' ', 'a', 't', ' '] := rfl
  have hmessage : (mountedMessage device mntPoint period).toList = "Mounted".toList ++
      ' ' :: (device.toList ++ (" at ".toList ++ (mntPoint ++ messageEnd period).toList)) := by
    have hfront : "Mounted ".toList = "Mounted".toList ++ [' '] := rfl
    simp only [mountedMessage, messageEnd, String.toList_append, hfront, List.append_assoc,
      List.cons_append, List.nil_append]
  have hmounted : ' ' ∉ "Mounted".toList := by decide
  rw [afterFirst, hmessage, hpattern, behindFirst_append hmounted, behindFirst]
  by_cases hat : device = "at"
  · have hchars : device.toList = ['a', 't'] := by rw [hat]; rfl
    rw [if_pos hat, hchars, if_pos ⟨_, rfl⟩, Option.map_some, Option.some.injEq]
    apply String.toList_injective
    simp
  · rw [if_neg hat, if_neg, behindFirst_append hdevice, behindFirst_self (by simp)]
    · rw [Option.map_some, String.ofList_toList]
    · rintro ⟨rest, hrest⟩
      have hjoined : "at" ++ (String.singleton ' ' ++ String.ofList rest) =
          device ++ (String.singleton ' ' ++
            String.ofList (['a', 't', ' '] ++ (mntPoint ++ messageEnd period).toList)) := by
        apply String.toList_injective
        simpa using hrest
      exact hat (append_separator_inj (by decide) hdevice hjoined).1.symm

/-- The text that is read is the mount point when this is what is left of it. Assumes: it is not
empty. -/
theorem parseUdisksctlOutput_eq_some_iff {message behind : String} (hmntPoint : mntPoint ≠ "")
    (hbehind : afterFirst " at " message = some behind) :
    parseUdisksctlOutput (utf8 message) = some mntPoint ↔
      ((behind.toList.dropWhile isWhitespace).rdropWhile isWhitespace).rdropWhile
        (fun other ↦ other == '.') = mntPoint.toList := by
  have hleft : trimEndMatches '.' (trim behind) = mntPoint ↔
      ((behind.toList.dropWhile isWhitespace).rdropWhile isWhitespace).rdropWhile
        (fun other ↦ other == '.') = mntPoint.toList := by
    rw [trimEndMatches, trim, String.toList_ofList, ← String.toList_inj, String.toList_ofList]
  have hrest : parseUdisksctlOutput (utf8 message) =
      if trimEndMatches '.' (trim behind) = "" then none
      else some (trimEndMatches '.' (trim behind)) := by
    simp [parseUdisksctlOutput, fromUtf8_utf8, hbehind]
  rw [hrest, ← hleft]
  by_cases hempty : trimEndMatches '.' (trim behind) = ""
  · rw [if_pos hempty, hempty]
    exact iff_of_false (by simp) hmntPoint.symm
  · rw [if_neg hempty, Option.some.injEq]

/-- What is cut off the end of an absolute path with the end of the message: the period keeps white
space. -/
theorem rdropWhile_messageEnd {characters rest : List Char} (habsolute : characters = '/' :: rest)
    (period : Bool) :
    (((characters ++ (messageEnd period).toList).dropWhile isWhitespace).rdropWhile
        isWhitespace).rdropWhile (fun other ↦ other == '.') =
      (if period then characters else characters.rdropWhile isWhitespace).rdropWhile
        fun other ↦ other == '.' := by
  have hfront : (characters ++ (messageEnd period).toList).dropWhile isWhitespace =
      characters ++ (messageEnd period).toList := by
    have hslash : ¬ isWhitespace '/' = true := by decide
    rw [habsolute, List.cons_append, List.dropWhile_cons_of_neg hslash]
  have hline : isWhitespace '\n' = true := by decide
  have hdot : ¬ isWhitespace '.' = true := by decide
  rw [hfront]
  cases period with
  | false =>
    have hend : (messageEnd false).toList = ['\n'] := by decide
    rw [hend, List.rdropWhile_concat_pos _ _ _ hline]
    rfl
  | true =>
    have hend : (messageEnd true).toList = ['.'] ++ ['\n'] := by decide
    rw [hend, ← List.append_assoc, List.rdropWhile_concat_pos _ _ _ hline,
      List.rdropWhile_concat_neg _ _ _ hdot]
    exact List.rdropWhile_concat_pos (fun other ↦ other == '.') _ _ (beq_self_eq_true '.')

/-- The message is read as the mount point when nothing is cut off its end. Assumes: the device has
no blank, and the mount point is an absolute path. -/
theorem parseUdisksctlOutput_mountedMessage_iff (hdevice : ' ' ∉ device.toList)
    (habsolute : startsWith mntPoint "/") :
    (∀ period, parseUdisksctlOutput (utf8 (mountedMessage device mntPoint period)) =
        some mntPoint) ↔
      device ≠ "at" ∧ ∀ character ∈ mntPoint.toList.getLast?,
        character ≠ '.' ∧ isWhitespace character = false := by
  obtain ⟨rest, hrest⟩ := of_decide_eq_true habsolute
  have hmntPoint : mntPoint ≠ "" := by
    rintro rfl
    cases hrest
  have hparse := fun period ↦ parseUdisksctlOutput_eq_some_iff hmntPoint
    (@afterFirst_mountedMessage device mntPoint hdevice period)
  simp only [hparse]
  by_cases hat : device = "at"
  · -- The text that is read begins with the device, so it is no absolute path.
    refine iff_of_false (fun hall ↦ ?_) fun hall ↦ hall.1 hat
    have hread := hall false
    have hletter : ¬ isWhitespace 'a' = true := by decide
    have hchars : ("at " ++ (mntPoint ++ messageEnd false)).toList =
        'a' :: ('t' :: ' ' :: (mntPoint ++ messageEnd false).toList) := by
      simp
    rw [if_pos hat, hchars, List.dropWhile_cons_of_neg hletter] at hread
    have hprefix := (List.rdropWhile_prefix (fun other ↦ other == '.') _).trans
      (List.rdropWhile_prefix isWhitespace
        ('a' :: ('t' :: ' ' :: (mntPoint ++ messageEnd false).toList)))
    rw [hread, ← hrest] at hprefix
    exact absurd (List.cons_prefix_cons.mp hprefix).1 (by decide)
  have hslash : mntPoint.toList = '/' :: rest := hrest.symm
  simp only [if_neg hat, String.toList_append, rdropWhile_messageEnd hslash, Bool.forall_bool,
    Bool.false_eq_true, if_false, if_true, rdropWhile_rdropWhile_eq_self_iff,
    rdropWhile_eq_self_iff_getLast?]
  constructor
  · rintro ⟨⟨hvisible, hdots⟩, -⟩
    exact ⟨hat, fun character hlast ↦ ⟨beq_eq_false_iff_ne.mp (hdots character hlast),
      hvisible character hlast⟩⟩
  · rintro ⟨-, hlast⟩
    have hdots := fun character hmem ↦ beq_eq_false_iff_ne.mpr (hlast character hmem).1
    exact ⟨⟨fun character hmem ↦ (hlast character hmem).2, hdots⟩, hdots⟩

end Message

/-! ### Both readers -/

/-- A device that is found has no blank. -/
theorem blank_notMem_of_found {device mntPoint : String} {before : MountLines}
    (hfound : (IsPlain device ∧ IsPlain mntPoint ∧ ∀ line ∈ before, PassedOver device line) ∨
      ListedBefore device mntPoint before) : ' ' ∉ device.toList := by
  rcases hfound with ⟨hdevice, -, -⟩ | ⟨_, _, _, -, -, hcolumns⟩
  · exact blank_notMem_of_isPlain hdevice
  · exact blank_notMem_of_deviceAndMount hcolumns

/-- The two readers give an absolute mount point of a device if and only if it can be read. -/
theorem readsMountPoint_iff {device mntPoint : String} (before : MountLines)
    (habsolute : startsWith mntPoint "/") :
    ReadsMountPoint device mntPoint before ↔ Readable device mntPoint before := by
  constructor
  · rintro ⟨hprinted, hlisted⟩
    have hfound := (findMountPoint_mountLine_iff device mntPoint before).mp hlisted
    obtain ⟨hne, hlast⟩ := (parseUdisksctlOutput_mountedMessage_iff
      (blank_notMem_of_found hfound) habsolute).mp hprinted
    exact ⟨hne, hlast, hfound⟩
  · rintro ⟨hne, hlast, hfound⟩
    exact ⟨(parseUdisksctlOutput_mountedMessage_iff (blank_notMem_of_found hfound)
      habsolute).mpr ⟨hne, hlast⟩,
      (findMountPoint_mountLine_iff device mntPoint before).mpr hfound⟩

theorem readsMountPoint_key :
    ReadsMountPoint "/dev/sdb1" "/media/user/KEY" [some "none /proc"] := by
  have hcolumns : deviceAndMount "none /proc" = some ("none", "/proc") := by decide
  have hlast : "/media/user/KEY".toList.getLast? = some 'Y' := by decide
  refine (readsMountPoint_iff _ (by decide)).mpr ⟨by decide, fun character hmem ↦ ?_,
    .inl ⟨by decide, by decide, fun line hmem ↦ ?_⟩⟩
  · rw [hlast] at hmem
    obtain rfl := Option.some.inj hmem
    decide
  · rw [List.mem_singleton] at hmem
    refine ⟨"none /proc", hmem, fun mnt hsame ↦ ?_⟩
    rw [hcolumns] at hsame
    exact absurd (Prod.mk.inj (Option.some.inj hsame)).1 (by decide)

/-- A label with a blank is returned as the kernel writes it, and a label that ends with a period
loses it. -/
theorem not_readsMountPoint_label :
    ¬ ReadsMountPoint "/dev/sdb1" "/media/user/My Key" [] ∧
      findMountPoint (.ofText "/dev/sdb1")
        [some (mountLine "/dev/sdb1" "/media/user/My Key" "vfat rw 0 0")] =
          some "/media/user/My\\040Key" ∧
      ¬ ReadsMountPoint "/dev/sdb1" "/media/user/backup." [] := by
  have hdevice : IsPlain "/dev/sdb1" := by decide
  have hmangled : mangle "/media/user/My Key" = "/media/user/My\\040Key" := by decide
  have hfound : ∀ options, findMountPoint (.ofText "/dev/sdb1")
      [some (mountLine "/dev/sdb1" "/media/user/My Key" options)] =
        some "/media/user/My\\040Key" := by
    intro options
    rw [findMountPoint, deviceAndMount_mountLine, mangle_of_isPlain hdevice, hmangled]
    exact if_pos (toStringLossy_ofText "/dev/sdb1").symm
  refine ⟨fun hreads ↦ ?_, hfound _, fun hreads ↦ ?_⟩
  · have hsame := (hfound "").symm.trans (hreads.listed "" [])
    exact absurd (Option.some.inj hsame) (by decide)
  · have hlast := ((parseUdisksctlOutput_mountedMessage_iff (blank_notMem_of_isPlain hdevice)
      (by decide)).mp hreads.printed).2
    exact (hlast '.' (by decide)).1 rfl

end Keysas.Firewall
