import Keysas.In.SendFiles

/-!
# Files that are always sent as corrupted

A file is sent as corrupted when its partner is in the directory: the report about it, or the file
with its stem when it is a report itself. The partner has its own turn, and is unlinked in it.

`SendsCorrupted` says that a name is sent as corrupted in every pass whose calls succeed, whatever
the order in which the directory is read. `not_sendsCorrupted` says that there is no such name: a
name without a partner is sent as sound, and a partner may come first.
-/

set_option autoImplicit false
set_option relaxedAutoImplicit false

namespace Keysas.In

open RustStd Transit

/-- The file whose presence makes a file corrupted. -/
def partner (name : String) : String :=
  if isReport name then (stemAndExtension name).1 else reportOf name

/-- Every pass whose calls succeed sends the name as corrupted. -/
def SendsCorrupted (sasIn : Finset String) (name : String) : Prop :=
  ∀ files, Lists sasIn files → ∃ md ∈ (sendFiles succeedingCalls sasIn files).sent,
    md.filename = name ∧ md.isCorrupted = true

theorem isCorrupted_eq {sasIn : Finset String} {name : String} (hmem : name ∈ sasIn) :
    isCorrupted sasIn name = decide (partner name ∈ sasIn) := by
  rw [isCorrupted, if_pos hmem, partner]
  split_ifs <;> rfl

/-- A file without its partner is sent as sound. -/
theorem isCorrupted_eq_false_of_partner_not_mem {calls : SendCalls} {sasIn : Finset String}
    {files : List String} {md : InputMetadata} (hsent : md ∈ (sendEach calls sasIn files).sent)
    (hpartner : partner md.filename ∉ sasIn) : md.isCorrupted = false := by
  induction files generalizing sasIn with
  | nil => cases hsent
  | cons name files ih =>
    rcases mem_sent_sendEach_cons hsent with hnow | hlater
    · obtain ⟨hname, hmem, -, hflag⟩ := of_mem_sent_sendFile hnow
      rw [hflag, isCorrupted_eq hmem, ← hname]
      exact decide_eq_false hpartner
    · exact ih hlater fun hkept ↦ hpartner (sasIn_sendFile_subset _ _ _ hkept)

/-! ### Partners -/

/-- A report is about the file with its stem. -/
theorem reportOf_stem {name : String} (hreport : isReport name = true) :
    reportOf (stemAndExtension name).1 = name ∧ (stemAndExtension name).1 ≠ "" := by
  rw [isReport, decide_eq_true_iff] at hreport
  exact appendExt_stemAndExtension hreport

theorem partner_ne (name : String) : partner name ≠ name := by
  unfold partner
  split_ifs with hreport
  · intro heq
    have hstem := (reportOf_stem hreport).1
    rw [heq] at hstem
    exact ne_reportOf name hstem.symm
  · exact (ne_reportOf name).symm

/-- A report starts with a dot when its file does. Assumes: the file has a name. -/
theorem isHidden_reportOf {name : String} (hname : name ≠ "") :
    isHidden (reportOf name) = isHidden name := by
  obtain ⟨first, rest, htoList⟩ :=
    List.exists_cons_of_ne_nil fun hnil ↦ hname (String.toList_eq_nil_iff.mp hnil)
  simp [isHidden, startsWith, reportOf, appendExt, htoList]

theorem isHidden_partner {name : String} (hname : name ≠ "") :
    isHidden (partner name) = isHidden name := by
  unfold partner
  split_ifs with hreport
  · obtain ⟨hstem, hne⟩ := reportOf_stem hreport
    conv_rhs => rw [← hstem]
    exact (isHidden_reportOf hne).symm
  · exact isHidden_reportOf hname

/-! ### A pass in which the partner comes first -/

theorem canSend_succeedingCalls {name : String} (hshort : name.utf8ByteSize ≤ 255) :
    canSend succeedingCalls name = true := by
  have hsize : InputMetadata.codec.size (metadataOf succeedingCalls name "" false) < 2 ^ 64 := by
    have hname := Wire.Bincode.varintSize_le name.utf8ByteSize
    have hempty : Wire.Bincode.stringSize "" = 1 := rfl
    rw [InputMetadata.size_codec]
    show Wire.Bincode.stringSize name + (Wire.Bincode.stringSize "" +
      (Wire.Bincode.stringSize "" + 1)) < 2 ^ 64
    rw [hempty, Wire.Bincode.stringSize]
    omega
  obtain ⟨bytes, hbytes⟩ := InputMetadata.codec_encodesBelow (Nat.le_refl _) _ hsize
  have hdigest : succeedingCalls.digest name = some "" := rfl
  have hsends : succeedingCalls.sends name = true := rfl
  simp [canSend, hdigest, hsends, hbytes]

/-- No name is sent as corrupted in every pass. Assumes: the names of the directory are not empty
and at most 255 bytes long. -/
theorem not_sendsCorrupted {sasIn : Finset String}
    (hnames : ∀ name ∈ sasIn, name ≠ "" ∧ name.utf8ByteSize ≤ 255) (name : String) :
    ¬ SendsCorrupted sasIn name := by
  intro hsends
  obtain ⟨files, hlists⟩ : ∃ files, Lists sasIn files := exists_lists_append List.nodup_nil nofun
  obtain ⟨md, hsent, rfl, hflag⟩ := hsends files hlists
  rw [sendFiles, filter_of_lists hlists] at hsent
  by_cases hpartner : partner md.filename ∈ sasIn
  swap
  · rw [isCorrupted_eq_false_of_partner_not_mem hsent hpartner] at hflag
    cases hflag
  obtain ⟨hfiles, hmem, -⟩ := of_mem_sent_sendEach hsent
  have hvisible := ((hlists.2 _).mp hfiles).2
  rw [← isHidden_partner (hnames _ hmem).1] at hvisible
  -- the partner is unlinked in its turn, before the turn of the file
  have hfront : ∀ other ∈ [partner md.filename], other ∈ sasIn ∧ isHidden other = false := by
    intro other hother
    rw [List.mem_singleton.mp hother]
    exact ⟨hpartner, hvisible⟩
  obtain ⟨others, hfirst⟩ := exists_lists_append (List.nodup_singleton _) hfront
  obtain ⟨late, hlate, hname, hcorrupted⟩ := hsends _ hfirst
  rw [sendFiles, filter_of_lists hfirst, List.singleton_append] at hlate
  rcases mem_sent_sendEach_cons hlate with hnow | hlater
  · have hsame := (of_mem_sent_sendFile hnow).1
    exact partner_ne md.filename (hsame.symm.trans hname)
  · obtain ⟨digest, kept, -, hpass⟩ :=
      sendFile_of_canSend hpartner (canSend_succeedingCalls (hnames _ hpartner).2)
    rw [← hname] at hpass hlater
    have hgone : partner late.filename ∉
        (sendFile succeedingCalls sasIn (partner late.filename)).sasIn := by
      rw [hpass]
      exact Finset.notMem_erase _ kept
    rw [isCorrupted_eq_false_of_partner_not_mem hlater hgone] at hcorrupted
    cases hcorrupted

end Keysas.In
