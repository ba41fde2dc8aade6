import Mathlib.Data.Finset.Basic
import Mathlib.Data.Finset.Sort
import Keysas.Transit.Messages
import Keysas.Rust.Text

/-!
# A pass of the input daemon

`keysas-in` lists the files of `sas_in` and sends them one by one. A file that could not be copied
in full has a report beside it, with the extension `ioerror`, and is to be sent as corrupted.

A report is a file of the directory like any other: it is listed, sent and unlinked in its turn, and
when its turn comes before that of its file, the file is sent as sound. The order in which the
directory is read decides. `orderFree_iff` says exactly when it does not.

`SendCalls` is what the system calls about each file return, whatever the order.
-/

set_option autoImplicit false
set_option relaxedAutoImplicit false

namespace Keysas.In

open RustStd Transit

/-! ### Files of the directory -/

/-- The name of the report about a file. -/
def reportOf (name : String) : String :=
  appendExt "ioerror" name

/-- The file is a report by its extension. -/
def isReport (name : String) : Bool :=
  (stemAndExtension name).2 = some "ioerror"

/-- The names that start with a dot. -/
def isHidden (name : String) : Bool :=
  startsWith name "."

/-- `list_files`: the visible files of the directory, each once, in the order in which the directory
is read. -/
def Lists (sasIn : Finset String) (files : List String) : Prop :=
  files.Nodup ∧ ∀ name, name ∈ files ↔ name ∈ sasIn ∧ isHidden name = false

/-- `is_corrupted`: a report speaks about the file with its stem, any other file has a report or
not. -/
def isCorrupted (sasIn : Finset String) (name : String) : Bool :=
  if name ∈ sasIn then
    if isReport name then (stemAndExtension name).1 ∈ sasIn
    else reportOf name ∈ sasIn
  else true

/-! ### Sending -/

/-- What the system calls about a file return. -/
structure SendCalls where
  /-- The digest of the file, when it can be opened and read. -/
  digest : String → Option String
  timestamp : String → String
  /-- The report about the file can be removed. -/
  removesReport : String → Bool
  /-- The message for the file can be sent. -/
  sends : String → Bool
  /-- The file can be unlinked. -/
  unlinks : String → Bool

/-- The errors of a pass. -/
inductive SendError where
  | brokenPipe
  deriving DecidableEq

/-- What a pass has sent, the directory it leaves, and whether it got to its end. -/
structure Pass where
  sent : List InputMetadata
  sasIn : Finset String
  result : Except SendError Unit

/-- The metadata of a file with a digest. -/
def metadataOf (calls : SendCalls) (name digest : String) (corrupted : Bool) : InputMetadata where
  filename := name
  digest := digest
  timestamp := calls.timestamp name
  isCorrupted := corrupted

@[simp] theorem isCorrupted_metadataOf (calls : SendCalls) (name digest : String)
    (corrupted : Bool) : (metadataOf calls name digest corrupted).isCorrupted = corrupted := rfl

/-- The metadata for the message about a file, and the directory without the report of a corrupted
file. There are none when the file cannot be read or its metadata cannot be encoded. -/
def collectFile (calls : SendCalls) (sasIn : Finset String) (name : String) :
    Option InputMetadata × Finset String :=
  match if name ∈ sasIn then calls.digest name else none with
  | none => (none, sasIn)
  | some digest =>
    let md := metadataOf calls name digest (isCorrupted sasIn name)
    ((InputMetadata.codec.encode md).map fun _ ↦ md,
      if md.isCorrupted && calls.removesReport name then sasIn.erase (reportOf name) else sasIn)

/-- One turn of `send_files`. The message is sent even when it is empty, and the file is unlinked
after it was sent. -/
def sendFile (calls : SendCalls) (sasIn : Finset String) (name : String) : Pass :=
  let (md, sasIn) := collectFile calls sasIn name
  if calls.sends name then
    ⟨md.toList, if md.isSome && calls.unlinks name then sasIn.erase name else sasIn, .ok ()⟩
  else ⟨[], sasIn, .error .brokenPipe⟩

/-- The turns of `send_files`, up to a message that cannot be sent. -/
def sendEach (calls : SendCalls) : Finset String → List String → Pass
  | sasIn, [] => ⟨[], sasIn, .ok ()⟩
  | sasIn, name :: files =>
    let pass := sendFile calls sasIn name
    match pass.result with
    | .error error => ⟨pass.sent, pass.sasIn, .error error⟩
    | .ok () =>
      let later := sendEach calls pass.sasIn files
      ⟨pass.sent ++ later.sent, later.sasIn, later.result⟩

/-- `send_files`. -/
def sendFiles (calls : SendCalls) (sasIn : Finset String) (files : List String) : Pass :=
  sendEach calls sasIn (files.filter fun name ↦ !isHidden name)

/-! ### One turn -/

theorem reportOf_injective : Function.Injective reportOf := by
  intro first second heq
  have hlists := congrArg String.toList heq
  simp only [reportOf, appendExt, String.toList_append, List.append_assoc,
    List.append_left_inj] at hlists
  exact String.toList_injective hlists

theorem length_lt_reportOf (name : String) : name.length < (reportOf name).length := by
  have hext : (".".length, "ioerror".length) = (1, 7) := rfl
  obtain ⟨hdot, hioerror⟩ := Prod.mk.inj hext
  simp only [reportOf, appendExt, String.length_append, hdot, hioerror]
  omega

theorem ne_reportOf (name : String) : name ≠ reportOf name := by
  intro heq
  have hlength := length_lt_reportOf name
  rw [← heq] at hlength
  exact lt_irrefl _ hlength

/-- The message about a file can be encoded and sent. The flag of the metadata does not matter. -/
def canSend (calls : SendCalls) (name : String) : Bool :=
  (calls.digest name).any (fun digest ↦
    (InputMetadata.codec.encode (metadataOf calls name digest false)).isSome) && calls.sends name

theorem isSome_encode_metadataOf (calls : SendCalls) (name digest : String) (corrupted : Bool) :
    (InputMetadata.codec.encode (metadataOf calls name digest corrupted)).isSome =
      (InputMetadata.codec.encode (metadataOf calls name digest false)).isSome := by
  simp only [InputMetadata.codec, metadataOf, Wire.PrefixCodec.imap, Wire.PrefixCodec.pair,
    Wire.Bincode.bool, Wire.PrefixCodec.byte, Option.map_some]
  rcases Wire.Bincode.string.encode name with _ | front
  · rfl
  rcases Wire.Bincode.string.encode digest with _ | middle
  · rfl
  rcases Wire.Bincode.string.encode (calls.timestamp name) with _ | back
  · rfl
  · rfl

/-- What a turn does. The report about the file may go. Then the file is not there or cannot be
sent, or the message about it is sent with its flag before the turn, and it is unlinked when it can
be. -/
theorem sendFile_cases (calls : SendCalls) (sasIn : Finset String) (name : String) :
    ∃ kept, (kept = sasIn ∨ kept = sasIn.erase (reportOf name)) ∧
      (((name ∈ sasIn → canSend calls name = false) ∧ (sendFile calls sasIn name).sent = [] ∧
          (sendFile calls sasIn name).sasIn = kept) ∨
        ∃ digest, name ∈ sasIn ∧ canSend calls name ∧
          sendFile calls sasIn name =
            ⟨[metadataOf calls name digest (isCorrupted sasIn name)],
              if calls.unlinks name then kept.erase name else kept, .ok ()⟩) := by
  by_cases hmem : name ∈ sasIn
  swap
  · refine ⟨sasIn, .inl rfl, .inl ⟨fun hfalse ↦ absurd hfalse hmem, ?_⟩⟩
    by_cases hsends : calls.sends name <;> simp [sendFile, collectFile, hmem, hsends]
  rcases hdigest : calls.digest name with _ | digest
  · refine ⟨sasIn, .inl rfl, .inl ⟨fun _ ↦ by simp [canSend, hdigest], ?_⟩⟩
    by_cases hsends : calls.sends name <;> simp [sendFile, collectFile, hmem, hdigest, hsends]
  refine ⟨if isCorrupted sasIn name && calls.removesReport name then sasIn.erase (reportOf name)
    else sasIn, ?_, ?_⟩
  · by_cases hremoves : isCorrupted sasIn name && calls.removesReport name
    · exact .inr (if_pos hremoves)
    · exact .inl (if_neg hremoves)
  have hflag := isSome_encode_metadataOf calls name digest (isCorrupted sasIn name)
  by_cases hsends : calls.sends name
  swap
  · exact .inl ⟨fun _ ↦ by simp [canSend, hsends],
      by simp [sendFile, collectFile, hmem, hdigest, hsends]⟩
  rcases hencode : InputMetadata.codec.encode
    (metadataOf calls name digest (isCorrupted sasIn name)) with _ | bytes
  · rw [hencode, Option.isSome_none] at hflag
    exact .inl ⟨fun _ ↦ by simp [canSend, hdigest, ← hflag],
      by simp [sendFile, collectFile, hmem, hdigest, hsends, hencode]⟩
  · rw [hencode, Option.isSome_some] at hflag
    refine .inr ⟨digest, hmem, ?_, ?_⟩
    · simp [canSend, hdigest, ← hflag, hsends]
    · simp [sendFile, collectFile, hmem, hdigest, hsends, hencode]

/-- A file that stays in the directory during a turn: it is not the report about the file of the
turn, and if it is that file then it cannot be sent or unlinked. -/
theorem mem_sasIn_sendFile {calls : SendCalls} {sasIn : Finset String} {name other : String}
    (hother : other ∈ sasIn) (hreport : other ≠ reportOf name)
    (hkept : other = name → canSend calls name = false ∨ calls.unlinks name = false) :
    other ∈ (sendFile calls sasIn name).sasIn := by
  obtain ⟨kept, hwhich, hpass⟩ := sendFile_cases calls sasIn name
  have hmem : other ∈ kept := by
    rcases hwhich with rfl | rfl
    · exact hother
    · exact Finset.mem_erase.mpr ⟨hreport, hother⟩
  rcases hpass with ⟨-, -, hsasIn⟩ | ⟨digest, -, hsend, hpass⟩
  · rwa [hsasIn]
  rw [hpass]
  by_cases hunlinks : calls.unlinks name
  · have hne : other ≠ name := by
      intro heq
      rcases hkept heq with hnot | hnot
      · exact Bool.noConfusion (hsend.symm.trans hnot)
      · exact Bool.noConfusion (hunlinks.symm.trans hnot)
    simp [hunlinks, hne, hmem]
  · simpa [hunlinks] using hmem

theorem sasIn_sendFile_subset (calls : SendCalls) (sasIn : Finset String) (name : String) :
    (sendFile calls sasIn name).sasIn ⊆ sasIn := by
  obtain ⟨kept, hwhich, hpass⟩ := sendFile_cases calls sasIn name
  have hsubset : kept ⊆ sasIn := by
    rcases hwhich with rfl | rfl
    · exact Finset.Subset.refl _
    · exact Finset.erase_subset _ _
  rcases hpass with ⟨-, -, hsasIn⟩ | ⟨digest, -, -, hpass⟩
  · rwa [hsasIn]
  rw [hpass]
  by_cases hunlinks : calls.unlinks name
  · simpa [hunlinks] using (Finset.erase_subset _ _).trans hsubset
  · simpa [hunlinks] using hsubset

/-- A message of a turn is about the file of the turn, and has the flag of the file in the directory
before it. -/
theorem of_mem_sent_sendFile {calls : SendCalls} {sasIn : Finset String} {name : String}
    {md : InputMetadata} (hsent : md ∈ (sendFile calls sasIn name).sent) :
    md.filename = name ∧ name ∈ sasIn ∧ canSend calls name ∧
      md.isCorrupted = isCorrupted sasIn name := by
  obtain ⟨kept, -, ⟨-, hnone, -⟩ | ⟨digest, hmem, hsend, hpass⟩⟩ := sendFile_cases calls sasIn name
  · rw [hnone] at hsent
    cases hsent
  · rw [hpass] at hsent
    obtain rfl := List.mem_singleton.mp hsent
    exact ⟨rfl, hmem, hsend, rfl⟩

/-! ### A pass -/

section Pass

variable {calls : SendCalls} {sasIn : Finset String} {files : List String} {md : InputMetadata}

/-- What a pass sends is sent in its first turn, or after it. -/
theorem mem_sent_sendEach_cons {name : String}
    (hsent : md ∈ (sendEach calls sasIn (name :: files)).sent) :
    md ∈ (sendFile calls sasIn name).sent ∨
      md ∈ (sendEach calls (sendFile calls sasIn name).sasIn files).sent := by
  rw [sendEach] at hsent
  rcases hresult : (sendFile calls sasIn name).result with error | ⟨⟩
  · simp only [hresult] at hsent
    exact .inl hsent
  · simp only [hresult] at hsent
    exact List.mem_append.mp hsent

/-- A message of a pass is about a file of the list and the directory that can be sent. -/
theorem of_mem_sent_sendEach (hsent : md ∈ (sendEach calls sasIn files).sent) :
    md.filename ∈ files ∧ md.filename ∈ sasIn ∧ canSend calls md.filename := by
  induction files generalizing sasIn with
  | nil => cases hsent
  | cons name files ih =>
    rcases mem_sent_sendEach_cons hsent with hnow | hlater
    · obtain ⟨rfl, hmem, hsend, -⟩ := of_mem_sent_sendFile hnow
      exact ⟨List.mem_cons_self, hmem, hsend⟩
    · obtain ⟨hfiles, hmem, hsend⟩ := ih hlater
      exact ⟨List.mem_cons_of_mem _ hfiles, sasIn_sendFile_subset _ _ _ hmem, hsend⟩

/-- A file without a report is sent as sound. -/
theorem isCorrupted_eq_false_of_mem_sent (hsent : md ∈ (sendEach calls sasIn files).sent)
    (hdata : isReport md.filename = false) (hreport : reportOf md.filename ∉ sasIn) :
    md.isCorrupted = false := by
  induction files generalizing sasIn with
  | nil => cases hsent
  | cons name files ih =>
    rcases mem_sent_sendEach_cons hsent with hnow | hlater
    · obtain ⟨rfl, hmem, -, hflag⟩ := of_mem_sent_sendFile hnow
      rw [hflag, isCorrupted, if_pos hmem, hdata]
      simpa using hreport
    · exact ih hlater fun hkept ↦ hreport (sasIn_sendFile_subset _ _ _ hkept)

/-- A file with a report is sent as corrupted. Assumes: the report is not a file of the list that
can be sent and unlinked. -/
theorem isCorrupted_of_mem_sent (hsent : md ∈ (sendEach calls sasIn files).sent)
    (hnodup : files.Nodup) (hdata : isReport md.filename = false)
    (hreport : reportOf md.filename ∈ sasIn)
    (hkept : reportOf md.filename ∈ files →
      canSend calls (reportOf md.filename) = false ∨
        calls.unlinks (reportOf md.filename) = false) :
    md.isCorrupted = true := by
  induction files generalizing sasIn with
  | nil => cases hsent
  | cons name files ih =>
    obtain ⟨hname, hnodup⟩ := List.nodup_cons.mp hnodup
    rcases mem_sent_sendEach_cons hsent with hnow | hlater
    · obtain ⟨rfl, hmem, -, hflag⟩ := of_mem_sent_sendFile hnow
      rw [hflag, isCorrupted, if_pos hmem, hdata]
      simpa using hreport
    · have hother : reportOf md.filename ≠ reportOf name := by
        intro heq
        rw [← reportOf_injective heq] at hname
        exact hname (of_mem_sent_sendEach hlater).1
      refine ih hlater hnodup (mem_sasIn_sendFile hreport hother ?_) ?_
      · rintro rfl
        exact hkept List.mem_cons_self
      · exact fun hmem ↦ hkept (List.mem_cons_of_mem _ hmem)

end Pass

/-! ### The order of the listing -/

/-- One pass over the directory gives each data file the same flag whatever the order of the
listing, and a data file with a report is sent as corrupted. -/
structure OrderFree (calls : SendCalls) (sasIn : Finset String) : Prop where
  same : ∀ first second, Lists sasIn first → Lists sasIn second →
    ∀ md ∈ (sendFiles calls sasIn first).sent, ∀ other ∈ (sendFiles calls sasIn second).sent,
      md.filename = other.filename → isReport md.filename = false →
        md.isCorrupted = other.isCorrupted
  corrupted : ∀ files, Lists sasIn files → ∀ md ∈ (sendFiles calls sasIn files).sent,
    isReport md.filename = false → reportOf md.filename ∈ sasIn → md.isCorrupted = true

/-- A data file and the report about it are both listed and can be sent, and the report can be
unlinked. -/
structure ReportGoesFirst (calls : SendCalls) (sasIn : Finset String) (name : String) : Prop where
  data : isReport name = false
  mem : name ∈ sasIn
  visible : isHidden name = false
  canSend : canSend calls name
  report_mem : reportOf name ∈ sasIn
  report_visible : isHidden (reportOf name) = false
  report_canSend : In.canSend calls (reportOf name)
  report_unlinks : calls.unlinks (reportOf name)

theorem filter_of_lists {sasIn : Finset String} {files : List String} (hlists : Lists sasIn files) :
    files.filter (fun name ↦ !isHidden name) = files := by
  refine List.filter_eq_self.mpr fun name hname ↦ ?_
  simp [((hlists.2 name).mp hname).2]

/-- A directory may be read in any order. Assumes: what comes first is there and visible. -/
theorem exists_lists_append {sasIn : Finset String} {front : List String} (hnodup : front.Nodup)
    (hfront : ∀ name ∈ front, name ∈ sasIn ∧ isHidden name = false) :
    ∃ others, Lists sasIn (front ++ others) := by
  let rest := (sasIn.filter fun name ↦ isHidden name = false) \ front.toFinset
  refine ⟨rest.toList, List.nodup_append'.mpr ⟨hnodup, rest.nodup_toList, ?_⟩, fun name ↦ ?_⟩
  · intro name hname hrest
    simp [rest, hname] at hrest
  · by_cases hname : name ∈ front
    · simp [hname, hfront name hname]
    · simp [rest, hname]

/-- A turn about a file that is there and can be sent. -/
theorem sendFile_of_canSend {calls : SendCalls} {sasIn : Finset String} {name : String}
    (hmem : name ∈ sasIn) (hsend : canSend calls name) :
    ∃ digest kept, (kept = sasIn ∨ kept = sasIn.erase (reportOf name)) ∧
      sendFile calls sasIn name =
        ⟨[metadataOf calls name digest (isCorrupted sasIn name)],
          if calls.unlinks name then kept.erase name else kept, .ok ()⟩ := by
  obtain ⟨kept, hwhich, ⟨hnot, -, -⟩ | ⟨digest, -, -, hpass⟩⟩ := sendFile_cases calls sasIn name
  · exact Bool.noConfusion (hsend.symm.trans (hnot hmem))
  · exact ⟨digest, kept, hwhich, hpass⟩

/-- When the turn of the report comes first, the data file is sent as sound. -/
theorem exists_sound_of_reportGoesFirst {calls : SendCalls} {sasIn : Finset String} {name : String}
    (hfirst : ReportGoesFirst calls sasIn name) (files : List String) :
    ∃ md ∈ (sendEach calls sasIn (reportOf name :: name :: files)).sent,
      md.filename = name ∧ md.isCorrupted = false := by
  obtain ⟨reportDigest, kept, hwhich, hreport⟩ :=
    sendFile_of_canSend hfirst.report_mem hfirst.report_canSend
  rw [if_pos hfirst.report_unlinks] at hreport
  have hmem : name ∈ kept.erase (reportOf name) := by
    refine Finset.mem_erase.mpr ⟨ne_reportOf name, ?_⟩
    rcases hwhich with rfl | rfl
    · exact hfirst.mem
    · refine Finset.mem_erase.mpr ⟨fun heq ↦ ?_, hfirst.mem⟩
      have hlength := (length_lt_reportOf name).trans (length_lt_reportOf (reportOf name))
      rw [← heq] at hlength
      exact lt_irrefl _ hlength
  obtain ⟨digest, _, _, hdata⟩ := sendFile_of_canSend hmem hfirst.canSend
  refine ⟨metadataOf calls name digest (isCorrupted (kept.erase (reportOf name)) name), ?_, rfl, ?_⟩
  · simp [sendEach, hreport, hdata]
  · simp [isCorrupted, hmem, hfirst.data]

/-- A data file whose report can go first is sent as sound in some order. -/
theorem not_orderFree_of_reportGoesFirst {calls : SendCalls} {sasIn : Finset String} {name : String}
    (hfirst : ReportGoesFirst calls sasIn name) : ¬ OrderFree calls sasIn := by
  intro hfree
  obtain ⟨others, hlists⟩ : ∃ others, Lists sasIn ([reportOf name, name] ++ others) := by
    refine exists_lists_append (by simpa using (ne_reportOf name).symm) fun other hother ↦ ?_
    rcases List.mem_cons.mp hother with rfl | hother
    · exact ⟨hfirst.report_mem, hfirst.report_visible⟩
    · rw [List.mem_singleton.mp hother]
      exact ⟨hfirst.mem, hfirst.visible⟩
  have hpass : Lists sasIn (reportOf name :: name :: others) := hlists
  obtain ⟨md, hsent, rfl, hsound⟩ := exists_sound_of_reportGoesFirst hfirst others
  rw [← filter_of_lists hpass] at hsent
  have hcorrupted := hfree.corrupted _ hpass md hsent hfirst.data hfirst.report_mem
  exact Bool.noConfusion (hcorrupted.symm.trans hsound)

/-- The order of the listing does not matter if and only if no report goes before its data file. -/
theorem orderFree_iff (calls : SendCalls) (sasIn : Finset String) :
    OrderFree calls sasIn ↔ ∀ name, ¬ ReportGoesFirst calls sasIn name := by
  constructor
  · exact fun hfree name hfirst ↦ not_orderFree_of_reportGoesFirst hfirst hfree
  · intro hnone
    have hcorrupted : ∀ files, Lists sasIn files → ∀ md ∈ (sendFiles calls sasIn files).sent,
        isReport md.filename = false → reportOf md.filename ∈ sasIn → md.isCorrupted = true := by
      intro files hlists md hsent hdata hreport
      rw [sendFiles, filter_of_lists hlists] at hsent
      obtain ⟨hfiles, hmem, hsend⟩ := of_mem_sent_sendEach hsent
      refine isCorrupted_of_mem_sent hsent hlists.1 hdata hreport fun hlisted ↦ ?_
      by_contra hgoes
      rw [not_or, Bool.not_eq_false, Bool.not_eq_false] at hgoes
      exact hnone md.filename ⟨hdata, hmem, ((hlists.2 _).mp hfiles).2, hsend, hreport,
        ((hlists.2 _).mp hlisted).2, hgoes.1, hgoes.2⟩
    refine ⟨?_, hcorrupted⟩
    intro first second hlistsFirst hlistsSecond md hsent other hotherSent hname hdata
    by_cases hreport : reportOf md.filename ∈ sasIn
    · rw [hcorrupted first hlistsFirst md hsent hdata hreport, hcorrupted second hlistsSecond other
        hotherSent (hname ▸ hdata) (hname ▸ hreport)]
    · rw [sendFiles, filter_of_lists hlistsFirst] at hsent
      rw [sendFiles, filter_of_lists hlistsSecond] at hotherSent
      rw [isCorrupted_eq_false_of_mem_sent hsent hdata hreport,
        isCorrupted_eq_false_of_mem_sent hotherSent (hname ▸ hdata) (hname ▸ hreport)]

/-- Every call succeeds. -/
def succeedingCalls : SendCalls where
  digest _ := some ""
  timestamp _ := ""
  removesReport _ := true
  sends _ := true
  unlinks _ := true

/-- The order of the listing matters for a directory with a file and the report about it. -/
theorem not_forall_orderFree :
    ¬ ∀ (calls : SendCalls) (sasIn : Finset String), OrderFree calls sasIn := by
  intro hfree
  have hfirst : ReportGoesFirst succeedingCalls {"a", "a.ioerror"} "a" :=
    ⟨by decide, by decide, by decide, by decide, by decide, by decide, by decide, by decide⟩
  exact not_orderFree_of_reportGoesFirst hfirst (hfree _ _)

end Keysas.In
