import Keysas.Runs.TracedProgram
import Keysas.Rust.Text
import Keysas.Store.KeyedTable

/-!
# Moving the sanitized files to a signed device

A signed device is mounted on a temporary directory, and `moveFilesOut` moves the files of the
output directory there, one entry after the other. A file goes to the name without diacritics, and
is removed from the output directory after the copy, whether the copy succeeded or not. A failing
copy unmounts the device, and what is copied afterwards goes into the directory under the mount.

`LosesNothing` says what a move may not do: a file that is gone is on the device in full, a file
whose copy failed is still there, and no two files were written to one name. `attempts` are the
copies that the loop gets to, by the answers of the calls alone, and `losesNothing_iff` says by them
when nothing is lost.
-/

set_option autoImplicit false
set_option relaxedAutoImplicit false

namespace Keysas.Io

open Runs RustStd Store

/-! ### Directories and calls -/

/-- An entry of the output directory. -/
inductive OutNode where
  | file (content : List UInt8)
  | directory
  deriving DecidableEq

/-- What `fs::copy` does. -/
inductive CopyOutcome where
  | copied
  /-- It fails, after it has written a part of the file, if it got to create one. -/
  | failed (written : Option (List UInt8))
  deriving DecidableEq

/-- The copy wrote something under the destination. -/
def CopyOutcome.isWritten : CopyOutcome → Bool
  | .failed none => false
  | _ => true

/-- The answers of the calls about one entry of the output directory. -/
structure EntryCalls where
  /-- Whether the entry can be read from the directory. -/
  entry : Bool
  copy : CopyOutcome
  unmount : Bool
  removeFile : Bool

/-- The output directory, the files on the device and in the temporary directory, and whether the
device is mounted there. -/
structure MoveState where
  sasOut : Table OsString OutNode
  device : Table String (List UInt8)
  mountPoint : Table String (List UInt8)
  mounted : Bool

/-- A call of `fs::copy`. -/
structure CopyCall where
  source : String
  destination : String
  outcome : CopyOutcome
  deriving DecidableEq

/-! ### Moving -/

/-- A file written under the path of the mount point. -/
def MoveState.write (state : MoveState) (name : String) (content : List UInt8) : MoveState :=
  if state.mounted then { state with device := state.device.insert name content }
  else { state with mountPoint := state.mountPoint.insert name content }

/-- The state after a copy: a copy that fails may leave a part of the file, and the device is
unmounted. -/
def MoveState.afterCopy (state : MoveState) (destination : String) (content : List UInt8)
    (calls : EntryCalls) : MoveState :=
  match calls.copy with
  | .copied => state.write destination content
  | .failed written =>
    let state := (written.map (state.write destination)).getD state
    if calls.unmount then { state with mounted := false } else state

variable (removeDiacritics : String → String)

/-- The body of the loop of `move_files_out`. The path that is read is made from the readable form
of the name. -/
def moveEntry (name : OsString) (calls : EntryCalls) : Program CopyCall MoveState Unit Unit := do
  Program.require calls.entry ()
  let state ← Program.get
  let fileName := name.toStringLossy
  let pathToWrite := removeDiacritics fileName
  match state.sasOut.lookup (.ofText fileName) with
  | none => Program.ofExcept (.error ())
  | some .directory => pure ()
  | some (.file content) =>
    Program.emit ⟨fileName, pathToWrite, calls.copy⟩
    Program.modify fun state ↦ state.afterCopy pathToWrite content calls
    Program.require calls.removeFile ()
    Program.modify fun state ↦ { state with sasOut := state.sasOut.erase (.ofText fileName) }

/-- The loop of `move_files_out`, over the entries in the order in which they are read. -/
def moveEntries : List (OsString × EntryCalls) → Program CopyCall MoveState Unit Unit
  | [] => pure ()
  | (name, calls) :: entries => do
    moveEntry removeDiacritics name calls
    moveEntries entries

/-- `move_files_out`. -/
def moveFilesOut (readDir : Bool) (entries : List (OsString × EntryCalls)) :
    Program CopyCall MoveState Unit Unit := do
  Program.require readDir ()
  moveEntries removeDiacritics entries

/-! ### The copies that are tried -/

/-- A copy that the loop gets to, and whether the removal after it succeeds. -/
structure Attempt where
  call : CopyCall
  removed : Bool
  deriving DecidableEq

/-- The copies that the loop gets to, by the names and the answers of the calls. It ends at an entry
that cannot be read or looked up, and at a file that cannot be removed. -/
def attempts : Table OsString OutNode → List (OsString × EntryCalls) → List Attempt
  | _, [] => []
  | sasOut, (name, calls) :: entries =>
    let fileName := name.toStringLossy
    if calls.entry then
      match sasOut.lookup (.ofText fileName) with
      | none => []
      | some .directory => attempts sasOut entries
      | some (.file _) =>
        ⟨⟨fileName, removeDiacritics fileName, calls.copy⟩, calls.removeFile⟩ ::
          if calls.removeFile then attempts (sasOut.erase (.ofText fileName)) entries else []
    else []

/-! ### The loop, copy by copy -/

section Loop

variable {removeDiacritics}

@[simp] theorem sasOut_write (state : MoveState) (name : String) (content : List UInt8) :
    (state.write name content).sasOut = state.sasOut := by
  unfold MoveState.write
  split_ifs <;> rfl

@[simp] theorem sasOut_afterCopy (state : MoveState) (destination : String) (content : List UInt8)
    (calls : EntryCalls) : (state.afterCopy destination content calls).sasOut = state.sasOut := by
  unfold MoveState.afterCopy
  rcases calls.copy with _ | ⟨_ | written⟩
  · exact sasOut_write state destination content
  · split_ifs <;> rfl
  · show (if calls.unmount then
      { state.write destination written with mounted := false }
      else state.write destination written).sasOut = _
    split_ifs <;> exact sasOut_write state destination written

/-- The file of the path that a call reads. -/
def CopyCall.key (call : CopyCall) : OsString :=
  .ofText call.source

/-- The call of `fs::copy` for an entry. -/
def copyCallOf (removeDiacritics : String → String) (name : OsString) (calls : EntryCalls) :
    CopyCall :=
  ⟨name.toStringLossy, removeDiacritics name.toStringLossy, calls.copy⟩

/-- The directory without a file. -/
def MoveState.without (state : MoveState) (key : OsString) : MoveState :=
  { state with sasOut := state.sasOut.erase key }

/-- What a move does, copy by copy: it ends before a copy, or after one whose file cannot be
removed, or goes on without the file. -/
inductive Moves (removeDiacritics : String → String) :
    MoveState → Ending CopyCall MoveState Unit Unit → List Attempt → Prop
  | ended (state : MoveState) (value : Except Unit Unit) :
    Moves removeDiacritics state ⟨[], state, value⟩ []
  | kept (state : MoveState) (name : OsString) (content : List UInt8) (calls : EntryCalls)
    (hlookup : state.sasOut.lookup (copyCallOf removeDiacritics name calls).key =
      some (.file content)) :
    Moves removeDiacritics state
      ⟨[copyCallOf removeDiacritics name calls],
        state.afterCopy (removeDiacritics name.toStringLossy) content calls, .error ()⟩
      [⟨copyCallOf removeDiacritics name calls, false⟩]
  | removed (state : MoveState) (name : OsString) (content : List UInt8) (calls : EntryCalls)
    {ending : Ending CopyCall MoveState Unit Unit} {others : List Attempt}
    (hlookup : state.sasOut.lookup (copyCallOf removeDiacritics name calls).key =
      some (.file content))
    (hothers : Moves removeDiacritics
      ((state.afterCopy (removeDiacritics name.toStringLossy) content calls).without
        (copyCallOf removeDiacritics name calls).key) ending others) :
    Moves removeDiacritics state (ending.after [copyCallOf removeDiacritics name calls])
      (⟨copyCallOf removeDiacritics name calls, true⟩ :: others)

/-- The loop moves by its attempts. -/
theorem moves_moveEntries (entries : List (OsString × EntryCalls)) (state : MoveState) :
    Moves removeDiacritics state ((moveEntries removeDiacritics entries).run state)
      (attempts removeDiacritics state.sasOut entries) := by
  induction entries generalizing state with
  | nil => exact .ended state (.ok ())
  | cons entry entries ih =>
    obtain ⟨name, calls⟩ := entry
    rw [moveEntries, moveEntry, attempts, Program.run_bind, Program.run_require_bind]
    by_cases hentry : calls.entry
    swap
    · rw [if_neg hentry]
      simp only [hentry]
      exact .ended state (.error ())
    rw [if_pos hentry, Program.run_get_bind]
    simp only [hentry, if_true]
    rcases hlookup : state.sasOut.lookup (.ofText name.toStringLossy) with _ | content | _
    · simp only [hlookup]
      exact .ended state (.error ())
    · simp only [hlookup]
      cases hremove : calls.removeFile with
      | false => exact .kept state name content calls hlookup
      | true =>
        have hothers := ih
          ((state.afterCopy (removeDiacritics name.toStringLossy) content calls).without
            (copyCallOf removeDiacritics name calls).key)
        have hsasOut : ((state.afterCopy (removeDiacritics name.toStringLossy) content
            calls).without (copyCallOf removeDiacritics name calls).key).sasOut =
              state.sasOut.erase (copyCallOf removeDiacritics name calls).key := by
          rw [MoveState.without, sasOut_afterCopy]
        rw [hsasOut] at hothers
        exact .removed state name content calls hlookup hothers
    · simp only [hlookup]
      exact ih state

end Loop

/-! ### What a move does to the output directory -/

section Moves

variable {removeDiacritics} {state : MoveState} {ending : Ending CopyCall MoveState Unit Unit}
  {tried : List Attempt}

/-- The calls of `fs::copy` are those of the attempts. -/
theorem Moves.trace_eq (hmoves : Moves removeDiacritics state ending tried) :
    ending.trace = tried.map Attempt.call := by
  induction hmoves with
  | ended => rfl
  | kept => rfl
  | removed _ _ _ _ _ _ ih =>
    rw [Ending.trace_after, ih]
    rfl

theorem sasOut_without_afterCopy (destination : String) (content : List UInt8) (calls : EntryCalls)
    (key : OsString) :
    ((state.afterCopy destination content calls).without key).sasOut = state.sasOut.erase key := by
  rw [MoveState.without, sasOut_afterCopy]

/-- Every attempt is about a file that is there. -/
theorem Moves.exists_content (hmoves : Moves removeDiacritics state ending tried) :
    ∀ attempt ∈ tried, ∃ content, state.sasOut.lookup attempt.call.key = some (.file content) := by
  induction hmoves with
  | ended =>
    intro attempt hattempt
    cases hattempt
  | kept state name content calls hlookup =>
    intro attempt hattempt
    rw [List.mem_singleton.mp hattempt]
    exact ⟨content, hlookup⟩
  | removed state name content calls hlookup hothers ih =>
    intro attempt hattempt
    rcases List.mem_cons.mp hattempt with rfl | hlater
    · exact ⟨content, hlookup⟩
    · obtain ⟨other, hother⟩ := ih attempt hlater
      rw [sasOut_without_afterCopy, assigns_erase] at hother
      split_ifs at hother
      exact ⟨other, hother⟩

/-- After a removal the other attempts are about other files. -/
theorem key_ne_of_mem_attempts {key : OsString} {destination : String} {content : List UInt8}
    {calls : EntryCalls}
    (hmoves : Moves removeDiacritics
      ((state.afterCopy destination content calls).without key) ending tried)
    {attempt : Attempt} (hattempt : attempt ∈ tried) : attempt.call.key ≠ key := by
  intro hkey
  obtain ⟨other, hother⟩ := hmoves.exists_content attempt hattempt
  rw [sasOut_without_afterCopy, assigns_erase, if_pos hkey] at hother
  cases hother

/-- No file is copied twice. -/
theorem Moves.nodup_keys (hmoves : Moves removeDiacritics state ending tried) :
    (tried.map fun attempt ↦ attempt.call.key).Nodup := by
  induction hmoves with
  | ended => exact List.nodup_nil
  | kept => exact List.nodup_singleton _
  | removed state name content calls hlookup hothers ih =>
    refine List.nodup_cons.mpr ⟨fun hmem ↦ ?_, ih⟩
    obtain ⟨attempt, hattempt, hkey⟩ := List.mem_map.mp hmem
    exact key_ne_of_mem_attempts hothers hattempt hkey

/-- A file goes to its name without diacritics. -/
theorem Moves.destination_eq (hmoves : Moves removeDiacritics state ending tried) :
    ∀ attempt ∈ tried, attempt.call.destination = removeDiacritics attempt.call.source := by
  induction hmoves with
  | ended =>
    intro attempt hattempt
    cases hattempt
  | kept =>
    intro attempt hattempt
    rw [List.mem_singleton.mp hattempt]
    rfl
  | removed _ _ _ _ _ _ ih =>
    intro attempt hattempt
    rcases List.mem_cons.mp hattempt with rfl | hlater
    · rfl
    · exact ih attempt hlater

/-- The output directory after a move: the files that could be removed are gone. -/
theorem Moves.lookup_sasOut (hmoves : Moves removeDiacritics state ending tried) (key : OsString) :
    ending.state.sasOut.lookup key =
      if ∃ attempt ∈ tried, attempt.removed = true ∧ attempt.call.key = key then none
      else state.sasOut.lookup key := by
  induction hmoves with
  | ended => simp
  | kept state name content calls hlookup => simp
  | removed state name content calls hlookup hothers ih =>
    rw [Ending.state_after, ih, sasOut_without_afterCopy, assigns_erase]
    by_cases hkey : key = (copyCallOf removeDiacritics name calls).key
    · simp [hkey]
    · simp [hkey, Ne.symm hkey]

/-! ### What a move does to the device -/

/-- The copies that wrote something. -/
def writtenBy (calls : List CopyCall) : List CopyCall :=
  calls.filter fun call ↦ call.outcome.isWritten

/-- A file is removed only after it was copied, and no two copies write to one name. -/
structure Careful (tried : List Attempt) : Prop where
  removed : ∀ attempt ∈ tried, attempt.removed = true → attempt.call.outcome = .copied
  distinct : ((writtenBy (tried.map Attempt.call)).map CopyCall.destination).Nodup

theorem careful_of_cons {attempt : Attempt} (hcareful : Careful (attempt :: tried)) :
    Careful tried := by
  refine ⟨fun other hother ↦ hcareful.removed other (List.mem_cons_of_mem _ hother), ?_⟩
  refine hcareful.distinct.sublist (List.Sublist.map _ (List.Sublist.filter _ ?_))
  exact List.sublist_cons_self _ _

/-- A copy leaves what the device holds under the names that it does not write to. -/
theorem lookup_device_afterCopy {name destination : String} {content : List UInt8}
    {calls : EntryCalls} (hname : calls.copy.isWritten = true → name ≠ destination) :
    (state.afterCopy destination content calls).device.lookup name = state.device.lookup name := by
  have hwrite : ∀ written, name ≠ destination →
      (state.write destination written).device.lookup name = state.device.lookup name := by
    intro written hne
    unfold MoveState.write
    split_ifs
    · exact (assigns_insert state.device destination written).lookup_of_ne hne
    · rfl
  unfold MoveState.afterCopy
  rcases hcopy : calls.copy with _ | ⟨_ | written⟩
  · exact hwrite content (hname (by rw [hcopy]; rfl))
  · show (if calls.unmount then { state with mounted := false } else state).device.lookup name = _
    split_ifs <;> rfl
  · have hne := hname (by rw [hcopy]; rfl)
    show (if calls.unmount then { state.write destination written with mounted := false }
      else state.write destination written).device.lookup name = _
    split_ifs <;> exact hwrite written hne

/-- A move leaves what the device holds under the names that no copy writes to. -/
theorem Moves.lookup_device (hmoves : Moves removeDiacritics state ending tried) {name : String}
    (hname : ∀ call ∈ writtenBy (tried.map Attempt.call), name ≠ call.destination) :
    ending.state.device.lookup name = state.device.lookup name := by
  induction hmoves with
  | ended => rfl
  | kept state entryName content calls hlookup =>
    refine lookup_device_afterCopy fun hwritten ↦ ?_
    exact hname (copyCallOf removeDiacritics entryName calls)
      (List.mem_filter.mpr ⟨List.mem_singleton_self _, hwritten⟩)
  | removed state entryName content calls hlookup hothers ih =>
    rw [Ending.state_after, ih fun call hcall ↦ hname call ?_]
    · refine lookup_device_afterCopy fun hwritten ↦ ?_
      exact hname (copyCallOf removeDiacritics entryName calls)
        (List.mem_filter.mpr ⟨List.mem_cons_self, hwritten⟩)
    · obtain ⟨hmem, hwritten⟩ := List.mem_filter.mp hcall
      exact List.mem_filter.mpr ⟨List.mem_cons_of_mem _ hmem, hwritten⟩

/-- In a careful move the files that are removed are on the device. -/
theorem Moves.lookup_destination (hmoves : Moves removeDiacritics state ending tried)
    (hmounted : state.mounted = true) (hcareful : Careful tried) {attempt : Attempt}
    (hattempt : attempt ∈ tried) (hremoved : attempt.removed = true) :
    ∃ content, state.sasOut.lookup attempt.call.key = some (.file content) ∧
      ending.state.device.lookup attempt.call.destination = some content := by
  induction hmoves with
  | ended => cases hattempt
  | kept state name content calls hlookup =>
    rw [List.mem_singleton.mp hattempt] at hremoved
    cases hremoved
  | @removed state name content calls ending others hlookup hothers ih =>
    have hcopied : calls.copy = .copied := hcareful.removed _ List.mem_cons_self rfl
    have hstate : state.afterCopy (removeDiacritics name.toStringLossy) content calls =
        { state with
          device := state.device.insert (removeDiacritics name.toStringLossy) content } := by
      simp [MoveState.afterCopy, MoveState.write, hcopied, hmounted]
    rcases List.mem_cons.mp hattempt with rfl | hlater
    · refine ⟨content, hlookup, ?_⟩
      rw [Ending.state_after, hothers.lookup_device, hstate]
      · exact (assigns_insert state.device _ content).lookup_self
      · intro call hcall heq
        have hdistinct := hcareful.distinct
        rw [writtenBy, List.map_cons, List.filter_cons_of_pos (by
          show calls.copy.isWritten = true
          rw [hcopied]
          rfl), List.map_cons, List.nodup_cons] at hdistinct
        exact hdistinct.1 (List.mem_map.mpr ⟨call, hcall, heq.symm⟩)
    · obtain ⟨other, hother, hdevice⟩ := ih (by rw [hstate]; exact hmounted)
        (careful_of_cons hcareful) hlater
      rw [sasOut_without_afterCopy, assigns_erase, if_neg (key_ne_of_mem_attempts hothers hlater)]
        at hother
      exact ⟨other, hother, hdevice⟩

end Moves

/-! ### When nothing is lost -/

/-- A move loses nothing: a file that is gone from the output directory is on the device in full
under its name without diacritics, a file whose copy failed is still there, and no two copies wrote
to one name. -/
structure LosesNothing (removeDiacritics : String → String) (before : MoveState)
    (ending : Ending CopyCall MoveState Unit Unit) : Prop where
  onDevice : ∀ name content, before.sasOut.lookup name = some (.file content) →
    ending.state.sasOut.lookup name = none →
      ∃ text, name = .ofText text ∧
        ending.state.device.lookup (removeDiacritics text) = some content
  kept : ∀ call ∈ ending.trace, call.outcome ≠ .copied →
    ending.state.sasOut.lookup call.key = before.sasOut.lookup call.key
  distinct : ((writtenBy ending.trace).map CopyCall.destination).Nodup

variable {removeDiacritics} in
/-- A move loses nothing if and only if it is careful. Assumes: the device is mounted. -/
theorem Moves.losesNothing_iff {state : MoveState} {ending : Ending CopyCall MoveState Unit Unit}
    {tried : List Attempt} (hmoves : Moves removeDiacritics state ending tried)
    (hmounted : state.mounted = true) :
    LosesNothing removeDiacritics state ending ↔ Careful tried := by
  constructor
  · intro hloses
    refine ⟨fun attempt hattempt hremoved ↦ ?_, hmoves.trace_eq ▸ hloses.distinct⟩
    by_contra hfailed
    have hkept := hloses.kept attempt.call
      (hmoves.trace_eq ▸ List.mem_map_of_mem hattempt) hfailed
    obtain ⟨content, hcontent⟩ := hmoves.exists_content attempt hattempt
    rw [hmoves.lookup_sasOut, if_pos ⟨attempt, hattempt, hremoved, rfl⟩, hcontent] at hkept
    cases hkept
  · intro hcareful
    refine ⟨?_, ?_, hmoves.trace_eq ▸ hcareful.distinct⟩
    · intro name content hcontent hgone
      rw [hmoves.lookup_sasOut] at hgone
      split_ifs at hgone with hremoved
      · obtain ⟨attempt, hattempt, hremoved, rfl⟩ := hremoved
        obtain ⟨other, hother, hdevice⟩ :=
          hmoves.lookup_destination hmounted hcareful hattempt hremoved
        obtain rfl : content = other := by
          rw [hcontent] at hother
          exact OutNode.file.inj (Option.some.inj hother)
        exact ⟨attempt.call.source, rfl, hmoves.destination_eq attempt hattempt ▸ hdevice⟩
      · rw [hcontent] at hgone
        cases hgone
    · intro call hcall hfailed
      rw [hmoves.lookup_sasOut, if_neg]
      rintro ⟨attempt, hattempt, hremoved, hkey⟩
      rw [hmoves.trace_eq] at hcall
      obtain ⟨other, hother, rfl⟩ := List.mem_map.mp hcall
      obtain rfl := List.inj_on_of_nodup_map hmoves.nodup_keys hattempt hother hkey
      exact hfailed (hcareful.removed attempt hattempt hremoved)

/-- Moving the files out loses nothing if and only if, of the files that the loop gets to, none is
removed whose copy failed, and no two are written to one name. Assumes: the device is mounted. -/
theorem losesNothing_moveFilesOut_iff {state : MoveState} (hmounted : state.mounted = true)
    (readDir : Bool) (entries : List (OsString × EntryCalls)) :
    LosesNothing removeDiacritics state
        ((moveFilesOut removeDiacritics readDir entries).run state) ↔
      (readDir = true → Careful (attempts removeDiacritics state.sasOut entries)) := by
  rw [moveFilesOut, Program.run_require_bind]
  cases readDir with
  | false =>
    rw [if_neg Bool.false_ne_true]
    have hnothing := Moves.losesNothing_iff (Moves.ended state (.error ()) :
      Moves removeDiacritics state _ _) hmounted
    exact iff_of_true (hnothing.mpr ⟨fun _ hmem ↦ absurd hmem List.not_mem_nil, List.nodup_nil⟩)
      fun hfalse ↦ Bool.noConfusion hfalse
  | true =>
    rw [if_pos rfl, (moves_moveEntries entries state).losesNothing_iff hmounted]
    exact ⟨fun hcareful _ ↦ hcareful, fun hcareful ↦ hcareful rfl⟩

/-! ### Two files -/

/-- A removal of diacritics that knows one letter. -/
def removeAcute (text : String) : String :=
  String.ofList (text.toList.map fun character ↦ if character = 'é' then 'e' else character)

/-- Every call about an entry succeeds. -/
def succeedingEntry : EntryCalls where
  entry := true
  copy := .copied
  unmount := true
  removeFile := true

/-- An output directory with files under two names, and a device that is empty. -/
def twoFiles (first second : String) : MoveState where
  sasOut := ((∅ : Table OsString OutNode).insert (.ofText second) (.file [2])).insert
    (.ofText first) (.file [1])
  device := ∅
  mountPoint := ∅
  mounted := true

/-- The move of two files. -/
def moveTwo (first second : String) (firstCalls : EntryCalls) :
    Ending CopyCall MoveState Unit Unit :=
  (moveFilesOut removeAcute true
    [(.ofText first, firstCalls), (.ofText second, succeedingEntry)]).run (twoFiles first second)

/-- Two files under different names are moved. -/
theorem losesNothing_two :
    LosesNothing removeAcute (twoFiles "a.txt" "b.txt")
      (moveTwo "a.txt" "b.txt" succeedingEntry) :=
  (losesNothing_moveFilesOut_iff removeAcute rfl true _).mpr fun _ ↦
    ⟨by decide +kernel, by decide +kernel⟩

/-- When the first of two copies fails, both files are gone and the device is empty. When two names
become one, the second file is written over the first. -/
theorem not_losesNothing_two :
    ¬ LosesNothing removeAcute (twoFiles "a.txt" "b.txt")
        (moveTwo "a.txt" "b.txt" { succeedingEntry with copy := .failed none }) ∧
      (moveTwo "a.txt" "b.txt" { succeedingEntry with copy := .failed none }).state.sasOut.keys =
        [] ∧
      (moveTwo "a.txt" "b.txt" { succeedingEntry with copy := .failed none }).state.device.keys =
        [] ∧
      ¬ LosesNothing removeAcute (twoFiles "é.txt" "e.txt")
        (moveTwo "é.txt" "e.txt" succeedingEntry) := by
  refine ⟨fun hloses ↦ ?_, by decide +kernel, by decide +kernel, fun hloses ↦ ?_⟩
  · have hkept := hloses.kept ⟨"a.txt", "a.txt", .failed none⟩ (by decide +kernel) (by decide)
    exact absurd hkept (by decide +kernel)
  · exact absurd hloses.distinct (by decide +kernel)

end Keysas.Io
