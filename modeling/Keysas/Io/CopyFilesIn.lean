import Keysas.Runs.HistoryRun
import Keysas.Runs.WorkerPool
import Keysas.Rust.Text
import Keysas.Store.WriteLog
import Keysas.Wire.DiskImage

/-!
# Copying an unsigned device into the station

`copy_files_in` walks over the tree of a mounted device and starts a thread for each regular file.
A thread copies its file into a directory of temporary files and renames the copy into the input
directory, both under the name of the file with question marks and diacritics replaced: the
directories of the device are not kept. A thread whose copy fails leaves a report and detaches the
mount, under the other threads and the walk.

`advance` is one step of a thread, and `copyStep` one step of the walk or of some thread, in any
order. Files are written by descriptors, so that a name can be renamed or opened again while another
thread writes: an `Inode` is what a name stands for.

`Proceeds` lists what one move of a copy can do and what it needs for that, with `Advances` for the
moves of a thread. Every invariant of a copy is shown along them.
-/

set_option autoImplicit false
set_option relaxedAutoImplicit false

namespace Keysas.Io

open Runs RustStd Store

/-! ### The device -/

/-- The entries of a directory of the device, in the order in which they are read. -/
inductive Tree where
  | nil
  | file (name : OsString) (content : List UInt8) (rest : Tree)
  /-- A symbolic link or another entry that is not a regular file. -/
  | other (name : OsString) (rest : Tree)
  /-- A directory, which may not be readable. -/
  | directory (name : OsString) (readable : Bool) (inside rest : Tree)

/-- A regular file of the device. -/
structure Source where
  path : OsString
  name : OsString
  content : List UInt8
  deriving DecidableEq

/-- The path of an entry. -/
def entryPath (directory name : OsString) : OsString :=
  ⟨directory.bytes ++ 0x2F :: name.bytes⟩

/-- The regular files of a tree. -/
def Tree.files (path : OsString) : Tree → List Source
  | .nil => []
  | .file name content rest => ⟨entryPath path name, name, content⟩ :: rest.files path
  | .other _ rest => rest.files path
  | .directory name _ inside rest => inside.files (entryPath path name) ++ rest.files path

/-- What the walk gives: one entry for each regular file, and one without a file for every other
entry. A directory that cannot be read gives an error, which is left out. -/
def Tree.walk (path : OsString) : Tree → List (Option Source)
  | .nil => []
  | .file name content rest => some ⟨entryPath path name, name, content⟩ :: rest.walk path
  | .other _ rest => none :: rest.walk path
  | .directory name readable inside rest =>
    none :: ((if readable then inside.walk (entryPath path name) else []) ++ rest.walk path)

/-! ### Threads and files -/

/-- A file in the directory of temporary files: one that was left there, or one that a thread
created. -/
inductive Inode where
  | leftover (name : String)
  | made (index : ℕ)
  deriving DecidableEq

/-- A file in the input directory. -/
inductive SasInFile where
  /-- A file that was there before the copy. -/
  | earlier
  | lock
  | report
  /-- A file that a thread has renamed from the directory of temporary files. -/
  | moved (index : ℕ) (inode : Inode)
  deriving DecidableEq

/-- What stands at the path of the directory of temporary files. -/
inductive TmpDir where
  | absent
  | directory
  | file
  deriving DecidableEq

/-- How a thread ended. -/
inductive ThreadEnd where
  /-- Before the copy: its path is not UTF-8, there is no temporary directory, or its file was not
  found. -/
  | notRead
  /-- The copy failed. -/
  | failed
  | notRenamed
  | placed
  deriving DecidableEq

/-- Where a thread stands. -/
inductive Stage where
  | started
  | lookup
  | opening
  | copying (inode : Inode) (offset : ℕ)
  | moving
  | reporting
  | unmounting
  | done (result : ThreadEnd)
  deriving DecidableEq

/-- A thread and its file. -/
structure Worker where
  source : Source
  stage : Stage
  deriving DecidableEq

/-- What the threads share. -/
structure Shared where
  /-- The device is mounted. -/
  mounted : Bool
  tmpDir : TmpDir
  /-- The names in the directory of temporary files. -/
  tmp : Table String Inode
  data : Inode → List UInt8
  /-- The names in the input directory. -/
  sasIn : Table String SasInFile

/-- What `copy_files_in` returns. -/
inductive CopyResult where
  | ok
  | lockNotRemoved
  | panicked
  deriving DecidableEq

/-- A copy in progress. -/
structure CopyState where
  /-- What the walk still has to give. -/
  toWalk : List (Option Source)
  workers : List Worker
  shared : Shared
  /-- The walk has panicked. -/
  panicked : Bool
  result : Option CopyResult

/-- The answers of the calls, for each thread by its number. -/
structure CopyCalls where
  createTmp : Bool
  /-- Whether the copy of a thread succeeds when its file and its directory are there and the file
  can have its new name. -/
  copies : ℕ → Bool
  renames : ℕ → Bool
  createReport : ℕ → Bool
  /-- The text that is written into a report. -/
  reportText : ℕ → List UInt8
  unmounts : ℕ → Bool
  removeLock : Bool

/-- The moves of a copy. -/
inductive Move where
  /-- The walk goes on to its next entry. -/
  | walk
  /-- A thread goes on. When it copies, it copies one byte and a number of further ones, as far as
  its file has them. -/
  | work (index further : ℕ)
  /-- The copy of a thread fails now, if it fails at all. -/
  | fail (index : ℕ)
  /-- The scope of the threads ends. -/
  | finish
  deriving DecidableEq

/-- What one move asks a thread to do. -/
inductive Turn where
  | proceed (further : ℕ)
  | fail
  deriving DecidableEq

/-! ### One step of a thread -/

/-- The file system takes the name for a file: it is not empty or one of a directory, and not too
long. -/
def isFileName (name : String) : Bool :=
  name ≠ "" && name ≠ "." && name ≠ ".." && '/' ∉ name.toList && name.utf8ByteSize ≤ 255

/-- A name that a file has. -/
structure FileName where
  text : String
  valid : isFileName text = true

/-- The name of the lock in the input directory. -/
def lockName : String := ".lock"

/-- The name under which a file is written: question marks are replaced, then diacritics. -/
def cleanedName (removeDiacritics : String → String) (name : OsString) : String :=
  removeDiacritics (String.ofList
    (name.toStringLossy.toList.map fun character ↦ if character = '?' then '-' else character))

/-- The name of the report about a file. -/
def ioerrorName (name : String) : String :=
  name ++ ".ioerror"

/-- Bytes written into a file. -/
def Shared.write (shared : Shared) (inode : Inode) (content : List UInt8) : Shared :=
  { shared with data := Function.update shared.data inode content }

/-- `File::create` of a report: a file that was moved to the name is overwritten. -/
def Shared.createReport (shared : Shared) (name : String) (text : List UInt8) : Shared :=
  match shared.sasIn.lookup name with
  | some (.moved _ inode) => shared.write inode text
  | _ => { shared with sasIn := shared.sasIn.insert name .report }

section Advance

variable (removeDiacritics : String → String) (calls : CopyCalls)

/-- One step of a thread. -/
def advance (index : ℕ) (source : Source) (turn : Turn) :
    Stage → Shared → Stage × Shared
  | .started, shared =>
    if source.path.toStr.isNone then (.done .notRead, shared)
    else
      match shared.tmpDir with
      | .directory => (.lookup, shared)
      | .file => (.done .notRead, shared)
      | .absent =>
        (.lookup, if calls.createTmp then { shared with tmpDir := .directory } else shared)
  | .lookup, shared => (if shared.mounted then .opening else .done .notRead, shared)
  | .opening, shared =>
    let name := cleanedName removeDiacritics source.name
    if shared.mounted = false ∨ shared.tmpDir ≠ .directory ∨ isFileName name = false ∨
        (turn = .fail ∧ calls.copies index = false) then (.reporting, shared)
    else
      -- an existing file of the name is opened again and truncated
      let inode := (shared.tmp.lookup name).getD (.made index)
      (.copying inode 0, { shared.write inode [] with tmp := shared.tmp.insert name inode })
  | .copying inode offset, shared =>
    match turn with
    | .fail => (if calls.copies index then .copying inode offset else .reporting, shared)
    | .proceed further =>
      if offset < source.content.length then
        let chunk := (source.content.drop offset).take (further + 1)
        (.copying inode (offset + chunk.length),
          shared.write inode (Wire.writeAt offset chunk (shared.data inode)))
      else (if calls.copies index then .moving else .copying inode offset, shared)
  | .moving, shared =>
    let name := cleanedName removeDiacritics source.name
    match shared.tmp.lookup name with
    | none => (.done .notRenamed, shared)
    | some inode =>
      if calls.renames index then
        (.done .placed,
          { shared with
            tmp := shared.tmp.erase name
            sasIn := shared.sasIn.insert name (.moved index inode) })
      else (.done .notRenamed, shared)
  | .reporting, shared =>
    let report := ioerrorName (cleanedName removeDiacritics source.name)
    if calls.createReport index = true ∧ isFileName report = true then
      (.unmounting, shared.createReport report (calls.reportText index))
    else (.done .failed, shared)
  | .unmounting, shared =>
    (.done .failed, if calls.unmounts index then { shared with mounted := false } else shared)
  | .done result, shared => (.done result, shared)

/-! ### The whole copy -/

/-- A thread has come to its end. -/
def Worker.isDone (worker : Worker) : Bool :=
  match worker.stage with
  | .done _ => true
  | _ => false

theorem isDone_iff (worker : Worker) :
    worker.isDone = true ↔ ∃ result, worker.stage = .done result := by
  unfold Worker.isDone
  split
  · rename_i result hstage
    exact ⟨fun _ ↦ ⟨result, hstage⟩, fun _ ↦ rfl⟩
  · rename_i hstage
    exact ⟨Bool.noConfusion, fun ⟨result, hdone⟩ ↦ absurd hdone (hstage result)⟩

/-- A step of one thread. -/
def workerStep (state : CopyState) (index : ℕ) (turn : Turn) : CopyState :=
  match state.workers[index]? with
  | none => state
  | some worker =>
    let (stage, shared) :=
      advance removeDiacritics calls index worker.source turn worker.stage state.shared
    { state with workers := state.workers.set index ⟨worker.source, stage⟩, shared := shared }

/-- The walk goes on to its next entry, whose metadata are looked up by its path. -/
def walkStep (state : CopyState) : CopyState :=
  match state.toWalk with
  | [] => state
  | entry :: toWalk =>
    if state.panicked then state
    else if !state.shared.mounted then { state with panicked := true }
    else
      { state with
        toWalk := toWalk
        workers := state.workers ++ (entry.map fun source ↦ ⟨source, .started⟩).toList }

/-- The end of the scope, when the walk is over and the threads are joined. -/
def finishStep (state : CopyState) : CopyState :=
  if state.result = none ∧ (state.panicked = true ∨ state.toWalk = []) ∧
      ∀ worker ∈ state.workers, worker.isDone = true then
    if state.panicked then { state with result := some .panicked }
    else if (state.shared.sasIn.lookup lockName).isNone then { state with result := some .ok }
    else if calls.removeLock then
      { state with
        shared := { state.shared with sasIn := state.shared.sasIn.erase lockName }
        result := some .ok }
    else { state with result := some .lockNotRemoved }
  else state

/-- One move of a copy. -/
def copyStep (state : CopyState) (move : Move) : CopyState × Unit :=
  match move with
  | .walk => (walkStep state, ())
  | .work index further => (workerStep removeDiacritics calls state index (.proceed further), ())
  | .fail index => (workerStep removeDiacritics calls state index .fail, ())
  | .finish => (finishStep calls state, ())

end Advance

/-- The device and the directories of the station when a copy starts. -/
structure CopyStart where
  mountPoint : OsString
  tree : Tree
  tmpDir : TmpDir
  /-- The files that are left in the directory of temporary files. -/
  leftovers : List FileName
  /-- The files in the input directory. -/
  earlier : List FileName
  data : Inode → List UInt8

/-- The regular files that the walk gives. -/
def CopyStart.walked (start : CopyStart) : List Source :=
  (start.tree.walk start.mountPoint).reduceOption

/-- The regular files of the device. -/
def CopyStart.files (start : CopyStart) : List Source :=
  start.tree.files start.mountPoint

/-- The copy when the lock has been created. -/
def CopyStart.begin (start : CopyStart) : CopyState where
  toWalk := start.tree.walk start.mountPoint
  workers := []
  shared :=
    { mounted := true
      tmpDir := start.tmpDir
      tmp := replay ∅ (start.leftovers.map fun name ↦ (name.text, .leftover name.text))
      data := start.data
      sasIn :=
        (replay ∅ (start.earlier.map fun name ↦ (name.text, .earlier))).insert lockName .lock }
  panicked := false
  result := none

/-- The runs of a copy. -/
abbrev Copies (removeDiacritics : String → String) (calls : CopyCalls) (start : CopyStart) :
    List (Move × Unit) → CopyState → Prop :=
  Run (copyStep removeDiacritics calls) (fun _ _ _ ↦ True) start.begin

/-! ### What a step can do -/

section Steps

variable (removeDiacritics : String → String) (calls : CopyCalls)

/-- The steps of a thread, each with what it needs. -/
inductive Advances (index : ℕ) (source : Source) : Stage → Shared → Stage → Shared → Prop
  | stay (stage : Stage) (shared : Shared) : Advances index source stage shared stage shared
  | leave (stage : Stage) (shared : Shared) (hstage : stage = .started ∨ stage = .lookup)
    (hreason : source.path.toStr = none ∨ shared.tmpDir = .file ∨ shared.mounted = false) :
    Advances index source stage shared (.done .notRead) shared
  | prepare (shared : Shared) (tmpDir : TmpDir) (hpath : source.path.toStr.isSome = true)
    (htmpDir : (shared.tmpDir = .directory ∧ tmpDir = .directory) ∨
      (shared.tmpDir = .absent ∧ tmpDir = if calls.createTmp then .directory else .absent)) :
    Advances index source .started shared .lookup { shared with tmpDir := tmpDir }
  | find (shared : Shared) (hmounted : shared.mounted = true) :
    Advances index source .lookup shared .opening shared
  | create (shared : Shared) (inode : Inode) (hmounted : shared.mounted = true)
    (htmpDir : shared.tmpDir = .directory)
    (hname : isFileName (cleanedName removeDiacritics source.name) = true)
    (hinode : inode = (shared.tmp.lookup (cleanedName removeDiacritics source.name)).getD
      (.made index)) :
    Advances index source .opening shared (.copying inode 0)
      { shared.write inode [] with
        tmp := shared.tmp.insert (cleanedName removeDiacritics source.name) inode }
  | write (shared : Shared) (inode : Inode) (offset further : ℕ)
    (hoffset : offset < source.content.length) :
    Advances index source (.copying inode offset) shared
      (.copying inode (offset + ((source.content.drop offset).take (further + 1)).length))
      (shared.write inode
        (Wire.writeAt offset ((source.content.drop offset).take (further + 1)) (shared.data inode)))
  | copied (shared : Shared) (inode : Inode) (offset : ℕ)
    (hoffset : source.content.length ≤ offset) (hcopies : calls.copies index = true) :
    Advances index source (.copying inode offset) shared .moving shared
  | rename (shared : Shared) (inode : Inode) (hrenames : calls.renames index = true)
    (hinode : shared.tmp.lookup (cleanedName removeDiacritics source.name) = some inode) :
    Advances index source .moving shared (.done .placed)
      { shared with
        tmp := shared.tmp.erase (cleanedName removeDiacritics source.name)
        sasIn := shared.sasIn.insert (cleanedName removeDiacritics source.name)
          (.moved index inode) }
  | notRenamed (shared : Shared)
    (hreason : calls.renames index = false ∨
      shared.tmp.lookup (cleanedName removeDiacritics source.name) = none) :
    Advances index source .moving shared (.done .notRenamed) shared
  | fail (stage : Stage) (shared : Shared)
    (hstage : stage = .opening ∨ ∃ inode offset, stage = .copying inode offset)
    (hreason : calls.copies index = false ∨ (stage = .opening ∧ (shared.mounted = false ∨
      shared.tmpDir ≠ .directory ∨
        isFileName (cleanedName removeDiacritics source.name) = false))) :
    Advances index source stage shared .reporting shared
  | report (shared : Shared)
    (hname : isFileName (ioerrorName (cleanedName removeDiacritics source.name)) = true) :
    Advances index source .reporting shared .unmounting
      (shared.createReport (ioerrorName (cleanedName removeDiacritics source.name))
        (calls.reportText index))
  | noReport (shared : Shared) : Advances index source .reporting shared (.done .failed) shared
  | unmount (shared : Shared) (mounted : Bool) (hmounted : mounted = true → shared.mounted = true) :
    Advances index source .unmounting shared (.done .failed) { shared with mounted := mounted }

theorem advances_advance (index : ℕ) (source : Source) (turn : Turn) (stage : Stage)
    (shared : Shared) :
    Advances removeDiacritics calls index source stage shared
      (advance removeDiacritics calls index source turn stage shared).1
      (advance removeDiacritics calls index source turn stage shared).2 := by
  cases stage with
  | started =>
    rw [advance]
    by_cases hpath : source.path.toStr.isNone
    · rw [if_pos hpath]
      exact .leave _ shared (.inl rfl) (.inl (Option.isNone_iff_eq_none.mp hpath))
    rw [if_neg hpath]
    have hsome : source.path.toStr.isSome = true := by simpa [Option.isSome_iff_ne_none] using hpath
    rcases htmpDir : shared.tmpDir with _ | _ | _
    · cases hcreate : calls.createTmp with
      | true => exact .prepare shared .directory hsome (.inr ⟨htmpDir, by rw [hcreate]; rfl⟩)
      | false =>
        have hprepare : Advances removeDiacritics calls index source .started shared .lookup
            { shared with tmpDir := .absent } :=
          .prepare shared .absent hsome (.inr ⟨htmpDir, by rw [hcreate]; rfl⟩)
        rwa [← htmpDir] at hprepare
    · have hprepare : Advances removeDiacritics calls index source .started shared .lookup
          { shared with tmpDir := .directory } :=
        .prepare shared .directory hsome (.inl ⟨htmpDir, rfl⟩)
      rwa [← htmpDir] at hprepare
    · exact .leave _ shared (.inl rfl) (.inr (.inl htmpDir))
  | lookup =>
    rw [advance]
    cases hmounted : shared.mounted with
    | true => exact .find shared hmounted
    | false => exact .leave _ shared (.inr rfl) (.inr (.inr hmounted))
  | opening =>
    simp only [advance]
    split_ifs with hfails
    · refine .fail _ shared (.inl rfl) ?_
      rcases hfails with hmounted | htmpDir | hname | ⟨-, hcopies⟩
      · exact .inr ⟨rfl, .inl hmounted⟩
      · exact .inr ⟨rfl, .inr (.inl htmpDir)⟩
      · exact .inr ⟨rfl, .inr (.inr hname)⟩
      · exact .inl hcopies
    · simp only [not_or, not_not, Bool.not_eq_false] at hfails
      exact .create shared _ hfails.1 hfails.2.1 hfails.2.2.1 rfl
  | copying inode offset =>
    cases turn with
    | fail =>
      rw [advance]
      cases hcopies : calls.copies index with
      | true => exact .stay _ shared
      | false => exact .fail _ shared (.inr ⟨inode, offset, rfl⟩) (.inl hcopies)
    | proceed further =>
      rw [advance]
      by_cases hoffset : offset < source.content.length
      · simp only [hoffset, if_true]
        exact .write shared inode offset further hoffset
      · simp only [hoffset, if_false]
        cases hcopies : calls.copies index with
        | true => exact .copied shared inode offset (not_lt.mp hoffset) hcopies
        | false => exact .stay _ shared
  | moving =>
    simp only [advance]
    rcases hinode : shared.tmp.lookup (cleanedName removeDiacritics source.name) with _ | inode
    · exact .notRenamed shared (.inr hinode)
    · cases hrenames : calls.renames index with
      | true => exact .rename shared inode hrenames hinode
      | false => exact .notRenamed shared (.inl hrenames)
  | reporting =>
    simp only [advance]
    split_ifs with hreport
    · exact .report shared hreport.2
    · exact .noReport shared
  | unmounting =>
    rw [advance]
    cases hunmounts : calls.unmounts index with
    | true => exact .unmount shared false Bool.noConfusion
    | false => exact .unmount shared shared.mounted id
  | done result => exact .stay _ shared

/-- The moves of a copy, each with what it needs. -/
inductive Proceeds (state : CopyState) : CopyState → Prop
  | stay : Proceeds state state
  | start (source : Source) (toWalk : List (Option Source))
    (htoWalk : state.toWalk = some source :: toWalk) (hpanicked : state.panicked = false)
    (hmounted : state.shared.mounted = true) :
    Proceeds state { state with toWalk := toWalk, workers := state.workers ++ [⟨source, .started⟩] }
  | pass (toWalk : List (Option Source)) (htoWalk : state.toWalk = none :: toWalk)
    (hpanicked : state.panicked = false) :
    Proceeds state { state with toWalk := toWalk }
  | panic (htoWalk : state.toWalk ≠ []) (hpanicked : state.panicked = false)
    (hmounted : state.shared.mounted = false) :
    Proceeds state { state with panicked := true }
  | work (index : ℕ) (worker : Worker) (stage : Stage) (shared : Shared)
    (hworker : state.workers[index]? = some worker)
    (hadvances : Advances removeDiacritics calls index worker.source worker.stage state.shared
      stage shared) :
    Proceeds state
      { state with workers := state.workers.set index ⟨worker.source, stage⟩, shared := shared }
  | finish (result : CopyResult) (sasIn : Table String SasInFile)
    (hdone : ∀ worker ∈ state.workers, worker.isDone = true) (hresult : state.result = none)
    (hend : (result = .panicked ∧ state.panicked = true ∧ sasIn = state.shared.sasIn) ∨
      (state.toWalk = [] ∧ state.panicked = false ∧
        ((result = .ok ∧ state.shared.sasIn.lookup lockName = none ∧
            sasIn = state.shared.sasIn) ∨
          (result = .ok ∧ calls.removeLock = true ∧ sasIn = state.shared.sasIn.erase lockName) ∨
          (result = .lockNotRemoved ∧ calls.removeLock = false ∧ sasIn = state.shared.sasIn)))) :
    Proceeds state
      { state with shared := { state.shared with sasIn := sasIn }, result := some result }

theorem proceeds_workerStep (state : CopyState) (index : ℕ) (turn : Turn) :
    Proceeds removeDiacritics calls state
      (workerStep removeDiacritics calls state index turn) := by
  rw [workerStep]
  rcases hworker : state.workers[index]? with _ | worker
  · exact .stay
  · exact .work index worker _ _ hworker (advances_advance removeDiacritics calls index _ turn _ _)

theorem proceeds_walkStep (state : CopyState) :
    Proceeds removeDiacritics calls state (walkStep state) := by
  rw [walkStep]
  rcases htoWalk : state.toWalk with _ | ⟨entry, toWalk⟩
  · exact .stay
  simp only []
  split_ifs with hpanicked hmounted
  · exact .stay
  · rw [← htoWalk]
    exact .panic (by rw [htoWalk]; exact List.cons_ne_nil _ _) (by simpa using hpanicked)
      (by simpa using hmounted)
  cases entry with
  | none =>
    have hpass : Proceeds removeDiacritics calls state { state with toWalk := toWalk } :=
      .pass toWalk htoWalk (by simpa using hpanicked)
    simpa using hpass
  | some source =>
    exact .start source toWalk htoWalk (by simpa using hpanicked) (by simpa using hmounted)

theorem proceeds_finishStep (state : CopyState) :
    Proceeds removeDiacritics calls state (finishStep calls state) := by
  rw [finishStep]
  by_cases hend : state.result = none ∧ (state.panicked = true ∨ state.toWalk = []) ∧
      ∀ worker ∈ state.workers, worker.isDone = true
  swap
  · rw [if_neg hend]
    exact .stay
  rw [if_pos hend]
  obtain ⟨hresult, hwalk, hdone⟩ := hend
  by_cases hpanicked : state.panicked = true
  · rw [if_pos hpanicked]
    exact .finish .panicked _ hdone hresult (.inl ⟨rfl, hpanicked, rfl⟩)
  have htoWalk := hwalk.resolve_left hpanicked
  rw [Bool.not_eq_true] at hpanicked
  rw [if_neg (by simp [hpanicked])]
  split_ifs with hlock hremove
  · exact .finish .ok _ hdone hresult
      (.inr ⟨htoWalk, hpanicked, .inl ⟨rfl, Option.isNone_iff_eq_none.mp hlock, rfl⟩⟩)
  · exact .finish .ok _ hdone hresult
      (.inr ⟨htoWalk, hpanicked, .inr (.inl ⟨rfl, hremove, rfl⟩)⟩)
  · exact .finish .lockNotRemoved _ hdone hresult
      (.inr ⟨htoWalk, hpanicked, .inr (.inr ⟨rfl, by simpa using hremove, rfl⟩)⟩)

theorem proceeds_copyStep (state : CopyState) (move : Move) :
    Proceeds removeDiacritics calls state (copyStep removeDiacritics calls state move).1 := by
  cases move with
  | walk => exact proceeds_walkStep removeDiacritics calls state
  | work index further => exact proceeds_workerStep removeDiacritics calls state index _
  | fail index => exact proceeds_workerStep removeDiacritics calls state index _
  | finish => exact proceeds_finishStep removeDiacritics calls state

end Steps

end Keysas.Io
