import Mathlib.Data.List.Nodup
import Mathlib.Data.List.Perm.Subperm
import Mathlib.Data.List.ReduceOption
import Keysas.Io.CopyFilesIn

/-!
# Files placed by a copy

`EveryFilePlaced` says that each regular file of the device has a file of its own in the input
directory, with its content. The names under which files are copied decide: `Separate` says that the
walk gives every file, that all of them are read and that no two share a name, or the name of the
lock.

`everyFilePlaced_iff` says that, when every copy and every renaming succeeds, the files are placed
in exactly the runs of such devices, whatever the order of the threads. `Traced` is what holds of
every run, and `Sound` what holds of the runs of a separate device: each thread stands where its
file is as far as it got, because no other thread touches its name. `Fits` is that relation for one
thread, and `Untouched` what a thread leaves to the others.
-/

set_option autoImplicit false
set_option relaxedAutoImplicit false

namespace Keysas.Io

open Runs RustStd Store

variable (removeDiacritics : String → String) (calls : CopyCalls) (start : CopyStart)

/-! ### The property and its condition -/

/-- The name holds a file that a thread has written from the source, with its content. -/
def HeldAt (state : CopyState) (source : Source) (name : String) : Prop :=
  ∃ index inode, state.workers[index]?.map Worker.source = some source ∧
    state.shared.sasIn.lookup name = some (.moved index inode) ∧
      state.shared.data inode = source.content

/-- Every regular file of the device has a file of its own in the input directory. -/
def EveryFilePlaced (state : CopyState) : Prop :=
  ∃ place : ℕ → String,
    (∀ first < start.files.length, ∀ second < start.files.length,
      place first = place second → first = second) ∧
    ∀ index source, start.files[index]? = some source → HeldAt state source (place index)

/-- Every copy and every renaming of a thread succeeds. -/
def CopiesSucceed : Prop :=
  ∀ index < start.walked.length, calls.copies index = true ∧ calls.renames index = true

/-- There is a directory of temporary files, or one can be created. -/
def TmpUsable : Prop :=
  start.tmpDir = .directory ∨ (start.tmpDir = .absent ∧ calls.createTmp = true)

/-- The files of the device are all found and read, and no two of them have one name. -/
structure Separate : Prop where
  walked : start.walked = start.files
  paths : ∀ source ∈ start.files, source.path.toStr.isSome = true
  names : ∀ source ∈ start.files, isFileName (cleanedName removeDiacritics source.name) = true
  distinct : (start.files.map fun source ↦ cleanedName removeDiacritics source.name).Nodup
  notLock : ∀ source ∈ start.files, cleanedName removeDiacritics source.name ≠ lockName
  tmpDir : start.files ≠ [] → TmpUsable calls start

/-! ### What holds of every run -/

/-- What a thread has passed when it stands at its stage. -/
def Reached (index : ℕ) (worker : Worker) : Prop :=
  let read := worker.source.path.toStr.isSome = true
  let opened := TmpUsable calls start ∧
    isFileName (cleanedName removeDiacritics worker.source.name) = true
  match worker.stage with
  | .lookup | .opening => read
  | .copying _ _ => read ∧ opened
  | .moving => read ∧ opened ∧ calls.copies index = true
  | .done .placed => read ∧ opened ∧ calls.copies index = true ∧ calls.renames index = true
  | _ => True

/-- What a name of the input directory says about the threads: a file that was moved there comes
from a thread that has placed it. -/
def MovedBy (workers : List Worker) (name : String) (file : SasInFile) : Prop :=
  ∀ index inode, file = .moved index inode →
    ∃ source, workers[index]? = some ⟨source, .done .placed⟩ ∧
      cleanedName removeDiacritics source.name = name

/-- What holds in every state of a copy. -/
structure Traced (state : CopyState) : Prop where
  /-- The threads have the files that the walk has given so far. -/
  sources : state.workers.map Worker.source ++ state.toWalk.reduceOption = start.walked
  tmpDir : state.shared.tmpDir = start.tmpDir ∨
    (state.shared.tmpDir = .directory ∧ TmpUsable calls start)
  reached : EachWorker (Reached removeDiacritics calls start) state.workers
  moved : AllEntries (MovedBy removeDiacritics state.workers) state.shared.sasIn

/-- What holds when a copy has returned. -/
structure Ended (state : CopyState) : Prop where
  returned : ∀ result, state.result = some result →
    (state.panicked = true ∨ state.toWalk = []) ∧ ∀ worker ∈ state.workers, worker.isDone = true
  ok : state.result = some .ok → state.toWalk = [] ∧ state.shared.sasIn.lookup lockName = none
  panicked : state.result = some .panicked → state.panicked = true
  lockNotRemoved : state.result = some .lockNotRemoved → calls.removeLock = false

section Traced

variable {removeDiacritics calls start}

/-- The directory of temporary files stays what it is, or is created. -/
theorem Advances.tmpDir_eq {index : ℕ} {source : Source} {stage next : Stage}
    {before after : Shared}
    (hadvances : Advances removeDiacritics calls index source stage before next after) :
    after.tmpDir = before.tmpDir ∨
      (before.tmpDir = .absent ∧
        after.tmpDir = if calls.createTmp then .directory else .absent) := by
  cases hadvances with
  | prepare _ tmpDir hpath htmpDir =>
    rcases htmpDir with ⟨hbefore, rfl⟩ | ⟨hbefore, hafter⟩
    · exact .inl hbefore.symm
    · exact .inr ⟨hbefore, hafter⟩
  | report =>
    unfold Shared.createReport
    split <;> exact .inl rfl
  | _ => exact .inl rfl

/-- What a step of a thread leaves in the input directory was there, or is a report, or is the file
that the thread has placed. -/
theorem Advances.sasIn_of_lookup {index : ℕ} {source : Source} {stage next : Stage}
    {before after : Shared}
    (hadvances : Advances removeDiacritics calls index source stage before next after)
    {name : String} {file : SasInFile} (hfile : after.sasIn.lookup name = some file) :
    before.sasIn.lookup name = some file ∨ (file = .report ∧ isFileName name = true) ∨
      ((∃ inode, file = .moved index inode) ∧ name = cleanedName removeDiacritics source.name ∧
        next = .done .placed) := by
  cases hadvances with
  | rename _ inode hrenames hinode =>
    rw [assigns_insert] at hfile
    split_ifs at hfile with hname
    · exact .inr (.inr ⟨⟨inode, (Option.some.inj hfile).symm⟩, hname, rfl⟩)
    · exact .inl hfile
  | report _ hname =>
    unfold Shared.createReport at hfile
    split at hfile
    · exact .inl hfile
    · simp only [assigns_insert _ _ _ name] at hfile
      split_ifs at hfile with hsame
      · exact .inr (.inl ⟨(Option.some.inj hfile).symm, hsame ▸ hname⟩)
      · exact .inl hfile
  | _ => exact .inl hfile

/-- A thread at its end stays there. -/
theorem Advances.eq_of_done {index : ℕ} {source : Source} {result : ThreadEnd} {next : Stage}
    {before after : Shared}
    (hadvances : Advances removeDiacritics calls index source (.done result) before next after) :
    next = .done result ∧ after = before := by
  cases hadvances with
  | stay => exact ⟨rfl, rfl⟩
  | leave _ _ hstage => rcases hstage with hstage | hstage <;> cases hstage
  | fail _ _ hstage => rcases hstage with hstage | ⟨_, _, hstage⟩ <;> cases hstage

/-- A step of a thread passes what the next stage needs. -/
theorem Advances.reached {index : ℕ} {source : Source} {stage next : Stage}
    {before after : Shared}
    (hadvances : Advances removeDiacritics calls index source stage before next after)
    (htmpDir : before.tmpDir = .directory → TmpUsable calls start)
    (hreached : Reached removeDiacritics calls start index ⟨source, stage⟩) :
    Reached removeDiacritics calls start index ⟨source, next⟩ := by
  cases hadvances with
  | stay => exact hreached
  | prepare _ _ hpath => exact hpath
  | find => exact hreached
  | create _ _ _ hdirectory hname => exact ⟨hreached, htmpDir hdirectory, hname⟩
  | write => exact hreached
  | copied _ _ _ _ hcopies => exact ⟨hreached.1, hreached.2, hcopies⟩
  | rename _ _ hrenames => exact ⟨hreached.1, hreached.2.1, hreached.2.2, hrenames⟩
  | _ => trivial

theorem traced_begin : Traced removeDiacritics calls start start.begin where
  sources := List.nil_append _
  tmpDir := .inl rfl
  reached := eachWorker_nil _
  moved := by
    intro name file hfile index inode hmoved
    simp only [CopyStart.begin, assigns_insert _ _ _ name] at hfile
    split_ifs at hfile
    · exact SasInFile.noConfusion ((Option.some.inj hfile).trans hmoved)
    · rw [lookup_replay, AList.lookup_empty, Option.or_none] at hfile
      obtain ⟨_, -, hwrite⟩ := List.mem_map.mp (mem_of_lastWrite hfile)
      rw [hmoved] at hwrite
      cases hwrite

/-- A step of a thread keeps the moved files. -/
theorem Advances.moved {state : CopyState} {index : ℕ} {worker : Worker} {next : Stage}
    {after : Shared} (hworker : state.workers[index]? = some worker)
    (hadvances : Advances removeDiacritics calls index worker.source worker.stage state.shared
      next after)
    (hmoved : AllEntries (MovedBy removeDiacritics state.workers) state.shared.sasIn) :
    AllEntries (MovedBy removeDiacritics (state.workers.set index ⟨worker.source, next⟩))
      after.sasIn := by
  intro name file hfile mover inode heq
  rcases hadvances.sasIn_of_lookup hfile with hbefore | ⟨rfl, -⟩ | ⟨⟨own, rfl⟩, rfl, rfl⟩
  · obtain ⟨source, hplaced, hname⟩ := hmoved name file hbefore mover inode heq
    refine ⟨source, (getElem?_set_eq_some_iff hworker).mpr ?_, hname⟩
    by_cases hmover : mover = index
    · subst hmover
      rw [hworker] at hplaced
      cases hplaced
      exact .inl ⟨rfl, by rw [hadvances.eq_of_done.1]⟩
    · exact .inr ⟨hmover, hplaced⟩
  · cases heq
  · cases heq
    exact ⟨worker.source, (getElem?_set_eq_some_iff hworker).mpr (.inl ⟨rfl, rfl⟩), rfl⟩

/-- A move keeps the moved files of a longer list of threads. -/
theorem MovedBy.append {workers : List Worker} {name : String} {file : SasInFile} (added : Worker)
    (hmoved : MovedBy removeDiacritics workers name file) :
    MovedBy removeDiacritics (workers ++ [added]) name file := by
  intro index inode heq
  obtain ⟨source, hplaced, hname⟩ := hmoved index inode heq
  exact ⟨source, List.getElem?_append_left (List.getElem?_eq_some_iff.mp hplaced).1 ▸ hplaced,
    hname⟩

theorem Traced.tmpUsable {state : CopyState}
    (htraced : Traced removeDiacritics calls start state)
    (hdirectory : state.shared.tmpDir = .directory) : TmpUsable calls start := by
  rcases htraced.tmpDir with heq | ⟨-, husable⟩
  · exact .inl (heq ▸ hdirectory)
  · exact husable

/-- What holds of every state is kept by every move. -/
theorem Traced.proceeds {state next : CopyState}
    (htraced : Traced removeDiacritics calls start state)
    (hproceeds : Proceeds removeDiacritics calls state next) :
    Traced removeDiacritics calls start next := by
  have hsources := htraced.sources
  cases hproceeds with
  | stay => exact htraced
  | start source toWalk htoWalk hpanicked hmounted =>
    rw [htoWalk] at hsources
    refine ⟨?_, htraced.tmpDir, htraced.reached.push trivial, ?_⟩
    · simpa [List.reduceOption] using hsources
    · exact htraced.moved.mono fun name file hmoved ↦ hmoved.append _
  | pass toWalk htoWalk hpanicked =>
    rw [htoWalk] at hsources
    exact ⟨hsources, htraced.tmpDir, htraced.reached, htraced.moved⟩
  | panic htoWalk hpanicked hmounted =>
    exact ⟨hsources, htraced.tmpDir, htraced.reached, htraced.moved⟩
  | work index worker stage shared hworker hadvances =>
    refine ⟨?_, ?_, ?_, hadvances.moved hworker htraced.moved⟩
    · have hmap : (state.workers.set index ⟨worker.source, stage⟩).map Worker.source =
          state.workers.map Worker.source := map_set_of_eq hworker rfl
      show (state.workers.set index ⟨worker.source, stage⟩).map Worker.source ++ _ = _
      rw [hmap]
      exact hsources
    · show shared.tmpDir = start.tmpDir ∨ (shared.tmpDir = .directory ∧ TmpUsable calls start)
      rcases hadvances.tmpDir_eq with heq | ⟨habsent, hafter⟩
      · rw [heq]
        exact htraced.tmpDir
      · have hstart : start.tmpDir = .absent := by
          rcases htraced.tmpDir with heq | ⟨hdirectory, -⟩
          · rw [← heq, habsent]
          · rw [habsent] at hdirectory
            cases hdirectory
        rw [hafter]
        split_ifs with hcreate
        · exact .inr ⟨rfl, .inr ⟨hstart, hcreate⟩⟩
        · exact .inl hstart.symm
    · refine htraced.reached.set hworker ?_ fun _ _ _ _ hreached ↦ hreached
      exact hadvances.reached htraced.tmpUsable (htraced.reached index worker hworker)
  | finish result sasIn hdone hresult hend =>
    refine ⟨hsources, htraced.tmpDir, htraced.reached, fun name file hfile ↦ ?_⟩
    rcases hend with ⟨-, -, rfl⟩ | ⟨-, -, ⟨-, -, rfl⟩ | ⟨-, -, rfl⟩ | ⟨-, -, rfl⟩⟩
    · exact htraced.moved name file hfile
    · exact htraced.moved name file hfile
    · refine htraced.moved name file ?_
      rw [assigns_erase] at hfile
      split_ifs at hfile
      exact hfile
    · exact htraced.moved name file hfile

theorem ended_begin : Ended calls start.begin := by
  refine ⟨fun _ hresult ↦ ?_, fun hresult ↦ ?_, fun hresult ↦ ?_, fun hresult ↦ ?_⟩ <;>
    cases hresult

/-- A copy that has returned does not go on. -/
theorem Ended.eq_of_returned {state next : CopyState} (hended : Ended calls state)
    {result : CopyResult} (hresult : state.result = some result)
    (hproceeds : Proceeds removeDiacritics calls state next) : next = state := by
  obtain ⟨hend, hdone⟩ := hended.returned result hresult
  cases hproceeds with
  | stay => rfl
  | start source toWalk htoWalk hpanicked hmounted => simp [hpanicked, htoWalk] at hend
  | pass toWalk htoWalk hpanicked => simp [hpanicked, htoWalk] at hend
  | panic htoWalk hpanicked hmounted => simp [hpanicked, htoWalk] at hend
  | work index worker stage shared hworker hadvances =>
    obtain ⟨ending, hending⟩ := (isDone_iff worker).mp (hdone worker (List.mem_of_getElem? hworker))
    rw [hending] at hadvances
    obtain ⟨rfl, rfl⟩ := hadvances.eq_of_done
    have hset : state.workers.set index worker = state.workers := by
      obtain ⟨hlength, rfl⟩ := List.getElem?_eq_some_iff.mp hworker
      exact List.set_getElem_self hlength
    rw [← hending, hset]
  | finish ended sasIn hdone hnone hend =>
    rw [hresult] at hnone
    cases hnone

/-- What holds when a copy has returned is kept by every move. -/
theorem Ended.proceeds {state next : CopyState} (hended : Ended calls state)
    (hproceeds : Proceeds removeDiacritics calls state next) : Ended calls next := by
  rcases hresult : state.result with _ | result
  swap
  · rw [hended.eq_of_returned hresult hproceeds]
    exact hended
  have hrunning : next.result = none → Ended calls next := by
    intro hnone
    refine ⟨fun _ hsome ↦ ?_, fun hsome ↦ ?_, fun hsome ↦ ?_, fun hsome ↦ ?_⟩ <;>
      · rw [hnone] at hsome
        cases hsome
  cases hproceeds with
  | finish ended sasIn hdone hnone hend =>
    rcases hend with ⟨rfl, hpanicked, -⟩ |
      ⟨htoWalk, -, ⟨rfl, hlock, rfl⟩ | ⟨rfl, -, rfl⟩ | ⟨rfl, hremove, -⟩⟩
    · exact ⟨fun _ _ ↦ ⟨.inl hpanicked, hdone⟩, nofun,
        fun _ ↦ hpanicked, nofun⟩
    · exact ⟨fun _ _ ↦ ⟨.inr htoWalk, hdone⟩, fun _ ↦ ⟨htoWalk, hlock⟩,
        nofun, nofun⟩
    · exact ⟨fun _ _ ↦ ⟨.inr htoWalk, hdone⟩,
        fun _ ↦ ⟨htoWalk, (assigns_erase state.shared.sasIn lockName).lookup_self⟩,
        nofun, nofun⟩
    · exact ⟨fun _ _ ↦ ⟨.inr htoWalk, hdone⟩, nofun,
        nofun, fun _ ↦ hremove⟩
  | _ => exact hrunning hresult

theorem traced_of_copies {history : List (Move × Unit)} {state : CopyState}
    (hrun : Copies removeDiacritics calls start history state) :
    Traced removeDiacritics calls start state :=
  hrun.holds traced_begin fun _ state move htraced _ ↦
    htraced.proceeds (proceeds_copyStep removeDiacritics calls state move)

theorem ended_of_copies {history : List (Move × Unit)} {state : CopyState}
    (hrun : Copies removeDiacritics calls start history state) : Ended calls state :=
  hrun.holds ended_begin fun _ state move hended _ ↦
    hended.proceeds (proceeds_copyStep removeDiacritics calls state move)

end Traced

/-! ### The devices whose files are all placed -/

/-- The walk gives no files that the device does not have. -/
theorem Tree.reduceOption_walk_sublist (tree : Tree) (path : OsString) :
    ((tree.walk path).reduceOption).Sublist (tree.files path) := by
  induction tree generalizing path with
  | nil => exact List.Sublist.slnil
  | file name content rest ih => exact (ih path).cons_cons _
  | other name rest ih => exact ih path
  | directory name readable inside rest ihInside ihRest =>
    show (List.reduceOption ((if readable = true then _ else []) ++ _)).Sublist _
    rw [List.reduceOption_append]
    refine List.Sublist.append ?_ (ihRest path)
    split_ifs
    · exact ihInside _
    · exact List.nil_sublist _

section Placed

variable {removeDiacritics calls start}

/-- A file that is held has been placed by its thread. -/
theorem Traced.placed_of_heldAt {state : CopyState}
    (htraced : Traced removeDiacritics calls start state) {source : Source} {name : String}
    (hheld : HeldAt state source name) :
    cleanedName removeDiacritics source.name = name ∧ source ∈ start.walked ∧
      ∃ index, state.workers[index]? = some ⟨source, .done .placed⟩ ∧
        Reached removeDiacritics calls start index ⟨source, .done .placed⟩ := by
  obtain ⟨index, inode, hsource, hlookup, -⟩ := hheld
  obtain ⟨placed, hworker, hname⟩ := htraced.moved name _ hlookup index inode rfl
  rw [hworker] at hsource
  obtain rfl : placed = source := Option.some.inj hsource
  refine ⟨hname, ?_, index, hworker, htraced.reached index _ hworker⟩
  rw [← htraced.sources]
  exact List.mem_append_left _ (List.mem_map_of_mem (List.mem_of_getElem? hworker))

theorem Traced.separate {state : CopyState}
    (htraced : Traced removeDiacritics calls start state)
    (hunlocked : state.shared.sasIn.lookup lockName = none)
    (hplaced : EveryFilePlaced start state) : Separate removeDiacritics calls start := by
  obtain ⟨place, hinjective, hheld⟩ := hplaced
  have heach : ∀ source ∈ start.files, ∃ name, HeldAt state source name := by
    intro source hsource
    obtain ⟨index, hindex⟩ := List.mem_iff_getElem?.mp hsource
    exact ⟨place index, hheld index source hindex⟩
  -- a held file is in the walk, and its thread has passed all tests
  have hreached : ∀ source ∈ start.files, source ∈ start.walked ∧
      ∃ index, Reached removeDiacritics calls start index ⟨source, .done .placed⟩ := by
    intro source hsource
    obtain ⟨name, hname⟩ := heach source hsource
    obtain ⟨-, hwalked, index, -, hreached⟩ := htraced.placed_of_heldAt hname
    exact ⟨hwalked, index, hreached⟩
  have hdistinct :
      (start.files.map fun source ↦ cleanedName removeDiacritics source.name).Nodup := by
    have hmap : (start.files.map fun source ↦ cleanedName removeDiacritics source.name) =
        (List.range start.files.length).map place := by
      apply List.ext_getElem
      · rw [List.length_map, List.length_map, List.length_range]
      · intro index hfile hrange
        rw [List.getElem_map, List.getElem_map, List.getElem_range]
        rw [List.length_map] at hfile
        exact (htraced.placed_of_heldAt
          (hheld index _ (List.getElem?_eq_getElem hfile))).1
    rw [hmap]
    refine List.Nodup.map_on (fun first hfirst second hsecond heq ↦ ?_) List.nodup_range
    exact hinjective first (List.mem_range.mp hfirst) second (List.mem_range.mp hsecond) heq
  refine ⟨?_, ?_, ?_, hdistinct, ?_, ?_⟩
  · have hsublist := start.tree.reduceOption_walk_sublist start.mountPoint
    refine hsublist.eq_of_length_le (List.Subperm.length_le ?_)
    exact List.Nodup.subperm (hdistinct.of_map _) fun source hsource ↦ (hreached source hsource).1
  · intro source hsource
    obtain ⟨-, index, hread, -⟩ := hreached source hsource
    exact hread
  · intro source hsource
    obtain ⟨-, index, -, ⟨-, hname⟩, -⟩ := hreached source hsource
    exact hname
  · intro source hsource hlock
    obtain ⟨name, hname⟩ := heach source hsource
    rw [(htraced.placed_of_heldAt hname).1] at hlock
    obtain ⟨index, inode, -, hlookup, -⟩ := hname
    rw [hlock, hunlocked] at hlookup
    cases hlookup
  · intro hfiles
    obtain ⟨source, hsource⟩ := List.exists_mem_of_ne_nil _ hfiles
    obtain ⟨-, index, -, ⟨husable, -⟩, -⟩ := hreached source hsource
    exact husable

end Placed

/-! ### The copy of a separate device -/

/-- The name that a file in the directory of temporary files has when it is there. -/
def owner : Inode → Option String
  | .leftover name => some name
  | .made index => start.walked[index]?.map fun source ↦ cleanedName removeDiacritics source.name

/-- The file of a thread is where its stage says, as far as it has been written. -/
def Fits (shared : Shared) (index : ℕ) (worker : Worker) : Prop :=
  let name := cleanedName removeDiacritics worker.source.name
  match worker.stage with
  | .started => True
  | .lookup | .opening => shared.tmpDir = .directory
  | .copying inode offset =>
    owner removeDiacritics start inode = some name ∧ shared.tmp.lookup name = some inode ∧
      shared.data inode = worker.source.content.take offset
  | .moving =>
    ∃ inode, owner removeDiacritics start inode = some name ∧
      shared.tmp.lookup name = some inode ∧ shared.data inode = worker.source.content
  | .done .placed =>
    ∃ inode, owner removeDiacritics start inode = some name ∧
      shared.sasIn.lookup name = some (.moved index inode) ∧
        shared.data inode = worker.source.content
  | _ => False

/-- What the threads share is as they need it. -/
structure SharedSound (shared : Shared) : Prop where
  mounted : shared.mounted = true
  tmpDir : start.walked ≠ [] →
    shared.tmpDir = .directory ∨ (shared.tmpDir = .absent ∧ calls.createTmp = true)
  /-- A file has the name of its owner, so that no file has two names. -/
  owned : AllEntries (fun name inode ↦ owner removeDiacritics start inode = some name) shared.tmp

/-- What a step under one name leaves to the threads with other names. -/
structure Untouched (name : String) (before after : Shared) : Prop where
  tmpDir : before.tmpDir = .directory → after.tmpDir = .directory
  tmp : ∀ other, other ≠ name → after.tmp.lookup other = before.tmp.lookup other
  sasIn : ∀ other, other ≠ name → after.sasIn.lookup other = before.sasIn.lookup other
  data : ∀ inode, owner removeDiacritics start inode ≠ some name →
    after.data inode = before.data inode

/-- What is true of the file of a thread when everything goes well with it. -/
structure GoesWell (index : ℕ) (source : Source) : Prop where
  walked : start.walked[index]? = some source
  path : source.path.toStr.isSome = true
  name : isFileName (cleanedName removeDiacritics source.name) = true
  copies : calls.copies index = true
  renames : calls.renames index = true

/-- What holds in every state of the copy of a separate device. -/
structure Sound (state : CopyState) : Prop where
  running : state.panicked = false
  shared : SharedSound removeDiacritics calls start state.shared
  fits : EachWorker (Fits removeDiacritics start state.shared) state.workers

section Sound

variable {removeDiacritics calls start}

theorem Untouched.refl (name : String) (shared : Shared) :
    Untouched removeDiacritics start name shared shared :=
  ⟨id, fun _ _ ↦ rfl, fun _ _ ↦ rfl, fun _ _ ↦ rfl⟩

/-- Bytes written behind what has been written continue it. -/
theorem writeAt_take {content : List UInt8} {offset : ℕ} (hoffset : offset < content.length)
    (count : ℕ) :
    Wire.writeAt offset ((content.drop offset).take count) (content.take offset) =
      content.take (offset + ((content.drop offset).take count).length) := by
  have hlength : (content.take offset).length = offset := by
    rw [List.length_take]
    omega
  calc Wire.writeAt offset ((content.drop offset).take count) (content.take offset)
      = content.take offset ++ (content.drop offset).take count := by
        rw [← Wire.writeAt_length, hlength]
    _ = content.take offset ++
          (content.drop offset).take ((content.drop offset).take count).length := by
        rw [List.length_take, ← List.take_eq_take_min]
    _ = content.take (offset + ((content.drop offset).take count).length) := by
        rw [List.take_add]

/-- A thread with another name does not lose its file. -/
theorem Fits.untouched {name : String} {before after : Shared} {index : ℕ} {worker : Worker}
    (hfits : Fits removeDiacritics start before index worker)
    (huntouched : Untouched removeDiacritics start name before after)
    (hname : cleanedName removeDiacritics worker.source.name ≠ name) :
    Fits removeDiacritics start after index worker := by
  obtain ⟨source, stage⟩ := worker
  have hdata : ∀ inode, owner removeDiacritics start inode =
      some (cleanedName removeDiacritics source.name) → after.data inode = before.data inode := by
    intro inode howner
    refine huntouched.data inode fun heq ↦ hname ?_
    exact Option.some.inj (howner.symm.trans heq)
  cases stage with
  | started => trivial
  | lookup => exact huntouched.tmpDir hfits
  | opening => exact huntouched.tmpDir hfits
  | copying inode offset =>
    obtain ⟨howner, hlookup, hcontent⟩ := hfits
    exact ⟨howner, (huntouched.tmp _ hname).trans hlookup, (hdata inode howner).trans hcontent⟩
  | moving =>
    obtain ⟨inode, howner, hlookup, hcontent⟩ := hfits
    exact ⟨inode, howner, (huntouched.tmp _ hname).trans hlookup,
      (hdata inode howner).trans hcontent⟩
  | reporting => exact hfits
  | unmounting => exact hfits
  | done result =>
    cases result with
    | placed =>
      obtain ⟨inode, howner, hlookup, hcontent⟩ := hfits
      exact ⟨inode, howner, (huntouched.sasIn _ hname).trans hlookup,
        (hdata inode howner).trans hcontent⟩
    | _ => exact hfits

/-- A file that is written has the content, and no file of another name changes. -/
theorem untouched_write {name : String} (shared : Shared) {inode : Inode} (content : List UInt8)
    (howner : owner removeDiacritics start inode = some name) :
    Untouched removeDiacritics start name shared (shared.write inode content) := by
  refine ⟨id, fun _ _ ↦ rfl, fun _ _ ↦ rfl, fun other hother ↦ ?_⟩
  have hne : other ≠ inode := by
    rintro rfl
    exact hother howner
  exact Function.update_of_ne hne content shared.data

/-- A step of a thread keeps its file where its stage says and leaves the other names alone. -/
theorem Advances.fits {index : ℕ} {source : Source} {stage next : Stage} {before after : Shared}
    (hadvances : Advances removeDiacritics calls index source stage before next after)
    (hwell : GoesWell removeDiacritics calls start index source)
    (hshared : SharedSound removeDiacritics calls start before)
    (hfits : Fits removeDiacritics start before index ⟨source, stage⟩) :
    SharedSound removeDiacritics calls start after ∧
      Fits removeDiacritics start after index ⟨source, next⟩ ∧
        Untouched removeDiacritics start (cleanedName removeDiacritics source.name)
          before after := by
  have hwalked : start.walked ≠ [] := by
    intro hnil
    have hget := hwell.walked
    rw [hnil] at hget
    cases hget
  have hready := hshared.tmpDir hwalked
  cases hadvances with
  | stay => exact ⟨hshared, hfits, .refl _ _⟩
  | leave _ _ hstage hreason =>
    exfalso
    rcases hreason with hpath | htmpDir | hmounted
    · have hsome := hwell.path
      rw [hpath] at hsome
      cases hsome
    · simp [htmpDir] at hready
    · rw [hshared.mounted] at hmounted
      cases hmounted
  | prepare _ tmpDir hpath htmpDir =>
    have hdirectory : tmpDir = .directory := by
      rcases htmpDir with ⟨-, hafter⟩ | ⟨habsent, hafter⟩
      · exact hafter
      · have hcreate : calls.createTmp = true := by simpa [habsent] using hready
        rw [hafter, if_pos hcreate]
    exact ⟨⟨hshared.mounted, fun _ ↦ .inl hdirectory, hshared.owned⟩, hdirectory,
      fun _ ↦ hdirectory, fun _ _ ↦ rfl, fun _ _ ↦ rfl, fun _ _ ↦ rfl⟩
  | find => exact ⟨hshared, hfits, .refl _ _⟩
  | create _ inode hmounted hdirectory hname hinode =>
    have howner : owner removeDiacritics start inode =
        some (cleanedName removeDiacritics source.name) := by
      rw [hinode]
      rcases hlookup : before.tmp.lookup (cleanedName removeDiacritics source.name) with _ | found
      · simp only [Option.getD_none, owner, hwell.walked, Option.map_some]
      · exact hshared.owned _ found hlookup
    have hinsert := assigns_insert before.tmp (cleanedName removeDiacritics source.name) inode
    have hwrite := untouched_write before [] howner
    refine ⟨⟨hmounted, fun _ ↦ .inl hdirectory, ?_⟩, ⟨howner, hinsert.lookup_self, ?_⟩,
      ⟨id, fun other hother ↦ hinsert.lookup_of_ne hother, hwrite.sasIn, hwrite.data⟩⟩
    · refine hshared.owned.assign hinsert (fun entry hentry ↦ ?_) fun _ _ _ hother ↦ hother
      rw [← Option.some.inj hentry]
      exact howner
    · exact Function.update_self inode [] before.data
  | write _ inode offset further hoffset =>
    obtain ⟨howner, hlookup, hcontent⟩ := hfits
    refine ⟨⟨hshared.mounted, hshared.tmpDir, hshared.owned⟩, ⟨howner, hlookup, ?_⟩,
      untouched_write before _ howner⟩
    show Function.update before.data inode _ inode = _
    rw [Function.update_self, hcontent]
    exact writeAt_take hoffset (further + 1)
  | copied _ inode offset hoffset hcopies =>
    obtain ⟨howner, hlookup, hcontent⟩ := hfits
    rw [List.take_of_length_le hoffset] at hcontent
    exact ⟨hshared, ⟨inode, howner, hlookup, hcontent⟩, .refl _ _⟩
  | rename _ inode hrenames hinode =>
    obtain ⟨written, howner, hlookup, hcontent⟩ := hfits
    obtain rfl : written = inode := Option.some.inj (hlookup.symm.trans hinode)
    have herase := assigns_erase before.tmp (cleanedName removeDiacritics source.name)
    have hinsert := assigns_insert before.sasIn (cleanedName removeDiacritics source.name)
      (.moved index written)
    refine ⟨⟨hshared.mounted, hshared.tmpDir, ?_⟩,
      ⟨written, howner, hinsert.lookup_self, hcontent⟩,
      ⟨id, fun other hother ↦ herase.lookup_of_ne hother,
        fun other hother ↦ hinsert.lookup_of_ne hother, fun _ _ ↦ rfl⟩⟩
    refine hshared.owned.assign herase (fun entry hentry ↦ ?_) fun _ _ _ hother ↦ hother
    cases hentry
  | notRenamed _ hreason =>
    exfalso
    obtain ⟨inode, -, hlookup, -⟩ := hfits
    rcases hreason with hrenames | hnone
    · rw [hwell.renames] at hrenames
      cases hrenames
    · rw [hlookup] at hnone
      cases hnone
  | fail _ _ hstage hreason =>
    exfalso
    rcases hreason with hcopies | ⟨rfl, hmounted | hdirectory | hname⟩
    · rw [hwell.copies] at hcopies
      cases hcopies
    · rw [hshared.mounted] at hmounted
      cases hmounted
    · exact hdirectory hfits
    · rw [hwell.name] at hname
      cases hname
  | report => exact hfits.elim
  | noReport => exact hfits.elim
  | unmount => exact hfits.elim

/-- A thread of a separate device has a file with which everything goes well, and whose name no
other thread has. -/
theorem Separate.goesWell (hseparate : Separate removeDiacritics calls start)
    (hsucceed : CopiesSucceed calls start) {index : ℕ} {source : Source}
    (hwalked : start.walked[index]? = some source) :
    GoesWell removeDiacritics calls start index source := by
  obtain ⟨hlength, -⟩ := List.getElem?_eq_some_iff.mp hwalked
  have hsource : source ∈ start.files := by
    rw [← hseparate.walked]
    exact List.mem_of_getElem? hwalked
  exact ⟨hwalked, hseparate.paths source hsource, hseparate.names source hsource,
    (hsucceed index hlength).1, (hsucceed index hlength).2⟩

theorem Separate.cleanedName_ne (hseparate : Separate removeDiacritics calls start)
    {first second : ℕ} {source other : Source} (hfirst : start.walked[first]? = some source)
    (hsecond : start.walked[second]? = some other) (hne : first ≠ second) :
    cleanedName removeDiacritics source.name ≠ cleanedName removeDiacritics other.name := by
  rw [hseparate.walked] at hfirst hsecond
  intro heq
  apply hne
  have hlength : first < (start.files.map fun source ↦
      cleanedName removeDiacritics source.name).length := by
    rw [List.length_map]
    exact (List.getElem?_eq_some_iff.mp hfirst).1
  refine (List.getElem?_inj hlength hseparate.distinct).mp ?_
  rw [List.getElem?_map, List.getElem?_map, hfirst, hsecond, Option.map_some, Option.map_some, heq]

theorem Traced.walked_getElem? {state : CopyState}
    (htraced : Traced removeDiacritics calls start state) {index : ℕ} {worker : Worker}
    (hworker : state.workers[index]? = some worker) :
    start.walked[index]? = some worker.source := by
  have hlength := (List.getElem?_eq_some_iff.mp hworker).1
  rw [← htraced.sources, List.getElem?_append_left (by simpa using hlength), List.getElem?_map,
    hworker, Option.map_some]

theorem sound_begin (hseparate : Separate removeDiacritics calls start) :
    Sound removeDiacritics calls start start.begin where
  running := rfl
  shared :=
    { mounted := rfl
      tmpDir := fun hwalked ↦ hseparate.tmpDir (hseparate.walked ▸ hwalked)
      owned := by
        intro name inode hlookup
        simp only [CopyStart.begin, lookup_replay, AList.lookup_empty, Option.or_none] at hlookup
        obtain ⟨leftover, -, hwrite⟩ := List.mem_map.mp (mem_of_lastWrite hlookup)
        cases hwrite
        rfl }
  fits := eachWorker_nil _

theorem Sound.proceeds {state next : CopyState}
    (hseparate : Separate removeDiacritics calls start) (hsucceed : CopiesSucceed calls start)
    (htraced : Traced removeDiacritics calls start state)
    (hsound : Sound removeDiacritics calls start state)
    (hproceeds : Proceeds removeDiacritics calls state next) :
    Sound removeDiacritics calls start next := by
  cases hproceeds with
  | stay => exact hsound
  | start source toWalk htoWalk hpanicked hmounted =>
    exact ⟨hsound.running, hsound.shared, hsound.fits.push trivial⟩
  | pass toWalk htoWalk hpanicked => exact ⟨hsound.running, hsound.shared, hsound.fits⟩
  | panic htoWalk hpanicked hmounted =>
    rw [hsound.shared.mounted] at hmounted
    cases hmounted
  | work index worker stage shared hworker hadvances =>
    have hwalked := htraced.walked_getElem? hworker
    obtain ⟨hshared, hfits, huntouched⟩ := hadvances.fits (hseparate.goesWell hsucceed hwalked)
      hsound.shared (hsound.fits index worker hworker)
    refine ⟨hsound.running, hshared, hsound.fits.set hworker hfits ?_⟩
    intro other otherWorker hother hotherWorker hotherFits
    refine hotherFits.untouched huntouched ?_
    exact hseparate.cleanedName_ne (htraced.walked_getElem? hotherWorker) hwalked hother
  | finish result sasIn hdone hresult hend =>
    have hsasIn : ∀ other, other ≠ lockName →
        sasIn.lookup other = state.shared.sasIn.lookup other := by
      intro other hother
      rcases hend with ⟨-, -, rfl⟩ | ⟨-, -, ⟨-, -, rfl⟩ | ⟨-, -, rfl⟩ | ⟨-, -, rfl⟩⟩
      · rfl
      · rfl
      · exact (assigns_erase state.shared.sasIn lockName).lookup_of_ne hother
      · rfl
    have huntouched : Untouched removeDiacritics start lockName state.shared
        { state.shared with sasIn := sasIn } := ⟨id, fun _ _ ↦ rfl, hsasIn, fun _ _ ↦ rfl⟩
    refine ⟨hsound.running, ⟨hsound.shared.mounted, hsound.shared.tmpDir, hsound.shared.owned⟩, ?_⟩
    refine hsound.fits.mono fun index worker hworker hfits ↦ hfits.untouched huntouched ?_
    refine hseparate.notLock worker.source ?_
    rw [← hseparate.walked]
    exact List.mem_of_getElem? (htraced.walked_getElem? hworker)

theorem sound_of_copies (hseparate : Separate removeDiacritics calls start)
    (hsucceed : CopiesSucceed calls start) {history : List (Move × Unit)} {state : CopyState}
    (hrun : Copies removeDiacritics calls start history state) :
    Sound removeDiacritics calls start state := by
  refine hrun.holds_reached (sound_begin hseparate) fun _ state move before hsound _ ↦ ?_
  exact hsound.proceeds hseparate hsucceed (traced_of_copies before)
    (proceeds_copyStep removeDiacritics calls state move)

/-- A thread that is done has placed its file. -/
theorem Sound.heldAt {state : CopyState} (hsound : Sound removeDiacritics calls start state)
    {index : ℕ} {worker : Worker} (hworker : state.workers[index]? = some worker)
    (hdone : worker.isDone = true) :
    HeldAt state worker.source (cleanedName removeDiacritics worker.source.name) := by
  have hfits := hsound.fits index worker hworker
  obtain ⟨result, hresult⟩ := (isDone_iff worker).mp hdone
  simp only [Fits, hresult] at hfits
  cases result with
  | placed =>
    obtain ⟨inode, -, hlookup, hcontent⟩ := hfits
    exact ⟨index, inode, by rw [hworker, Option.map_some], hlookup, hcontent⟩
  | _ => exact hfits.elim

/-- Every file of a separate device is held when the walk is over and the threads are done. -/
theorem Separate.heldAt (hseparate : Separate removeDiacritics calls start) {state : CopyState}
    (htraced : Traced removeDiacritics calls start state)
    (hsound : Sound removeDiacritics calls start state) (htoWalk : state.toWalk = [])
    (hdone : ∀ worker ∈ state.workers, worker.isDone = true) {source : Source}
    (hsource : source ∈ start.files) :
    HeldAt state source (cleanedName removeDiacritics source.name) := by
  have hsources := htraced.sources
  rw [htoWalk, List.reduceOption_nil, List.append_nil, hseparate.walked] at hsources
  rw [← hsources] at hsource
  obtain ⟨worker, hworker, rfl⟩ := List.mem_map.mp hsource
  obtain ⟨index, hindex⟩ := List.mem_iff_getElem?.mp hworker
  exact hsound.heldAt hindex (hdone worker hworker)

end Sound

/-! ### The exact condition -/

variable {removeDiacritics calls start}

/-- The files are placed when each is held under its own name. Assumes: the names are distinct. -/
theorem everyFilePlaced_of_heldAt {state : CopyState}
    (hdistinct : (start.files.map fun source ↦ cleanedName removeDiacritics source.name).Nodup)
    (hheld : ∀ source ∈ start.files,
      HeldAt state source (cleanedName removeDiacritics source.name)) :
    EveryFilePlaced start state := by
  let names := start.files.map fun source ↦ cleanedName removeDiacritics source.name
  refine ⟨fun index ↦ names[index]?.getD "", fun first hfirst second hsecond heq ↦ ?_,
    fun index source hindex ↦ ?_⟩
  · rw [← List.length_map (fun source : Source ↦ cleanedName removeDiacritics source.name)]
      at hfirst hsecond
    refine (List.getElem?_inj hfirst hdistinct).mp ?_
    rw [List.getElem?_eq_getElem hfirst, List.getElem?_eq_getElem hsecond]
    simpa [names, List.getElem?_eq_getElem hfirst, List.getElem?_eq_getElem hsecond] using heq
  · have hname : names[index]?.getD "" = cleanedName removeDiacritics source.name := by
      simp only [names, List.getElem?_map, hindex, Option.map_some, Option.getD_some]
    show HeldAt state source (names[index]?.getD "")
    rw [hname]
    exact hheld source (List.mem_of_getElem? hindex)

/-- In every order of the threads, a copy that returns without an error has placed every regular
file of the device if and only if the files are separate. Assumes: every copy and every renaming
succeeds. -/
theorem everyFilePlaced_iff (hsucceed : CopiesSucceed calls start)
    {history : List (Move × Unit)} {state : CopyState}
    (hrun : Copies removeDiacritics calls start history state)
    (hok : state.result = some .ok) :
    EveryFilePlaced start state ↔ Separate removeDiacritics calls start := by
  have htraced := traced_of_copies hrun
  have hended := ended_of_copies hrun
  constructor
  · exact htraced.separate (hended.ok hok).2
  · intro hseparate
    have hsound := sound_of_copies hseparate hsucceed hrun
    refine everyFilePlaced_of_heldAt hseparate.distinct fun source hsource ↦ ?_
    exact hseparate.heldAt htraced hsound (hended.ok hok).1 (hended.returned .ok hok).2 hsource

/-! ### Two files of one name -/

/-- Every call succeeds. -/
def succeedingCopy : CopyCalls where
  createTmp := true
  copies _ := true
  renames _ := true
  createReport _ := true
  reportText _ := []
  unmounts _ := true
  removeLock := true

/-- A device with the given entries, and empty directories. -/
def startWith (tree : Tree) : CopyStart where
  mountPoint := .ofText "/m"
  tree := tree
  tmpDir := .absent
  leftovers := []
  earlier := []
  data _ := []

/-- A device with two files. -/
def flatDevice : CopyStart :=
  startWith (.file (.ofText "a") [1] (.file (.ofText "b") [2] .nil))

/-- A device with two files of one name in two directories. -/
def nestedDevice : CopyStart :=
  startWith (.directory (.ofText "a") true (.file (.ofText "x") [1] .nil)
    (.directory (.ofText "b") true (.file (.ofText "x") [2] .nil) .nil))

/-- The moves of a copy of two files of one byte, one after the other. -/
def oneAfterTheOther (entries : ℕ) : List Move :=
  List.replicate entries .walk ++ List.replicate 6 (.work 0 0) ++ List.replicate 6 (.work 1 0) ++
    [.finish]

theorem copies_execute (moves : List Move) :
    Copies removeDiacritics calls start
      (execute (copyStep removeDiacritics calls) start.begin moves).1
      (execute (copyStep removeDiacritics calls) start.begin moves).2 :=
  run_execute moves (admits_of_forall (fun _ _ _ ↦ trivial) _ _ _)

theorem copiesSucceed_succeedingCopy : CopiesSucceed succeedingCopy start :=
  fun _ _ ↦ ⟨rfl, rfl⟩

theorem separate_flatDevice : Separate id succeedingCopy flatDevice :=
  ⟨by decide, by decide, by decide, by decide, by decide, fun _ ↦ .inr ⟨rfl, rfl⟩⟩

/-- Two files with two names are both placed. -/
theorem everyFilePlaced_flatDevice :
    EveryFilePlaced flatDevice
      (execute (copyStep id succeedingCopy) flatDevice.begin (oneAfterTheOther 2)).2 := by
  refine (everyFilePlaced_iff copiesSucceed_succeedingCopy (copies_execute _) ?_).mpr
    separate_flatDevice
  decide

/-- Of two files of one name in two directories only one is placed, with every call succeeding. -/
theorem not_everyFilePlaced_nestedDevice :
    CopiesSucceed succeedingCopy nestedDevice ∧ ∃ history state,
      Copies id succeedingCopy nestedDevice history state ∧ state.result = some .ok ∧
        ¬ EveryFilePlaced nestedDevice state := by
  have hrun : Copies id succeedingCopy nestedDevice _ _ := copies_execute (oneAfterTheOther 4)
  refine ⟨copiesSucceed_succeedingCopy, _, _, hrun, by decide, fun hplaced ↦ ?_⟩
  have hseparate := (traced_of_copies hrun).separate (by decide) hplaced
  exact absurd hseparate.distinct (by decide)

end Keysas.Io
