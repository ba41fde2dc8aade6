import Keysas.In.CorruptedSends
import Keysas.Io.PlacedFiles

/-!
# Copies that fail

A thread whose copy fails leaves a report in the input directory and detaches the mount. The other
threads and the walk then find nothing: a thread ends without its file, and the walk panics at its
next entry.

Every move of a copy that changes something makes `CopyState.remaining` smaller, so that a copy
comes to a state in which no move changes anything, and has returned there (`isSome_of_settled`).
`Isolated` says that such a copy has placed every file whose copy did not fail, and that each other
file has a report by which `keysas-in` sends it as corrupted.

`isolated_iff` says that this is so in no run in which a copy fails.
-/

set_option autoImplicit false
set_option relaxedAutoImplicit false

namespace Keysas.Io

open Runs RustStd Store

/-! ### Copies come to an end -/

/-- A bound on the moves that a thread still makes. -/
def Stage.remaining (source : Source) : Stage → ℕ
  | .started => source.content.length + 8
  | .lookup => source.content.length + 7
  | .opening => source.content.length + 6
  | .copying _ offset => source.content.length - offset + 5
  | .moving => 4
  | .reporting => 3
  | .unmounting => 2
  | .done _ => 0

def Worker.remaining (worker : Worker) : ℕ :=
  worker.stage.remaining worker.source

/-- A bound on the moves that an entry of the device still causes. -/
def entryRemaining : Option Source → ℕ
  | none => 1
  | some source => source.content.length + 9

/-- A bound on the moves that a copy still makes. -/
def CopyState.remaining (state : CopyState) : ℕ :=
  (state.toWalk.map entryRemaining).sum + (state.workers.map Worker.remaining).sum +
    (if state.panicked then 0 else 1) + if state.result.isSome then 0 else 1

/-- No move changes anything. -/
def Settled (removeDiacritics : String → String) (calls : CopyCalls) (state : CopyState) : Prop :=
  ∀ move, (copyStep removeDiacritics calls state move).1 = state

section Remaining

variable {removeDiacritics : String → String} {calls : CopyCalls} {start : CopyStart}

/-- A step of a thread changes nothing, or the thread has less to do. -/
theorem Advances.remaining_lt {index : ℕ} {source : Source} {stage next : Stage}
    {before after : Shared}
    (hadvances : Advances removeDiacritics calls index source stage before next after) :
    (next = stage ∧ after = before) ∨ next.remaining source < stage.remaining source := by
  cases hadvances with
  | stay => exact .inl ⟨rfl, rfl⟩
  | leave _ _ hstage =>
    right
    rcases hstage with rfl | rfl <;> simp [Stage.remaining]
  | write _ _ offset further hoffset =>
    right
    simp only [Stage.remaining, List.length_take, List.length_drop]
    omega
  | fail _ _ hstage =>
    right
    rcases hstage with rfl | ⟨_, _, rfl⟩ <;> simp [Stage.remaining]
  | _ => right; simp [Stage.remaining]

/-- A move changes nothing, or there is less to do. -/
theorem Proceeds.remaining_lt {state next : CopyState}
    (hproceeds : Proceeds removeDiacritics calls state next) :
    next = state ∨ next.remaining < state.remaining := by
  cases hproceeds with
  | stay => exact .inl rfl
  | start source toWalk htoWalk hpanicked hmounted =>
    right
    simp only [CopyState.remaining, htoWalk, List.map_cons, List.map_append, List.sum_cons,
      List.sum_append, entryRemaining, List.map_nil, List.sum_nil, Worker.remaining,
      Stage.remaining]
    omega
  | pass toWalk htoWalk hpanicked =>
    right
    simp only [CopyState.remaining, htoWalk, List.map_cons, List.sum_cons, entryRemaining]
    omega
  | panic htoWalk hpanicked hmounted =>
    right
    simp [CopyState.remaining, hpanicked]
  | work index worker stage shared hworker hadvances =>
    obtain ⟨hlength, hget⟩ := List.getElem?_eq_some_iff.mp hworker
    rcases hadvances.remaining_lt with ⟨rfl, rfl⟩ | hlt
    · left
      rw [← hget, List.set_getElem_self hlength]
    · right
      have hsum : ((state.workers.set index ⟨worker.source, stage⟩).map Worker.remaining).sum <
          (state.workers.map Worker.remaining).sum := sum_map_set_lt hworker hlt
      simp only [CopyState.remaining]
      omega
  | finish result sasIn hdone hresult hend =>
    right
    simp [CopyState.remaining, hresult]

variable (removeDiacritics calls) in
/-- A thread that is not at its end can go on. -/
theorem exists_advance_ne (index : ℕ) (source : Source) (stage : Stage) (shared : Shared)
    (hstage : ∀ result, stage ≠ .done result) :
    ∃ turn, (advance removeDiacritics calls index source turn stage shared).1 ≠ stage := by
  cases stage with
  | started =>
    refine ⟨.proceed 0, ?_⟩
    rw [advance]
    by_cases hpath : source.path.toStr.isNone
    · rw [if_pos hpath]
      exact Stage.noConfusion
    · rw [if_neg hpath]
      cases shared.tmpDir <;> exact Stage.noConfusion
  | lookup =>
    refine ⟨.proceed 0, ?_⟩
    rw [advance]
    split_ifs <;> exact Stage.noConfusion
  | opening =>
    refine ⟨.proceed 0, ?_⟩
    simp only [advance]
    split_ifs <;> exact Stage.noConfusion
  | copying inode offset =>
    by_cases hoffset : offset < source.content.length
    · refine ⟨.proceed 0, fun hsame ↦ ?_⟩
      simp only [advance, hoffset, if_true, Stage.copying.injEq, true_and, List.length_take,
        List.length_drop] at hsame
      omega
    · cases hcopies : calls.copies index with
      | true => exact ⟨.proceed 0, by simp [advance, hoffset, hcopies]⟩
      | false => exact ⟨.fail, by simp [advance, hcopies]⟩
  | moving =>
    refine ⟨.proceed 0, ?_⟩
    simp only [advance]
    split
    · exact Stage.noConfusion
    · split_ifs <;> exact Stage.noConfusion
  | reporting =>
    refine ⟨.proceed 0, ?_⟩
    simp only [advance]
    split_ifs <;> exact Stage.noConfusion
  | unmounting => exact ⟨.proceed 0, Stage.noConfusion⟩
  | done result => exact absurd rfl (hstage result)

/-- A thread that does not go on is at its end. -/
theorem isDone_of_settled {state : CopyState} (hsettled : Settled removeDiacritics calls state) :
    ∀ worker ∈ state.workers, worker.isDone = true := by
  intro worker hworker
  obtain ⟨index, hindex⟩ := List.mem_iff_getElem?.mp hworker
  rw [isDone_iff]
  by_contra hrunning
  obtain ⟨turn, hturn⟩ := exists_advance_ne removeDiacritics calls index worker.source worker.stage
    state.shared fun result hresult ↦ hrunning ⟨result, hresult⟩
  have hstep : workerStep removeDiacritics calls state index turn = state := by
    cases turn with
    | proceed further => exact hsettled (.work index further)
    | fail => exact hsettled (.fail index)
  have hworkers := congrArg CopyState.workers hstep
  simp only [workerStep, hindex] at hworkers
  have hlength := (List.getElem?_eq_some_iff.mp hindex).1
  have hget := congrArg (fun workers ↦ workers[index]?) hworkers
  simp only [List.getElem?_set_self hlength, hindex, Option.some.injEq] at hget
  exact hturn (congrArg Worker.stage hget)

/-- A copy that does not go on has returned. -/
theorem isSome_of_settled {state : CopyState} (hsettled : Settled removeDiacritics calls state) :
    state.result.isSome = true := by
  by_contra hnone
  rw [Bool.not_eq_true, Option.isSome_eq_false_iff, Option.isNone_iff_eq_none] at hnone
  have hwalk : state.panicked = true ∨ state.toWalk = [] := by
    rcases htoWalk : state.toWalk with _ | ⟨entry, toWalk⟩
    · exact .inr rfl
    have hstep := hsettled .walk
    simp only [copyStep, walkStep, htoWalk] at hstep
    split_ifs at hstep with hpanicked hmounted
    · exact .inl hpanicked
    · exact .inl (congrArg CopyState.panicked hstep).symm
    · have hlength := congrArg (fun after ↦ after.toWalk.length) hstep
      simp [htoWalk] at hlength
  have hfinish := hsettled .finish
  simp only [copyStep, finishStep] at hfinish
  rw [if_pos ⟨hnone, hwalk, isDone_of_settled hsettled⟩] at hfinish
  have hresult := congrArg CopyState.result hfinish
  split_ifs at hresult <;> simp [hnone] at hresult

/-- A copy that has returned does not go on. -/
theorem Ended.settled {state : CopyState} (hended : Ended calls state)
    (hreturned : state.result.isSome = true) : Settled removeDiacritics calls state := by
  obtain ⟨result, hresult⟩ := Option.isSome_iff_exists.mp hreturned
  exact fun move ↦ hended.eq_of_returned hresult (proceeds_copyStep removeDiacritics calls _ move)

end Remaining

/-! ### Isolated failures -/

variable (removeDiacritics : String → String) (calls : CopyCalls) (start : CopyStart)

/-- The names in the input directory. -/
def sasInNames (state : CopyState) : Finset String :=
  state.shared.sasIn.keys.toFinset

/-- The copy of the file has failed. -/
def CopyFailed (state : CopyState) (source : Source) : Prop :=
  ∃ index : ℕ, state.workers[index]? = some ⟨source, .done .failed⟩

/-- A copy has returned without a panic and without the lock, each file is placed unless its own
copy failed, and a file whose copy failed has a report and is sent as corrupted, under its own name
or under the name of the report. -/
structure Isolated (state : CopyState) : Prop where
  returns : ∃ result, state.result = some result ∧ result ≠ .panicked
  unlocked : state.shared.sasIn.lookup lockName = none
  others : ∀ source ∈ start.files, CopyFailed state source ∨
    HeldAt state source (cleanedName removeDiacritics source.name)
  reported : ∀ source, CopyFailed state source →
    (state.shared.sasIn.lookup
      (ioerrorName (cleanedName removeDiacritics source.name))).isSome = true
  corrupted : ∀ source, CopyFailed state source →
    In.SendsCorrupted (sasInNames state) (cleanedName removeDiacritics source.name) ∨
      In.SendsCorrupted (sasInNames state)
        (ioerrorName (cleanedName removeDiacritics source.name))

/-- The files are all read and copied and the lock is removed. -/
structure NothingFails : Prop where
  separate : Separate removeDiacritics calls start
  succeed : CopiesSucceed calls start
  unlocks : calls.removeLock = true

/-- What the names in the input directory say in every state: they are names of files, and the lock
is gone only when it could be removed. -/
structure Named (state : CopyState) : Prop where
  valid : AllEntries (fun name _ ↦ isFileName name = true) state.shared.sasIn
  locked : state.shared.sasIn.lookup lockName = none → calls.removeLock = true

section Isolated

variable {removeDiacritics calls start}

/-- A thread removes nothing from the input directory. -/
theorem Advances.lookup_eq_none {index : ℕ} {source : Source} {stage next : Stage}
    {before after : Shared}
    (hadvances : Advances removeDiacritics calls index source stage before next after)
    {name : String} (hnone : after.sasIn.lookup name = none) :
    before.sasIn.lookup name = none := by
  cases hadvances with
  | rename =>
    rw [assigns_insert] at hnone
    split_ifs at hnone
    exact hnone
  | report =>
    unfold Shared.createReport at hnone
    split at hnone
    · exact hnone
    · simp only [assigns_insert _ _ _ name] at hnone
      split_ifs at hnone
      exact hnone
  | _ => exact hnone

theorem named_begin : Named calls start.begin where
  valid := by
    intro name file hfile
    simp only [CopyStart.begin, assigns_insert _ _ _ name] at hfile
    split_ifs at hfile with hname
    · rw [hname]
      decide
    · rw [lookup_replay, AList.lookup_empty, Option.or_none] at hfile
      obtain ⟨earlier, -, hwrite⟩ := List.mem_map.mp (mem_of_lastWrite hfile)
      cases hwrite
      exact earlier.valid
  locked := by
    intro hnone
    rw [CopyStart.begin, AList.lookup_insert] at hnone
    cases hnone

theorem Named.proceeds {state next : CopyState}
    (htraced : Traced removeDiacritics calls start state) (hnamed : Named calls state)
    (hproceeds : Proceeds removeDiacritics calls state next) : Named calls next := by
  cases hproceeds with
  | work index worker stage shared hworker hadvances =>
    refine ⟨fun name file hfile ↦ ?_, fun hnone ↦ hnamed.locked (hadvances.lookup_eq_none hnone)⟩
    rcases hadvances.sasIn_of_lookup hfile with hbefore | ⟨-, hname⟩ | ⟨-, rfl, rfl⟩
    · exact hnamed.valid name file hbefore
    · exact hname
    · exact (hadvances.reached htraced.tmpUsable (htraced.reached index worker hworker)).2.1.2
  | finish result sasIn hdone hresult hend =>
    rcases hend with ⟨-, -, rfl⟩ | ⟨-, -, ⟨-, -, rfl⟩ | ⟨-, hremove, rfl⟩ | ⟨-, -, rfl⟩⟩
    · exact ⟨hnamed.valid, hnamed.locked⟩
    · exact ⟨hnamed.valid, hnamed.locked⟩
    · refine ⟨hnamed.valid.assign (assigns_erase _ _) nofun fun _ _ _ hvalid ↦ hvalid,
        fun _ ↦ hremove⟩
    · exact ⟨hnamed.valid, hnamed.locked⟩
  | _ => exact ⟨hnamed.valid, hnamed.locked⟩

theorem named_of_copies {history : List (Move × Unit)} {state : CopyState}
    (hrun : Copies removeDiacritics calls start history state) : Named calls state :=
  hrun.holds_reached named_begin fun _ state move before hnamed _ ↦
    hnamed.proceeds (traced_of_copies before) (proceeds_copyStep removeDiacritics calls state move)

/-- No file of an isolated copy has failed. -/
theorem Isolated.not_copyFailed {state : CopyState} (hnamed : Named calls state)
    (hisolated : Isolated removeDiacritics start state) (source : Source) :
    ¬ CopyFailed state source := by
  intro hfailed
  have hnames : ∀ name ∈ sasInNames state, name ≠ "" ∧ name.utf8ByteSize ≤ 255 := by
    intro name hname
    rw [sasInNames, List.mem_toFinset, ← AList.mem_keys, ← AList.lookup_isSome] at hname
    obtain ⟨file, hfile⟩ := Option.isSome_iff_exists.mp hname
    have hvalid := hnamed.valid name file hfile
    simp only [isFileName, Bool.and_eq_true, decide_eq_true_eq] at hvalid
    exact ⟨hvalid.1.1.1.1, hvalid.2⟩
  rcases hisolated.corrupted source hfailed with hsends | hsends
  · exact In.not_sendsCorrupted hnames _ hsends
  · exact In.not_sendsCorrupted hnames _ hsends

theorem Isolated.nothingFails {state : CopyState}
    (hdistinct : (start.files.map fun source ↦ cleanedName removeDiacritics source.name).Nodup)
    (htraced : Traced removeDiacritics calls start state) (hnamed : Named calls state)
    (hisolated : Isolated removeDiacritics start state) :
    NothingFails removeDiacritics calls start := by
  have hheld : ∀ source ∈ start.files,
      HeldAt state source (cleanedName removeDiacritics source.name) := fun source hsource ↦
    (hisolated.others source hsource).resolve_left (hisolated.not_copyFailed hnamed source)
  have hseparate := htraced.separate hisolated.unlocked (everyFilePlaced_of_heldAt hdistinct hheld)
  refine ⟨hseparate, fun index hindex ↦ ?_, hnamed.locked hisolated.unlocked⟩
  have hwalked := List.getElem?_eq_getElem hindex
  have hsource : start.walked[index] ∈ start.files := by
    rw [← hseparate.walked]
    exact List.getElem_mem hindex
  obtain ⟨-, -, placed, hworker, hreached⟩ := htraced.placed_of_heldAt (hheld _ hsource)
  have hplaced := htraced.walked_getElem? hworker
  obtain rfl : placed = index := by
    by_contra hne
    exact hseparate.cleanedName_ne hplaced hwalked hne rfl
  exact hreached.2.2

theorem NothingFails.isolated {state : CopyState}
    (hnothing : NothingFails removeDiacritics calls start)
    (htraced : Traced removeDiacritics calls start state) (hended : Ended calls state)
    (hsound : Sound removeDiacritics calls start state) (hreturned : state.result.isSome = true) :
    Isolated removeDiacritics start state := by
  obtain ⟨result, hresult⟩ := Option.isSome_iff_exists.mp hreturned
  have hok : result = .ok := by
    cases result with
    | ok => rfl
    | lockNotRemoved =>
      have hkept := hended.lockNotRemoved hresult
      rw [hnothing.unlocks] at hkept
      cases hkept
    | panicked =>
      have hpanicked := hended.panicked hresult
      rw [hsound.running] at hpanicked
      cases hpanicked
  subst hok
  have hnone : ∀ source, ¬ CopyFailed state source := by
    rintro source ⟨index, hworker⟩
    exact hsound.fits index _ hworker
  obtain ⟨htoWalk, hunlocked⟩ := hended.ok hresult
  have hdone := (hended.returned _ hresult).2
  exact ⟨⟨.ok, hresult, nofun⟩, hunlocked,
    fun source hsource ↦ .inr (hnothing.separate.heldAt htraced hsound htoWalk hdone hsource),
    fun source hfailed ↦ absurd hfailed (hnone source),
    fun source hfailed ↦ absurd hfailed (hnone source)⟩

/-- In every order of the threads, a copy that has come to its end has isolated its failures if and
only if nothing failed. Assumes: the names of the files are distinct. -/
theorem isolated_iff
    (hdistinct : (start.files.map fun source ↦ cleanedName removeDiacritics source.name).Nodup)
    {history : List (Move × Unit)} {state : CopyState}
    (hrun : Copies removeDiacritics calls start history state)
    (hsettled : Settled removeDiacritics calls state) :
    Isolated removeDiacritics start state ↔ NothingFails removeDiacritics calls start := by
  have htraced := traced_of_copies hrun
  constructor
  · exact fun hisolated ↦ hisolated.nothingFails hdistinct htraced (named_of_copies hrun)
  · intro hnothing
    exact hnothing.isolated htraced (ended_of_copies hrun)
      (sound_of_copies hnothing.separate hnothing.succeed hrun) (isSome_of_settled hsettled)

end Isolated

/-! ### A failing copy and the walk -/

/-- The copy of the first file fails, and every other call succeeds. -/
def firstFails : CopyCalls :=
  { succeedingCopy with copies := fun index ↦ index ≠ 0 }

/-- The first thread fails and detaches the mount before the walk goes on. -/
def failedBeforeWalk : List Move :=
  [.walk, .work 0 0, .work 0 0, .fail 0, .work 0 0, .work 0 0, .walk, .finish]

/-- A copy without failures has none to isolate. -/
theorem isolated_flatDevice :
    Isolated id flatDevice
      (execute (copyStep id succeedingCopy) flatDevice.begin (oneAfterTheOther 2)).2 := by
  have hrun : Copies id succeedingCopy flatDevice _ _ := copies_execute (oneAfterTheOther 2)
  refine (isolated_iff (by decide) hrun ((ended_of_copies hrun).settled (by decide))).mpr ?_
  exact ⟨separate_flatDevice, copiesSucceed_succeedingCopy, rfl⟩

/-- When the copy of the first of two files fails, the walk panics. -/
theorem not_isolated_flatDevice :
    (flatDevice.files.map fun source ↦ cleanedName id source.name).Nodup ∧ ∃ history state,
      Copies id firstFails flatDevice history state ∧ Settled id firstFails state ∧
        state.result = some .panicked ∧ ¬ Isolated id flatDevice state := by
  have hrun : Copies id firstFails flatDevice _ _ := copies_execute failedBeforeWalk
  have hpanicked : (execute (copyStep id firstFails) flatDevice.begin failedBeforeWalk).2.result =
      some .panicked := by decide
  refine ⟨by decide, _, _, hrun, (ended_of_copies hrun).settled ?_, hpanicked, fun hisolated ↦ ?_⟩
  · rw [hpanicked]
    rfl
  · obtain ⟨result, hresult, hne⟩ := hisolated.returns
    exact hne (Option.some.inj (hresult.symm.trans hpanicked))

end Keysas.Io
