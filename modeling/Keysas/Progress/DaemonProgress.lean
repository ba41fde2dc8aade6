import Mathlib.Data.List.Nodup
import Keysas.In.SendFiles
import Keysas.Runs.HistoryRun
import Keysas.Transit.CheckFiles

/-!
# The progress of a daemon

A daemon shows how far it is: the files in its queue, the file in hand, and how many files were
processed or failed. The total is computed anew when files are added, from the queue and the files
that are done, and a file that is started leaves the queue with all its duplicates.

`Issued` is what the daemons keep to: they start names of the queue only, and complete a file only
when they have done nothing but show its steps since it was started. `Balanced` says that the total
is what the other counts add up to. `overallPercentage_of_issued` says that the percentage is exact
whatever is issued, and exactly when the counts add up: files are added and started while no file is
in hand, and a name that is started stands in the queue once.

The calls of `keysas-in` are issued, however often it lists the same files
(`admits_issued_inCalls`), and so are those of transit, which also keep the balance because transit
completes each file before it adds the next ones (`admits_counted_transit`). `keysas-in` loses the
balance when the connection breaks and it lists the file in hand again.
-/

set_option autoImplicit false
set_option relaxedAutoImplicit false

namespace Keysas.Transit.AnalysisStep

/-- `AnalysisStep::description`: a key of the interface, or the reason of a failure. -/
def description : AnalysisStep → String
  | pending => "progress.pending"
  | hashing => "progress.hashing"
  | checkingSize => "progress.checking_size"
  | checkingFileType => "progress.checking_file_type"
  | antivirusScan => "progress.antivirus_scan"
  | yaraScan => "progress.yara_scan"
  | specializedAnalysis => "progress.specialized_analysis"
  | virusTotalScan => "progress.virustotal_scan"
  | verifyingSignature => "progress.verifying_signature"
  | complete => "progress.complete"
  | failed reason => reason

/-- `AnalysisStep::percentage`. -/
def percentage : AnalysisStep → UInt8
  | pending => 0
  | hashing => 10
  | checkingSize => 20
  | checkingFileType => 30
  | antivirusScan => 50
  | yaraScan => 65
  | specializedAnalysis => 75
  | virusTotalScan => 85
  | verifyingSignature => 93
  | complete => 100
  | failed _ => 0

end Keysas.Transit.AnalysisStep

namespace Keysas.Progress

open Runs Transit

/-! ### The file in hand -/

/-- `FileProgress`, without the times. -/
structure FileProgress where
  filename : String
  step : AnalysisStep
  stepDescription : String
  percentage : UInt8
  deriving DecidableEq

namespace FileProgress

/-- `FileProgress::new`. -/
def new (filename : String) : FileProgress where
  filename := filename
  step := .pending
  stepDescription := "progress.pending"
  percentage := 0

/-- `FileProgress::update_step`. -/
def updateStep (file : FileProgress) (step : AnalysisStep) (percentage : UInt8) : FileProgress :=
  { file with step := step, percentage := percentage, stepDescription := step.description }

end FileProgress

/-! ### The counts -/

/-- `DaemonProgress`. -/
structure DaemonProgress where
  daemonName : String
  totalFiles : ℕ
  processedFiles : ℕ
  failedFiles : ℕ
  currentFile : Option FileProgress
  queue : List String
  completed : List String
  isProcessing : Bool
  deriving DecidableEq

namespace DaemonProgress

/-- `DaemonProgress::new`. -/
def new (daemonName : String) : DaemonProgress where
  daemonName := daemonName
  totalFiles := 0
  processedFiles := 0
  failedFiles := 0
  currentFile := none
  queue := []
  completed := []
  isProcessing := false

/-- `add_files_to_queue`. -/
def addFilesToQueue (progress : DaemonProgress) (files : List String) : DaemonProgress :=
  let queue := progress.queue ++ files
  { progress with
    queue := queue
    totalFiles := queue.length + progress.processedFiles + progress.failedFiles }

/-- `start_next_file`. -/
def startNextFile (progress : DaemonProgress) (filename : String) : DaemonProgress :=
  { progress with
    currentFile := some (.new filename)
    queue := progress.queue.filter fun f ↦ f != filename
    isProcessing := true }

/-- `update_current_step`. -/
def updateCurrentStep (progress : DaemonProgress) (step : AnalysisStep) : DaemonProgress :=
  { progress with
    currentFile := progress.currentFile.map fun current ↦ current.updateStep step step.percentage }

/-- `complete_current_file`. -/
def completeCurrentFile (progress : DaemonProgress) (success : Bool) : DaemonProgress :=
  match progress.currentFile with
  | none => progress
  | some current =>
    let taken := { progress with currentFile := none }
    let counted :=
      if success then
        { taken with
          processedFiles := taken.processedFiles + 1
          completed := taken.completed ++ [current.filename] }
      else { taken with failedFiles := taken.failedFiles + 1 }
    if counted.queue.isEmpty then { counted with isProcessing := false } else counted

/-- `get_overall_percentage`. The cast keeps the lowest byte. -/
def getOverallPercentage (progress : DaemonProgress) : UInt8 :=
  if progress.totalFiles = 0 then 0
  else
    let completed := progress.processedFiles + progress.failedFiles
    UInt8.ofNat (completed * 100 / progress.totalFiles)

/-- The files that are done. -/
def settled (progress : DaemonProgress) : ℕ :=
  progress.processedFiles + progress.failedFiles

/-- One file when there is one in hand. -/
def inHand (progress : DaemonProgress) : ℕ :=
  if progress.currentFile.isSome then 1 else 0

/-- The total is the number of the files that wait, are in hand, were processed or failed. -/
def Balanced (progress : DaemonProgress) : Prop :=
  progress.totalFiles = progress.queue.length + progress.inHand + progress.processedFiles +
    progress.failedFiles

instance (progress : DaemonProgress) : Decidable progress.Balanced :=
  inferInstanceAs (Decidable (_ = _))

/-- The percentage is the quotient that it is computed from, and at most one hundred. -/
structure PercentageExact (progress : DaemonProgress) : Prop where
  exact : progress.getOverallPercentage.toNat =
    (progress.processedFiles + progress.failedFiles) * 100 / progress.totalFiles
  bounded : progress.getOverallPercentage.toNat ≤ 100

/-! ### What the operations do to the counts -/

section Counts

variable (progress : DaemonProgress)

@[simp] theorem settled_addFilesToQueue (files : List String) :
    (progress.addFilesToQueue files).settled = progress.settled := rfl

@[simp] theorem inHand_addFilesToQueue (files : List String) :
    (progress.addFilesToQueue files).inHand = progress.inHand := rfl

theorem totalFiles_addFilesToQueue (files : List String) :
    (progress.addFilesToQueue files).totalFiles =
      (progress.queue ++ files).length + progress.settled :=
  Nat.add_assoc _ _ _

@[simp] theorem queue_addFilesToQueue (files : List String) :
    (progress.addFilesToQueue files).queue = progress.queue ++ files := rfl

@[simp] theorem settled_startNextFile (filename : String) :
    (progress.startNextFile filename).settled = progress.settled := rfl

@[simp] theorem totalFiles_startNextFile (filename : String) :
    (progress.startNextFile filename).totalFiles = progress.totalFiles := rfl

@[simp] theorem inHand_startNextFile (filename : String) :
    (progress.startNextFile filename).inHand = 1 := rfl

@[simp] theorem queue_startNextFile (filename : String) :
    (progress.startNextFile filename).queue = progress.queue.filter fun f ↦ f != filename := rfl

@[simp] theorem settled_updateCurrentStep (step : AnalysisStep) :
    (progress.updateCurrentStep step).settled = progress.settled := rfl

@[simp] theorem totalFiles_updateCurrentStep (step : AnalysisStep) :
    (progress.updateCurrentStep step).totalFiles = progress.totalFiles := rfl

@[simp] theorem queue_updateCurrentStep (step : AnalysisStep) :
    (progress.updateCurrentStep step).queue = progress.queue := rfl

@[simp] theorem inHand_updateCurrentStep (step : AnalysisStep) :
    (progress.updateCurrentStep step).inHand = progress.inHand := by
  simp [inHand, updateCurrentStep]

@[simp] theorem totalFiles_completeCurrentFile (success : Bool) :
    (progress.completeCurrentFile success).totalFiles = progress.totalFiles := by
  unfold completeCurrentFile
  rcases progress.currentFile with _ | current
  · rfl
  · cases success <;> simp only [Bool.false_eq_true, if_true, if_false] <;> split_ifs <;> rfl

@[simp] theorem queue_completeCurrentFile (success : Bool) :
    (progress.completeCurrentFile success).queue = progress.queue := by
  unfold completeCurrentFile
  rcases progress.currentFile with _ | current
  · rfl
  · cases success <;> simp only [Bool.false_eq_true, if_true, if_false] <;> split_ifs <;> rfl

@[simp] theorem currentFile_completeCurrentFile (success : Bool) :
    (progress.completeCurrentFile success).currentFile = none := by
  unfold completeCurrentFile
  rcases hcurrent : progress.currentFile with _ | current
  · exact hcurrent
  · cases success <;> simp only [Bool.false_eq_true, if_true, if_false] <;> split_ifs <;> rfl

/-- The file in hand becomes one that is done. -/
theorem settled_completeCurrentFile (success : Bool) :
    (progress.completeCurrentFile success).settled = progress.settled + progress.inHand := by
  unfold completeCurrentFile inHand settled
  rcases progress.currentFile with _ | current
  · rfl
  · cases success <;>
      simp only [Bool.false_eq_true, if_true, if_false, Option.isSome_some] <;>
      split_ifs <;> dsimp only <;> omega

theorem balanced_iff :
    progress.Balanced ↔
      progress.totalFiles = progress.queue.length + progress.inHand + progress.settled := by
  unfold Balanced settled
  omega

theorem inHand_le_one : progress.inHand ≤ 1 := by
  unfold inHand
  split_ifs <;> omega

theorem inHand_eq_zero_iff : progress.inHand = 0 ↔ progress.currentFile = none := by
  cases hcurrent : progress.currentFile <;> simp [inHand, hcurrent]

end Counts

/-! ### The percentage -/

section Percentage

variable {progress : DaemonProgress}

/-- No more files are done than there are in total: the percentage is exact. -/
theorem percentageExact_of_settled_le (hsettled : progress.settled ≤ progress.totalFiles) :
    progress.PercentageExact := by
  unfold settled at hsettled
  have hquotient : (progress.processedFiles + progress.failedFiles) * 100 / progress.totalFiles ≤
      100 :=
    Nat.div_le_of_le_mul (Nat.mul_le_mul_right 100 hsettled)
  have hexact : progress.getOverallPercentage.toNat =
      (progress.processedFiles + progress.failedFiles) * 100 / progress.totalFiles := by
    unfold getOverallPercentage
    by_cases htotal : progress.totalFiles = 0
    · simp [htotal]
    · rw [if_neg htotal, UInt8.toNat_ofNat']
      exact Nat.mod_eq_of_lt (by omega)
  exact ⟨hexact, hexact ▸ hquotient⟩

/-- A daemon that has nothing left to do shows one hundred, or nothing when there never was a
file. Assumes: its counts add up. -/
theorem getOverallPercentage_of_idle (hbalanced : progress.Balanced) (hqueue : progress.queue = [])
    (hcurrent : progress.currentFile = none) :
    progress.getOverallPercentage = if progress.totalFiles = 0 then 0 else 100 := by
  have htotal : progress.totalFiles = progress.processedFiles + progress.failedFiles := by
    have hall := progress.balanced_iff.mp hbalanced
    rw [hqueue, (inHand_eq_zero_iff progress).mpr hcurrent] at hall
    simpa [settled] using hall
  unfold getOverallPercentage
  by_cases hnone : progress.totalFiles = 0
  · rw [if_pos hnone, if_pos hnone]
  · have hpos : 0 < progress.totalFiles := Nat.pos_of_ne_zero hnone
    rw [if_neg hnone, if_neg hnone]
    simp only [← htotal, Nat.mul_div_cancel_left 100 hpos]
    rfl

end Percentage

/-! ### What keeps the balance -/

section Balance

variable {progress : DaemonProgress}

/-- The total that is computed anew does not count the file in hand. -/
theorem balanced_addFilesToQueue_iff (files : List String) :
    (progress.addFilesToQueue files).Balanced ↔ progress.currentFile = none := by
  rw [balanced_iff, totalFiles_addFilesToQueue, queue_addFilesToQueue, inHand_addFilesToQueue,
    settled_addFilesToQueue, ← inHand_eq_zero_iff]
  omega

/-- A file that is started leaves the queue as often as it stands there. -/
theorem length_queue_startNextFile (progress : DaemonProgress) (filename : String) :
    (progress.startNextFile filename).queue.length + progress.queue.count filename =
      progress.queue.length := by
  have hsplit := progress.queue.length_eq_countP_add_countP fun f ↦ f != filename
  simp only [List.countP_eq_length_filter, bne_iff_ne, ne_eq, decide_not, Bool.not_not] at hsplit
  rw [queue_startNextFile, List.count_eq_countP, List.countP_eq_length_filter, hsplit]
  rfl

/-- A start keeps the balance when no file is in hand and the queue has the name once. Assumes: the
queue has it. -/
theorem balanced_startNextFile_iff (hbalanced : progress.Balanced) {filename : String}
    (hqueued : filename ∈ progress.queue) :
    (progress.startNextFile filename).Balanced ↔
      progress.currentFile = none ∧ progress.queue.count filename = 1 := by
  have hlength := progress.length_queue_startNextFile filename
  have hcount : 0 < progress.queue.count filename := List.count_pos_iff.mpr hqueued
  have hbefore := progress.balanced_iff.mp hbalanced
  have hone := progress.inHand_le_one
  rw [balanced_iff, totalFiles_startNextFile, inHand_startNextFile, settled_startNextFile,
    ← inHand_eq_zero_iff]
  omega

theorem balanced_updateCurrentStep_iff (step : AnalysisStep) :
    (progress.updateCurrentStep step).Balanced ↔ progress.Balanced := by
  simp only [balanced_iff, totalFiles_updateCurrentStep, queue_updateCurrentStep,
    inHand_updateCurrentStep, settled_updateCurrentStep]

theorem balanced_completeCurrentFile_iff (success : Bool) :
    (progress.completeCurrentFile success).Balanced ↔ progress.Balanced := by
  have hnone := (inHand_eq_zero_iff _).mpr (progress.currentFile_completeCurrentFile success)
  simp only [balanced_iff, totalFiles_completeCurrentFile, queue_completeCurrentFile, hnone,
    settled_completeCurrentFile]
  omega

end Balance

end DaemonProgress

/-! ### What the daemons call -/

/-- The calls on the progress of a daemon: files are added, or one of the calls about a file. -/
inductive TrackerCall where
  | addFilesToQueue (files : List String)
  | call (call : ProgressCall)
  deriving DecidableEq

/-- One call. -/
def step (progress : DaemonProgress) : TrackerCall → DaemonProgress × Unit
  | .addFilesToQueue files => (progress.addFilesToQueue files, ())
  | .call (.startFile filename) => (progress.startNextFile filename, ())
  | .call (.updateStep analysisStep) => (progress.updateCurrentStep analysisStep, ())
  | .call (.completeFile success) => (progress.completeCurrentFile success, ())

/-- The progress of a daemon after its calls. -/
def after (daemonName : String) (calls : List TrackerCall) : DaemonProgress :=
  (execute step (.new daemonName) calls).2

/-- A start is the last call but for the steps that are shown. -/
def TrackerCall.isStarted (started : Bool) : TrackerCall → Bool
  | .call (.startFile _) => true
  | .call (.updateStep _) => started
  | .addFilesToQueue _ | .call (.completeFile _) => false

/-- The last call that does not show a step is a start. -/
def startedLast (history : List (TrackerCall × Unit)) : Bool :=
  history.foldl (fun started entry ↦ entry.1.isStarted started) false

@[simp] theorem startedLast_append (history : List (TrackerCall × Unit)) (call : TrackerCall) :
    startedLast (history ++ [(call, ())]) = call.isStarted (startedLast history) := by
  simp [startedLast]

/-- What the daemons keep to: a name is started when it is in the queue, and a file is completed
after it was started and its steps were shown. -/
def Issued (history : List (TrackerCall × Unit)) (progress : DaemonProgress) : TrackerCall → Prop
  | .call (.startFile filename) => filename ∈ progress.queue
  | .call (.completeFile _) => startedLast history = true
  | .addFilesToQueue _ | .call (.updateStep _) => True

instance (history : List (TrackerCall × Unit)) (progress : DaemonProgress) :
    ∀ call, Decidable (Issued history progress call)
  | .call (.startFile _) => inferInstanceAs (Decidable (_ ∈ _))
  | .call (.completeFile _) => inferInstanceAs (Decidable (_ = _))
  | .addFilesToQueue _ | .call (.updateStep _) => .isTrue trivial

/-- The calls that keep the balance: files are added and started while no file is in hand, and the
queue has the name of a file that is started once. -/
def Counted (_ : List (TrackerCall × Unit)) (progress : DaemonProgress) : TrackerCall → Prop
  | .addFilesToQueue _ => progress.currentFile = none
  | .call (.startFile filename) =>
    progress.currentFile = none ∧ progress.queue.count filename = 1
  | .call (.updateStep _) | .call (.completeFile _) => True

instance (history : List (TrackerCall × Unit)) (progress : DaemonProgress) :
    ∀ call, Decidable (Counted history progress call)
  | .addFilesToQueue _ => inferInstanceAs (Decidable (_ = _))
  | .call (.startFile _) => inferInstanceAs (Decidable (_ ∧ _))
  | .call (.updateStep _) | .call (.completeFile _) => .isTrue trivial

/-! ### One call -/

/-- There is room in the total for the files that are done, those that wait, and the one that was
started last. -/
def HasRoom (history : List (TrackerCall × Unit)) (progress : DaemonProgress) : Prop :=
  progress.settled + progress.queue.length + (if startedLast history then 1 else 0) ≤
    progress.totalFiles

theorem hasRoom_step {history : List (TrackerCall × Unit)} {progress : DaemonProgress}
    {call : TrackerCall} (hroom : HasRoom history progress)
    (hissued : Issued history progress call) :
    HasRoom (history ++ [(call, (step progress call).2)]) (step progress call).1 := by
  unfold HasRoom at hroom ⊢
  rw [startedLast_append]
  match call with
  | .addFilesToQueue files =>
    simp only [step, TrackerCall.isStarted, Bool.false_eq_true, if_false,
      DaemonProgress.settled_addFilesToQueue, DaemonProgress.queue_addFilesToQueue,
      DaemonProgress.totalFiles_addFilesToQueue]
    omega
  | .call (.startFile filename) =>
    have hlength := progress.length_queue_startNextFile filename
    have hcount : 0 < progress.queue.count filename := List.count_pos_iff.mpr hissued
    simp only [step, TrackerCall.isStarted, if_true, DaemonProgress.settled_startNextFile,
      DaemonProgress.totalFiles_startNextFile]
    omega
  | .call (.updateStep analysisStep) =>
    simp only [step, TrackerCall.isStarted, DaemonProgress.settled_updateCurrentStep,
      DaemonProgress.queue_updateCurrentStep, DaemonProgress.totalFiles_updateCurrentStep]
    exact hroom
  | .call (.completeFile success) =>
    have hlast : startedLast history = true := hissued
    have hone := progress.inHand_le_one
    rw [hlast, if_pos rfl] at hroom
    simp only [step, TrackerCall.isStarted, Bool.false_eq_true, if_false,
      DaemonProgress.settled_completeCurrentFile, DaemonProgress.queue_completeCurrentFile,
      DaemonProgress.totalFiles_completeCurrentFile]
    omega

theorem hasRoom_of_run {daemonName : String} {history : List (TrackerCall × Unit)}
    {progress : DaemonProgress} (hrun : Run step Issued (.new daemonName) history progress) :
    HasRoom history progress :=
  Run.invariant (Nat.le_refl 0) (fun _ _ _ _ ↦ hasRoom_step) hrun

/-- The percentage of every state that is reached is exact. -/
theorem percentageExact_of_run {daemonName : String} {history : List (TrackerCall × Unit)}
    {progress : DaemonProgress} (hrun : Run step Issued (.new daemonName) history progress) :
    progress.PercentageExact := by
  have hroom := hasRoom_of_run hrun
  unfold HasRoom at hroom
  exact DaemonProgress.percentageExact_of_settled_le (by omega)

/-- A call that is issued keeps the balance exactly when it is counted. -/
theorem balanced_step_iff {history : List (TrackerCall × Unit)} {progress : DaemonProgress}
    {call : TrackerCall} (hissued : Issued history progress call) (hbalanced : progress.Balanced) :
    (step progress call).1.Balanced ↔ Counted history progress call := by
  match call with
  | .addFilesToQueue files => exact DaemonProgress.balanced_addFilesToQueue_iff files
  | .call (.startFile filename) => exact DaemonProgress.balanced_startNextFile_iff hbalanced hissued
  | .call (.updateStep analysisStep) =>
    exact iff_of_true ((DaemonProgress.balanced_updateCurrentStep_iff analysisStep).mpr hbalanced)
      trivial
  | .call (.completeFile success) =>
    exact iff_of_true ((DaemonProgress.balanced_completeCurrentFile_iff success).mpr hbalanced)
      trivial

/-! ### A turn about one file -/

/-- The calls that show steps. -/
def updates (steps : List AnalysisStep) : List TrackerCall :=
  steps.map fun analysisStep ↦ .call (.updateStep analysisStep)

/-- What a daemon calls about one file: it is started, its steps are shown, and it is completed or
not. Transit shows one more step then. -/
structure Turn where
  filename : String
  before : List AnalysisStep
  outcome : Option Bool
  after : List AnalysisStep

/-- The calls of a turn. -/
def Turn.calls (turn : Turn) : List TrackerCall :=
  .call (.startFile turn.filename) :: (updates turn.before ++
    (turn.outcome.toList.map (fun success ↦ .call (.completeFile success)) ++ updates turn.after))

section Turns

variable {history : List (TrackerCall × Unit)} {progress : DaemonProgress} {turn : Turn}
  {turns : List Turn}

@[simp] theorem queue_updates (progress : DaemonProgress) (steps : List AnalysisStep) :
    (execute step progress (updates steps)).2.queue = progress.queue := by
  induction steps generalizing progress with
  | nil => rfl
  | cons analysisStep steps ih => exact ih _

@[simp] theorem inHand_updates (progress : DaemonProgress) (steps : List AnalysisStep) :
    (execute step progress (updates steps)).2.inHand = progress.inHand := by
  induction steps generalizing progress with
  | nil => rfl
  | cons analysisStep steps ih => exact (ih _).trans (progress.inHand_updateCurrentStep _)

@[simp] theorem startedLast_updates (history : List (TrackerCall × Unit))
    (progress : DaemonProgress) (steps : List AnalysisStep) :
    startedLast (history ++ (execute step progress (updates steps)).1) = startedLast history := by
  induction steps generalizing history progress with
  | nil => simp [updates, execute]
  | cons analysisStep steps ih =>
    have hlater := ih (history ++ [(.call (.updateStep analysisStep), ())])
      (progress.updateCurrentStep analysisStep)
    rw [List.append_assoc, startedLast_append] at hlater
    exact hlater

/-- Showing steps is always admitted. -/
theorem admits_updates {guard : List (TrackerCall × Unit) → DaemonProgress → TrackerCall → Prop}
    (hguard : ∀ history progress analysisStep,
      guard history progress (.call (.updateStep analysisStep)))
    (history : List (TrackerCall × Unit)) (progress : DaemonProgress) (steps : List AnalysisStep) :
    Admits step guard history progress (updates steps) := by
  induction steps generalizing history progress with
  | nil => trivial
  | cons analysisStep steps ih => exact ⟨hguard _ _ _, ih _ _⟩

theorem queue_turn (progress : DaemonProgress) (turn : Turn) :
    (execute step progress turn.calls).2.queue =
      progress.queue.filter fun f ↦ f != turn.filename := by
  obtain ⟨filename, before, outcome, later⟩ := turn
  cases outcome <;> simp [Turn.calls, execute, execute_append, step]

/-- A file is no longer in hand after a turn that completes it. -/
theorem currentFile_turn (hcompletes : turn.outcome.isSome) (progress : DaemonProgress) :
    (execute step progress turn.calls).2.currentFile = none := by
  obtain ⟨filename, before, outcome, later⟩ := turn
  obtain ⟨success, rfl⟩ := Option.isSome_iff_exists.mp hcompletes
  rw [← DaemonProgress.inHand_eq_zero_iff]
  simp [Turn.calls, execute, execute_append, step, DaemonProgress.inHand_eq_zero_iff]

theorem admits_issued_turn (hqueued : turn.filename ∈ progress.queue) :
    Admits step Issued history progress turn.calls := by
  obtain ⟨filename, before, outcome, later⟩ := turn
  refine ⟨hqueued, admits_append.mpr ⟨admits_updates (fun _ _ _ ↦ trivial) _ _ _,
    admits_append.mpr ⟨?_, admits_updates (fun _ _ _ ↦ trivial) _ _ _⟩⟩⟩
  cases outcome with
  | none => trivial
  | some success =>
    have hstarted := startedLast_updates (history ++ [(.call (.startFile filename), ())])
      (progress.startNextFile filename) before
    rw [startedLast_append] at hstarted
    exact ⟨hstarted, trivial⟩

theorem admits_counted_turn (hcurrent : progress.currentFile = none)
    (hcount : progress.queue.count turn.filename = 1) :
    Admits step Counted history progress turn.calls := by
  obtain ⟨filename, before, outcome, later⟩ := turn
  refine ⟨⟨hcurrent, hcount⟩, admits_append.mpr ⟨admits_updates (fun _ _ _ ↦ trivial) _ _ _,
    admits_append.mpr ⟨?_, admits_updates (fun _ _ _ ↦ trivial) _ _ _⟩⟩⟩
  cases outcome with
  | none => trivial
  | some success => exact ⟨trivial, trivial⟩

/-- A turn leaves the files in the queue that later turns are about. -/
theorem mem_queue_turn (hnew : turn.filename ∉ turns.map Turn.filename)
    (hqueued : ∀ other ∈ turns, other.filename ∈ progress.queue) :
    ∀ other ∈ turns, other.filename ∈ (execute step progress turn.calls).2.queue := by
  intro other hother
  have hne : other.filename ≠ turn.filename := fun heq ↦ hnew (heq ▸ List.mem_map_of_mem hother)
  rw [queue_turn]
  exact List.mem_filter.mpr ⟨hqueued other hother, by simpa using hne⟩

/-- Turns about different files of the queue are issued. -/
theorem admits_issued_turns (hnodup : (turns.map Turn.filename).Nodup)
    (hqueued : ∀ turn ∈ turns, turn.filename ∈ progress.queue) :
    Admits step Issued history progress (turns.flatMap Turn.calls) := by
  induction turns generalizing history progress with
  | nil => trivial
  | cons turn turns ih =>
    obtain ⟨hnew, hnodup⟩ := List.nodup_cons.mp hnodup
    have hqueuedAfter := mem_queue_turn hnew fun other hother ↦
      hqueued other (List.mem_cons_of_mem _ hother)
    exact admits_append.mpr ⟨admits_issued_turn (hqueued turn List.mem_cons_self),
      ih hnodup hqueuedAfter⟩

/-- The turns take their names out of the queue. -/
theorem queue_turns (progress : DaemonProgress) (turns : List Turn) :
    (execute step progress (turns.flatMap Turn.calls)).2.queue =
      progress.queue.filter fun f ↦ !(turns.map Turn.filename).contains f := by
  induction turns generalizing progress with
  | nil => simp [execute]
  | cons turn turns ih =>
    rw [List.flatMap_cons, execute_append, ih, queue_turn, List.filter_filter]
    refine List.filter_congr fun f _ ↦ ?_
    rw [List.map_cons, List.contains_cons, Bool.not_or, Bool.and_comm]
    rfl

/-- No file is in hand after turns that complete their files. -/
theorem currentFile_turns (hcurrent : progress.currentFile = none)
    (hcompletes : ∀ turn ∈ turns, turn.outcome.isSome) :
    (execute step progress (turns.flatMap Turn.calls)).2.currentFile = none := by
  induction turns generalizing progress with
  | nil => exact hcurrent
  | cons turn turns ih =>
    rw [List.flatMap_cons, execute_append]
    exact ih (currentFile_turn (hcompletes turn List.mem_cons_self) progress)
      fun other hother ↦ hcompletes other (List.mem_cons_of_mem _ hother)

/-- Turns about different files of a queue without duplicates keep the balance, when each completes
its file. -/
theorem admits_counted_turns (hcurrent : progress.currentFile = none)
    (hnodup : (turns.map Turn.filename).Nodup) (hqueue : progress.queue.Nodup)
    (hqueued : ∀ turn ∈ turns, turn.filename ∈ progress.queue)
    (hcompletes : ∀ turn ∈ turns, turn.outcome.isSome) :
    Admits step Counted history progress (turns.flatMap Turn.calls) := by
  induction turns generalizing history progress with
  | nil => trivial
  | cons turn turns ih =>
    obtain ⟨hnew, hnodup⟩ := List.nodup_cons.mp hnodup
    have hcount : progress.queue.count turn.filename = 1 :=
      List.nodup_iff_count_eq_one.mp hqueue _ (hqueued turn List.mem_cons_self)
    have hcurrentAfter := currentFile_turn (hcompletes turn List.mem_cons_self) progress
    have hqueueAfter : (execute step progress turn.calls).2.queue.Nodup := by
      rw [queue_turn]
      exact hqueue.filter _
    have hqueuedAfter := mem_queue_turn hnew fun other hother ↦
      hqueued other (List.mem_cons_of_mem _ hother)
    exact admits_append.mpr ⟨admits_counted_turn hcurrent hcount,
      ih hcurrentAfter hnodup hqueueAfter hqueuedAfter
        fun other hother ↦ hcompletes other (List.mem_cons_of_mem _ hother)⟩

end Turns

/-! ### The names that are added together -/

/-- The different names that a daemon adds together, and its turns about some of them in their
order. -/
structure Pass where
  files : List String
  turns : List Turn
  nodup : files.Nodup
  turns_sublist : (turns.map Turn.filename).Sublist files

/-- The calls of a pass. -/
def Pass.calls (pass : Pass) : List TrackerCall :=
  .addFilesToQueue pass.files :: pass.turns.flatMap Turn.calls

/-- Every file that is added is completed. -/
structure Pass.Completes (pass : Pass) : Prop where
  all : pass.turns.map Turn.filename = pass.files
  outcomes : ∀ turn ∈ pass.turns, turn.outcome.isSome

theorem admits_issued_passes (passes : List Pass) (history : List (TrackerCall × Unit))
    (progress : DaemonProgress) :
    Admits step Issued history progress (passes.flatMap Pass.calls) := by
  induction passes generalizing history progress with
  | nil => trivial
  | cons pass passes ih =>
    refine admits_append.mpr ⟨⟨trivial, ?_⟩, ih _ _⟩
    refine admits_issued_turns (pass.turns_sublist.nodup pass.nodup) fun turn hturn ↦ ?_
    exact List.mem_append_right _ (pass.turns_sublist.subset (List.mem_map_of_mem hturn))

/-- Passes that complete their files keep the balance. Assumes: the daemon has nothing to do before
them. -/
theorem admits_counted_passes {passes : List Pass} (hcompletes : ∀ pass ∈ passes, pass.Completes)
    {history : List (TrackerCall × Unit)} {progress : DaemonProgress}
    (hqueue : progress.queue = []) (hcurrent : progress.currentFile = none) :
    Admits step Counted history progress (passes.flatMap Pass.calls) := by
  induction passes generalizing history progress with
  | nil => trivial
  | cons pass passes ih =>
    have hpass := hcompletes pass List.mem_cons_self
    have hadded : (progress.addFilesToQueue pass.files).queue = pass.files := by
      rw [DaemonProgress.queue_addFilesToQueue, hqueue, List.nil_append]
    have hwaits : (progress.addFilesToQueue pass.files).currentFile = none := hcurrent
    have hturns := fun history ↦ @admits_counted_turns history _ pass.turns hwaits
      (hpass.all ▸ pass.nodup) (by rw [hadded]; exact pass.nodup)
      (fun turn hturn ↦ by rw [hadded, ← hpass.all]; exact List.mem_map_of_mem hturn)
      hpass.outcomes
    have hempty : (execute step progress pass.calls).2.queue = [] := by
      change (execute step (progress.addFilesToQueue pass.files)
        (pass.turns.flatMap Turn.calls)).2.queue = []
      rw [queue_turns, hadded, hpass.all]
      simp
    exact admits_append.mpr ⟨⟨hcurrent, hturns _⟩,
      ih (fun other hother ↦ hcompletes other (List.mem_cons_of_mem _ hother)) hempty
        (currentFile_turns hwaits hpass.outcomes)⟩

/-! ### The input daemon -/

/-- How far `send_files` of `keysas-in` gets with a file before it sends the message. -/
inductive Collected where
  | unopened
  | unhashed
  | unencoded
  | ready
  deriving DecidableEq

/-- The turn of `keysas-in` about a file. A file whose metadata cannot be encoded or whose message
cannot be sent is not completed. -/
def inTurn (filename : String) (collected : Collected) (sends : Bool) : Turn :=
  match collected with
  | .unopened => ⟨filename, [.hashing], some false, []⟩
  | .unhashed => ⟨filename, [.hashing, .checkingSize], some false, []⟩
  | .unencoded => ⟨filename, [.hashing, .checkingSize, .verifyingSignature], none, []⟩
  | .ready =>
    ⟨filename, [.hashing, .checkingSize, .verifyingSignature],
      if sends then some true else none, []⟩

@[simp] theorem filename_inTurn (filename : String) (collected : Collected) (sends : Bool) :
    (inTurn filename collected sends).filename = filename := by
  cases collected <;> rfl

/-- The turns of `send_files`, up to a message that cannot be sent. -/
def inTurns (collected : String → Collected) (sends : String → Bool) : List String → List Turn
  | [] => []
  | name :: files =>
    inTurn name (collected name) (sends name) ::
      if sends name then inTurns collected sends files else []

theorem inTurns_sublist (collected : String → Collected) (sends : String → Bool)
    (files : List String) :
    ((inTurns collected sends files).map Turn.filename).Sublist files := by
  induction files with
  | nil => exact List.Sublist.slnil
  | cons name files ih =>
    rw [inTurns, List.map_cons, filename_inTurn]
    by_cases hsends : sends name
    · rw [if_pos hsends]
      exact ih.cons_cons name
    · rw [if_neg hsends]
      exact (List.nil_sublist files).cons_cons name

/-- What `keysas-in` finds when it lists the directory: the files, each once, how far it gets with
each of them, and which of the messages can be sent. -/
structure Listing where
  files : List String
  nodup : files.Nodup
  collected : String → Collected
  sends : String → Bool

/-- The pass over a listing. Files that start with a dot are not sent. -/
def Listing.pass (listing : Listing) : Pass where
  files := listing.files
  turns := inTurns listing.collected listing.sends
    (listing.files.filter fun name ↦ !In.isHidden name)
  nodup := listing.nodup
  turns_sublist := (inTurns_sublist _ _ _).trans List.filter_sublist

/-- The calls of `keysas-in`: nothing is added when the directory is empty. -/
def inCalls (listings : List Listing) : List TrackerCall :=
  ((listings.filter fun listing ↦ !listing.files.isEmpty).map Listing.pass).flatMap Pass.calls

/-- The calls of `keysas-in` are issued, however often it lists the same files. -/
theorem admits_issued_inCalls (listings : List Listing) :
    Admits step Issued [] (.new "keysas-in") (inCalls listings) :=
  admits_issued_passes _ [] _

/-! ### Transit -/

section Batches

variable (conf : Configuration)

/-- The turn of transit about a file that is checked to its end. -/
def checkTurn (filename : String) (verdict : Bool) : Turn where
  filename := filename
  before :=
    [.hashing, .checkingSize, .antivirusScan, .yaraScan, .checkingFileType] ++
      (if conf.socketAnalyze then [.specializedAnalysis] else []) ++
      (if conf.socketVt then [.virusTotalScan] else [])
  outcome := some verdict
  after := [if verdict then .complete else .failed "Vérifications échouées"]

/-- The turn is what `check_files` calls. -/
theorem calls_checkTurn (filename : String) (verdict : Bool) :
    (checkTurn conf filename verdict).calls =
      (stepCalls conf filename ++ publication verdict).map .call := by
  by_cases hanalyze : conf.socketAnalyze = true <;> by_cases hvt : conf.socketVt = true <;>
    simp [Turn.calls, checkTurn, updates, stepCalls, publication, hanalyze, hvt]

/-- A message that transit checks to its end, with files of different names. -/
structure Batch (tools : TypeTools) where
  scansOf : ℕ → FileScans
  files : List FileData
  outcome : List (FileData × List ProgressCall)
  hchecked : checkFiles tools conf scansOf files = some outcome
  nodup : (files.map fun f ↦ f.md.filename).Nodup

variable {conf} {tools : TypeTools}

/-- The calls about a message: its names are added, and each file is checked. -/
def Batch.calls (batch : Batch conf tools) : List TrackerCall :=
  .addFilesToQueue (batch.files.map fun f ↦ f.md.filename) ::
    batch.outcome.flatMap fun f ↦ f.2.map .call

/-- The turns about the files of a message. -/
def Batch.turns (batch : Batch conf tools) : List Turn :=
  batch.files.map fun f ↦
    checkTurn conf f.md.filename (passed (checked tools conf (batch.scansOf f.fd) f.md))

theorem Batch.map_filename_turns (batch : Batch conf tools) :
    batch.turns.map Turn.filename = batch.files.map fun f ↦ f.md.filename := by
  rw [Batch.turns, List.map_map]
  rfl

/-- The pass over a message. -/
def Batch.pass (batch : Batch conf tools) : Pass where
  files := batch.files.map fun f ↦ f.md.filename
  turns := batch.turns
  nodup := batch.nodup
  turns_sublist := batch.map_filename_turns ▸ List.Sublist.refl _

theorem Batch.completes_pass (batch : Batch conf tools) : batch.pass.Completes := by
  refine ⟨batch.map_filename_turns, fun turn hturn ↦ ?_⟩
  obtain ⟨f, -, rfl⟩ := List.mem_map.mp hturn
  rfl

theorem Batch.calls_pass (batch : Batch conf tools) : batch.pass.calls = batch.calls := by
  rw [Batch.calls, Pass.calls, eq_of_checkFiles_eq_some batch.hchecked]
  simp only [Batch.pass, Batch.turns, List.flatMap_map, calls_checkTurn]

/-- The calls of transit are issued, and its counts always add up. -/
theorem admits_counted_transit (batches : List (Batch conf tools)) :
    Admits step Issued [] (.new "keysas-transit") (batches.flatMap Batch.calls) ∧
      Admits step Counted [] (.new "keysas-transit") (batches.flatMap Batch.calls) := by
  have hpasses : batches.flatMap Batch.calls = (batches.map Batch.pass).flatMap Pass.calls := by
    rw [List.flatMap_map]
    simp only [Batch.calls_pass]
  rw [hpasses]
  refine ⟨admits_issued_passes _ [] _, admits_counted_passes (fun pass hpass ↦ ?_) rfl rfl⟩
  obtain ⟨batch, -, rfl⟩ := List.mem_map.mp hpass
  exact batch.completes_pass

end Batches

/-! ### Every sequence that is issued -/

/-- The percentage is exact in every state of a sequence that is issued. The counts add up in all of
them if and only if every call is counted, and where they add up a daemon that has nothing left to
do shows one hundred, or nothing when there never was a file. -/
theorem overallPercentage_of_issued (daemonName : String) (calls : List TrackerCall)
    (hissued : Admits step Issued [] (.new daemonName) calls) :
    (∀ front, front <+: calls → (after daemonName front).PercentageExact) ∧
      ((∀ front, front <+: calls → (after daemonName front).Balanced) ↔
        Admits step Counted [] (.new daemonName) calls) ∧
      ∀ front, front <+: calls → (after daemonName front).Balanced →
        (after daemonName front).queue = [] → (after daemonName front).currentFile = none →
          (after daemonName front).getOverallPercentage =
            if (after daemonName front).totalFiles = 0 then 0 else 100 := by
  refine ⟨?_, ?_, fun front _ ↦ DaemonProgress.getOverallPercentage_of_idle⟩
  · rintro front ⟨rest, rfl⟩
    exact percentageExact_of_run (run_execute front (admits_append.mp hissued).1)
  · have hnew : (DaemonProgress.new daemonName).Balanced := rfl
    exact @forall_prefix_iff_admits_of_assumed _ _ _ step Issued Counted
      DaemonProgress.Balanced DaemonProgress.Balanced (fun _ hbalanced ↦ hbalanced)
      (fun _ _ _ ↦ balanced_step_iff)
      (fun _ _ _ hcall hbalanced ↦ (balanced_step_iff hcall hbalanced).mpr) calls [] _ hissued hnew

/-- What `keysas-in` finds when two files are there that it can read. -/
def twoFiles (sends : Bool) : Listing where
  files := ["a", "b"]
  nodup := by decide
  collected _ := .ready
  sends _ := sends

theorem overallPercentage_twoFiles :
    (after "keysas-in" (inCalls [twoFiles true])).PercentageExact ∧
      (after "keysas-in" (inCalls [twoFiles true])).Balanced ∧
      (after "keysas-in" (inCalls [twoFiles true])).getOverallPercentage = 100 := by
  have hissued : Admits step Issued [] (.new "keysas-in") (inCalls [twoFiles true]) := by decide
  have hcounted : Admits step Counted [] (.new "keysas-in") (inCalls [twoFiles true]) := by decide
  obtain ⟨hexact, hbalance, hidle⟩ := overallPercentage_of_issued "keysas-in" _ hissued
  have hbalanced := hbalance.mpr hcounted _ List.prefix_rfl
  exact ⟨hexact _ List.prefix_rfl, hbalanced,
    (hidle _ List.prefix_rfl hbalanced (by decide) (by decide)).trans (by decide)⟩

/-- The connection breaks at the first of two files, and both are listed again. -/
def relisted : List TrackerCall :=
  inCalls [twoFiles false, twoFiles true]

/-- The counts do not add up when the files are listed again. In the end nothing is left to do and
the daemon shows two thirds. A daemon that never had a file shows nothing. -/
theorem not_balanced_relisted :
    Admits step Issued [] (.new "keysas-in") relisted ∧
      ¬ (after "keysas-in" (relisted.take 6)).Balanced ∧
      (after "keysas-in" relisted).queue = [] ∧
      (after "keysas-in" relisted).currentFile = none ∧
      (after "keysas-in" relisted).getOverallPercentage = 66 ∧
      (after "keysas-in" []).queue = [] ∧ (after "keysas-in" []).currentFile = none ∧
      (after "keysas-in" []).getOverallPercentage = 0 := by
  decide

end Keysas.Progress
