import Keysas.Io.YubikeyGate

/-!
# Events that end a client thread

The thread of a websocket client is to handle one event after the other, and to leave neither of the
lock files behind when it waits for the next. `Waits` says so of a client between two events.

Every `?` of the loop body ends the thread, and an operation that fails after `busy_in` or
`busy_out` leaves the lock file that was made. `survives` is the test that no operation on the path
of an event fails, by the event, the answers and the state before it.

`reaches_handleEvent_iff` says that one event is survived exactly when it passes the test, and
`waits_iff` says so of every sequence of events.
-/

set_option autoImplicit false
set_option relaxedAutoImplicit false

namespace Keysas.Io

open Runs RustStd

/-! ### The property and the test -/

/-- Neither lock file exists. -/
def MonitorState.Idle (state : MonitorState) : Prop :=
  state.locks.workingIn = false ∧ state.locks.workingOut = false

/-- The thread waits for the next event, and no lock file is left. -/
def Client.Waits (client : Client) : Prop :=
  client.running = true ∧ client.state.Idle

/-- The copy of a new unsigned device does not fail. With Yubikeys active it is not tried when the
challenge gives no user. -/
def survivesCopy (yubikey : Bool) (outcomes : Outcomes) : Bool :=
  outcomes.copyDeviceIn || (yubikey && outcomes.hmacChallenge.isNone)

/-- The lock file is removed at the end. It was not made when its directory had to be created. -/
def survivesReady (locks : LockFiles) (outcomes : Outcomes) : Bool :=
  outcomes.ready || !locks.varLockDir

/-- No operation on the path of an added device fails. -/
def survivesAddition (yubikey : Bool) (state : MonitorState) (event : UdevEvent)
    (outcomes : Outcomes) (product : String) : Bool :=
  if outcomes.isSigned then
    state.keysOut.contains product ||
      outcomes.busy && outcomes.moveDeviceOut && survivesReady state.locks outcomes
  else if state.keysIn.contains product then
    event.devtype != some (.ofText "partition") ||
      outcomes.busy && outcomes.send 1 && outcomes.copyDeviceIn &&
        survivesReady state.locks outcomes
  else
    outcomes.busy && outcomes.send 1 && survivesCopy yubikey outcomes &&
      survivesReady state.locks outcomes

/-- No operation on the path of an event fails. -/
def survives (yubikey : Bool) (state : MonitorState) (event : UdevEvent) (outcomes : Outcomes) :
    Bool :=
  if event.isAddition then
    outcomes.send 0 && (readAddedDevice event).any fun added ↦
      survivesAddition yubikey state event outcomes added.1
  else !event.isRemoval || outcomes.send 0

/-! ### The lock files -/

section Locks

variable {state : MonitorState} {succeeds : Bool} {post : MonitorState → Unit → Prop}

/-- An idle thread that becomes busy makes the directory of the lock files or the lock file. -/
def MonitorState.busyWithIn (state : MonitorState) : MonitorState :=
  { state with
    locks :=
      if state.locks.varLockDir then { state.locks with workingIn := true }
      else { state.locks with varLockDir := true } }

def MonitorState.busyWithOut (state : MonitorState) : MonitorState :=
  { state with
    locks :=
      if state.locks.varLockDir then { state.locks with workingOut := true }
      else { state.locks with varLockDir := true } }

theorem reaches_busyIn_iff (hidle : state.Idle) :
    (busyIn succeeds).Reaches state post ↔ succeeds = true ∧ post state.busyWithIn () := by
  rw [busyIn, Program.reaches_get_bind_iff]
  cases hdir : state.locks.varLockDir with
  | false => simp [MonitorState.busyWithIn, hdir]
  | true => simp [MonitorState.busyWithIn, hdir, hidle.1, hidle.2]

theorem reaches_busyOut_iff (hidle : state.Idle) :
    (busyOut succeeds).Reaches state post ↔ succeeds = true ∧ post state.busyWithOut () := by
  rw [busyOut, Program.reaches_get_bind_iff]
  cases hdir : state.locks.varLockDir with
  | false => simp [MonitorState.busyWithOut, hdir]
  | true => simp [MonitorState.busyWithOut, hdir, hidle.1, hidle.2]

/-- A thread that has become busy is idle again when the lock file, if it was made, is removed. -/
theorem reaches_readyIn_iff {reached : MonitorState} (hidle : state.Idle)
    (hlocks : reached.locks = state.busyWithIn.locks) :
    (readyIn succeeds).Reaches reached (fun after _ ↦ after.Idle) ↔
      (succeeds || !state.locks.varLockDir) = true := by
  rw [readyIn, Program.reaches_get_bind_iff, hlocks]
  cases hdir : state.locks.varLockDir with
  | false => simp [MonitorState.busyWithIn, MonitorState.Idle, hdir, hlocks, hidle.1, hidle.2]
  | true => simp [MonitorState.busyWithIn, MonitorState.Idle, hdir, hlocks, hidle.2]

theorem reaches_readyOut_iff {reached : MonitorState} (hidle : state.Idle)
    (hlocks : reached.locks = state.busyWithOut.locks) :
    (readyOut succeeds).Reaches reached (fun after _ ↦ after.Idle) ↔
      (succeeds || !state.locks.varLockDir) = true := by
  rw [readyOut, Program.reaches_get_bind_iff, hlocks]
  cases hdir : state.locks.varLockDir with
  | false => simp [MonitorState.busyWithOut, MonitorState.Idle, hdir, hlocks, hidle.1, hidle.2]
  | true => simp [MonitorState.busyWithOut, MonitorState.Idle, hdir, hlocks, hidle.1]

end Locks

/-! ### One event -/

section Event

variable {yubikey : Bool} {outcomes : Outcomes} {state : MonitorState}

theorem reaches_sendKeys_iff {count : ℕ} {usbIn usbOut usbUndef : List String}
    {post : MonitorState → Unit → Prop} :
    (sendKeys yubikey outcomes count usbIn usbOut usbUndef).Reaches state post ↔
      outcomes.send count = true ∧ post state () := by
  rw [sendKeys, Program.reaches_emit_bind_iff, Program.reaches_require_iff]

theorem reaches_sendState_iff {count : ℕ} {post : MonitorState → Unit → Prop} :
    (sendState yubikey outcomes count).Reaches state post ↔
      outcomes.send count = true ∧ post state () := by
  rw [sendState, Program.reaches_get_bind_iff, reaches_sendKeys_iff]

theorem reaches_copyDeviceIn_iff {device : String} {post : MonitorState → Unit → Prop} :
    (copyDeviceIn outcomes device).Reaches state post ↔
      outcomes.copyDeviceIn = true ∧ post state () := by
  rw [copyDeviceIn, Program.reaches_emit_bind_iff, Program.reaches_require_iff]

theorem reaches_moveDeviceOut_iff {device : String} {post : MonitorState → Unit → Prop} :
    (moveDeviceOut outcomes device).Reaches state post ↔
      outcomes.moveDeviceOut = true ∧ post state () := by
  rw [moveDeviceOut, Program.reaches_emit_bind_iff, Program.reaches_require_iff]

theorem reaches_newUnsignedDevice_iff (hidle : state.Idle) (product device : String) :
    (newUnsignedDevice yubikey outcomes product device).Reaches state (fun after _ ↦ after.Idle) ↔
      (outcomes.busy && outcomes.send 1 && survivesCopy yubikey outcomes &&
        survivesReady state.locks outcomes) = true := by
  have hready : (readyIn outcomes.ready).Reaches
      { state.busyWithIn with keysIn := state.busyWithIn.keysIn ++ [product] }
      (fun after _ ↦ after.Idle) ↔ survivesReady state.locks outcomes = true :=
    reaches_readyIn_iff hidle rfl
  rw [newUnsignedDevice, Program.reaches_bind_iff, reaches_busyIn_iff hidle,
    Program.reaches_modify_bind_iff, Program.reaches_bind_iff, reaches_sendState_iff]
  simp only [Program.reaches_ite_iff, Program.reaches_bind_iff, reaches_copyDeviceIn_iff]
  cases yubikey with
  | false =>
    rw [if_neg Bool.false_ne_true, hready]
    simp [survivesCopy, and_assoc]
  | true =>
    rw [if_pos rfl, hmacChallenge, Program.reaches_emit_bind_iff, Program.reaches_pure_iff]
    cases hchallenge : outcomes.hmacChallenge with
    | none =>
      dsimp only
      rw [hready]
      simp [survivesCopy, hchallenge, and_assoc]
    | some user =>
      simp only [Program.reaches_bind_iff, reaches_copyDeviceIn_iff]
      rw [hready]
      simp [survivesCopy, hchallenge, and_assoc]

theorem reaches_seenUnsignedPartition_iff (hidle : state.Idle) (device : String) :
    (seenUnsignedPartition yubikey outcomes device).Reaches state (fun after _ ↦ after.Idle) ↔
      (outcomes.busy && outcomes.send 1 && outcomes.copyDeviceIn &&
        survivesReady state.locks outcomes) = true := by
  rw [seenUnsignedPartition, Program.reaches_bind_iff, reaches_busyIn_iff hidle,
    Program.reaches_bind_iff, reaches_sendState_iff, Program.reaches_bind_iff,
    reaches_copyDeviceIn_iff, reaches_readyIn_iff hidle rfl]
  simp [survivesReady, and_assoc]

theorem reaches_newSignedDevice_iff (hidle : state.Idle) (product device : String) :
    (newSignedDevice yubikey outcomes product device).Reaches state (fun after _ ↦ after.Idle) ↔
      (outcomes.busy && outcomes.moveDeviceOut && survivesReady state.locks outcomes) = true := by
  have hready : (readyOut outcomes.ready).Reaches
      { state.busyWithOut with keysOut := state.busyWithOut.keysOut ++ [product] }
      (fun after _ ↦ after.Idle) ↔ survivesReady state.locks outcomes = true :=
    reaches_readyOut_iff hidle rfl
  rw [newSignedDevice, Program.reaches_bind_iff, reaches_busyOut_iff hidle,
    Program.reaches_modify_bind_iff, Program.reaches_get_bind_iff, Program.reaches_emit_bind_iff,
    Program.reaches_bind_iff, reaches_moveDeviceOut_iff, hready]
  simp [and_assoc]

/-- The branch of an added device is survived exactly when nothing on its path fails. -/
theorem reaches_handleAddition_iff (hidle : state.Idle) (event : UdevEvent) :
    (handleAddition yubikey outcomes event).Reaches state (fun after _ ↦ after.Idle) ↔
      (outcomes.send 0 && (readAddedDevice event).any fun added ↦
        survivesAddition yubikey state event outcomes added.1) = true := by
  rw [handleAddition, Program.reaches_bind_iff, reaches_sendKeys_iff, Bool.and_eq_true,
    Program.reaches_ofExcept_bind_iff]
  refine and_congr_right fun _ ↦ ?_
  cases hadded : readAddedDevice event with
  | none => simp [okOr]
  | some added =>
    obtain ⟨product, device⟩ := added
    simp only [okOr, Except.ok.injEq, exists_eq_left', Option.any_some,
      Program.reaches_get_bind_iff, Program.reaches_ite_iff, reaches_newUnsignedDevice_iff hidle,
      reaches_seenUnsignedPartition_iff hidle, reaches_newSignedDevice_iff hidle,
      Program.reaches_pure_iff, survivesAddition]
    have hstay : state.Idle ↔ True := iff_true_intro hidle
    cases outcomes.isSigned with
    | true =>
      by_cases hseen : product ∈ state.keysOut <;> simp [hseen, hstay]
    | false =>
      by_cases hseen : product ∈ state.keysIn
      · by_cases hpartition : event.devtype = some (.ofText "partition") <;>
          simp [hseen, hstay, hpartition]
      · simp [hseen]

/-- A removal does not change the lock files. -/
theorem locks_forget (event : UdevEvent) : (forget event state).locks = state.locks := by
  simp only [forget]
  split_ifs <;> rfl

/-- One event is survived exactly when nothing on its path fails. -/
theorem reaches_handleEvent_iff (hidle : state.Idle) (event : UdevEvent) :
    (handleEvent yubikey outcomes event).Reaches state (fun after _ ↦ after.Idle) ↔
      survives yubikey state event outcomes = true := by
  rw [handleEvent, survives, Program.reaches_ite_iff]
  by_cases haddition : event.isAddition
  · rw [if_pos haddition, if_pos haddition]
    exact reaches_handleAddition_iff hidle event
  · rw [if_neg haddition, if_neg haddition, Program.reaches_ite_iff]
    by_cases hremoval : event.isRemoval
    · rw [if_pos hremoval, handleRemoval, Program.reaches_modify_bind_iff, reaches_sendState_iff]
      have hforget : (forget event state).Idle := by
        rw [MonitorState.Idle, locks_forget]
        exact hidle
      simp [hremoval, hforget]
    · rw [if_neg hremoval]
      simp [hremoval, hidle]

end Event

/-! ### Sequences of events -/

theorem waits_monitorStep_iff (yubikey : Bool) {client : Client} (hwaits : client.Waits)
    (input : UdevEvent × Outcomes) :
    (monitorStep yubikey client input).1.Waits ↔
      survives yubikey client.state input.1 input.2 = true := by
  obtain ⟨event, outcomes⟩ := input
  rw [← reaches_handleEvent_iff hwaits.2, monitorStep, if_pos hwaits.1, Client.Waits,
    Program.Reaches]
  cases (handleEvent yubikey outcomes event).run client.state with
  | mk trace reached value =>
    cases value with
    | error error => simp [Except.isOk, Except.toBool]
    | ok value => simp [Except.isOk, Except.toBool]

/-- A client that has just connected waits after every event of a sequence if and only if no
operation on the path of any of them fails. -/
theorem waits_iff (yubikey varLockDir : Bool) (inputs : List (UdevEvent × Outcomes)) :
    (∀ front, front <+: inputs →
      (execute (monitorStep yubikey) (Client.connected ⟨varLockDir, false, false⟩) front).2.Waits) ↔
    Admits (monitorStep yubikey)
      (fun _ client input ↦ survives yubikey client.state input.1 input.2 = true) []
      (Client.connected ⟨varLockDir, false, false⟩) inputs := by
  have hconnected : (Client.connected ⟨varLockDir, false, false⟩).Waits := ⟨rfl, rfl, rfl⟩
  refine @forall_prefix_iff_admits _ _ _ _ _ Client.Waits ?_ inputs [] _ hconnected
  intro history client input hwaits
  exact waits_monitorStep_iff yubikey hwaits input

/-- The addition of a disk without a serial number. -/
def withoutSerial : UdevEvent :=
  { added "disk" "/dev/sdb" with idSerial := none }

/-- The copy of a device fails. -/
def copyFails : Outcomes :=
  { unsigned none with copyDeviceIn := false }

/-- A disk without a serial number ends the thread, and so does a copy that fails, which leaves the
lock file. -/
theorem not_forall_waits :
    ¬ (∀ (yubikey varLockDir : Bool) (inputs : List (UdevEvent × Outcomes)),
      (∀ input ∈ inputs, ∀ count, input.2.send count = true) → ∀ front, front <+: inputs →
        (execute (monitorStep yubikey)
          (Client.connected ⟨varLockDir, false, false⟩) front).2.Waits) ∧
    (execute (monitorStep false) (Client.connected ⟨true, false, false⟩)
      [(withoutSerial, unsigned none)]).2.running = false ∧
    (execute (monitorStep false) (Client.connected ⟨true, false, false⟩)
      [(added "disk" "/dev/sdb", copyFails)]).2 =
        ⟨⟨["0781/5581/0100"], [], [], ⟨true, true, false⟩⟩, false⟩ := by
  have hended : (execute (monitorStep false) (Client.connected ⟨true, false, false⟩)
      [(withoutSerial, unsigned none)]).2.running = false := by decide
  refine ⟨fun hwaits ↦ ?_, hended, by decide⟩
  have hrunning := (hwaits false true [(withoutSerial, unsigned none)]
    (by simp [unsigned]) _ (List.prefix_refl _)).1
  rw [hended] at hrunning
  cases hrunning

end Keysas.Io
