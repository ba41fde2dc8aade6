import Keysas.Io.UdevEventLoop

/-!
# The Yubikey gate of keysas-io

With Yubikeys active an unsigned device should be copied only after a challenge that an enrolled
user answered. `Gated` says so of what the thread does for one event.

A device whose product is new passes through the challenge, and the gate holds there. An unsigned
partition whose product is already known takes another branch, which copies without a challenge: a
key announces itself as a disk and then as a partition, and the first of the two makes the product
known whatever the challenge gave. `copiesSeenPartition` is the test for that branch, together with
everything that lets it reach the copy.

`gated_monitorStep_iff` says that one event is gated exactly when it fails the test, and
`gated_of_run` that a run whose events all fail it is gated throughout.
-/

set_option autoImplicit false
set_option relaxedAutoImplicit false

namespace Keysas.Io

open Runs RustStd

/-! ### The property of one event -/

/-- Every copy in the trace of an event comes after a challenge that gave a user. -/
def GatedTrace (trace : List Action) : Prop :=
  ∀ front device back, trace = front ++ .copyDeviceIn device :: back →
    ∃ user, .hmacChallenge (some user) ∈ front

/-- An unsigned device is copied only after a challenge, during the same event, that gave a user. -/
def Gated (input : UdevEvent × Outcomes) (trace : List Action) : Prop :=
  input.2.isSigned = false → GatedTrace trace

theorem gatedTrace_nil : GatedTrace [] := by
  intro front device back htrace
  simp at htrace

/-- A copy that nothing precedes is not gated. -/
theorem not_gatedTrace_copyDeviceIn (device : String) (more : List Action) :
    ¬ GatedTrace (.copyDeviceIn device :: more) := by
  intro hgated
  obtain ⟨user, huser⟩ := hgated [] device more rfl
  exact List.not_mem_nil huser

/-- A challenge that gave a user opens the gate for everything that follows. -/
theorem gatedTrace_challenge (user : String) (more : List Action) :
    GatedTrace (.hmacChallenge (some user) :: more) := by
  intro front device back htrace
  cases front with
  | nil => simp at htrace
  | cons action front =>
    obtain ⟨rfl, -⟩ : Action.hmacChallenge (some user) = action ∧ _ := by simpa using htrace
    exact ⟨user, List.mem_cons_self⟩

/-- Other actions neither need the gate nor open it. Assumes: the action is neither a copy of an
input device nor a challenge that gave a user. -/
theorem gatedTrace_cons_iff {action : Action} {more : List Action}
    (hcopy : ∀ device, action ≠ .copyDeviceIn device)
    (hchallenge : ∀ user, action ≠ .hmacChallenge (some user)) :
    GatedTrace (action :: more) ↔ GatedTrace more := by
  constructor
  · intro hgated front device back htrace
    obtain ⟨user, huser⟩ := hgated (action :: front) device back (by rw [htrace]; rfl)
    rcases List.mem_cons.mp huser with haction | hfront
    · exact absurd haction.symm (hchallenge user)
    · exact ⟨user, hfront⟩
  · intro hgated front device back htrace
    cases front with
    | nil =>
      obtain ⟨haction, -⟩ : action = .copyDeviceIn device ∧ _ := by simpa using htrace
      exact absurd haction (hcopy device)
    | cons first front =>
      obtain ⟨-, hmore⟩ : action = first ∧ more = front ++ .copyDeviceIn device :: back := by
        simpa using htrace
      obtain ⟨user, huser⟩ := hgated front device back hmore
      exact ⟨user, List.mem_cons_of_mem _ huser⟩

theorem gatedTrace_send_iff {keys : Usbkeys} {more : List Action} :
    GatedTrace (.send keys :: more) ↔ GatedTrace more :=
  gatedTrace_cons_iff (fun _ ↦ by simp) fun _ ↦ by simp

/-! ### The parts of the loop body -/

/-- Whether `busy_in` succeeds: it has nothing to do when the lock directory and its own lock file
exist and the other lock file does not. -/
def MonitorState.busyInSucceeds (state : MonitorState) (succeeds : Bool) : Bool :=
  succeeds || (state.locks.varLockDir && !state.locks.workingOut && state.locks.workingIn)

theorem trace_busyIn (succeeds : Bool) (state : MonitorState) :
    ((busyIn succeeds).run state).trace = [] := by
  simp only [busyIn, Program.run_get_bind, Program.run_ite, Program.run_require_bind,
    Program.run_modify, Program.run_pure]
  split_ifs <;> rfl

theorem value_busyIn (succeeds : Bool) (state : MonitorState) :
    ((busyIn succeeds).run state).value =
      if state.busyInSucceeds succeeds then .ok () else .error () := by
  rcases state with ⟨keysIn, keysOut, keysUndef, ⟨varLockDir, workingIn, workingOut⟩⟩
  simp only [busyIn, MonitorState.busyInSucceeds, Program.run_get_bind, Program.run_ite,
    Program.run_require_bind, Program.run_modify, Program.run_pure]
  cases varLockDir <;> cases workingOut <;> cases workingIn <;> cases succeeds <;> rfl

theorem trace_readyIn (succeeds : Bool) (state : MonitorState) :
    ((readyIn succeeds).run state).trace = [] := by
  simp only [readyIn, Program.run_get_bind, Program.run_ite, Program.run_require_bind,
    Program.run_modify, Program.run_pure]
  split_ifs <;> rfl

section Parts

variable (yubikey : Bool) (outcomes : Outcomes) (device : String) (state : MonitorState)

/-- What follows a message is gated exactly when the whole is, and there is nothing to gate when the
message is not sent. -/
theorem gatedTrace_sendKeys_bind_iff {count : ℕ} {usbIn usbOut usbUndef : List String}
    {next : Unit → Program Action MonitorState Unit Unit} :
    GatedTrace ((sendKeys yubikey outcomes count usbIn usbOut usbUndef >>= next).run state).trace ↔
      (outcomes.send count → GatedTrace ((next ()).run state).trace) := by
  have htrace : ((sendKeys yubikey outcomes count usbIn usbOut usbUndef).run state).trace =
      [.send ⟨usbIn, usbOut, usbUndef, yubikey, outcomes.listYubikey count⟩] := rfl
  have hvalue : ((sendKeys yubikey outcomes count usbIn usbOut usbUndef).run state).value =
      if outcomes.send count then .ok () else .error () := rfl
  have hstate : ((sendKeys yubikey outcomes count usbIn usbOut usbUndef).run state).state =
      state := rfl
  rw [Program.trace_bind, htrace, hvalue, hstate, List.singleton_append, gatedTrace_send_iff]
  by_cases hsend : outcomes.send count
  · simp [hsend]
  · simp [hsend, gatedTrace_nil]

theorem gatedTrace_sendState_bind_iff {count : ℕ}
    {next : Unit → Program Action MonitorState Unit Unit} :
    GatedTrace ((sendState yubikey outcomes count >>= next).run state).trace ↔
      (outcomes.send count → GatedTrace ((next ()).run state).trace) :=
  gatedTrace_sendKeys_bind_iff yubikey outcomes state

/-- With Yubikeys active, a device whose product is new is copied behind a challenge. -/
theorem gatedTrace_newUnsignedDevice (product : String) :
    GatedTrace ((newUnsignedDevice true outcomes product device).run state).trace := by
  rw [newUnsignedDevice, Program.trace_bind, trace_busyIn, List.nil_append, value_busyIn]
  by_cases hbusy : state.busyInSucceeds outcomes.busy
  · rw [if_pos hbusy]
    dsimp only
    rw [Program.run_modify_bind, gatedTrace_sendState_bind_iff]
    intro hsend
    simp only [if_true]
    rw [Program.trace_bind]
    change GatedTrace (.hmacChallenge outcomes.hmacChallenge :: _)
    cases hchallenge : outcomes.hmacChallenge with
    | some user => exact gatedTrace_challenge user _
    | none =>
      rw [gatedTrace_cons_iff (fun _ ↦ by simp) fun _ ↦ by simp]
      have hready : ∀ reached : MonitorState,
          ((readyIn outcomes.ready).run reached).trace = [] := trace_readyIn outcomes.ready
      simp [hmacChallenge, hchallenge, Program.run_emit_bind, hready, gatedTrace_nil]
  · rw [if_neg hbusy]
    exact gatedTrace_nil

/-- A partition whose product is known is copied as soon as the message is sent, and is then not
gated. -/
theorem gatedTrace_seenUnsignedPartition_iff :
    GatedTrace ((seenUnsignedPartition yubikey outcomes device).run state).trace ↔
      ¬ (state.busyInSucceeds outcomes.busy ∧ outcomes.send 1) := by
  rw [seenUnsignedPartition, Program.trace_bind, trace_busyIn, List.nil_append, value_busyIn]
  by_cases hbusy : state.busyInSucceeds outcomes.busy
  · rw [if_pos hbusy]
    dsimp only
    rw [gatedTrace_sendState_bind_iff]
    have hcopy : ∀ reached : MonitorState, ¬ GatedTrace ((copyDeviceIn outcomes device >>= fun _ ↦
        readyIn outcomes.ready).run reached).trace := by
      intro reached
      rw [Program.trace_bind]
      exact not_gatedTrace_copyDeviceIn device _
    simp [hbusy, hcopy]
  · rw [if_neg hbusy]
    simp [hbusy, gatedTrace_nil]

end Parts

/-! ### One event -/

/-- The event makes the thread copy an unsigned partition whose product is known: it is such a
partition, its properties can be read, and both messages and `busy_in` succeed. -/
def copiesSeenPartition (client : Client) (input : UdevEvent × Outcomes) : Bool :=
  client.running && input.1.isAddition && input.1.devtype == some (.ofText "partition") &&
    !input.2.isSigned && input.2.send 0 && input.2.send 1 &&
    client.state.busyInSucceeds input.2.busy &&
    (readAddedDevice input.1).any fun added ↦ client.state.keysIn.contains added.1

/-- With Yubikeys active, the branch of an added device is gated unless it copies a partition whose
product is known. Assumes: the thread runs, the device is added and it is not signed. -/
theorem gatedTrace_handleAddition_iff {client : Client} {event : UdevEvent} {outcomes : Outcomes}
    (hrunning : client.running) (haddition : event.isAddition)
    (hsigned : outcomes.isSigned = false) :
    GatedTrace ((handleAddition true outcomes event).run client.state).trace ↔
      copiesSeenPartition client (event, outcomes) = false := by
  rw [handleAddition, gatedTrace_sendKeys_bind_iff]
  cases hadded : readAddedDevice event with
  | none =>
    rw [okOr, Program.run_ofExcept_error_bind]
    simp [copiesSeenPartition, hadded, gatedTrace_nil]
  | some added =>
    obtain ⟨product, device⟩ := added
    rw [okOr, Program.run_ofExcept_ok_bind]
    simp only [Program.run_get_bind, hsigned, Bool.not_false, if_true, Program.run_ite]
    by_cases hseen : client.state.keysIn.contains product
    · rw [if_neg (by simpa using hseen)]
      by_cases hpartition : event.devtype == some (.ofText "partition")
      · rw [if_pos hpartition, gatedTrace_seenUnsignedPartition_iff]
        simp only [copiesSeenPartition, hrunning, haddition, hpartition, hsigned, hadded, hseen,
          Option.any_some, Bool.not_false, Bool.true_and, Bool.and_true]
        cases outcomes.send 0 <;> cases outcomes.send 1 <;>
          cases client.state.busyInSucceeds outcomes.busy <;> simp
      · rw [if_neg hpartition]
        simp [copiesSeenPartition, hpartition, gatedTrace_nil]
    · rw [if_pos (by simpa using hseen)]
      have hgated := gatedTrace_newUnsignedDevice outcomes device client.state product
      have hunseen : ¬ product ∈ client.state.keysIn := by simpa using hseen
      simp [copiesSeenPartition, hadded, hunseen, hgated]

/-- With Yubikeys active, an event is gated exactly when it does not copy a partition whose product
is known. -/
theorem gated_monitorStep_iff (client : Client) (input : UdevEvent × Outcomes) :
    Gated input (monitorStep true client input).2 ↔ copiesSeenPartition client input = false := by
  obtain ⟨event, outcomes⟩ := input
  by_cases hrunning : client.running
  swap
  · simp [Gated, monitorStep, copiesSeenPartition, hrunning, gatedTrace_nil]
  cases hsigned : outcomes.isSigned with
  | true => simp [Gated, copiesSeenPartition, hsigned]
  | false =>
    by_cases haddition : event.isAddition
    · have hiff := gatedTrace_handleAddition_iff hrunning haddition hsigned
      simpa [Gated, monitorStep, handleEvent, hrunning, hsigned, haddition] using hiff
    · have htrace : GatedTrace ((handleEvent true outcomes event).run client.state).trace := by
        rw [handleEvent, if_neg haddition, Program.run_ite, apply_ite Ending.trace]
        split_ifs with hremoval
        · rw [handleRemoval, Program.run_modify_bind]
          exact gatedTrace_send_iff.mpr gatedTrace_nil
        · exact gatedTrace_nil
      simp [Gated, monitorStep, copiesSeenPartition, hrunning, haddition, htrace]

/-! ### Runs -/

/-- A run of the thread with Yubikeys active in which no event copies a partition whose product is
known: each unsigned device is copied only after a challenge, during the same event, that gave a
user. Assumes: no event of the run is an unsigned partition, of a product already seen, that reaches
the copy. -/
theorem gated_of_run (locks : LockFiles) {history : List ((UdevEvent × Outcomes) × List Action)}
    {client : Client}
    (hrun : Run (monitorStep true) (fun _ client input ↦ copiesSeenPartition client input = false)
      (Client.connected locks) history client) :
    ∀ entry ∈ history, Gated entry.1 entry.2 :=
  hrun.forall_entries fun _ client input _ hguard ↦ (gated_monitorStep_iff client input).mpr hguard

/-- The addition of a device of the product `0781/5581/0100`. -/
def added (devtype devname : String) : UdevEvent where
  action := some (.ofText "add")
  devtype := some (.ofText devtype)
  idVendorId := some (.ofText "0781")
  idModelId := some (.ofText "5581")
  idRevision := some (.ofText "0100")
  devname := some (.ofText devname)
  idSerial := some (.ofText "4C53")
  hasParent := true

/-- An unsigned device, with the given answer of the challenge, while everything else succeeds. -/
def unsigned (challenge : Option String) : Outcomes where
  listYubikey _ := []
  send _ := true
  isSigned := false
  hmacChallenge := challenge
  copyDeviceIn := true
  moveDeviceOut := true
  busy := true
  ready := true

/-- The run of one disk whose challenge an enrolled user answered. -/
theorem gated_of_run_accepted_disk :
    copiesSeenPartition (Client.connected ⟨true, false, false⟩)
        (added "disk" "/dev/sdb", unsigned (some "alice")) = false ∧
      ∀ entry ∈ (execute (monitorStep true) (Client.connected ⟨true, false, false⟩)
        [(added "disk" "/dev/sdb", unsigned (some "alice"))]).1, Gated entry.1 entry.2 :=
  ⟨by decide, gated_of_run ⟨true, false, false⟩ (run_execute _ (by decide))⟩

/-- Not every run is gated: a key announces itself as a disk, its challenge gives no user, and then
its partition is copied. -/
theorem not_forall_run_gated :
    ¬ ∀ (locks : LockFiles) (history : List ((UdevEvent × Outcomes) × List Action))
      (client : Client),
      Run (monitorStep true) (fun _ _ _ ↦ True) (Client.connected locks) history client →
        ∀ entry ∈ history, Gated entry.1 entry.2 := by
  intro hgated
  let locks : LockFiles := ⟨true, false, false⟩
  let disk := (added "disk" "/dev/sdb", unsigned none)
  let partition := (added "partition" "/dev/sdb1", unsigned none)
  let afterDisk := (monitorStep true (Client.connected locks) disk).1
  have hrun : Run (monitorStep true) (fun _ _ _ ↦ True) (Client.connected locks)
      (execute (monitorStep true) (Client.connected locks) [disk, partition]).1
      (execute (monitorStep true) (Client.connected locks) [disk, partition]).2 :=
    run_execute [disk, partition] ⟨trivial, trivial, trivial⟩
  have hpartition : Gated partition (monitorStep true afterDisk partition).2 :=
    hgated locks _ _ hrun _ (List.mem_cons_of_mem _ List.mem_cons_self)
  have hcopied : copiesSeenPartition afterDisk partition = true := by decide
  rw [gated_monitorStep_iff, hcopied] at hpartition
  exact Bool.noConfusion hpartition

end Keysas.Io
