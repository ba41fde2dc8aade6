import Keysas.Firewall.AuthDialog
import Keysas.Firewall.FileFilter
import Keysas.Runs.Balance
import Keysas.Wire.FixedWidth

/-!
# The event loop of the file filter

Under Linux the kernel asks the daemon about the files that are opened on a marked mount. The daemon
reads the questions in batches, as records one behind the other, each with its own length and with a
descriptor of the file. It answers the questions, and closes the descriptors.

`wellAnswered_of_run` is about every run of the loop, whatever the kernel asks and however the reads
turn out: each question is answered once and in its order, each descriptor is closed once, and a
process other than the daemon opens a file only if the file is internal to Windows, is a directory,
has a report beside it, or was accepted by the user in a dialog about it.
-/

set_option autoImplicit false
set_option relaxedAutoImplicit false

namespace Keysas.Firewall.Fanotify

open AuthDialog Crypto Keys RustStd Runs Wire Wire.PrefixCodec

/-! ### Records of the kernel -/

/-- `fanotify_event_metadata`. -/
structure Metadata where
  eventLen : UInt32
  vers : UInt8
  reserved : UInt8
  metadataLen : UInt16
  mask : UInt64
  fd : Int32
  pid : Int32
  deriving DecidableEq

/-- The layout of the record. -/
def Metadata.codec : PrefixCodec Metadata :=
  (fixedU32.pair <| byte.pair <| byte.pair <| fixedU16.pair <| fixedU64.pair <|
    fixedI32.pair fixedI32).imap
    (fun (eventLen, vers, reserved, metadataLen, mask, fd, pid) ↦
      some ⟨eventLen, vers, reserved, metadataLen, mask, fd, pid⟩)
    (fun event ↦ (event.eventLen, event.vers, event.reserved, event.metadataLen, event.mask,
      event.fd, event.pid)) fun _ ↦ rfl

/-- The size of the record. -/
def eventSize : ℕ :=
  24

theorem Metadata.codec_isTotal : Metadata.codec.IsTotal :=
  imap_isTotal (pair_isTotal fixedU32_isTotal <| pair_isTotal byte_isTotal <|
    pair_isTotal byte_isTotal <| pair_isTotal fixedU16_isTotal <| pair_isTotal fixedU64_isTotal <|
    pair_isTotal fixedI32_isTotal fixedI32_isTotal) _ _ _

/-- The records in the bytes that were read. The loop ends where less than a record is left, and at
a record that is shorter than its fixed part. -/
def readEvents (input : List UInt8) : List Metadata :=
  if _ : eventSize ≤ input.length then
    match Metadata.codec.decode input with
    | none => []
    | some (event, _) =>
      if event.eventLen.toNat < eventSize then []
      else event :: readEvents (input.drop event.eventLen.toNat)
  else []
termination_by input.length
decreasing_by
  rename_i hshort
  have hpositive : 0 < eventSize := by decide
  rw [List.length_drop]
  exact Nat.sub_lt (hpositive.trans_le ‹eventSize ≤ input.length›)
    (hpositive.trans_le (Nat.not_lt.mp hshort))

/-- A record with what the kernel writes behind its fixed part. -/
structure Delivered where
  metadata : Metadata
  info : List UInt8
  /-- The record gives its own length. -/
  length_eq : metadata.eventLen.toNat = eventSize + info.length

/-- The bytes of a record. -/
def Delivered.toBytes (event : Delivered) : List UInt8 :=
  Metadata.codec.bytesOf event.metadata ++ event.info

theorem Delivered.length_toBytes (event : Delivered) :
    event.toBytes.length = event.metadata.eventLen.toNat := by
  rw [toBytes, List.length_append, length_bytesOf Metadata.codec_isTotal, event.length_eq]
  rfl

/-- The loop finds the records that the kernel has written. -/
theorem readEvents_flatMap (events : List Delivered) :
    readEvents (events.flatMap Delivered.toBytes) = events.map Delivered.metadata := by
  induction events with
  | nil => rw [List.flatMap_nil, readEvents, dif_neg (by decide), List.map_nil]
  | cons event events ih =>
    have hlength := event.length_toBytes
    have hsize := event.length_eq
    rw [List.flatMap_cons, readEvents, dif_pos (by rw [List.length_append]; omega),
      Delivered.toBytes, List.append_assoc, decode_bytesOf Metadata.codec_isTotal]
    dsimp only
    rw [if_neg (by omega), ← List.append_assoc, ← Delivered.toBytes, ← hlength, List.drop_left, ih,
      List.map_cons]

/-! ### Answers -/

/-- `FAN_OPEN_PERM`. -/
def fanOpenPerm : UInt64 :=
  0x10000

/-- What an event finds around the daemon. -/
structure Surroundings (schemes : Schemes) where
  /-- The controller, unless its lock is poisoned. -/
  controller : Option (ServiceController schemes)
  /-- `read_link` on the descriptor of the event. -/
  readLink : Option OsString
  files : FileSystem
  /-- The notifications that the user is asked with. -/
  session : FileUpdateMessage → Option (UInt32 × List DialogEvent)
  /-- The descriptor of the filter is still open when the answer is written. -/
  fanFdOpen : Bool

variable {schemes : Schemes}

/-- What the loop does. -/
inductive FilterEffect where
  /-- The kernel opens a descriptor for an event. -/
  | opened (fd : Int32)
  | respond (fd : Int32) (allow : Bool)
  | close (fd : Int32)
  deriving DecidableEq

/-- The answer to an event. -/
def allows (daemonPid : ℤ) (around : Surroundings schemes) (event : Metadata) : Bool :=
  -- The mount of the file is not looked at.
  allowEvent around.controller (requestFileAuth around.session) around.files daemonPid
    ⟨.ofText "", event.pid.toInt, around.readLink⟩

/-- The event asks for a permission. -/
def Metadata.asks (event : Metadata) : Bool :=
  event.mask &&& fanOpenPerm ≠ 0 && 0 ≤ event.fd

/-- The body of the loop. -/
def handleEvent (daemonPid : ℤ) (around : Surroundings schemes) (event : Metadata) :
    List FilterEffect :=
  if event.asks then
    (if around.fanFdOpen then [.respond event.fd (allows daemonPid around event)] else []) ++
      [.close event.fd]
  else if 0 ≤ event.fd then
    -- Another event, or one that tells about lost events.
    [.close event.fd]
  else
    []

/-- The loop over the bytes that were read, in surroundings that depend on the event. -/
def handleBuffer (daemonPid : ℤ) (around : Metadata → Surroundings schemes) (input : List UInt8) :
    List FilterEffect :=
  (readEvents input).flatMap fun event ↦ handleEvent daemonPid (around event) event

/-- What holds the descriptors of the events. -/
def holdOf : FilterEffect → Option (Hold Int32)
  | .opened fd => some (.acquire fd)
  | .respond _ _ => none
  | .close fd => some (.release fd)

/-- The answer that an effect is. -/
def responseOf : FilterEffect → Option (Int32 × Bool)
  | .respond fd allow => some (fd, allow)
  | _ => none

/-- The descriptor that the kernel opens for an event. -/
def openedFor (event : Metadata) : List FilterEffect :=
  if 0 ≤ event.fd then [.opened event.fd] else []

/-- The answer that a question is due. -/
def dueResponse (daemonPid : ℤ) (asked : Metadata × Surroundings schemes) :
    Option (Int32 × Bool) :=
  if asked.1.asks && asked.2.fanFdOpen then
    some (asked.1.fd, allows daemonPid asked.2 asked.1)
  else
    none

theorem responses_handleEvent (daemonPid : ℤ) (around : Surroundings schemes) (event : Metadata) :
    (handleEvent daemonPid around event).filterMap responseOf =
      (dueResponse daemonPid (event, around)).toList := by
  by_cases hasks : event.asks
  · cases hopen : around.fanFdOpen <;> simp [handleEvent, dueResponse, hasks, hopen, responseOf]
  · by_cases hfd : 0 ≤ event.fd <;> simp [handleEvent, dueResponse, hasks, hfd, responseOf]

/-- The body closes the descriptor of its event. -/
theorem holds_handleEvent (daemonPid : ℤ) (around : Surroundings schemes) (event : Metadata) :
    (handleEvent daemonPid around event).filterMap holdOf =
      if 0 ≤ event.fd then [.release event.fd] else [] := by
  by_cases hfd : 0 ≤ event.fd
  · by_cases hasks : event.asks
    · cases hopen : around.fanFdOpen <;>
        simp [handleEvent, hasks, hopen, holdOf, hfd, List.filterMap_cons]
    · simp [handleEvent, hasks, holdOf, hfd]
  · simp [handleEvent, Metadata.asks, hfd]

/-! ### Runs of the loop -/

/-- The thread of the loop, and the descriptor that it shares with the filter. -/
structure EventLoop where
  fdOpen : Bool
  running : Bool
  deriving DecidableEq

/-- What happens. -/
inductive LoopEvent (schemes : Schemes) where
  /-- The filter is dropped and closes the descriptor. -/
  | drop
  /-- The thread finds the descriptor closed at the head of the loop. -/
  | exit
  /-- A read is interrupted. -/
  | interrupted
  /-- A read fails. -/
  | failed
  /-- A read gives records, each in the surroundings that its turn finds. -/
  | batch (events : List Delivered) (around : Metadata → Surroundings schemes)

/-- One event, with what the loop does. The descriptors of the records are opened with the read. -/
def EventLoop.step (daemonPid : ℤ) (loop : EventLoop) :
    LoopEvent schemes → EventLoop × List FilterEffect
  | .drop => ({ loop with fdOpen := false }, [])
  | .exit => ({ loop with running := false }, [])
  | .interrupted => (loop, [])
  | .failed => ({ loop with running := false }, [])
  | .batch events around =>
    (loop, (events.map Delivered.metadata).flatMap openedFor ++
      handleBuffer daemonPid around (events.flatMap Delivered.toBytes))

/-- The kernel gives records to a thread that reads from an open descriptor. -/
def EventLoop.Reads (loop : EventLoop) : LoopEvent schemes → Prop
  | .drop => True
  | .exit => loop.running ∧ ¬ loop.fdOpen
  | .interrupted => loop.running ∧ loop.fdOpen
  | .failed => loop.running
  | .batch _ _ => loop.running ∧ loop.fdOpen

/-- A run of the loop from its start. -/
abbrev IsLoop (daemonPid : ℤ) (history : List (LoopEvent schemes × List FilterEffect))
    (loop : EventLoop) : Prop :=
  Run (EventLoop.step daemonPid) (fun _ loop event ↦ loop.Reads event) ⟨true, true⟩ history loop

/-- The events that an entry of a history brought, with their surroundings. -/
def broughtBy : LoopEvent schemes × List FilterEffect → List (Metadata × Surroundings schemes)
  | (.batch events around, _) =>
    events.map fun event ↦ (event.metadata, around event.metadata)
  | _ => []

/-- What lets a file be opened: it is internal to Windows, a directory, has a report beside it, or
was accepted by the user. -/
def Entitled (around : Surroundings schemes) : Prop :=
  ∃ path, around.readLink = some path ∧
    (isWhitelisted path ∨ around.files.metadata path = some .directory ∨
      around.files.isFile (reportPath path) ∨ AcceptedIn around.session (fileRequest path))

theorem entitled_of_allows {daemonPid : ℤ} {around : Surroundings schemes} {event : Metadata}
    (hallows : allows daemonPid around event) :
    event.pid.toInt = daemonPid ∨ Entitled around := by
  rw [allows, allowEvent.eq_def] at hallows
  split_ifs at hallows with hdaemon
  · exact .inl hdaemon
  refine .inr ?_
  split at hallows
  · exact nomatch hallows
  · split at hallows
    · next allow hauthorized =>
      rw [hallows, authorizeFile_eq_ok_true_iff] at hauthorized
      obtain ⟨path, hpath, hreason⟩ := hauthorized
      refine ⟨path, hpath, ?_⟩
      obtain hinternal | hdirectory | ⟨-, hvalidated⟩ | ⟨-, haccepted⟩ := hreason
      · exact .inl hinternal
      · exact .inr (.inl hdirectory)
      · rw [validateFile_eq] at hvalidated
        exact .inr (.inr (.inl (by simpa using hvalidated)))
      · exact .inr (.inr (.inr (acceptedIn_of_requestFileAuth haccepted)))
    · exact nomatch hallows

/-- Every question is answered once and in its order, every descriptor is closed once, and what is
allowed is the daemon's own or entitled to it. -/
structure WellAnswered (daemonPid : ℤ) (history : List (LoopEvent schemes × List FilterEffect)) :
    Prop where
  responses : (history.flatMap Prod.snd).filterMap responseOf =
    (history.flatMap broughtBy).filterMap (dueResponse daemonPid)
  closed : Balanced ((history.flatMap Prod.snd).filterMap holdOf)
  entitled : ∀ fd, .respond fd true ∈ history.flatMap Prod.snd →
    ∃ asked ∈ history.flatMap broughtBy,
      asked.1.fd = fd ∧ (asked.1.pid.toInt = daemonPid ∨ Entitled asked.2)

/-- What an event does answers what it brings, and closes what it opens. -/
structure Answers (daemonPid : ℤ) (event : LoopEvent schemes) (effects : List FilterEffect) :
    Prop where
  responses : effects.filterMap responseOf =
    (broughtBy (event, effects)).filterMap (dueResponse daemonPid)
  closed : Balanced (effects.filterMap holdOf)

section Step

variable (daemonPid : ℤ) (loop : EventLoop)

/-- The descriptors of events. -/
def descriptors (events : List Metadata) : List Int32 :=
  (events.filter fun event ↦ 0 ≤ event.fd).map Metadata.fd

theorem holds_openedFor (events : List Metadata) :
    (events.flatMap openedFor).filterMap holdOf = (descriptors events).map .acquire := by
  induction events with
  | nil => rfl
  | cons event events ih =>
    rw [List.flatMap_cons, List.filterMap_append, ih]
    by_cases hfd : 0 ≤ event.fd <;> simp [openedFor, descriptors, hfd, holdOf]

theorem holds_handleEvents (around : Metadata → Surroundings schemes) (events : List Metadata) :
    (events.flatMap fun event ↦ handleEvent daemonPid (around event) event).filterMap holdOf =
      (descriptors events).map .release := by
  induction events with
  | nil => rfl
  | cons event events ih =>
    rw [List.flatMap_cons, List.filterMap_append, ih, holds_handleEvent]
    by_cases hfd : 0 ≤ event.fd <;> simp [descriptors, hfd]

/-- An event closes what it opens. -/
theorem balanced_step (event : LoopEvent schemes) :
    Balanced ((loop.step daemonPid event).2.filterMap holdOf) := by
  cases event with
  | drop => exact balanced_nil
  | exit => exact balanced_nil
  | interrupted => exact balanced_nil
  | failed => exact balanced_nil
  | batch events around =>
    rw [EventLoop.step, handleBuffer, readEvents_flatMap, List.filterMap_append, holds_openedFor,
      holds_handleEvents]
    exact balanced_acquire_release _

theorem responses_openedFor (events : List Metadata) :
    (events.flatMap openedFor).filterMap responseOf = [] := by
  rw [List.filterMap_flatMap, List.flatMap_eq_nil_iff]
  intro event _
  by_cases hfd : 0 ≤ event.fd <;> simp [openedFor, hfd, responseOf]

/-- An event answers the questions that it brings. -/
theorem responses_step (event : LoopEvent schemes) :
    (loop.step daemonPid event).2.filterMap responseOf =
      (broughtBy (event, (loop.step daemonPid event).2)).filterMap (dueResponse daemonPid) := by
  cases event with
  | drop => rfl
  | exit => rfl
  | interrupted => rfl
  | failed => rfl
  | batch events around =>
    rw [EventLoop.step, handleBuffer, readEvents_flatMap, broughtBy, List.filterMap_append,
      responses_openedFor, List.nil_append, List.filterMap_flatMap, List.filterMap_map,
      List.filterMap_eq_flatMap_toList, List.flatMap_map]
    exact List.flatMap_congr fun event _ ↦ responses_handleEvent _ _ _

/-- An event is answered by what it does, which closes what it opens. -/
theorem answers_step (event : LoopEvent schemes) :
    Answers daemonPid event (loop.step daemonPid event).2 :=
  ⟨responses_step daemonPid loop event, balanced_step daemonPid loop event⟩

end Step

/-- In every run the events are answered and their descriptors are closed. -/
theorem wellAnswered_of_run {daemonPid : ℤ}
    {history : List (LoopEvent schemes × List FilterEffect)} {loop : EventLoop}
    (hrun : IsLoop daemonPid history loop) : WellAnswered daemonPid history := by
  have hentries : ∀ entry ∈ history, Answers daemonPid entry.1 entry.2 :=
    hrun.forall_entries fun _ reached event _ _ ↦ answers_step daemonPid reached event
  have hresponses : (history.flatMap Prod.snd).filterMap responseOf =
      (history.flatMap broughtBy).filterMap (dueResponse daemonPid) := by
    rw [List.filterMap_flatMap, List.filterMap_flatMap]
    exact List.flatMap_congr fun entry hentry ↦ (hentries entry hentry).responses
  refine ⟨hresponses, ?_, ?_⟩
  · clear hresponses hrun
    induction history with
    | nil => exact balanced_nil
    | cons entry history ih =>
      rw [List.flatMap_cons, List.filterMap_append]
      exact (hentries entry List.mem_cons_self).closed.append
        (ih fun other hother ↦ hentries other (List.mem_cons_of_mem _ hother))
  · intro fd hfd
    have hresponse : (fd, true) ∈ (history.flatMap Prod.snd).filterMap responseOf :=
      List.mem_filterMap.mpr ⟨_, hfd, rfl⟩
    rw [hresponses] at hresponse
    obtain ⟨asked, hasked, hdue⟩ := List.mem_filterMap.mp hresponse
    rw [dueResponse] at hdue
    split_ifs at hdue
    obtain ⟨rfl, hallows⟩ := Prod.mk.inj (Option.some.inj hdue)
    exact ⟨asked, hasked, rfl, entitled_of_allows hallows⟩

/-- A process asks for a file. -/
def question : Delivered where
  metadata :=
    { eventLen := 24, vers := 3, reserved := 0, metadataLen := 24, mask := fanOpenPerm
      fd := 9, pid := 4711 }
  info := []
  length_eq := rfl

/-- The file has no report, and the user accepts. -/
def aroundQuestion : Surroundings transparentSchemes where
  controller := some (.init strictPolicy (transparentPubKeys 0))
  readLink := some (.ofText "/media/usb/a.txt")
  files := loneFile (.ofText "/media/usb/a.txt")
  session _ := some (7, acceptedEvents ++ [.advance .action, .receive false])
  fanFdOpen := true

/-- The question comes after a read that is interrupted, and then the filter is dropped. -/
def questionEvents : List (LoopEvent transparentSchemes) :=
  [.interrupted, .batch [question] fun _ ↦ aroundQuestion, .drop, .exit]

theorem wellAnswered_of_run_question :
    WellAnswered 100 (execute (EventLoop.step 100) ⟨true, true⟩ questionEvents).1 :=
  wellAnswered_of_run (run_execute _ ⟨⟨rfl, rfl⟩, ⟨rfl, rfl⟩, trivial, ⟨rfl, nofun⟩, trivial⟩)

end Keysas.Firewall.Fanotify
