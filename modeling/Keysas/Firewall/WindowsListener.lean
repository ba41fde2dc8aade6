import Keysas.Firewall.GuiMessages
import Keysas.Runs.HistoryRun
import Keysas.Wire.BincodeStandard

/-!
# The listener of the Windows interface

Under Windows the daemon takes the messages of the tray application from a mailslot. `start` sets a
flag that the interface is running and starts a thread, the listener. The listener makes the
mailslot, reads messages and gives them to the controller as long as it finds one, then looks at the
flag, sleeps for a second and reads again. `stop` resets the flag.

The listener is to end when the interface is stopped, but it takes the flag for a request to stop:
it ends the first time that it finds no message while the interface is running
(`exited_of_read_nothing`), and `stop` is what keeps it alive (`not_exited_of_stopped`).

A `Listener` is the thread with the flag, the mailslot and the lock of the controller. Its steps may
be interleaved with posts and stops in any way, and any call into Windows may fail.
`serves_of_run` says when the listener does its work: in every run in which each read finds a text
whose shape fits no kind of message that is tried before its own.
-/

set_option autoImplicit false
set_option relaxedAutoImplicit false

namespace Keysas.Firewall.Gui

open Runs SerdeJson Wire.Bincode

/-! ### The mailslot -/

/-- The calls into Windows of a listener. -/
inductive WindowsCall where
  | createMailslot
  | getMailslotInfo
  | readFile
  deriving DecidableEq

/-- The largest message of a mailslot. -/
def maxMsgSize : ℕ :=
  1024

/-- The text of a message, when it is one: the bytes are read into a buffer of zeros, and the zeros
at both ends of the text are taken away. -/
def messageText (bytes : List UInt8) : Option String :=
  (fromUtf8 (bytes ++ List.replicate (maxMsgSize - bytes.length) 0)).map fun text ↦
    String.ofList ((text.toList.dropWhile (· = '\x00')).rdropWhile (· = '\x00'))

/-- The zeros that fill the buffer are characters. -/
theorem utf8_zeros (count : ℕ) :
    utf8 (String.ofList (List.replicate count '\x00')) = List.replicate count 0 := by
  induction count with
  | zero => rfl
  | succ count ih =>
    have hsplit : List.replicate (count + 1) '\x00' = ['\x00'] ++ List.replicate count '\x00' := rfl
    rw [hsplit, String.ofList_append, utf8_append, ih]
    rfl

/-- The zeros at the end of characters that have none are taken away. -/
theorem rdropWhile_zeros {characters : List Char} (hzero : '\x00' ∉ characters) (count : ℕ) :
    (characters ++ List.replicate count '\x00').rdropWhile (· = '\x00') = characters := by
  induction count with
  | zero =>
    rw [List.replicate_zero, List.append_nil, List.rdropWhile_eq_self_iff]
    intro hne hlast
    exact hzero (of_decide_eq_true hlast ▸ List.getLast_mem hne)
  | succ count ih =>
    rw [List.replicate_succ', ← List.append_assoc, List.rdropWhile_concat_pos _ _ _ (by simp), ih]

/-- A text without zeros is taken out of its message. -/
theorem messageText_utf8 {text : String} (hzero : '\x00' ∉ text.toList) :
    messageText (utf8 text) = some text := by
  have hbytes : ∀ count, fromUtf8 (utf8 text ++ List.replicate count 0) =
      some (text ++ String.ofList (List.replicate count '\x00')) := by
    intro count
    rw [← utf8_zeros, ← utf8_append, fromUtf8_utf8]
  rw [messageText, hbytes, Option.map_some, String.toList_append, String.toList_ofList]
  cases hcharacters : text.toList with
  | nil => simp [String.toList_eq_nil_iff.mp hcharacters]
  | cons first rest =>
    rw [hcharacters] at hzero
    have hfirst : first ≠ '\x00' := fun heq ↦ hzero (heq ▸ List.mem_cons_self)
    rw [List.cons_append, List.dropWhile_cons_of_neg (by simpa using hfirst), ← List.cons_append,
      rdropWhile_zeros hzero, ← hcharacters, String.ofList_toList]

/-- The errors of a read. -/
inductive MailslotError where
  | info
  | message
  | utf8
  deriving DecidableEq

/-- `read_mailslot`, with what it leaves in the mailslot. -/
def readMailslot (failing : Option WindowsCall) (mailslot : List (List UInt8)) :
    Except MailslotError (Option String) × List (List UInt8) :=
  if failing = some .getMailslotInfo then
    (.error .info, mailslot)
  else
    match mailslot with
    | [] => (.ok none, [])
    | bytes :: rest =>
      if failing = some .readFile then
        (.error .message, mailslot)
      else
        match messageText bytes with
        | some msg => (.ok (some msg), rest)
        | none => (.error .utf8, rest)

/-! ### The listener -/

/-- Where the listener is. -/
inductive Phase where
  /-- Before the mailslot is made. -/
  | opening
  /-- At the head of the inner loop. -/
  | reading
  /-- Before the flag is looked at. -/
  | testing
  | sleeping
  | exited
  deriving DecidableEq

/-- The listener with what it shares with other threads and programs. -/
structure Listener where
  /-- The flag `is_running`. -/
  isRunning : Bool
  phase : Phase
  /-- The messages that wait, once the mailslot is made. -/
  mailslot : List (List UInt8)
  /-- Another thread has panicked while it had the lock of the controller. -/
  poisoned : Bool
  deriving DecidableEq

/-- The listener after `start`. -/
def Listener.started : Listener :=
  ⟨true, .opening, [], false⟩

/-- What happens to a listener. -/
inductive Event where
  /-- `stop` is called. -/
  | stop
  /-- A message is posted by any program. -/
  | post (bytes : List UInt8)
  /-- Another thread panics with the lock of the controller. -/
  | poison
  /-- The listener makes its next step, in which a call into Windows may fail. -/
  | advance (failing : Option WindowsCall)
  deriving DecidableEq

/-- A message that was read, with the method of the controller that was called for it. -/
abbrev Reading := String × Option ControllerCall

/-- One step of the listener. A method of the controller may fail, which is only logged. -/
def Listener.advance (parse : String → Option Json) (listener : Listener)
    (failing : Option WindowsCall) : Listener × Option Reading :=
  match listener.phase with
  | .opening =>
    if failing = some .createMailslot then
      ({ listener with phase := .exited }, none)
    else
      ({ listener with phase := .reading }, none)
  | .reading =>
    match readMailslot failing listener.mailslot with
    | (.ok (some msg), rest) =>
      match dispatch parse msg with
      | some call =>
        -- `lock().unwrap()` panics on a poisoned lock.
        if listener.poisoned then
          ({ listener with phase := .exited, mailslot := rest }, some (msg, none))
        else
          ({ listener with mailslot := rest }, some (msg, some call))
      | none => ({ listener with mailslot := rest }, some (msg, none))
    | (_, rest) => ({ listener with phase := .testing, mailslot := rest }, none)
  | .testing =>
    if listener.isRunning then
      ({ listener with phase := .exited }, none)
    else
      ({ listener with phase := .sleeping }, none)
  | .sleeping => ({ listener with phase := .reading }, none)
  | .exited => (listener, none)

/-- What an event makes of a listener. A message is refused before the mailslot is made, and when it
is too large. -/
def listenerStep (parse : String → Option Json) (listener : Listener) :
    Event → Listener × Option Reading
  | .stop => ({ listener with isRunning := false }, none)
  | .post bytes =>
    if listener.phase = .opening ∨ maxMsgSize < bytes.length then
      (listener, none)
    else
      ({ listener with mailslot := listener.mailslot ++ [bytes] }, none)
  | .poison => ({ listener with poisoned := true }, none)
  | .advance failing => listener.advance parse failing

/-! ### The service -/

/-- The listener has not ended, and each message that was read with the shape and the code of a kind
was given to the method of that kind. -/
structure Serves (parse : String → Option Json) (history : List (Event × Option Reading))
    (listener : Listener) : Prop where
  running : listener.phase ≠ .exited
  dispatched : ∀ entry ∈ history, ∀ msg call, entry.2 = some (msg, call) →
    DispatchedByCode parse msg call

/-- What has to be the case when the listener makes a step. It can make the mailslot. Where it
reads, the first message in the mailslot is a text and can be read, the text does not have the
shape of a kind that is tried before its own, and if it is recognized, no other thread has panicked
with the lock. -/
def Listener.Finds (parse : String → Option Json) (listener : Listener)
    (failing : Option WindowsCall) : Prop :=
  match listener.phase with
  | .opening => failing ≠ some .createMailslot
  | .reading =>
    failing ≠ some .getMailslotInfo ∧ failing ≠ some .readFile ∧
      ∃ msg, listener.mailslot.head?.bind messageText = some msg ∧ OwnKindFirst parse msg ∧
        (listener.poisoned → dispatch parse msg = none)
  | _ => True

/-- The condition on an event before `stop`. -/
def Listener.Meets (parse : String → Option Json) (listener : Listener) : Event → Prop
  | .stop => False
  | .post _ => True
  | .poison => True
  | .advance failing => listener.Finds parse failing

/-- A read that gives a message takes it to the controller, and the listener reads again. Assumes:
no other thread has panicked with the lock if the message is recognized. -/
theorem Listener.advance_of_message {parse : String → Option Json} {listener : Listener}
    {failing : Option WindowsCall} (hphase : listener.phase = .reading) {msg : String}
    (hmsg : (readMailslot failing listener.mailslot).1 = .ok (some msg))
    (hlock : listener.poisoned → dispatch parse msg = none) :
    listener.advance parse failing =
      ({ listener with mailslot := (readMailslot failing listener.mailslot).2 },
        some (msg, dispatch parse msg)) := by
  rcases hread : readMailslot failing listener.mailslot with ⟨result, rest⟩
  rw [hread] at hmsg
  change result = .ok (some msg) at hmsg
  subst hmsg
  simp only [Listener.advance, hphase, hread]
  cases hdispatch : dispatch parse msg with
  | none => rfl
  | some call =>
    have hsound : ¬ listener.poisoned = true := by
      intro hpoisoned
      have hnone := hlock hpoisoned
      rw [hdispatch] at hnone
      contradiction
    exact if_neg hsound

/-- A read that gives no message takes the listener to the flag. -/
theorem Listener.advance_of_nothing (parse : String → Option Json) {listener : Listener}
    {failing : Option WindowsCall} (hphase : listener.phase = .reading)
    (hnothing : ∀ msg, (readMailslot failing listener.mailslot).1 ≠ .ok (some msg)) :
    listener.advance parse failing = ({ listener with
      phase := .testing, mailslot := (readMailslot failing listener.mailslot).2 }, none) := by
  rcases hread : readMailslot failing listener.mailslot with ⟨result, rest⟩
  rw [hread] at hnothing
  simp only [Listener.advance, hphase, hread]

/-- Where a listener is that has found a message whenever it read. -/
structure Listener.Busy (listener : Listener) : Prop where
  isRunning : listener.isRunning = true
  phase : listener.phase = .opening ∨ listener.phase = .reading

/-- A step in which the listener finds what it needs leaves it busy, and gives the message that it
reads to the method of its kind. -/
theorem Listener.Busy.advance {parse : String → Option Json} {listener : Listener}
    {failing : Option WindowsCall} (hbusy : listener.Busy) (hfinds : listener.Finds parse failing) :
    (listener.advance parse failing).1.Busy ∧
      ∀ msg call, (listener.advance parse failing).2 = some (msg, call) →
        DispatchedByCode parse msg call := by
  rcases hbusy.phase with hphase | hphase
  · rw [Listener.Finds, hphase] at hfinds
    have hadvance : listener.advance parse failing =
        ({ listener with phase := .reading }, none) := by
      simp only [Listener.advance, hphase]
      exact if_neg hfinds
    rw [hadvance]
    exact ⟨⟨hbusy.isRunning, .inr rfl⟩, by simp⟩
  · rw [Listener.Finds, hphase] at hfinds
    obtain ⟨hinfo, hread, msg, hfirst, hown, hlock⟩ := hfinds
    obtain ⟨bytes, hhead, htext⟩ := Option.bind_eq_some_iff.mp hfirst
    obtain ⟨rest, hmailslot⟩ := List.head?_eq_some_iff.mp hhead
    have hread : (readMailslot failing listener.mailslot).1 = .ok (some msg) := by
      rw [hmailslot]
      simp only [readMailslot, if_neg hinfo, if_neg hread, htext]
    rw [Listener.advance_of_message hphase hread hlock]
    refine ⟨⟨hbusy.isRunning, .inr hphase⟩, ?_⟩
    intro other call hentry
    obtain ⟨rfl, rfl⟩ := Prod.mk.inj (Option.some.inj hentry)
    exact (ownKindFirst_iff_dispatchedByCode parse msg).mp hown

/-- Every event that meets the condition leaves a busy listener busy. -/
theorem Listener.Busy.step {parse : String → Option Json} {listener : Listener} {event : Event}
    (hbusy : listener.Busy) (hmeets : listener.Meets parse event) :
    (listenerStep parse listener event).1.Busy ∧
      ∀ msg call, (listenerStep parse listener event).2 = some (msg, call) →
        DispatchedByCode parse msg call := by
  cases event with
  | stop => exact hmeets.elim
  | post bytes =>
    rw [listenerStep]
    split_ifs
    · exact ⟨hbusy, by simp⟩
    · exact ⟨⟨hbusy.isRunning, hbusy.phase⟩, by simp⟩
  | poison => exact ⟨⟨hbusy.isRunning, hbusy.phase⟩, by simp [listenerStep]⟩
  | advance failing => exact hbusy.advance hmeets

/-! ### Runs -/

/-- In a run in which every read finds a message, the listener is busy in every state reached. -/
theorem busy_of_run {parse : String → Option Json} {history : List (Event × Option Reading)}
    {listener : Listener}
    (hrun : Run (listenerStep parse) (fun _ reached event ↦ reached.Meets parse event)
      .started history listener) :
    listener.Busy := by
  refine hrun.holds ⟨rfl, .inl rfl⟩ ?_
  intro _ reached event hreached hmeets
  exact (hreached.step hmeets).1

/-- In a run in which every read finds a message, the listener serves in every state reached.
Assumes: `stop` is not called, the mailslot can be made, and whenever the listener reads, there is a
message, a text that can be read and does not have the shape of a kind that is tried before its own,
and no other thread has panicked with the lock if it is recognized. -/
theorem serves_of_run (parse : String → Option Json) {history : List (Event × Option Reading)}
    {listener : Listener}
    (hrun : Run (listenerStep parse) (fun _ reached event ↦ reached.Meets parse event)
      .started history listener) :
    Serves parse history listener := by
  constructor
  · intro hexited
    rcases (busy_of_run hrun).phase with hphase | hphase <;> rw [hphase] at hexited <;>
      contradiction
  · refine @Run.forall_entries _ _ _ _ _ _ (fun _ output ↦ ∀ msg call,
      output = some (msg, call) → DispatchedByCode parse msg call) ?_ _ _ hrun
    intro _ reached event hreached hmeets
    exact ((busy_of_run hreached).step hmeets).2

/-- The text of a request for the list. -/
def requestText : String :=
  "\x7b\"code\":\"UsbFileListRequest\"\x7d"

/-- A parser that knows the request for the list. -/
def parseRequest (msg : String) : Option Json :=
  if msg = requestText then some (UsbFileListRequest.serialize ⟨.usbFileListRequest⟩) else none

/-- The run in which a request for the list is posted and read. -/
theorem serves_of_run_request :
    Serves parseRequest
      (execute (listenerStep parseRequest) .started
        [.advance none, .post (utf8 requestText), .advance none]).1
      (execute (listenerStep parseRequest) .started
        [.advance none, .post (utf8 requestText), .advance none]).2 := by
  apply serves_of_run
  apply run_execute
  have hrequest : messageText (utf8 requestText) = some requestText :=
    messageText_utf8 (by decide +kernel)
  have hparse : parseRequest requestText =
      some (UsbFileListRequest.serialize ⟨.usbFileListRequest⟩) := if_pos rfl
  have hown : OwnKindFirst parseRequest requestText :=
    (@dispatch_of_usbFileListRequest parseRequest requestText _ hparse).1
  have hsmall : ¬ maxMsgSize < (utf8 requestText).length := by
    have hlength : (utf8 requestText).length = 29 := length_utf8 requestText
    rw [hlength, maxMsgSize]
    omega
  have hposted : (listenerStep parseRequest ⟨true, .reading, [], false⟩
      (.post (utf8 requestText))).1 = ⟨true, .reading, [utf8 requestText], false⟩ := by
    rw [listenerStep, if_neg (by simpa using hsmall)]
    rfl
  refine ⟨?_, trivial, ?_, trivial⟩
  · show none ≠ some WindowsCall.createMailslot
    simp
  · show Listener.Meets parseRequest (listenerStep parseRequest ⟨true, .reading, [], false⟩
      (.post (utf8 requestText))).1 (.advance none)
    rw [hposted]
    refine ⟨by simp, by simp, requestText, ?_, hown, by simp⟩
    rw [List.head?_cons, Option.bind_some, hrequest]

/-- Without that condition the listener ends: it finds no message, and the flag is set. -/
theorem not_serves :
    ¬ ∀ (parse : String → Option Json) (history : List (Event × Option Reading))
      (listener : Listener),
      Run (listenerStep parse) (fun _ _ event ↦ event ≠ .stop) .started history listener →
        Serves parse history listener := by
  intro hserves
  have hrun : Run (listenerStep parseRequest) (fun _ _ event ↦ event ≠ .stop) .started _ _ :=
    run_execute [.advance none, .advance none, .advance none] (by decide)
  exact (hserves _ _ _ hrun).running (by decide)

/-! ### The flag -/

/-- A listener that finds nothing to read while the interface is running ends with its next two
steps. -/
theorem exited_of_read_nothing (parse : String → Option Json) {listener : Listener}
    (hrunning : listener.isRunning = true) (hphase : listener.phase = .reading)
    {failing : Option WindowsCall}
    (hnothing : ∀ msg, (readMailslot failing listener.mailslot).1 ≠ .ok (some msg))
    (other : Option WindowsCall) :
    ((listener.advance parse failing).1.advance parse other).1.phase = .exited := by
  rw [Listener.advance_of_nothing parse hphase hnothing]
  simp [Listener.advance, hrunning]

/-- What keeps a listener alive once it has a mailslot and the interface is stopped. -/
structure Listener.Stopped (listener : Listener) : Prop where
  isRunning : listener.isRunning = false
  phase : listener.phase = .reading ∨ listener.phase = .testing ∨ listener.phase = .sleeping
  sound : listener.poisoned = false

/-- Every event but a panic elsewhere keeps it alive. -/
theorem Listener.Stopped.step {parse : String → Option Json} {listener : Listener} {event : Event}
    (hstopped : listener.Stopped) (hevent : event ≠ .poison) :
    (listenerStep parse listener event).1.Stopped := by
  cases event with
  | stop => exact ⟨rfl, hstopped.phase, hstopped.sound⟩
  | post bytes =>
    rw [listenerStep]
    split_ifs
    · exact hstopped
    · exact ⟨hstopped.isRunning, hstopped.phase, hstopped.sound⟩
  | poison => contradiction
  | advance failing =>
    rw [listenerStep]
    rcases hstopped.phase with hphase | hphase | hphase
    · by_cases hmessage : ∃ msg, (readMailslot failing listener.mailslot).1 = .ok (some msg)
      · obtain ⟨msg, hmsg⟩ := hmessage
        rw [Listener.advance_of_message hphase hmsg fun hpoisoned ↦ ?_]
        · exact ⟨hstopped.isRunning, .inl hphase, hstopped.sound⟩
        · rw [hstopped.sound] at hpoisoned
          contradiction
      · rw [Listener.advance_of_nothing parse hphase (not_exists.mp hmessage)]
        exact ⟨hstopped.isRunning, .inr (.inl rfl), hstopped.sound⟩
    · have hadvance : listener.advance parse failing =
          ({ listener with phase := .sleeping }, none) := by
        simp only [Listener.advance, hphase, hstopped.isRunning, Bool.false_eq_true, if_false]
      rw [hadvance]
      exact ⟨hstopped.isRunning, .inr (.inr rfl), hstopped.sound⟩
    · simp only [Listener.advance, hphase]
      exact ⟨hstopped.isRunning, .inl rfl, hstopped.sound⟩

/-- A listener that has its mailslot when the interface is stopped does not end any more. Assumes:
no other thread panics with the lock of the controller. -/
theorem not_exited_of_stopped {parse : String → Option Json} {start : Listener}
    (hstart : start.Stopped) {history : List (Event × Option Reading)} {listener : Listener}
    (hrun : Run (listenerStep parse) (fun _ _ event ↦ event ≠ .poison) start history listener) :
    listener.phase ≠ .exited := by
  have hstopped : listener.Stopped := by
    refine hrun.holds hstart ?_
    intro _ reached event hreached hevent
    exact hreached.step hevent
  intro hexited
  rcases hstopped.phase with hphase | hphase | hphase <;> rw [hphase] at hexited <;> contradiction

end Keysas.Firewall.Gui
