import Keysas.Firewall.FileAuthorization
import Keysas.Runs.HistoryRun

/-!
# The dialog with the user

Under Linux the daemon asks the user about a file with a notification that has two buttons. Two
threads wait for the signals of the notification server, one for a button and one for the end of the
notification, and send what they make of the first signal with the identifier of the notification
through a channel. The dialog takes the first message of the channel, and refuses when none comes in
time. The signals are those of all notifications of the session, and what is emitted before a thread
has subscribed is lost to it.

`grounded_of_run` says what an answer rests on in every interleaving: the user is taken to accept
only if the first button that was pressed in this very notification is the one that accepts. The
converse fails, since the end of the notification may be noticed first. `opened_of_dialog` carries
this to the authorization of a file.
-/

set_option autoImplicit false
set_option relaxedAutoImplicit false

namespace Keysas.Firewall.AuthDialog

open Crypto Runs RustStd

/-! ### Threads that wait -/

/-- A thread that waits for an answer in a stream of signals. -/
inductive Waiter (α : Type) where
  /-- It has not subscribed to the signals. -/
  | starting
  /-- It has subscribed, and these signals wait in the stream. -/
  | listening (queue : List α)
  | ended
  deriving DecidableEq

namespace Waiter

variable {α : Type}

/-- The thread subscribes, or it gives up. -/
def subscribe (succeeds : Bool) : Waiter α → Waiter α
  | .starting => if succeeds then .listening [] else .ended
  | waiter => waiter

/-- The thread has subscribed. -/
def hears : Waiter α → Bool
  | .listening _ => true
  | _ => false

/-- A signal is emitted. -/
def emit (signal : α) : Waiter α → Waiter α
  | .listening queue => .listening (queue ++ [signal])
  | waiter => waiter

/-- The thread looks at the next signal of its stream, and ends when the signal is an answer, which
it sends. -/
def advance (answerOf : α → Option Bool) : Waiter α → Waiter α × Option Bool
  | .listening (signal :: queue) =>
    match answerOf signal with
    | some answer => (.ended, some answer)
    | none => (.listening queue, none)
  | waiter => (waiter, none)

/-- The stream ends. -/
def hangUp : Waiter α → Waiter α
  | .listening [] => .ended
  | waiter => waiter

/-- How a thread stands to the signals that it has heard: those which it has looked at are no
answers, and the first answer is settled when it has ended. -/
def Follows (answerOf : α → Option Bool) (heard : List α) (settled : Bool → Prop) :
    Waiter α → Prop
  | .starting => heard = []
  | .listening queue =>
      ∃ passed, heard = passed ++ queue ∧ ∀ signal ∈ passed, answerOf signal = none
  | .ended => ∀ answer, heard.findSome? answerOf = some answer → settled answer

variable {answerOf : α → Option Bool} {heard : List α} {settled : Bool → Prop} {waiter : Waiter α}

theorem Follows.mono {weaker : Bool → Prop} (hfollows : waiter.Follows answerOf heard settled)
    (hweaker : ∀ answer, settled answer → weaker answer) :
    waiter.Follows answerOf heard weaker := by
  cases waiter with
  | starting => exact hfollows
  | listening queue => exact hfollows
  | ended => exact fun answer hanswer ↦ hweaker answer (hfollows answer hanswer)

theorem Follows.subscribe (hfollows : waiter.Follows answerOf heard settled) (succeeds : Bool) :
    (waiter.subscribe succeeds).Follows answerOf heard settled := by
  cases waiter with
  | starting =>
    obtain rfl : heard = [] := hfollows
    cases succeeds with
    | true => exact ⟨[], rfl, nofun⟩
    | false => exact nofun
  | listening queue => exact hfollows
  | ended => exact hfollows

theorem Follows.emit (hfollows : waiter.Follows answerOf heard settled) (signal : α) :
    (waiter.emit signal).Follows answerOf (heard ++ if waiter.hears then [signal] else [])
      settled := by
  cases waiter with
  | starting => exact (List.append_nil _).trans hfollows
  | listening queue =>
    obtain ⟨passed, hheard, hpassed⟩ := hfollows
    exact ⟨passed, by simp [hears, hheard], hpassed⟩
  | ended => simpa [hears, Waiter.emit] using hfollows

theorem Follows.hangUp (hfollows : waiter.Follows answerOf heard settled) :
    waiter.hangUp.Follows answerOf heard settled := by
  cases waiter with
  | starting => exact hfollows
  | ended => exact hfollows
  | listening queue =>
    cases queue with
    | cons signal queue => exact hfollows
    | nil =>
      obtain ⟨passed, hheard, hpassed⟩ := hfollows
      intro answer hanswer
      rw [hheard, List.append_nil, List.findSome?_eq_none_iff.mpr hpassed] at hanswer
      exact nomatch hanswer

/-- What a thread sends is the first answer among the signals that it has heard. -/
theorem Follows.advance (hfollows : waiter.Follows answerOf heard settled) :
    (∀ answer, (waiter.advance answerOf).2 = some answer →
        heard.findSome? answerOf = some answer) ∧
      (waiter.advance answerOf).1.Follows answerOf heard
        fun answer ↦ settled answer ∨ (waiter.advance answerOf).2 = some answer := by
  cases waiter with
  | starting => exact ⟨nofun, hfollows⟩
  | ended => exact ⟨nofun, fun answer hanswer ↦ .inl (hfollows answer hanswer)⟩
  | listening queue =>
    cases queue with
    | nil => exact ⟨nofun, hfollows⟩
    | cons signal queue =>
      obtain ⟨passed, hheard, hpassed⟩ := hfollows
      rw [Waiter.advance]
      cases hsignal : answerOf signal with
      | none =>
        refine ⟨nofun, passed ++ [signal], by simp [hheard], fun other hother ↦ ?_⟩
        rcases List.mem_append.mp hother with hother | hother
        · exact hpassed other hother
        · rwa [List.mem_singleton.mp hother]
      | some sent =>
        have hfirst : heard.findSome? answerOf = some sent := by
          rw [hheard, List.findSome?_append, List.findSome?_eq_none_iff.mpr hpassed,
            List.findSome?_cons, hsignal]
          rfl
        refine ⟨?_, fun answer hanswer ↦ .inr (hfirst.symm.trans hanswer)⟩
        rintro answer ⟨⟩
        exact hfirst

end Waiter

/-! ### The dialog -/

/-- The two threads. -/
inductive Thread where
  /-- It waits for a button. -/
  | action
  /-- It waits for the end of the notification. -/
  | closed
  deriving DecidableEq

/-- A button that was pressed: the identifier of its notification, and its key. There is nothing
when the arguments of the signal cannot be read. -/
abbrev ActionInvoked :=
  Option (UInt32 × String)

/-- The end of a notification: its identifier, and the reason. -/
abbrev NotificationClosed :=
  Option (UInt32 × UInt32)

/-- A dialog with the user. -/
structure Dialog where
  action : Waiter ActionInvoked
  closed : Waiter NotificationClosed
  /-- The messages in the channel. -/
  channel : List Bool
  answer : Option Bool
  deriving DecidableEq

/-- The dialog after the notification was made. -/
def Dialog.init : Dialog :=
  ⟨.starting, .starting, [], none⟩

/-- What the first thread makes of a signal. -/
def actionAnswer (id : UInt32) : ActionInvoked → Option Bool
  | some (other, key) => if other = id then some (key = "allow") else none
  | none => none

/-- What the second thread makes of a signal. -/
def closedAnswer (id : UInt32) : NotificationClosed → Option Bool
  | some (other, _) => if other = id then some false else none
  | none => none

/-- `recv_timeout`: the first message of the channel, else a refusal if the time is over or there is
no thread left that could send one. -/
def Dialog.receive (dialog : Dialog) (timeout : Bool) : Dialog :=
  match dialog.answer with
  | some _ => dialog
  | none =>
    match dialog.channel with
    | answer :: rest => { dialog with channel := rest, answer := some answer }
    | [] =>
      if timeout || dialog.action = .ended && dialog.closed = .ended then
        { dialog with answer := some false }
      else
        dialog

/-- What happens. -/
inductive DialogEvent where
  /-- The notification server tells about a button. -/
  | actionInvoked (args : ActionInvoked)
  /-- The notification server tells about the end of a notification. -/
  | notificationClosed (args : NotificationClosed)
  | subscribe (thread : Thread) (succeeds : Bool)
  /-- A thread looks at its next signal. -/
  | advance (thread : Thread)
  /-- The connection of a thread is closed. -/
  | hangUp (thread : Thread)
  /-- The dialog looks at the channel. -/
  | receive (timeout : Bool)
  deriving DecidableEq

/-- An event of a dialog with its identifier. For a signal, whether the thread that it is meant for
has subscribed. -/
def Dialog.step (id : UInt32) (dialog : Dialog) : DialogEvent → Dialog × Bool
  | .actionInvoked args => ({ dialog with action := dialog.action.emit args }, dialog.action.hears)
  | .notificationClosed args =>
    ({ dialog with closed := dialog.closed.emit args }, dialog.closed.hears)
  | .subscribe .action succeeds =>
    ({ dialog with action := dialog.action.subscribe succeeds }, false)
  | .subscribe .closed succeeds =>
    ({ dialog with closed := dialog.closed.subscribe succeeds }, false)
  | .advance .action =>
    let after := dialog.action.advance (actionAnswer id)
    ({ dialog with action := after.1, channel := dialog.channel ++ after.2.toList }, false)
  | .advance .closed =>
    let after := dialog.closed.advance (closedAnswer id)
    ({ dialog with closed := after.1, channel := dialog.channel ++ after.2.toList }, false)
  | .hangUp .action => ({ dialog with action := dialog.action.hangUp }, false)
  | .hangUp .closed => ({ dialog with closed := dialog.closed.hangUp }, false)
  | .receive timeout => (dialog.receive timeout, false)

/-- A run of the dialog about a notification. -/
abbrev IsDialog (id : UInt32) (history : List (DialogEvent × Bool)) (dialog : Dialog) : Prop :=
  Run (Dialog.step id) (fun _ _ _ ↦ True) Dialog.init history dialog

/-- The button of a signal that the first thread has heard. -/
def heardAction : DialogEvent × Bool → Option ActionInvoked
  | (.actionInvoked args, true) => some args
  | _ => none

/-- The end of a signal that the second thread has heard. -/
def heardClosed : DialogEvent × Bool → Option NotificationClosed
  | (.notificationClosed args, true) => some args
  | _ => none

/-- The first answer of the buttons. -/
def pressed (id : UInt32) (history : List (DialogEvent × Bool)) : Option Bool :=
  (history.filterMap heardAction).findSome? (actionAnswer id)

/-- The first answer of the ends. -/
def dismissed (id : UInt32) (history : List (DialogEvent × Bool)) : Option Bool :=
  (history.filterMap heardClosed).findSome? (closedAnswer id)

/-- A first answer stays the first. -/
theorem pressed_append {id : UInt32} {history : List (DialogEvent × Bool)} {answer : Bool}
    (hpressed : pressed id history = some answer) (entry : DialogEvent × Bool) :
    pressed id (history ++ [entry]) = some answer := by
  rw [pressed, List.filterMap_append, List.findSome?_append, ← pressed, hpressed, Option.some_or]

theorem dismissed_append {id : UInt32} {history : List (DialogEvent × Bool)} {answer : Bool}
    (hdismissed : dismissed id history = some answer) (entry : DialogEvent × Bool) :
    dismissed id (history ++ [entry]) = some answer := by
  rw [dismissed, List.filterMap_append, List.findSome?_append, ← dismissed, hdismissed,
    Option.some_or]

/-! ### Runs -/

/-- The reasons for an answer. -/
def Reason (id : UInt32) (history : List (DialogEvent × Bool)) (dialog : Dialog) (answer : Bool) :
    Prop :=
  pressed id history = some answer ∨ dismissed id history = some answer ∨
    (answer = false ∧ ((.receive true, false) ∈ history ∨
      (dialog.action = .ended ∧ dialog.closed = .ended ∧ pressed id history = none)))

/-- What holds between the events of a dialog: both threads follow their signals, what they sent is
in the channel until there is an answer, and every answer has its reason. -/
structure Rests (id : UInt32) (history : List (DialogEvent × Bool)) (dialog : Dialog) : Prop where
  action : dialog.action.Follows (actionAnswer id) (history.filterMap heardAction)
    fun answer ↦ answer ∈ dialog.channel ∨ dialog.answer.isSome
  closed : dialog.closed.Follows (closedAnswer id) (history.filterMap heardClosed)
    fun answer ↦ answer ∈ dialog.channel ∨ dialog.answer.isSome
  channel : ∀ answer ∈ dialog.channel,
    pressed id history = some answer ∨ dismissed id history = some answer
  answered : ∀ answer, dialog.answer = some answer → Reason id history dialog answer

section Step

variable {id : UInt32} {history : List (DialogEvent × Bool)} {dialog : Dialog}

/-- A reason stays one while the threads that have ended do. -/
theorem Reason.append {answer : Bool} (hreason : Reason id history dialog answer)
    {entry : DialogEvent × Bool} {after : Dialog}
    (hended : dialog.action = .ended → dialog.closed = .ended →
      after.action = .ended ∧ after.closed = .ended ∧ heardAction entry = none) :
    Reason id (history ++ [entry]) after answer := by
  obtain hpressed | hdismissed | ⟨hanswer, htimeout | ⟨haction, hclosed, hnone⟩⟩ := hreason
  · exact .inl (pressed_append hpressed entry)
  · exact .inr (.inl (dismissed_append hdismissed entry))
  · exact .inr (.inr ⟨hanswer, .inl (List.mem_append_left _ htimeout)⟩)
  · obtain ⟨hafterAction, hafterClosed, hsilent⟩ := hended haction hclosed
    refine .inr (.inr ⟨hanswer, .inr ⟨hafterAction, hafterClosed, ?_⟩⟩)
    rwa [pressed, List.filterMap_append, List.filterMap_cons, hsilent, List.filterMap_nil,
      List.append_nil]

/-- An event that is no signal. -/
theorem Rests.quiet {event : DialogEvent} {after : Dialog}
    (haction : after.action.Follows (actionAnswer id) (history.filterMap heardAction)
      fun answer ↦ answer ∈ after.channel ∨ after.answer.isSome)
    (hclosed : after.closed.Follows (closedAnswer id) (history.filterMap heardClosed)
      fun answer ↦ answer ∈ after.channel ∨ after.answer.isSome)
    (hchannel : ∀ answer ∈ after.channel,
      pressed id history = some answer ∨ dismissed id history = some answer)
    (hanswered : ∀ answer, after.answer = some answer →
      Reason id (history ++ [(event, false)]) after answer) :
    Rests id (history ++ [(event, false)]) after where
  action := by
    rwa [List.filterMap_append, List.filterMap_cons_none (by cases event <;> rfl),
      List.filterMap_nil, List.append_nil]
  closed := by
    rwa [List.filterMap_append, List.filterMap_cons_none (by cases event <;> rfl),
      List.filterMap_nil, List.append_nil]
  channel answer hanswer :=
    (hchannel answer hanswer).imp (pressed_append · _) (dismissed_append · _)
  answered := hanswered

theorem heardAction_quiet (event : DialogEvent) : heardAction (event, false) = none := by
  cases event <;> rfl

/-- The dialog looks at the channel. -/
theorem Rests.receive (hrests : Rests id history dialog) (timeout : Bool) :
    Rests id (history ++ [(.receive timeout, false)]) (dialog.receive timeout) := by
  unfold Dialog.receive
  cases hanswer : dialog.answer with
  | some answer =>
    refine .quiet hrests.action hrests.closed hrests.channel fun answer hanswer ↦
      (hrests.answered answer hanswer).append fun haction hclosed ↦
        ⟨haction, hclosed, heardAction_quiet _⟩
  | none =>
    cases hchannel : dialog.channel with
    | cons first rest =>
      refine .quiet (hrests.action.mono fun _ _ ↦ .inr rfl) (hrests.closed.mono fun _ _ ↦ .inr rfl)
        (fun answer hmem ↦ hrests.channel answer (hchannel ▸ List.mem_cons_of_mem _ hmem)) ?_
      rintro answer ⟨⟩
      have hfirst := hrests.channel first (hchannel ▸ List.mem_cons_self)
      exact hfirst.elim (fun hpressed ↦ .inl (pressed_append hpressed _))
        fun hdismissed ↦ .inr (.inl (dismissed_append hdismissed _))
    | nil =>
      dsimp only
      split_ifs with hover
      · refine .quiet (hrests.action.mono fun _ _ ↦ .inr rfl)
          (hrests.closed.mono fun _ _ ↦ .inr rfl) nofun ?_
        rintro answer ⟨⟩
        refine .inr (.inr ⟨rfl, ?_⟩)
        rcases Bool.or_eq_true_iff.mp hover with rfl | hended
        · exact .inl (List.mem_append_right _ (List.mem_singleton.mpr rfl))
        · obtain ⟨haction, hclosed⟩ := by simpa using hended
          refine .inr ⟨haction, hclosed, ?_⟩
          rw [pressed, List.filterMap_append, List.filterMap_cons_none (heardAction_quiet _),
            List.filterMap_nil, List.append_nil]
          refine Option.eq_none_iff_forall_ne_some.mpr fun answer hpressed ↦ ?_
          have hfollows := hrests.action
          rw [haction] at hfollows
          simpa [hchannel, hanswer] using hfollows answer hpressed
      · exact .quiet hrests.action hrests.closed hrests.channel fun answer hsome ↦
          nomatch hanswer.symm.trans hsome

/-- A thread moves: it may send what it has found. -/
theorem Rests.move (hrests : Rests id history dialog) {event : DialogEvent}
    {action : Waiter ActionInvoked} {closed : Waiter NotificationClosed} {sent : Option Bool}
    (haction : action.Follows (actionAnswer id) (history.filterMap heardAction)
      fun answer ↦ answer ∈ dialog.channel ++ sent.toList ∨ dialog.answer.isSome)
    (hclosed : closed.Follows (closedAnswer id) (history.filterMap heardClosed)
      fun answer ↦ answer ∈ dialog.channel ++ sent.toList ∨ dialog.answer.isSome)
    (hsent : ∀ answer, sent = some answer →
      pressed id history = some answer ∨ dismissed id history = some answer)
    (hended : dialog.action = .ended → dialog.closed = .ended →
      action = .ended ∧ closed = .ended) :
    Rests id (history ++ [(event, false)])
      { dialog with
        action := action, closed := closed, channel := dialog.channel ++ sent.toList } := by
  refine .quiet haction hclosed (fun answer hmem ↦ ?_) fun answer hanswer ↦
    (hrests.answered answer hanswer).append fun hactionEnded hclosedEnded ↦
      ⟨(hended hactionEnded hclosedEnded).1, (hended hactionEnded hclosedEnded).2,
        heardAction_quiet _⟩
  rcases List.mem_append.mp hmem with hmem | hmem
  · exact hrests.channel answer hmem
  · exact hsent answer (Option.mem_toList.mp hmem)

/-- A thread looks at its next signal. -/
theorem Rests.advance (hrests : Rests id history dialog) (thread : Thread) :
    Rests id (history ++ [(.advance thread, false)]) (dialog.step id (.advance thread)).1 := by
  have hkeeps : ∀ {sent : Option Bool} (answer : Bool),
      answer ∈ dialog.channel ∨ dialog.answer.isSome →
        answer ∈ dialog.channel ++ sent.toList ∨ dialog.answer.isSome :=
    fun _ ↦ .imp_left (List.mem_append_left _)
  cases thread with
  | action =>
    obtain ⟨hsent, haction⟩ := hrests.action.advance
    refine hrests.move (haction.mono fun answer hanswer ↦ ?_) (hrests.closed.mono hkeeps)
      (fun answer hanswer ↦ .inl (hsent answer hanswer)) fun hactionEnded hclosedEnded ↦
        ⟨by rw [hactionEnded]; rfl, hclosedEnded⟩
    exact hanswer.elim (hkeeps answer) fun hanswer ↦
      .inl (List.mem_append_right _ (Option.mem_toList.mpr hanswer))
  | closed =>
    obtain ⟨hsent, hclosed⟩ := hrests.closed.advance
    refine hrests.move (hrests.action.mono hkeeps) (hclosed.mono fun answer hanswer ↦ ?_)
      (fun answer hanswer ↦ .inr (hsent answer hanswer)) fun hactionEnded hclosedEnded ↦
        ⟨hactionEnded, by rw [hclosedEnded]; rfl⟩
    exact hanswer.elim (hkeeps answer) fun hanswer ↦
      .inl (List.mem_append_right _ (Option.mem_toList.mpr hanswer))

/-- A thread moves and sends nothing. -/
theorem Rests.moveSilently (hrests : Rests id history dialog) {event : DialogEvent}
    {action : Waiter ActionInvoked} {closed : Waiter NotificationClosed}
    (haction : action.Follows (actionAnswer id) (history.filterMap heardAction)
      fun answer ↦ answer ∈ dialog.channel ∨ dialog.answer.isSome)
    (hclosed : closed.Follows (closedAnswer id) (history.filterMap heardClosed)
      fun answer ↦ answer ∈ dialog.channel ∨ dialog.answer.isSome)
    (hended : dialog.action = .ended → dialog.closed = .ended →
      action = .ended ∧ closed = .ended) :
    Rests id (history ++ [(event, false)]) { dialog with action := action, closed := closed } :=
  .quiet haction hclosed hrests.channel fun answer hanswer ↦
    (hrests.answered answer hanswer).append fun hactionEnded hclosedEnded ↦
      ⟨(hended hactionEnded hclosedEnded).1, (hended hactionEnded hclosedEnded).2,
        heardAction_quiet _⟩

/-- A button is pressed. -/
theorem Rests.actionInvoked (hrests : Rests id history dialog) (args : ActionInvoked) :
    Rests id (history ++ [(.actionInvoked args, dialog.action.hears)])
      { dialog with action := dialog.action.emit args } where
  action := by
    have hemit := hrests.action.emit args
    rw [List.filterMap_append]
    cases hhears : dialog.action.hears with
    | true => rwa [hhears] at hemit
    | false => rwa [hhears] at hemit
  closed := by
    rw [List.filterMap_append, List.filterMap_cons_none rfl, List.filterMap_nil, List.append_nil]
    exact hrests.closed
  channel answer hanswer :=
    (hrests.channel answer hanswer).imp (pressed_append · _) (dismissed_append · _)
  answered answer hanswer := (hrests.answered answer hanswer).append fun haction hclosed ↦ by
    rw [haction]
    exact ⟨rfl, hclosed, rfl⟩

/-- The notification ends. -/
theorem Rests.notificationClosed (hrests : Rests id history dialog) (args : NotificationClosed) :
    Rests id (history ++ [(.notificationClosed args, dialog.closed.hears)])
      { dialog with closed := dialog.closed.emit args } where
  action := by
    rw [List.filterMap_append, List.filterMap_cons_none rfl, List.filterMap_nil, List.append_nil]
    exact hrests.action
  closed := by
    have hemit := hrests.closed.emit args
    rw [List.filterMap_append]
    cases hhears : dialog.closed.hears with
    | true => rwa [hhears] at hemit
    | false => rwa [hhears] at hemit
  channel answer hanswer :=
    (hrests.channel answer hanswer).imp (pressed_append · _) (dismissed_append · _)
  answered answer hanswer := (hrests.answered answer hanswer).append fun haction hclosed ↦ by
    rw [hclosed]
    exact ⟨haction, rfl, rfl⟩

/-- Every event keeps what holds between the events. -/
theorem Rests.step (hrests : Rests id history dialog) (event : DialogEvent) :
    Rests id (history ++ [(event, (dialog.step id event).2)]) (dialog.step id event).1 := by
  cases event with
  | actionInvoked args => exact hrests.actionInvoked args
  | notificationClosed args => exact hrests.notificationClosed args
  | subscribe thread succeeds =>
    cases thread with
    | action =>
      exact hrests.moveSilently (hrests.action.subscribe succeeds) hrests.closed
        fun haction hclosed ↦ ⟨by rw [haction]; rfl, hclosed⟩
    | closed =>
      exact hrests.moveSilently hrests.action (hrests.closed.subscribe succeeds)
        fun haction hclosed ↦ ⟨haction, by rw [hclosed]; rfl⟩
  | advance thread =>
    have hquiet : (dialog.step id (.advance thread)).2 = false := by cases thread <;> rfl
    rw [hquiet]
    exact hrests.advance thread
  | hangUp thread =>
    cases thread with
    | action =>
      exact hrests.moveSilently hrests.action.hangUp hrests.closed
        fun haction hclosed ↦ ⟨by rw [haction]; rfl, hclosed⟩
    | closed =>
      exact hrests.moveSilently hrests.action hrests.closed.hangUp
        fun haction hclosed ↦ ⟨haction, by rw [hclosed]; rfl⟩
  | receive timeout => exact hrests.receive timeout

end Step

/-! ### The answer -/

/-- The first button that the first thread heard of this notification is the one that accepts. -/
def Accepted (id : UInt32) (history : List (DialogEvent × Bool)) : Prop :=
  ∃ before after, history.filterMap heardAction = before ++ some (id, "allow") :: after ∧
    ∀ key, some (id, key) ∉ before

/-- The second thread heard the end of this notification. -/
def Dismissed (id : UInt32) (history : List (DialogEvent × Bool)) : Prop :=
  ∃ reason, some (id, reason) ∈ history.filterMap heardClosed

/-- The dialog looked at the channel when the time was over. -/
def TimedOut (history : List (DialogEvent × Bool)) : Prop :=
  (.receive true, false) ∈ history

/-- What an answer rests on: the user has accepted, or has not, or the notification ended or the
time was over first. -/
structure Grounded (id : UInt32) (history : List (DialogEvent × Bool)) (answer : Option Bool) :
    Prop where
  accepted : answer = some true → Accepted id history
  refused : answer = some false → ¬ Accepted id history ∨ Dismissed id history ∨ TimedOut history

theorem actionAnswer_eq_none_iff {id : UInt32} {args : ActionInvoked} :
    actionAnswer id args = none ↔ ∀ key, args ≠ some (id, key) := by
  rcases args with _ | ⟨other, key⟩
  · simp [actionAnswer]
  · by_cases hother : other = id <;> simp [actionAnswer, hother]

theorem actionAnswer_eq_some_true_iff {id : UInt32} {args : ActionInvoked} :
    actionAnswer id args = some true ↔ args = some (id, "allow") := by
  rcases args with _ | ⟨other, key⟩
  · simp [actionAnswer]
  · by_cases hother : other = id <;> simp [actionAnswer, hother]

theorem pressed_eq_some_true_iff {id : UInt32} {history : List (DialogEvent × Bool)} :
    pressed id history = some true ↔ Accepted id history := by
  rw [pressed, List.findSome?_eq_some_iff, Accepted]
  constructor
  · rintro ⟨before, args, after, hheard, hargs, hbefore⟩
    obtain rfl := actionAnswer_eq_some_true_iff.mp hargs
    exact ⟨before, after, hheard, fun key hmem ↦
      actionAnswer_eq_none_iff.mp (hbefore _ hmem) key rfl⟩
  · rintro ⟨before, after, hheard, hbefore⟩
    refine ⟨before, _, after, hheard, actionAnswer_eq_some_true_iff.mpr rfl, fun args hmem ↦ ?_⟩
    exact actionAnswer_eq_none_iff.mpr fun key hargs ↦ hbefore key (hargs ▸ hmem)

/-- An end never accepts. -/
theorem dismissed_eq_some {id : UInt32} {history : List (DialogEvent × Bool)} {answer : Bool}
    (hdismissed : dismissed id history = some answer) :
    answer = false ∧ Dismissed id history := by
  obtain ⟨args, hmem, hargs⟩ := List.exists_of_findSome?_eq_some hdismissed
  rcases args with _ | ⟨other, reason⟩
  · exact nomatch hargs
  rw [closedAnswer] at hargs
  split_ifs at hargs with hother
  subst hother
  exact ⟨(Option.some.inj hargs).symm, reason, hmem⟩

/-- What holds between the events holds in every run. -/
theorem rests_of_run {id : UInt32} {history : List (DialogEvent × Bool)} {dialog : Dialog}
    (hrun : IsDialog id history dialog) : Rests id history dialog :=
  hrun.invariant ⟨rfl, rfl, nofun, nofun⟩ fun _ _ event _ hrests _ ↦ hrests.step event

theorem Rests.accepted {id : UInt32} {history : List (DialogEvent × Bool)} {dialog : Dialog}
    (hrests : Rests id history dialog) (hanswer : dialog.answer = some true) :
    Accepted id history := by
  obtain hpressed | hdismissed | ⟨hfalse, -⟩ := hrests.answered true hanswer
  · exact pressed_eq_some_true_iff.mp hpressed
  · exact nomatch (dismissed_eq_some hdismissed).1
  · exact nomatch hfalse

/-- In every run the user is taken to accept only if the first button of this notification is the
one that accepts, and then to refuse only if the end of the notification was heard, too, or the time
was over. -/
theorem grounded_of_run {id : UInt32} {history : List (DialogEvent × Bool)} {dialog : Dialog}
    (hrun : IsDialog id history dialog) : Grounded id history dialog.answer := by
  have hrests := rests_of_run hrun
  refine ⟨hrests.accepted, fun hanswer ↦ ?_⟩
  obtain hpressed | hdismissed | ⟨-, htimeout | ⟨-, -, hnone⟩⟩ := hrests.answered false hanswer
  · refine .inl fun haccepted ↦ ?_
    exact nomatch hpressed.symm.trans (pressed_eq_some_true_iff.mpr haccepted)
  · exact .inr (.inl (dismissed_eq_some hdismissed).2)
  · exact .inr (.inr htimeout)
  · refine .inl fun haccepted ↦ ?_
    exact nomatch hnone.symm.trans (pressed_eq_some_true_iff.mpr haccepted)

/-- Another notification is accepted first, then this one, and both threads have heard of it. -/
def acceptedEvents : List DialogEvent :=
  [.subscribe .action true, .subscribe .closed true, .actionInvoked (some (6, "allow")),
    .actionInvoked (some (7, "allow")), .notificationClosed (some (7, 2)), .advance .action]

/-- The thread of the button comes first. -/
theorem grounded_of_run_accepted :
    let after := execute (Dialog.step 7) Dialog.init
      (acceptedEvents ++ [.advance .action, .advance .closed, .receive false])
    Grounded 7 after.1 after.2.answer :=
  grounded_of_run (run_execute _ (admits_of_forall (fun _ _ _ ↦ trivial) _ _ _))

/-- The thread of the end may come first, and the user is taken to refuse. -/
example : (execute (Dialog.step 7) Dialog.init
    (acceptedEvents ++ [.advance .closed, .advance .action, .receive false])).2.answer =
      some false := by
  decide

/-! ### The answer about a file -/

/-- `request_auth_dialog` for a file: there is an error without a notification, and at the end the
time is over. -/
def requestFileAuth (session : FileUpdateMessage → Option (UInt32 × List DialogEvent)) :
    RequestFileAuth := fun request ↦
  match session request with
  | none => .error .dialog
  | some (id, events) =>
    let after := execute (Dialog.step id) Dialog.init (events ++ [.receive true])
    .ok (after.2.answer.getD false)

/-- The user accepts in a dialog about the request. -/
def AcceptedIn (session : FileUpdateMessage → Option (UInt32 × List DialogEvent))
    (request : FileUpdateMessage) : Prop :=
  ∃ id events, session request = some (id, events) ∧
    Accepted id (execute (Dialog.step id) Dialog.init (events ++ [.receive true])).1

/-- A request that is granted was accepted. -/
theorem acceptedIn_of_requestFileAuth
    {session : FileUpdateMessage → Option (UInt32 × List DialogEvent)} {request : FileUpdateMessage}
    (hgranted : requestFileAuth session request = .ok true) : AcceptedIn session request := by
  unfold requestFileAuth at hgranted
  split at hgranted
  · exact nomatch hgranted
  · next id events hsession =>
    have hrun : IsDialog id _ _ :=
      run_execute (events ++ [.receive true]) (admits_of_forall (fun _ _ _ ↦ trivial) _ _ _)
    refine ⟨id, events, hsession, (rests_of_run hrun).accepted ?_⟩
    cases hanswer : (execute (Dialog.step id) Dialog.init (events ++ [.receive true])).2.answer with
    | none => simp [hanswer] at hgranted
    | some answer => simpa [hanswer] using hgranted

end Keysas.Firewall.AuthDialog
