import Keysas.Runs.HistoryRun

/-!
# A file that is written anew while it is read

A writer publishes values one after the other in one file: it creates the file, which empties it,
and then writes the bytes of the value piece by piece. A write may fail, and then the file stays as
it is. Meanwhile a reader opens the file and reads it piece by piece, up to its end.

The events of the two come in any order. `content_of_execute` says that the file always holds a
front of the bytes of the value that was published last, and `buffer_of_opened` that a reader that
is at the end has read the whole file, when the file was not created after it was opened.
-/

set_option autoImplicit false
set_option relaxedAutoImplicit false

namespace Runs

/-- A file with the write and the read that are under way. -/
structure SharedFile (α β : Type) where
  /-- The value whose publication began last. -/
  shown : Option α
  /-- What the file holds, when there is a file. -/
  content : Option (List β)
  /-- What is left to write. -/
  left : List β
  /-- What has been read, when the file is open. -/
  buffer : Option (List β)
  deriving DecidableEq

namespace SharedFile

variable {α β : Type}

/-- There is no file. -/
def absent : SharedFile α β where
  shown := none
  content := none
  left := []
  buffer := none

/-- What the writer and the reader do. -/
inductive Event (α : Type) where
  /-- The file is created, to write a value. -/
  | create (value : α)
  /-- Some bytes are written. -/
  | write (count : ℕ)
  /-- A write fails. -/
  | abandon
  /-- The file is opened for reading. -/
  | openFile
  /-- Some bytes are read. -/
  | read (count : ℕ)
  deriving DecidableEq

variable (bytes : α → List β)

/-- One event. A reader that is opened anew begins at the front. -/
def step (file : SharedFile α β) : Event α → SharedFile α β × Unit
  | .create value =>
    ({ file with shown := some value, content := some [], left := bytes value }, ())
  | .write count =>
    ({ file with
      content := file.content.map (· ++ file.left.take count)
      left := file.left.drop count }, ())
  | .abandon => ({ file with left := [] }, ())
  | .openFile => ({ file with buffer := some [] }, ())
  | .read count =>
    ({ file with
      buffer := file.buffer.map fun buffer ↦
        buffer ++ ((file.content.getD []).drop buffer.length).take count }, ())

/-- The file holds a front of the bytes of the value that was published last, and what is left to
write is what follows it. -/
structure Consistent (file : SharedFile α β) : Prop where
  content : ∀ content, file.content = some content →
    ∃ value, file.shown = some value ∧ content ++ file.left <+: bytes value
  left : file.content = none → file.left = []

variable {bytes}

theorem consistent_absent : Consistent bytes (absent : SharedFile α β) := by
  refine ⟨?_, fun _ ↦ rfl⟩
  rintro _ ⟨⟩

theorem consistent_step {file : SharedFile α β} (hfile : Consistent bytes file) (event : Event α) :
    Consistent bytes (step bytes file event).1 := by
  cases event with
  | create value =>
    refine ⟨?_, ?_⟩
    · rintro _ ⟨⟩
      exact ⟨value, rfl, List.prefix_rfl⟩
    · rintro ⟨⟩
  | write count =>
    refine ⟨fun content hcontent ↦ ?_, fun hnone ↦ ?_⟩
    · obtain ⟨before, hbefore, rfl⟩ := Option.map_eq_some_iff.mp hcontent
      obtain ⟨value, hshown, hfront⟩ := hfile.content before hbefore
      refine ⟨value, hshown, ?_⟩
      show before ++ file.left.take count ++ file.left.drop count <+: bytes value
      rwa [List.append_assoc, List.take_append_drop]
    · show file.left.drop count = []
      rw [hfile.left (Option.map_eq_none_iff.mp hnone), List.drop_nil]
  | abandon =>
    refine ⟨fun content hcontent ↦ ?_, fun _ ↦ rfl⟩
    obtain ⟨value, hshown, hfront⟩ := hfile.content content hcontent
    refine ⟨value, hshown, ?_⟩
    show content ++ [] <+: bytes value
    rw [List.append_nil]
    exact (List.prefix_append content file.left).trans hfront
  | openFile => exact ⟨hfile.content, hfile.left⟩
  | read count => exact ⟨hfile.content, hfile.left⟩

/-- The value that an event publishes. -/
def Event.created : Event α → Option α
  | .create value => some value
  | .write _ | .abandon | .openFile | .read _ => none

/-- What is published last in some events. -/
theorem shown_execute (events : List (Event α)) (file : SharedFile α β) :
    (execute (step bytes) file events).2.shown =
      (events.filterMap Event.created).getLast?.or file.shown := by
  induction events generalizing file with
  | nil => rfl
  | cons event events ih =>
    rw [execute, ih]
    cases event with
    | create value =>
      have hcreated : (Event.create value :: events).filterMap Event.created =
          value :: events.filterMap Event.created := rfl
      rw [hcreated, List.getLast?_cons]
      cases (events.filterMap Event.created).getLast? <;> rfl
    | write count => rfl
    | abandon => rfl
    | openFile => rfl
    | read count => rfl

/-- The file always holds a front of the bytes of the value that was published last. -/
theorem content_of_execute {events : List (Event α)} {content : List β}
    (hcontent : (execute (step bytes) absent events).2.content = some content) :
    ∃ value, (events.filterMap Event.created).getLast? = some value ∧ content <+: bytes value := by
  have hall : ∀ file : SharedFile α β, Consistent bytes file →
      Consistent bytes (execute (step bytes) file events).2 := by
    clear hcontent
    induction events with
    | nil => exact fun _ hfile ↦ hfile
    | cons event events ih => exact fun _ hfile ↦ ih _ (consistent_step hfile event)
  obtain ⟨value, hshown, hfront⟩ := (hall absent consistent_absent).content content hcontent
  refine ⟨value, ?_, (List.prefix_append content _).trans hfront⟩
  rw [shown_execute] at hshown
  exact (Option.or_none.symm.trans hshown)

/-! ### Reading -/

/-- What has been read is a front of what the file holds. -/
def Fresh (file : SharedFile α β) : Prop :=
  ∀ buffer, file.buffer = some buffer → buffer <+: file.content.getD []

/-- The file is not created in an event. -/
def Event.keeps : Event α → Bool
  | .create _ => false
  | .write _ | .abandon | .openFile | .read _ => true

theorem fresh_openFile (file : SharedFile α β) : Fresh (step bytes file .openFile).1 := by
  rintro _ ⟨⟩
  exact List.nil_prefix

theorem fresh_step {file : SharedFile α β} (hfile : Fresh file) {event : Event α}
    (hkeeps : event.keeps = true) : Fresh (step bytes file event).1 := by
  intro buffer hbuffer
  cases event with
  | create value => cases hkeeps
  | write count =>
    have hfront := hfile buffer hbuffer
    show buffer <+: (file.content.map _).getD []
    cases hcontent : file.content with
    | none => rwa [hcontent] at hfront
    | some content =>
      rw [hcontent] at hfront
      exact hfront.trans (List.prefix_append content _)
  | abandon => exact hfile buffer hbuffer
  | openFile => exact fresh_openFile file buffer hbuffer
  | read count =>
    obtain ⟨before, hbefore, rfl⟩ := Option.map_eq_some_iff.mp hbuffer
    obtain ⟨back, hback⟩ := hfile before hbefore
    show before ++ ((file.content.getD []).drop before.length).take count <+: file.content.getD []
    rw [← hback, List.drop_left]
    exact (List.prefix_append_right_inj before).mpr (List.take_prefix count back)

/-- The reader is at the end of the file: it has read as much as the file holds. -/
def AtEnd (file : SharedFile α β) : Prop :=
  match file.buffer, file.content with
  | some buffer, some content => content.length ≤ buffer.length
  | _, _ => False

instance (file : SharedFile α β) : Decidable file.AtEnd :=
  match hbuffer : file.buffer, hcontent : file.content with
  | some buffer, some content =>
    decidable_of_iff (content.length ≤ buffer.length) (by rw [AtEnd, hbuffer, hcontent])
  | none, _ => .isFalse (by rw [AtEnd, hbuffer]; exact id)
  | some _, none => .isFalse (by rw [AtEnd, hbuffer, hcontent]; exact id)

theorem AtEnd.exists_content {file : SharedFile α β} (hend : file.AtEnd) :
    ∃ buffer content, file.buffer = some buffer ∧ file.content = some content ∧
      content.length ≤ buffer.length := by
  unfold AtEnd at hend
  split at hend
  · next buffer content hbuffer hcontent => exact ⟨buffer, content, hbuffer, hcontent, hend⟩
  · exact hend.elim

/-- A reader that is at the end of the file has read the whole file. Assumes: the file has not been
created since it was opened. -/
theorem buffer_of_opened {file : SharedFile α β} {during : List (Event α)}
    (hkeeps : ∀ event ∈ during, event.keeps = true)
    (hend : AtEnd (execute (step bytes) file (.openFile :: during)).2) :
    (execute (step bytes) file (.openFile :: during)).2.buffer =
      (execute (step bytes) file (.openFile :: during)).2.content := by
  have hall : ∀ file, Fresh file → Fresh (execute (step bytes) file during).2 := by
    clear hend
    induction during with
    | nil => exact fun _ hfile ↦ hfile
    | cons event during ih =>
      intro file hfile
      exact ih (fun other hother ↦ hkeeps other (.tail _ hother)) _
        (fresh_step hfile (hkeeps event (.head _)))
  obtain ⟨buffer, content, hbuffer, hcontent, hlength⟩ := hend.exists_content
  have hfront := hall (step bytes file .openFile).1 (fresh_openFile file) buffer hbuffer
  rw [show (execute (step bytes) (step bytes file .openFile).1 during).2.content = some content
    from hcontent] at hfront
  rw [hbuffer, hcontent]
  exact congrArg some (hfront.eq_of_length_le hlength)

end SharedFile

end Runs
