import Mathlib.Data.List.Basic
import Mathlib.Tactic.Common

/-!
# Stream links

A server listens, clients connect, and the server accepts one connection at a time on which it sends
segments: bytes, and rights that travel with them, such as descriptors. A link is the state of a
server with one client at a time. Connections are numbered in the order in which they are opened, so
that the end that the server holds and the end that the client holds can belong to different
connections: after the client has come back, the server may still hold the end of the connection
that the client has left.

What has been sent and not received waits in the queue of the client and goes away with its end of
the connection. A read takes bytes up to a capacity, across segments, but stops behind a segment
with rights, and the rights of a segment come with its first byte (`readSegments`). `rights` lists
what is in flight; no operation but a read and the closing of the client's end takes anything from
it.

A `Link` carries that its numbers are those of opened connections and that nothing waits where
there is no end to receive it. Hence a client that has just connected is not linked to the server,
whatever the server holds (`not_linked_of_connect`).
-/

set_option autoImplicit false
set_option relaxedAutoImplicit false

namespace Wire

/-! ### Segments -/

/-- What one write puts on a connection. -/
structure Segment (ρ : Type) where
  bytes : List UInt8
  rights : List ρ
  deriving DecidableEq

variable {ρ : Type}

/-- One read of a number of bytes: the bytes, the rights that come with them, and what stays. -/
def readSegments : ℕ → List (Segment ρ) → List UInt8 × List ρ × List (Segment ρ)
  | _, [] => ([], [], [])
  | capacity, segment :: segments =>
    if capacity = 0 then ([], [], segment :: segments)
    else if capacity < segment.bytes.length then
      (segment.bytes.take capacity, segment.rights,
        ⟨segment.bytes.drop capacity, []⟩ :: segments)
    else if segment.rights.isEmpty then
      let others := readSegments (capacity - segment.bytes.length) segments
      (segment.bytes ++ others.1, others.2)
    else (segment.bytes, segment.rights, segments)

/-- A read whose capacity is enough for a segment with rights takes exactly that segment. -/
theorem readSegments_cons {capacity : ℕ} {segment : Segment ρ} (segments : List (Segment ρ))
    (hpositive : 0 < capacity) (hfits : segment.bytes.length ≤ capacity)
    (hrights : segment.rights ≠ []) :
    readSegments capacity (segment :: segments) = (segment.bytes, segment.rights, segments) := by
  have hnonempty : segment.rights.isEmpty = false := by simpa using hrights
  rw [readSegments, if_neg (by omega), if_neg (by omega), hnonempty]
  rfl

/-! ### Links -/

/-- A server and its client. -/
structure Link (ρ : Type) where
  /-- Whether the server listens. -/
  listening : Bool
  /-- How many connections were opened. -/
  opened : ℕ
  /-- The connections that wait to be accepted. -/
  backlog : List ℕ
  /-- The connection of which the server holds an end. -/
  stream : Option ℕ
  /-- The connection of which the client holds an end. -/
  socket : Option ℕ
  /-- What the client can receive. -/
  queue : List (Segment ρ)
  backlog_lt : ∀ connection ∈ backlog, connection < opened
  stream_lt : ∀ connection ∈ stream, connection < opened
  queue_eq_nil : socket = none → queue = []

namespace Link

/-- Nothing has happened. -/
def init : Link ρ where
  listening := false
  opened := 0
  backlog := []
  stream := none
  socket := none
  queue := []
  backlog_lt := by simp
  stream_lt := by simp
  queue_eq_nil _ := rfl

variable (link : Link ρ)

/-- The rights in flight. -/
def rights : List ρ :=
  link.queue.flatMap Segment.rights

/-- The server and the client hold the two ends of one connection. -/
def Linked : Prop :=
  link.stream ≠ none ∧ link.stream = link.socket

instance : Decidable link.Linked :=
  inferInstanceAs (Decidable (_ ∧ _))

/-- The server begins to listen. -/
def listen : Link ρ :=
  { link with listening := true }

/-- The client opens a connection: nothing when no server listens or when it has one already. -/
def connect : Option (Link ρ) :=
  if link.listening ∧ link.socket = none then
    some
      { listening := link.listening
        opened := link.opened + 1
        backlog := link.backlog ++ [link.opened]
        stream := link.stream
        socket := some link.opened
        queue := []
        backlog_lt := by
          intro connection hconnection
          rcases List.mem_append.mp hconnection with hwaiting | hlast
          · exact Nat.lt_succ_of_lt (link.backlog_lt connection hwaiting)
          · rw [List.mem_singleton.mp hlast]
            exact Nat.lt_succ_self _
        stream_lt := fun connection hconnection ↦
          Nat.lt_succ_of_lt (link.stream_lt connection hconnection)
        queue_eq_nil := by simp }
  else none

/-- The server takes the first connection that waits in place of the one that it held: nothing when
none waits. -/
def accept : Option (Link ρ) :=
  match hbacklog : link.backlog with
  | [] => none
  | connection :: others =>
    some
      { link with
        backlog := others
        stream := some connection
        backlog_lt := fun other hother ↦
          link.backlog_lt other (hbacklog ▸ List.mem_cons_of_mem connection hother)
        stream_lt := by
          intro other hother
          obtain rfl := Option.some.inj hother
          exact link.backlog_lt connection (hbacklog ▸ List.mem_cons_self) }

/-- The server sends a segment: nothing when the other end is closed or the call fails otherwise. A
segment without bytes leaves nothing. -/
def send (segment : Segment ρ) (succeeds : Bool) : Option (Link ρ) :=
  if hlinked : succeeds = true ∧ link.Linked then
    some
      { link with
        queue := if segment.bytes.isEmpty then link.queue else link.queue ++ [segment]
        queue_eq_nil := fun hclosed ↦ absurd (hlinked.2.2.trans hclosed) hlinked.2.1 }
  else none

/-- The end of the client is open, but no server will ever send on it again. -/
def Ended : Prop :=
  ∃ connection ∈ link.socket, connection ∉ link.stream ∧ connection ∉ link.backlog

instance : Decidable link.Ended :=
  match hsocket : link.socket with
  | none => .isFalse (by simp [Ended, hsocket])
  | some connection =>
    decidable_of_iff (connection ∉ link.stream ∧ connection ∉ link.backlog)
      (by simp [Ended, hsocket])

/-- The client reads: nothing when the call blocks, and no bytes at the end of the stream. -/
def receive (capacity : ℕ) : Option (List UInt8 × List ρ × Link ρ) :=
  if link.queue = [] then if link.Ended then some ([], [], link) else none
  else
    let taken := readSegments capacity link.queue
    some (taken.1, taken.2.1,
      { link with
        queue := taken.2.2
        queue_eq_nil := fun hclosed ↦ by
          simp only [taken, link.queue_eq_nil hclosed, readSegments] })

/-- The server closes its end. -/
def closeStream : Link ρ :=
  { link with stream := none, stream_lt := by simp }

/-- The client closes its end, and what it has not received is gone. -/
def closeSocket : Link ρ :=
  { link with socket := none, queue := [], queue_eq_nil := fun _ ↦ rfl }

/-- The server ends, and with it the connections that wait. -/
def stop : Link ρ :=
  { link with
    listening := false
    backlog := []
    stream := none
    backlog_lt := by simp
    stream_lt := by simp }

/-! ### What is in flight -/

variable {link}

/-- What is in flight is what waits in the queue. -/
theorem rights_of_queue_eq {after : Link ρ} (hqueue : after.queue = link.queue) :
    after.rights = link.rights :=
  congrArg (List.flatMap Segment.rights) hqueue

theorem queue_of_connect {after : Link ρ} (hconnect : link.connect = some after) :
    after.queue = link.queue := by
  unfold connect at hconnect
  split_ifs at hconnect with hcloses
  obtain rfl := Option.some.inj hconnect
  exact (link.queue_eq_nil hcloses.2).symm

theorem queue_of_accept {after : Link ρ} (haccept : link.accept = some after) :
    after.queue = link.queue := by
  unfold accept at haccept
  split at haccept
  · cases haccept
  · obtain rfl := Option.some.inj haccept
    rfl

theorem queue_of_send_eq_some {segment : Segment ρ} {succeeds : Bool} {after : Link ρ}
    (hsend : link.send segment succeeds = some after) :
    after.queue = if segment.bytes.isEmpty then link.queue else link.queue ++ [segment] := by
  unfold send at hsend
  by_cases hsends : succeeds = true ∧ link.Linked
  · rw [dif_pos hsends] at hsend
    rw [← Option.some.inj hsend]
  · rw [dif_neg hsends] at hsend
    cases hsend

/-- A segment that is sent stands at the end of the queue. -/
theorem queue_of_send {segment : Segment ρ} {succeeds : Bool} {after : Link ρ}
    (hbytes : segment.bytes ≠ []) (hsend : link.send segment succeeds = some after) :
    after.queue = link.queue ++ [segment] := by
  have hnonempty : segment.bytes.isEmpty = false := by simpa using hbytes
  rw [queue_of_send_eq_some hsend, hnonempty]
  rfl

/-- A write without bytes changes nothing in the queue. -/
theorem queue_of_send_nil {rights : List ρ} {succeeds : Bool} {after : Link ρ}
    (hsend : link.send ⟨[], rights⟩ succeeds = some after) : after.queue = link.queue :=
  queue_of_send_eq_some hsend

/-- The server can send when it and the client hold the ends of one connection. -/
theorem isSome_send (hlinked : link.Linked) (segment : Segment ρ) :
    (link.send segment true).isSome := by
  unfold send
  rw [dif_pos ⟨rfl, hlinked⟩]
  rfl

/-- The server cannot send to a client that has left. -/
theorem send_of_not_linked (hlinked : ¬ link.Linked) (segment : Segment ρ) (succeeds : Bool) :
    link.send segment succeeds = none :=
  dif_neg fun hsends ↦ hlinked hsends.2

/-- A client that has just connected is not linked to the server, which holds an end of an earlier
connection at most. -/
theorem not_linked_of_connect {after : Link ρ} (hconnect : link.connect = some after) :
    ¬ after.Linked := by
  unfold connect at hconnect
  split_ifs at hconnect
  obtain rfl := Option.some.inj hconnect
  rintro ⟨-, hsame⟩
  exact Nat.lt_irrefl _ (link.stream_lt _ hsame)

/-- What a read gives when the first segment has rights and fits. -/
theorem receive_of_fits {capacity : ℕ} {segment : Segment ρ} {segments : List (Segment ρ)}
    (hqueue : link.queue = segment :: segments) (hpositive : 0 < capacity)
    (hfits : segment.bytes.length ≤ capacity) (hrights : segment.rights ≠ []) :
    ∃ after, link.receive capacity = some (segment.bytes, segment.rights, after) ∧
      after.queue = segments := by
  have hread : readSegments capacity link.queue = (segment.bytes, segment.rights, segments) := by
    rw [hqueue, readSegments_cons segments hpositive hfits hrights]
  unfold receive
  rw [if_neg (by rw [hqueue]; exact List.cons_ne_nil _ _)]
  simp only [hread]
  exact ⟨_, rfl, rfl⟩

/-- A read of an empty queue gives nothing and leaves the link as it is. -/
theorem receive_of_queue_eq_nil {capacity : ℕ} {bytes : List UInt8} {rights : List ρ}
    {after : Link ρ} (hqueue : link.queue = [])
    (hreceive : link.receive capacity = some (bytes, rights, after)) :
    bytes = [] ∧ rights = [] ∧ after = link := by
  unfold receive at hreceive
  rw [if_pos hqueue] at hreceive
  split_ifs at hreceive
  simpa [eq_comm] using hreceive

end Link

end Wire
