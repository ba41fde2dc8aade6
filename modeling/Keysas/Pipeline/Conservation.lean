import Keysas.Pipeline.Release
import Keysas.Pipeline.Station

/-!
# Conservation of files

`keysas-in` unlinks a file as soon as it has sent its descriptor; from then on the file exists only
in the messages and in the descriptors of the daemons. `Conserved` says that every unlinked file is
still on its way or was output to the end.

The daemons do not conserve files in every run. When `keysas-out` goes away while transit checks a
file, the message cannot be sent, and transit closes the descriptor and waits for the next
connection with nothing left to send (`not_forall_run_conserved`). That `keysas-out` has come back
in the meantime does not help, because transit still holds the end of the old connection
(`held_sendTransit_connectOut`). `careful` lists, daemon by daemon, the steps in which a file can
be given up, and `conserved_of_run` says that nothing is lost in a run without them.
-/

set_option autoImplicit false
set_option relaxedAutoImplicit false

namespace Keysas.Pipeline

open Crypto Keys Reports RustStd Runs Runs.Program Wire Wire.PrefixCodec Wire.Bincode
open Transit (AncillaryData FileScans InputMetadata receivedFds)

variable {schemes : Schemes}

/-! ### Conservation -/

/-- `output_files` has gone through with a file: its report was generated, and the file was written
with its whole content or refused, as its metadata say. -/
def Handling.Complete (installation : Installation schemes) (handling : Handling) : Prop :=
  ∃ content report, handling.calls.content = some content ∧ .logReport report ∈ handling.trace ∧
    ((∃ path, .createOutput path ∈ handling.trace) ↔
      Out.released installation.outConf
        (Out.recheckDigest installation.sha256 content handling.f.md) = true) ∧
    (Out.released installation.outConf
        (Out.recheckDigest installation.sha256 content handling.f.md) = true →
      .writeOutput (push installation.outConf.sasOut handling.f.md.filename) content ∈
        handling.trace)

/-- The file is on its way or was output. -/
def Station.Carried (station : Station) (file : ℕ) : Prop :=
  file ∈ station.toTransit.rights ∨ file ∈ station.transit.held ∨ file ∈ station.toOut.rights ∨
    file ∈ station.keysasOut.held ∨ ∃ handling ∈ station.handled, handling.f.fd = file

/-- Every file that `keysas-in` has unlinked waits on one of the connections, or is held by transit
or `keysas-out`, which will still forward or output it, or `output_files` has gone through with
it. -/
def Conserved (installation : Installation schemes) (station : Station) : Prop :=
  ∀ file ∈ station.unlinked,
    file ∈ station.toTransit.rights ∨ file ∈ station.transit.held ∨
      file ∈ station.toOut.rights ∨ file ∈ station.keysasOut.held ∨
        ∃ handling ∈ station.handled, handling.f.fd = file ∧ handling.Complete installation

/-! ### The condition -/

/-- No file is given up in the step. Transit claims at most its limit for the metadata that
`keysas-in` sends, and those that transit sends fit the buffer of `keysas-out`; `keysas-in` unlinks
a name that still has the file that was sent; no message is lost when it is received; transit can
check its files, and sends while it and `keysas-out` hold the ends of one connection; every call of
`output_files` succeeds; and transit and `keysas-out` give up their connections only with nothing
left to receive and no file in hand. -/
def careful (installation : Installation schemes) (station : Station) : Event → Bool
  | .sendIn md _ _ _ => decide (md.claimed ≤ 4128)
  | .unlinkIn _ =>
    match station.keysasIn with
    | .sent name file => (station.sasIn.lookup name).all fun other ↦ decide (other = file)
    | _ => true
  | .receiveTransit result =>
    decide (station.transit = .receiving → station.toTransit.queue ≠ [] → result = .complete)
  | .checkTransit scansOf =>
    match station.transit with
    | .checking files => decide (∀ f ∈ files, (scansOf f.fd).Usable)
    | _ => true
  | .sendTransit succeeds =>
    match station.transit with
    | .sending (f :: _) =>
      decide (f.md.wireSize ≤ 4128 ∧ succeeds = true ∧ station.toOut.Linked)
    | _ => true
  | .exitTransit => decide (station.toTransit.queue = [] ∧ station.transit.held = [])
  | .receiveOut result =>
    decide (station.keysasOut = .receiving → station.toOut.queue ≠ [] → result = .complete)
  | .outputOut calls =>
    match station.keysasOut with
    | .writing (f :: _) =>
      decide calls.Succeed && Out.reportable installation.sha256 installation.json
        installation.signKeys installation.signCert calls f.md
    | _ => true
  | .disconnectOut => decide (station.toOut.queue = [] ∧ station.keysasOut.held = [])
  | _ => true

/-- The message of `keysas-in` for a file with a name that the kernel accepts, a digest of SHA-256
and a timestamp is within the limit of transit. -/
theorem claimed_le_of_name {md : InputMetadata} (hname : md.filename.utf8ByteSize ≤ 255)
    (hdigest : md.digest.utf8ByteSize ≤ 64) (htimestamp : md.timestamp.utf8ByteSize ≤ 64) :
    md.claimed ≤ 4128 := by
  rw [InputMetadata.claimed]
  omega

/-! ### Messages -/

/-- A message with a value that its receiver accepts, and with descriptors. -/
def Carries {α : Type} (codec : PrefixCodec α) (accepted : α → Prop) (segment : Segment ℕ) : Prop :=
  ∃ value, codec.encode value = some segment.bytes ∧ accepted value ∧ segment.rights ≠ []

/-- A message for transit, which claims at most its limit for the metadata. -/
abbrev CarriesInput : Segment ℕ → Prop :=
  Carries InputMetadata.codec fun md ↦ md.claimed ≤ 4128

/-- A message for `keysas-out`, whose metadata fit its buffer. -/
abbrev CarriesChecked : Segment ℕ → Prop :=
  Carries Transit.FileMetadata.codec fun md ↦ md.wireSize ≤ 4128

theorem Carries.rights_ne_nil {α : Type} {codec : PrefixCodec α} {accepted : α → Prop}
    {segment : Segment ℕ} (hcarries : Carries codec accepted segment) : segment.rights ≠ [] := by
  obtain ⟨-, -, -, hrights⟩ := hcarries
  exact hrights

/-- A message for transit fits its buffer. -/
theorem length_le_of_carriesInput {segment : Segment ℕ} (hcarries : CarriesInput segment) :
    segment.bytes.length ≤ 4128 := by
  obtain ⟨md, hencode, hclaimed, -⟩ := hcarries
  rw [InputMetadata.codec.length_encode hencode]
  exact InputMetadata.size_le_of_claimed_le hclaimed

/-- A message for `keysas-out` fits its buffer. -/
theorem length_le_of_carriesChecked {segment : Segment ℕ} (hcarries : CarriesChecked segment) :
    segment.bytes.length ≤ 4128 := by
  obtain ⟨md, hencode, hfits, -⟩ := hcarries
  rw [Transit.FileMetadata.codec.length_encode hencode, Transit.FileMetadata.size_codec]
  exact hfits

theorem bytes_ne_nil_of_carriesChecked {segment : Segment ℕ} (hcarries : CarriesChecked segment) :
    segment.bytes ≠ [] := by
  obtain ⟨md, hencode, -, -⟩ := hcarries
  rw [← List.length_pos_iff, Transit.FileMetadata.codec.length_encode hencode]
  exact Transit.FileMetadata.codec_size_pos md

/-- A message with one descriptor that was sent is the last of the queue, and its descriptor the
last in flight. Assumes: the message carries a value that is accepted and whose encoding is not
empty. -/
theorem carries_of_send {α : Type} {codec : PrefixCodec α} (accepted : α → Prop) {value : α}
    {bytes : List UInt8} {fd : ℕ} {link after : Link ℕ} {succeeds : Bool}
    (hencode : codec.encode value = some bytes) (hpositive : 0 < codec.size value)
    (haccepted : accepted value) (hsend : link.send ⟨bytes, [fd]⟩ succeeds = some after) :
    (∀ segment ∈ after.queue, segment ∈ link.queue ∨ Carries codec accepted segment) ∧
      after.rights = link.rights ++ [fd] := by
  have hbytes : bytes ≠ [] := by
    rw [← List.length_pos_iff, codec.length_encode hencode]
    exact hpositive
  have hqueue : after.queue = link.queue ++ [⟨bytes, [fd]⟩] := Link.queue_of_send hbytes hsend
  constructor
  · intro segment hsegment
    rw [hqueue, List.mem_append, List.mem_singleton] at hsegment
    refine hsegment.imp_right ?_
    rintro rfl
    exact ⟨value, hencode, haccepted, List.cons_ne_nil fd []⟩
  · simp [Link.rights, hqueue]

/-- The first message of a queue is received whole, and its descriptors leave what is in flight.
Assumes: it fits the buffer of the receiver and has descriptors. -/
theorem exists_receive_of_length_le {segment : Segment ℕ} {segments : List (Segment ℕ)}
    {link : Link ℕ} (hqueue : link.queue = segment :: segments)
    (hlength : segment.bytes.length ≤ 4128) (hrights : segment.rights ≠ []) :
    ∃ after, link.receive 4128 = some (segment.bytes, segment.rights, after) ∧
      (∀ other ∈ after.queue, other ∈ link.queue) ∧
        link.rights = segment.rights ++ after.rights := by
  obtain ⟨after, hafter, hrest⟩ := Link.receive_of_fits hqueue (by decide) hlength hrights
  refine ⟨after, hafter, ?_, ?_⟩
  · intro other hother
    rw [hqueue, ← hrest]
    exact List.mem_cons_of_mem segment hother
  · rw [Link.rights, hqueue, List.flatMap_cons, ← hrest]
    rfl

theorem receivedFds_ancillary {fds : List ℕ} (hfds : fds ≠ []) :
    receivedFds (ancillary .complete fds) = fds := by
  rw [ancillary, if_pos ⟨rfl, hfds⟩]
  exact List.append_nil fds

/-- Transit makes one file of each descriptor of a message. -/
theorem held_parseMessages {segment : Segment ℕ} (hcarries : CarriesInput segment) :
    (TransitState.checking (Transit.parseMessages (ancillary .complete segment.rights)
      (receiveInto 4128 segment.bytes))).held = segment.rights := by
  obtain ⟨md, hencode, hclaimed, hrights⟩ := hcarries
  rw [Transit.parseMessages_receiveInto hencode, if_pos hclaimed, receivedFds_ancillary hrights]
  show List.map Transit.FileData.fd (List.map _ segment.rights) = segment.rights
  simp [Function.comp_def]

/-- The output daemon makes one file of each descriptor of a message. -/
theorem exists_parseMessages {segment : Segment ℕ} (hcarries : CarriesChecked segment) :
    ∃ files, Out.parseMessages (ancillary .complete segment.rights)
        (receiveInto 4128 segment.bytes) = some files ∧
      (OutState.writing files).held = segment.rights := by
  obtain ⟨md, hencode, hfits, hrights⟩ := hcarries
  rw [parseMessages_sent hencode, if_pos hfits, receivedFds_ancillary hrights]
  refine ⟨_, rfl, ?_⟩
  show List.map Out.FileData.fd (List.map _ segment.rights) = segment.rights
  simp [Function.comp_def]

/-! ### The invariant -/

/-- What holds in every state of a careful run. -/
structure Invariant (installation : Installation schemes) (station : Station) : Prop where
  toTransit : ∀ segment ∈ station.toTransit.queue, CarriesInput segment
  toOut : ∀ segment ∈ station.toOut.queue, CarriesChecked segment
  handled : ∀ handling ∈ station.handled, handling.Complete installation
  sent : ∀ name file, station.keysasIn = .sent name file → station.Carried file
  unlinked : ∀ file ∈ station.unlinked, station.Carried file

theorem Invariant.conserved {installation : Installation schemes} {station : Station}
    (hinvariant : Invariant installation station) : Conserved installation station := by
  intro file hfile
  rcases hinvariant.unlinked file hfile with
    hqueued | hheld | hqueued | hheld | ⟨handling, hmem, hfd⟩
  · exact .inl hqueued
  · exact .inr (.inl hheld)
  · exact .inr (.inr (.inl hqueued))
  · exact .inr (.inr (.inr (.inl hheld)))
  · exact .inr (.inr (.inr (.inr ⟨handling, hmem, hfd, hinvariant.handled handling hmem⟩)))

theorem Invariant.init (installation : Installation schemes) :
    Invariant installation Station.init := by
  constructor <;> simp [Station.init, Link.init]

section Steps

variable {installation : Installation schemes} {station : Station}

/-- The invariant survives a step that keeps every file on its way. Assumes: new messages carry what
the receiver can decode, and files that were sent or unlinked in the step are on their way. -/
theorem Invariant.keep (hinvariant : Invariant installation station) {after : Station}
    (htoTransit : ∀ segment ∈ after.toTransit.queue,
      segment ∈ station.toTransit.queue ∨ CarriesInput segment)
    (htoOut : ∀ segment ∈ after.toOut.queue,
      segment ∈ station.toOut.queue ∨ CarriesChecked segment)
    (hhandled : ∀ handling ∈ after.handled,
      handling ∈ station.handled ∨ handling.Complete installation)
    (hcarried : ∀ file, station.Carried file → after.Carried file)
    (hsent : ∀ name file, after.keysasIn = .sent name file →
      station.keysasIn = .sent name file ∨ after.Carried file)
    (hunlinked : ∀ file ∈ after.unlinked, file ∈ station.unlinked ∨ after.Carried file) :
    Invariant installation after where
  toTransit segment hsegment := (htoTransit segment hsegment).elim (hinvariant.toTransit segment) id
  toOut segment hsegment := (htoOut segment hsegment).elim (hinvariant.toOut segment) id
  handled handling hmem := (hhandled handling hmem).elim (hinvariant.handled handling) id
  sent name file hname :=
    (hsent name file hname).elim
      (fun hbefore ↦ hcarried file (hinvariant.sent name file hbefore)) id
  unlinked file hfile :=
    (hunlinked file hfile).elim (fun hbefore ↦ hcarried file (hinvariant.unlinked file hbefore)) id

/-- The invariant survives a step that leaves everything in flight, in hand and handled. Assumes: it
sends no file. -/
theorem Invariant.keep_of_eq (hinvariant : Invariant installation station) {after : Station}
    (htoTransit : after.toTransit.queue = station.toTransit.queue)
    (htoOut : after.toOut.queue = station.toOut.queue)
    (htransit : after.transit.held = station.transit.held)
    (hkeysasOut : after.keysasOut.held = station.keysasOut.held)
    (hhandled : after.handled = station.handled) (hunlinked : after.unlinked = station.unlinked)
    (hsent : ∀ name file, after.keysasIn = .sent name file →
      station.keysasIn = .sent name file) :
    Invariant installation after := by
  have hcarried : ∀ file, station.Carried file → after.Carried file := by
    intro file hfile
    rwa [Station.Carried, Link.rights_of_queue_eq htoTransit, Link.rights_of_queue_eq htoOut,
      htransit, hkeysasOut, hhandled]
  refine hinvariant.keep ?_ ?_ ?_ hcarried (fun name file hname ↦ .inl (hsent name file hname)) ?_
  · exact fun segment hsegment ↦ .inl (htoTransit ▸ hsegment)
  · exact fun segment hsegment ↦ .inl (htoOut ▸ hsegment)
  · exact fun handling hmem ↦ .inl (hhandled ▸ hmem)
  · exact fun file hfile ↦ .inl (hunlinked ▸ hfile)

/-! ### Steps of the input daemon -/

theorem Invariant.place (hinvariant : Invariant installation station) (name : String) :
    Invariant installation (station.place name) :=
  ⟨hinvariant.toTransit, hinvariant.toOut, hinvariant.handled, hinvariant.sent, hinvariant.unlinked⟩

theorem Invariant.startIn (hinvariant : Invariant installation station) :
    Invariant installation station.startIn := by
  unfold Station.startIn
  split
  · exact hinvariant.keep (fun _ ↦ .inl) (fun _ ↦ .inl) (fun _ ↦ .inl) (fun _ ↦ id)
      (fun _ _ hsent ↦ nomatch hsent) (fun _ ↦ .inl)
  · exact hinvariant

/-- A connection that is made or accepted leaves what is in flight. -/
theorem Invariant.acceptIn (hinvariant : Invariant installation station) :
    Invariant installation station.acceptIn := by
  unfold Station.acceptIn
  split
  · rename_i link hlink
    exact hinvariant.keep_of_eq (Link.queue_of_accept hlink) rfl rfl rfl rfl rfl
      fun _ _ hsent ↦ nomatch hsent
  · exact hinvariant

/-- A message without bytes leaves what is in flight, whether it can be sent or not. -/
theorem Invariant.sendSegment_nil (hinvariant : Invariant installation station) (succeeds : Bool) :
    Invariant installation (station.sendSegment ⟨[], []⟩ succeeds .listing) := by
  unfold Station.sendSegment
  split
  · rename_i link hlink
    exact hinvariant.keep_of_eq (Link.queue_of_send_nil hlink) rfl rfl rfl rfl rfl
      fun _ _ hsent ↦ nomatch hsent
  · exact hinvariant.keep (fun _ ↦ .inl) (fun _ ↦ .inl) (fun _ ↦ .inl) (fun _ ↦ id)
      (fun _ _ hsent ↦ nomatch hsent) (fun _ ↦ .inl)

/-- A message with a file puts the file on its way, when it can be sent. -/
theorem Invariant.sendSegment_file (hinvariant : Invariant installation station)
    {md : InputMetadata} {bytes : List UInt8} (hclaimed : md.claimed ≤ 4128)
    (hencode : InputMetadata.codec.encode md = some bytes) (name : String) (file : ℕ)
    (succeeds : Bool) :
    Invariant installation (station.sendSegment ⟨bytes, [file]⟩ succeeds (.sent name file)) := by
  unfold Station.sendSegment
  split
  · rename_i link hlink
    have hpositive : 0 < InputMetadata.codec.size md := by
      rw [InputMetadata.size_codec]
      omega
    obtain ⟨hqueue, hrights⟩ := carries_of_send (fun sent : InputMetadata ↦ sent.claimed ≤ 4128)
      hencode hpositive hclaimed hlink
    refine hinvariant.keep hqueue (fun _ ↦ .inl) (fun _ ↦ .inl) ?_ ?_ (fun _ ↦ .inl)
    · intro other hother
      rw [Station.Carried, hrights, List.mem_append]
      exact hother.imp_left .inl
    · intro other sent hsent
      obtain ⟨-, rfl⟩ := InState.sent.inj hsent
      rw [Station.Carried, hrights, List.mem_append]
      exact .inr (.inl (.inr (List.mem_singleton_self file)))
  · exact hinvariant.keep (fun _ ↦ .inl) (fun _ ↦ .inl) (fun _ ↦ .inl) (fun _ ↦ id)
      (fun _ _ hsent ↦ nomatch hsent) (fun _ ↦ .inl)

theorem Invariant.removeReport (hinvariant : Invariant installation station) (md : InputMetadata)
    (removed : Bool) : Invariant installation (station.removeReport md removed) :=
  ⟨hinvariant.toTransit, hinvariant.toOut, hinvariant.handled, hinvariant.sent, hinvariant.unlinked⟩

theorem Invariant.sendIn (hinvariant : Invariant installation station) {md : InputMetadata}
    (hclaimed : md.claimed ≤ 4128) (opened removed succeeds : Bool) :
    Invariant installation (station.sendIn md opened removed succeeds) := by
  unfold Station.sendIn
  split
  · by_cases hhidden : md.filename.toList.head? = some '.'
    · rw [if_pos hhidden]
      exact hinvariant
    · rw [if_neg hhidden]
      split
      · split
        · rename_i bytes hencode
          exact (hinvariant.removeReport md removed).sendSegment_file hclaimed hencode _ _ succeeds
        · exact (hinvariant.removeReport md removed).sendSegment_nil succeeds
      · exact hinvariant.sendSegment_nil succeeds
  · exact hinvariant

/-- The file that is unlinked is the one that was sent, and that one is on its way. -/
theorem Invariant.unlinkIn (hinvariant : Invariant installation station) {succeeds : Bool}
    (hcareful : careful installation station (.unlinkIn succeeds) = true) :
    Invariant installation (station.unlinkIn succeeds) := by
  unfold Station.unlinkIn
  split
  · rename_i name file hsent
    split
    · rename_i other hlookup
      have hsame : other = file := by simpa [careful, hsent, hlookup] using hcareful
      refine hinvariant.keep (fun _ ↦ .inl) (fun _ ↦ .inl) (fun _ ↦ .inl) (fun _ ↦ id)
        (fun _ _ hlisting ↦ nomatch hlisting) ?_
      intro unlinked hunlinked
      rcases List.mem_cons.mp hunlinked with rfl | hbefore
      · exact .inr (hinvariant.sent name unlinked (hsame ▸ hsent))
      · exact .inl hbefore
    · exact hinvariant.keep (fun _ ↦ .inl) (fun _ ↦ .inl) (fun _ ↦ .inl) (fun _ ↦ id)
        (fun _ _ hlisting ↦ nomatch hlisting) (fun _ ↦ .inl)
  · exact hinvariant

theorem Invariant.exitIn (hinvariant : Invariant installation station) :
    Invariant installation station.exitIn :=
  hinvariant.keep (fun _ ↦ .inl) (fun _ ↦ .inl) (fun _ ↦ .inl) (fun _ ↦ id)
    (fun _ _ hsent ↦ nomatch hsent) (fun _ ↦ .inl)

/-! ### Steps of transit -/

theorem Invariant.startTransit (hinvariant : Invariant installation station) :
    Invariant installation station.startTransit := by
  unfold Station.startTransit
  split
  · rename_i link hstopped hlink
    have hheld : station.transit.held = [] := by
      rw [hstopped]
      rfl
    exact hinvariant.keep_of_eq (Link.queue_of_connect hlink) rfl hheld.symm rfl rfl rfl
      fun _ _ ↦ id
  · exact hinvariant

/-- Transit ends with nothing to receive and nothing in hand. -/
theorem Invariant.exitTransit (hinvariant : Invariant installation station)
    (hqueue : station.toTransit.queue = []) (hheld : station.transit.held = []) :
    Invariant installation station.exitTransit := by
  refine hinvariant.keep (fun _ hsegment ↦ absurd hsegment List.not_mem_nil) (fun _ ↦ .inl)
    (fun _ ↦ .inl) (fun file hfile ↦ ?_) (fun _ _ ↦ .inl) (fun _ ↦ .inl)
  rw [Station.Carried, Link.rights, hqueue, hheld] at hfile
  exact hfile

theorem Invariant.acceptTransit (hinvariant : Invariant installation station) :
    Invariant installation station.acceptTransit := by
  unfold Station.acceptTransit
  split
  · rename_i link haccepting hlink
    have hheld : station.transit.held = [] := by
      rw [haccepting]
      rfl
    exact hinvariant.keep_of_eq rfl (Link.queue_of_accept hlink) hheld.symm rfl rfl rfl
      fun _ _ ↦ id
  · exact hinvariant

/-- A message that is received goes from the queue into the hands of transit. -/
theorem Invariant.receiveTransit (hinvariant : Invariant installation station) {result : RecvResult}
    (hcareful : careful installation station (.receiveTransit result) = true) :
    Invariant installation (station.receiveTransit result) := by
  have hcomplete : station.transit = .receiving → station.toTransit.queue ≠ [] →
      result = .complete :=
    of_decide_eq_true hcareful
  unfold Station.receiveTransit
  split
  · rename_i hreceiving
    have hqueue : station.toTransit.queue = [] := by
      by_contra hwaiting
      cases hcomplete hreceiving hwaiting
    exact hinvariant.exitTransit hqueue (by rw [hreceiving]; rfl)
  · rename_i hreceiving _
    split
    · rename_i bytes fds link hreceive
      cases hqueue : station.toTransit.queue with
      | nil =>
        obtain ⟨rfl, rfl, rfl⟩ := Link.receive_of_queue_eq_nil hqueue hreceive
        refine hinvariant.keep (fun _ ↦ .inl) (fun _ ↦ .inl) (fun _ ↦ .inl) (fun file hfile ↦ ?_)
          (fun _ _ ↦ .inl) (fun _ ↦ .inl)
        rw [Station.Carried, hreceiving] at hfile
        exact hfile.imp_right (Or.imp_left fun hheld ↦ absurd hheld List.not_mem_nil)
      | cons segment segments =>
        have hcarries : CarriesInput segment :=
          hinvariant.toTransit segment (hqueue ▸ List.mem_cons_self)
        obtain ⟨after, hafter, hleft, hrights⟩ := exists_receive_of_length_le hqueue
          (length_le_of_carriesInput hcarries) hcarries.rights_ne_nil
        obtain ⟨rfl, rfl, rfl⟩ : segment.bytes = bytes ∧ segment.rights = fds ∧ after = link := by
          simpa [hreceive, eq_comm] using hafter
        obtain rfl := hcomplete hreceiving (hqueue ▸ List.cons_ne_nil segment segments)
        refine hinvariant.keep (fun other hother ↦ .inl (hleft other hother)) (fun _ ↦ .inl)
          (fun _ ↦ .inl) (fun file hfile ↦ ?_) (fun _ _ ↦ .inl) (fun _ ↦ .inl)
        rw [Station.Carried, hrights, List.mem_append, hreceiving] at hfile
        rw [Station.Carried, held_parseMessages hcarries]
        rcases hfile with (hmessage | hqueued) | hheld | hothers
        · exact .inr (.inl hmessage)
        · exact .inl hqueued
        · exact absurd hheld List.not_mem_nil
        · exact .inr (.inr hothers)
    · exact hinvariant
  · exact hinvariant

/-- Transit still has every file after the checks. -/
theorem Invariant.checkTransit (hinvariant : Invariant installation station)
    {scansOf : ℕ → FileScans}
    (hcareful : careful installation station (.checkTransit scansOf) = true) :
    Invariant installation (station.checkTransit installation scansOf) := by
  unfold Station.checkTransit
  split
  · rename_i files hchecking
    have husable : ∀ f ∈ files, (scansOf f.fd).Usable := by
      simpa [careful, hchecking] using hcareful
    split
    · rename_i outcome hchecked
      have hheld : (TransitState.sending (outcome.map Prod.fst)).held = station.transit.held := by
        rw [hchecking, Transit.eq_of_checkFiles_eq_some hchecked]
        simp [TransitState.held]
      refine hinvariant.keep (fun _ ↦ .inl) (fun _ ↦ .inl) (fun _ ↦ .inl) (fun file hfile ↦ ?_)
        (fun _ _ ↦ .inl) (fun _ ↦ .inl)
      rw [Station.Carried, hheld]
      exact hfile
    · rename_i hends
      have hsome : (Transit.checkFiles installation.tools installation.conf scansOf files).isSome :=
        Transit.isSome_checkFiles husable
      rw [hends] at hsome
      cases hsome
  · exact hinvariant

/-- A file that transit sends goes from its hands into the queue, and transit has nothing to send
otherwise. -/
theorem Invariant.sendTransit (hinvariant : Invariant installation station) {succeeds : Bool}
    (hcareful : careful installation station (.sendTransit succeeds) = true) :
    Invariant installation (station.sendTransit succeeds) := by
  unfold Station.sendTransit
  split
  · rename_i hsending
    refine hinvariant.keep (fun _ ↦ .inl) (fun _ ↦ .inl) (fun _ ↦ .inl) (fun file hfile ↦ ?_)
      (fun _ _ ↦ .inl) (fun _ ↦ .inl)
    rw [Station.Carried, hsending] at hfile
    exact hfile
  · rename_i f files hsending
    obtain ⟨hfits, hsucceeds, hlinked⟩ :
        f.md.wireSize ≤ 4128 ∧ succeeds = true ∧ station.toOut.Linked := by
      simpa [careful, hsending] using hcareful
    obtain ⟨bytes, hencode⟩ := Transit.FileMetadata.codec_encodesBelow (Nat.le_refl (2 ^ 64)) f.md
      (by rw [Transit.FileMetadata.size_codec]; omega)
    subst hsucceeds
    obtain ⟨link, hlink⟩ := Option.isSome_iff_exists.mp (Link.isSome_send hlinked ⟨bytes, [f.fd]⟩)
    obtain ⟨hqueue, hrights⟩ :=
      carries_of_send (fun sent : Transit.FileMetadata ↦ sent.wireSize ≤ 4128) hencode
        (Transit.FileMetadata.codec_size_pos f.md) hfits hlink
    simp only [hencode, hlink]
    refine hinvariant.keep (fun _ ↦ .inl) hqueue (fun _ ↦ .inl) (fun file hfile ↦ ?_)
      (fun _ _ ↦ .inl) (fun _ ↦ .inl)
    rw [Station.Carried, hsending] at hfile
    rw [Station.Carried, hrights, List.mem_append]
    rcases hfile with hqueued | hheld | hqueued | hothers
    · exact .inl hqueued
    · rcases List.mem_cons.mp hheld with hsent | hleft
      · exact .inr (.inr (.inl (.inr (List.mem_singleton.mpr hsent))))
      · exact .inr (.inl hleft)
    · exact .inr (.inr (.inl (.inl hqueued)))
    · exact .inr (.inr (.inr hothers))
  · exact hinvariant

/-! ### Steps of the output daemon -/

theorem Invariant.connectOut (hinvariant : Invariant installation station) :
    Invariant installation station.connectOut := by
  unfold Station.connectOut
  split
  · rename_i link hconnecting hlink
    have hheld : station.keysasOut.held = [] := by
      rw [hconnecting]
      rfl
    exact hinvariant.keep_of_eq rfl (Link.queue_of_connect hlink) rfl hheld.symm rfl rfl
      fun _ _ ↦ id
  · exact hinvariant

/-- The output daemon gives up its connection with nothing to receive and nothing in hand. -/
theorem Invariant.disconnectOut (hinvariant : Invariant installation station)
    (hqueue : station.toOut.queue = []) (hheld : station.keysasOut.held = []) :
    Invariant installation station.disconnectOut := by
  refine hinvariant.keep (fun _ ↦ .inl) (fun _ hsegment ↦ absurd hsegment List.not_mem_nil)
    (fun _ ↦ .inl) (fun file hfile ↦ ?_) (fun _ _ ↦ .inl) (fun _ ↦ .inl)
  rw [Station.Carried, Link.rights.eq_1 station.toOut, hqueue, hheld] at hfile
  exact hfile

/-- A message that is received goes from the queue into the hands of the output daemon. -/
theorem Invariant.receiveOut (hinvariant : Invariant installation station) {result : RecvResult}
    (hcareful : careful installation station (.receiveOut result) = true) :
    Invariant installation (station.receiveOut result) := by
  have hcomplete : station.keysasOut = .receiving → station.toOut.queue ≠ [] →
      result = .complete :=
    of_decide_eq_true hcareful
  unfold Station.receiveOut
  split
  · rename_i hreceiving
    have hqueue : station.toOut.queue = [] := by
      by_contra hwaiting
      cases hcomplete hreceiving hwaiting
    exact hinvariant.disconnectOut hqueue (by rw [hreceiving]; rfl)
  · rename_i hreceiving _
    cases hqueue : station.toOut.queue with
    | nil =>
      have hheld : station.keysasOut.held = [] := by
        rw [hreceiving]
        rfl
      split
      · exact hinvariant.disconnectOut hqueue hheld
      · rename_i hbytes hreceive
        obtain ⟨rfl, rfl, rfl⟩ := Link.receive_of_queue_eq_nil hqueue hreceive
        exact (hbytes rfl).elim
      · exact hinvariant
    | cons segment segments =>
      have hcarries : CarriesChecked segment :=
        hinvariant.toOut segment (hqueue ▸ List.mem_cons_self)
      obtain ⟨after, hafter, hleft, hrights⟩ := exists_receive_of_length_le hqueue
        (length_le_of_carriesChecked hcarries) hcarries.rights_ne_nil
      obtain ⟨files, hparsed, hheld⟩ := exists_parseMessages hcarries
      obtain rfl := hcomplete hreceiving (hqueue ▸ List.cons_ne_nil segment segments)
      have hkept : Invariant installation
          { station with keysasOut := .writing files, toOut := after } := by
        refine hinvariant.keep (fun _ ↦ .inl) (fun other hother ↦ .inl (hleft other hother))
          (fun _ ↦ .inl) (fun file hfile ↦ ?_) (fun _ _ ↦ .inl) (fun _ ↦ .inl)
        rw [Station.Carried, hrights, List.mem_append, hreceiving] at hfile
        rw [Station.Carried, hheld]
        rcases hfile with hqueued | hheld | (hmessage | hqueued) | hheld | hhandled
        · exact .inl hqueued
        · exact .inr (.inl hheld)
        · exact .inr (.inr (.inr (.inl hmessage)))
        · exact .inr (.inr (.inl hqueued))
        · exact absurd hheld List.not_mem_nil
        · exact .inr (.inr (.inr (.inr hhandled)))
      obtain ⟨byte, bytes, hbytes⟩ :=
        List.exists_cons_of_ne_nil (bytes_ne_nil_of_carriesChecked hcarries)
      rw [hbytes] at hafter hparsed
      simp only [hafter, hparsed]
      exact hkept
  · exact hinvariant

/-- A file that is output to the end is handled: its report is generated, and it is written or
refused. -/
theorem Invariant.outputOut (hinvariant : Invariant installation station)
    {calls : Out.OutputCalls}
    (hcareful : careful installation station (.outputOut calls) = true) :
    Invariant installation (station.outputOut installation calls) := by
  unfold Station.outputOut
  split
  · rename_i hwriting
    refine hinvariant.keep (fun _ ↦ .inl) (fun _ ↦ .inl) (fun _ ↦ .inl) (fun file hfile ↦ ?_)
      (fun _ _ ↦ .inl) (fun _ ↦ .inl)
    rw [Station.Carried, hwriting] at hfile
    exact hfile
  · rename_i f files hwriting
    obtain ⟨hsucceed, hreportable⟩ : calls.Succeed ∧
        Out.reportable installation.sha256 installation.json installation.signKeys
          installation.signCert calls f.md = true := by
      simpa [careful, hwriting] using hcareful
    have hends : Ends (Out.outputFile installation.sha256 installation.json installation.outConf
        installation.signKeys installation.signCert calls) f.md :=
      Out.ends_outputFile hsucceed hreportable
    obtain ⟨value, hvalue⟩ := hends
    obtain ⟨content, report, hcontent, hreport, hcreated, hwritten⟩ :=
      Out.establishes_outputFile f.md value hvalue
    split
    · rename_i trace md hrun
      rw [hrun] at hreport hcreated hwritten
      refine hinvariant.keep (fun _ ↦ .inl) (fun _ ↦ .inl) ?_ ?_ (fun _ _ ↦ .inl) (fun _ ↦ .inl)
      · intro handling hhandling
        rcases List.mem_cons.mp hhandling with rfl | hbefore
        · refine .inr ⟨content, report, hcontent, hreport, hcreated, fun hreleased ↦ ?_⟩
          have hwhole : Out.copiedBytes content calls.copy = content := by
            rw [hsucceed.2.2.2.2.2]
            rfl
          rw [← hwhole]
          exact hwritten hreleased
        · exact .inl hbefore
      · intro file hfile
        rw [Station.Carried, hwriting] at hfile
        rcases hfile with hqueued | hheld | hqueued | hheld | ⟨handling, hhandled, hfd⟩
        · exact .inl hqueued
        · exact .inr (.inl hheld)
        · exact .inr (.inr (.inl hqueued))
        · rcases List.mem_cons.mp hheld with hdone | hleft
          · exact .inr (.inr (.inr (.inr ⟨_, List.mem_cons_self, hdone.symm⟩)))
          · exact .inr (.inr (.inr (.inl hleft)))
        · exact .inr (.inr (.inr (.inr ⟨handling, List.mem_cons_of_mem _ hhandled, hfd⟩)))
    · rename_i error hrun
      rw [hrun] at hvalue
      cases hvalue
  · exact hinvariant

/-- A careful step keeps the invariant. -/
theorem Invariant.step (hinvariant : Invariant installation station) {event : Event}
    (hcareful : careful installation station event = true) :
    Invariant installation (stationStep installation station event).1 := by
  cases event with
  | place name => exact hinvariant.place name
  | startIn => exact hinvariant.startIn
  | acceptIn => exact hinvariant.acceptIn
  | sendIn md opened removed succeeds =>
    exact hinvariant.sendIn (of_decide_eq_true hcareful) opened removed succeeds
  | unlinkIn succeeds => exact hinvariant.unlinkIn hcareful
  | exitIn => exact hinvariant.exitIn
  | startTransit => exact hinvariant.startTransit
  | acceptTransit => exact hinvariant.acceptTransit
  | receiveTransit result => exact hinvariant.receiveTransit hcareful
  | checkTransit scansOf => exact hinvariant.checkTransit hcareful
  | sendTransit succeeds => exact hinvariant.sendTransit hcareful
  | exitTransit =>
    obtain ⟨hqueue, hheld⟩ := of_decide_eq_true hcareful
    exact hinvariant.exitTransit hqueue hheld
  | connectOut => exact hinvariant.connectOut
  | receiveOut result => exact hinvariant.receiveOut hcareful
  | outputOut calls => exact hinvariant.outputOut hcareful
  | disconnectOut =>
    obtain ⟨hqueue, hheld⟩ := of_decide_eq_true hcareful
    exact hinvariant.disconnectOut hqueue hheld

end Steps

/-! ### Runs -/

/-- In a run in which no step gives a file up, every file that `keysas-in` has unlinked is on its
way or was output to the end, in every state reached. -/
theorem conserved_of_run (installation : Installation schemes)
    {history : List (Event × Unit)} {station : Station}
    (hrun : Run (stationStep installation)
      (fun _ station event ↦ careful installation station event = true) Station.init history
      station) :
    Conserved installation station :=
  Invariant.conserved <| hrun.holds (Invariant.init installation) fun _ _ _ hinvariant hcareful ↦
    Invariant.step hinvariant hcareful

/-- The station of a note. -/
def noteInstallation : Installation transparentSchemes where
  tools := Transit.zipTypeTools
  conf := Transit.defaultConf
  sha256 := paddingSha256
  json := serdeReportJson
  outConf := strictOut
  signKeys := none
  signCert := ""

/-- The station is started, and a note is placed, sent, unlinked, received and checked. -/
def noteChecked : List Event :=
  [.place "note.txt", .startIn, .startTransit, .acceptIn, .connectOut, .acceptTransit,
    .sendIn (noteInput false) true true true, .unlinkIn true, .receiveTransit .complete,
    .checkTransit fun _ ↦ noteScans]

theorem conserved_of_run_note :
    Conserved noteInstallation (execute (stationStep noteInstallation) Station.init
      (noteChecked ++ [.sendTransit true, .receiveOut .complete, .outputOut noteCalls])).2 :=
  conserved_of_run noteInstallation (run_execute _ (by decide +kernel))

/-- Transit gives a file up when it sends without holding the end of the connection that
`keysas-out` holds. -/
theorem sendTransit_of_not_linked {station : Station} {f : Transit.FileData}
    {files : List Transit.FileData} {bytes : List UInt8}
    (hsending : station.transit = .sending (f :: files))
    (hencode : Transit.FileMetadata.codec.encode f.md = some bytes)
    (hlinked : ¬ station.toOut.Linked) (succeeds : Bool) :
    station.sendTransit succeeds =
      { station with transit := .accepting, toOut := station.toOut.closeStream } := by
  unfold Station.sendTransit
  rw [hsending]
  simp only [hencode, Link.send_of_not_linked hlinked]

/-- That `keysas-out` has connected again does not help, because transit still holds the end of an
earlier connection. -/
theorem held_sendTransit_connectOut {station : Station} {f : Transit.FileData}
    {files : List Transit.FileData} {bytes : List UInt8} {link : Link ℕ}
    (hsending : station.transit = .sending (f :: files))
    (hencode : Transit.FileMetadata.codec.encode f.md = some bytes)
    (hconnecting : station.keysasOut = .connecting) (hconnect : station.toOut.connect = some link)
    (succeeds : Bool) : (station.connectOut.sendTransit succeeds).transit.held = [] := by
  have hconnected : station.connectOut =
      { station with keysasOut := .receiving, toOut := link } := by
    unfold Station.connectOut
    rw [hconnecting, hconnect]
  have hlinked : ¬ station.connectOut.toOut.Linked := by
    rw [hconnected]
    exact Link.not_linked_of_connect hconnect
  have hstill : station.connectOut.transit = .sending (f :: files) := by
    rw [hconnected]
    exact hsending
  rw [sendTransit_of_not_linked hstill hencode hlinked]
  rfl

/-- Not every run conserves files: when `keysas-out` goes away and comes back while transit checks a
note, transit gives the note up, which `keysas-in` has unlinked. -/
theorem not_forall_run_conserved :
    ¬ ∀ (schemes : Schemes) (installation : Installation schemes) (history : List (Event × Unit))
      (station : Station),
      Run (stationStep installation) (fun _ _ _ ↦ True) Station.init history station →
        Conserved installation station := by
  intro hconserved
  let events := noteChecked ++ ([.disconnectOut, .connectOut, .sendTransit true] : List Event)
  let station := (execute (stationStep noteInstallation) Station.init events).2
  have hrun : Run (stationStep noteInstallation) (fun _ _ _ ↦ True) Station.init _ station :=
    run_execute events (admits_of_forall (fun _ _ _ ↦ trivial) _ _ _)
  have hlost : 0 ∈ station.unlinked ∧ station.toTransit.rights = [] ∧ station.transit.held = [] ∧
      station.toOut.rights = [] ∧ station.keysasOut.held = [] ∧ station.handled.length = 0 := by
    decide +kernel
  obtain ⟨hunlinked, htoTransit, htransit, htoOut, hkeysasOut, hhandled⟩ := hlost
  rcases hconserved _ _ _ _ hrun 0 hunlinked with hqueued | hheld | hqueued | hheld | ⟨_, hmem, -⟩
  · exact List.not_mem_nil (htoTransit ▸ hqueued)
  · exact List.not_mem_nil (htransit ▸ hheld)
  · exact List.not_mem_nil (htoOut ▸ hqueued)
  · exact List.not_mem_nil (hkeysasOut ▸ hheld)
  · exact List.not_mem_nil (List.length_eq_zero_iff.mp hhandled ▸ hmem)

end Keysas.Pipeline
