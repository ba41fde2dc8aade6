import Keysas.Out.OutputFiles
import Keysas.Runs.HistoryRun
import Keysas.Store.KeyedTable
import Keysas.Transit.CheckFiles
import Keysas.Wire.StreamLink

/-!
# The station as three processes

`keysas-in` takes files from `sas_in` and sends them to `keysas-transit`, which checks them and
sends them to `keysas-out`. Each daemon is the state of its main loop: where it stands, and which
files it holds. A step of the station is a step of one daemon, or of its surroundings: files are
placed in `sas_in`, and a daemon ends and is started again at any time. The two connections are
stream links, with the daemon that listens as the server: `keysas-in` towards transit, and transit
towards `keysas-out`.

Files are numbered in the order in which they are placed, and a descriptor is named by the file it
refers to, in whichever process it is open. `unlinked` and `handled` record what has happened; no
daemon reads them. What a system call returns is part of the event.
-/

set_option autoImplicit false
set_option relaxedAutoImplicit false

namespace Keysas.Pipeline

open Crypto Keys Reports RustStd Wire Wire.PrefixCodec
open Transit (AncillaryData FileScans InputMetadata)

/-! ### Daemons -/

/-- Where the main loop of `keysas-in` stands. -/
inductive InState where
  | stopped
  /-- It waits for transit to connect. -/
  | accepting
  /-- It goes through the files of `sas_in`. -/
  | listing
  /-- It has sent the descriptor of a file and has not unlinked it yet. -/
  | sent (name : String) (file : ℕ)
  deriving DecidableEq

/-- Where the main loop of transit stands. -/
inductive TransitState where
  | stopped
  /-- It waits for `keysas-out` to connect. -/
  | accepting
  | receiving
  /-- It has parsed a message. -/
  | checking (files : List Transit.FileData)
  /-- It has checked the files, and these are left to send. -/
  | sending (files : List Transit.FileData)
  deriving DecidableEq

/-- The files that transit will still forward. -/
def TransitState.held : TransitState → List ℕ
  | .checking files => files.map Transit.FileData.fd
  | .sending files => files.map Transit.FileData.fd
  | _ => []

/-- Where the main loop of `keysas-out` stands. -/
inductive OutState where
  /-- It has no connection: it tries to connect, or is not running. -/
  | connecting
  | receiving
  /-- It has parsed a message, and these files are left to output. -/
  | writing (files : List Out.FileData)
  deriving DecidableEq

/-- The files that `keysas-out` will still output. -/
def OutState.held : OutState → List ℕ
  | .writing files => files.map Out.FileData.fd
  | _ => []

/-- A file that `output_files` has processed without an error, and what it has left. -/
structure Handling where
  f : Out.FileData
  calls : Out.OutputCalls
  trace : List Out.Effect

/-- The state of the station. -/
structure Station where
  /-- The files of `sas_in` by their names. -/
  sasIn : Store.Table String ℕ
  /-- How many files were placed. -/
  placed : ℕ
  /-- The files that `keysas-in` has unlinked. -/
  unlinked : List ℕ
  keysasIn : InState
  toTransit : Link ℕ
  transit : TransitState
  toOut : Link ℕ
  keysasOut : OutState
  /-- The files that `output_files` has processed. -/
  handled : List Handling

/-- Nothing is running. -/
def Station.init : Station where
  sasIn := ∅
  placed := 0
  unlinked := []
  keysasIn := .stopped
  toTransit := Link.init
  transit := .stopped
  toOut := Link.init
  keysasOut := .connecting
  handled := []

/-- The libraries and the configuration of a station. -/
structure Installation (schemes : Schemes) where
  tools : Transit.TypeTools
  conf : Transit.Configuration
  sha256 : Sha256
  json : ReportJson
  outConf : Out.Configuration
  signKeys : Option (HybridKeyPair schemes)
  signCert : String

/-- How a call of `recv_vectored_with_ancillary` ends. -/
inductive RecvResult where
  | failed
  /-- The descriptors are lost, because the process cannot open more. -/
  | truncated
  | complete
  deriving DecidableEq

/-- The control messages that come with the descriptors of a message. -/
def ancillary (result : RecvResult) (fds : List ℕ) : List (Option AncillaryData) :=
  if result = .complete ∧ fds ≠ [] then [some (.scmRights fds)] else []

namespace Station

variable {schemes : Schemes} (installation : Installation schemes) (station : Station)

/-! ### The input daemon -/

/-- A file is placed in `sas_in`, under a new name or in place of another file. -/
def place (name : String) : Station :=
  { station with
    sasIn := station.sasIn.insert name station.placed
    placed := station.placed + 1 }

/-- `keysas-in` is started and listens. -/
def startIn : Station :=
  match station.keysasIn with
  | .stopped => { station with keysasIn := .accepting, toTransit := station.toTransit.listen }
  | _ => station

/-- `keysas-in` accepts a connection of transit. -/
def acceptIn : Station :=
  match station.keysasIn, station.toTransit.accept with
  | .accepting, some link => { station with keysasIn := .listing, toTransit := link }
  | _, _ => station

/-- `keysas-in` sends a message. After a failure it waits for a new connection. -/
def sendSegment (segment : Segment ℕ) (succeeds : Bool) (next : InState) : Station :=
  match station.toTransit.send segment succeeds with
  | some link => { station with keysasIn := next, toTransit := link }
  | none => { station with keysasIn := .accepting, toTransit := station.toTransit.closeStream }

/-- `keysas-in` removes the report of a corrupted file. -/
def removeReport (md : InputMetadata) (removed : Bool) : Station :=
  { station with
    sasIn :=
      if md.isCorrupted && removed then station.sasIn.erase (appendExt "ioerror" md.filename)
      else station.sasIn }

/-- `send_files` of `keysas-in` up to the message for one file. Hidden files are left out of the
listing. The report of a corrupted file is removed before the message is sent, and the message has
neither metadata nor a descriptor when the file cannot be opened and read or its metadata cannot be
encoded. -/
def sendIn (md : InputMetadata) (opened removed succeeds : Bool) : Station :=
  match station.keysasIn with
  | .listing =>
    if md.filename.toList.head? = some '.' then station
    else
      match if opened then station.sasIn.lookup md.filename else none with
      | some file =>
        match InputMetadata.codec.encode md with
        | some bytes =>
          (station.removeReport md removed).sendSegment ⟨bytes, [file]⟩ succeeds
            (.sent md.filename file)
        | none => (station.removeReport md removed).sendSegment ⟨[], []⟩ succeeds .listing
      | none => station.sendSegment ⟨[], []⟩ succeeds .listing
  | _ => station

/-- `send_files` of `keysas-in` after the message: the name is unlinked, whichever file it has by
now. -/
def unlinkIn (succeeds : Bool) : Station :=
  match station.keysasIn with
  | .sent name _ =>
    match succeeds, station.sasIn.lookup name with
    | true, some file =>
      { station with
        sasIn := station.sasIn.erase name
        unlinked := file :: station.unlinked
        keysasIn := .listing }
    | _, _ => { station with keysasIn := .listing }
  | _ => station

/-- `keysas-in` ends. -/
def exitIn : Station :=
  { station with keysasIn := .stopped, toTransit := station.toTransit.stop }

/-! ### Transit -/

/-- Transit is started: it connects to `keysas-in`, and listens. -/
def startTransit : Station :=
  match station.transit, station.toTransit.connect with
  | .stopped, some link =>
    { station with transit := .accepting, toTransit := link, toOut := station.toOut.listen }
  | _, _ => station

/-- Transit ends, and with it its ends of both connections. -/
def exitTransit : Station :=
  { station with
    transit := .stopped
    toTransit := station.toTransit.closeSocket
    toOut := station.toOut.stop }

/-- Transit accepts a connection of `keysas-out`. -/
def acceptTransit : Station :=
  match station.transit, station.toOut.accept with
  | .accepting, some link => { station with transit := .receiving, toOut := link }
  | _, _ => station

/-- Transit receives a message and parses it. An error ends the process; the end of the stream is a
message without files. -/
def receiveTransit (result : RecvResult) : Station :=
  match station.transit, result with
  | .receiving, .failed => station.exitTransit
  | .receiving, _ =>
    match station.toTransit.receive 4128 with
    | some (bytes, fds, link) =>
      { station with
        transit :=
          .checking (Transit.parseMessages (ancillary result fds) (receiveInto 4128 bytes))
        toTransit := link }
    | none => station
  | _, _ => station

/-- Transit runs `check_files` on the files of the message. -/
def checkTransit (scansOf : ℕ → FileScans) : Station :=
  match station.transit with
  | .checking files =>
    match Transit.checkFiles installation.tools installation.conf scansOf files with
    | some outcome => { station with transit := .sending (outcome.map Prod.fst) }
    | none => station.exitTransit
  | _ => station

/-- `send_files` of transit, one file. After a failure transit closes the descriptor, gives the
other files up, and waits for a new connection. -/
def sendTransit (succeeds : Bool) : Station :=
  match station.transit with
  | .sending [] => { station with transit := .receiving }
  | .sending (f :: files) =>
    match Transit.FileMetadata.codec.encode f.md with
    | some bytes =>
      match station.toOut.send ⟨bytes, [f.fd]⟩ succeeds with
      | some link => { station with transit := .sending files, toOut := link }
      | none => { station with transit := .accepting, toOut := station.toOut.closeStream }
    | none => station.exitTransit
  | _ => station

/-! ### The output daemon -/

/-- `keysas-out` connects to transit. -/
def connectOut : Station :=
  match station.keysasOut, station.toOut.connect with
  | .connecting, some link => { station with keysasOut := .receiving, toOut := link }
  | _, _ => station

/-- `keysas-out` gives up its connection, because it ends or begins its outer loop again. -/
def disconnectOut : Station :=
  { station with keysasOut := .connecting, toOut := station.toOut.closeSocket }

/-- `keysas-out` receives a message and parses it. It connects again after an error and at the end
of the stream, and ends when the message cannot be decoded. -/
def receiveOut (result : RecvResult) : Station :=
  match station.keysasOut, result with
  | .receiving, .failed => station.disconnectOut
  | .receiving, _ =>
    match station.toOut.receive 4128 with
    | some ([], _, _) => station.disconnectOut
    | some (bytes, fds, link) =>
      match Out.parseMessages (ancillary result fds) (receiveInto 4128 bytes) with
      | some files => { station with keysasOut := .writing files, toOut := link }
      | none => station.disconnectOut
    | none => station
  | _, _ => station

/-- `output_files`, one file. After an error `keysas-out` gives the other files up and goes on with
the next message. -/
def outputOut (calls : Out.OutputCalls) : Station :=
  match station.keysasOut with
  | .writing [] => { station with keysasOut := .receiving }
  | .writing (f :: files) =>
    match (Out.outputFile installation.sha256 installation.json installation.outConf
      installation.signKeys installation.signCert calls).run f.md with
    | ⟨trace, _, .ok ()⟩ =>
      { station with
        keysasOut := .writing files
        handled := ⟨f, calls, trace⟩ :: station.handled }
    | ⟨_, _, .error _⟩ => { station with keysasOut := .receiving }
  | _ => station

end Station

/-! ### Runs -/

/-- The events of a station. -/
inductive Event where
  | place (name : String)
  | startIn
  | acceptIn
  | sendIn (md : InputMetadata) (opened removed succeeds : Bool)
  | unlinkIn (succeeds : Bool)
  | exitIn
  | startTransit
  | acceptTransit
  | receiveTransit (result : RecvResult)
  | checkTransit (scansOf : ℕ → FileScans)
  | sendTransit (succeeds : Bool)
  | exitTransit
  | connectOut
  | receiveOut (result : RecvResult)
  | outputOut (calls : Out.OutputCalls)
  | disconnectOut

/-- What an event does to the station. -/
def stationStep {schemes : Schemes} (installation : Installation schemes) (station : Station) :
    Event → Station × Unit
  | .place name => (station.place name, ())
  | .startIn => (station.startIn, ())
  | .acceptIn => (station.acceptIn, ())
  | .sendIn md opened removed succeeds => (station.sendIn md opened removed succeeds, ())
  | .unlinkIn succeeds => (station.unlinkIn succeeds, ())
  | .exitIn => (station.exitIn, ())
  | .startTransit => (station.startTransit, ())
  | .acceptTransit => (station.acceptTransit, ())
  | .receiveTransit result => (station.receiveTransit result, ())
  | .checkTransit scansOf => (station.checkTransit installation scansOf, ())
  | .sendTransit succeeds => (station.sendTransit succeeds, ())
  | .exitTransit => (station.exitTransit, ())
  | .connectOut => (station.connectOut, ())
  | .receiveOut result => (station.receiveOut result, ())
  | .outputOut calls => (station.outputOut installation calls, ())
  | .disconnectOut => (station.disconnectOut, ())

end Keysas.Pipeline
