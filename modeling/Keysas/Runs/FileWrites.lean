import Keysas.Runs.TracedProgram
import Keysas.Store.KeyedTable

/-!
# Programs that write files

A file is created, which empties it when it is there, and then its content is written. The file
system may refuse to create it, and it may take a front of the content only.
`assigns_run_writeFile` says what a program that writes a file leaves of it.
-/

set_option autoImplicit false
set_option relaxedAutoImplicit false

namespace Runs

open Store

/-- The contents of files by their paths. -/
abbrev Files := Table String (List UInt8)

/-- What the file system does when a file is written. -/
structure FileCalls where
  /-- The file can be created. -/
  creates : Bool
  /-- The number of bytes that can be written. -/
  room : ℕ

/-- File calls that succeed, for contents of up to some length. -/
def FileCalls.succeeding (room : ℕ) : FileCalls := ⟨true, room⟩

/-- The ways in which a file is not written. -/
inductive FileError where
  | create
  | write
  deriving DecidableEq

/-- `File::create` and `write_all`. -/
def writeFile {ε : Type} (calls : FileCalls) (path : String) (content : List UInt8) :
    Program ε Files FileError Unit := do
  .require calls.creates .create
  .modify fun files ↦ files.insert path []
  .modify fun files ↦ files.insert path (content.take calls.room)
  .require (content.length ≤ calls.room) .write

variable {ε : Type} {calls : FileCalls} {path : String} {content : List UInt8} {files : Files}

theorem run_writeFile_of_not_creates (hcreates : ¬ calls.creates = true) :
    (writeFile calls path content : Program ε Files FileError Unit).run files =
      ⟨[], files, .error .create⟩ := by
  rw [writeFile, Program.run_require_bind, if_neg hcreates]

theorem run_writeFile (hcreates : calls.creates = true) :
    (writeFile calls path content : Program ε Files FileError Unit).run files =
      ⟨[], (files.insert path []).insert path (content.take calls.room),
        if content.length ≤ calls.room then .ok () else .error .write⟩ := by
  rw [writeFile, Program.run_require_bind, if_pos hcreates, Program.run_modify_bind,
    Program.run_modify_bind, Program.run_require]
  simp only [decide_eq_true_eq]

/-- A file that is created holds the front of the content that there is room for, and no other file
is changed. -/
theorem assigns_run_writeFile (hcreates : calls.creates = true) :
    Assigns files ((writeFile calls path content : Program ε Files FileError Unit).run files).state
      path (some (content.take calls.room)) := by
  rw [run_writeFile hcreates]
  exact (assigns_insert files path []).trans (assigns_insert _ path _)

/-- A file is written exactly when it is created and there is room for its content. -/
theorem ends_writeFile_iff :
    (writeFile calls path content : Program ε Files FileError Unit).Ends files ↔
      calls.creates = true ∧ content.length ≤ calls.room := by
  rw [writeFile, Program.ends_require_bind_iff, Program.ends_modify_bind_iff,
    Program.ends_modify_bind_iff, Program.ends_require_iff, decide_eq_true_eq]

/-- A file that is written holds its content, and no other file is changed. -/
theorem establishes_writeFile :
    (writeFile calls path content : Program ε Files FileError Unit).Establishes files
      fun trace after _ ↦ trace = [] ∧ Assigns files after path (some content) := by
  intro value hvalue
  obtain ⟨hcreates, hroom⟩ := ends_writeFile_iff.mp ⟨value, hvalue⟩
  have hassigns := @assigns_run_writeFile ε calls path content files hcreates
  rw [List.take_of_length_le hroom] at hassigns
  refine ⟨?_, hassigns⟩
  rw [run_writeFile hcreates]

end Runs
