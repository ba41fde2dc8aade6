import Keysas.Minifilter.PortNotify
import Keysas.Store.LinkedCells

/-!
# The list of file contexts

The contexts of files lie in memory, with references that handlers and files hold to them, and are
linked in the list `FileCtxListHead`. `FindFileContext` puts a new context into the list and only
then attaches it to the file. When that fails, or another context was attached first, the new one is
released, and a context whose last reference goes is cleaned up and freed. Nothing takes it out of
the list.

`ListIsValid` says that the list has live contexts only, each once, and that no walk has compared a
context without an identifier, which stops the machine. `listIsValid_prefixes_iff` says of any order
of the steps of handlers that it holds all along exactly when every step meets `KeepsList`: a new
context is attached, no context loses its last reference, and walks find an identifier in every
context up to the one that they look for. `contexts_portNotify` says that the walk through the
addresses is the walk of `KeysasPortNotify` through the contexts.
-/

set_option autoImplicit false
set_option relaxedAutoImplicit false

namespace Keysas.Minifilter

open Firewall Runs Store

/-! ### Contexts in memory -/

/-- What a context is to its file. -/
inductive Phase (φ : Type) where
  /-- `FindFileContext` has put it into the list, and is going to attach it. -/
  | creating (file : φ)
  | attached (file : φ)
  /-- The file is gone, and handlers still hold the context. -/
  | detached
  deriving DecidableEq

/-- `KEYSAS_FILE_CTX` in memory. -/
structure HeldCtx (φ : Type) where
  phase : Phase φ
  /-- The references of handlers. An attached context has one more, of its file. -/
  references : ℕ
  authorization : KeysasAuthorization
  fileId : Option (List UInt8)

/-- The contexts under their addresses, with the list. -/
structure CtxMemory (α φ : Type) where
  linked : LinkedCells α (HeldCtx φ)
  /-- A walk has read an identifier where there is none. -/
  stopped : Bool

/-- What is done with contexts. -/
inductive CtxEvent (α φ : Type) where
  /-- `FltGetFileContext`. -/
  | getFileContext (file : φ)
  /-- `FltAllocateContext` or the allocation of the lock fails. A context without a lock is released
  before it is put into the list. -/
  | allocationFails
  /-- `FindFileContext` has allocated a context, and puts it into the list. -/
  | insertCtx (address : α) (file : φ)
  /-- `FltSetFileContext` for a new context. -/
  | setFileContext (address : α) (succeeds : Bool)
  /-- `KeysasGetFileNameHash`, with zeros when the hash fails. -/
  | setFileId (address : α) (fileId : List UInt8)
  /-- `FltReleaseContext` of a handler. -/
  | releaseContext (address : α)
  /-- The file goes, with its reference. -/
  | closeFile (file : φ)
  /-- A message about a file for `KeysasPortNotify`. -/
  | portNotify (fileId : List UInt8) (auth : KeysasAuthorization)

section Memory

variable {α φ : Type} [DecidableEq α] [DecidableEq φ]

namespace CtxMemory

/-- The minifilter after `DriverEntry`. -/
def init : CtxMemory α φ := ⟨.empty, false⟩

/-- The context that is attached to a file. -/
def attachedCtx (memory : CtxMemory α φ) (file : φ) : Option α :=
  memory.linked.cells.keys.find? fun address ↦
    (memory.linked.cells.lookup address).any fun ctx ↦ ctx.phase = .attached file

/-- The identifier of the context under an address. -/
def fileIdAt (memory : CtxMemory α φ) (address : α) : Option (List UInt8) :=
  (memory.linked.cells.lookup address).bind HeldCtx.fileId

/-- Change the context under an address. -/
def update (memory : CtxMemory α φ) (address : α) (change : HeldCtx φ → HeldCtx φ) :
    CtxMemory α φ :=
  { memory with linked := memory.linked.update address change }

/-- `KfFileContextCleanup`, after which the memory is freed. -/
def cleanup (memory : CtxMemory α φ) (address : α) : CtxMemory α φ :=
  { memory with linked := memory.linked.free address }

def addReference (memory : CtxMemory α φ) (address : α) : CtxMemory α φ :=
  memory.update address fun ctx ↦ { ctx with references := ctx.references + 1 }

/-- `FltSetFileContext` with `FLT_SET_CONTEXT_KEEP_IF_EXISTS` for a new context, and what
`FindFileContext` does when it returns: a context that is not attached is released. -/
def attach (memory : CtxMemory α φ) (address : α) (file : φ) (succeeds : Bool) : CtxMemory α φ :=
  match memory.attachedCtx file with
  | some existing => (memory.cleanup address).addReference existing
  | none =>
    if succeeds then memory.update address fun ctx ↦ { ctx with phase := .attached file }
    else memory.cleanup address

/-- A handler releases a context that it holds. -/
def release (memory : CtxMemory α φ) (address : α) (ctx : HeldCtx φ) : CtxMemory α φ :=
  match ctx.phase, ctx.references with
  | .creating _, _ => memory
  | _, 0 => memory
  | .detached, 1 => memory.cleanup address
  | _, references + 1 => memory.update address fun ctx ↦ { ctx with references := references }

/-- The file of a context goes. -/
def detach (memory : CtxMemory α φ) (address : α) (ctx : HeldCtx φ) : CtxMemory α φ :=
  if ctx.references = 0 then memory.cleanup address
  else memory.update address fun ctx ↦ { ctx with phase := .detached }

/-- A walk reads no identifier before the one that it looks for. -/
def walkStops (memory : CtxMemory α φ) (fileId : List UInt8) : Bool :=
  (memory.linked.order.takeWhile fun address ↦ memory.fileIdAt address ≠ some fileId).any
    fun address ↦ (memory.fileIdAt address).isNone

/-- The walk of `KeysasPortNotify`. -/
def walk (memory : CtxMemory α φ) (fileId : List UInt8) (auth : KeysasAuthorization) :
    CtxMemory α φ :=
  if memory.walkStops fileId then { memory with stopped := true }
  else
    match memory.linked.order.find? fun address ↦ memory.fileIdAt address = some fileId with
    | none => memory
    | some address => memory.update address fun ctx ↦ { ctx with authorization := auth }

/-- What an event does while the machine runs. -/
def handle (memory : CtxMemory α φ) : CtxEvent α φ → CtxMemory α φ
  | .getFileContext file =>
    match memory.attachedCtx file with
    | none => memory
    | some address => memory.addReference address
  | .allocationFails => memory
  | .insertCtx address file =>
    -- Memory that is in use is not allocated once more.
    if address ∈ memory.linked.cells then memory
    else
      { memory with linked := memory.linked.push address ⟨.creating file, 1, .unknown, none⟩ }
  | .setFileContext address succeeds =>
    match memory.linked.cells.lookup address with
    | none => memory
    | some ctx =>
      match ctx.phase with
      | .creating file => memory.attach address file succeeds
      | _ => memory
  | .setFileId address fileId =>
    memory.update address fun ctx ↦ { ctx with fileId := ctx.fileId.or (some fileId) }
  | .releaseContext address =>
    match memory.linked.cells.lookup address with
    | none => memory
    | some ctx => memory.release address ctx
  | .closeFile file =>
    match memory.attachedCtx file with
    | none => memory
    | some address =>
      match memory.linked.cells.lookup address with
      | none => memory
      | some ctx => memory.detach address ctx
  | .portNotify fileId auth => memory.walk fileId auth

end CtxMemory

/-- One step. Nothing happens any more when the machine has stopped. -/
def ctxStep (memory : CtxMemory α φ) (event : CtxEvent α φ) : CtxMemory α φ × Unit :=
  (if memory.stopped then memory else memory.handle event, ())

/-! ### Validity -/

/-- The list has live contexts, each of them once, and no walk has compared a context without an
identifier. -/
def ListIsValid (memory : CtxMemory α φ) : Prop :=
  memory.linked.Valid ∧ memory.stopped = false

/-- A step neither frees a context nor compares one without an identifier. -/
def KeepsList (memory : CtxMemory α φ) : CtxEvent α φ → Prop
  | .getFileContext _ => True
  | .allocationFails => True
  | .insertCtx _ _ => True
  | .setFileContext address succeeds =>
    ∀ ctx, memory.linked.cells.lookup address = some ctx → ∀ file, ctx.phase = .creating file →
      memory.attachedCtx file = none ∧ succeeds
  | .setFileId _ _ => True
  | .releaseContext address =>
    ∀ ctx, memory.linked.cells.lookup address = some ctx → ctx.phase = .detached →
      ctx.references ≠ 1
  | .closeFile file =>
    ∀ address, memory.attachedCtx file = some address → ∀ ctx,
      memory.linked.cells.lookup address = some ctx → ctx.references ≠ 0
  | .portNotify fileId _ => memory.walkStops fileId = false

section Steps

variable {memory : CtxMemory α φ} {address : α}

omit [DecidableEq φ] in
@[simp] theorem listIsValid_update_iff (change : HeldCtx φ → HeldCtx φ) :
    ListIsValid (memory.update address change) ↔ ListIsValid memory :=
  and_congr_left' (LinkedCells.valid_update_iff change)

omit [DecidableEq φ] in
/-- A context that is cleaned up was in the list. -/
theorem not_listIsValid_cleanup (hvalid : ListIsValid memory) (hcovers : memory.linked.Covers)
    {ctx : HeldCtx φ} (hctx : memory.linked.cells.lookup address = some ctx) :
    ¬ListIsValid (memory.cleanup address) := by
  have hlive : address ∈ memory.linked.cells := by
    refine AList.lookup_isSome.mp ?_
    rw [hctx]
    rfl
  exact fun hafter ↦ LinkedCells.not_valid_free hvalid.1 hcovers hlive hafter.1

/-- The list stays valid exactly when a new context is attached. -/
theorem listIsValid_attach_iff (hvalid : ListIsValid memory) (hcovers : memory.linked.Covers)
    {ctx : HeldCtx φ} (hctx : memory.linked.cells.lookup address = some ctx) (file : φ)
    (succeeds : Bool) :
    ListIsValid (memory.attach address file succeeds) ↔
      memory.attachedCtx file = none ∧ succeeds := by
  have hfreed := not_listIsValid_cleanup hvalid hcovers hctx
  rw [CtxMemory.attach]
  rcases hattached : memory.attachedCtx file with _ | existing
  · cases succeeds with
    | false => exact iff_of_false hfreed (by simp)
    | true => exact iff_of_true ((listIsValid_update_iff _).mpr hvalid) ⟨rfl, rfl⟩
  · refine iff_of_false (fun hafter ↦ hfreed ?_) (by simp)
    exact (listIsValid_update_iff _).mp hafter

omit [DecidableEq φ] in
/-- The list stays valid exactly when a release is not that of the last reference. -/
theorem listIsValid_release_iff (hvalid : ListIsValid memory) (hcovers : memory.linked.Covers)
    {ctx : HeldCtx φ} (hctx : memory.linked.cells.lookup address = some ctx) :
    ListIsValid (memory.release address ctx) ↔ (ctx.phase = .detached → ctx.references ≠ 1) := by
  have hfreed := not_listIsValid_cleanup hvalid hcovers hctx
  rcases ctx with ⟨phase, references, authorization, fileId⟩
  rcases phase with file | file | _
  · exact iff_of_true hvalid nofun
  · rcases references with _ | references
    · exact iff_of_true hvalid nofun
    · exact iff_of_true ((listIsValid_update_iff _).mpr hvalid) nofun
  · rcases references with _ | _ | references
    · exact iff_of_true hvalid fun _ ↦ nofun
    · exact iff_of_false hfreed fun hkept ↦ hkept rfl rfl
    · exact iff_of_true ((listIsValid_update_iff _).mpr hvalid) fun _ ↦ by simp

omit [DecidableEq φ] in
/-- The list stays valid exactly when a handler still holds a context whose file goes. -/
theorem listIsValid_detach_iff (hvalid : ListIsValid memory) (hcovers : memory.linked.Covers)
    {ctx : HeldCtx φ} (hctx : memory.linked.cells.lookup address = some ctx) :
    ListIsValid (memory.detach address ctx) ↔ ctx.references ≠ 0 := by
  rw [CtxMemory.detach]
  split_ifs with hreferences
  · exact iff_of_false (not_listIsValid_cleanup hvalid hcovers hctx) (not_not.mpr hreferences)
  · exact iff_of_true ((listIsValid_update_iff _).mpr hvalid) hreferences

omit [DecidableEq φ] in
/-- The list stays valid exactly when a walk finds identifiers. -/
theorem listIsValid_walk_iff (hvalid : ListIsValid memory) (fileId : List UInt8)
    (auth : KeysasAuthorization) :
    ListIsValid (memory.walk fileId auth) ↔ memory.walkStops fileId = false := by
  rw [CtxMemory.walk]
  split_ifs with hstops
  · exact iff_of_false (fun hafter ↦ nomatch hafter.2) (by simp [hstops])
  · refine iff_of_true ?_ (by simpa using hstops)
    split
    · exact hvalid
    · exact (listIsValid_update_iff _).mpr hvalid

/-- The list stays valid exactly under the condition of the step. -/
theorem listIsValid_handle_iff (hvalid : ListIsValid memory) (hcovers : memory.linked.Covers)
    (event : CtxEvent α φ) :
    ListIsValid (memory.handle event) ↔ KeepsList memory event := by
  cases event with
  | getFileContext file =>
    refine iff_of_true ?_ trivial
    rw [CtxMemory.handle]
    split
    · exact hvalid
    · exact (listIsValid_update_iff _).mpr hvalid
  | allocationFails => exact iff_of_true hvalid trivial
  | insertCtx address file =>
    refine iff_of_true ?_ trivial
    rw [CtxMemory.handle]
    split_ifs with hused
    · exact hvalid
    · exact ⟨hvalid.1.push hused _, hvalid.2⟩
  | setFileContext address succeeds =>
    rw [CtxMemory.handle, KeepsList]
    rcases hctx : memory.linked.cells.lookup address with _ | ctx
    · exact iff_of_true hvalid nofun
    rcases hphase : ctx.phase with file | file | _
    · simp [hphase, listIsValid_attach_iff hvalid hcovers hctx]
    · simp [hphase, hvalid]
    · simp [hphase, hvalid]
  | setFileId address fileId => exact iff_of_true ((listIsValid_update_iff _).mpr hvalid) trivial
  | releaseContext address =>
    rw [CtxMemory.handle, KeepsList]
    rcases hctx : memory.linked.cells.lookup address with _ | ctx
    · exact iff_of_true hvalid nofun
    · simp [listIsValid_release_iff hvalid hcovers hctx]
  | closeFile file =>
    rw [CtxMemory.handle, KeepsList]
    rcases hattached : memory.attachedCtx file with _ | address
    · simp [hvalid]
    rcases hctx : memory.linked.cells.lookup address with _ | ctx
    · simp [hctx, hvalid]
    · simp [hctx, listIsValid_detach_iff hvalid hcovers hctx]
  | portNotify fileId auth => exact listIsValid_walk_iff hvalid fileId auth

/-! ### Contexts outside the list -/

/-- In every step the live contexts stay in the list. -/
theorem covers_handle (hcovers : memory.linked.Covers) (event : CtxEvent α φ) :
    (memory.handle event).linked.Covers := by
  cases event with
  | getFileContext file =>
    rw [CtxMemory.handle]
    split
    · exact hcovers
    · exact hcovers.update _
  | allocationFails => exact hcovers
  | insertCtx address file =>
    rw [CtxMemory.handle]
    split_ifs
    · exact hcovers
    · exact hcovers.push _
  | setFileContext address succeeds =>
    rw [CtxMemory.handle]
    split
    · exact hcovers
    split
    · rw [CtxMemory.attach]
      split
      · exact hcovers.free.update _
      · split_ifs
        · exact hcovers.update _
        · exact hcovers.free
    · exact hcovers
  | setFileId address fileId => exact hcovers.update _
  | releaseContext address =>
    rw [CtxMemory.handle]
    split
    · exact hcovers
    rw [CtxMemory.release]
    split
    · exact hcovers
    · exact hcovers
    · exact hcovers.free
    · exact hcovers.update _
  | closeFile file =>
    rw [CtxMemory.handle]
    split
    · exact hcovers
    split
    · exact hcovers
    rw [CtxMemory.detach]
    split_ifs
    · exact hcovers.free
    · exact hcovers.update _
  | portNotify fileId auth =>
    rw [CtxMemory.handle, CtxMemory.walk]
    split_ifs
    · exact hcovers
    · split
      · exact hcovers
      · exact hcovers.update _

theorem covers_ctxStep (hcovers : memory.linked.Covers) (event : CtxEvent α φ) :
    (ctxStep memory event).1.linked.Covers := by
  rw [ctxStep]
  split_ifs
  · exact hcovers
  · exact covers_handle hcovers event

/-- Every live context is in the list, whatever has happened. -/
theorem covers_execute (hcovers : memory.linked.Covers) (events : List (CtxEvent α φ)) :
    (execute ctxStep memory events).2.linked.Covers := by
  induction events generalizing memory with
  | nil => exact hcovers
  | cons event events ih => exact ih (covers_ctxStep hcovers event)

/-- Along any events the list is valid exactly when every step keeps it: when no context is freed,
and none is compared without an identifier. -/
theorem listIsValid_prefixes_iff (events : List (CtxEvent α φ)) :
    (∀ front, front <+: events → ListIsValid (execute ctxStep CtxMemory.init front).2) ↔
      Admits ctxStep (fun _ memory event ↦ KeepsList memory event) [] CtxMemory.init events := by
  have hstep (_ : List (CtxEvent α φ × Unit)) (memory : CtxMemory α φ) (event : CtxEvent α φ)
      (hboth : ListIsValid memory ∧ memory.linked.Covers) :
      (ListIsValid (ctxStep memory event).1 ∧ (ctxStep memory event).1.linked.Covers) ↔
        KeepsList memory event := by
    rw [and_iff_left (covers_ctxStep hboth.2 event), ctxStep, if_neg (by simp [hboth.1.2])]
    exact listIsValid_handle_iff hboth.1 hboth.2 event
  rw [← forall_prefix_iff_admits hstep
    ⟨⟨LinkedCells.valid_empty, rfl⟩, LinkedCells.covers_empty⟩]
  refine forall₂_congr fun front _ ↦ (and_iff_left ?_).symm
  exact covers_execute LinkedCells.covers_empty front

/-! ### The walk through the contexts -/

/-- A context without its references. -/
def HeldCtx.toFileCtx (ctx : HeldCtx φ) : FileCtx φ where
  attachedTo :=
    match ctx.phase with
    | .attached file => some file
    | _ => none
  authorization := ctx.authorization
  fileId := ctx.fileId

/-- The contexts under some addresses. -/
def contextsAt (linked : LinkedCells α (HeldCtx φ)) (addresses : List α) : List (FileCtx φ) :=
  addresses.filterMap fun address ↦ (linked.cells.lookup address).map HeldCtx.toFileCtx

/-- The contexts of the list. -/
def CtxMemory.contexts (memory : CtxMemory α φ) : List (FileCtx φ) :=
  contextsAt memory.linked memory.linked.order

omit [DecidableEq φ] in
theorem contextsAt_cons {linked : LinkedCells α (HeldCtx φ)} {ctx : HeldCtx φ}
    (hctx : linked.cells.lookup address = some ctx) (addresses : List α) :
    contextsAt linked (address :: addresses) = ctx.toFileCtx :: contextsAt linked addresses := by
  rw [contextsAt, List.filterMap_cons, hctx]
  rfl

omit [DecidableEq φ] in
/-- A change of one context is not seen under other addresses. -/
theorem contextsAt_update {linked : LinkedCells α (HeldCtx φ)} {addresses : List α}
    (hother : address ∉ addresses) (change : HeldCtx φ → HeldCtx φ) :
    contextsAt (linked.update address change) addresses = contextsAt linked addresses := by
  refine List.filterMap_congr fun other hmem ↦ ?_
  rw [LinkedCells.lookup_update, if_neg (ne_of_mem_of_not_mem hmem hother)]

omit [DecidableEq φ] in
/-- The walk through some addresses is the walk of `KeysasPortNotify` through their contexts.
Assumes: there is a context under each, and none is there twice. -/
theorem walkFileAuth_contextsAt {addresses : List α}
    (hlive : ∀ address ∈ addresses, address ∈ memory.linked.cells) (hnodup : addresses.Nodup)
    (fileId : List UInt8) (auth : KeysasAuthorization) :
    (walkFileAuth fileId auth (contextsAt memory.linked addresses)).map Prod.fst =
      if (addresses.takeWhile fun address ↦ memory.fileIdAt address ≠ some fileId).any
          fun address ↦ (memory.fileIdAt address).isNone then none
      else
        match addresses.find? fun address ↦ memory.fileIdAt address = some fileId with
        | none => some (contextsAt memory.linked addresses)
        | some address =>
          some (contextsAt
            (memory.linked.update address fun ctx ↦ { ctx with authorization := auth })
            addresses) := by
  induction addresses with
  | nil => rfl
  | cons address addresses ih =>
    obtain ⟨hfresh, hrest⟩ := List.nodup_cons.mp hnodup
    have ih := ih (fun other hother ↦ hlive other (.tail _ hother)) hrest
    obtain ⟨ctx, hctx⟩ := Option.isSome_iff_exists.mp
      (AList.lookup_isSome.mpr (hlive address (.head _)))
    have hid : memory.fileIdAt address = ctx.fileId := by rw [CtxMemory.fileIdAt, hctx]; rfl
    have hsame : ctx.toFileCtx.fileId = ctx.fileId := rfl
    rw [contextsAt_cons hctx, walkFileAuth, hsame]
    rcases hctxId : ctx.fileId with _ | id
    · simp [hid, hctxId]
    by_cases hfound : id = fileId
    · have hupdated : (memory.linked.update address
          fun ctx ↦ { ctx with authorization := auth }).cells.lookup address =
            some { ctx with authorization := auth } := by
        rw [LinkedCells.lookup_update, if_pos rfl, hctx]
        rfl
      simp [hid, hctxId, hfound, contextsAt_cons hupdated, contextsAt_update hfresh]
      rfl
    · have hstay : memory.fileIdAt address ≠ some fileId := by
        rw [hid, hctxId]
        exact fun hsome ↦ hfound (Option.some.inj hsome)
      have hmap : ((walkFileAuth fileId auth (contextsAt memory.linked addresses)).map fun walked ↦
          (ctx.toFileCtx :: walked.1, walked.2)).map Prod.fst =
            ((walkFileAuth fileId auth (contextsAt memory.linked addresses)).map Prod.fst).map
              (ctx.toFileCtx :: ·) := by
        rw [Option.map_map, Option.map_map]
        rfl
      simp only [if_neg hfound, hmap, ih]
      rw [List.takeWhile_cons_of_pos (by simpa using hstay), List.any_cons,
        List.find?_cons_of_neg (by simpa using hstay), hid, hctxId, Option.isNone_some,
        Bool.false_or]
      split_ifs
      · rfl
      rcases hfind : addresses.find? fun address ↦ memory.fileIdAt address = some fileId with
        _ | found
      · rfl
      · have hother : address ≠ found := by
          rintro rfl
          exact hfresh (List.mem_of_find?_eq_some hfind)
        have hkept : (memory.linked.update found
            fun ctx ↦ { ctx with authorization := auth }).cells.lookup address = some ctx := by
          rw [LinkedCells.lookup_update, if_neg hother, hctx]
        simp only [contextsAt_cons hkept, Option.map_some]

omit [DecidableEq φ] in
/-- A step of the list for a message is the walk of `KeysasPortNotify` through its contexts.
Assumes: the list is valid. -/
theorem contexts_portNotify (hvalid : ListIsValid memory) (fileId : List UInt8)
    (auth : KeysasAuthorization) :
    (walkFileAuth fileId auth memory.contexts).map Prod.fst =
      if memory.walkStops fileId then none else some (memory.walk fileId auth).contexts := by
  rw [CtxMemory.contexts, walkFileAuth_contextsAt hvalid.1.live hvalid.1.nodup, CtxMemory.walk]
  rw [← CtxMemory.walkStops]
  split_ifs with hstops
  · rfl
  · rcases memory.linked.order.find? fun address ↦ memory.fileIdAt address = some fileId with
      _ | address
    · rfl
    · simp only [CtxMemory.contexts, CtxMemory.update, LinkedCells.order_update]

end Steps

end Memory

/-- Two handlers look for the context of one file at once. -/
def racingHandlers : List (CtxEvent ℕ ℕ) :=
  [.getFileContext 0, .getFileContext 0, .insertCtx 1 0, .insertCtx 2 0, .setFileContext 1 true,
    .setFileContext 2 true]

/-- A file is opened and closed. -/
def openAndClose : List (CtxEvent ℕ ℕ) :=
  [.insertCtx 1 0, .setFileContext 1 true, .setFileId 1 namedId, .releaseContext 1, .closeFile 0]

/-- The daemon authorizes a file after another one was written to. -/
def writeThenNotify : List (CtxEvent ℕ ℕ) :=
  [.insertCtx 1 0, .setFileContext 1 true, .releaseContext 1, .portNotify namedId .allowRead]

/-- The list has an address of freed memory after a lost race and when a file was closed, and a
context that was made for a write is compared without an identifier. -/
theorem not_listIsValid :
    ¬ListIsValid (execute ctxStep CtxMemory.init racingHandlers).2 ∧
      ¬ListIsValid (execute ctxStep CtxMemory.init openAndClose).2 ∧
      ¬ListIsValid (execute ctxStep CtxMemory.init writeThenNotify).2 := by
  refine ⟨fun hvalid ↦ ?_, fun hvalid ↦ ?_, fun hvalid ↦ ?_⟩
  · exact absurd (hvalid.1.live 2 (by decide +kernel)) (by decide +kernel)
  · exact absurd (hvalid.1.live 1 (by decide +kernel)) (by decide +kernel)
  · exact absurd hvalid.2 (by decide +kernel)

end Keysas.Minifilter
