import Keysas.Minifilter.Handlers

/-!
# File contexts

The contexts that the minifilter keeps for files. `AllCtx property state` says that the
authorization of every context has a property together with the file of the context, and its rules
carry it over the operations on the list of contexts. `run_findFileContext` is what a handler gets
when it looks for the context of a file.
-/

set_option autoImplicit false
set_option relaxedAutoImplicit false

namespace Keysas.Minifilter

open Crypto Firewall Runs Store

variable {ν φ : Type}

/-! ### Contexts of files -/

namespace FilterState

variable [DecidableEq φ] (state : FilterState ν φ) (file : φ)

/-- The context of a file is attached to it. -/
theorem attachedTo_of_fileCtx {state : FilterState ν φ} {file : φ} {ctx : FileCtx φ}
    (hctx : state.fileCtx file = some ctx) : ctx.attachedTo = some file := by
  simpa using List.find?_some hctx

/-- A change of the context of one file is seen in that context only. -/
theorem fileCtx_modifyCtx {change : FileCtx φ → FileCtx φ}
    (hkeeps : ∀ ctx, (change ctx).attachedTo = ctx.attachedTo) :
    (state.modifyCtx file change).fileCtx file = (state.fileCtx file).map change := by
  have hsame : ((fun ctx : FileCtx φ ↦ decide (ctx.attachedTo = some file)) ∘
      fun ctx ↦ if ctx.attachedTo = some file then change ctx else ctx) =
        fun ctx ↦ decide (ctx.attachedTo = some file) := by
    ext ctx
    by_cases hattached : ctx.attachedTo = some file
    · simp [hattached, hkeeps]
    · simp [hattached]
  unfold fileCtx modifyCtx
  rw [List.find?_map, hsame]
  refine Option.map_congr fun ctx hctx ↦ ?_
  rw [if_pos (attachedTo_of_fileCtx hctx)]

theorem fileCtx_setAuthorization (auth : KeysasAuthorization) :
    (state.setAuthorization file auth).fileCtx file =
      (state.fileCtx file).map fun ctx ↦ { ctx with authorization := auth } :=
  fileCtx_modifyCtx state file fun _ ↦ rfl

theorem fileCtx_setFileId (fileId : List UInt8) :
    (state.setFileId file fileId).fileCtx file =
      (state.fileCtx file).map fun ctx ↦ { ctx with fileId := some fileId } :=
  fileCtx_modifyCtx state file fun _ ↦ rfl

@[simp] theorem isSome_fileCtx_setAuthorization (auth : KeysasAuthorization) :
    ((state.setAuthorization file auth).fileCtx file).isSome = (state.fileCtx file).isSome := by
  rw [fileCtx_setAuthorization, Option.isSome_map]

@[simp] theorem isSome_fileCtx_setFileId (fileId : List UInt8) :
    ((state.setFileId file fileId).fileCtx file).isSome = (state.fileCtx file).isSome := by
  rw [fileCtx_setFileId, Option.isSome_map]

@[simp] theorem fileId_setAuthorization (auth : KeysasAuthorization) :
    (state.setAuthorization file auth).fileId file = state.fileId file := by
  rw [fileId, fileCtx_setAuthorization, fileId]
  cases state.fileCtx file <;> rfl

/-- A context has the identifier that it is set to. -/
theorem fileId_setFileId (hctx : (state.fileCtx file).isSome) (fileId : List UInt8) :
    (state.setFileId file fileId).fileId file = some fileId := by
  obtain ⟨ctx, hctx⟩ := Option.isSome_iff_exists.mp hctx
  rw [FilterState.fileId, fileCtx_setFileId, hctx]
  rfl

/-- A context has the authorization that it is set to. -/
theorem authorization_setAuthorization (hctx : (state.fileCtx file).isSome)
    (auth : KeysasAuthorization) :
    (state.setAuthorization file auth).authorization file = auth := by
  obtain ⟨ctx, hctx⟩ := Option.isSome_iff_exists.mp hctx
  rw [authorization, fileCtx_setAuthorization, hctx]
  rfl

/-- Of two authorizations that are set the second counts. -/
@[simp] theorem setAuthorization_setAuthorization (first second : KeysasAuthorization) :
    (state.setAuthorization file first).setAuthorization file second =
      state.setAuthorization file second := by
  unfold setAuthorization modifyCtx
  simp only [List.map_map, FilterState.mk.injEq, true_and]
  refine List.map_congr_left fun ctx _ ↦ ?_
  by_cases hattached : ctx.attachedTo = some file
  · simp [hattached]
  · simp [hattached]

/-- A file whose authorization is known has a context. -/
theorem isSome_fileCtx_of_known {state : FilterState ν φ} {file : φ}
    (hknown : state.authorization file ≠ .unknown) : (state.fileCtx file).isSome := by
  rcases hctx : state.fileCtx file with _ | ctx
  · rw [authorization, hctx] at hknown
    exact absurd rfl hknown
  · rfl

/-- The state in which a file has a context. -/
def withCtx : FilterState ν φ :=
  if (state.fileCtx file).isSome then state else state.insertCtx (some file)

theorem isSome_fileCtx_withCtx : ((state.withCtx file).fileCtx file).isSome := by
  by_cases hctx : (state.fileCtx file).isSome
  · rwa [withCtx, if_pos hctx]
  · rw [withCtx, if_neg hctx]
    simp [insertCtx, fileCtx]

/-- A file without a context gets one that is unknown. -/
@[simp] theorem authorization_withCtx :
    (state.withCtx file).authorization file = state.authorization file := by
  by_cases hctx : (state.fileCtx file).isSome
  · rw [withCtx, if_pos hctx]
  · rw [withCtx, if_neg hctx, authorization, authorization,
      Option.not_isSome_iff_eq_none.mp hctx]
    simp [insertCtx, fileCtx]

/-- A file without a context gets one without an identifier. -/
@[simp] theorem fileId_withCtx : (state.withCtx file).fileId file = state.fileId file := by
  by_cases hctx : (state.fileCtx file).isSome
  · rw [withCtx, if_pos hctx]
  · rw [withCtx, if_neg hctx, fileId, fileId, Option.not_isSome_iff_eq_none.mp hctx]
    simp [insertCtx, fileCtx]

omit [DecidableEq φ] in
@[simp] theorem fileCtxList_withInstance [DecidableEq ν] (volume : ν) :
    (state.withInstance volume).fileCtxList = state.fileCtxList := by
  rw [withInstance]
  split_ifs <;> rfl

@[simp] theorem fileCtx_withInstance [DecidableEq ν] (volume : ν) :
    (state.withInstance volume).fileCtx file = state.fileCtx file := by
  rw [fileCtx, fileCtxList_withInstance, fileCtx]

end FilterState

/-! ### Properties of all contexts -/

/-- The authorization of every context has the property together with its file. -/
def AllCtx (property : φ → KeysasAuthorization → Prop) (state : FilterState ν φ) : Prop :=
  ∀ ctx ∈ state.fileCtxList, ∀ file, ctx.attachedTo = some file → property file ctx.authorization

section AllCtx

variable {property : φ → KeysasAuthorization → Prop} {state : FilterState ν φ}

theorem allCtx_init : AllCtx property (FilterState.init : FilterState ν φ) := by
  intro ctx hctx
  cases hctx

theorem AllCtx.mono {weaker : φ → KeysasAuthorization → Prop} (hall : AllCtx property state)
    (hweaker : ∀ file auth, property file auth → weaker file auth) : AllCtx weaker state :=
  fun ctx hctx file hattached ↦ hweaker file _ (hall ctx hctx file hattached)

theorem AllCtx.insertCtx (hall : AllCtx property state)
    (hunknown : ∀ file, property file .unknown) (attachedTo : Option φ) :
    AllCtx property (state.insertCtx attachedTo) := by
  intro ctx hctx file hattached
  rcases List.mem_cons.mp hctx with rfl | hold
  · exact hunknown file
  · exact hall ctx hold file hattached

/-- The walk keeps the property when the context that it changes has it afterwards. -/
theorem AllCtx.walkFileAuth {fileId : List UInt8} {auth : KeysasAuthorization}
    {before after : List (FileCtx φ)} {updated : Option φ}
    (hwalk : walkFileAuth fileId auth before = some (after, updated))
    (hall : ∀ ctx ∈ before, ∀ file, ctx.attachedTo = some file → property file ctx.authorization)
    (hauth : ∀ file, updated = some file → property file auth) :
    ∀ ctx ∈ after, ∀ file, ctx.attachedTo = some file → property file ctx.authorization := by
  induction before generalizing after with
  | nil =>
    obtain ⟨rfl, rfl⟩ := Prod.mk.inj (Option.some.inj hwalk)
    exact hall
  | cons ctx rest ih =>
    have hctx := hall ctx (.head _)
    have hrest : ∀ ctx ∈ rest, ∀ file, ctx.attachedTo = some file →
        property file ctx.authorization := fun other hother ↦ hall other (.tail _ hother)
    rw [Minifilter.walkFileAuth] at hwalk
    rcases hid : ctx.fileId with _ | id
    · simp only [hid] at hwalk
      cases hwalk
    simp only [hid] at hwalk
    by_cases hfound : id = fileId
    · rw [if_pos hfound] at hwalk
      obtain ⟨rfl, rfl⟩ := Prod.mk.inj (Option.some.inj hwalk)
      exact List.forall_mem_cons.mpr ⟨hauth, hrest⟩
    · rw [if_neg hfound] at hwalk
      obtain ⟨⟨tail, found⟩, htail, heq⟩ := Option.map_eq_some_iff.mp hwalk
      obtain ⟨rfl, rfl⟩ := Prod.mk.inj heq
      exact List.forall_mem_cons.mpr ⟨hctx, ih htail hrest⟩

variable [DecidableEq φ]

/-- A property of all contexts holds of what is looked up. -/
theorem AllCtx.authorization (hall : AllCtx property state) {file : φ}
    (hctx : (state.fileCtx file).isSome) : property file (state.authorization file) := by
  obtain ⟨ctx, hctx⟩ := Option.isSome_iff_exists.mp hctx
  rw [FilterState.authorization, hctx]
  exact hall ctx (List.mem_of_find?_eq_some hctx) file (FilterState.attachedTo_of_fileCtx hctx)

/-- A change of the context of a file gives every context the property when the other files have it
and the context has it afterwards. -/
theorem AllCtx.modifyCtx_of_ne {file : φ} {change : FileCtx φ → FileCtx φ}
    (hall : AllCtx (fun other auth ↦ other ≠ file → property other auth) state)
    (hkeeps : ∀ ctx, (change ctx).attachedTo = ctx.attachedTo)
    (hchange : ∀ ctx ∈ state.fileCtxList, ctx.attachedTo = some file →
      property file (change ctx).authorization) :
    AllCtx property (state.modifyCtx file change) := by
  intro changed hchanged other hother
  obtain ⟨ctx, hctx, rfl⟩ := List.mem_map.mp hchanged
  by_cases hattached : ctx.attachedTo = some file
  · rw [if_pos hattached] at hother ⊢
    rw [hkeeps] at hother
    obtain rfl : file = other := Option.some.inj (hattached.symm.trans hother)
    exact hchange ctx hctx hattached
  · rw [if_neg hattached] at hother ⊢
    refine hall ctx hctx other hother ?_
    rintro rfl
    exact hattached hother

/-- A change of one context keeps the property when the context has it afterwards. -/
theorem AllCtx.modifyCtx (hall : AllCtx property state) {file : φ}
    {change : FileCtx φ → FileCtx φ}
    (hkeeps : ∀ ctx, (change ctx).attachedTo = ctx.attachedTo)
    (hchange : ∀ ctx ∈ state.fileCtxList, ctx.attachedTo = some file →
      property file (change ctx).authorization) :
    AllCtx property (state.modifyCtx file change) := by
  have hothers : AllCtx (fun other auth ↦ other ≠ file → property other auth) state :=
    hall.mono fun _ _ hproperty _ ↦ hproperty
  exact hothers.modifyCtx_of_ne hkeeps hchange

theorem AllCtx.setAuthorization (hall : AllCtx property state) {file : φ}
    {auth : KeysasAuthorization} (hauth : property file auth) :
    AllCtx property (state.setAuthorization file auth) :=
  hall.modifyCtx (fun _ ↦ rfl) fun _ _ _ ↦ hauth

/-- As `AllCtx.setAuthorization`, when the property was broken for the file that is changed. -/
theorem AllCtx.setAuthorization_of_ne {file : φ} {auth : KeysasAuthorization}
    (hall : AllCtx (fun other auth ↦ other ≠ file → property other auth) state)
    (hauth : property file auth) : AllCtx property (state.setAuthorization file auth) :=
  hall.modifyCtx_of_ne (fun _ ↦ rfl) fun _ _ _ ↦ hauth

theorem AllCtx.setFileId (hall : AllCtx property state) {file : φ} (fileId : List UInt8) :
    AllCtx property (state.setFileId file fileId) :=
  hall.modifyCtx (fun _ ↦ rfl) fun ctx hctx hattached ↦ hall ctx hctx file hattached

theorem AllCtx.withCtx (hall : AllCtx property state)
    (hunknown : ∀ file, property file .unknown) (file : φ) :
    AllCtx property (state.withCtx file) := by
  rw [FilterState.withCtx]
  split_ifs
  · exact hall
  · exact hall.insertCtx hunknown (some file)

omit [DecidableEq φ] in
theorem AllCtx.withInstance [DecidableEq ν] (hall : AllCtx property state) (volume : ν) :
    AllCtx property (state.withInstance volume) := by
  unfold AllCtx
  rwa [FilterState.fileCtxList_withInstance]

end AllCtx

/-! ### Finding a context -/

section Find

variable [DecidableEq φ]

/-- `FindFileContext` gives a context. -/
def findSucceeds (state : FilterState ν φ) (calls : FindCalls) (file : φ) : Bool :=
  calls.getFileContext && ((state.fileCtx file).isSome ||
    calls.allocateContext && calls.allocateResource && calls.setFileContext)

variable {state : FilterState ν φ}

theorem run_findFileContext {calls : FindCalls} {file : φ}
    (hfinds : findSucceeds state calls file = true) :
    (findFileContext calls file).run state = ⟨[], state.withCtx file, .ok ()⟩ := by
  obtain ⟨hget, hctx⟩ := Bool.and_eq_true_iff.mp hfinds
  rw [findFileContext, FilterState.withCtx]
  rcases hold : state.fileCtx file with _ | ctx
  · simp only [hold, Option.isSome_none, Bool.false_or, Bool.and_eq_true] at hctx
    simp [hget, hold, hctx, Program.require]
  · simp [hget, hold]

/-- A context that is not found leaves at most a context without a file. -/
theorem exists_run_findFileContext {calls : FindCalls} {file : φ}
    (hfails : findSucceeds state calls file = false) :
    ∃ after, (findFileContext calls file).run state = ⟨[], after, .error ()⟩ ∧
      (after = state ∨ after = state.insertCtx none) := by
  rw [findFileContext]
  by_cases hget : calls.getFileContext = true
  swap
  · exact ⟨state, by simp [hget], .inl rfl⟩
  rcases hold : state.fileCtx file with _ | ctx
  swap
  · simp [findSucceeds, hget, hold] at hfails
  by_cases hallocate : calls.allocateContext = true ∧ calls.allocateResource = true
  swap
  · refine ⟨state, ?_, .inl rfl⟩
    rcases not_and_or.mp hallocate with hcontext | hresource
    · simp [hget, hold, hcontext]
    · by_cases hcontext : calls.allocateContext = true <;> simp [hget, hold, hcontext, hresource]
  · have hset : calls.setFileContext = false := by
      simpa [findSucceeds, hget, hold, hallocate] using hfails
    exact ⟨state.insertCtx none, by simp [hget, hold, hallocate, hset, Program.require], .inr rfl⟩

end Find

end Keysas.Minifilter
