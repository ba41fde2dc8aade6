import Mathlib.Data.List.Induction
import Keysas.Store.KeyedTable

/-!
# Logs of writes

A table that is only written to is determined by the log of its writes, oldest first. `lastWrite`
is the latest entry of a log under a key, and `lookup_replay` says that this is what a table holds
after the writes of the log, or what it held before when the log has none.

`lastWrite_append` and `replay_append` take a log apart, so that an induction over what has happened
needs the writes of one event at a time.
-/

set_option autoImplicit false
set_option relaxedAutoImplicit false

namespace Store

variable {κ ν : Type} [DecidableEq κ]

/-- The latest entry of a log under a key. -/
def lastWrite (log : List (κ × ν)) (key : κ) : Option ν :=
  (log.reverse.find? fun write ↦ write.1 = key).map Prod.snd

/-- The table after the writes of a log. -/
def replay (table : Table κ ν) (log : List (κ × ν)) : Table κ ν :=
  log.foldl (fun current write ↦ current.insert write.1 write.2) table

@[simp] theorem lastWrite_nil (key : κ) : lastWrite ([] : List (κ × ν)) key = none := rfl

@[simp] theorem lastWrite_singleton (write : κ × ν) (key : κ) :
    lastWrite [write] key = if write.1 = key then some write.2 else none := by
  by_cases hkey : write.1 = key
  · simp [lastWrite, hkey]
  · simp [lastWrite, hkey]

/-- The second part of a log hides the first. -/
theorem lastWrite_append (first second : List (κ × ν)) (key : κ) :
    lastWrite (first ++ second) key = (lastWrite second key).or (lastWrite first key) := by
  rw [lastWrite, List.reverse_append, List.find?_append, Option.map_or]
  rfl

/-- A log has a latest entry under the keys that it writes. -/
theorem isSome_lastWrite_iff {log : List (κ × ν)} {key : κ} :
    (lastWrite log key).isSome = true ↔ ∃ write ∈ log, write.1 = key := by
  rw [lastWrite, Option.isSome_map, List.find?_isSome]
  simp

/-- The latest entry under a key is one of the log. -/
theorem mem_of_lastWrite {log : List (κ × ν)} {key : κ} {entry : ν}
    (hlast : lastWrite log key = some entry) : (key, entry) ∈ log := by
  obtain ⟨write, hfind, rfl⟩ := Option.map_eq_some_iff.mp hlast
  have hkey : write.1 = key := by simpa using List.find?_some hfind
  rw [← hkey]
  exact List.mem_reverse.mp (List.mem_of_find?_eq_some hfind)

/-- The entry of a log that writes to every key once is the latest under its key. -/
theorem lastWrite_of_mem {log : List (κ × ν)} (hnodup : (log.map Prod.fst).Nodup) {key : κ}
    {entry : ν} (hmem : (key, entry) ∈ log) : lastWrite log key = some entry := by
  obtain ⟨found, hfound⟩ :=
    Option.isSome_iff_exists.mp (isSome_lastWrite_iff.mpr ⟨(key, entry), hmem, rfl⟩)
  have hsame : (key, found) = (key, entry) :=
    List.inj_on_of_nodup_map hnodup (mem_of_lastWrite hfound) hmem rfl
  rw [hfound, (Prod.mk.inj hsame).2]

/-- The writes of the second part of a log come after those of the first. -/
theorem replay_append (table : Table κ ν) (first second : List (κ × ν)) :
    replay table (first ++ second) = replay (replay table first) second :=
  List.foldl_append

/-- What a table holds after the writes of a log is the latest of them, or what was there before. -/
theorem lookup_replay (table : Table κ ν) (log : List (κ × ν)) (key : κ) :
    (replay table log).lookup key = (lastWrite log key).or (table.lookup key) := by
  induction log using List.reverseRecOn with
  | nil => rfl
  | append_singleton log write ih =>
    have hinsert := assigns_insert (replay table log) write.1 write.2 key
    rw [replay, List.foldl_append, List.foldl_cons, List.foldl_nil, ← replay, hinsert,
      lastWrite_append, lastWrite_singleton]
    by_cases hkey : write.1 = key
    · rw [if_pos hkey, if_pos hkey.symm]
      rfl
    · rw [if_neg hkey, if_neg (Ne.symm hkey), ih]
      rfl

/-- Two logs leave the same under a key of every table exactly when their latest entries under it
are the same. -/
theorem forall_lookup_replay_eq_iff {first second : List (κ × ν)} {key : κ} :
    (∀ table : Table κ ν,
        (replay table first).lookup key = (replay table second).lookup key) ↔
      lastWrite first key = lastWrite second key := by
  constructor
  · intro hsame
    have hempty := hsame ∅
    have hnone : (∅ : Table κ ν).lookup key = none := rfl
    rwa [lookup_replay, lookup_replay, hnone, Option.or_none, Option.or_none] at hempty
  · intro hsame table
    rw [lookup_replay, lookup_replay, hsame]

end Store
