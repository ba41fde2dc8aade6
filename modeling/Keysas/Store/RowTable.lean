import Keysas.Store.WriteLog

/-!
# Tables of rows

The table of a database: its rows have different keys and stand in the order of their row numbers.
`RowTable.replace` takes the row with the key of a new one out and puts the new one at the end, as
a replacing insertion does.

A table that is only written to has the latest row of its log under every key
(`mem_rows_replaceAll_iff`). `RowTable.row` is the row under a key, and `row_replace` and
`row_delete` say how the statements of the database change it.
-/

set_option autoImplicit false
set_option relaxedAutoImplicit false

namespace Store

variable {κ ν : Type} [DecidableEq κ] {key : ν → κ}

/-- Rows with different keys, in the order of their row numbers. -/
structure RowTable {κ ν : Type} (key : ν → κ) where
  rows : List ν
  nodup : (rows.map key).Nodup

namespace RowTable

/-- The table without rows. -/
def empty {κ ν : Type} (key : ν → κ) : RowTable key :=
  ⟨[], List.nodup_nil⟩

/-- The rows with another key. -/
def others (table : RowTable key) (row : ν) : List ν :=
  table.rows.filter fun other ↦ key other ≠ key row

theorem mem_others_iff {table : RowTable key} {row other : ν} :
    other ∈ table.others row ↔ other ∈ table.rows ∧ key other ≠ key row := by
  rw [others, List.mem_filter, decide_eq_true_iff]

/-- A row in the place of the one with its key, at the end. -/
def replace (table : RowTable key) (row : ν) : RowTable key where
  rows := table.others row ++ [row]
  nodup := by
    have hothers : ((table.others row).map key).Nodup :=
      table.nodup.sublist (List.filter_sublist.map key)
    rw [List.map_append, List.map_singleton]
    refine hothers.append (List.nodup_singleton _) ?_
    intro found hfound hlast
    obtain ⟨other, hother, rfl⟩ := List.mem_map.mp hfound
    exact (mem_others_iff.mp hother).2 (List.mem_singleton.mp hlast)

theorem mem_rows_replace {table : RowTable key} {row other : ν} :
    other ∈ (table.replace row).rows ↔ other = row ∨ other ∈ table.rows ∧ key other ≠ key row := by
  rw [replace, List.mem_append, mem_others_iff, List.mem_singleton, or_comm]

/-- The table after the replacements of a log, oldest first. -/
def replaceAll (table : RowTable key) (log : List ν) : RowTable key :=
  log.foldl replace table

/-- A table that is only written to has the latest row of the log under every key. -/
theorem mem_rows_replaceAll_iff (log : List ν) (row : ν) :
    row ∈ ((empty key).replaceAll log).rows ↔
      lastWrite (log.map fun written ↦ (key written, written)) (key row) = some row := by
  induction log using List.reverseRecOn with
  | nil => exact iff_of_false (List.not_mem_nil) nofun
  | append_singleton log last ih =>
    rw [replaceAll, List.foldl_append, List.foldl_cons, List.foldl_nil, ← replaceAll,
      mem_rows_replace, ih, List.map_append, List.map_singleton, lastWrite_append,
      lastWrite_singleton]
    by_cases hkey : key last = key row
    · rw [if_pos hkey, Option.some_or, Option.some_inj]
      constructor
      · rintro (hsame | ⟨-, hother⟩)
        · exact hsame.symm
        · exact absurd hkey.symm hother
      · exact fun hsame ↦ .inl hsame.symm
    · rw [if_neg hkey, Option.none_or]
      constructor
      · rintro (rfl | ⟨hlast, -⟩)
        · exact absurd rfl hkey
        · exact hlast
      · exact fun hlast ↦ .inr ⟨hlast, Ne.symm hkey⟩

/-- The row under a key. -/
def row (table : RowTable key) (wanted : κ) : Option ν :=
  table.rows.find? fun row ↦ key row = wanted

theorem row_eq_some_iff {table : RowTable key} {wanted : κ} {found : ν} :
    table.row wanted = some found ↔ found ∈ table.rows ∧ key found = wanted := by
  constructor
  · exact fun hfind ↦ ⟨List.mem_of_find?_eq_some hfind, by simpa using List.find?_some hfind⟩
  · rintro ⟨hmem, rfl⟩
    have hsome : (table.row (key found)).isSome = true := by
      rw [row, List.find?_isSome]
      exact ⟨found, hmem, decide_eq_true rfl⟩
    obtain ⟨other, hother⟩ := Option.isSome_iff_exists.mp hsome
    have hkey : key other = key found := by simpa using List.find?_some hother
    rw [hother, List.inj_on_of_nodup_map table.nodup (List.mem_of_find?_eq_some hother) hmem hkey]

theorem row_replace (table : RowTable key) (last : ν) (wanted : κ) :
    (table.replace last).row wanted =
      if key last = wanted then some last else table.row wanted := by
  refine Option.ext fun found ↦ ?_
  rw [row_eq_some_iff, mem_rows_replace]
  split_ifs with hkey
  · rw [Option.some_inj]
    constructor
    · rintro ⟨rfl | ⟨-, hother⟩, hwanted⟩
      · rfl
      · exact absurd (hwanted.trans hkey.symm) hother
    · rintro rfl
      exact ⟨.inl rfl, hkey⟩
  · rw [row_eq_some_iff]
    constructor
    · rintro ⟨rfl | ⟨hmem, -⟩, hwanted⟩
      · exact absurd hwanted hkey
      · exact ⟨hmem, hwanted⟩
    · rintro ⟨hmem, rfl⟩
      exact ⟨.inr ⟨hmem, Ne.symm hkey⟩, rfl⟩

/-- The table without the row under a key. -/
def delete (table : RowTable key) (removed : κ) : RowTable key where
  rows := table.rows.filter fun row ↦ key row ≠ removed
  nodup := table.nodup.sublist (List.filter_sublist.map key)

theorem row_delete (table : RowTable key) (removed wanted : κ) :
    (table.delete removed).row wanted = if removed = wanted then none else table.row wanted := by
  refine Option.ext fun found ↦ ?_
  rw [row_eq_some_iff, delete, List.mem_filter, decide_eq_true_iff]
  split_ifs with hkey
  · refine iff_of_false ?_ nofun
    rintro ⟨⟨-, hother⟩, hwanted⟩
    exact hother (hwanted.trans hkey.symm)
  · rw [row_eq_some_iff]
    constructor
    · exact fun hmem ↦ ⟨hmem.1.1, hmem.2⟩
    · rintro ⟨hmem, rfl⟩
      exact ⟨⟨hmem, Ne.symm hkey⟩, rfl⟩

/-- A query by the key gives the row under it. -/
theorem filter_eq_row (table : RowTable key) (wanted : κ) :
    table.rows.filter (fun row ↦ key row = wanted) = (table.row wanted).toList := by
  obtain ⟨rows, hnodup⟩ := table
  show rows.filter _ = (rows.find? _).toList
  induction rows with
  | nil => rfl
  | cons head rows ih =>
    rw [List.map_cons, List.nodup_cons] at hnodup
    by_cases hkey : key head = wanted
    · have hnone : rows.filter (fun row ↦ key row = wanted) = [] := by
        refine List.filter_eq_nil_iff.mpr fun row hrow hsame ↦ hnodup.1 ?_
        rw [hkey, ← of_decide_eq_true hsame]
        exact List.mem_map_of_mem hrow
      rw [List.filter_cons_of_pos (by simpa using hkey), hnone,
        List.find?_cons_of_pos (by simpa using hkey)]
      rfl
    · rw [List.filter_cons_of_neg (by simpa using hkey), ih hnodup.2,
        List.find?_cons_of_neg (by simpa using hkey)]

end RowTable

end Store
