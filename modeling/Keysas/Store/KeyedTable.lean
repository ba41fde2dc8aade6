import Mathlib.Data.List.AList
import Mathlib.Tactic.Common

/-!
# Tables by key

A table maps keys to entries. What an operation does to a table is said by what it assigns to one
key: `Assigns before after key entry` says that `after` holds `entry` under `key`, possibly nothing,
and is `before` elsewhere. Insertions and removals are assignments, and a later assignment to the
same key hides an earlier one. `lookup_foldl_keys_insert` is a loop that changes some of the entries
of a table.

`AllEntries property table` says that every entry of a table satisfies a property together with its
key. `AllEntries.assign` is the rule by which an invariant of all entries survives an assignment:
only the new entry has to be looked at.
-/

set_option autoImplicit false
set_option relaxedAutoImplicit false

namespace Store

/-- A table of entries by key. -/
abbrev Table (κ ν : Type) := AList fun _ : κ ↦ ν

variable {κ ν : Type} [DecidableEq κ]

/-! ### Assignments -/

/-- The table `after` holds `entry` under `key` and what `before` holds under every other key. -/
def Assigns (before after : Table κ ν) (key : κ) (entry : Option ν) : Prop :=
  ∀ other, after.lookup other = if other = key then entry else before.lookup other

theorem assigns_insert (table : Table κ ν) (key : κ) (entry : ν) :
    Assigns table (table.insert key entry) key (some entry) := by
  intro other
  by_cases hkey : other = key
  · rw [if_pos hkey, hkey, AList.lookup_insert]
  · rw [if_neg hkey, AList.lookup_insert_ne hkey]

theorem assigns_erase (table : Table κ ν) (key : κ) :
    Assigns table (table.erase key) key none := by
  intro other
  by_cases hkey : other = key
  · rw [if_pos hkey, hkey, AList.lookup_erase]
  · rw [if_neg hkey, AList.lookup_erase_ne hkey]

/-- Of two assignments to one key the second counts. -/
theorem Assigns.trans {before middle after : Table κ ν} {key : κ} {first second : Option ν}
    (hfirst : Assigns before middle key first) (hsecond : Assigns middle after key second) :
    Assigns before after key second := by
  intro other
  rw [hsecond other]
  by_cases hkey : other = key
  · rw [if_pos hkey, if_pos hkey]
  · rw [if_neg hkey, if_neg hkey, hfirst other, if_neg hkey]

theorem Assigns.lookup_self {before after : Table κ ν} {key : κ} {entry : Option ν}
    (hassigns : Assigns before after key entry) : after.lookup key = entry := by
  rw [hassigns key, if_pos rfl]

theorem Assigns.lookup_of_ne {before after : Table κ ν} {key other : κ} {entry : Option ν}
    (hassigns : Assigns before after key entry) (hkey : other ≠ key) :
    after.lookup other = before.lookup other := by
  rw [hassigns other, if_neg hkey]

/-- One entry is inserted under every key of a list that is selected. -/
theorem lookup_foldl_insert (selected : κ → Bool) (entry : ν) (keys : List κ) (table : Table κ ν)
    (key : κ) :
    (keys.foldl (fun table key ↦ if selected key then table.insert key entry else table)
      table).lookup key =
        if key ∈ keys ∧ selected key then some entry else table.lookup key := by
  induction keys generalizing table with
  | nil => simp
  | cons first keys ih =>
    rw [List.foldl_cons, ih]
    by_cases hrest : key ∈ keys ∧ selected key
    · rw [if_pos hrest, if_pos ⟨.tail _ hrest.1, hrest.2⟩]
    rw [if_neg hrest]
    by_cases hkey : key = first
    · subst hkey
      by_cases hselected : selected key
      · rw [if_pos hselected, if_pos ⟨.head _, hselected⟩, AList.lookup_insert]
      · rw [if_neg hselected, if_neg fun hboth ↦ hselected hboth.2]
    · have hcons : ¬(key ∈ first :: keys ∧ selected key) := by
        rw [List.mem_cons, or_iff_right hkey]
        exact hrest
      rw [if_neg hcons]
      split_ifs
      · rw [AList.lookup_insert_ne hkey]
      · rfl

/-- A loop over the keys of a table changes the entries that are selected. -/
theorem lookup_foldl_keys_insert (selected : κ → Bool) (entry : ν) (table : Table κ ν) (key : κ) :
    (table.keys.foldl (fun table key ↦ if selected key then table.insert key entry else table)
      table).lookup key =
        if selected key then (table.lookup key).map fun _ ↦ entry else table.lookup key := by
  rw [lookup_foldl_insert]
  rcases hlookup : table.lookup key with _ | before
  · have hkey : key ∉ table.keys := AList.lookup_eq_none.mp hlookup
    simp [hkey]
  · have hkey : key ∈ table.keys := by
      refine AList.lookup_isSome.mp ?_
      rw [hlookup]
      rfl
    simp [hkey]

/-! ### Invariants of all entries -/

/-- Every entry of the table satisfies the property together with its key. -/
def AllEntries (property : κ → ν → Prop) (table : Table κ ν) : Prop :=
  ∀ key entry, table.lookup key = some entry → property key entry

theorem allEntries_empty (property : κ → ν → Prop) : AllEntries property (∅ : Table κ ν) := by
  intro key entry hentry
  rw [AList.lookup_empty] at hentry
  cases hentry

theorem AllEntries.mono {weaker property : κ → ν → Prop} {table : Table κ ν}
    (hall : AllEntries property table)
    (hproperty : ∀ key entry, property key entry → weaker key entry) : AllEntries weaker table :=
  fun key entry hentry ↦ hproperty key entry (hall key entry hentry)

/-- After an assignment only the new entry has to be looked at, when the property survives at the
other keys. -/
theorem AllEntries.assign {property next : κ → ν → Prop} {before after : Table κ ν} {key : κ}
    {assigned : Option ν} (hall : AllEntries property before)
    (hassigns : Assigns before after key assigned)
    (hassigned : ∀ entry, assigned = some entry → next key entry)
    (hothers : ∀ other entry, other ≠ key → property other entry → next other entry) :
    AllEntries next after := by
  intro other entry hentry
  by_cases hkey : other = key
  · subst hkey
    rw [hassigns.lookup_self] at hentry
    exact hassigned entry hentry
  · rw [hassigns.lookup_of_ne hkey] at hentry
    exact hothers other entry hkey (hall other entry hentry)

/-! ### Other keys -/

section Rekey

variable {κ' ν' : Type} [DecidableEq κ']

/-- The entries of a table, converted, under other keys, where there is one for the key of an
entry. -/
def rekey (keyOf : κ → Option κ') (convert : ν → ν') (table : Table κ ν) : Table κ' ν' :=
  (table.entries.filterMap fun entry ↦
    (keyOf entry.1).map fun key ↦ (⟨key, convert entry.2⟩ : Sigma fun _ : κ' ↦ ν')).toAList

/-- The other table has under a key what the table has under the key that it is made from. -/
theorem lookup_rekey {keyOf : κ → Option κ'} {key : κ} {other : κ'}
    (hkey : ∀ candidate, keyOf candidate = some other ↔ candidate = key) (convert : ν → ν')
    (table : Table κ ν) :
    (rekey keyOf convert table).lookup other = (table.lookup key).map convert := by
  rw [rekey, AList.lookup_to_alist]
  show _ = (List.dlookup key table.entries).map convert
  induction table.entries with
  | nil => rfl
  | cons entry entries ih =>
    obtain ⟨candidate, value⟩ := entry
    rw [List.filterMap_cons]
    by_cases hcandidate : candidate = key
    · subst hcandidate
      simp only [(hkey candidate).mpr rfl, Option.map_some]
      rw [List.dlookup_cons_eq, List.dlookup_cons_eq, Option.map_some]
    · rw [List.dlookup_cons_ne _ _ (Ne.symm hcandidate), ← ih]
      cases hfound : keyOf candidate with
      | none => rfl
      | some found =>
        have hne : other ≠ found := by
          rintro rfl
          exact hcandidate ((hkey candidate).mp hfound)
        exact List.dlookup_cons_ne _ _ hne

end Rekey

end Store
