import Keysas.Store.WriteLog

/-!
# Caches with expiry

A cache keeps what is written to it until an entry is found to be expired and removed. It holds the
latest entry of the log of its writes, except where that entry has expired already. As long as what
has expired stays so, what a cache serves is the latest entry of its log that has not expired
(`Mirrors.filter_lookup`), and when entries were removed does not matter.
-/

set_option autoImplicit false
set_option relaxedAutoImplicit false

namespace Store

variable {κ ν : Type} [DecidableEq κ]

/-- A log whose entries are changed has the changed latest entry. -/
theorem lastWrite_map {μ : Type} (change : μ → ν) (log : List (κ × μ)) (key : κ) :
    lastWrite (log.map (Prod.map id change)) key = (lastWrite log key).map change := by
  induction log using List.reverseRecOn with
  | nil => rfl
  | append_singleton log write ih =>
    rw [List.map_append, List.map_singleton, lastWrite_append, lastWrite_append, ih,
      lastWrite_singleton, lastWrite_singleton, Option.map_or]
    by_cases hkey : write.1 = key
    · rw [if_pos hkey, Prod.map_fst, id, if_pos hkey]
      rfl
    · rw [if_neg hkey, Prod.map_fst, id, if_neg hkey]
      rfl

/-- The cache holds the latest entry of the log under every key, or nothing where that has
expired. -/
def Mirrors (expired : ν → Prop) (cache : Table κ ν) (log : List (κ × ν)) : Prop :=
  ∀ key, cache.lookup key = lastWrite log key ∨
    cache.lookup key = none ∧ ∀ entry, lastWrite log key = some entry → expired entry

section Mirrors

variable {expired : ν → Prop} {cache : Table κ ν} {log : List (κ × ν)}

theorem mirrors_empty (expired : ν → Prop) : Mirrors expired (∅ : Table κ ν) [] :=
  fun key ↦ .inl (AList.lookup_empty key)

/-- Time passes, and more entries have expired. -/
theorem Mirrors.mono {later : ν → Prop} (hmirrors : Mirrors expired cache log)
    (hlater : ∀ entry, expired entry → later entry) : Mirrors later cache log := by
  intro key
  rcases hmirrors key with hkept | ⟨hnone, hexpired⟩
  · exact .inl hkept
  · exact .inr ⟨hnone, fun entry hentry ↦ hlater entry (hexpired entry hentry)⟩

theorem Mirrors.insert (hmirrors : Mirrors expired cache log) (key : κ) (entry : ν) :
    Mirrors expired (cache.insert key entry) (log ++ [(key, entry)]) := by
  intro other
  have hinsert := assigns_insert cache key entry other
  rw [hinsert, lastWrite_append, lastWrite_singleton]
  by_cases hkey : other = key
  · rw [if_pos hkey, if_pos hkey.symm]
    exact .inl rfl
  · rw [if_neg hkey, if_neg (Ne.symm hkey), Option.none_or]
    exact hmirrors other

/-- An entry that has expired may be removed. -/
theorem Mirrors.erase (hmirrors : Mirrors expired cache log) {key : κ}
    (hexpired : ∀ entry, cache.lookup key = some entry → expired entry) :
    Mirrors expired (cache.erase key) log := by
  intro other
  have herase := assigns_erase cache key other
  rw [herase]
  by_cases hkey : other = key
  · rw [if_pos hkey]
    subst hkey
    refine .inr ⟨rfl, fun entry hentry ↦ ?_⟩
    rcases hmirrors other with hkept | ⟨-, hall⟩
    · exact hexpired entry (hkept.trans hentry)
    · exact hall entry hentry
  · rw [if_neg hkey]
    exact hmirrors other

/-- What is served from the cache is the latest entry of the log, unless it has expired. -/
theorem Mirrors.filter_lookup (hmirrors : Mirrors expired cache log) (fresh : ν → Bool)
    (hfresh : ∀ entry, expired entry → fresh entry = false) (key : κ) :
    (cache.lookup key).filter fresh = (lastWrite log key).filter fresh := by
  rcases hmirrors key with hkept | ⟨hnone, hexpired⟩
  · rw [hkept]
  rw [hnone]
  rcases hlast : lastWrite log key with _ | entry
  · rfl
  · rw [Option.filter_some, if_neg (by simp [hfresh entry (hexpired entry hlast)])]
    rfl

end Mirrors

end Store
