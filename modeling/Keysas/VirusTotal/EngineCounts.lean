import Mathlib.Algebra.Order.BigOperators.Group.List
import Mathlib.Data.Rat.Cast.Order
import Keysas.VirusTotal.CacheHistory

/-!
# The counts of a report

A report of the API has four counts of engines. `lookup` reads a count as a number of 64 bits, or as
zero when it is missing or something else, cuts it to 32 bits and adds the four. A file passes when
the count of the engines that call it malicious is below the threshold.

`FailsClosed` compares with the numbers that stand in the report, also with those that are no `u64`.
`failsClosed_iff` says when a file passes only behind a number below the threshold and every number
is counted as it stands: none of them is below zero, has a fraction or is too large, their sum fits
32 bits, and when a file can pass at all the first number has to be there.
-/

set_option autoImplicit false
set_option relaxedAutoImplicit false

namespace Keysas.VirusTotal

open Backend Transit

/-! ### Numbers -/

/-- The names of the counts. -/
def engineKinds : List String :=
  ["malicious", "suspicious", "harmless", "undetected"]

/-- The field of a count in a report. -/
def countField (body : Json) (kind : String) : Json :=
  (((body.get "data").get "attributes").get "last_analysis_stats").get kind

/-- The number that is read for a count. -/
def countRead (body : Json) (kind : String) : ℕ :=
  ((countField body kind).asU64.getD 0).toNat

/-- The number that a value is, if it is one, where `other` is the value of a number that is no
`u64`. -/
def numberOf (other : ℚ) : Json → Option ℚ
  | .unsigned value => some value.toNat
  | .otherNumber => some other
  | _ => none

/-- The number that stands in a report for a count, if there is one, where `others` are the values
of the numbers that are no `u64`. -/
def bodyNumber (others : String → ℚ) (body : Json) (kind : String) : Option ℚ :=
  numberOf (others kind) (countField body kind)

theorem toNat_engineCount (body : Json) (kind : String) :
    (engineCount body kind).toNat = countRead body kind % 2 ^ 32 :=
  UInt64.toNat_toUInt32 _

/-- A count is not cut when it fits 32 bits. -/
theorem toNat_engineCount_eq_iff (body : Json) (kind : String) :
    (engineCount body kind).toNat = countRead body kind ↔ countRead body kind < 2 ^ 32 := by
  rw [toNat_engineCount]
  exact ⟨fun heq ↦ heq ▸ Nat.mod_lt _ (by decide), Nat.mod_eq_of_lt⟩

/-! ### Reports -/

/-- The file passes only behind a number of malicious engines below the threshold, every number in
the report is counted as it stands, and the sum of the counts does not wrap around. -/
structure FailsClosed (client : VtClient) (response : VtResponse) (others : String → ℚ)
    (body : Json) : Prop where
  below : response.pass = true → ∃ number,
    bodyNumber others body "malicious" = some number ∧ number < client.blockThreshold.toNat
  uncut : ∀ kind ∈ engineKinds, ∀ number, bodyNumber others body kind = some number →
    ((engineCount body kind).toNat : ℚ) = number
  total : (engineKinds.map fun kind ↦ (engineCount body kind).toNat).sum < 2 ^ 32

/-- The numbers in a report are counts: one that is no `u64` is zero in another notation, their sum
fits 32 bits, and, unless nothing can pass, there is one of malicious engines. -/
structure CountsNumbers (threshold : UInt32) (others : String → ℚ) (body : Json) : Prop where
  whole : ∀ kind ∈ engineKinds, countField body kind = .otherNumber → others kind = 0
  fits : (engineKinds.map fun kind ↦ (bodyNumber others body kind).getD 0).sum < 2 ^ 32
  malicious : 0 < threshold → (bodyNumber others body "malicious").isSome = true

/-- The verdict on a report compares the count of the malicious engines. -/
theorem pass_verdict (client : VtClient) (body : Json) :
    (client.verdict (.ok (some body))).pass = true ↔
      engineCount body "malicious" < client.blockThreshold :=
  decide_eq_true_iff

theorem pass_of_asU64_eq_none {client : VtClient} (hpositive : 0 < client.blockThreshold)
    {body : Json} (hnone : (countField body "malicious").asU64 = none) :
    (client.verdict (.ok (some body))).pass = true := by
  have hcount : engineCount body "malicious" = 0 := by
    have hread : (countField body "malicious").asU64.getD 0 = 0 := by rw [hnone]; rfl
    exact congrArg UInt64.toUInt32 hread
  rw [pass_verdict, hcount]
  exact hpositive

/-- A report is read without a cut when the counts that are read fit 32 bits together. -/
theorem sum_countRead_lt_iff (body : Json) :
    (engineKinds.map (countRead body)).sum < 2 ^ 32 ↔
      (∀ kind ∈ engineKinds, (engineCount body kind).toNat = countRead body kind) ∧
        (engineKinds.map fun kind ↦ (engineCount body kind).toNat).sum < 2 ^ 32 := by
  constructor
  · intro hsum
    have huncut : ∀ kind ∈ engineKinds,
        (engineCount body kind).toNat = countRead body kind := by
      intro kind hkind
      rw [toNat_engineCount_eq_iff]
      exact (List.le_sum_of_mem (List.mem_map_of_mem hkind)).trans_lt hsum
    refine ⟨huncut, ?_⟩
    rw [List.map_congr_left huncut]
    exact hsum
  · rintro ⟨huncut, htotal⟩
    rw [List.map_congr_left huncut] at htotal
    exact htotal

/-- The number in a report is the one that is read, when it is a `u64` or zero. -/
theorem getD_bodyNumber {others : String → ℚ} {body : Json} {kind : String}
    (hwhole : countField body kind = .otherNumber → others kind = 0) :
    (bodyNumber others body kind).getD 0 = countRead body kind := by
  rw [bodyNumber, countRead]
  rcases hfield : countField body kind with _ | _ | value | _ | _ | _ | _
  case unsigned => rfl
  case otherNumber => exact hwhole hfield
  all_goals rfl

/-- Every number in a report is counted as it stands exactly when those that are no `u64` are zero
and no count that is read is cut. -/
theorem uncut_iff {others : String → ℚ} {body : Json} {kind : String} :
    (∀ number, bodyNumber others body kind = some number →
        ((engineCount body kind).toNat : ℚ) = number) ↔
      (countField body kind = .otherNumber → others kind = 0) ∧
        (engineCount body kind).toNat = countRead body kind := by
  have hzero : (countField body kind).asU64 = none →
      (engineCount body kind).toNat = 0 ∧ countRead body kind = 0 := by
    intro hnone
    have hread : countRead body kind = 0 := by rw [countRead, hnone]; rfl
    exact ⟨by rw [toNat_engineCount, hread, Nat.zero_mod], hread⟩
  rw [bodyNumber]
  rcases hfield : countField body kind with _ | _ | value | _ | _ | _ | _
  case unsigned =>
    have hread : countRead body kind = value.toNat := by
      rw [countRead, hfield]
      rfl
    simp [numberOf, hread]
  case otherNumber =>
    obtain ⟨hcount, hread⟩ := hzero (by rw [hfield]; rfl)
    simp [numberOf, hcount, hread, eq_comm]
  all_goals
    obtain ⟨hcount, hread⟩ := hzero (by rw [hfield]; rfl)
    simp [numberOf, hcount, hread]

/-- A file that passes does so behind a number below the threshold exactly when there is one, unless
nothing can pass. Assumes: the number of malicious engines is counted as it stands. -/
theorem below_iff {client : VtClient} {others : String → ℚ} {body : Json}
    (huncut : ∀ number, bodyNumber others body "malicious" = some number →
      ((engineCount body "malicious").toNat : ℚ) = number) :
    ((client.verdict (.ok (some body))).pass = true → ∃ number,
      bodyNumber others body "malicious" = some number ∧
        number < client.blockThreshold.toNat) ↔
      (0 < client.blockThreshold → (bodyNumber others body "malicious").isSome = true) := by
  cases hnumber : bodyNumber others body "malicious" with
  | none =>
    have hnone : (countField body "malicious").asU64 = none := by
      rw [bodyNumber] at hnumber
      cases hfield : countField body "malicious" <;> rw [hfield] at hnumber <;>
        first | rfl | cases hnumber
    constructor
    · intro hbelow hpositive
      obtain ⟨number, hsome, -⟩ := hbelow (pass_of_asU64_eq_none hpositive hnone)
      cases hsome
    · intro hsome hpass
      rw [pass_verdict] at hpass
      cases hsome (UInt32.lt_of_le_of_lt UInt32.zero_le hpass)
  | some number =>
    refine iff_of_true (fun hpass ↦ ⟨number, rfl, ?_⟩) (fun _ ↦ rfl)
    rw [pass_verdict, UInt32.lt_iff_toNat_lt] at hpass
    rw [← huncut number hnumber]
    exact_mod_cast hpass

/-- A lookup that receives a report fails closed if and only if the numbers in it are counts: those
that are no `u64` are zero, their sum fits 32 bits and, unless the threshold is zero, there is one
of malicious engines. Assumes: nothing is kept for the digest, and the API answers with the
report. -/
theorem failsClosed_iff {client : VtClient} {api : String → ApiAnswer} {sha256 : String} {now : ℕ}
    {body : Json} (hnone : client.cached sha256 now = none)
    (hanswer : api (client.apiUrl ++ "/" ++ sha256) = .ok (some body)) (others : String → ℚ) :
    FailsClosed client (client.lookup api sha256 now).2 others body ↔
      CountsNumbers client.blockThreshold others body := by
  have hverdict : (client.lookup api sha256 now).2 = client.verdict (.ok (some body)) := by
    rw [lookup_of_not_cached hnone, snd_query, verdict_withCache, hanswer]
  have hsum : (∀ kind ∈ engineKinds, countField body kind = .otherNumber → others kind = 0) →
      ((engineKinds.map fun kind ↦ (bodyNumber others body kind).getD 0).sum < 2 ^ 32 ↔
        (engineKinds.map (countRead body)).sum < 2 ^ 32) := by
    intro hwhole
    rw [List.map_congr_left fun kind hkind ↦ getD_bodyNumber (hwhole kind hkind)]
    simp only [engineKinds, List.map_cons, List.map_nil, List.sum_cons, List.sum_nil]
    norm_cast
  rw [hverdict]
  constructor
  · intro hclosed
    have huncut := fun kind hkind ↦ uncut_iff.mp (hclosed.uncut kind hkind)
    have hwhole := fun kind hkind ↦ (huncut kind hkind).1
    refine ⟨hwhole, ?_, (below_iff (hclosed.uncut "malicious" List.mem_cons_self)).mp hclosed.below⟩
    rw [hsum hwhole, sum_countRead_lt_iff]
    exact ⟨fun kind hkind ↦ (huncut kind hkind).2, hclosed.total⟩
  · intro hcounts
    have hread := (hsum hcounts.whole).mp hcounts.fits
    rw [sum_countRead_lt_iff] at hread
    have huncut : ∀ kind ∈ engineKinds, ∀ number, bodyNumber others body kind = some number →
        ((engineCount body kind).toNat : ℚ) = number :=
      fun kind hkind ↦ uncut_iff.mpr ⟨hcounts.whole kind hkind, hread.1 kind hkind⟩
    exact ⟨(below_iff (huncut "malicious" List.mem_cons_self)).mpr hcounts.malicious, huncut,
      hread.2⟩

/-- A report with a number of malicious engines alone. -/
def maliciousReport (count : Json) : Json :=
  .object [("data", .object [("attributes", .object [("last_analysis_stats",
    .object [("malicious", count)])])])]

/-- The verdict on a first lookup that receives a report. -/
def firstVerdict (body : Json) : VtResponse :=
  ((VtClient.new "https://proxy" false 3 3600).lookup (fun _ ↦ .ok (some body)) zeroDigest 0).2

theorem failsClosed_iff_two :
    FailsClosed (.new "https://proxy" false 3 3600) (firstVerdict (maliciousReport (.unsigned 2)))
      (fun _ ↦ 0) (maliciousReport (.unsigned 2)) := by
  refine (failsClosed_iff rfl rfl fun _ ↦ 0).mpr ⟨fun _ _ _ ↦ rfl, ?_, fun _ ↦ rfl⟩
  have hnumbers : engineKinds.map (fun kind ↦
      (bodyNumber (fun _ ↦ 0) (maliciousReport (.unsigned 2)) kind).getD 0) = [2, 0, 0, 0] := rfl
  rw [hnumbers]
  norm_num

/-- A file passes behind an empty object, behind `2 ^ 32` malicious engines, which are cut to none,
and behind `2 ^ 64` of them, which are no `u64` and are read as none. -/
theorem not_failsClosed :
    ¬ FailsClosed (.new "https://proxy" false 3 3600) (firstVerdict (.object [])) (fun _ ↦ 0)
        (.object []) ∧
      (firstVerdict (maliciousReport (.unsigned 4294967296))).pass = true ∧
      ¬ FailsClosed (.new "https://proxy" false 3 3600)
        (firstVerdict (maliciousReport (.unsigned 4294967296))) (fun _ ↦ 0)
        (maliciousReport (.unsigned 4294967296)) ∧
      (firstVerdict (maliciousReport .otherNumber)).pass = true ∧
      ¬ FailsClosed (.new "https://proxy" false 3 3600)
        (firstVerdict (maliciousReport .otherNumber)) (fun _ ↦ 2 ^ 64)
        (maliciousReport .otherNumber) := by
  refine ⟨fun hclosed ↦ ?_, rfl, fun hclosed ↦ ?_, rfl, fun hclosed ↦ ?_⟩
  · obtain ⟨number, hnumber, -⟩ := hclosed.below rfl
    cases hnumber
  · obtain ⟨-, hcut⟩ := uncut_iff.mp (hclosed.uncut "malicious" List.mem_cons_self)
    exact absurd hcut (by decide)
  · obtain ⟨hwhole, -⟩ := uncut_iff.mp (hclosed.uncut "malicious" List.mem_cons_self)
    exact absurd (hwhole rfl) (by norm_num)

end Keysas.VirusTotal
