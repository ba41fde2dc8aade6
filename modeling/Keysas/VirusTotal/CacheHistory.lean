import Keysas.Store.ExpiringCache
import Keysas.VirusTotal.Lookup

/-!
# What the lookups remember

A run of `VtClient.lookup` over any digests, with any answers of the API, under a clock that does
not go back. The answers that are kept are the definitive ones, that a digest is unknown and the
statistics of a report, and `Follows.cached_eq` says that what is kept for a digest is the last
definitive answer about it, until it is too old.

A lookup is transparent when it says what the API says now or what was said first about an answer
that is still kept, and when what it takes from the cache is about a definitive answer. A lookup
that asks the API lets an unknown digest pass, and one that finds the answer in the cache compares
no detections with the threshold. `transparent_iff` says that these differ only under a threshold
of zero.
-/

set_option autoImplicit false
set_option relaxedAutoImplicit false

namespace Keysas.VirusTotal

open Backend Runs RustStd Store Transit

/-! ### Verdicts -/

/-- An answer that is kept. -/
def ApiAnswer.isDefinitive : ApiAnswer → Bool
  | .ok (some _) => true
  | .notFound => true
  | .ok none | .tooManyRequests | .failed _ => false

/-- What is said about an answer of the API. -/
def VtClient.verdict (client : VtClient) (answer : ApiAnswer) : VtResponse :=
  (client.query (fun _ ↦ answer) "" 0).2

theorem snd_query (client : VtClient) (api : String → ApiAnswer) (sha256 : String) (now : ℕ) :
    (client.query api sha256 now).2 = client.verdict (api (client.apiUrl ++ "/" ++ sha256)) := by
  rw [VtClient.verdict, VtClient.query, VtClient.query]
  rcases api (client.apiUrl ++ "/" ++ sha256) with (_ | body) | _ | _ | error <;> rfl

/-- The detections and the summary of a definitive answer are kept. -/
theorem fst_query (client : VtClient) (api : String → ApiAnswer) (sha256 : String) (now : ℕ) :
    (client.query api sha256 now).1 =
      if (api (client.apiUrl ++ "/" ++ sha256)).isDefinitive then
        let verdict := client.verdict (api (client.apiUrl ++ "/" ++ sha256))
        client.insertCache sha256 verdict.detections verdict.summary now
      else client := by
  rw [VtClient.verdict, VtClient.query, VtClient.query]
  rcases api (client.apiUrl ++ "/" ++ sha256) with (_ | body) | _ | _ | error <;> rfl

theorem verdict_withCache (client : VtClient) (cache : Table String CacheEntry)
    (answer : ApiAnswer) :
    ({ client with cache := cache } : VtClient).verdict answer = client.verdict answer := by
  rcases answer with (_ | body) | _ | _ | error <;> rfl

/-- The summary of a report is not the one of an unknown digest. -/
theorem summaryOf_ne_unknown (malicious suspicious harmless undetected : UInt32) :
    summaryOf malicious suspicious harmless undetected ≠ "unknown to VirusTotal" := by
  intro hunknown
  have hlast := congrArg (fun summary ↦ summary.toList.getLast?) hunknown
  rw [summaryOf] at hlast
  split_ifs at hlast
  · simp only [String.toList_append, List.getLast?_append] at hlast
    have hletter : some 's' = some 'l' := hlast
    exact absurd hletter (by decide)
  · simp only [String.toList_append, List.getLast?_append] at hlast
    have hletter : some 's' = some 'l' := hlast
    exact absurd hletter (by decide)
  · simp only [String.toList_append, List.getLast?_append] at hlast
    have hbracket : some ')' = some 'l' := hlast
    exact absurd hbracket (by decide)

/-- No answer of the API makes a refusal of an unknown digest. -/
theorem verdict_ne_unknown (client : VtClient) (answer : ApiAnswer) :
    client.verdict answer ≠ ⟨false, 0, "unknown to VirusTotal"⟩ := by
  intro hverdict
  have hsummary := congrArg VtResponse.summary hverdict
  rcases answer with (_ | body) | _ | _ | error
  · have hparse : "VT response parse error" = "unknown to VirusTotal" := hsummary
    exact absurd hparse (by decide)
  · exact summaryOf_ne_unknown _ _ _ _ hsummary
  · have hpass : true = false := congrArg VtResponse.pass hverdict
    cases hpass
  · have hlimit : "VT rate limit exceeded" = "unknown to VirusTotal" := hsummary
    exact absurd hlimit (by decide)
  · have hfirst := congrArg (fun summary ↦ summary.toList.head?) hsummary
    have hlabel : ("VT unreachable: " ++ error).toList.head? = some 'u' := hfirst
    rw [String.toList_append, List.head?_append] at hlabel
    have hletter : some 'V' = some 'u' := hlabel
    exact absurd hletter (by decide)

/-! ### Histories -/

/-- A lookup: the digest, the time and how the API answers then. -/
structure Lookup where
  sha256 : String
  now : ℕ
  api : String → ApiAnswer

/-- What comes of a lookup: the verdict, and the answer of the API when it was asked. -/
structure Reply where
  response : VtResponse
  asked : Option ApiAnswer

/-- One lookup. -/
def VtClient.serve (client : VtClient) (lookup : Lookup) : VtClient × Reply :=
  let looked := client.lookup lookup.api lookup.sha256 lookup.now
  let asked :=
    match client.cached lookup.sha256 lookup.now with
    | some _ => none
    | none => some (lookup.api (client.apiUrl ++ "/" ++ lookup.sha256))
  (looked.1, ⟨looked.2, asked⟩)

/-- The time of the last lookup. -/
def clock (history : List (Lookup × Reply)) : ℕ :=
  (history.getLast?.map fun entry ↦ entry.1.now).getD 0

/-- The lookups from the start of the client, under a clock that does not go back. -/
abbrev LookupRun (start : VtClient) : List (Lookup × Reply) → VtClient → Prop :=
  Run VtClient.serve (fun history _ lookup ↦ clock history ≤ lookup.now) start

/-- An answer that was received: its time, and what was said about it first. -/
structure Received where
  time : ℕ
  answer : ApiAnswer
  response : VtResponse

/-- The definitive answer that was received at a lookup, with its digest. -/
def receivedOf (entry : Lookup × Reply) : Option (String × Received) :=
  (entry.2.asked.filter ApiAnswer.isDefinitive).map fun answer ↦
    (entry.1.sha256, ⟨entry.1.now, answer, entry.2.response⟩)

/-- The last definitive answer about a digest. -/
def lastDefinitive (history : List (Lookup × Reply)) (sha256 : String) : Option Received :=
  lastWrite (history.filterMap receivedOf) sha256

/-- What is kept of an answer. -/
def Received.entry (received : Received) : CacheEntry :=
  ⟨received.response.detections, received.response.summary, received.time⟩

/-- The last definitive answer about the digest of a lookup was received less than the time ago
that entries are kept. -/
def IsKept (start : VtClient) (history : List (Lookup × Reply)) (lookup : Lookup)
    (last : Received) : Prop :=
  lastDefinitive history lookup.sha256 = some last ∧ lookup.now - last.time < start.cacheTtl

theorem receivedOf_of_definitive (lookup : Lookup) {answer : ApiAnswer}
    (hdefinitive : answer.isDefinitive = true) (response : VtResponse) :
    receivedOf (lookup, ⟨response, some answer⟩) =
      some (lookup.sha256, ⟨lookup.now, answer, response⟩) := by
  rw [receivedOf, Option.filter_some, if_pos hdefinitive, Option.map_some]

theorem receivedOf_of_not_definitive (lookup : Lookup) {answer : ApiAnswer}
    (hdefinitive : ¬ answer.isDefinitive = true) (response : VtResponse) :
    receivedOf (lookup, ⟨response, some answer⟩) = none := by
  rw [receivedOf, Option.filter_some, if_neg hdefinitive, Option.map_none]

@[simp] theorem clock_append (history : List (Lookup × Reply)) (entry : Lookup × Reply) :
    clock (history ++ [entry]) = entry.1.now := by
  simp [clock]

/-! ### What is kept -/

/-- An entry is too old at a time. -/
def VtClient.Expired (client : VtClient) (now : ℕ) (entry : CacheEntry) : Prop :=
  ¬ now - entry.inserted < client.cacheTtl

theorem VtClient.Expired.mono {client : VtClient} {now later : ℕ} (hlater : now ≤ later)
    {entry : CacheEntry} (hexpired : client.Expired now entry) : client.Expired later entry := by
  rw [VtClient.Expired] at hexpired ⊢
  omega

/-- The client after a history: the settings are those of the start, the cache mirrors the
definitive answers, and what was said about these is the verdict of the start. -/
structure Follows (start : VtClient) (history : List (Lookup × Reply)) (client : VtClient) :
    Prop where
  settings : ∃ cache, client = { start with cache := cache }
  mirrors : Mirrors (start.Expired (clock history)) client.cache
    ((history.filterMap receivedOf).map (Prod.map id Received.entry))
  verdicts : ∀ write ∈ history.filterMap receivedOf,
    write.2.response = start.verdict write.2.answer

/-- What the cache has for a digest is the last definitive answer, until it is too old. -/
theorem Follows.cached_eq {start client : VtClient} {history : List (Lookup × Reply)}
    (hfollows : Follows start history client) {now : ℕ} (hclock : clock history ≤ now)
    (sha256 : String) :
    client.cached sha256 now = ((lastDefinitive history sha256).map Received.entry).filter
      fun entry ↦ now - entry.inserted < start.cacheTtl := by
  have hmirrors := hfollows.mirrors.mono fun _ ↦ VtClient.Expired.mono hclock
  have hserved := hmirrors.filter_lookup
    (fun entry ↦ decide (now - entry.inserted < start.cacheTtl))
    (fun entry hexpired ↦ decide_eq_false hexpired) sha256
  obtain ⟨cache, rfl⟩ := hfollows.settings
  rw [lastDefinitive, ← lastWrite_map, ← hserved]
  rfl

theorem follows_nil {start : VtClient} (hempty : start.cache = ∅) : Follows start [] start where
  settings := ⟨start.cache, rfl⟩
  mirrors := by
    rw [hempty]
    exact mirrors_empty _
  verdicts := by simp

theorem serve_of_cached {client : VtClient} {lookup : Lookup} {entry : CacheEntry}
    (hcached : client.cached lookup.sha256 lookup.now = some entry) :
    client.serve lookup = (client,
      ⟨⟨entry.detections < client.blockThreshold, entry.detections, entry.summary⟩, none⟩) := by
  rw [VtClient.serve, lookup_of_cached hcached, hcached]

/-- The API is asked, and a definitive answer takes the place of what is too old. -/
theorem serve_of_not_cached {client : VtClient} {lookup : Lookup}
    (hnone : client.cached lookup.sha256 lookup.now = none) :
    let asked := lookup.api (client.apiUrl ++ "/" ++ lookup.sha256)
    let erased := { client with cache := client.cache.erase lookup.sha256 }
    client.serve lookup = (
      if asked.isDefinitive then
        erased.insertCache lookup.sha256 (client.verdict asked).detections
          (client.verdict asked).summary lookup.now
      else erased, ⟨client.verdict asked, some asked⟩) := by
  intro asked erased
  have hasked : erased.verdict asked = client.verdict asked := verdict_withCache client _ asked
  rw [VtClient.serve, lookup_of_not_cached hnone, hnone, snd_query, fst_query]
  simp only [← hasked]
  rfl

/-- A lookup without a definitive answer adds nothing to what is kept. -/
theorem follows_append {start client : VtClient} {history : List (Lookup × Reply)}
    {entry : Lookup × Reply} (hnone : receivedOf entry = none)
    (hsettings : ∃ cache, client = { start with cache := cache })
    (hmirrors : Mirrors (start.Expired entry.1.now) client.cache
      ((history.filterMap receivedOf).map (Prod.map id Received.entry)))
    (hverdicts : ∀ write ∈ history.filterMap receivedOf,
      write.2.response = start.verdict write.2.answer) :
    Follows start (history ++ [entry]) client := by
  have hlog : (history ++ [entry]).filterMap receivedOf = history.filterMap receivedOf := by
    rw [List.filterMap_append, List.filterMap_cons, hnone, List.filterMap_nil, List.append_nil]
  refine ⟨hsettings, ?_, ?_⟩
  · rw [clock_append, hlog]
    exact hmirrors
  · rw [hlog]
    exact hverdicts

/-- One lookup keeps the client with its history. -/
theorem Follows.serve {start client : VtClient} {history : List (Lookup × Reply)}
    (hfollows : Follows start history client) {lookup : Lookup}
    (hclock : clock history ≤ lookup.now) :
    Follows start (history ++ [(lookup, (client.serve lookup).2)]) (client.serve lookup).1 := by
  have hmirrors := hfollows.mirrors.mono fun _ ↦ VtClient.Expired.mono hclock
  have hverdicts := hfollows.verdicts
  rcases hcached : client.cached lookup.sha256 lookup.now with _ | entry
  · obtain ⟨cache, rfl⟩ := hfollows.settings
    have hold : ∀ entry, cache.lookup lookup.sha256 = some entry →
        start.Expired lookup.now entry := by
      intro entry hentry hfresh
      have hkept : some entry = none := by
        rw [← hcached, VtClient.cached, hentry]
        exact (if_pos (decide_eq_true hfresh)).symm
      cases hkept
    have herased := hmirrors.erase hold
    rw [serve_of_not_cached hcached]
    simp only [verdict_withCache]
    generalize lookup.api (start.apiUrl ++ "/" ++ lookup.sha256) = answer
    by_cases hdefinitive : answer.isDefinitive = true
    · have hreceived := receivedOf_of_definitive lookup hdefinitive (start.verdict answer)
      rw [if_pos hdefinitive]
      refine ⟨⟨_, rfl⟩, ?_, ?_⟩
      · rw [clock_append, List.filterMap_append, List.filterMap_cons, hreceived, List.map_append]
        exact herased.insert lookup.sha256 _
      · intro write hwrite
        rw [List.filterMap_append, List.mem_append, List.filterMap_cons, hreceived] at hwrite
        rcases hwrite with hbefore | hnew
        · exact hverdicts write hbefore
        · rw [List.mem_singleton.mp hnew]
    · have hreceived := receivedOf_of_not_definitive lookup hdefinitive (start.verdict answer)
      rw [if_neg hdefinitive]
      exact follows_append hreceived ⟨_, rfl⟩ herased hverdicts
  · rw [serve_of_cached hcached]
    exact follows_append rfl hfollows.settings hmirrors hverdicts

theorem follows_of_run {start client : VtClient} (hempty : start.cache = ∅)
    {history : List (Lookup × Reply)} (hrun : LookupRun start history client) :
    Follows start history client :=
  hrun.invariant (follows_nil hempty) fun _ _ _ _ hfollows hclock ↦ hfollows.serve hclock

/-! ### Transparency -/

/-- An entry of a history is transparent: it says what the API says then, or what was said first
about an answer that is kept, and without the API it is about such an answer. -/
structure IsTransparent (start : VtClient) (history : List (Lookup × Reply))
    (entry : Lookup × Reply) : Prop where
  response : entry.2.response = (start.query entry.1.api entry.1.sha256 entry.1.now).2 ∨
    ∃ last, IsKept start history entry.1 last ∧ entry.2.response = last.response
  definitive : entry.2.asked = none → ∃ last, IsKept start history entry.1 last ∧
    entry.2.response.detections = last.response.detections ∧
      entry.2.response.summary = last.response.summary

/-- A digest is looked up again while it is kept that it is unknown, and no number of detections is
below the threshold. -/
def RepeatsUnknown (start : VtClient) (history : List (Lookup × Reply)) (lookup : Lookup) : Prop :=
  start.blockThreshold = 0 ∧ ∃ last, IsKept start history lookup last ∧ last.answer = .notFound

/-- What the cache has is the entry of an answer that is kept. -/
theorem Follows.cached_eq_some_iff {start client : VtClient} {history : List (Lookup × Reply)}
    (hfollows : Follows start history client) {lookup : Lookup}
    (hclock : clock history ≤ lookup.now) (entry : CacheEntry) :
    client.cached lookup.sha256 lookup.now = some entry ↔
      ∃ last, IsKept start history lookup last ∧ last.entry = entry := by
  rw [hfollows.cached_eq hclock, Option.filter_eq_some_iff, Option.map_eq_some_iff]
  constructor
  · rintro ⟨⟨last, hlast, rfl⟩, hfresh⟩
    exact ⟨last, ⟨hlast, of_decide_eq_true hfresh⟩, rfl⟩
  · rintro ⟨last, ⟨hlast, hfresh⟩, rfl⟩
    exact ⟨⟨last, hlast, rfl⟩, decide_eq_true hfresh⟩

/-- The verdict on a kept answer is the first one, unless the answer is that a digest is unknown and
the threshold is zero. -/
theorem verdict_again (client : VtClient) {answer : ApiAnswer}
    (hdefinitive : answer.isDefinitive = true)
    (hunknown : ¬ (client.blockThreshold = 0 ∧ answer = .notFound)) :
    (client.verdict answer).pass =
      decide ((client.verdict answer).detections < client.blockThreshold) := by
  rcases answer with (_ | body) | _ | _ | error
  · cases hdefinitive
  · rfl
  · have hthreshold : client.blockThreshold ≠ 0 := fun hzero ↦ hunknown ⟨hzero, rfl⟩
    have hpositive : 0 < client.blockThreshold := UInt32.pos_iff_ne_zero.mpr hthreshold
    exact (decide_eq_true hpositive).symm
  · cases hdefinitive
  · cases hdefinitive

/-- What is kept is a definitive answer, and its verdict was said first. -/
theorem Follows.kept {start client : VtClient} {history : List (Lookup × Reply)}
    (hfollows : Follows start history client) {lookup : Lookup} {last : Received}
    (hkept : IsKept start history lookup last) :
    last.answer.isDefinitive = true ∧ last.response = start.verdict last.answer := by
  have hmem := mem_of_lastWrite hkept.1
  refine ⟨?_, hfollows.verdicts _ hmem⟩
  obtain ⟨entry, -, hreceived⟩ := List.mem_filterMap.mp hmem
  obtain ⟨answer, hanswer, hpair⟩ := Option.map_eq_some_iff.mp hreceived
  rw [← (Prod.mk.inj hpair).2]
  exact (Option.filter_eq_some_iff.mp hanswer).2

/-- A lookup is transparent exactly when it does not repeat that a digest is unknown. -/
theorem Follows.isTransparent_iff {start client : VtClient} {history : List (Lookup × Reply)}
    (hfollows : Follows start history client) {lookup : Lookup}
    (hclock : clock history ≤ lookup.now) :
    IsTransparent start history (lookup, (client.serve lookup).2) ↔
      ¬ RepeatsUnknown start history lookup := by
  have hcached := hfollows.cached_eq_some_iff hclock
  obtain ⟨cache, hclient⟩ := hfollows.settings
  have hthreshold : client.blockThreshold = start.blockThreshold := by rw [hclient]
  rcases hfound : client.cached lookup.sha256 lookup.now with _ | entry
  · -- Nothing is kept, so the API is asked.
    have hasked := serve_of_not_cached hfound
    refine iff_of_true ⟨.inl ?_, fun hnone ↦ ?_⟩ ?_
    · rw [hasked, snd_query, hclient, verdict_withCache]
    · rw [hasked] at hnone
      cases hnone
    · rintro ⟨-, last, hkept, -⟩
      have hsome := (hcached last.entry).mpr ⟨last, hkept, rfl⟩
      rw [hfound] at hsome
      cases hsome
  · obtain ⟨last, hkept, rfl⟩ := (hcached entry).mp hfound
    obtain ⟨hdefinitive, hverdict⟩ := hfollows.kept hkept
    rw [serve_of_cached hfound, hthreshold]
    constructor
    · rintro htransparent ⟨hzero, other, hother, hunknown⟩
      obtain rfl : other = last := Option.some.inj (hother.1.symm.trans hkept.1)
      rw [hunknown] at hverdict
      -- The refusal is neither a verdict on an answer nor the one that was said first.
      have hrefused : (⟨other.entry.detections < start.blockThreshold, other.entry.detections,
          other.entry.summary⟩ : VtResponse) = ⟨false, 0, "unknown to VirusTotal"⟩ := by
        rw [hzero, Received.entry, hverdict]
        rfl
      rcases htransparent.response with hfresh | ⟨first, hfirst, hsaid⟩
      · rw [snd_query] at hfresh
        exact verdict_ne_unknown start _ (hfresh.symm.trans hrefused)
      · obtain rfl : first = other := Option.some.inj (hfirst.1.symm.trans hother.1)
        rw [hrefused, hverdict] at hsaid
        have hpass : false = true := congrArg VtResponse.pass hsaid
        cases hpass
    · intro hrepeats
      refine ⟨.inr ⟨last, hkept, ?_⟩, fun _ ↦ ⟨last, hkept, rfl, rfl⟩⟩
      have hpass := verdict_again start hdefinitive fun hboth ↦
        hrepeats ⟨hboth.1, last, hkept, hboth.2⟩
      rw [← hverdict] at hpass
      rw [Received.entry, ← hpass]

/-- Every lookup of a run is transparent if and only if none repeats under a threshold of zero that
a digest is unknown. -/
theorem transparent_iff {apiUrl : String} {failOpen : Bool} {blockThreshold : UInt32}
    {cacheTtlSecs : UInt64} {history : List (Lookup × Reply)} {client : VtClient}
    (hrun : LookupRun (.new apiUrl failOpen blockThreshold cacheTtlSecs) history client) :
    (∀ front entry back, history = front ++ entry :: back →
      IsTransparent (.new apiUrl failOpen blockThreshold cacheTtlSecs) front entry) ↔
    ∀ front entry back, history = front ++ entry :: back →
      ¬ RepeatsUnknown (.new apiUrl failOpen blockThreshold cacheTtlSecs) front entry.1 := by
  have hentry : ∀ front entry back, history = front ++ entry :: back →
      (IsTransparent (.new apiUrl failOpen blockThreshold cacheTtlSecs) front entry ↔
        ¬ RepeatsUnknown (.new apiUrl failOpen blockThreshold cacheTtlSecs) front entry.1) := by
    rintro front ⟨lookup, reply⟩ back hhistory
    obtain ⟨reached, hreached, hclock, hserved⟩ := hrun.split hhistory
    have hreply : reply = (reached.serve lookup).2 := hserved
    rw [hreply]
    exact (follows_of_run rfl hreached).isTransparent_iff hclock
  constructor
  · intro htransparent front entry back hhistory
    exact (hentry front entry back hhistory).mp (htransparent front entry back hhistory)
  · intro hrepeats front entry back hhistory
    exact (hentry front entry back hhistory).mpr (hrepeats front entry back hhistory)

/-- Two lookups of one digest in a second, which the API does not know. -/
def unknownLookups : List Lookup :=
  [⟨zeroDigest, 0, fun _ ↦ .notFound⟩, ⟨zeroDigest, 1000000000, fun _ ↦ .notFound⟩]

/-- What comes of the two lookups under a threshold. -/
def unknownHistory (blockThreshold : UInt32) : List (Lookup × Reply) × VtClient :=
  execute VtClient.serve (.new "https://proxy" true blockThreshold 3600) unknownLookups

theorem run_unknownHistory (blockThreshold : UInt32) :
    LookupRun (.new "https://proxy" true blockThreshold 3600) (unknownHistory blockThreshold).1
      (unknownHistory blockThreshold).2 :=
  run_execute unknownLookups ⟨Nat.zero_le _, Nat.zero_le _, trivial⟩

theorem transparent_iff_unknown :
    (∀ front entry back, (unknownHistory 3).1 = front ++ entry :: back →
      IsTransparent (.new "https://proxy" true 3 3600) front entry) ↔
    ∀ front entry back, (unknownHistory 3).1 = front ++ entry :: back →
      ¬ RepeatsUnknown (.new "https://proxy" true 3 3600) front entry.1 :=
  transparent_iff (run_unknownHistory 3)

/-- Under a threshold of zero the first lookup lets the file pass and the second, which finds the
same answer in the cache, refuses it. -/
theorem not_transparent_unknown :
    (unknownHistory 0).1.map (fun entry ↦ entry.2.response) =
        [⟨true, 0, "unknown to VirusTotal"⟩, ⟨false, 0, "unknown to VirusTotal"⟩] ∧
      LookupRun (.new "https://proxy" true 0 3600) (unknownHistory 0).1 (unknownHistory 0).2 ∧
      ¬ ∀ front entry back, (unknownHistory 0).1 = front ++ entry :: back →
        IsTransparent (.new "https://proxy" true 0 3600) front entry := by
  refine ⟨rfl, run_unknownHistory 0, fun htransparent ↦ ?_⟩
  have hhistory : (unknownHistory 0).1 =
      [(⟨zeroDigest, 0, fun _ ↦ .notFound⟩,
        ⟨⟨true, 0, "unknown to VirusTotal"⟩, some .notFound⟩)] ++
      (⟨zeroDigest, 1000000000, fun _ ↦ .notFound⟩,
        ⟨⟨false, 0, "unknown to VirusTotal"⟩, none⟩) :: [] := rfl
  have hsecond := htransparent _ _ _ hhistory
  rcases hsecond.response with hfresh | ⟨last, hlast, hsaid⟩
  · have hpass : false = true := congrArg VtResponse.pass hfresh
    cases hpass
  · have hfirst : some ⟨0, .notFound, ⟨true, 0, "unknown to VirusTotal"⟩⟩ = some last := hlast.1
    rw [← Option.some.inj hfirst] at hsaid
    have hpass : false = true := congrArg VtResponse.pass hsaid
    cases hpass

end Keysas.VirusTotal
