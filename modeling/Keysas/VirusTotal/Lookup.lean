import Mathlib.Data.Nat.Digits.Defs
import Keysas.Backend.FileListing
import Keysas.Runs.HistoryRun
import Keysas.Transit.SideDaemons

/-!
# The lookup daemon

`VtClient.lookup` asks the VirusTotal API for a digest and keeps the answer for a while. When the
API cannot be asked the configuration decides whether the file passes, and the summary is the text
of the error. `vtServe` is what the daemon does with one connection: it reads the request into a
buffer of 256 bytes, looks the digest up and answers, and transit reads the answer into 512 bytes.

`survives_iff` says which refusals reach transit. What the daemon keeps is short
(`shortSummaries_of_run`), and so is everything that it says itself. The text of an error is not
bounded, and behind one of more than 491 bytes transit cannot decode the answer and lets the file
pass.
-/

set_option autoImplicit false
set_option relaxedAutoImplicit false

namespace Keysas.VirusTotal

open Backend Crypto Runs RustStd Store Transit Wire Wire.PrefixCodec Wire.Bincode

/-! ### The client -/

/-- `CacheEntry`, with its time in nanoseconds. -/
structure CacheEntry where
  detections : UInt32
  summary : String
  inserted : ℕ

/-- `VtClient`. The key and the time limit of a request are part of the API that answers it. -/
structure VtClient where
  /-- The base of the addresses of files, without a slash at its end. -/
  apiUrl : String
  /-- Let a file pass when the API cannot be asked. -/
  failOpen : Bool
  /-- How many detections block a file. -/
  blockThreshold : UInt32
  /-- How many nanoseconds an entry is kept. -/
  cacheTtl : ℕ
  cache : Table String CacheEntry

/-- `VtClient::new`, with the time that entries are kept in seconds. -/
def VtClient.new (apiUrl : String) (failOpen : Bool) (blockThreshold : UInt32)
    (cacheTtlSecs : UInt64) : VtClient where
  apiUrl := apiUrl
  failOpen := failOpen
  blockThreshold := blockThreshold
  cacheTtl := cacheTtlSecs.toNat * 1000000000
  cache := ∅

/-- What a request to the API comes to. -/
inductive ApiAnswer where
  /-- A response, with its JSON value when its body has one. -/
  | ok (body : Option Json)
  | notFound
  | tooManyRequests
  /-- Another status or a failure of the connection, with the text of the error. -/
  | failed (error : String)

/-- `insert_cache`. -/
def VtClient.insertCache (client : VtClient) (sha256 : String) (detections : UInt32)
    (summary : String) (now : ℕ) : VtClient :=
  { client with cache := client.cache.insert sha256 ⟨detections, summary, now⟩ }

/-- A number of engines in the statistics of a response, cut to 32 bits. -/
def engineCount (body : Json) (kind : String) : UInt32 :=
  let stats := ((body.get "data").get "attributes").get "last_analysis_stats"
  ((stats.get kind).asU64.getD 0).toUInt32

/-- The summary of a response. The sum wraps around. -/
def summaryOf (malicious suspicious harmless undetected : UInt32) : String :=
  let total := malicious + suspicious + harmless + undetected
  if 0 < malicious then
    toString malicious.toNat ++ " malicious, " ++ toString suspicious.toNat ++ " suspicious / " ++
      toString total.toNat ++ " engines"
  else if 0 < suspicious then
    toString suspicious.toNat ++ " suspicious / " ++ toString total.toNat ++ " engines"
  else "clean (" ++ toString total.toNat ++ " engines)"

/-- The part of `lookup` that asks the API. -/
def VtClient.query (client : VtClient) (api : String → ApiAnswer) (sha256 : String) (now : ℕ) :
    VtClient × VtResponse :=
  match api (client.apiUrl ++ "/" ++ sha256) with
  | .notFound =>
    (client.insertCache sha256 0 "unknown to VirusTotal" now, ⟨true, 0, "unknown to VirusTotal"⟩)
  | .tooManyRequests => (client, ⟨client.failOpen, 0, "VT rate limit exceeded"⟩)
  | .failed error => (client, ⟨client.failOpen, 0, "VT unreachable: " ++ error⟩)
  | .ok none => (client, ⟨client.failOpen, 0, "VT response parse error"⟩)
  | .ok (some body) =>
    let malicious := engineCount body "malicious"
    let summary := summaryOf malicious (engineCount body "suspicious")
      (engineCount body "harmless") (engineCount body "undetected")
    (client.insertCache sha256 malicious summary now,
      ⟨malicious < client.blockThreshold, malicious, summary⟩)

/-- `VtClient::lookup`: the client afterwards and the verdict. -/
def VtClient.lookup (client : VtClient) (api : String → ApiAnswer) (sha256 : String) (now : ℕ) :
    VtClient × VtResponse :=
  match client.cache.lookup sha256 with
  | none => client.query api sha256 now
  | some entry =>
    if now - entry.inserted < client.cacheTtl then
      (client, ⟨entry.detections < client.blockThreshold, entry.detections, entry.summary⟩)
    else { client with cache := client.cache.erase sha256 }.query api sha256 now

/-! ### The daemon -/

/-- A connection: what is read from it, nothing when that fails, the time, and how the API answers
then. -/
structure Connection where
  message : List UInt8
  now : ℕ
  api : String → ApiAnswer

/-- One round of the main loop: the bytes that are sent back, if any. -/
def vtServe (client : VtClient) (connection : Connection) : VtClient × Option (List UInt8) :=
  if connection.message = [] then (client, none)
  else
    match VtRequest.codec.decode (connection.message.take 256) with
    | none => (client, VtResponse.codec.encode ⟨true, 0, "decode error"⟩)
    | some (request, _) =>
      let looked := client.lookup connection.api request.sha256 connection.now
      (looked.1, VtResponse.codec.encode looked.2)

/-- The runs of the daemon from its start. -/
abbrev DaemonRun (start : VtClient) :
    List (Connection × Option (List UInt8)) → VtClient → Prop :=
  Run vtServe (fun _ _ _ ↦ True) start

/-- The daemon, reachable, as transit sees it. -/
def vtDaemon (client : VtClient) (api : String → ApiAnswer) (now : ℕ) : Peer where
  address := true
  connect := true
  send := true
  reply request := (vtServe client ⟨request, now, api⟩).2

/-! ### Sizes -/

theorem size_request (sha256 : String) : VtRequest.codec.size ⟨sha256⟩ = stringSize sha256 :=
  size_string sha256

theorem request_encodesBelow {bound : ℕ} (hbound : bound ≤ 2 ^ 64) :
    VtRequest.codec.EncodesBelow bound :=
  imap_encodesBelow (string_encodesBelow hbound) _ _ _

/-- The request for a digest of 64 digits takes 65 bytes. -/
theorem size_request_hexEncode {digest : List UInt8} (hdigest : digest.length = 32) :
    VtRequest.codec.size ⟨hexEncode digest⟩ = 65 := by
  have hbytes : (hexEncode digest).utf8ByteSize = 64 := by
    rw [utf8ByteSize_hexEncode, hdigest]
  rw [size_request, stringSize, hbytes]
  rfl

theorem size_response (response : VtResponse) :
    VtResponse.codec.size response =
      1 + varintSize response.detections.toNat + stringSize response.summary := by
  have hsize : VtResponse.codec.size response =
      1 + (u32.size response.detections + string.size response.summary) := rfl
  rw [hsize, size_u32, size_string, Nat.add_assoc]

/-- A summary that fits the answer to transit whatever the number of detections is. -/
def IsShort (summary : String) : Prop :=
  summary.utf8ByteSize ≤ 400

instance : DecidablePred IsShort := fun _ ↦ inferInstanceAs (Decidable (_ ≤ _))

theorem size_response_le {response : VtResponse} (hshort : IsShort response.summary) :
    VtResponse.codec.size response ≤ 512 := by
  have hdetections : varintSize response.detections.toNat ≤ 9 := varintSize_le _
  have hsummary : varintSize response.summary.utf8ByteSize ≤ 9 := varintSize_le _
  rw [IsShort] at hshort
  rw [size_response, stringSize]
  omega

/-- A text has at most four bytes for each of its characters. -/
theorem utf8ByteSize_ofList_le (characters : List Char) :
    (String.ofList characters).utf8ByteSize ≤ 4 * characters.length := by
  induction characters with
  | nil => simp
  | cons character characters ih =>
    have hsize : character.utf8Size ≤ 4 := character.utf8Size_le_four
    rw [Base64.utf8ByteSize_ofList_cons, List.length_cons]
    omega

/-- A number of 32 bits has at most ten digits. -/
theorem utf8ByteSize_count (count : UInt32) : (toString count.toNat).utf8ByteSize ≤ 40 := by
  have hlimit : count.toNat < 10 ^ 10 := count.toNat_lt.trans (by decide)
  have hdigits : (Nat.toDigits 10 count.toNat).length ≤ 10 :=
    Nat.toDigits_length 10 count.toNat 10 (by decide) hlimit
  have hbytes := utf8ByteSize_ofList_le (Nat.toDigits 10 count.toNat)
  show (String.ofList (Nat.toDigits 10 count.toNat)).utf8ByteSize ≤ 40
  omega

/-- What the daemon says about the engines is short. -/
theorem isShort_summaryOf (malicious suspicious harmless undetected : UInt32) :
    IsShort (summaryOf malicious suspicious harmless undetected) := by
  have hmalicious := utf8ByteSize_count malicious
  have hsuspicious := utf8ByteSize_count suspicious
  have htotal := utf8ByteSize_count (malicious + suspicious + harmless + undetected)
  have hfirst : " malicious, ".utf8ByteSize = 12 := rfl
  have hsecond : " suspicious / ".utf8ByteSize = 14 := rfl
  have hthird : " engines".utf8ByteSize = 8 := rfl
  have hclean : "clean (".utf8ByteSize = 7 := rfl
  have hlast : " engines)".utf8ByteSize = 9 := rfl
  unfold IsShort summaryOf
  split_ifs <;> simp only [String.utf8ByteSize_append] <;> omega

/-- The error of a request that is not answered otherwise fits exactly when its text has at most 491
bytes. -/
theorem size_unreachable_le_iff (pass : Bool) (error : String) :
    VtResponse.codec.size ⟨pass, 0, "VT unreachable: " ++ error⟩ ≤ 512 ↔
      error.utf8ByteSize ≤ 491 := by
  have hlabel : "VT unreachable: ".utf8ByteSize = 16 := rfl
  have hbytes : ("VT unreachable: " ++ error).utf8ByteSize = 16 + error.utf8ByteSize := by
    rw [String.utf8ByteSize_append, hlabel]
  have hnone : varintSize (0 : UInt32).toNat = 1 := rfl
  rw [size_response, stringSize, hbytes, hnone, varintSize]
  split_ifs <;> omega

/-! ### Lookups -/

/-- What is kept for a digest and not too old. -/
def VtClient.cached (client : VtClient) (sha256 : String) (now : ℕ) : Option CacheEntry :=
  (client.cache.lookup sha256).filter fun entry ↦ now - entry.inserted < client.cacheTtl

/-- Everything that is kept is short. -/
def ShortSummaries (client : VtClient) : Prop :=
  AllEntries (fun _ entry ↦ IsShort entry.summary) client.cache

/-- The API is asked for a digest, and the answer is an error with a text. -/
def VtClient.FailsWith (client : VtClient) (api : String → ApiAnswer) (sha256 : String) (now : ℕ)
    (error : String) : Prop :=
  client.cached sha256 now = none ∧ api (client.apiUrl ++ "/" ++ sha256) = .failed error

/-- What is kept and not too old is said again. -/
theorem lookup_of_cached {client : VtClient} {sha256 : String} {now : ℕ} {entry : CacheEntry}
    (hcached : client.cached sha256 now = some entry) (api : String → ApiAnswer) :
    client.lookup api sha256 now =
      (client, ⟨entry.detections < client.blockThreshold, entry.detections, entry.summary⟩) := by
  obtain ⟨hlookup, hfresh⟩ := Option.filter_eq_some_iff.mp hcached
  rw [VtClient.lookup, hlookup]
  exact if_pos (of_decide_eq_true hfresh)

/-- The API is asked after what is too old has been removed. -/
theorem lookup_of_not_cached {client : VtClient} {sha256 : String} {now : ℕ}
    (hnone : client.cached sha256 now = none) (api : String → ApiAnswer) :
    client.lookup api sha256 now =
      { client with cache := client.cache.erase sha256 }.query api sha256 now := by
  rw [VtClient.lookup]
  rcases hlookup : client.cache.lookup sha256 with _ | entry
  · have hmissing : sha256 ∉ client.cache.entries.keys := AList.lookup_eq_none.mp hlookup
    have herase : client.cache.erase sha256 = client.cache :=
      AList.ext (List.kerase_of_notMem_keys hmissing)
    rw [herase]
  · rw [VtClient.cached, hlookup] at hnone
    have hold : ¬ now - entry.inserted < client.cacheTtl := by simpa using hnone
    exact if_neg hold

/-- A lookup says what is kept, or asks the API after it has removed what is too old. -/
theorem lookup_cases (client : VtClient) (api : String → ApiAnswer) (sha256 : String) (now : ℕ) :
    (∃ entry, client.cached sha256 now = some entry ∧ client.cache.lookup sha256 = some entry ∧
      client.lookup api sha256 now =
        (client, ⟨entry.detections < client.blockThreshold, entry.detections, entry.summary⟩)) ∨
    client.cached sha256 now = none ∧
      ∃ before : VtClient, before.apiUrl = client.apiUrl ∧
        (ShortSummaries client → ShortSummaries before) ∧
        client.lookup api sha256 now = before.query api sha256 now := by
  rcases hcached : client.cached sha256 now with _ | entry
  · refine .inr ⟨rfl, { client with cache := client.cache.erase sha256 }, rfl, fun hshort ↦ ?_,
      lookup_of_not_cached hcached api⟩
    exact hshort.assign (assigns_erase client.cache sha256) nofun fun _ _ _ hentry ↦ hentry
  · exact .inl ⟨entry, rfl, (Option.filter_eq_some_iff.mp hcached).1, lookup_of_cached hcached api⟩

theorem ShortSummaries.insertCache {client : VtClient} (hshort : ShortSummaries client)
    (sha256 : String) (detections : UInt32) {summary : String} (hsummary : IsShort summary)
    (now : ℕ) : ShortSummaries (client.insertCache sha256 detections summary now) := by
  refine AllEntries.assign hshort (assigns_insert client.cache sha256 _) ?_
    fun _ _ _ hentry ↦ hentry
  rintro entry ⟨rfl⟩
  exact hsummary

/-- The API is asked: what is kept stays short, and what is said is short or is the text of an
error. -/
theorem query_spec {client : VtClient} (api : String → ApiAnswer) (sha256 : String) (now : ℕ)
    (hshort : ShortSummaries client) :
    ShortSummaries (client.query api sha256 now).1 ∧
      ((∃ error, api (client.apiUrl ++ "/" ++ sha256) = .failed error ∧
        (client.query api sha256 now).2 = ⟨client.failOpen, 0, "VT unreachable: " ++ error⟩) ∨
      (∀ error, api (client.apiUrl ++ "/" ++ sha256) ≠ .failed error) ∧
        IsShort (client.query api sha256 now).2.summary) := by
  rw [VtClient.query]
  rcases hanswer : api (client.apiUrl ++ "/" ++ sha256) with (_ | body) | _ | _ | error
  · have hsummary : IsShort "VT response parse error" := by decide
    exact ⟨hshort, .inr ⟨nofun, hsummary⟩⟩
  · have hsummary := isShort_summaryOf (engineCount body "malicious")
      (engineCount body "suspicious") (engineCount body "harmless")
      (engineCount body "undetected")
    exact ⟨hshort.insertCache sha256 _ hsummary now, .inr ⟨nofun, hsummary⟩⟩
  · have hsummary : IsShort "unknown to VirusTotal" := by decide
    exact ⟨hshort.insertCache sha256 0 hsummary now, .inr ⟨nofun, hsummary⟩⟩
  · have hsummary : IsShort "VT rate limit exceeded" := by decide
    exact ⟨hshort, .inr ⟨nofun, hsummary⟩⟩
  · exact ⟨hshort, .inl ⟨error, rfl, rfl⟩⟩

theorem ShortSummaries.lookup {client : VtClient} (hshort : ShortSummaries client)
    (api : String → ApiAnswer) (sha256 : String) (now : ℕ) :
    ShortSummaries (client.lookup api sha256 now).1 := by
  rcases lookup_cases client api sha256 now with
    ⟨entry, -, -, hlookup⟩ | ⟨-, before, -, hbefore, hlookup⟩
  · rw [hlookup]
    exact hshort
  · rw [hlookup]
    exact (query_spec api sha256 now (hbefore hshort)).1

/-- A verdict fits the answer to transit unless it is about an error with a long text. -/
theorem size_lookup_le_iff {client : VtClient} (hshort : ShortSummaries client)
    (api : String → ApiAnswer) (sha256 : String) (now : ℕ) :
    VtResponse.codec.size (client.lookup api sha256 now).2 ≤ 512 ↔
      ∀ error, client.FailsWith api sha256 now error → error.utf8ByteSize ≤ 491 := by
  rcases lookup_cases client api sha256 now with
    ⟨entry, hcached, hentry, hlookup⟩ | ⟨hnone, before, hurl, hbefore, hlookup⟩
  · rw [hlookup]
    refine iff_of_true (size_response_le (hshort sha256 entry hentry)) ?_
    rintro error ⟨hnone, -⟩
    rw [hcached] at hnone
    cases hnone
  · rw [hlookup]
    rcases (query_spec api sha256 now (hbefore hshort)).2 with
      ⟨error, hanswer, hverdict⟩ | ⟨hanswer, hsummary⟩
    · rw [hverdict, size_unreachable_le_iff]
      rw [hurl] at hanswer
      constructor
      · rintro hbytes other ⟨-, hother⟩
        rw [hanswer] at hother
        cases hother
        exact hbytes
      · intro hall
        exact hall error ⟨hnone, hanswer⟩
    · refine iff_of_true (size_response_le hsummary) ?_
      rintro error ⟨-, hfailed⟩
      rw [hurl] at hanswer
      exact absurd hfailed (hanswer error)

/-! ### Connections -/

/-- What the daemon keeps is short. -/
theorem shortSummaries_of_run {apiUrl : String} {failOpen : Bool} {blockThreshold : UInt32}
    {cacheTtlSecs : UInt64} {history : List (Connection × Option (List UInt8))}
    {client : VtClient}
    (hrun : DaemonRun (.new apiUrl failOpen blockThreshold cacheTtlSecs) history client) :
    ShortSummaries client := by
  have hstart : ShortSummaries (.new apiUrl failOpen blockThreshold cacheTtlSecs) :=
    allEntries_empty _
  refine hrun.holds hstart fun _ state connection hshort _ ↦ ?_
  rw [vtServe]
  split_ifs with hempty
  · exact hshort
  · split
    · exact hshort
    · exact hshort.lookup _ _ _

/-- A request that the daemon receives is answered with the verdict of the lookup. -/
theorem ask_vtDaemon {client : VtClient} {api : String → ApiAnswer} {sha256 : String} {now : ℕ}
    {reply : List UInt8} (hreceived : VtRequest.codec.size ⟨sha256⟩ ≤ 256)
    (hsent : VtResponse.codec.encode (client.lookup api sha256 now).2 = some reply) :
    (vtDaemon client api now).ask VtRequest.codec ⟨sha256⟩ = some reply := by
  obtain ⟨request, hrequest⟩ := request_encodesBelow (Nat.le_refl (2 ^ 64)) ⟨sha256⟩
    (Nat.lt_of_le_of_lt hreceived (by decide))
  have hrequestEmpty : request ≠ [] := by
    rintro rfl
    have hlength := VtRequest.codec.length_encode hrequest
    have hpositive := one_le_varintSize sha256.utf8ByteSize
    rw [size_request, stringSize, List.length_nil] at hlength
    omega
  have hreplyEmpty : reply ≠ [] := by
    rintro rfl
    have hlength := VtResponse.codec.length_encode hsent
    rw [size_response, List.length_nil] at hlength
    omega
  have hserved : (vtServe client ⟨request, now, api⟩).2 = some reply := by
    rw [vtServe, if_neg hrequestEmpty, VtRequest.codec.decode_take hrequest, if_pos hreceived]
    exact hsent
  simp [Peer.ask, vtDaemon, hrequest, hserved, hreplyEmpty, guard]

/-- What transit takes from a verdict that was sent. -/
theorem callVtAnalyzer_of_ask {peer : Peer} {sha256 : String} {response : VtResponse}
    {reply : List UInt8} (hask : peer.ask VtRequest.codec ⟨sha256⟩ = some reply)
    (hsent : VtResponse.codec.encode response = some reply) :
    callVtAnalyzer peer sha256 =
      if VtResponse.codec.size response ≤ 512 then
        (response.pass, response.detections, response.summary)
      else (true, 0, "") := by
  unfold callVtAnalyzer
  rw [hask]
  simp only [VtResponse.codec.decode_take hsent 512]
  split_ifs <;> rfl

/-- A refusal by the daemon reaches transit exactly when it is not about an error of more than 491
bytes. Assumes: the daemon receives the request, refuses the file and sends its answer. -/
theorem survives_iff {apiUrl : String} {failOpen : Bool} {blockThreshold : UInt32}
    {cacheTtlSecs : UInt64} {history : List (Connection × Option (List UInt8))}
    {client : VtClient}
    (hrun : DaemonRun (.new apiUrl failOpen blockThreshold cacheTtlSecs) history client)
    {api : String → ApiAnswer} {sha256 : String} {now : ℕ}
    (hreceived : VtRequest.codec.size ⟨sha256⟩ ≤ 256)
    (hrefused : (client.lookup api sha256 now).2.pass = false)
    (hsent : (VtResponse.codec.encode (client.lookup api sha256 now).2).isSome) :
    (callVtAnalyzer (vtDaemon client api now) sha256).1 = false ↔
      ∀ error, client.FailsWith api sha256 now error → error.utf8ByteSize ≤ 491 := by
  obtain ⟨reply, hreply⟩ := Option.isSome_iff_exists.mp hsent
  rw [callVtAnalyzer_of_ask (ask_vtDaemon hreceived hreply) hreply,
    ← size_lookup_le_iff (shortSummaries_of_run hrun)]
  split_ifs with hfits
  · exact iff_of_true hrefused hfits
  · exact iff_of_false (by simp) hfits

/-- A digest of zeros. -/
def zeroDigest : String :=
  hexEncode (List.replicate 32 0)

/-- An address with a path of a number of letters, and an API there that refuses connections. -/
def longUrl (count : ℕ) : String :=
  "https://proxy/" ++ longName count

def refusingApi (url : String) : ApiAnswer :=
  .failed (url ++ ": Connection Failed: Connect error: Connection refused (os error 111)")

theorem survives_iff_zeroDigest :
    (callVtAnalyzer (vtDaemon (.new "https://proxy" false 3 3600) refusingApi 0) zeroDigest).1 =
        false ↔
      ∀ error,
        (VtClient.new "https://proxy" false 3 3600).FailsWith refusingApi zeroDigest 0 error →
          error.utf8ByteSize ≤ 491 := by
  have hreceived : VtRequest.codec.size ⟨zeroDigest⟩ ≤ 256 := by
    rw [zeroDigest, size_request_hexEncode List.length_replicate]
    decide
  refine survives_iff (.nil : DaemonRun (.new "https://proxy" false 3 3600) [] _) hreceived rfl ?_
  decide +kernel

/-- The daemon blocks files when the API cannot be reached, but with an address of 500 letters
transit lets them pass. -/
theorem not_survives_longUrl :
    ((VtClient.new (longUrl 500) false 3 3600).lookup refusingApi zeroDigest 0).2.pass = false ∧
      (VtResponse.codec.encode
        ((VtClient.new (longUrl 500) false 3 3600).lookup refusingApi zeroDigest 0).2).isSome ∧
      (callVtAnalyzer (vtDaemon (.new (longUrl 500) false 3 3600) refusingApi 0) zeroDigest).1 =
        true := by
  refine ⟨?_, ?_, ?_⟩
  · rfl
  · decide +kernel
  · decide +kernel

end Keysas.VirusTotal
