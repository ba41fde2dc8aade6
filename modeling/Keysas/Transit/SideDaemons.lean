import Keysas.Analyze.Dispatch

/-!
# The side daemons of transit

Transit asks two daemons about a file: one analyzes its content, the other looks its digest up.
`Peer` is the other end of such a connection, with everything that can fail on the way.
`callSpecializedAnalyzer` and `callVtAnalyzer` let the file pass when the daemon cannot be reached,
and also when its answer cannot be decoded.

The answer of the analyzer is read once, into 4096 bytes. `pass_callSpecializedAnalyzer_iff` says
that a refusal by the analyzer reaches transit exactly when the response fits, so the summary, which
names the refused entry, can turn the refusal into a pass.
-/

set_option autoImplicit false
set_option relaxedAutoImplicit false

namespace Keysas.Transit

open RustStd Wire Wire.PrefixCodec Wire.Bincode Keysas.Analyze

/-! ### Connections -/

/-- The other end of a connection to a side daemon. -/
structure Peer where
  /-- Whether the name of the socket is an address. -/
  address : Bool
  /-- Whether the daemon accepts the connection. -/
  connect : Bool
  /-- Whether a request is sent. -/
  send : Bool
  /-- What arrives after a request, nothing when the read fails. -/
  reply : List UInt8 → Option (List UInt8)

/-- A peer that cannot be reached. -/
def Peer.unreachable : Peer where
  address := true
  connect := false
  send := false
  reply _ := none

/-- The answer to a request: nothing when the peer cannot be reached, when the request cannot be
encoded, or when the connection is closed. -/
def Peer.ask {α : Type} (peer : Peer) (codec : PrefixCodec α) (request : α) :
    Option (List UInt8) := do
  guard peer.address
  guard peer.connect
  let data ← codec.encode request
  guard peer.send
  let message ← peer.reply data
  guard (message ≠ [])
  return message

/-! ### The analyzer -/

/-- `call_specialized_analyzer`: whether the file passes, the analyzer and its summary. -/
def callSpecializedAnalyzer (peer : Peer) (filename fileType : String) : Bool × String × String :=
  match peer.ask AnalyzeRequest.codec ⟨filename, fileType⟩ with
  | none => (true, "", "")
  | some message =>
    match AnalyzeResponse.codec.decode (receiveInto 4096 message) with
    | some (resp, _) => (resp.passed, resp.analyzer, resp.summary)
    | none => (true, "", "")

/-! ### VirusTotal -/

/-- `VtRequest`. -/
structure VtRequest where
  sha256 : String
  deriving DecidableEq

/-- `VtResponse`. -/
structure VtResponse where
  pass : Bool
  detections : UInt32
  summary : String
  deriving DecidableEq

/-- The bincode format of a lookup. -/
def VtRequest.codec : PrefixCodec VtRequest :=
  string.imap (fun sha256 ↦ some ⟨sha256⟩) VtRequest.sha256 fun _ ↦ rfl

/-- The bincode format of a verdict. -/
def VtResponse.codec : PrefixCodec VtResponse :=
  (bool.pair <| u32.pair string).imap
    (fun (pass, detections, summary) ↦ some ⟨pass, detections, summary⟩)
    (fun response ↦ (response.pass, response.detections, response.summary)) fun _ ↦ rfl

/-- `call_vt_analyzer`: whether the file passes, the detections and the summary. The answer is read
once, into 512 bytes, and decoded without the rest of the buffer. -/
def callVtAnalyzer (peer : Peer) (sha256 : String) : Bool × UInt32 × String :=
  match peer.ask VtRequest.codec ⟨sha256⟩ with
  | none => (true, 0, "")
  | some message =>
    match VtResponse.codec.decode (message.take 512) with
    | some (resp, _) => (resp.pass, resp.detections, resp.summary)
    | none => (true, 0, "")

/-! ### The verdict of the analyzer -/

variable (analyzers : Analyzers) (tmpDir : String)

/-- The analysis daemon, reachable, as transit sees it with a file. -/
def analyzeDaemon (content : List UInt8) : Peer where
  address := true
  connect := true
  send := true
  reply request := serve analyzers tmpDir request (some content)

variable {analyzers tmpDir}

/-- A request that the daemon receives is answered with the response of `dispatch`. -/
theorem ask_analyzeDaemon {content reply : List UInt8} {filename fileType : String}
    (hreceived : AnalyzeRequest.codec.size ⟨filename, fileType⟩ ≤ 4096)
    (hsent : sendResponse (dispatch analyzers tmpDir content filename fileType) = some reply) :
    (analyzeDaemon analyzers tmpDir content).ask AnalyzeRequest.codec ⟨filename, fileType⟩ =
      some reply := by
  obtain ⟨request, hrequest⟩ := AnalyzeRequest.codec_encodesBelow (Nat.le_refl (2 ^ 64))
    ⟨filename, fileType⟩ (Nat.lt_of_le_of_lt hreceived (by decide))
  have hserved : serve analyzers tmpDir request (some content) =
      sendResponse (dispatch analyzers tmpDir content filename fileType) :=
    serve_request analyzers tmpDir hrequest hreceived
  have hnonempty : reply ≠ [] := by
    rintro rfl
    have hlength := AnalyzeResponse.codec.length_encode hsent
    simp only [List.length_nil, AnalyzeResponse.size_codec] at hlength
    omega
  simp [Peer.ask, analyzeDaemon, hrequest, hserved, hsent, hnonempty, guard]

/-- What transit takes from a response that was sent: all of it when it fits the buffer, and a pass
when it does not. -/
theorem callSpecializedAnalyzer_of_ask {peer : Peer} {filename fileType : String}
    {response : AnalyzeResponse} {reply : List UInt8}
    (hask : peer.ask AnalyzeRequest.codec ⟨filename, fileType⟩ = some reply)
    (hsent : AnalyzeResponse.codec.encode response = some reply) :
    callSpecializedAnalyzer peer filename fileType =
      if AnalyzeResponse.codec.size response ≤ 4096 then
        (response.passed, response.analyzer, response.summary)
      else (true, "", "") := by
  have hlength := AnalyzeResponse.codec.length_encode hsent
  unfold callSpecializedAnalyzer
  rw [hask]
  by_cases hfits : AnalyzeResponse.codec.size response ≤ 4096
  · have hdecoded := AnalyzeResponse.codec.decode_receiveInto hsent (hlength ▸ hfits)
    rw [if_pos hfits]
    simp only [hdecoded]
  · have hlong : 4096 < reply.length := by omega
    have hdecoded := AnalyzeResponse.codec.decode_receiveInto_of_lt hsent hlong
    rw [if_neg hfits]
    simp only [hdecoded]

/-- A refusal by the analyzer reaches transit exactly when the response takes at most 4096 bytes.
Assumes: the daemon receives the request, refuses the file and sends the response. -/
theorem pass_callSpecializedAnalyzer_iff {content : List UInt8} {filename fileType : String}
    (hreceived : AnalyzeRequest.codec.size ⟨filename, fileType⟩ ≤ 4096)
    (hrefused : (dispatch analyzers tmpDir content filename fileType).passed = false)
    (hsent : (sendResponse (dispatch analyzers tmpDir content filename fileType)).isSome) :
    (callSpecializedAnalyzer (analyzeDaemon analyzers tmpDir content) filename fileType).1 = false ↔
      2 + stringSize (dispatch analyzers tmpDir content filename fileType).analyzer +
        stringSize (dispatch analyzers tmpDir content filename fileType).summary ≤ 4096 := by
  obtain ⟨reply, hreply⟩ := Option.isSome_iff_exists.mp hsent
  rw [callSpecializedAnalyzer_of_ask (ask_analyzeDaemon hreceived hreply) hreply,
    AnalyzeResponse.size_codec]
  by_cases hfits : 2 + stringSize (dispatch analyzers tmpDir content filename fileType).analyzer +
      stringSize (dispatch analyzers tmpDir content filename fileType).summary ≤ 4096
  · rw [if_pos hfits, hrefused]
    simp only [hfits]
  · rw [if_neg hfits]
    simp only [hfits, Bool.true_eq_false]

theorem pass_callSpecializedAnalyzer_iff_secret :
    (callSpecializedAnalyzer (analyzeDaemon (encryptedZipAnalyzers "secret.txt")
        "/run/keysas-analyze" (encryptedZip (utf8 "secret.txt"))) "a.zip" "application/zip").1 =
      false ↔
      2 + stringSize (dispatch (encryptedZipAnalyzers "secret.txt") "/run/keysas-analyze"
          (encryptedZip (utf8 "secret.txt")) "a.zip" "application/zip").analyzer +
        stringSize (dispatch (encryptedZipAnalyzers "secret.txt") "/run/keysas-analyze"
          (encryptedZip (utf8 "secret.txt")) "a.zip" "application/zip").summary ≤ 4096 := by
  refine pass_callSpecializedAnalyzer_iff (by decide) ?_ ?_
  · rw [dispatch_encryptedZip]
    rfl
  · rw [dispatch_encryptedZip]
    rfl

/-- A name of a number of letters. -/
def longName (count : ℕ) : String :=
  String.ofList (List.replicate count 'a')

@[simp] theorem utf8ByteSize_longName (count : ℕ) : (longName count).utf8ByteSize = count :=
  utf8ByteSize_replicate rfl count

/-- The size of a summary that names an encrypted entry. Assumes: the length of the summary takes
three bytes. -/
theorem stringSize_encrypted {count : ℕ} (hcount : 234 ≤ count) (hlimit : count < 60000) :
    stringSize ("encrypted entry: " ++ longName count) = count + 20 := by
  have hlabel : "encrypted entry: ".utf8ByteSize = 17 := rfl
  have hbytes : ("encrypted entry: " ++ longName count).utf8ByteSize = 17 + count := by
    rw [String.utf8ByteSize_append, hlabel, utf8ByteSize_longName]
  rw [stringSize, hbytes, varintSize, if_neg (by omega), if_pos (by omega)]
  omega

/-- The size of the response about a ZIP file with an encrypted entry. -/
theorem size_encrypted_response {count : ℕ} (hcount : 234 ≤ count) (hlimit : count < 60000) :
    AnalyzeResponse.codec.size
        (.ofResult "archive-scanner" (false, "encrypted entry: " ++ longName count)) =
      count + 38 := by
  have hanalyzer : stringSize "archive-scanner" = 16 := rfl
  rw [AnalyzeResponse.size_codec]
  show 2 + stringSize "archive-scanner" + stringSize ("encrypted entry: " ++ longName count) = _
  rw [hanalyzer, stringSize_encrypted hcount hlimit]
  omega

/-- The daemon sends its response about a ZIP file with an encrypted entry. -/
theorem exists_sendResponse_encryptedZip {count : ℕ} (hcount : 234 ≤ count)
    (hlimit : count < 60000) :
    ∃ reply, sendResponse
      (.ofResult "archive-scanner" (false, "encrypted entry: " ++ longName count)) =
        some reply := by
  have hsize := size_encrypted_response hcount hlimit
  exact AnalyzeResponse.codec_encodesBelow (Nat.le_refl (2 ^ 64)) _
    (hsize ▸ Nat.lt_of_lt_of_le (by omega) (by decide : 60038 ≤ 2 ^ 64))

variable (tmpDir) in
/-- What transit takes from the response about a ZIP file with an encrypted entry. -/
theorem callSpecializedAnalyzer_encryptedZip {count : ℕ} (hcount : 234 ≤ count)
    (hlimit : count < 60000) :
    callSpecializedAnalyzer (analyzeDaemon (encryptedZipAnalyzers (longName count)) tmpDir
        (encryptedZip (utf8 (longName count)))) "a.zip" "application/zip" =
      if count + 38 ≤ 4096 then
        (false, "archive-scanner", "encrypted entry: " ++ longName count)
      else (true, "", "") := by
  have hreceived : AnalyzeRequest.codec.size ⟨"a.zip", "application/zip"⟩ ≤ 4096 := by decide
  obtain ⟨reply, hreply⟩ := exists_sendResponse_encryptedZip hcount hlimit
  have hsent : sendResponse (dispatch (encryptedZipAnalyzers (longName count)) tmpDir
      (encryptedZip (utf8 (longName count))) "a.zip" "application/zip") = some reply := by
    rw [dispatch_encryptedZip, hreply]
  rw [callSpecializedAnalyzer_of_ask (ask_analyzeDaemon hreceived hsent) hreply,
    size_encrypted_response hcount hlimit]
  rfl

/-- A refused ZIP file passes when the name of its encrypted entry has 5000 letters. -/
theorem not_forall_pass_callSpecializedAnalyzer :
    ¬ ∀ (analyzers : Analyzers) (tmpDir : String) (content : List UInt8)
      (filename fileType : String),
      AnalyzeRequest.codec.size ⟨filename, fileType⟩ ≤ 4096 →
      (dispatch analyzers tmpDir content filename fileType).passed = false →
      (sendResponse (dispatch analyzers tmpDir content filename fileType)).isSome →
      (callSpecializedAnalyzer (analyzeDaemon analyzers tmpDir content) filename fileType).1 =
        false := by
  intro hsurvives
  have hdispatch := dispatch_encryptedZip "/run/keysas-analyze" (longName 5000)
  have hreceived : AnalyzeRequest.codec.size ⟨"a.zip", "application/zip"⟩ ≤ 4096 := by decide
  obtain ⟨reply, hreply⟩ :=
    exists_sendResponse_encryptedZip (by decide : 234 ≤ 5000) (by decide : 5000 < 60000)
  have hlost := hsurvives _ "/run/keysas-analyze" _ _ _ hreceived
    (congrArg AnalyzeResponse.passed hdispatch) (by rw [hdispatch, hreply]; rfl)
  rw [callSpecializedAnalyzer_encryptedZip _ (by decide) (by decide), if_neg (by decide)] at hlost
  cases hlost

end Keysas.Transit
