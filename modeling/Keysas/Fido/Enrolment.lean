import Keysas.Crypto.Base64
import Keysas.Runs.HistoryRun
import Keysas.Runs.TracedProgram
import Keysas.Store.KeyedTable
import Keysas.Wire.DiskImage

/-!
# Enrolled Yubikeys

`keysas-fido` enrols a plugged Yubikey under a name and revokes it, and `keysas-io` asks a plugged
Yubikey for the name of its user. Both take the HMAC that the key gives for a challenge, written in
hexadecimal digits, as its entry in a database.

`enrolledUnder` says under which name a key is enrolled, by the operations that have succeeded, and
`lookup_stored_of_run` that this is what `keysas-fido` keeps in its database. `keysas-io` looks into
another database, which nothing writes to, with another challenge: `agrees_iff` says that it
agrees with the enrolments only for keys that are not enrolled.
-/

set_option autoImplicit false
set_option relaxedAutoImplicit false

namespace Keysas.Fido

open Runs Store Crypto

/-! ### Databases -/

/-- The databases by the paths of their directories. Each has the entries of its bucket `Keysas`. -/
abbrev Directories := Table String (Table String String)

/-- The database of `keysas-fido`. -/
def yubikeyDb : String := "/etc/keysas/yubikey_db"

/-- `FIDO_DB`, the database of `keysas-io`. -/
def fidoDb : String := "/etc/keysas/fido_db"

/-- The entries of a database, none when there is no directory. -/
def bucketOf (directories : Directories) (path : String) : Table String String :=
  (directories.lookup path).getD ∅

/-- Which calls about a database and the key succeed. -/
structure KvCalls where
  challengeResponse : Bool
  createDirAll : Bool
  storeNew : Bool
  bucket : Bool
  get : Bool
  set : Bool
  remove : Bool

/-- `Store::new`, which creates a directory that is missing. -/
def storeNew (calls : KvCalls) (path : String) : Program Unit Directories Unit Unit := do
  Program.require calls.storeNew ()
  Program.modify fun directories ↦ directories.insert path (bucketOf directories path)

/-! ### Enrolling and revoking -/

/-- The second half of `store_key`: a key that is there keeps its name. -/
def storeEntry (calls : KvCalls) (name hexString : String) :
    Program Unit Directories Unit Bool := do
  storeNew calls yubikeyDb
  Program.require calls.bucket ()
  let directories ← Program.get
  Program.require calls.get ()
  if ((bucketOf directories yubikeyDb).lookup hexString).isSome then return false
  else
    Program.require calls.set ()
    Program.modify fun directories ↦
      directories.insert yubikeyDb ((bucketOf directories yubikeyDb).insert hexString name)
    return true

/-- `store_key`. -/
def storeKey (calls : KvCalls) (name hexString : String) : Program Unit Directories Unit Bool := do
  let directories ← Program.get
  if (directories.lookup yubikeyDb).isNone then
    Program.require calls.createDirAll ()
    Program.modify fun directories ↦ directories.insert yubikeyDb ∅
  storeEntry calls name hexString

/-- `remove_key`. -/
def removeKey (calls : KvCalls) (hexString : String) : Program Unit Directories Unit Unit := do
  storeNew calls yubikeyDb
  Program.require calls.bucket ()
  Program.require calls.remove ()
  Program.modify fun directories ↦
    directories.insert yubikeyDb ((bucketOf directories yubikeyDb).erase hexString)

/-- What `keysas-fido` reports. -/
inductive FidoReport where
  | notFound
  | enrolled
  | alreadyEnrolled
  | revoked
  /-- The values of the two flags do not go together. -/
  | wrongFlags
  | failed
  deriving DecidableEq

/-- One call of `keysas-fido`: the key that is plugged, if there is one, and the arguments. -/
structure FidoInput (κ : Type) where
  plugged : Option κ
  name : String
  enroll : Bool
  revoke : Bool
  calls : KvCalls

/-- The challenge of `manage_db`. -/
def enrolmentChallenge : List UInt8 :=
  "Keysas-Challenge".toUTF8.toList

variable {κ : Type} (hmac : κ → List UInt8 → List UInt8)

/-- The entry of a key in the database. -/
def storedKey (key : κ) : String :=
  hexEncode (hmac key enrolmentChallenge)

/-- `manage_db`. -/
def manageDb (directories : Directories) (input : FidoInput κ) : Directories × FidoReport :=
  match input.plugged with
  | none => (directories, .notFound)
  | some key =>
    if !input.calls.challengeResponse then (directories, .failed)
    else if input.enroll && !input.revoke then
      match (storeKey input.calls input.name (storedKey hmac key)).run directories with
      | ⟨_, directories, .ok true⟩ => (directories, .enrolled)
      | ⟨_, directories, .ok false⟩ => (directories, .alreadyEnrolled)
      | ⟨_, directories, .error ()⟩ => (directories, .failed)
    else if !input.enroll && input.revoke then
      match (removeKey input.calls (storedKey hmac key)).run directories with
      | ⟨_, directories, .ok ()⟩ => (directories, .revoked)
      | ⟨_, directories, .error ()⟩ => (directories, .failed)
    else (directories, .wrongFlags)

/-- The runs of `keysas-fido`. -/
abbrev Manages (start : Directories) : List (FidoInput κ × FidoReport) → Directories → Prop :=
  Run (manageDb hmac) (fun _ _ _ ↦ True) start

/-! ### Checking -/

/-- The challenge as bytes: four random numbers of 128 bits, each with its lowest byte first. -/
def castSlice (challenge : Fin 4 → BitVec 128) : List UInt8 :=
  (List.ofFn challenge).flatMap fun item ↦ Wire.PrefixCodec.littleEndianBytes 16 item.toNat

/-- `hmac_challenge`. -/
def hmacChallenge (directories : Directories) (plugged : Option κ)
    (challenge : Fin 4 → BitVec 128) (calls : KvCalls) : Option String :=
  if (directories.lookup fidoDb).isNone then none
  else
    match plugged with
    | none => none
    | some key =>
      if calls.challengeResponse && calls.storeNew && calls.bucket && calls.get then
        (bucketOf directories fidoDb).lookup (hexEncode (hmac key (castSlice challenge)))
      else none

/-! ### Enrolments -/

/-- What an operation with its report changes about the name of a key. -/
def recordOf [DecidableEq κ] (key : κ) (name : Option String)
    (entry : FidoInput κ × FidoReport) : Option String :=
  if entry.1.plugged = some key then
    match entry.2 with
    | .enrolled => some entry.1.name
    | .revoked => none
    | _ => name
  else name

/-- The name under which a key is enrolled after the operations of a history. -/
def enrolledUnder [DecidableEq κ] (history : List (FidoInput κ × FidoReport)) (key : κ) :
    Option String :=
  history.foldl (recordOf key) none

/-! ### What an operation changes -/

section Operations

variable {hmac}

theorem bucketOf_insert_self (directories : Directories) (path : String)
    (bucket : Table String String) : bucketOf (directories.insert path bucket) path = bucket := by
  rw [bucketOf, AList.lookup_insert]
  rfl

/-- Only the database of `keysas-fido` changes, and of its entries only one. -/
structure Changes (before after : Directories) (key : String) (entry : Option String) : Prop where
  others : ∀ path, path ≠ yubikeyDb → after.lookup path = before.lookup path
  entries : Assigns (bucketOf before yubikeyDb) (bucketOf after yubikeyDb) key entry

/-- A database that is opened keeps its entries. -/
theorem Changes.insert (directories : Directories) {bucket : Table String String} {key : String}
    {entry : Option String} (hbucket : Assigns (bucketOf directories yubikeyDb) bucket key entry) :
    Changes directories (directories.insert yubikeyDb bucket) key entry := by
  refine ⟨fun path hpath ↦ AList.lookup_insert_ne hpath, ?_⟩
  rw [bucketOf_insert_self]
  exact hbucket

/-- Nothing changes. -/
theorem Changes.refl (directories : Directories) (key : String) :
    Changes directories directories key ((bucketOf directories yubikeyDb).lookup key) := by
  refine ⟨fun _ _ ↦ rfl, fun other ↦ ?_⟩
  split_ifs with hother
  · rw [hother]
  · rfl

/-- Of two changes to one entry the second counts. -/
theorem Changes.trans {before middle after : Directories} {key : String}
    {first second : Option String} (hfirst : Changes before middle key first)
    (hsecond : Changes middle after key second) : Changes before after key second := by
  refine ⟨fun path hpath ↦ ?_, hfirst.entries.trans hsecond.entries⟩
  rw [hsecond.others path hpath, hfirst.others path hpath]

/-- The database is opened and has the entries that it had. -/
theorem Changes.refl_opened (directories : Directories) (key : String) :
    Changes directories
      (directories.insert yubikeyDb (bucketOf directories yubikeyDb)) key
      ((bucketOf directories yubikeyDb).lookup key) :=
  .insert directories (Changes.refl directories key).entries

/-- The database is opened and one entry changes. -/
theorem Changes.assign_opened {directories : Directories} {bucket : Table String String}
    {key : String} {entry : Option String}
    (hbucket : Assigns (bucketOf directories yubikeyDb) bucket key entry) :
    Changes directories ((directories.insert yubikeyDb (bucketOf directories yubikeyDb)).insert
      yubikeyDb bucket) key entry := by
  refine (Changes.refl_opened directories key).trans (.insert _ ?_)
  rwa [bucketOf_insert_self]

/-- A directory that is created has no entries, as before. -/
theorem bucketOf_created {directories : Directories}
    (hmissing : (directories.lookup yubikeyDb).isNone = true) :
    bucketOf directories yubikeyDb = ∅ := by
  rw [bucketOf, Option.isNone_iff_eq_none.mp hmissing]
  rfl

/-- What an operation leaves is said of the directory that was created for it, too. -/
theorem Changes.of_created {directories after : Directories} {key : String}
    {entry : Option String} (hmissing : (directories.lookup yubikeyDb).isNone = true)
    (hchanges : Changes (directories.insert yubikeyDb ∅) after key entry) :
    Changes directories after key entry := by
  refine ⟨fun path hpath ↦ ?_, ?_⟩
  · rw [hchanges.others path hpath, AList.lookup_insert_ne hpath]
  · have hentries := hchanges.entries
    rw [bucketOf_insert_self] at hentries
    rwa [bucketOf_created hmissing]

/-- An operation opens the database and its bucket, or fails and keeps every entry. -/
theorem changes_of_opened {α : Type} {calls : KvCalls} {directories : Directories} {key : String}
    {entryOf : Except Unit α → Option String} {second : Unit → Program Unit Directories Unit α}
    (hfails : entryOf (.error ()) = (bucketOf directories yubikeyDb).lookup key)
    (hsecond : (second ()).Leaves
      (directories.insert yubikeyDb (bucketOf directories yubikeyDb)) fun after value ↦
        Changes directories after key (entryOf value)) :
    (storeNew calls yubikeyDb >>= fun _ ↦ Program.require calls.bucket () >>= second).Leaves
      directories fun after value ↦ Changes directories after key (entryOf value) := by
  have hunchanged : Changes directories directories key (entryOf (.error ())) := by
    rw [hfails]
    exact .refl directories key
  rw [Program.leaves_bind_iff, storeNew, Program.leaves_require_bind_iff]
  by_cases hstore : calls.storeNew = true
  swap
  · rw [if_neg hstore]
    exact hunchanged
  rw [if_pos hstore, Program.leaves_modify_iff, Program.leaves_require_bind_iff]
  by_cases hbucket : calls.bucket = true
  swap
  · rw [if_neg hbucket, hfails]
    exact .refl_opened directories key
  · rw [if_pos hbucket]
    exact hsecond

/-- What the second half of `store_key` does: it stores the name under a key that is new and
succeeds, or keeps every entry. -/
theorem storeEntry_changes (calls : KvCalls) (name hexString : String)
    (directories : Directories) :
    (storeEntry calls name hexString).Leaves directories fun after value ↦
      Changes directories after hexString
        (if value = .ok true then some name
          else (bucketOf directories yubikeyDb).lookup hexString) := by
  have hopened := Changes.refl_opened directories hexString
  refine changes_of_opened (if_neg nofun) ?_
  rw [Program.leaves_get_bind_iff, Program.leaves_require_bind_iff]
  by_cases hget : calls.get = true
  swap
  · rw [if_neg hget]
    exact hopened
  rw [if_pos hget, Program.leaves_ite_iff, bucketOf_insert_self]
  by_cases henrolled : ((bucketOf directories yubikeyDb).lookup hexString).isSome = true
  · rw [if_pos henrolled]
    exact hopened
  rw [if_neg henrolled, Program.leaves_require_bind_iff]
  by_cases hset : calls.set = true
  swap
  · rw [if_neg hset]
    exact hopened
  -- The name is stored in the database that has been opened.
  rw [if_pos hset, Program.leaves_modify_bind_iff, Program.leaves_pure_iff, if_pos rfl,
    bucketOf_insert_self]
  exact .assign_opened (assigns_insert (bucketOf directories yubikeyDb) hexString name)

/-- What `store_key` does, also when it creates the directory. -/
theorem storeKey_changes (calls : KvCalls) (name hexString : String) (directories : Directories) :
    (storeKey calls name hexString).Leaves directories fun after value ↦
      Changes directories after hexString
        (if value = .ok true then some name
          else (bucketOf directories yubikeyDb).lookup hexString) := by
  rw [storeKey, Program.leaves_get_bind_iff]
  by_cases hmissing : (directories.lookup yubikeyDb).isNone = true
  swap
  · rw [if_neg hmissing]
    exact storeEntry_changes calls name hexString directories
  rw [if_pos hmissing, Program.leaves_require_bind_iff]
  by_cases hcreate : calls.createDirAll = true
  swap
  · rw [if_neg hcreate]
    exact .refl directories hexString
  rw [if_pos hcreate, Program.leaves_modify_bind_iff, bucketOf_created hmissing]
  have hentry := storeEntry_changes calls name hexString (directories.insert yubikeyDb ∅)
  rw [bucketOf_insert_self] at hentry
  exact .of_created hmissing hentry

/-- What `remove_key` does: it removes the name and succeeds, or keeps every entry. -/
theorem removeKey_changes (calls : KvCalls) (hexString : String) (directories : Directories) :
    (removeKey calls hexString).Leaves directories fun after value ↦
      Changes directories after hexString
        (if value = .ok () then none
          else (bucketOf directories yubikeyDb).lookup hexString) := by
  refine changes_of_opened (if_neg nofun) ?_
  rw [Program.leaves_require_bind_iff]
  by_cases hremove : calls.remove = true
  swap
  · rw [if_neg hremove]
    exact .refl_opened directories hexString
  rw [if_pos hremove, Program.leaves_modify_iff, if_pos rfl, bucketOf_insert_self]
  exact .assign_opened (assigns_erase (bucketOf directories yubikeyDb) hexString)

/-- Without a key nothing changes. -/
theorem manageDb_of_unplugged (directories : Directories) {input : FidoInput κ}
    (hplugged : input.plugged = none) :
    manageDb hmac directories input = (directories, .notFound) := by
  unfold manageDb
  rw [hplugged]

variable [DecidableEq κ]

/-- What a call of `keysas-fido` does with a plugged key is what its report says. -/
theorem manageDb_changes (directories : Directories) {input : FidoInput κ} {key : κ}
    (hplugged : input.plugged = some key) :
    Changes directories (manageDb hmac directories input).1 (storedKey hmac key)
      (recordOf key ((bucketOf directories yubikeyDb).lookup (storedKey hmac key))
        (input, (manageDb hmac directories input).2)) := by
  have hstays := Changes.refl directories (storedKey hmac key)
  have hstores := storeKey_changes input.calls input.name (storedKey hmac key) directories
  have hremoves := removeKey_changes input.calls (storedKey hmac key) directories
  unfold Program.Leaves at hstores hremoves
  rw [recordOf, if_pos hplugged]
  unfold manageDb
  simp only [hplugged]
  split_ifs with hresponse henroll hrevoke
  · exact hstays
  · rcases hrun : (storeKey input.calls input.name (storedKey hmac key)).run directories with
      ⟨trace, after, error | stored⟩
    · simpa [hrun] using hstores
    · cases stored <;> simpa [hrun] using hstores
  · rcases hrun : (removeKey input.calls (storedKey hmac key)).run directories with
      ⟨trace, after, error | value⟩
    · simpa [hrun] using hremoves
    · simpa [hrun] using hremoves
  · exact hstays

/-- The entry of every key in the database follows the reports. Assumes: no two keys give the same
response to the challenge. -/
theorem lookup_stored_manageDb (hinjective : Function.Injective (storedKey hmac))
    (directories : Directories) (input : FidoInput κ) (key : κ) :
    (bucketOf (manageDb hmac directories input).1 yubikeyDb).lookup (storedKey hmac key) =
      recordOf key ((bucketOf directories yubikeyDb).lookup (storedKey hmac key))
        (input, (manageDb hmac directories input).2) := by
  rcases hplugged : input.plugged with _ | other
  · rw [manageDb_of_unplugged directories hplugged, recordOf, if_neg (by simp [hplugged])]
  have hchanges : Changes directories _ (storedKey hmac other) _ :=
    manageDb_changes directories hplugged
  by_cases hkey : other = key
  · rw [hkey] at hchanges
    exact hchanges.entries.lookup_self
  · have hstored : storedKey hmac key ≠ storedKey hmac other :=
      fun hsame ↦ hkey (hinjective hsame).symm
    rw [hchanges.entries.lookup_of_ne hstored, recordOf, if_neg (by simpa [hplugged] using hkey)]

/-- No call of `keysas-fido` changes another database than its own. -/
theorem lookup_manageDb (directories : Directories) (input : FidoInput κ) {path : String}
    (hpath : path ≠ yubikeyDb) :
    (manageDb hmac directories input).1.lookup path = directories.lookup path := by
  rcases hplugged : input.plugged with _ | key
  · rw [manageDb_of_unplugged directories hplugged]
  · exact (manageDb_changes directories hplugged).others path hpath

/-! ### What a run leaves -/

theorem enrolledUnder_append (history : List (FidoInput κ × FidoReport))
    (entry : FidoInput κ × FidoReport) (key : κ) :
    enrolledUnder (history ++ [entry]) key = recordOf key (enrolledUnder history key) entry := by
  rw [enrolledUnder, List.foldl_append]
  rfl

/-- The database of `keysas-fido` has the enrolled keys with their names. Assumes: it had no entries
at the start, and no two keys give the same response to the challenge. -/
theorem lookup_stored_of_run (hinjective : Function.Injective (storedKey hmac))
    {start : Directories} (hstart : bucketOf start yubikeyDb = ∅)
    {history : List (FidoInput κ × FidoReport)} {directories : Directories}
    (hrun : Manages hmac start history directories) (key : κ) :
    (bucketOf directories yubikeyDb).lookup (storedKey hmac key) = enrolledUnder history key := by
  induction hrun with
  | nil =>
    rw [hstart]
    rfl
  | next input before _ ih =>
    rw [lookup_stored_manageDb hinjective, ih, enrolledUnder_append]

/-- The database of `keysas-io` stays as it was. -/
theorem bucketOf_fidoDb_of_run {start : Directories}
    {history : List (FidoInput κ × FidoReport)} {directories : Directories}
    (hrun : Manages hmac start history directories) :
    bucketOf directories fidoDb = bucketOf start fidoDb := by
  induction hrun with
  | nil => rfl
  | next input _ _ ih => rw [← ih, bucketOf, lookup_manageDb _ input (by decide), bucketOf]

end Operations

/-! ### Agreement -/

/-- Without entries no key authenticates. -/
theorem hmacChallenge_of_empty {directories : Directories}
    (hempty : bucketOf directories fidoDb = ∅) (plugged : Option κ)
    (challenge : Fin 4 → BitVec 128) (calls : KvCalls) :
    hmacChallenge hmac directories plugged challenge calls = none := by
  unfold hmacChallenge
  cases plugged with
  | none => split_ifs <;> rfl
  | some key =>
    rw [hempty]
    simp only [AList.lookup_empty]
    split_ifs <;> rfl

/-- For a plugged key `keysas-io` gives the name under which it is enrolled, if it is enrolled. -/
def Agrees [DecidableEq κ] (history : List (FidoInput κ × FidoReport)) (directories : Directories)
    (key : κ) (challenge : Fin 4 → BitVec 128) (calls : KvCalls) : Prop :=
  ∀ name, hmacChallenge hmac directories (some key) challenge calls = some name ↔
    enrolledUnder history key = some name

/-- Whatever `keysas-fido` has done before, `keysas-io` agrees with it about a key exactly when the
key is not enrolled. Assumes: the database of `keysas-io`, which nothing writes to, has no
entries. -/
theorem agrees_iff [DecidableEq κ] {start : Directories} (hstart : bucketOf start fidoDb = ∅)
    {history : List (FidoInput κ × FidoReport)} {directories : Directories}
    (hrun : Manages hmac start history directories) (key : κ) (challenge : Fin 4 → BitVec 128)
    (calls : KvCalls) :
    Agrees hmac history directories key challenge calls ↔ enrolledUnder history key = none := by
  have hnone : hmacChallenge hmac directories (some key) challenge calls = none :=
    hmacChallenge_of_empty hmac ((bucketOf_fidoDb_of_run hrun).trans hstart) (some key) challenge
      calls
  unfold Agrees
  rw [hnone]
  constructor
  · intro hagrees
    refine Option.eq_none_iff_forall_ne_some.mpr fun name henrolled ↦ ?_
    cases (hagrees name).mpr henrolled
  · intro hfree name
    rw [hfree]

section Example

/-- Every call succeeds. -/
private def allSucceed : KvCalls := ⟨true, true, true, true, true, true, true⟩

/-- A key that answers with its secret and the challenge. -/
private def echoHmac (key challenge : List UInt8) : List UInt8 :=
  key ++ challenge

private def drawn (item : Fin 4) : BitVec 128 :=
  BitVec.ofNat 128 (item + 17)

/-- The key 7 is enrolled as Jean. -/
private def enrolJean : List (FidoInput (List UInt8)) :=
  [{ plugged := some [7], name := "Jean", enroll := true, revoke := false, calls := allSucceed }]

private def managedJean : List (FidoInput (List UInt8) × FidoReport) × Directories :=
  execute (manageDb echoHmac) ∅ enrolJean

private theorem managedJean_run : Manages echoHmac ∅ managedJean.1 managedJean.2 :=
  run_execute enrolJean ⟨trivial, trivial⟩

/-- The key 7 does not authenticate, and a key 8, which was not enrolled, does not either. -/
theorem agrees_enrolJean :
    (bucketOf ∅ fidoDb = ∅ ∧ Manages echoHmac ∅ managedJean.1 managedJean.2) ∧
      (Agrees echoHmac managedJean.1 managedJean.2 [7] drawn allSucceed ↔
        enrolledUnder managedJean.1 [7] = none) ∧
      (Agrees echoHmac managedJean.1 managedJean.2 [8] drawn allSucceed ↔
        enrolledUnder managedJean.1 [8] = none) :=
  ⟨⟨rfl, managedJean_run⟩, agrees_iff echoHmac rfl managedJean_run [7] drawn allSucceed,
    agrees_iff echoHmac rfl managedJean_run [8] drawn allSucceed⟩

/-- Enrolments and checks disagree: the key 7 is enrolled as Jean and does not authenticate. -/
theorem not_forall_agrees :
    ¬ ∀ (history : List (FidoInput (List UInt8) × FidoReport)) (directories : Directories)
      (key : List UInt8) (challenge : Fin 4 → BitVec 128) (calls : KvCalls),
      Manages echoHmac ∅ history directories →
        Agrees echoHmac history directories key challenge calls := by
  intro hforall
  have hagrees := hforall managedJean.1 managedJean.2 [7] drawn allSucceed managedJean_run
  have henrolled : enrolledUnder managedJean.1 [7] = some "Jean" := by decide +kernel
  have hnone : hmacChallenge echoHmac managedJean.2 (some [7]) drawn allSucceed = none := by
    decide +kernel
  have hname := (hagrees "Jean").mpr henrolled
  rw [hnone] at hname
  cases hname

end Example

end Keysas.Fido
