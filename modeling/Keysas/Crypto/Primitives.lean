import Keysas.Crypto.Base64

/-!
# Hash functions and signature schemes

The cryptographic primitives that programs take from their libraries, each as a structure whose
fields are the operations and what is documented of them. Nothing here assumes security: that a
digest determines its input, or that only the owner of a key signs, is a hypothesis where a result
needs it.

`Sha256` gives digests of 32 bytes, and `hexDigest` is the text of one, which determines the digest,
is not empty and has no dash.

`Ed25519` and `MlDsa87` have keys and signatures as bytes. What an owner signs verifies under the
public key of the owner.
-/

set_option autoImplicit false
set_option relaxedAutoImplicit false

namespace Crypto

/-! ### SHA-256 -/

/-- A hash function with digests of 32 bytes. -/
structure Sha256 where
  /-- The digest of a run of bytes. -/
  hash : List UInt8 → List UInt8
  length_hash : ∀ input, (hash input).length = 32

/-- The digest as 64 lowercase hexadecimal digits. -/
def Sha256.hexDigest (sha256 : Sha256) (input : List UInt8) : String :=
  hexEncode (sha256.hash input)

/-- A hexadecimal digest determines the digest. -/
theorem Sha256.hash_eq_of_hexDigest_eq (sha256 : Sha256) {first second : List UInt8}
    (hdigest : sha256.hexDigest first = sha256.hexDigest second) :
    sha256.hash first = sha256.hash second :=
  hexChars_injective (String.ofList_injective hdigest)

/-- A hexadecimal digest has no dash. -/
theorem Sha256.dash_not_mem_hexDigest (sha256 : Sha256) (input : List UInt8) :
    '-' ∉ (sha256.hexDigest input).toList := by
  rw [Sha256.hexDigest, hexEncode, String.toList_ofList]
  exact dash_not_mem_hexChars _

/-- A hexadecimal digest is not the empty text. -/
theorem Sha256.hexDigest_ne_empty (sha256 : Sha256) (input : List UInt8) :
    sha256.hexDigest input ≠ "" := by
  intro hempty
  have hlength := congrArg (fun text ↦ text.toList.length) hempty
  simp [Sha256.hexDigest, hexEncode, length_hexChars, sha256.length_hash] at hlength

/-! ### Ed25519 -/

/-- The Ed25519 scheme: keys of 32 bytes, signatures of 64 bytes. -/
structure Ed25519 where
  /-- The private keys. -/
  SigningKey : Type
  /-- The points that are public keys. -/
  VerifyingKey : Type
  /-- The public key of 32 bytes, when they are a point. -/
  verifyingKeyFromBytes : List UInt8 → Option VerifyingKey
  /-- Whether 64 bytes are a signature of a message. -/
  verifyStrict : VerifyingKey → List UInt8 → List UInt8 → Bool
  /-- The bytes of the public key of a private key. -/
  verifyingKeyBytes : SigningKey → List UInt8
  /-- The signature of a message. -/
  sign : SigningKey → List UInt8 → List UInt8
  length_verifyingKeyBytes : ∀ key, (verifyingKeyBytes key).length = 32
  length_sign : ∀ key message, (sign key message).length = 64
  verifyStrict_sign : ∀ key, ∃ verifying, verifyingKeyFromBytes (verifyingKeyBytes key) =
    some verifying ∧ ∀ message, verifyStrict verifying message (sign key message) = true

/-! ### ML-DSA-87 -/

/-- The ML-DSA-87 scheme. Signing may fail, and only bytes of the right length are keys and
signatures. -/
structure MlDsa87 where
  /-- The private keys. -/
  SecretKey : Type
  PublicKey : Type
  Signature : Type
  publicKeyFromBytes : List UInt8 → Option PublicKey
  signatureFromBytes : List UInt8 → Option Signature
  verify : PublicKey → List UInt8 → Signature → Bool
  /-- The bytes of the public key of a private key. -/
  publicKeyBytes : SecretKey → List UInt8
  sign : SecretKey → List UInt8 → Option (List UInt8)
  sign_ne_nil : ∀ {key message bytes}, sign key message = some bytes → bytes ≠ []
  verify_sign : ∀ {key message bytes}, sign key message = some bytes →
    ∃ publicKey signature, publicKeyFromBytes (publicKeyBytes key) = some publicKey ∧
      signatureFromBytes bytes = some signature ∧ verify publicKey message signature = true

/-! ### Transparent instances -/

/-- A hash function that keeps the first 32 bytes of its input, padded with zeros. -/
def paddingSha256 : Sha256 where
  hash input := (input ++ List.replicate 32 0).take 32
  length_hash input := by simp

/-- An Ed25519 in which everyone can sign: the signature of a message is its front, padded with the
key to 64 bytes. It satisfies what is documented and nothing more. -/
def transparentEd25519 : Ed25519 where
  SigningKey := UInt8
  VerifyingKey := UInt8
  verifyingKeyFromBytes bytes := if bytes.length = 32 then bytes.head? else none
  verifyStrict key message signature := signature == (message ++ List.replicate 64 key).take 64
  verifyingKeyBytes key := List.replicate 32 key
  sign key message := (message ++ List.replicate 64 key).take 64
  length_verifyingKeyBytes key := List.length_replicate
  length_sign key message := by simp
  verifyStrict_sign key := ⟨key, rfl, fun message ↦ by simp⟩

/-- An ML-DSA-87 in which everyone can sign: the signature of a message is the key and the
message. -/
def transparentMlDsa87 : MlDsa87 where
  SecretKey := UInt8
  PublicKey := UInt8
  Signature := List UInt8
  publicKeyFromBytes bytes := bytes.head?
  signatureFromBytes bytes := some bytes
  verify key message signature := signature == key :: message
  publicKeyBytes key := [key]
  sign key message := some (key :: message)
  sign_ne_nil := by
    intro key message bytes hsign
    obtain rfl := Option.some.inj hsign
    exact List.cons_ne_nil key message
  verify_sign := by
    intro key message bytes hsign
    obtain rfl := Option.some.inj hsign
    exact ⟨key, key :: message, rfl, rfl, by simp⟩

end Crypto
