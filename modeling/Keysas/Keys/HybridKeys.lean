import Keysas.Crypto.Primitives

/-!
# Hybrid keys

Every signature of the station is double: Ed25519 and ML-DSA-87 over the same message. A hybrid
signature is valid when both are.
-/

set_option autoImplicit false
set_option relaxedAutoImplicit false

namespace Keysas.Keys

open Crypto

/-- The two signature schemes. -/
structure Schemes where
  ed25519 : Ed25519
  mlDsa87 : MlDsa87

variable (schemes : Schemes)

/-- `KeysasHybridPubKeys`. -/
structure KeysasHybridPubKeys where
  classic : schemes.ed25519.VerifyingKey
  pq : schemes.mlDsa87.PublicKey

/-- `KeysasHybridSignature`: the classic signature is its 64 bytes. -/
structure KeysasHybridSignature where
  classic : List UInt8
  pq : schemes.mlDsa87.Signature

variable {schemes}

/-- `verify_key_signatures`: both signatures are valid. -/
def verifyKeySignatures (message : List UInt8) (signatures : KeysasHybridSignature schemes)
    (pubkeys : KeysasHybridPubKeys schemes) : Bool :=
  schemes.ed25519.verifyStrict pubkeys.classic message signatures.classic &&
    schemes.mlDsa87.verify pubkeys.pq message signatures.pq

/-- The transparent schemes. -/
def transparentSchemes : Schemes :=
  ⟨transparentEd25519, transparentMlDsa87⟩

/-- The public keys of a transparent key. -/
def transparentPubKeys (key : UInt8) : KeysasHybridPubKeys transparentSchemes where
  classic := key
  pq := key

end Keysas.Keys
