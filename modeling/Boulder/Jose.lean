/-
# Boulder.Jose -- account keys and signed requests (crypto keys, go-jose v1)

Every ACME request is a JWS. The WFE reads from it the JWK in the signature header, the
header's `alg` and `nonce`, and the payload once `Verify` has checked the signature under a key.

Keys are the two kinds a JWK decodes to, `*rsa.PublicKey` and `*ecdsa.PublicKey` on one of the
named curves. Signatures are symbolic: a signature names the public half of the key pair that
made it, and `Verify` under a key succeeds exactly when that key made the signature with an
algorithm the key's verifier supports. This is the unforgeability the WFE relies on, taken as
the model of the signature scheme; the hashing and the curve arithmetic are not modelled.
`jose.ParseSigned` and `core.KeyDigest` (SHA-256 of the DER) are parameters of the modules that
use them.
-/
import Mathlib.Data.List.Basic
import Mathlib.Data.Int.Notation

namespace Boulder.Jose

/-! ## Keys -/

/-- The named curves a JWK can carry. -/
inductive Curve where
  | p256
  | p384
  | p521
  deriving DecidableEq, Repr

/-- `Params().Name` of a curve. -/
def Curve.name : Curve → String
  | .p256 => "P-256"
  | .p384 => "P-384"
  | .p521 => "P-521"

/-- A public key as a JWK decodes it: an RSA modulus and exponent, or an ECDSA point on a named
curve. -/
inductive PublicKey where
  | rsa (n e : ℕ)
  | ecdsa (curve : Curve) (x y : ℤ)
  deriving DecidableEq, Repr

/-- `jose.JsonWebKey`, with the members the WFE reads: the key and its optional `alg`. -/
structure JsonWebKey where
  key : PublicKey
  algorithm : String
  deriving DecidableEq, Repr

/-- `JsonWebKey.Valid`. A decoded RSA key always has a modulus, but its exponent may be zero. -/
def JsonWebKey.valid (k : JsonWebKey) : Bool :=
  match k.key with
  | .rsa _ e => e ≠ 0
  | .ecdsa _ _ _ => true

/-- `core.PublicKeysEqual`: the PKIX encodings are compared, and the encoding of a key is
injective, so this is equality of keys. -/
def publicKeysEqual (a b : PublicKey) : Bool := a = b

/-! ## Signatures -/

/-- One signature of a JWS: the header members the WFE reads, and the public half of the key
pair that made it. -/
structure Signature where
  jsonWebKey : Option JsonWebKey
  algorithm : String
  nonce : String
  signer : PublicKey
  deriving DecidableEq, Repr

/-- `jose.JsonWebSignature`. -/
structure JsonWebSignature where
  signatures : List Signature
  payload : String
  deriving DecidableEq, Repr

/-- The algorithms `verifyPayload` accepts for a key: the RSA ones for an RSA key, and for an
ECDSA key the one whose signature size is the curve's. -/
def verifierAccepts : PublicKey → String → Bool
  | .rsa _ _, alg => alg ∈ ["RS256", "RS384", "RS512", "PS256", "PS384", "PS512"]
  | .ecdsa .p256 _ _, alg => alg = "ES256"
  | .ecdsa .p384 _ _, alg => alg = "ES384"
  | .ecdsa .p521 _ _, alg => alg = "ES512"

/-- `ErrCryptoFailure`. -/
def errCryptoFailure : String := "square/go-jose: error in cryptographic primitive"

/-- `JsonWebSignature.Verify` under a JWK. The WFE only verifies objects with exactly one
signature; Go indexes the first signature without a check, and the empty case, which would
panic, is a failure here. -/
def JsonWebSignature.verify (jws : JsonWebSignature) (key : JsonWebKey) : Except String String :=
  match jws.signatures with
  | _ :: _ :: _ => .error "square/go-jose: too many signatures in payload; expecting only one"
  | [] => .error errCryptoFailure
  | [sig] =>
    if sig.signer = key.key ∧ verifierAccepts key.key sig.algorithm then .ok jws.payload
    else .error errCryptoFailure

/-- What a successful `Verify` tells: the one signature was made by the key. -/
theorem JsonWebSignature.verify_eq_ok {jws : JsonWebSignature} {key : JsonWebKey} {p : String}
    (h : jws.verify key = .ok p) :
    ∃ sig, jws.signatures = [sig] ∧ sig.signer = key.key ∧ p = jws.payload := by
  unfold verify at h
  match hs : jws.signatures with
  | [] => simp [hs] at h
  | _ :: _ :: _ => simp [hs] at h
  | [sig] =>
    simp only [hs] at h
    split at h
    · rename_i hsig
      exact ⟨sig, rfl, hsig.1, by cases h; rfl⟩
    · cases h

end Boulder.Jose
