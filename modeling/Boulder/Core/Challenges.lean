/-
# Boulder.Core.Challenges -- challenges, tokens and key authorizations

A challenge is offered with a fresh token, `NewToken`: 32 random bytes in unpadded URL-safe
base64, which always has the shape `LooksLikeAToken` asks for, 43 characters of `[\w-]`
(`looksLikeAToken_newToken`). The client answers with a key authorization, the token, a dot and
the base64 of its account key's SHA-256 thumbprint; the RA computes the one it expects with
`ExpectedKeyAuthorization` and compares. `IsSane` is the double check before a challenge is
offered (pending, a token, no key authorization yet) and before it is validated (pending, a
token, a key authorization of the right shape); `RecordsSane` checks what the VA reports back.

The RA compares the key authorization before it checks its shape, so the shape check can only
fail on a challenge that is not pending or whose token is malformed: what the RA expects always
has the shape (`isSaneForValidation_expected`). The thumbprint is a parameter, `Thumbprint` of
go-jose with SHA-256, which fails or gives 32 bytes.
-/
import Mathlib.Data.Vector.Defs
import Boulder.Core.Objects
import Boulder.Lib.Base64
import Boulder.Lib.GoStrings
import Boulder.Lib.Loop

namespace Boulder.Core

open Boulder.Jose Boulder.Lib.Loop Boulder.Lib.GoStrings Boulder.Lib.Base64

/-! ## Challenge types -/

def challengeTypeHTTP01 : String := "http-01"
def challengeTypeTLSSNI01 : String := "tls-sni-01"
def challengeTypeTLSSNI02 : String := "tls-sni-02"
def challengeTypeDNS01 : String := "dns-01"

/-- `ValidChallenge`, with `features.Enabled(features.AllowTLS02Challenges)` as `allowTLS02`. -/
def validChallenge (allowTLS02 : Bool) (name : String) : Bool :=
  if name = challengeTypeHTTP01 ∨ name = challengeTypeTLSSNI01 ∨ name = challengeTypeDNS01 then
    true
  else if name = challengeTypeTLSSNI02 then allowTLS02
  else false

/-! ## Tokens and key authorizations -/

/-- A character of the class `[\w-]`: an ASCII letter or digit, `_` or `-`. -/
def isTokenChar (c : Char) : Bool :=
  c.isAlphanum || c == '_' || c == '-'

/-- `LooksLikeAToken`: the pattern `^[\w-]{43}$`, which counts characters. -/
def looksLikeAToken (token : String) : Bool :=
  token.length == 43 && token.toList.all isTokenChar

/-- `NewToken`: `RandomString(32)`, the 32 random bytes it reads in unpadded URL-safe base64. -/
def newToken (random : List.Vector UInt8 32) : String :=
  rawURLEncoding.encodeToString random.toList

/-- `looksLikeKeyAuthorization`: two pieces around a dot, each of the shape of a token. -/
def looksLikeKeyAuthorization (str : String) : Except String Unit :=
  match split str '.' with
  | [token, thumbprint] =>
    if !looksLikeAToken token then .error "Invalid key authorization: malformed token"
    else if !looksLikeAToken thumbprint then
      .error "Invalid key authorization: malformed key thumbprint"
    else .ok ()
  | _ => .error "Invalid key authorization: does not look like a key authorization"

/-! ## Challenges -/

/-- `newChallenge`: pending, with a fresh token. -/
def newChallenge (challengeType : String) (random : List.Vector UInt8 32) : Challenge :=
  { id := 0, type := challengeType, status := .pending, token := newToken random,
    providedKeyAuthorization := "" }

/-- `HTTPChallenge01`. -/
def httpChallenge01 (random : List.Vector UInt8 32) : Challenge :=
  newChallenge challengeTypeHTTP01 random

/-- `TLSSNIChallenge01`. -/
def tlsSNIChallenge01 (random : List.Vector UInt8 32) : Challenge :=
  newChallenge challengeTypeTLSSNI01 random

/-- `TLSSNIChallenge02`. -/
def tlsSNIChallenge02 (random : List.Vector UInt8 32) : Challenge :=
  newChallenge challengeTypeTLSSNI02 random

/-- `DNSChallenge01`. -/
def dnsChallenge01 (random : List.Vector UInt8 32) : Challenge :=
  newChallenge challengeTypeDNS01 random

namespace Challenge

/-- `ExpectedKeyAuthorization`: the token, a dot, and the account key's thumbprint. -/
def expectedKeyAuthorization (thumbprint : JsonWebKey → Except String (List.Vector UInt8 32))
    (ch : Challenge) : Option JsonWebKey → Except String String
  | none => .error "Cannot authorize a nil key"
  | some key => do
    let tp ← thumbprint key
    pure (ch.token ++ "." ++ rawURLEncoding.encodeToString tp.toList)

/-- A record with no address resolved: `len(AddressesResolved) == 0`. -/
def noAddresses (rec : ValidationRecord) : Bool :=
  match rec.addressesResolved with
  | none | some [] => true
  | some (_ :: _) => false

/-- The checks on one record that every record of an `http-01` validation, and the only record of
a `tls-sni` one, must pass. A nil `AddressUsed` is the empty address. -/
def recordIncomplete (rec : ValidationRecord) : Bool :=
  rec.hostname == "" || rec.port == "" || rec.addressUsed == [] || noAddresses rec

/-- `RecordsSane`. -/
def recordsSane (ch : Challenge) : Bool :=
  match ch.validationRecord with
  | none | some [] => false
  | some (rec :: rest) =>
    if ch.type = challengeTypeHTTP01 then
      (rec :: rest).all fun r => !(r.url == "" || recordIncomplete r)
    else if ch.type = challengeTypeTLSSNI01 ∨ ch.type = challengeTypeTLSSNI02 then
      if rest ≠ [] then false
      else if rec.url != "" then false
      else !recordIncomplete rec
    else if ch.type = challengeTypeDNS01 then
      if rest ≠ [] then false
      else rec.hostname != ""
    else false

/-- `IsSane`: before it is offered (`completed = false`) and before it is validated. -/
def isSane (ch : Challenge) (completed : Bool) : Bool :=
  if ch.status ≠ .pending then false
  else if !looksLikeAToken ch.token then false
  else if !completed && ch.providedKeyAuthorization != "" then false
  else if completed && !(looksLikeKeyAuthorization ch.providedKeyAuthorization).isOk then false
  else true

/-- `IsSaneForClientOffer`. -/
def isSaneForClientOffer (ch : Challenge) : Bool := ch.isSane false

/-- `IsSaneForValidation`. -/
def isSaneForValidation (ch : Challenge) : Bool := ch.isSane true

end Challenge

/-- `FindChallenge`: the index of the first challenge with the ID, or `-1`. -/
def Authorization.findChallenge (authz : Authorization) (challengeID : ℤ) : ℤ :=
  match authz.challenges.findIdx? (·.id = challengeID) with
  | some i => i
  | none => -1

/-! ## Tokens and key authorizations -/

/-- Every character of the URL alphabet is in the class `[\w-]`. -/
theorem isTokenChar_of_mem_encodeURL {c : Char} (h : c ∈ encodeURL.toList) :
    isTokenChar c = true :=
  List.all_eq_true.mp (by decide +kernel) c h

/-- 32 bytes in unpadded URL-safe base64 look like a token: 43 characters of the URL alphabet. -/
theorem looksLikeAToken_encode (b : List.Vector UInt8 32) :
    looksLikeAToken (rawURLEncoding.encodeToString b.toList) = true := by
  have hlen : (rawURLEncoding.encodeToString b.toList).length = 43 := by
    rw [Encoding.length_encodeToString, b.toList_length]
    rfl
  have hchars : (rawURLEncoding.encodeToString b.toList).toList.all isTokenChar = true := by
    rw [List.all_eq_true]
    intro c hc
    rw [Encoding.encodeToString, String.toList_ofList] at hc
    exact isTokenChar_of_mem_encodeURL (Encoding.mem_encodeBytes hc)
  simp [looksLikeAToken, hlen, hchars]

theorem looksLikeAToken_newToken (random : List.Vector UInt8 32) :
    looksLikeAToken (newToken random) = true :=
  looksLikeAToken_encode random

theorem dot_not_mem_of_looksLikeAToken {token : String} (h : looksLikeAToken token = true) :
    '.' ∉ token.toList := by
  intro hdot
  have hall : token.toList.all isTokenChar = true := ((Bool.and_eq_true _ _).mp h).2
  have hdotChar : isTokenChar '.' = true := List.all_eq_true.mp hall '.' hdot
  exact absurd hdotChar (by decide)

/-- `looksLikeKeyAuthorization` accepts exactly a token and a thumbprint of the token's shape
around one dot. -/
theorem looksLikeKeyAuthorization_eq_ok {str : String} :
    looksLikeKeyAuthorization str = .ok () ↔
      ∃ token thumbprint, looksLikeAToken token = true ∧ looksLikeAToken thumbprint = true ∧
        str = token ++ "." ++ thumbprint := by
  have hdot : (".".toList) = ['.'] := rfl
  constructor
  · intro h
    unfold looksLikeKeyAuthorization at h
    split at h
    · rename_i token thumbprint hsplit
      simp only [Bool.not_eq_true', ite_error_eq_ok] at h
      refine ⟨token, thumbprint, by simpa using h.1, by simpa using h.2.1, ?_⟩
      have hjoin := join_split str hdot
      rw [hsplit] at hjoin
      rw [← hjoin]
      simp [join, String.ofList_append, String.append_assoc]
    · cases h
  · rintro ⟨token, thumbprint, htoken, hthumb, rfl⟩
    have hsplit : split (token ++ "." ++ thumbprint) '.' = [token, thumbprint] := by
      rw [show "." = String.singleton '.' from rfl, split_append_sep,
        split_of_not_mem (dot_not_mem_of_looksLikeAToken htoken),
        split_of_not_mem (dot_not_mem_of_looksLikeAToken hthumb)]
      rfl
    simp [looksLikeKeyAuthorization, hsplit, htoken, hthumb]

/-- What the RA expects from a challenge with a well-formed token has the shape of a key
authorization. -/
theorem looksLikeKeyAuthorization_expected {thumbprint : JsonWebKey → Except String (List.Vector UInt8 32)}
    {ch : Challenge} {key : Option JsonWebKey} {ka : String}
    (htoken : looksLikeAToken ch.token = true)
    (hka : ch.expectedKeyAuthorization thumbprint key = .ok ka) :
    looksLikeKeyAuthorization ka = .ok () := by
  cases key with
  | none => cases hka
  | some key =>
    obtain ⟨tp, -, hpure⟩ := bind_eq_ok.mp hka
    rw [← Except.ok.inj hpure]
    exact looksLikeKeyAuthorization_eq_ok.mpr ⟨_, _, htoken, looksLikeAToken_encode tp, rfl⟩

/-- The expected key authorization reads only the challenge's token. -/
theorem Challenge.expectedKeyAuthorization_of_token_eq
    {thumbprint : JsonWebKey → Except String (List.Vector UInt8 32)} {ch ch' : Challenge}
    (h : ch.token = ch'.token) (key : Option JsonWebKey) :
    ch.expectedKeyAuthorization thumbprint key = ch'.expectedKeyAuthorization thumbprint key := by
  cases key <;> simp [Challenge.expectedKeyAuthorization, h]

/-! ## Sanity -/

/-- `IsSane`, check by check. -/
theorem Challenge.isSane_eq_true {ch : Challenge} {completed : Bool} :
    ch.isSane completed = true ↔
      ch.status = .pending ∧ looksLikeAToken ch.token = true ∧
        (completed = false → ch.providedKeyAuthorization = "") ∧
        (completed = true → looksLikeKeyAuthorization ch.providedKeyAuthorization = .ok ()) := by
  cases completed <;> simp [Challenge.isSane, ← isOk_eq_true_iff]

/-- A challenge offered to the client, answered with the key authorization the RA expects, is
sane for validation. -/
theorem Challenge.isSaneForValidation_expected
    {thumbprint : JsonWebKey → Except String (List.Vector UInt8 32)} {ch : Challenge}
    {key : Option JsonWebKey} {ka : String} (hoffer : ch.isSaneForClientOffer = true)
    (hka : ch.expectedKeyAuthorization thumbprint key = .ok ka) :
    ({ ch with providedKeyAuthorization := ka } : Challenge).isSaneForValidation = true := by
  obtain ⟨hpending, htoken, -, -⟩ := Challenge.isSane_eq_true.mp hoffer
  exact Challenge.isSane_eq_true.mpr
    ⟨hpending, htoken, by simp, fun _ => looksLikeKeyAuthorization_expected htoken hka⟩

/-- A fresh challenge is sane to offer. -/
theorem newChallenge_isSaneForClientOffer (challengeType : String)
    (random : List.Vector UInt8 32) : (newChallenge challengeType random).isSaneForClientOffer = true :=
  Challenge.isSane_eq_true.mpr ⟨rfl, looksLikeAToken_newToken random, fun _ => rfl, by simp⟩

end Boulder.Core
