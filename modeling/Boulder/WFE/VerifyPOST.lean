/-
# Boulder.WFE.VerifyPOST -- authenticating a POST

Every POST to the WFE goes through `verifyPOST`: it reads the body as a JWS with one signature
and a JWK in its header, finds the account whose key has the JWK's digest, verifies the
signature under that account's key, consumes the anti-replay nonce, and checks the payload's
`resource`. With `regCheck` off (new registrations, revocations) a key without an account is
accepted once it passes the WFE's key policy, with an empty registration of id 0; with it on,
and `AllowAccountDeactivation` on, the account must be valid.

The request is modelled by what the handlers read from it. `jose.ParseSigned`, `json.Unmarshal`
into the handlers' structs, the nonce's decryption and certificate parsing are fields of
`Libraries`; a payload that
decodes is a `RequestObject`, the members the handlers read with Go's zero values for absent
ones. The nonce service is the counter model of `Boulder.Nonce`.

`verifyPOST_eq_ok` states what an accepted request has passed, and `verifyPOST_of_checks` that
passing each check is enough.
-/
import Boulder.Nonce
import Boulder.RA.Registration

namespace Boulder.WFE

open Boulder.Core Boulder.Jose Boulder.Goodkey Boulder.SA Boulder.Nonce

/-- The members of a request payload that the handlers read, as `json.Unmarshal` fills their
structs. An empty status is `none`. -/
structure RequestObject where
  resource : String
  contact : Option (List String)
  agreement : String
  status : Option AcmeStatus
  account : String
  newKey : Option JsonWebKey
  certificate : List UInt8
  reason : Option Reason
  deriving DecidableEq, Repr

/-- The library calls of the WFE: those of the RA, JWS parsing, JSON decoding and the nonce's
decryption. -/
structure Libraries extends RA.Libraries where
  parseSigned : String → Option JsonWebSignature
  unmarshal : String → Option RequestObject
  decryptNonce : String → Option ℤ

/-- An HTTP request, as the handlers read it. `realIP` is the `X-Real-IP` header, empty when
absent; `remoteHost` is the host part of `RemoteAddr` (`none` when `SplitHostPort` fails). -/
structure Request where
  contentLength : Bool
  body : Option String
  path : String
  proto : String
  host : String
  realIP : String
  remoteHost : Option String
  deriving DecidableEq, Repr

/-- The fields of `WebFrontEndImpl` the handlers read. -/
structure WebFrontEndImpl where
  keyPolicy : KeyPolicy
  subscriberAgreementURL : String
  baseURL : String
  acceptRevocationReason : Bool

/-- `unknownKey`. -/
def unknownKey : String := "No registration exists matching provided key"

/-- `problemDetailsForError` on a Boulder error, with the handler's message. -/
def problemDetailsForError (err : BoulderError) (msg : String) : ProblemDetails :=
  match err.type with
  | .notSupported => ⟨.serverInternal, msg ++ " :: " ++ err.detail, 501⟩
  | .malformed | .signatureValidation => malformed (msg ++ " :: " ++ err.detail)
  | .unauthorized => unauthorized (msg ++ " :: " ++ err.detail)
  | .notFound => notFound (msg ++ " :: " ++ err.detail)
  | .rateLimit => rateLimited (msg ++ " :: " ++ err.detail)
  | .rejectedIdentifier => ⟨.rejectedIdentifier, msg, 400⟩
  | .unsupportedIdentifier => ⟨.unsupportedIdentifier, msg, 400⟩
  | .invalidEmail => ⟨.invalidEmail, msg, 400⟩
  -- internal errors, too many requests, and anything else hide the detail
  | .internalServer | .tooManyRequests | .connectionFailure => serverInternal msg

section VerifyPOST

variable (wfe : WebFrontEndImpl) (lib : Libraries) (fs : Features)

/-- `relativeEndpoint`: the configured base URL, or the request's own scheme and host. -/
def relativeEndpoint (request : Request) (endpoint : String) : String :=
  if wfe.baseURL ≠ "" then wfe.baseURL ++ endpoint
  else request.proto ++ "://" ++ (if request.host = "" then "localhost" else request.host) ++ endpoint

/-- `extractJWSKey`: the JWS, its one signature, and the valid JWK in that signature's
header. -/
def extractJWSKey (body : String) : Except String (JsonWebKey × JsonWebSignature × Signature) :=
  match lib.parseSigned body with
  | none => .error "Parse error reading JWS"
  | some jws =>
    match jws.signatures with
    | _ :: _ :: _ => .error "Too many signatures in POST body"
    | [] => .error "POST JWS not signed"
    | [sig] =>
      match sig.jsonWebKey with
      | none => .error "No JWK in JWS header"
      | some key => if !key.valid then .error "Invalid JWK in JWS header" else .ok (key, jws, sig)

/-- `algorithmForKey`. Every key of the model has one. -/
def algorithmForKey (key : JsonWebKey) : String :=
  match key.key with
  | .rsa _ _ => "RS256"
  | .ecdsa .p256 _ _ => "ES256"
  | .ecdsa .p384 _ _ => "ES384"
  | .ecdsa .p521 _ _ => "ES512"

/-- `checkAlgorithm`, on the header of the JWS's one signature. -/
def checkAlgorithm (key : JsonWebKey) (sig : Signature) : Except BoulderError Unit :=
  let algorithm := algorithmForKey key
  if sig.algorithm ≠ algorithm then
    .error ⟨.signatureValidation, "signature type '" ++ sig.algorithm ++
      "' in JWS header is not supported, expected one of RS256, ES256, ES384 or ES512"⟩
  else if key.algorithm ≠ "" ∧ key.algorithm ≠ algorithm then
    .error ⟨.signatureValidation, "algorithm '" ++ key.algorithm ++ "' on JWK is unacceptable"⟩
  else .ok ()

/-- The key a request is verified under, and its account: the stored key of the account that
holds the submitted key's digest, or, with `regCheck` off and no such account, the submitted
key itself once it passes the WFE's key policy. A registration read from the table always has
its key. -/
def lookupAccount (t : RegTables) (submittedKey : JsonWebKey) (regCheck : Bool) :
    Except ProblemDetails (JsonWebKey × Registration) :=
  match getRegistrationByKey lib.keyDigest t fs submittedKey with
  | .ok reg => .ok (reg.key.getD submittedKey, reg)
  | .error err =>
    if err.type = .notFound ∧ !regCheck then
      match wfe.keyPolicy.goodKey lib.curves submittedKey.key with
      | .error e => .error (malformed e.detail)
      | .ok () => .ok (submittedKey, Registration.empty)
    else if err.type = .notFound then .error (unauthorized unknownKey)
    else .error (serverInternal "Failed to get registration by key")

/-- The checks of `verifyPOST` before the nonce: the body, the JWS, the account, its status, the
algorithm and the signature. Gives the payload, the key, the account and the signature. -/
def verifySignature (t : RegTables) (request : Request) (regCheck : Bool) :
    Except ProblemDetails (String × JsonWebKey × Registration × Signature) :=
  if !request.contentLength then .error contentLengthRequired
  else
    match request.body with
    | none => .error (malformed "No body on POST")
    | some body =>
      match extractJWSKey lib body with
      | .error e => .error (malformed e)
      | .ok (submittedKey, parsedJws, sig) =>
        match lookupAccount wfe lib fs t submittedKey regCheck with
        | .error p => .error p
        | .ok (key, reg) =>
          if regCheck ∧ fs.allowAccountDeactivation ∧ reg.status ≠ some .valid then
            .error (unauthorized ("Registration is not valid, has status '" ++
              (reg.status.map AcmeStatus.name).getD "" ++ "'"))
          else
            match checkAlgorithm key sig with
            | .error e => .error (malformed e.detail)
            | .ok () =>
              match parsedJws.verify key with
              | .error _ => .error (malformed "JWS verification error")
              | .ok payload => .ok (payload, key, reg, sig)

/-- `nonceService.Valid` on the nonce's text: it must decrypt to a counter the service
accepts. -/
def nonceValid (ns : NonceService) (nonce : String) : Bool × NonceService :=
  match lib.decryptNonce nonce with
  | none => (false, ns)
  | some c => ns.valid c

/-- The payload's `resource` check. -/
def checkResource (payload resource : String) : Except ProblemDetails Unit :=
  match lib.unmarshal payload with
  | none => .error (malformed "Request payload did not parse as JSON")
  | some parsed =>
    if parsed.resource = "" then .error (malformed "Request payload does not specify a resource")
    else if parsed.resource ≠ resource then
      .error (malformed ("JWS resource payload does not match the HTTP resource: " ++
        parsed.resource ++ " != " ++ resource))
    else .ok ()

/-- `verifyPOST`: the payload, the key it was verified under and the account, together with the
nonce service, which changes once the nonce has been checked. -/
def verifyPOST (t : RegTables) (ns : NonceService) (request : Request) (regCheck : Bool)
    (resource : String) : NonceService × Except ProblemDetails (String × JsonWebKey × Registration) :=
  match verifySignature wfe lib fs t request regCheck with
  | .error p => (ns, .error p)
  | .ok (payload, key, reg, sig) =>
    if sig.nonce = "" then (ns, .error (badNonce "JWS has no anti-replay nonce"))
    else
      match nonceValid lib ns sig.nonce with
      | (false, ns') => (ns', .error (badNonce ("JWS has invalid anti-replay nonce " ++ sig.nonce)))
      | (true, ns') =>
        match checkResource lib payload resource with
        | .error p => (ns', .error p)
        | .ok () => (ns', .ok (payload, key, reg))

/-! ## What an accepted request has passed -/

/-- Where the key of an accepted request comes from: a stored account holding the submitted
key's digest, or, only with `regCheck` off, a submitted key without an account that passes the
WFE's key policy. -/
theorem lookupAccount_eq_ok {t : RegTables} {submittedKey key : JsonWebKey} {regCheck : Bool}
    {reg : Registration} (h : lookupAccount wfe lib fs t submittedKey regCheck = .ok (key, reg)) :
    (∃ rm ∈ t.rows, rm.keySHA256 = lib.keyDigest submittedKey.key ∧ key = rm.key ∧
        reg = modelToRegistration fs rm) ∨
      (regCheck = false ∧ t.byDigest (lib.keyDigest submittedKey.key) = none ∧
        wfe.keyPolicy.goodKey lib.curves submittedKey.key = .ok () ∧ key = submittedKey ∧
        reg = Registration.empty) := by
  unfold lookupAccount at h
  match hg : getRegistrationByKey lib.keyDigest t fs submittedKey with
  | .ok r =>
    simp only [hg, Except.ok.injEq, Prod.mk.injEq] at h
    obtain ⟨rm, hrm, hsha, rfl⟩ := getRegistrationByKey_eq_ok lib.keyDigest hg
    exact .inl ⟨rm, hrm, hsha, by rw [← h.1]; rfl, h.2.symm⟩
  | .error err =>
    obtain ⟨hnf, hnone⟩ := getRegistrationByKey_eq_error lib.keyDigest hg
    simp only [hg, hnf, true_and] at h
    cases regCheck with
    | true => simp at h
    | false =>
      simp only [Bool.not_false, if_true] at h
      match hk : wfe.keyPolicy.goodKey lib.curves submittedKey.key with
      | .error _ => simp [hk] at h
      | .ok () =>
        simp only [hk, Except.ok.injEq, Prod.mk.injEq] at h
        exact .inr ⟨rfl, hnone, rfl, h.1.symm, h.2.symm⟩

/-- What `extractJWSKey` accepts: a JWS with one signature, whose header carries a valid JWK. -/
theorem extractJWSKey_eq_ok {body : String} {key : JsonWebKey} {jws : JsonWebSignature}
    {sig : Signature} (h : extractJWSKey lib body = .ok (key, jws, sig)) :
    lib.parseSigned body = some jws ∧ jws.signatures = [sig] ∧ sig.jsonWebKey = some key ∧
      key.valid = true := by
  unfold extractJWSKey at h
  match hp : lib.parseSigned body with
  | none => simp [hp] at h
  | some jws' =>
    simp only [hp] at h
    match hs : jws'.signatures with
    | [] => simp [hs] at h
    | _ :: _ :: _ => simp [hs] at h
    | [s] =>
      simp only [hs] at h
      match hk : s.jsonWebKey with
      | none => simp [hk] at h
      | some k =>
        simp only [hk] at h
        split at h
        · cases h
        · rename_i hvalid
          simp only [Except.ok.injEq, Prod.mk.injEq] at h
          obtain ⟨rfl, rfl, rfl⟩ := h
          exact ⟨rfl, hs, hk, by simpa using hvalid⟩

/-- What passing the signature checks means: one signature, made by the key the request is
verified under, with the account or bare key of `lookupAccount`, valid if it had to be. -/
theorem verifySignature_eq_ok {t : RegTables} {request : Request} {regCheck : Bool}
    {payload : String} {key : JsonWebKey} {reg : Registration} {sig : Signature}
    (h : verifySignature wfe lib fs t request regCheck = .ok (payload, key, reg, sig)) :
    ∃ body jws submittedKey, request.body = some body ∧
      lib.parseSigned body = some jws ∧ jws.signatures = [sig] ∧ sig.jsonWebKey = some submittedKey ∧
      lookupAccount wfe lib fs t submittedKey regCheck = .ok (key, reg) ∧
      (regCheck = true → fs.allowAccountDeactivation = true → reg.status = some .valid) ∧
      sig.signer = key.key ∧ jws.verify key = .ok payload := by
  unfold verifySignature at h
  split at h
  · cases h
  match hb : request.body with
  | none => simp [hb] at h
  | some body =>
    simp only [hb] at h
    match he : extractJWSKey lib body with
    | .error _ => simp [he] at h
    | .ok (submittedKey, jws, sig') =>
      simp only [he] at h
      obtain ⟨hp, hs, hk, -⟩ := extractJWSKey_eq_ok lib he
      match hl : lookupAccount wfe lib fs t submittedKey regCheck with
      | .error _ => simp [hl] at h
      | .ok (key', reg') =>
        simp only [hl] at h
        split at h
        · cases h
        · rename_i hstatus
          match hc : checkAlgorithm key' sig' with
          | .error _ => simp [hc] at h
          | .ok () =>
            simp only [hc] at h
            match hv : jws.verify key' with
            | .error _ => simp [hv] at h
            | .ok p =>
              simp only [hv, Except.ok.injEq, Prod.mk.injEq] at h
              obtain ⟨rfl, rfl, rfl, rfl⟩ := h
              obtain ⟨s, hs', hsigner, -⟩ := JsonWebSignature.verify_eq_ok hv
              rw [hs] at hs'
              cases hs'
              refine ⟨body, jws, submittedKey, rfl, hp, hs, hk, hl, ?_, hsigner, hv⟩
              intro hr hf
              by_contra hne
              exact hstatus ⟨hr, hf, hne⟩

/-- An accepted request passed the signature checks, and its nonce was accepted by the nonce
service, which is the new state. -/
theorem verifyPOST_eq_ok {t : RegTables} {ns ns' : NonceService} {request : Request}
    {regCheck : Bool} {resource payload : String} {key : JsonWebKey} {reg : Registration}
    (h : verifyPOST wfe lib fs t ns request regCheck resource = (ns', .ok (payload, key, reg))) :
    ∃ sig, verifySignature wfe lib fs t request regCheck = .ok (payload, key, reg, sig) ∧
      sig.nonce ≠ "" ∧ nonceValid lib ns sig.nonce = (true, ns') ∧
      checkResource lib payload resource = .ok () := by
  unfold verifyPOST at h
  match hv : verifySignature wfe lib fs t request regCheck with
  | .error _ => simp [hv] at h
  | .ok (payload', key', reg', sig) =>
    simp only [hv] at h
    split at h
    · cases h
    · rename_i hnonce
      match hn : nonceValid lib ns sig.nonce with
      | (false, _) => simp [hn] at h
      | (true, ns'') =>
        simp only [hn] at h
        match hr : checkResource lib payload' resource with
        | .error _ => simp [hr] at h
        | .ok () =>
          simp only [hr, Prod.mk.injEq, Except.ok.injEq] at h
          obtain ⟨rfl, rfl, rfl, rfl⟩ := h
          exact ⟨sig, rfl, hnonce, hn, hr⟩

/-- With the account check on, an accepted request is a JWS whose one signature verifies to the
payload under the key of a stored account, and the account it answers is that one. -/
theorem verifyPOST_signed_by_account {t : RegTables} {ns ns' : NonceService} {request : Request}
    {resource payload : String} {key : JsonWebKey} {reg : Registration}
    (h : verifyPOST wfe lib fs t ns request true resource = (ns', .ok (payload, key, reg))) :
    ∃ body jws sig, ∃ rm ∈ t.rows, request.body = some body ∧ lib.parseSigned body = some jws ∧
      jws.signatures = [sig] ∧ jws.verify rm.key = .ok payload ∧ key = rm.key ∧
      reg = modelToRegistration fs rm := by
  obtain ⟨sig, hsig, -⟩ := verifyPOST_eq_ok wfe lib fs h
  obtain ⟨body, jws, submittedKey, hbody, hjws, hsigs, -, hl, -, -, hverify⟩ :=
    verifySignature_eq_ok wfe lib fs hsig
  rcases lookupAccount_eq_ok wfe lib fs hl with ⟨rm, hrm, -, rfl, rfl⟩ | ⟨hr, -⟩
  · exact ⟨body, jws, sig, rm, hrm, hbody, hjws, hsigs, hverify, rfl, rfl⟩
  · cases hr

/-! ## What an accepted request needs -/

/-- A key whose digest a row holds is verified under that row's key, with that row's account. -/
theorem lookupAccount_of_byDigest {t : RegTables} {submittedKey : JsonWebKey} {regCheck : Bool}
    {rm : RegModel} (h : t.byDigest (lib.keyDigest submittedKey.key) = some rm) :
    lookupAccount wfe lib fs t submittedKey regCheck = .ok (rm.key, modelToRegistration fs rm) := by
  simp [lookupAccount, getRegistrationByKey, h]

/-- The converse of `verifySignature_eq_ok`: a request passing each check passes them all. -/
theorem verifySignature_of_checks {t : RegTables} {request : Request} {regCheck : Bool}
    {body payload : String} {submittedKey key : JsonWebKey} {reg : Registration}
    {jws : JsonWebSignature} {sig : Signature} (hlength : request.contentLength = true)
    (hbody : request.body = some body)
    (hjws : extractJWSKey lib body = .ok (submittedKey, jws, sig))
    (haccount : lookupAccount wfe lib fs t submittedKey regCheck = .ok (key, reg))
    (hstatus : regCheck = true → fs.allowAccountDeactivation = true → reg.status = some .valid)
    (halgorithm : checkAlgorithm key sig = .ok ()) (hverify : jws.verify key = .ok payload) :
    verifySignature wfe lib fs t request regCheck = .ok (payload, key, reg, sig) := by
  have hvalid : ¬ (regCheck = true ∧ fs.allowAccountDeactivation = true ∧
      reg.status ≠ some .valid) := fun ⟨hr, hf, hne⟩ => hne (hstatus hr hf)
  simp [verifySignature, hlength, hbody, hjws, haccount, hvalid, halgorithm, hverify]

/-- The converse of `verifyPOST_eq_ok`. -/
theorem verifyPOST_of_checks {t : RegTables} {ns ns' : NonceService} {request : Request}
    {regCheck : Bool} {resource payload : String} {key : JsonWebKey} {reg : Registration}
    {sig : Signature} (hsig : verifySignature wfe lib fs t request regCheck = .ok (payload, key, reg, sig))
    (hnonce : sig.nonce ≠ "") (hvalid : nonceValid lib ns sig.nonce = (true, ns'))
    (hresource : checkResource lib payload resource = .ok ()) :
    verifyPOST wfe lib fs t ns request regCheck resource = (ns', .ok (payload, key, reg)) := by
  simp [verifyPOST, hsig, hnonce, hvalid, hresource]

/-- `verifyPOST` leaves the nonce service alone or lets it check one nonce. -/
theorem verifyPOST_nonces (t : RegTables) (ns : NonceService) (request : Request) (regCheck : Bool)
    (resource : String) :
    (verifyPOST wfe lib fs t ns request regCheck resource).1 = ns ∨
      ∃ nonce, (verifyPOST wfe lib fs t ns request regCheck resource).1 = (nonceValid lib ns nonce).2 := by
  unfold verifyPOST
  match verifySignature wfe lib fs t request regCheck with
  | .error _ => exact .inl rfl
  | .ok (payload, key, reg, sig) =>
    simp only
    split
    · exact .inl rfl
    · right
      refine ⟨sig.nonce, ?_⟩
      match hn : nonceValid lib ns sig.nonce with
      | (false, ns') => rfl
      | (true, ns') =>
        simp only
        split <;> rfl

end VerifyPOST

end Boulder.WFE
