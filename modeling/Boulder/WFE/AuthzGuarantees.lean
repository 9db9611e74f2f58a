/-
# Boulder.WFE.AuthzGuarantees -- what the authorization endpoints guarantee, over every run

The flow's invariant (`Boulder.WFE.AuthzSafety`) read as the guarantees a maintainer relies on:

* **The store is well formed** in every reachable state (`authzTables_wellFormed`): pending
  statuses only in the pending table, IDs distinct over both tables, challenge keys increasing,
  every challenge row owned by a stored authorization, and an authorization read back in a
  pending status is `pending` with open challenges.
* **A valid authorization is backed** (`getAuthorization_valid_backed`): some non-empty
  combination of its challenges was validated by the VA for the account, with sane records and
  the key authorization the account's key gives.
* **Issuance rests on it** (`newCertificate_backed`): `NewCertificate`, reading the flow's
  tables, issues only for names that carry such a backed authorization of the account.
* **Final rows are never lost** (`finalRows_kept`): from any state, every later state holds each
  final authorization with the same fields and challenges, its status at most deactivated or
  revoked.

Beside them, what one call does: `newAuthorization_outcome` (reuse, or a fresh pending
authorization with the challenges the policy offers) and
`updateAuthorization_accepts_keyAuthorization` (the key authorization an honest client
computes is accepted).

The witnesses run one deployment: one account, a policy authority for `example.com`, `http-01`
only, and four calls that take an authorization from `new-authz` to valid.
-/
import Boulder.WFE.AuthzSafety
import Boulder.WFE.Registration

namespace Boulder.WFE

open Boulder.Core Boulder.Goodkey Boulder.Jose Boulder.SA Boulder.Policy Boulder.Ratelimit
  Boulder.Lib.Run Boulder.Lib.Base64 Boulder.Lib.GoStrings

/-! ## A deployment and one run through it -/

/-- Registration 1 holds `subscriberKey` and has agreed to the subscriber agreement. -/
def flowRegistrations : RegTables :=
  ⟨[⟨1, RA.subscriberKey, RA.issuanceLibraries.keyDigest RA.subscriberKey.key, [], "terms", 0, 10,
    some .valid⟩], 2⟩

/-- The issuance libraries, with two JWS bodies signed by `subscriberKey` (nonces 1 and 2). -/
def flowLibraries : Libraries :=
  { RA.issuanceLibraries with
    parseSigned := fun body =>
      if body = "new-authz JWS" then
        some ⟨[⟨some RA.subscriberKey, "ES256", "1", RA.subscriberKey.key⟩], "new-authz payload"⟩
      else if body = "challenge JWS" then
        some ⟨[⟨some RA.subscriberKey, "ES256", "2", RA.subscriberKey.key⟩], "challenge payload"⟩
      else none
    unmarshal := fun payload =>
      if payload = "new-authz payload" then
        some { RequestObject.empty with resource := "new-authz" }
      else if payload = "challenge payload" then
        some { RequestObject.empty with resource := "challenge" }
      else none
    decryptNonce := fun nonce =>
      if nonce = "1" then some 1 else if nonce = "2" then some 2 else none }

def flowWFE : WebFrontEndImpl := ⟨newKeyPolicy, "", "", false⟩

/-- No limit; pending authorizations live 1000 ns, valid ones 10000 ns. -/
def flowConfig : RA.AuthzConfig :=
  let off : RateLimitPolicy := ⟨0, 0, [], []⟩
  ⟨⟨off, off, off, off, off, off⟩, 1000, 10000, false, false⟩

def flowThumbprint : List.Vector UInt8 32 := List.Vector.replicate 32 7

/-- The policy authority for `example.com`, `http-01` only, every domain safe. -/
def flowServices : RA.AuthzServices :=
  ⟨RA.issuancePA, fun type => type = challengeTypeHTTP01, false, fun _ => .ok true,
    fun _ => .ok flowThumbprint, fun _ => ""⟩

/-- Tokens of zero bytes, no shuffle, and an ID drawn from bytes of one. -/
def flowDraws : RA.AuthzDraws :=
  ⟨⟨fun _ => List.Vector.replicate 32 0, fun _ => (Equiv.refl _, Equiv.refl _)⟩,
    [List.Vector.replicate 32 1]⟩

def flowAuthzID : String := newToken (List.Vector.replicate 32 1)

def flowToken : String := newToken (List.Vector.replicate 32 0)

def flowKeyAuthorization : String :=
  flowToken ++ "." ++ rawURLEncoding.encodeToString flowThumbprint.toList

/-- The `new-authz` request's object: `Example.com`. -/
def requestedAuthz : Authorization := ⟨"", ⟨.dns, "Example.com"⟩, 0, .pending, none, [], []⟩

def flowDecodeAuthorization (body : String) : Option Authorization :=
  if body = "new-authz payload" then some requestedAuthz else none

/-- The client's response: the key authorization of the challenge. -/
def flowResponse : Challenge :=
  { id := 0, type := challengeTypeHTTP01, status := .pending, token := "",
    providedKeyAuthorization := flowKeyAuthorization }

def flowDecodeChallenge (body : String) : Option Challenge :=
  if body = "challenge payload" then some flowResponse else none

/-- What the VA reports for `example.com`. -/
def flowRecord : ValidationRecord :=
  ⟨none, "http://example.com/.well-known/acme-challenge/", "example.com", "80",
    some [[192, 0, 2, 1]], [192, 0, 2, 1]⟩

/-- `new-authz` at 10, a POST to the challenge at 20 going on at 30, and the VA's answer at 40. -/
def flowCalls : List AuthzCall :=
  [.newAuthorization ⟨true, some "new-authz JWS", "", "https", "acme.example", "", none⟩ 10
      flowDraws,
    .challenge .post
      ⟨true, some "challenge JWS", flowAuthzID ++ "/1", "https", "acme.example", "", none⟩ 20,
    .resume 0 30,
    .validate 0 (some [flowRecord]) none 40]

/-- The state the run leaves. -/
def flowState : AuthzState :=
  final (authzStep flowWFE flowLibraries ⟨false, false⟩ flowConfig flowServices flowRegistrations
    false flowDecodeAuthorization flowDecodeChallenge) (AuthzState.init 10) flowCalls

theorem flowState_reachable :
    Reachable (authzStep flowWFE flowLibraries ⟨false, false⟩ flowConfig flowServices
      flowRegistrations false flowDecodeAuthorization flowDecodeChallenge) (AuthzState.init 10)
      flowState :=
  ⟨flowCalls, rfl⟩

/-- The challenge offered, under key 1. -/
def flowChallenge : Challenge :=
  { id := 1, type := challengeTypeHTTP01, status := .pending, token := flowToken,
    providedKeyAuthorization := "" }

/-- The authorization `new-authz` creates. -/
def flowPendingAuthz : Authorization :=
  { id := flowAuthzID, identifier := ⟨.dns, "example.com"⟩, registrationID := 1,
    status := .pending, expires := some 1010, challenges := [flowChallenge],
    combinations := [[0]] }

/-- The tables after `new-authz`. -/
def flowTables : AuthzTables := ⟨[toRow flowPendingAuthz], [], [⟨flowAuthzID, flowChallenge⟩]⟩

/-- The authorization the VA's answer makes valid. -/
def validFlowAuthz : Authorization :=
  { flowPendingAuthz with
    status := .valid
    expires := some (40 + 10000)
    challenges :=
      [{ flowChallenge with
         status := .valid
         providedKeyAuthorization := flowKeyAuthorization
         validationRecord := some [flowRecord] }] }

theorem flowState_getAuthorization :
    getAuthorization flowState.tables flowAuthzID = .ok validFlowAuthz := by
  decide +kernel

/-- The flow's libraries with a third body: a deactivation signed by `subscriberKey` (nonce 3). -/
def deactivationLibraries : Libraries :=
  { flowLibraries with
    parseSigned := fun body =>
      if body = "deactivate JWS" then
        some ⟨[⟨some RA.subscriberKey, "ES256", "3", RA.subscriberKey.key⟩], "deactivate payload"⟩
      else flowLibraries.parseSigned body
    unmarshal := fun payload =>
      if payload = "deactivate payload" then
        some { RequestObject.empty with resource := "authz", status := some .deactivated }
      else flowLibraries.unmarshal payload
    decryptNonce := fun nonce => if nonce = "3" then some 3 else flowLibraries.decryptNonce nonce }

/-- The flow, then a POST to the valid authorization at 50 asking to deactivate it. -/
def deactivationCalls : List AuthzCall :=
  flowCalls ++
    [.authorization .post ⟨true, some "deactivate JWS", flowAuthzID, "https", "acme.example", "", none⟩
      50]

/-- The state the run leaves, with deactivation allowed: the POST is in flight. -/
def deactivationState : AuthzState :=
  final (authzStep flowWFE deactivationLibraries ⟨false, false⟩ flowConfig flowServices
    flowRegistrations true flowDecodeAuthorization flowDecodeChallenge) (AuthzState.init 10)
    deactivationCalls

/-! ## Every reachable state -/

section Reachable

variable {wfe : WebFrontEndImpl} {lib : Libraries} {fs : Features} {cfg : RA.AuthzConfig}
  {sv : RA.AuthzServices} {regs : RegTables} {allowAuthzDeactivation : Bool}
  {decodeAuthorization : String → Option Authorization} {decodeChallenge : String → Option Challenge}
  {s : AuthzState} {maxUsed : ℕ}

/-- **The store is well formed.** In every reachable state: the pending table holds pending,
deactivated and revoked rows, `authz` none in a pending status; no ID is in two rows of the two
tables; challenge keys increase; every challenge row belongs to a stored authorization; and an
authorization `GetAuthorization` returns has no empty combination and, in a pending status, is
`pending` with every challenge not valid and without a problem. -/
theorem authzTables_wellFormed
    (h : Reachable (authzStep wfe lib fs cfg sv regs allowAuthzDeactivation decodeAuthorization
      decodeChallenge) (AuthzState.init maxUsed) s) :
    (∀ a ∈ s.tables.pendingAuthorizations,
        a.status = .pending ∨ a.status = .deactivated ∨ a.status = .revoked) ∧
      (∀ a ∈ s.tables.authz, statusIsPending a.status = false) ∧
      ((s.tables.pendingAuthorizations ++ s.tables.authz).map (·.id)).Nodup ∧
      (s.tables.challenges.map (·.chall.id)).Pairwise (· < ·) ∧
      (∀ c ∈ s.tables.challenges,
        c.authorizationID ∈ (s.tables.pendingAuthorizations ++ s.tables.authz).map (·.id)) ∧
      (∀ id a, getAuthorization s.tables id = .ok a →
        (∀ combo ∈ a.combinations, combo ≠ []) ∧
        (statusIsPending a.status = true →
          a.status = .pending ∧ ∀ c ∈ a.challenges, c.status ≠ .valid ∧ c.error = none)) := by
  have ht := (flowInv_reachable h).tables
  refine ⟨ht.pendingStatus, ht.finalStatus, ht.ids, ht.keys, fun c hc => ?_, fun id a hget => ?_⟩
  · rw [List.map_append, List.mem_append]
    rcases ht.owned c hc with hp | hf
    · exact .inl (existingPending_eq_true.mp hp)
    · exact .inr (existingFinal_eq_true.mp hf)
  · have hcopy := ht.copyOK hget
    refine ⟨hcopy.combos, fun hpending => ?_⟩
    obtain ⟨hstatus, hopen⟩ := hcopy.pending hpending
    exact ⟨hstatus, fun c hc => ⟨(hopen c hc).notValid, (hopen c hc).noError⟩⟩

theorem flowState_wellFormed :
    (∀ a ∈ flowState.tables.pendingAuthorizations,
        a.status = .pending ∨ a.status = .deactivated ∨ a.status = .revoked) ∧
      (∀ a ∈ flowState.tables.authz, statusIsPending a.status = false) ∧
      ((flowState.tables.pendingAuthorizations ++ flowState.tables.authz).map (·.id)).Nodup ∧
      (flowState.tables.challenges.map (·.chall.id)).Pairwise (· < ·) ∧
      (∀ c ∈ flowState.tables.challenges, c.authorizationID ∈
        (flowState.tables.pendingAuthorizations ++ flowState.tables.authz).map (·.id)) ∧
      (∀ id a, getAuthorization flowState.tables id = .ok a →
        (∀ combo ∈ a.combinations, combo ≠ []) ∧
        (statusIsPending a.status = true →
          a.status = .pending ∧ ∀ c ∈ a.challenges, c.status ≠ .valid ∧ c.error = none)) :=
  authzTables_wellFormed flowState_reachable

/-- **A valid authorization is backed.** In every reachable state, an authorization that
`GetAuthorization` returns valid has a non-empty combination of its challenges each of which the
VA validated for its account: valid, without a problem, with records `RecordsSane` accepts, and
carrying the key authorization the account's key gives the challenge's token. -/
theorem getAuthorization_valid_backed
    (h : Reachable (authzStep wfe lib fs cfg sv regs allowAuthzDeactivation decodeAuthorization
      decodeChallenge) (AuthzState.init maxUsed) s)
    {id : String} {a : Authorization} (hget : getAuthorization s.tables id = .ok a)
    (hvalid : a.status = .valid) :
    Backed regs fs sv.thumbprint a a.challenges :=
  (flowInv_reachable h).tables.backed_of_getAuthorization hget hvalid

theorem validFlowAuthz_backed :
    Backed flowRegistrations ⟨false, false⟩ flowServices.thumbprint validFlowAuthz
      validFlowAuthz.challenges :=
  getAuthorization_valid_backed flowState_reachable flowState_getAuthorization rfl

/-- **Issuance rests on backed authorizations.** In every reachable state, a certificate that
`NewCertificate` issues from the flow's tables names only DNS names for each of which the
requesting account holds a valid, unexpired authorization backed by its validated challenges. -/
theorem newCertificate_backed
    (h : Reachable (authzStep wfe lib fs cfg sv regs allowAuthzDeactivation decodeAuthorization
      decodeChallenge) (AuthzState.init maxUsed) s)
    {ra : RA.RegistrationAuthorityImpl} {pa : PolicyAuthority} {ca : CertificateAuthority}
    {sa : RA.LimitsSA} {publicSuffixDomain : String → Option String} {issued : RA.TotalIssued}
    {now : Time} {req : CertificateRequest} {regID : ℤ} {cert : Certificate}
    (hcert : RA.newCertificate lib.toLibraries fs ra pa ca sa publicSuffixDomain issued regs
      s.tables now req regID = .ok cert) :
    ∀ name ∈ (CSR.normalizeCSR req ra.forceCNFromSAN).dnsNames, ∃ a ∈ s.tables.authz,
      a.registrationID = regID ∧ a.identifier = ⟨.dns, toLower name⟩ ∧ a.status = .valid ∧
        expiresAfter a now = true ∧
        Backed regs fs sv.thumbprint a (challengesOf s.tables.challenges a.id) := by
  obtain ⟨registration, -, hr, -, hauthz, -, -⟩ := RA.newCertificate_eq_ok hcert
  have hid : registration.id = regID := by
    obtain ⟨rm, -, hrm, rfl⟩ := getRegistration_eq_ok hr
    simpa using hrm
  intro name hname
  obtain ⟨a, ha, hreg, hident, hvalid, hexp⟩ := RA.checkAuthorizations_eq_ok hauthz name hname
  exact ⟨a, ha, hreg.trans hid, hident, hvalid, hexp,
    (flowInv_reachable h).tables.backed a ha hvalid⟩

/-- The certificate `NewCertificate` issues at 100 for `csrFor "Example.com"` rests on the
authorization the run validated. -/
theorem flowState_issuance_backed :
    ∃ a ∈ flowState.tables.authz, a.registrationID = 1 ∧
      a.identifier = ⟨.dns, toLower "example.com"⟩ ∧ a.status = .valid ∧
        expiresAfter a 100 = true ∧
        Backed flowRegistrations ⟨false, false⟩ flowServices.thumbprint a
          (challengesOf flowState.tables.challenges a.id) := by
  have hcert : RA.newCertificate flowLibraries.toLibraries ⟨false, false⟩ RA.issuanceRA
      RA.issuancePA (RA.issuingCA [1]) RA.noCounts (fun _ => none) ⟨0, 0⟩ flowRegistrations
      flowState.tables 100 (RA.csrFor "Example.com") 1 = .ok ⟨1, serialToString 1, [1]⟩ := by
    decide +kernel
  have hname : "example.com" ∈ (CSR.normalizeCSR (RA.csrFor "Example.com") false).dnsNames := by
    decide +kernel
  exact newCertificate_backed flowState_reachable hcert "example.com" hname

/-- **Only the owner deactivates.** In every reachable state, a row that a call leaves
deactivated was already there, deactivated; or the call carried out a POST in flight to the
row's ID, a JWS whose one signature verifies under the key of the stored account that owns the
row. Copies read before a write still name their row's account, so no interleaving lets one
account's request deactivate another's authorization. -/
theorem deactivation_by_owner
    (h : Reachable (authzStep wfe lib fs cfg sv regs allowAuthzDeactivation decodeAuthorization
      decodeChallenge) (AuthzState.init maxUsed) s)
    (call : AuthzCall) {a : Authorization}
    (ha : a ∈ (authzStep wfe lib fs cfg sv regs allowAuthzDeactivation decodeAuthorization
        decodeChallenge s call).1.tables.pendingAuthorizations ++
      (authzStep wfe lib fs cfg sv regs allowAuthzDeactivation decodeAuthorization
        decodeChallenge s call).1.tables.authz)
    (hdeact : a.status = .deactivated) :
    a ∈ s.tables.pendingAuthorizations ++ s.tables.authz ∨
      ∃ (k : ℕ) (authz : Authorization) (request : Request),
        s.inFlight[k]? = some (.authzPost authz request) ∧ authz.id = a.id ∧
        ∃ (body payload : String) (jws : JsonWebSignature) (sig : Signature), ∃ rm ∈ regs.rows,
          request.body = some body ∧ lib.parseSigned body = some jws ∧ jws.signatures = [sig] ∧
          jws.verify rm.key = .ok payload ∧ rm.id = a.registrationID := by
  obtain ⟨hinv, hown⟩ := ownersAgree_reachable h
  rcases (move_authzStep s call).deactivated hinv hown ha hdeact with hold |
      ⟨k, authz, request, ns, payload, key, reg, hp, hverify, hid, hreg⟩
  · exact .inl hold
  obtain ⟨body, jws, sig, rm, hrm, hbody, hjws, hsigs, hsigned, -, rfl⟩ :=
    verifyPOST_signed_by_account wfe lib fs hverify
  exact .inr ⟨k, authz, request, hp, hid, body, payload, jws, sig, rm, hrm, hbody, hjws, hsigs,
    hsigned, hreg⟩

/-- Going on with the POST at 60 deactivates the valid authorization, which was not deactivated
before: the deactivation comes from the POST, signed under account 1's key. -/
theorem deactivationState_signed :
    ∃ (k : ℕ) (authz : Authorization) (request : Request),
      deactivationState.inFlight[k]? = some (.authzPost authz request) ∧ authz.id = flowAuthzID ∧
      ∃ (body payload : String) (jws : JsonWebSignature) (sig : Signature),
        ∃ rm ∈ flowRegistrations.rows, request.body = some body ∧
          deactivationLibraries.parseSigned body = some jws ∧ jws.signatures = [sig] ∧
          jws.verify rm.key = .ok payload ∧ rm.id = 1 := by
  have hreach : Reachable (authzStep flowWFE deactivationLibraries ⟨false, false⟩ flowConfig
      flowServices flowRegistrations true flowDecodeAuthorization flowDecodeChallenge)
      (AuthzState.init 10) deactivationState := ⟨deactivationCalls, rfl⟩
  have hmem : { toRow validFlowAuthz with status := .deactivated } ∈
      (authzStep flowWFE deactivationLibraries ⟨false, false⟩ flowConfig flowServices
        flowRegistrations true flowDecodeAuthorization flowDecodeChallenge deactivationState
        (.resume 0 60)).1.tables.pendingAuthorizations ++
      (authzStep flowWFE deactivationLibraries ⟨false, false⟩ flowConfig flowServices
        flowRegistrations true flowDecodeAuthorization flowDecodeChallenge deactivationState
        (.resume 0 60)).1.tables.authz := by
    decide +kernel
  have hbefore : { toRow validFlowAuthz with status := .deactivated } ∉
      deactivationState.tables.pendingAuthorizations ++ deactivationState.tables.authz := by
    decide +kernel
  rcases deactivation_by_owner hreach (.resume 0 60) hmem rfl with hold | hnew
  · exact absurd hold hbefore
  · exact hnew

end Reachable

/-! ## Every run -/

section Runs

variable (wfe : WebFrontEndImpl) (lib : Libraries) (fs : Features) (cfg : RA.AuthzConfig)
  (sv : RA.AuthzServices) (regs : RegTables) (allowAuthzDeactivation : Bool)
  (decodeAuthorization : String → Option Authorization) (decodeChallenge : String → Option Challenge)

/-- **Final rows are never lost.** From any state, after any calls, every row of `authz` is still
there with the same ID, identifier, account, expiry and combinations, its status the same or
deactivated or revoked, and it reads back the same challenges. -/
theorem finalRows_kept (s : AuthzState) (calls : List AuthzCall) :
    FinalKept s.tables (final (authzStep wfe lib fs cfg sv regs allowAuthzDeactivation
      decodeAuthorization decodeChallenge) s calls).tables :=
  -- a climb under no invariant: every call's write keeps the final rows
  @final_climbs _ _ _ _ (fun _ => True) (fun s s' => FinalKept s.tables s'.tables)
    (fun s => .refl s.tables)
    (fun a b c (h : FinalKept a.tables b.tables) (h' : FinalKept b.tables c.tables) => h.trans h')
    (fun _ _ _ => trivial)
    (fun s call _ => (move_authzStep s call).finalKept) s calls trivial

end Runs

/-! ## One call -/

section Calls

variable {cfg : RA.AuthzConfig} {sv : RA.AuthzServices} {regs : RegTables} {fs : Features}

/-- **What `NewAuthorization` returns.** Its checks passed, and either it reused an authorization
and wrote nothing, or it stored a new pending authorization under an ID no row had: for the
lowercased identifier and the account, expiring after the pending lifetime, with one challenge of
each type the policy offers, each sane to offer, without a problem or records, and keyed above
every stored challenge, and one single-challenge combination for each. -/
theorem newAuthorization_outcome {t t' : AuthzTables} {now : Time} {draws : RA.AuthzDraws}
    {request out : Authorization} {regID : ℤ}
    (h : RA.newAuthorization cfg sv t now draws request regID = some (t', .ok out)) :
    RA.newAuthorizationChecks cfg sv t now (RA.lowerIdentifier request) regID = .ok () ∧
      ((t' = t ∧ RA.reusableAuthorization cfg t now (RA.lowerIdentifier request) regID =
          .ok (some out)) ∨
        (RA.reusableAuthorization cfg t now (RA.lowerIdentifier request) regID = .ok none ∧
          existingPending t out.id = false ∧ existingFinal t out.id = false ∧
          out.identifier = RA.lowerIdentifier request ∧ out.registrationID = regID ∧
          out.status = .pending ∧ out.expires = some (now + cfg.pendingAuthorizationLifetime) ∧
          (out.challenges.map (·.type)).Perm (offeredTypes sv.enabledChallenges sv.allowTLS02) ∧
          (∀ c ∈ out.challenges, c.isSaneForClientOffer = true ∧ c.error = none ∧
            c.validationRecord = none ∧ nextChallengeID t.challenges ≤ c.id) ∧
          out.combinations.Perm ((List.range out.challenges.length).map fun i : ℕ => [(i : ℤ)]) ∧
          t' = { t with
            pendingAuthorizations := t.pendingAuthorizations ++ [toRow out]
            challenges := t.challenges ++ out.challenges.map fun c => ⟨out.id, c⟩ })) := by
  rcases RA.newAuthorization_eq_some cfg sv h with ⟨rfl, hreused⟩ | ⟨hchecks, hnone, out', hnew, hout⟩
  · obtain ⟨hchecks, hreuse⟩ := hreused out rfl
    exact ⟨hchecks, .inl ⟨rfl, hreuse⟩⟩
  cases hout
  obtain ⟨id, hid, rfl, rfl⟩ := newPendingAuthorization_eq_some hnew
  obtain ⟨hnp, hnf, -⟩ := freshAuthzID_eq_some hid
  have hspec := challengesFor_spec sv.enabledChallenges sv.allowTLS02 draws.challenges
  set offered := RA.pendingAuthz cfg sv now (RA.lowerIdentifier request) regID draws.challenges
  set rows := challengeRows id (nextChallengeID t.challenges) offered.challenges with hrows
  have hlen : (rows.map (·.chall)).length = offered.challenges.length := by
    simp [hrows, challengeRows]
  refine ⟨hchecks, .inr ⟨hnone, hnp, hnf, rfl, rfl, rfl, rfl, ?types, ?challenges, ?combos, ?tables⟩⟩
  case types =>
    rw [hrows, map_chall_challengeRows (·.type) (fun _ _ => rfl)]
    exact hspec.1
  case challenges =>
    intro c hc
    obtain ⟨row, hrow, rfl⟩ := List.mem_map.mp hc
    obtain ⟨-, hnext, ch, hch, hrowch⟩ := mem_challengeRows hrow
    obtain ⟨hsane, herr, hrec⟩ := hspec.2.1 ch hch
    rw [hrowch]
    exact ⟨hsane, herr, hrec, hnext⟩
  case combos =>
    show offered.combinations.Perm _
    rw [hlen]
    exact hspec.2.2
  case tables =>
    have hrowsEq : rows = (rows.map ChallModel.chall).map (ChallModel.mk id) :=
      challengeRows_eq_map id _ _
    conv_lhs => rw [hrowsEq]
    rfl

theorem flowNewAuthorization_outcome :
    RA.newAuthorization flowConfig flowServices ⟨[], [], []⟩ 10 flowDraws requestedAuthz 1 =
        some (flowTables, .ok flowPendingAuthz) ∧
      RA.newAuthorizationChecks flowConfig flowServices ⟨[], [], []⟩ 10
          (RA.lowerIdentifier requestedAuthz) 1 = .ok () := by
  have h : RA.newAuthorization flowConfig flowServices ⟨[], [], []⟩ 10 flowDraws requestedAuthz 1 =
      some (flowTables, .ok flowPendingAuthz) := by
    decide +kernel
  exact ⟨h, (newAuthorization_outcome h).1⟩

/-- **An honest response is accepted.** On an unexpired copy whose indexed challenge was offered
and that `reuseValidAuthz` does not return as it is, a response carrying the key authorization
the account's key gives the challenge passes every check of `UpdateAuthorization`: the copy with
the response is stored, returned, and its validation started, whenever the SA takes the write. -/
theorem updateAuthorization_accepts_keyAuthorization {t t' : AuthzTables} {now expires : Time}
    {base : Authorization} {i : ℕ} {ch response : Challenge}
    (hexpires : base.expires = some expires) (hnow : ¬ expires < now)
    (hch : base.challenges[i]? = some ch) (hoffer : ch.isSaneForClientOffer = true)
    (hreuse : ¬ (cfg.reuseValidAuthz = true ∧ base.status = .valid))
    (hkey : KeyAuthorized regs fs sv.thumbprint
      { ch with providedKeyAuthorization := response.providedKeyAuthorization }
      base.registrationID)
    (hstored : updatePendingAuthorization t { base with
      challenges := base.challenges.set i
        { ch with providedKeyAuthorization := response.providedKeyAuthorization } } = .ok t') :
    RA.updateAuthorization cfg sv regs fs t now base i response =
      .ok (t', { base with
        challenges := base.challenges.set i
          { ch with providedKeyAuthorization := response.providedKeyAuthorization } },
        some ⟨{ base with
          challenges := base.challenges.set i
            { ch with providedKeyAuthorization := response.providedKeyAuthorization } }, i⟩) := by
  obtain ⟨reg, hreg, hexpected⟩ := hkey
  have hka : ch.expectedKeyAuthorization sv.thumbprint reg.key =
      .ok response.providedKeyAuthorization := by
    rw [Challenge.expectedKeyAuthorization_of_token_eq
      (show ch.token = ({ ch with providedKeyAuthorization := response.providedKeyAuthorization } :
        Challenge).token from rfl)]
    exact hexpected
  have hsane := Challenge.isSaneForValidation_expected hoffer hka
  rw [hexpires] at hstored
  unfold RA.updateAuthorization
  simp only [hexpires, hnow, hch, hreuse, hreg, hka, hsane, hstored, if_false, ne_eq,
    not_true_eq_false, Bool.not_true, Bool.false_eq_true]

theorem flowResponse_accepted :
    RA.updateAuthorization flowConfig flowServices flowRegistrations ⟨false, false⟩ flowTables 30
        flowPendingAuthz 0 flowResponse =
      .ok (⟨[toRow { flowPendingAuthz with
          challenges := [{ flowChallenge with providedKeyAuthorization := flowKeyAuthorization }] }],
        [], [⟨flowAuthzID, { flowChallenge with providedKeyAuthorization := flowKeyAuthorization }⟩]⟩,
        { flowPendingAuthz with
          challenges := [{ flowChallenge with providedKeyAuthorization := flowKeyAuthorization }] },
        some ⟨{ flowPendingAuthz with
          challenges := [{ flowChallenge with providedKeyAuthorization := flowKeyAuthorization }] },
          0⟩) := by
  have hexpires : flowPendingAuthz.expires = some 1010 := rfl
  have hch : flowPendingAuthz.challenges[0]? = some flowChallenge := rfl
  have hkey : KeyAuthorized flowRegistrations ⟨false, false⟩ flowServices.thumbprint
      { flowChallenge with providedKeyAuthorization := flowResponse.providedKeyAuthorization } 1 :=
    ⟨_, rfl, by decide +kernel⟩
  exact updateAuthorization_accepts_keyAuthorization hexpires (by decide) hch (by decide +kernel)
    (by decide) hkey (by decide +kernel)

end Calls

end Boulder.WFE
