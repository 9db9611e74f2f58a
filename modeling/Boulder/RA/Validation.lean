/-
# Boulder.RA.Validation -- new authorizations, challenge responses and their validation

`NewAuthorization` lowercases the identifier, asks the PA whether it may issue for it, checks the
two authorization rate limits and the VA's safe-domain list, reuses the account's latest valid
authorization for the name if it lives more than a day longer, and otherwise stores a new
pending authorization with the challenges of `ChallengesFor`. `UpdateAuthorization` takes the
copy of an authorization the WFE read, checks the response's key authorization against the one
the account key gives, stores the copy with it, and starts a validation; the validation
goroutine records what the VA answered and finalizes the authorization through
`onValidationUpdate`.

Each RA call is one function of the SA's tables: the reads it makes before its one write only
decide whether it writes and what it returns. The accounts, the VA's answers and the key
thumbprint are parameters. The goroutine's captured copy is a `Validation`; the flow of
`Boulder.WFE.Authz` keeps the started ones in flight.

`newAuthorization_eq_some` says when an authorization is reused and when one is stored; a failed
`NewAuthorization` leaves the tables as they were, since the sanity check after the write never
fails. `updateAuthorization_eq_ok` lists what a stored response has passed, and
`validatedChallenge_status` when the goroutine marks a challenge valid.
-/
import Boulder.RA.Authz
import Boulder.RA.NewCertificate
import Boulder.Policy

namespace Boulder.RA

open Boulder.Core Boulder.Jose Boulder.SA Boulder.Policy Boulder.Ratelimit Boulder.Lib.GoStrings
  Boulder.Lib.Loop

/-- The fields of `RegistrationAuthorityImpl` the authorization paths read, with whether `ra.SA`
is the gRPC client that `checkInvalidAuthorizationLimit` needs. -/
structure AuthzConfig where
  rlPolicies : RateLimitConfig
  pendingAuthorizationLifetime : Time
  authorizationLifetime : Time
  reuseValidAuthz : Bool
  usingGRPC : Bool

/-- The authorities the authorization paths call besides the SA: the PA (`WillingToIssue`, and the
challenge types `ChallengesFor` reads with the `AllowTLS02Challenges` flag), the VA's
`IsSafeDomain`, go-jose's SHA-256 `Thumbprint`, and the `%+v` rendering of a challenge. -/
structure AuthzServices where
  pa : PolicyAuthority
  enabledChallenges : String → Bool
  allowTLS02 : Bool
  isSafeDomain : String → Except String Bool
  thumbprint : JsonWebKey → Except String (List.Vector UInt8 32)
  formatChallenge : Challenge → String

/-- What a `NewAuthorization` draws: the tokens and shuffles of `ChallengesFor`, and the
candidate IDs of `NewPendingAuthorization`'s loop. -/
structure AuthzDraws where
  challenges : ChallengeDraws
  ids : List (List.Vector UInt8 32)

/-- The validation `UpdateAuthorization` starts: the copy of the authorization it stored, and the
index of the challenge to validate. -/
structure Validation where
  authz : Authorization
  challengeIndex : ℕ
  deriving DecidableEq, Repr

/-- The error `PerformValidation` returns beside its records: a problem document, or another
error. -/
inductive ValidationError where
  | problem (p : ProblemDetails)
  | other
  deriving DecidableEq, Repr

section Requests

variable (cfg : AuthzConfig) (sv : AuthzServices) (regs : RegTables) (fs : Features)

/-! ## `NewAuthorization` -/

/-- The identifier `NewAuthorization` works on: the request's, lowercased. -/
def lowerIdentifier (request : Authorization) : AcmeIdentifier :=
  { request.identifier with value := toLower request.identifier.value }

/-- The checks of `NewAuthorization` before it looks for an authorization to reuse: the policy,
the pending and the invalid authorization limits, and for a DNS name the VA's safe-domain list. -/
def newAuthorizationChecks (t : AuthzTables) (now : Time) (identifier : AcmeIdentifier)
    (regID : ℤ) : Except BoulderError Unit := do
  sv.pa.willingToIssue identifier
  checkPendingAuthorizationLimit cfg.rlPolicies.pendingAuthorizationsPerAccount
    (.ok (countPendingAuthorizations t regID now)) regID
  let latest := now + cfg.pendingAuthorizationLifetime
  let earliest := latest - cfg.rlPolicies.invalidAuthorizationsPerAccount.window
  checkInvalidAuthorizationLimit cfg.rlPolicies.invalidAuthorizationsPerAccount cfg.usingGRPC
    (.ok (some (countInvalidAuthorizations t regID identifier.value earliest latest))) regID
  if identifier.type = .dns then
    match sv.isSafeDomain identifier.value with
    | .error _ => .error (internalServerError "unable to determine if domain was safe")
    | .ok false => .error (unauthorizedError
        (quote identifier.value ++ " was considered an unsafe domain by a third-party API"))
    | .ok true => pure ()

/-- With `reuseValidAuthz`, the account's latest valid authorization for the name, read again with
its challenges, if it expires more than a day after `now`. `Expires.After` on a nil expiry
dereferences nil. -/
def reusableAuthorization (t : AuthzTables) (now : Time) (identifier : AcmeIdentifier)
    (regID : ℤ) : Except BoulderError (Option Authorization) :=
  if !cfg.reuseValidAuthz then .ok none
  else
    match getValidAuthorizations t regID [identifier.value] now with
    | .error _ => .error (internalServerError ("unable to get existing validations for regID: " ++
        toString regID ++ ", identifier: " ++ identifier.value))
    | .ok auths =>
      match auths.get identifier.value with
      | none => .ok none
      | some existing =>
        match getAuthorization t existing.id with
        | .error _ => .error (internalServerError
            ("unable to get existing authorization for auth ID: " ++ existing.id))
        | .ok populatedAuthz =>
          match populatedAuthz.expires with
          | none => .error nilDereference
          | some expires => if now + day < expires then .ok (some populatedAuthz) else .ok none

/-- The pending authorization `NewAuthorization` hands to the SA. -/
def pendingAuthz (now : Time) (identifier : AcmeIdentifier) (regID : ℤ)
    (draws : ChallengeDraws) : Authorization :=
  let offered := challengesFor sv.enabledChallenges sv.allowTLS02 draws
  { id := "", identifier := identifier, registrationID := regID, status := .pending,
    expires := some (now + cfg.pendingAuthorizationLifetime), challenges := offered.1,
    combinations := offered.2 }

/-- `NewAuthorization`: the tables afterwards and the answer; `none` while the SA's ID loop is
still drawing. The sanity check comes after the SA's write, so its error leaves the new row. -/
def newAuthorization (t : AuthzTables) (now : Time) (draws : AuthzDraws) (request : Authorization)
    (regID : ℤ) : Option (AuthzTables × Except BoulderError Authorization) :=
  let identifier := lowerIdentifier request
  match newAuthorizationChecks cfg sv t now identifier regID with
  | .error e => some (t, .error e)
  | .ok () =>
    match reusableAuthorization cfg t now identifier regID with
    | .error e => some (t, .error e)
    | .ok (some authz) => some (t, .ok authz)
    | .ok none =>
      (newPendingAuthorization t draws.ids
          (pendingAuthz cfg sv now identifier regID draws.challenges)).map fun (t', authz) =>
        match authz.challenges.find? fun c => !c.isSaneForClientOffer with
        | some c => (t', .error (internalServerError
            ("challenge didn't pass sanity check: " ++ sv.formatChallenge c)))
        | none => (t', .ok authz)

/-! ## `UpdateAuthorization` -/

/-- `UpdateAuthorization` on the copy `base` the WFE read: the tables afterwards, the
authorization it returns and the validation it starts. A mismatching response type is only
counted. -/
def updateAuthorization (t : AuthzTables) (now : Time) (base : Authorization)
    (challengeIndex : ℕ) (response : Challenge) :
    Except BoulderError (AuthzTables × Authorization × Option Validation) :=
  match base.expires with
  | none => .error (malformedError "expired authorization")
  | some expires =>
    if expires < now then .error (malformedError "expired authorization")
    else
      match base.challenges[challengeIndex]? with
      | none => .error (malformedError ("invalid challenge index '" ++ toString challengeIndex ++ "'"))
      | some ch =>
        if cfg.reuseValidAuthz = true ∧ base.status = .valid then .ok (t, base, none)
        else
          match getRegistration regs fs base.registrationID with
          -- `berrors.InternalServerError(err.Error())` takes the detail as its format
          | .error err => .error (internalServerError (sprintfNoArgs err.detail))
          | .ok reg =>
            match ch.expectedKeyAuthorization sv.thumbprint reg.key with
            | .error _ => .error (internalServerError "could not compute expected key authorization value")
            | .ok expectedKeyAuthorization =>
              if expectedKeyAuthorization ≠ response.providedKeyAuthorization then
                .error (malformedError "provided key authorization was incorrect")
              else
                let ch := { ch with providedKeyAuthorization := response.providedKeyAuthorization }
                if !ch.isSaneForValidation then
                  .error (malformedError "response does not complete challenge")
                else
                  let authz := { base with challenges := base.challenges.set challengeIndex ch }
                  match updatePendingAuthorization t authz with
                  | .error _ => .error (internalServerError "could not update pending authorization")
                  | .ok t' => .ok (t', authz, some ⟨authz, challengeIndex⟩)

/-! ## The validation goroutine -/

/-- The problem the goroutine records for the VA's error. -/
def validationProblem : Option ValidationError → Option ProblemDetails
  | some (.problem p) => some p
  | some .other => some (serverInternal "Could not communicate with VA")
  | none => none

/-- The challenge as the goroutine leaves it: the VA's records, and valid unless the VA reported a
problem, failed, or sent records `RecordsSane` refuses. -/
def validatedChallenge (ch : Challenge) (records : Option (List ValidationRecord))
    (err : Option ValidationError) : Challenge :=
  let challenge := { ch with validationRecord := records }
  let prob := if !challenge.recordsSane && (validationProblem err).isNone then
      some (serverInternal "Records for validation failed sanity check")
    else validationProblem err
  match prob with
  | some p => { challenge with status := .invalid, error := some p }
  | none => { challenge with status := .valid }

/-- The goroutine's copy after the VA answered. -/
def recordValidation (v : Validation) (records : Option (List ValidationRecord))
    (err : Option ValidationError) : Authorization :=
  match v.authz.challenges[v.challengeIndex]? with
  | none => v.authz
  | some ch =>
    { v.authz with
      challenges := v.authz.challenges.set v.challengeIndex (validatedChallenge ch records err) }

/-- The end of the goroutine: `onValidationUpdate` and `FinalizeAuthorization` at `now`. Its
error is only logged. -/
def finishValidation (t : AuthzTables) (now : Time) (v : Validation)
    (records : Option (List ValidationRecord)) (err : Option ValidationError) :
    Except BoulderError AuthzTables :=
  finalizeAuthorization t (onValidationUpdate now cfg.authorizationLifetime (recordValidation v records err))

/-! ## `DeactivateAuthorization` -/

/-- `DeactivateAuthorization` on the copy the WFE read. -/
def deactivateAuthorization (t : AuthzTables) (auth : Authorization) :
    Except BoulderError AuthzTables :=
  if auth.status ≠ .valid ∧ auth.status ≠ .pending then
    .error (malformedError "only valid and pending authorizations can be deactivated")
  else .ok (SA.deactivateAuthorization t auth.id)

/-- The RA deactivates only a valid or pending copy, through the SA's deactivation by ID. -/
theorem deactivateAuthorization_eq_ok {t t' : AuthzTables} {auth : Authorization}
    (h : deactivateAuthorization t auth = .ok t') :
    (auth.status = .valid ∨ auth.status = .pending) ∧ t' = SA.deactivateAuthorization t auth.id := by
  unfold deactivateAuthorization at h
  split_ifs at h with hstatus
  cases h
  refine ⟨?_, rfl⟩
  by_cases hvalid : auth.status = .valid
  · exact .inl hvalid
  · exact .inr (not_not.mp fun hpending => hstatus ⟨hvalid, hpending⟩)

/-! ## What `NewAuthorization` does -/

/-- The challenges of the authorization the SA stores are the offered ones under their new keys,
so they are sane to offer. -/
theorem isSaneForClientOffer_of_newPendingAuthorization {t t' : AuthzTables} {now : Time}
    {identifier : AcmeIdentifier} {regID : ℤ} {draws : AuthzDraws} {out : Authorization}
    (h : newPendingAuthorization t draws.ids (pendingAuthz cfg sv now identifier regID draws.challenges) =
      some (t', out)) :
    ∀ c ∈ out.challenges, c.isSaneForClientOffer = true := by
  obtain ⟨id, -, -, rfl⟩ := newPendingAuthorization_eq_some h
  intro c hc
  obtain ⟨row, hrow, rfl⟩ := List.mem_map.mp hc
  obtain ⟨-, -, ch, hch, hrowch⟩ := mem_challengeRows hrow
  have hoffered := (challengesFor_spec sv.enabledChallenges sv.allowTLS02 draws.challenges).2.1 ch hch
  rw [hrowch]
  exact hoffered.1

/-- What `NewAuthorization` answers. Either the tables stay as they were, and an authorization it
returns is one it reused after its checks passed; or the checks passed, nothing was reusable, and
the SA stored the new pending authorization it returns. -/
theorem newAuthorization_eq_some {t t' : AuthzTables} {now : Time} {draws : AuthzDraws}
    {request : Authorization} {regID : ℤ} {r : Except BoulderError Authorization}
    (h : newAuthorization cfg sv t now draws request regID = some (t', r)) :
    (t' = t ∧ ∀ authz, r = .ok authz →
        newAuthorizationChecks cfg sv t now (lowerIdentifier request) regID = .ok () ∧
        reusableAuthorization cfg t now (lowerIdentifier request) regID = .ok (some authz)) ∨
      (newAuthorizationChecks cfg sv t now (lowerIdentifier request) regID = .ok () ∧
        reusableAuthorization cfg t now (lowerIdentifier request) regID = .ok none ∧
        ∃ out, newPendingAuthorization t draws.ids
            (pendingAuthz cfg sv now (lowerIdentifier request) regID draws.challenges) = some (t', out) ∧
          r = .ok out) := by
  unfold newAuthorization at h
  dsimp only at h
  split at h
  · simp only [Option.some.injEq, Prod.mk.injEq] at h
    obtain ⟨rfl, rfl⟩ := h
    exact .inl ⟨rfl, fun _ hr => by cases hr⟩
  · rename_i hchecks
    split at h
    · simp only [Option.some.injEq, Prod.mk.injEq] at h
      obtain ⟨rfl, rfl⟩ := h
      exact .inl ⟨rfl, fun _ hr => by cases hr⟩
    · rename_i authz hreuse
      simp only [Option.some.injEq, Prod.mk.injEq] at h
      obtain ⟨rfl, rfl⟩ := h
      exact .inl ⟨rfl, fun a hr => ⟨hchecks, by rw [hreuse, Except.ok.inj hr]⟩⟩
    · rename_i hreuse
      obtain ⟨⟨t'', out⟩, hnew, hresult⟩ := Option.map_eq_some_iff.mp h
      have hnone : out.challenges.find? (fun c => !c.isSaneForClientOffer) = none := by
        rw [List.find?_eq_none]
        intro c hc
        simp [isSaneForClientOffer_of_newPendingAuthorization cfg sv hnew c hc]
      simp only [hnone, Prod.mk.injEq] at hresult
      obtain ⟨rfl, rfl⟩ := hresult
      exact .inr ⟨hchecks, hreuse, out, hnew, rfl⟩

/-! ## What a stored response has passed -/

/-- What `UpdateAuthorization` has checked when it answers. Either the authorization was already
valid and `reuseValidAuthz` returns it untouched, or the copy was unexpired, the index named a
challenge, the response carried the key authorization the account key gives, the challenge with
it is sane for validation, and the SA stored the copy, on which the validation starts. -/
theorem updateAuthorization_eq_ok {t t' : AuthzTables} {now : Time} {base a : Authorization}
    {challengeIndex : ℕ} {response : Challenge} {started : Option Validation}
    (h : updateAuthorization cfg sv regs fs t now base challengeIndex response =
      .ok (t', a, started)) :
    ∃ expires ch, base.expires = some expires ∧ ¬ expires < now ∧
      base.challenges[challengeIndex]? = some ch ∧
      ((cfg.reuseValidAuthz = true ∧ base.status = .valid ∧ t' = t ∧ a = base ∧
          started = none) ∨
        ∃ reg, getRegistration regs fs base.registrationID = .ok reg ∧
          ch.expectedKeyAuthorization sv.thumbprint reg.key = .ok response.providedKeyAuthorization ∧
          ({ ch with providedKeyAuthorization := response.providedKeyAuthorization } :
            Challenge).isSaneForValidation = true ∧
          a = { base with
            challenges := base.challenges.set challengeIndex
              ({ ch with providedKeyAuthorization := response.providedKeyAuthorization }) } ∧
          updatePendingAuthorization t a = .ok t' ∧ started = some ⟨a, challengeIndex⟩) := by
  unfold updateAuthorization at h
  split at h
  · cases h
  · rename_i expires hexpires
    split at h
    · cases h
    · rename_i hnow
      split at h
      · cases h
      · rename_i ch hch
        refine ⟨expires, ch, hexpires, hnow, hch, ?_⟩
        split at h
        · rename_i hreuse
          simp only [Except.ok.injEq, Prod.mk.injEq] at h
          obtain ⟨rfl, rfl, rfl⟩ := h
          exact .inl ⟨hreuse.1, hreuse.2, rfl, rfl, rfl⟩
        · split at h
          · cases h
          · rename_i reg hreg
            split at h
            · cases h
            · rename_i expected hexpected
              split at h
              · cases h
              · rename_i hmatch
                rw [not_not] at hmatch
                dsimp only at h
                split at h
                · cases h
                · rename_i hsane
                  split at h
                  · cases h
                  · rename_i t'' hupdate
                    simp only [Except.ok.injEq, Prod.mk.injEq] at h
                    obtain ⟨rfl, rfl, rfl⟩ := h
                    exact .inr ⟨reg, hreg, hmatch ▸ hexpected, by simpa using hsane, rfl,
                      hupdate, rfl⟩

/-! ## What the goroutine records -/

@[simp] theorem validationProblem_eq_none {err : Option ValidationError} :
    validationProblem err = none ↔ err = none := by
  rcases err with _ | _ | _ <;> simp [validationProblem]

section Validated

variable {ch : Challenge} {records : Option (List ValidationRecord)} {err : Option ValidationError}

/-- The goroutine writes the records, then either `valid` or `invalid` with a problem. -/
theorem validatedChallenge_eq (ch : Challenge) (records : Option (List ValidationRecord))
    (err : Option ValidationError) :
    (validatedChallenge ch records err = { ch with validationRecord := records, status := .valid } ∧
        err = none ∧ ({ ch with validationRecord := records } : Challenge).recordsSane = true) ∨
      ∃ p, validatedChallenge ch records err =
        { ch with validationRecord := records, status := .invalid, error := some p } := by
  unfold validatedChallenge
  cases herr : validationProblem err with
  | some p =>
    exact .inr ⟨p, by simp⟩
  | none =>
    by_cases hsane : ({ ch with validationRecord := records } : Challenge).recordsSane = true
    · exact .inl ⟨by simp [hsane], validationProblem_eq_none.mp herr, hsane⟩
    · exact .inr ⟨serverInternal "Records for validation failed sanity check", by simp [hsane]⟩

@[simp] theorem validatedChallenge_token : (validatedChallenge ch records err).token = ch.token := by
  rcases validatedChallenge_eq ch records err with ⟨h, -⟩ | ⟨p, h⟩ <;> rw [h]

@[simp] theorem validatedChallenge_providedKeyAuthorization :
    (validatedChallenge ch records err).providedKeyAuthorization = ch.providedKeyAuthorization := by
  rcases validatedChallenge_eq ch records err with ⟨h, -⟩ | ⟨p, h⟩ <;> rw [h]

/-- **When a challenge becomes valid.** Exactly when the VA answered without an error and its
records pass `RecordsSane`; the challenge then keeps its error and carries sane records. -/
theorem validatedChallenge_status :
    (validatedChallenge ch records err).status = .valid ↔
      err = none ∧ ({ ch with validationRecord := records } : Challenge).recordsSane = true := by
  rcases validatedChallenge_eq ch records err with ⟨h, herr, hsane⟩ | ⟨p, h⟩
  · rw [h]
    simp [herr, hsane]
  · rw [h]
    simp only [reduceCtorEq, false_iff, not_and]
    intro herr hsane
    unfold validatedChallenge at h
    simp [herr, hsane, validationProblem] at h

theorem validatedChallenge_of_valid (h : (validatedChallenge ch records err).status = .valid) :
    validatedChallenge ch records err = { ch with validationRecord := records, status := .valid } ∧
      (validatedChallenge ch records err).recordsSane = true := by
  rcases validatedChallenge_eq ch records err with ⟨heq, -, hsane⟩ | ⟨p, heq⟩
  · refine ⟨heq, ?_⟩
    rw [heq]
    exact hsane
  · rw [heq] at h
    cases h

end Validated

theorem recordValidation_eq {v : Validation} {ch : Challenge}
    (h : v.authz.challenges[v.challengeIndex]? = some ch) (records : Option (List ValidationRecord))
    (err : Option ValidationError) :
    recordValidation v records err =
      { v.authz with
        challenges := v.authz.challenges.set v.challengeIndex (validatedChallenge ch records err) } := by
  simp [recordValidation, h]

/-- The goroutine's copy differs from the one it started on in its challenges only. -/
theorem recordValidation_eq_withChallenges (v : Validation) (records : Option (List ValidationRecord))
    (err : Option ValidationError) :
    recordValidation v records err =
      { v.authz with challenges := (recordValidation v records err).challenges } := by
  unfold recordValidation
  split <;> rfl

@[simp] theorem recordValidation_status {v : Validation} {records : Option (List ValidationRecord)}
    {err : Option ValidationError} : (recordValidation v records err).status = v.authz.status := by
  rw [recordValidation_eq_withChallenges]

@[simp] theorem recordValidation_id {v : Validation} {records : Option (List ValidationRecord)}
    {err : Option ValidationError} : (recordValidation v records err).id = v.authz.id := by
  rw [recordValidation_eq_withChallenges]

@[simp] theorem recordValidation_registrationID {v : Validation}
    {records : Option (List ValidationRecord)} {err : Option ValidationError} :
    (recordValidation v records err).registrationID = v.authz.registrationID := by
  rw [recordValidation_eq_withChallenges]

@[simp] theorem recordValidation_combinations {v : Validation}
    {records : Option (List ValidationRecord)} {err : Option ValidationError} :
    (recordValidation v records err).combinations = v.authz.combinations := by
  rw [recordValidation_eq_withChallenges]

/-! ## `onValidationUpdate`, field by field -/

section Update

variable (now authorizationLifetime : Time) (authz : Authorization)

/-- `onValidationUpdate` sets the status and the expiry, nothing else. -/
theorem onValidationUpdate_eq :
    ∃ status expires, onValidationUpdate now authorizationLifetime authz =
      { authz with status := status, expires := expires } := by
  simp only [onValidationUpdate]
  split_ifs <;> exact ⟨_, _, rfl⟩

@[simp] theorem onValidationUpdate_id :
    (onValidationUpdate now authorizationLifetime authz).id = authz.id := by
  obtain ⟨_, _, h⟩ := onValidationUpdate_eq now authorizationLifetime authz
  rw [h]

@[simp] theorem onValidationUpdate_registrationID :
    (onValidationUpdate now authorizationLifetime authz).registrationID = authz.registrationID := by
  obtain ⟨_, _, h⟩ := onValidationUpdate_eq now authorizationLifetime authz
  rw [h]

@[simp] theorem onValidationUpdate_challenges :
    (onValidationUpdate now authorizationLifetime authz).challenges = authz.challenges := by
  obtain ⟨_, _, h⟩ := onValidationUpdate_eq now authorizationLifetime authz
  rw [h]

@[simp] theorem onValidationUpdate_combinations :
    (onValidationUpdate now authorizationLifetime authz).combinations = authz.combinations := by
  obtain ⟨_, _, h⟩ := onValidationUpdate_eq now authorizationLifetime authz
  rw [h]

/-- The copy `onValidationUpdate` finalizes is valid or invalid. -/
theorem onValidationUpdate_status :
    (onValidationUpdate now authorizationLifetime authz).status = .valid ∨
      (onValidationUpdate now authorizationLifetime authz).status = .invalid := by
  simp only [onValidationUpdate]
  split_ifs <;> simp_all

/-- A copy that was not valid becomes valid only through a fulfilled combination. -/
theorem comboValid_of_onValidationUpdate (hnot : authz.status ≠ .valid)
    (h : (onValidationUpdate now authorizationLifetime authz).status = .valid) :
    ∃ combo ∈ authz.combinations, comboValid authz.challenges combo = true := by
  by_cases hany : authz.combinations.any (comboValid authz.challenges) = true
  · exact List.any_eq_true.mp hany
  · have hinvalid : onValidationUpdate now authorizationLifetime authz =
        { authz with status := .invalid } := by
      simp [onValidationUpdate, hany, hnot]
    rw [hinvalid] at h
    cases h

end Update

end Requests

end Boulder.RA
