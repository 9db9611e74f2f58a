/-
# Boulder.WFE.Authz -- the authorization endpoints as one system

The state is the SA's authorization tables, the nonce service, the POSTs that have read their
authorization and not yet reached the RA, and the validations the RA has started. A call is one
of the three endpoints (`new-authz`, `authz`, `challenge`), a POST going on past its read, the
VA's answer to a started validation, or the administrator's revocation by domain. Every HTTP
request gets a fresh nonce first, as the WFE's handler wrapper issues one before it dispatches.

The `Challenge` and `Authorization` handlers read the authorization with `GetAuthorization`
before they verify the POST, and other requests may run in between: the read is its own call,
which leaves the POST in flight with its copy. The RA's `UpdateAuthorization` and the validation
goroutine then work on that copy, never on the stored row. Any interleaving of clients, of their
reads and writes, and of the VA's answers is a run of `step`.

The accounts are a parameter: these endpoints never write them (the account endpoints are the
system of `Boulder.WFE.Registration`, and `Boulder.WFE.Frontend` runs both on one nonce service). So are JSON decoding into `core.Authorization` and
`core.Challenge`, and the `AllowAuthzDeactivation` setting. A displayed object has its IDs
blanked; the challenge `URI` it would carry is the `Location` of a challenge response.
-/
import Boulder.WFE.VerifyPOST
import Boulder.RA.Validation

namespace Boulder.WFE

open Boulder.Core Boulder.Jose Boulder.SA Boulder.Nonce Boulder.Lib.GoStrings

/-- `newAuthzPath`, `authzPath` and `challengePath`. -/
def newAuthzPath : String := "/acme/new-authz"
def authzPath : String := "/acme/authz/"
def challengePath : String := "/acme/challenge/"

/-- The methods the two reading endpoints accept; `HEAD` is served as `GET`. -/
inductive Method where
  | get
  | head
  | post
  deriving DecidableEq, Repr

/-- A POST that has read its authorization: a challenge response with the index of the challenge,
or a deactivation. -/
inductive InFlight where
  | challengePost (authz : Authorization) (challengeIndex : ℕ) (request : Request)
  | authzPost (authz : Authorization) (request : Request)
  deriving DecidableEq, Repr

/-- The authorization each request in flight holds. -/
def InFlight.authz : InFlight → Authorization
  | .challengePost authz _ _ => authz
  | .authzPost authz _ => authz

/-- What the authorization endpoints share. -/
structure AuthzState where
  tables : AuthzTables
  nonces : NonceService
  inFlight : List InFlight
  validations : List RA.Validation

/-- A call: a request to an endpoint at a time, a POST in flight going on, the VA's answer to a
started validation, or a revocation by domain. -/
inductive AuthzCall where
  | newAuthorization (request : Request) (now : Time) (draws : RA.AuthzDraws)
  | authorization (method : Method) (request : Request) (now : Time)
  | challenge (method : Method) (request : Request) (now : Time)
  | resume (k : ℕ) (now : Time)
  | validate (k : ℕ) (records : Option (List ValidationRecord))
      (err : Option RA.ValidationError) (now : Time)
  | revokeByDomain (ident : AcmeIdentifier) (now : Time)

/-- What a handler writes: a new authorization with its `Location` (201), an authorization, or a
challenge with its `Location` (202). -/
inductive AuthzBody where
  | created (location : String) (authz : Authorization)
  | authorization (authz : Authorization)
  | challenge (location : String) (challenge : Challenge)
  deriving DecidableEq, Repr

/-- The answer to a call: the nonce of an HTTP request, and the response, if the call ends one. -/
structure AuthzReply where
  nonce : Option ℤ
  result : Option (Except ProblemDetails AuthzBody)

/-- `prepChallengeForDisplay`, but for the `URI` it fills in. -/
def displayChallenge (c : Challenge) : Challenge := { c with id := 0 }

/-- `prepAuthorizationForDisplay`. -/
def displayAuthorization (authz : Authorization) : Authorization :=
  { authz with id := "", registrationID := 0, challenges := authz.challenges.map displayChallenge }

section Handlers

variable (wfe : WebFrontEndImpl) (lib : Libraries) (fs : Features) (cfg : RA.AuthzConfig)
  (sv : RA.AuthzServices) (regs : RegTables) (allowAuthzDeactivation : Bool)
  (decodeAuthorization : String → Option Authorization) (decodeChallenge : String → Option Challenge)

/-- The `URI` `prepChallengeForDisplay` gives a challenge. -/
def challengeURI (request : Request) (authz : Authorization) (c : Challenge) : String :=
  relativeEndpoint wfe request (challengePath ++ authz.id ++ "/" ++ toString c.id)

/-- `NewAuthorization`. -/
def newAuthorization (s : AuthzState) (request : Request) (now : Time) (draws : RA.AuthzDraws) :
    AuthzState × Option (Except ProblemDetails AuthzBody) :=
  match verifyPOST wfe lib fs regs s.nonces request true "new-authz" with
  | (ns, .error p) => ({ s with nonces := ns }, some (.error p))
  | (ns, .ok (body, _, currReg)) =>
    let s := { s with nonces := ns }
    if currReg.agreement = "" then
      (s, some (.error (unauthorized "Must agree to subscriber agreement before any further actions")))
    else
      match decodeAuthorization body with
      | none => (s, some (.error (malformed "Error unmarshaling JSON")))
      | some init =>
        match RA.newAuthorization cfg sv s.tables now draws init currReg.id with
        -- the SA is still drawing an ID
        | none => (s, none)
        | some (t, .error e) =>
          ({ s with tables := t }, some (.error (problemDetailsForError e "Error creating new authz")))
        | some (t, .ok authz) =>
          ({ s with tables := t }, some (.ok (.created (relativeEndpoint wfe request (authzPath ++ authz.id))
            (displayAuthorization authz))))

/-- `Authorization` up to the deactivation: the read, the expiry check, and a `GET`; a POST with
deactivation allowed goes on in flight. A nil expiry is dereferenced by the log line, which ends
the request without a response. -/
def authorization (s : AuthzState) (method : Method) (request : Request) (now : Time) :
    AuthzState × Option (Except ProblemDetails AuthzBody) :=
  match getAuthorization s.tables request.path with
  | .error _ => (s, some (.error (notFound "Unable to find authorization")))
  | .ok authz =>
    match authz.expires with
    | none => (s, none)
    | some expires =>
      if expires < now then (s, some (.error (notFound "Expired authorization")))
      else if allowAuthzDeactivation = true ∧ method = .post then
        ({ s with inFlight := s.inFlight ++ [.authzPost authz request] }, none)
      else (s, some (.ok (.authorization (displayAuthorization authz))))

/-- `deactivateAuthorization`, on the copy the request read. -/
def deactivateAuthorization (s : AuthzState) (authz : Authorization) (request : Request) :
    AuthzState × Option (Except ProblemDetails AuthzBody) :=
  match verifyPOST wfe lib fs regs s.nonces request true "authz" with
  | (ns, .error p) => ({ s with nonces := ns }, some (.error p))
  | (ns, .ok (body, _, reg)) =>
    let s := { s with nonces := ns }
    if reg.id ≠ authz.registrationID then
      (s, some (.error (unauthorized "Registration ID doesn't match ID for authorization")))
    else
      match lib.unmarshal body with
      | none => (s, some (.error (malformed "Error unmarshaling JSON")))
      | some req =>
        if req.status ≠ some .deactivated then (s, some (.error (malformed "Invalid status value")))
        else
          match RA.deactivateAuthorization s.tables authz with
          | .error e =>
            (s, some (.error (problemDetailsForError e "Error deactivating authorization")))
          | .ok t =>
            ({ s with tables := t }, some (.ok (.authorization
              (displayAuthorization { authz with status := .deactivated }))))

/-- `Challenge` up to `postChallenge`: the path, the read, the expiry check, `FindChallenge`, and a
`GET`; a POST goes on in flight. -/
def challenge (s : AuthzState) (method : Method) (request : Request) (now : Time) :
    AuthzState × Option (Except ProblemDetails AuthzBody) :=
  let notFoundChallenge := (s, some (.error (notFound "No such challenge")))
  match split request.path '/' with
  | [authorizationID, challengeIDText] =>
    match parseInt challengeIDText with
    | none => notFoundChallenge
    | some challengeID =>
      match getAuthorization s.tables authorizationID with
      | .error _ => notFoundChallenge
      | .ok authz =>
        match authz.expires with
        | none => (s, none)
        | some expires =>
          if expires < now then (s, some (.error (notFound "Expired authorization")))
          else
            let challengeIndex := authz.findChallenge challengeID
            if challengeIndex = -1 then notFoundChallenge
            else
              match authz.challenges[challengeIndex.toNat]? with
              | none => (s, none)
              | some c =>
                match method with
                | .get | .head =>
                  (s, some (.ok (.challenge (challengeURI wfe request authz c) (displayChallenge c))))
                | .post =>
                  ({ s with inFlight := s.inFlight ++ [.challengePost authz challengeIndex.toNat request] },
                    none)
  | _ => notFoundChallenge

/-- `postChallenge`, on the copy the request read. -/
def postChallenge (s : AuthzState) (authz : Authorization) (challengeIndex : ℕ) (request : Request)
    (now : Time) : AuthzState × Option (Except ProblemDetails AuthzBody) :=
  match verifyPOST wfe lib fs regs s.nonces request true "challenge" with
  | (ns, .error p) => ({ s with nonces := ns }, some (.error p))
  | (ns, .ok (body, _, currReg)) =>
    let s := { s with nonces := ns }
    if currReg.agreement = "" then
      (s, some (.error (unauthorized
        "Registration didn't agree to subscriber agreement before any further actions")))
    else if currReg.id ≠ authz.registrationID then
      (s, some (.error (unauthorized
        "User registration ID doesn't match registration ID in authorization")))
    else
      match decodeChallenge body with
      | none => (s, some (.error (malformed "Error unmarshaling challenge response")))
      | some challengeUpdate =>
        match RA.updateAuthorization cfg sv regs fs s.tables now authz challengeIndex challengeUpdate with
        | .error e => (s, some (.error (problemDetailsForError e "Unable to update challenge")))
        | .ok (t, updated, started) =>
          let s := { s with tables := t, validations := s.validations ++ started.toList }
          match updated.challenges[challengeIndex]? with
          | none => (s, none)
          | some c => (s, some (.ok (.challenge (challengeURI wfe request authz c) (displayChallenge c))))

/-- A POST in flight going on past its read. -/
def resume (s : AuthzState) (p : InFlight) (now : Time) :
    AuthzState × Option (Except ProblemDetails AuthzBody) :=
  match p with
  | .challengePost authz challengeIndex request => postChallenge wfe lib fs cfg sv regs
      decodeChallenge s authz challengeIndex request now
  | .authzPost authz request => deactivateAuthorization wfe lib fs regs s authz request

/-- One call. The `k`-th POST in flight, or the `k`-th validation, leaves its list when it goes
on; an index past the end is a call that does nothing. -/
def authzStep (s : AuthzState) : AuthzCall → AuthzState × AuthzReply
  | .newAuthorization request now draws =>
    let (c, ns) := s.nonces.nonce
    let (s, r) := newAuthorization wfe lib fs cfg sv regs decodeAuthorization { s with nonces := ns }
      request now draws
    (s, ⟨some c, r⟩)
  | .authorization method request now =>
    let (c, ns) := s.nonces.nonce
    let (s, r) := authorization allowAuthzDeactivation { s with nonces := ns } method request now
    (s, ⟨some c, r⟩)
  | .challenge method request now =>
    let (c, ns) := s.nonces.nonce
    let (s, r) := challenge wfe { s with nonces := ns } method request now
    (s, ⟨some c, r⟩)
  | .resume k now =>
    match s.inFlight[k]? with
    | none => (s, ⟨none, none⟩)
    | some p =>
      let (s, r) := resume wfe lib fs cfg sv regs decodeChallenge
        { s with inFlight := s.inFlight.eraseIdx k } p now
      (s, ⟨none, r⟩)
  | .validate k records err now =>
    match s.validations[k]? with
    | none => (s, ⟨none, none⟩)
    | some v =>
      let s := { s with validations := s.validations.eraseIdx k }
      -- the goroutine only logs a failure to finalize
      match RA.finishValidation cfg s.tables now v records err with
      | .error _ => (s, ⟨none, none⟩)
      | .ok t => ({ s with tables := t }, ⟨none, none⟩)
  | .revokeByDomain ident now =>
    ({ s with tables := (revokeAuthorizationsByDomain s.tables ident now).1 }, ⟨none, none⟩)

end Handlers

/-- The initial state: empty tables, a fresh nonce service, nothing in flight. -/
def AuthzState.init (maxUsed : ℕ) : AuthzState := ⟨⟨[], [], []⟩, newNonceService maxUsed, [], []⟩

/-! ## What each handler writes -/

section Writes

variable (wfe : WebFrontEndImpl) (lib : Libraries) (fs : Features) (cfg : RA.AuthzConfig)
  (sv : RA.AuthzServices) (regs : RegTables) (allowAuthzDeactivation : Bool)
  (decodeAuthorization : String → Option Authorization) (decodeChallenge : String → Option Challenge)

/-- `NewAuthorization` writes the nonces and, through the RA, the tables. -/
theorem newAuthorization_fst (s : AuthzState) (request : Request) (now : Time)
    (draws : RA.AuthzDraws) :
    ∃ ns t, (newAuthorization wfe lib fs cfg sv regs decodeAuthorization s request now draws).1 =
        { s with nonces := ns, tables := t } ∧
      (t = s.tables ∨
        ∃ init regID r, RA.newAuthorization cfg sv s.tables now draws init regID = some (t, r)) := by
  unfold newAuthorization
  split
  · exact ⟨_, _, rfl, .inl rfl⟩
  · dsimp only
    split_ifs
    · exact ⟨_, _, rfl, .inl rfl⟩
    · split
      · exact ⟨_, _, rfl, .inl rfl⟩
      · split
        · exact ⟨_, _, rfl, .inl rfl⟩
        · exact ⟨_, _, rfl, .inr ⟨_, _, _, ‹_›⟩⟩
        · exact ⟨_, _, rfl, .inr ⟨_, _, _, ‹_›⟩⟩

/-- `Authorization` writes nothing but the POST it leaves in flight, with the copy it read. -/
theorem authorization_fst (s : AuthzState) (method : Method) (request : Request) (now : Time) :
    ∃ extra, (authorization allowAuthzDeactivation s method request now).1 =
        { s with inFlight := s.inFlight ++ extra } ∧
      ∀ p ∈ extra, ∃ id, getAuthorization s.tables id = .ok p.authz := by
  unfold authorization
  split
  · exact ⟨[], by simp, by simp⟩
  · rename_i authz hget
    split
    · exact ⟨[], by simp, by simp⟩
    · split_ifs
      · exact ⟨[], by simp, by simp⟩
      · exact ⟨[.authzPost authz request], rfl, by simpa [InFlight.authz] using ⟨_, hget⟩⟩
      · exact ⟨[], by simp, by simp⟩

/-- `Challenge` writes nothing but the POST it leaves in flight, with the copy it read. -/
theorem challenge_fst (s : AuthzState) (method : Method) (request : Request) (now : Time) :
    ∃ extra, (challenge wfe s method request now).1 = { s with inFlight := s.inFlight ++ extra } ∧
      ∀ p ∈ extra, ∃ id, getAuthorization s.tables id = .ok p.authz := by
  unfold challenge
  dsimp only
  split
  · split
    · exact ⟨[], by simp, by simp⟩
    · split
      · exact ⟨[], by simp, by simp⟩
      · rename_i authz hget
        split
        · exact ⟨[], by simp, by simp⟩
        · split_ifs
          · exact ⟨[], by simp, by simp⟩
          · exact ⟨[], by simp, by simp⟩
          · split
            · exact ⟨[], by simp, by simp⟩
            · split
              · exact ⟨[], by simp, by simp⟩
              · exact ⟨[], by simp, by simp⟩
              · exact ⟨[.challengePost authz _ request], rfl,
                  by simpa [InFlight.authz] using ⟨_, hget⟩⟩
  · exact ⟨[], by simp, by simp⟩

/-- The deactivation writes the nonces and what the RA's `DeactivateAuthorization` returns. -/
theorem deactivateAuthorization_fst (s : AuthzState) (authz : Authorization) (request : Request) :
    ∃ ns t, (deactivateAuthorization wfe lib fs regs s authz request).1 =
        { s with nonces := ns, tables := t } ∧
      (t = s.tables ∨
        ∃ ns' body key reg, verifyPOST wfe lib fs regs s.nonces request true "authz" =
            (ns', .ok (body, key, reg)) ∧ reg.id = authz.registrationID ∧
          RA.deactivateAuthorization s.tables authz = .ok t) := by
  unfold deactivateAuthorization
  split
  · exact ⟨_, _, rfl, .inl rfl⟩
  · rename_i ns body key reg hverify
    dsimp only
    split_ifs with hreg
    · exact ⟨_, _, rfl, .inl rfl⟩
    · split
      · exact ⟨_, _, rfl, .inl rfl⟩
      · split_ifs
        · exact ⟨_, _, rfl, .inl rfl⟩
        · split
          · exact ⟨_, _, rfl, .inl rfl⟩
          · exact ⟨_, _, rfl, .inr ⟨ns, body, key, reg, hverify, not_not.mp hreg, ‹_›⟩⟩

/-- `postChallenge` writes the nonces, and what the RA's `UpdateAuthorization` returns: the tables
and the validation it starts. -/
theorem postChallenge_fst (s : AuthzState) (authz : Authorization) (challengeIndex : ℕ)
    (request : Request) (now : Time) :
    ∃ ns t started,
      (postChallenge wfe lib fs cfg sv regs decodeChallenge s authz challengeIndex request now).1 =
        { s with nonces := ns, tables := t, validations := s.validations ++ started } ∧
      ((t = s.tables ∧ started = []) ∨
        ∃ response a v, RA.updateAuthorization cfg sv regs fs s.tables now authz challengeIndex
          response = .ok (t, a, v) ∧ started = v.toList) := by
  unfold postChallenge
  split
  · exact ⟨_, _, [], by rw [List.append_nil], .inl ⟨rfl, rfl⟩⟩
  · dsimp only
    split_ifs
    · exact ⟨_, _, [], by rw [List.append_nil], .inl ⟨rfl, rfl⟩⟩
    · exact ⟨_, _, [], by rw [List.append_nil], .inl ⟨rfl, rfl⟩⟩
    · split
      · exact ⟨_, _, [], by rw [List.append_nil], .inl ⟨rfl, rfl⟩⟩
      · split
        · exact ⟨_, _, [], by rw [List.append_nil], .inl ⟨rfl, rfl⟩⟩
        · rename_i hupdate
          split
          · exact ⟨_, _, _, rfl, .inr ⟨_, _, _, hupdate, rfl⟩⟩
          · exact ⟨_, _, _, rfl, .inr ⟨_, _, _, hupdate, rfl⟩⟩

end Writes

end Boulder.WFE
