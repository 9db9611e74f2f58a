/-
# Boulder.WFE.Registration -- the account endpoints as one system

The state is the registrations table and the nonce service; the steps are the three handlers
that write accounts: `NewRegistration`, `Registration` (an update or a deactivation) and
`KeyRollover`. Every response first gets a fresh nonce, as the WFE's handler wrapper issues one
before it dispatches.

A key enters the table on two paths. `NewRegistration` goes through the RA, which checks the key
against its key policy. `KeyRollover` hands the inner JWS's key to `RA.UpdateRegistration`,
which checks nothing about it; while `AllowKeyRollover` is on, any key that parses as a valid
JWK and signs its own rollover becomes the account key (`keyRollover_installs_unchecked_key`).
With the flag off, every step keeps the key policy invariant `AccountKeysGood`
(`accountKeysGood_of_reachable`).
-/
import Boulder.WFE.VerifyPOST
import Boulder.Lib.Run

namespace Boulder.WFE

open Boulder.Core Boulder.Jose Boulder.Goodkey Boulder.SA Boulder.Nonce Boulder.Lib.GoStrings
open Boulder.Lib.Run Boulder.Lib.GoNet

/-- `regPath`. -/
def regPath : String := "/acme/reg/"

/-- The accounts and the nonces, the state the account endpoints share. -/
structure State where
  registrations : RegTables
  nonces : NonceService

/-- A request to one of the account endpoints, at a time. -/
inductive Call where
  | newRegistration (request : Request) (now : Time)
  | registration (request : Request) (now : Time)
  | keyRollover (request : Request) (now : Time)

/-- A response: the nonce issued with it, and the account or the problem. -/
structure Response where
  nonce : ℤ
  result : Except ProblemDetails Registration

section Handlers

variable (wfe : WebFrontEndImpl) (ra : RA.RegistrationAuthorityImpl) (lib : Libraries)
  (fs : Features)

/-- The IP `NewRegistration` records: `X-Real-IP`, else the host of `RemoteAddr`. -/
def initialIP (request : Request) : Except ProblemDetails (List UInt8) :=
  match parseIP request.realIP with
  | some ip => .ok ip
  | none =>
    match request.remoteHost with
    | some host => .ok ((parseIP host).getD [])
    | none => .error (serverInternal "couldn't parse the remote (that is, the client's) address")

/-- `NewRegistration`. The RA reads the key, contacts, agreement and IP of the registration it
is given, so the other members the body may carry are not passed on. -/
def newRegistration (t : RegTables) (ns : NonceService) (request : Request) (now : Time) :
    RegTables × NonceService × Except ProblemDetails Registration :=
  match verifyPOST wfe lib fs t ns request false "new-reg" with
  | (ns, .error p) => (t, ns, .error p)
  | (ns, .ok (body, key, _)) =>
    match getRegistrationByKey lib.keyDigest t fs key with
    | .ok _ => (t, ns, .error (conflict "Registration key is already in use"))
    | .error _ =>
      match lib.unmarshal body with
      | none => (t, ns, .error (malformed "Error unmarshaling JSON"))
      | some init =>
        if init.agreement.length > 0 ∧ init.agreement ≠ wfe.subscriberAgreementURL then
          (t, ns, .error (malformed ("Provided agreement URL [" ++ init.agreement ++
            "] does not match current agreement URL [" ++ wfe.subscriberAgreementURL ++ "]")))
        else
          match initialIP request with
          | .error p => (t, ns, .error p)
          | .ok ip =>
            let init : Registration :=
              { Registration.empty with
                key := some key, contact := init.contact, agreement := init.agreement,
                initialIP := ip }
            match RA.newRegistration lib.toLibraries fs ra t now init with
            | .error e => (t, ns, .error (problemDetailsForError e "Error creating new registration"))
            | .ok (t', reg) => (t', ns, .ok reg)

/-- `Registration`: an update of contacts or agreement, or a deactivation. The key of the
update is the account's own, so it never changes here. -/
def registration (t : RegTables) (ns : NonceService) (request : Request) :
    RegTables × NonceService × Except ProblemDetails Registration :=
  match verifyPOST wfe lib fs t ns request true "reg" with
  | (ns, .error p) => (t, ns, .error p)
  | (ns, .ok (body, _, currReg)) =>
    match parseInt request.path with
    | none => (t, ns, .error (malformed "Registration ID must be an integer"))
    | some id =>
      if id ≤ 0 then
        (t, ns, .error (malformed ("Registration ID must be a positive non-zero integer, was " ++
          toString id)))
      else if id ≠ currReg.id then
        (t, ns, .error (unauthorized "Request signing key did not match registration key"))
      else
        match lib.unmarshal body with
        | none => (t, ns, .error (malformed "Error unmarshaling registration"))
        | some update =>
          if fs.allowAccountDeactivation ∧ update.status.isSome ∧ update.status ≠ currReg.status then
            if update.status ≠ some .deactivated then
              (t, ns, .error (malformed "Invalid value provided for status field"))
            else
              match RA.deactivateRegistration t currReg with
              | .error e => (t, ns, .error (problemDetailsForError e "Error deactivating registration"))
              | .ok t' => (t', ns, .ok { currReg with status := some .deactivated })
          else if update.agreement.length > 0 ∧ update.agreement ≠ currReg.agreement ∧
              update.agreement ≠ wfe.subscriberAgreementURL then
            (t, ns, .error (malformed ("Provided agreement URL [" ++ update.agreement ++
              "] does not match current agreement URL [" ++ wfe.subscriberAgreementURL ++ "]")))
          else
            let update : Registration :=
              { Registration.empty with
                contact := update.contact, agreement := update.agreement, key := currReg.key }
            match RA.updateRegistration lib.toLibraries fs ra t currReg update with
            | .error e => (t, ns, .error (problemDetailsForError e "Unable to update registration"))
            | .ok (t', reg) => (t', ns, .ok reg)

/-- `KeyRollover`: the payload is a second JWS, signed by the new key, naming the account and
the new key; the RA is asked to merge that key into the account. -/
def keyRollover (t : RegTables) (ns : NonceService) (request : Request) :
    RegTables × NonceService × Except ProblemDetails Registration :=
  match verifyPOST wfe lib fs t ns request true "key-change" with
  | (ns, .error p) => (t, ns, .error p)
  | (ns, .ok (body, _, reg)) =>
    match extractJWSKey lib body with
    | .error e => (t, ns, .error (malformed e))
    | .ok (newKey, parsedJWS, _) =>
      match parsedJWS.verify newKey with
      | .error _ => (t, ns, .error (malformed "JWS verification error"))
      | .ok payload =>
        match lib.unmarshal payload with
        | none => (t, ns, .error (malformed "Request payload did not parse as JSON"))
        | some rolloverRequest =>
          if relativeEndpoint wfe request (regPath ++ toString reg.id) ≠ rolloverRequest.account then
            (t, ns, .error (malformed "Incorrect account URL provided in payload"))
          else
            -- an absent `NewKey` is a JWK without a key, which `PublicKeysEqual` refuses
            match rolloverRequest.newKey with
            | none => (t, ns, .error (malformed "Unable to marshal new JWK"))
            | some requested =>
              if !publicKeysEqual requested.key newKey.key then
                (t, ns, .error (malformed
                  "New JWK in inner payload doesn't match key used to sign inner JWS"))
              else
                match RA.updateRegistration lib.toLibraries fs ra t reg
                    { Registration.empty with key := some newKey } with
                | .error e => (t, ns, .error (problemDetailsForError e "Unable to update registration"))
                | .ok (t', updated) => (t', ns, .ok updated)

/-- One call: a nonce for the response, then the handler. -/
def step (s : State) : Call → State × Response
  | .newRegistration request now =>
    let (c, ns) := s.nonces.nonce
    let (t, ns, r) := newRegistration wfe ra lib fs s.registrations ns request now
    (⟨t, ns⟩, ⟨c, r⟩)
  | .registration request _ =>
    let (c, ns) := s.nonces.nonce
    let (t, ns, r) := registration wfe ra lib fs s.registrations ns request
    (⟨t, ns⟩, ⟨c, r⟩)
  | .keyRollover request _ =>
    let (c, ns) := s.nonces.nonce
    let (t, ns, r) := keyRollover wfe ra lib fs s.registrations ns request
    (⟨t, ns⟩, ⟨c, r⟩)

/-- The initial state: no accounts, a fresh nonce service. -/
def State.init (maxUsed : ℕ) : State := ⟨RegTables.init, newNonceService maxUsed⟩

/-- Every stored account key passes the RA's key policy. -/
def AccountKeysGood (t : RegTables) : Prop :=
  ∀ r ∈ t.rows, ra.keyPolicy.goodKey lib.curves r.key.key = .ok ()

/-! ## What each handler does to the table -/

@[simp] theorem step_newRegistration_registrations (s : State) (request : Request) (now : Time) :
    (step wfe ra lib fs s (.newRegistration request now)).1.registrations =
      (newRegistration wfe ra lib fs s.registrations s.nonces.nonce.2 request now).1 := rfl

@[simp] theorem step_keyRollover_registrations (s : State) (request : Request) (now : Time) :
    (step wfe ra lib fs s (.keyRollover request now)).1.registrations =
      (keyRollover wfe ra lib fs s.registrations s.nonces.nonce.2 request).1 := rfl


/-- The account `verifyPOST` finds with `regCheck` on is a stored row, read back. -/
theorem verifyPOST_account {t : RegTables} {ns ns' : NonceService} {request : Request}
    {resource payload : String} {key : JsonWebKey} {reg : Registration}
    (h : verifyPOST wfe lib fs t ns request true resource = (ns', .ok (payload, key, reg))) :
    ∃ rm ∈ t.rows, key = rm.key ∧ reg = modelToRegistration fs rm := by
  obtain ⟨sig, hsig, -⟩ := verifyPOST_eq_ok wfe lib fs h
  obtain ⟨-, -, submitted, -, -, -, -, hl, -⟩ := verifySignature_eq_ok wfe lib fs hsig
  rcases lookupAccount_eq_ok wfe lib fs hl with ⟨rm, hrm, -, hkey, hreg⟩ | ⟨hr, -⟩
  · exact ⟨rm, hrm, hkey, hreg⟩
  · cases hr

/-- `NewRegistration` leaves the table, or adds one account through the RA. -/
theorem newRegistration_table (t : RegTables) (ns : NonceService) (request : Request) (now : Time) :
    (newRegistration wfe ra lib fs t ns request now).1 = t ∨
      ∃ init reg, RA.newRegistration lib.toLibraries fs ra t now init =
        .ok ((newRegistration wfe ra lib fs t ns request now).1, reg) := by
  unfold newRegistration
  match verifyPOST wfe lib fs t ns request false "new-reg" with
  | (_, .error _) => exact .inl rfl
  | (ns', .ok (body, key, _)) =>
    simp only
    split
    · exact .inl rfl
    · split
      · exact .inl rfl
      · split
        · exact .inl rfl
        · split
          · exact .inl rfl
          · split
            · exact .inl rfl
            · rename_i t' reg hra
              exact .inr ⟨_, reg, hra⟩

/-- `Registration` leaves the table, deactivates an account, or stores an update whose key is
the account's own. -/
theorem registration_table (t : RegTables) (ns : NonceService) (request : Request) :
    (registration wfe ra lib fs t ns request).1 = t ∨
      (∃ id, (registration wfe ra lib fs t ns request).1 = SA.deactivateRegistration t id) ∨
      ∃ rm ∈ t.rows, ∃ update reg, update.key = some rm.key ∧
        RA.updateRegistration lib.toLibraries fs ra t (modelToRegistration fs rm) update =
          .ok ((registration wfe ra lib fs t ns request).1, reg) := by
  unfold registration
  match hpost : verifyPOST wfe lib fs t ns request true "reg" with
  | (_, .error _) => exact .inl rfl
  | (ns', .ok (body, key, currReg)) =>
    obtain ⟨rm, hrm, -, rfl⟩ := verifyPOST_account wfe lib fs hpost
    simp only
    split
    · exact .inl rfl
    · split
      · exact .inl rfl
      · split
        · exact .inl rfl
        · split
          · exact .inl rfl
          · split
            · split
              · exact .inl rfl
              · split
                · exact .inl rfl
                · rename_i t' hdeact
                  unfold RA.deactivateRegistration at hdeact
                  split at hdeact
                  · cases hdeact
                  · cases hdeact
                    exact .inr (.inl ⟨_, rfl⟩)
            · split
              · exact .inl rfl
              · split
                · exact .inl rfl
                · rename_i t' reg hra
                  exact .inr (.inr ⟨rm, hrm, _, reg, rfl, hra⟩)

/-- `KeyRollover` leaves the table, or stores through the RA an update that carries only the new
key. -/
theorem keyRollover_table (t : RegTables) (ns : NonceService) (request : Request) :
    (keyRollover wfe ra lib fs t ns request).1 = t ∨
      ∃ rm ∈ t.rows, ∃ newKey reg,
        RA.updateRegistration lib.toLibraries fs ra t (modelToRegistration fs rm)
          { Registration.empty with key := some newKey } =
          .ok ((keyRollover wfe ra lib fs t ns request).1, reg) := by
  unfold keyRollover
  match hpost : verifyPOST wfe lib fs t ns request true "key-change" with
  | (_, .error _) => exact .inl rfl
  | (ns', .ok (body, key, reg)) =>
    obtain ⟨rm, hrm, -, rfl⟩ := verifyPOST_account wfe lib fs hpost
    simp only
    split
    · exact .inl rfl
    · split
      · exact .inl rfl
      · split
        · exact .inl rfl
        · split
          · exact .inl rfl
          · split
            · exact .inl rfl
            · split
              · exact .inl rfl
              · split
                · exact .inl rfl
                · rename_i t' updated hra
                  exact .inr ⟨rm, hrm, _, updated, hra⟩

/-! ## The key policy invariant -/

/-- An update whose merge keeps a stored account's key keeps the invariant. -/
theorem accountKeysGood_update {t t' : RegTables} {rm : RegModel} {update reg : Registration}
    (hgood : AccountKeysGood ra lib t) (hrm : rm ∈ t.rows)
    (hkey : (RA.mergeUpdate fs (modelToRegistration fs rm) update).1.key = some rm.key)
    (h : RA.updateRegistration lib.toLibraries fs ra t (modelToRegistration fs rm) update = .ok (t', reg)) :
    AccountKeysGood ra lib t' := by
  intro r hr
  rcases RA.updateRegistration_rows lib.toLibraries fs h r hr with hr | hr
  · exact hgood r hr
  · rw [hkey] at hr
    rw [Option.some.inj hr]
    exact hgood rm hrm

theorem accountKeysGood_newRegistration {t : RegTables} (hgood : AccountKeysGood ra lib t)
    (ns : NonceService) (request : Request) (now : Time) :
    AccountKeysGood ra lib (newRegistration wfe ra lib fs t ns request now).1 := by
  rcases newRegistration_table wfe ra lib fs t ns request now with h | ⟨init, reg, h⟩
  · rw [h]
    exact hgood
  · obtain ⟨key, -, hkey, hrows⟩ := RA.newRegistration_rows lib.toLibraries fs h
    intro r hr
    rcases hrows r hr with hr | hr
    · exact hgood r hr
    · rw [hr]
      exact hkey

theorem accountKeysGood_registration {t : RegTables} (hgood : AccountKeysGood ra lib t)
    (ns : NonceService) (request : Request) :
    AccountKeysGood ra lib (registration wfe ra lib fs t ns request).1 := by
  rcases registration_table wfe ra lib fs t ns request with h | ⟨id, h⟩ | ⟨rm, hrm, update, reg, hup, h⟩
  · rw [h]
    exact hgood
  · intro r hr
    rw [h] at hr
    obtain ⟨r₀, hr₀, hkey, -⟩ := deactivateRegistration_keys t id r hr
    rw [hkey]
    exact hgood r₀ hr₀
  · have hsame : update.key = (modelToRegistration fs rm).key := by simpa using hup
    exact accountKeysGood_update ra lib fs hgood hrm (RA.mergeUpdate_key_of_same fs hsame) h

/-- While `AllowKeyRollover` is off, a rollover cannot change a key. -/
theorem accountKeysGood_keyRollover (hoff : fs.allowKeyRollover = false) {t : RegTables}
    (hgood : AccountKeysGood ra lib t) (ns : NonceService) (request : Request) :
    AccountKeysGood ra lib (keyRollover wfe ra lib fs t ns request).1 := by
  rcases keyRollover_table wfe ra lib fs t ns request with h | ⟨rm, hrm, newKey, reg, h⟩
  · rw [h]
    exact hgood
  · exact accountKeysGood_update ra lib fs hgood hrm (RA.mergeUpdate_key_of_off fs hoff _ _) h

/-- While `AllowKeyRollover` is off, every account key in every reachable state passes the RA's
key policy. -/
theorem accountKeysGood_of_reachable (hoff : fs.allowKeyRollover = false) (maxUsed : ℕ) {s : State}
    (h : Reachable (step wfe ra lib fs) (State.init maxUsed) s) :
    AccountKeysGood ra lib s.registrations := by
  refine @Reachable.invariant _ _ _ _ _ _ (fun s => AccountKeysGood ra lib s.registrations)
    (by simp [AccountKeysGood, State.init, RegTables.init]) ?_ h
  intro s call hs
  cases call with
  | newRegistration request now => exact accountKeysGood_newRegistration wfe ra lib fs hs _ _ _
  | registration request now => exact accountKeysGood_registration wfe ra lib fs hs _ _
  | keyRollover request now => exact accountKeysGood_keyRollover wfe ra lib fs hoff hs _ _

/-! ## The table invariant -/

/-- Every handler keeps the table well formed: distinct ids below the next one, distinct key
digests. -/
theorem registrations_wf_step {s : State} (hwf : s.registrations.Wf) :
    ∀ call, (step wfe ra lib fs s call).1.registrations.Wf
  | .newRegistration request now => by
    show (newRegistration wfe ra lib fs s.registrations s.nonces.nonce.2 request now).1.Wf
    rcases newRegistration_table wfe ra lib fs s.registrations s.nonces.nonce.2 request now with
      h | ⟨init, reg, h⟩
    · rw [h]
      exact hwf
    · exact RA.newRegistration_wf lib.toLibraries fs hwf h
  | .registration request _ => by
    show (registration wfe ra lib fs s.registrations s.nonces.nonce.2 request).1.Wf
    rcases registration_table wfe ra lib fs s.registrations s.nonces.nonce.2 request with
      h | ⟨id, h⟩ | ⟨rm, -, update, reg, -, h⟩
    · rw [h]
      exact hwf
    · rw [h]
      exact SA.deactivateRegistration_wf hwf id
    · exact RA.updateRegistration_wf lib.toLibraries fs hwf h
  | .keyRollover request _ => by
    show (keyRollover wfe ra lib fs s.registrations s.nonces.nonce.2 request).1.Wf
    rcases keyRollover_table wfe ra lib fs s.registrations s.nonces.nonce.2 request with
      h | ⟨rm, -, newKey, reg, h⟩
    · rw [h]
      exact hwf
    · exact RA.updateRegistration_wf lib.toLibraries fs hwf h

/-- **Accounts stay apart.** In every reachable state the registration ids are distinct and
below the next id, and no two accounts hold keys with the same digest, whatever the feature
flags. -/
theorem registrations_wf_of_reachable (maxUsed : ℕ) {s : State}
    (h : Reachable (step wfe ra lib fs) (State.init maxUsed) s) : s.registrations.Wf :=
  @Reachable.invariant _ _ _ _ _ _ (fun s => s.registrations.Wf) SA.wf_init
    (fun _ call hs => registrations_wf_step wfe ra lib fs hs call) h

/-! ## Key rollover skips the key policy -/

/-- While `AllowKeyRollover` is on, `KeyRollover` makes any new key the account key, whatever the
key policy says of it. The outer request is accepted for an account; the inner JWS is signed by
a valid JWK, and its payload names the account's URL and that key; the key is new to the account
and to the table, and the account's contacts still validate. Then the account's row carries the
new key, and if the RA's key policy refuses that key, no longer every account key passes it. -/
theorem keyRollover_installs_unchecked_key (hon : fs.allowKeyRollover = true) (s : State)
    (request : Request) (now : Time) {payload innerPayload : String}
    {key newKey requested : JsonWebKey} {reg : Registration} {inner : JsonWebSignature}
    {innerSig : Signature} {rollover : RequestObject}
    (hpost : (verifyPOST wfe lib fs s.registrations s.nonces.nonce.2 request true "key-change").2 =
      .ok (payload, key, reg))
    (hinner : extractJWSKey lib payload = .ok (newKey, inner, innerSig))
    (hsigned : inner.verify newKey = .ok innerPayload)
    (hbody : lib.unmarshal innerPayload = some rollover)
    (haccount : relativeEndpoint wfe request (regPath ++ toString reg.id) = rollover.account)
    (hrequested : rollover.newKey = some requested) (hsame : requested.key = newKey.key)
    (hnew : key.key ≠ newKey.key)
    (hcontacts : RA.validateContacts lib.toLibraries ra reg.contact = .ok ())
    (hunused : ∀ r ∈ s.registrations.rows, r.keySHA256 ≠ lib.keyDigest newKey.key)
    (hbad : ra.keyPolicy.goodKey lib.curves newKey.key ≠ .ok ()) :
    (∃ r ∈ (step wfe ra lib fs s (.keyRollover request now)).1.registrations.rows,
        r.id = reg.id ∧ r.key = newKey) ∧
      ¬ AccountKeysGood ra lib (step wfe ra lib fs s (.keyRollover request now)).1.registrations := by
  obtain ⟨ns', hpost'⟩ : ∃ ns', verifyPOST wfe lib fs s.registrations s.nonces.nonce.2 request
      true "key-change" = (ns', .ok (payload, key, reg)) :=
    ⟨_, by rw [← hpost]⟩
  obtain ⟨rm, hrm, rfl, rfl⟩ := verifyPOST_account wfe lib fs hpost'
  let update : Registration := { Registration.empty with key := some newKey }
  have hik : update.key = some newKey := rfl
  have hdiff : (modelToRegistration fs rm).key.map (·.key) ≠ some newKey.key := by simpa using hnew
  have hmerged := RA.mergeUpdate_key_only fs (modelToRegistration fs rm) (some newKey)
  obtain ⟨hkey, -⟩ := RA.mergeUpdate_of_new_key fs hon hik hdiff
  have hcontacts' : RA.validateContacts lib.toLibraries ra
      (RA.mergeUpdate fs (modelToRegistration fs rm) update).1.contact = .ok () := by
    rw [hmerged]
    exact hcontacts
  have hip : (RA.mergeUpdate fs (modelToRegistration fs rm) update).1.initialIP ≠ [] := by
    rw [hmerged]
    exact List.ne_nil_of_length_pos (by simp [modelToRegistration])
  have hsa : ∃ t', SA.updateRegistration lib.keyDigest s.registrations fs
      (RA.mergeUpdate fs (modelToRegistration fs rm) update).1 = .ok t' :=
    SA.updateRegistration_ok lib.keyDigest ⟨rm, hrm, by simp⟩ hkey hip (fun r hr _ => hunused r hr)
  obtain ⟨t', regOut, hra, r, hr, hrid, hrkey⟩ :=
    RA.updateRegistration_key lib.toLibraries fs hon hik hdiff hcontacts' hsa
  have hhandler : (keyRollover wfe ra lib fs s.registrations s.nonces.nonce.2 request).1 = t' := by
    simp only [keyRollover, hpost', hinner, hsigned, hbody, haccount, ne_eq, not_true_eq_false,
      if_false, hrequested, publicKeysEqual, hsame, decide_true, Bool.not_true,
      Bool.false_eq_true]
    rw [hra]
  rw [step_keyRollover_registrations, hhandler]
  refine ⟨⟨r, hr, by simpa using hrid, hrkey⟩, fun hgood => hbad ?_⟩
  rw [← hrkey]
  exact hgood r hr

end Handlers

/-! ## A weak key by rollover -/

/-- A 2048-bit modulus with no prime factor below 752: a key the default policy accepts. -/
def accountKey : JsonWebKey := ⟨.rsa (2 ^ 2047 + 3) 65537, ""⟩

/-- The textbook modulus `61 * 53`, twelve bits long. -/
def weakKey : JsonWebKey := ⟨.rsa 3233 65537, ""⟩

/-- A payload with no member set. -/
def RequestObject.empty : RequestObject := ⟨"", none, "", none, "", none, [], none⟩

/-- Libraries for a run of two signed requests, the second carrying a nested JWS: the parser and
the decoder know those texts, a nonce is its counter in decimal, and the key digest is an
injective encoding of the key. No ECDSA key and no certificate occur, so the curve arithmetic,
the certificate parser and the duration format are never called. -/
def exampleLibraries : Libraries where
  keyDigest
    | .rsa n e => "rsa:" ++ toString n ++ ":" ++ toString e
    | .ecdsa c x y => c.name ++ ":" ++ toString x ++ ":" ++ toString y
  curves := ⟨fun _ => 0, fun _ => 0, fun _ _ _ => false, fun _ _ _ _ => (0, 0)⟩
  ipString ip := toString ip
  urlParse _ := none
  validateEmail _ := .ok ()
  parseSigned body :=
    if body = "new-reg JWS" then
      some ⟨[⟨some accountKey, "RS256", "1", accountKey.key⟩], "new-reg payload"⟩
    else if body = "key-change JWS" then
      some ⟨[⟨some accountKey, "RS256", "2", accountKey.key⟩], "inner JWS"⟩
    else if body = "inner JWS" then
      some ⟨[⟨some weakKey, "RS256", "", weakKey.key⟩], "rollover payload"⟩
    else none
  unmarshal payload :=
    if payload = "new-reg payload" then some { RequestObject.empty with resource := "new-reg" }
    else if payload = "inner JWS" then some { RequestObject.empty with resource := "key-change" }
    else if payload = "rollover payload" then
      some { RequestObject.empty with
        account := "https://acme.example/acme/reg/1", newKey := some weakKey }
    else none
  decryptNonce nonce := if nonce = "1" then some 1 else if nonce = "2" then some 2 else none
  parseCertificate _ := .error "x509: malformed certificate"
  durationString d := toString d ++ "ns"

/-- A WFE with the default key policy and no base URL. -/
def exampleWFE : WebFrontEndImpl := ⟨newKeyPolicy, "", "", false⟩

/-- An RA with the default key policy, at most 20 registrations per IP in three hours, no other
limit, no bound on the names of a CSR, and the CN left as the CSR has it. -/
def exampleRA : RA.RegistrationAuthorityImpl :=
  let off : Ratelimit.RateLimitPolicy := ⟨0, 0, [], []⟩
  ⟨newKeyPolicy, 0,
    { totalCertificates := off, certificatesPerName := off
      registrationsPerIP := ⟨3 * 3600 * 1000000000, 20, [], []⟩
      pendingAuthorizationsPerAccount := off, invalidAuthorizationsPerAccount := off
      certificatesPerFQDNSet := off }, 0, false⟩

/-- Key rollover on, account deactivation off. -/
def rolloverOn : Features := ⟨false, true⟩

/-- The new-reg request from `192.0.2.1`, signed by `accountKey`. -/
def newRegRequest : Request :=
  ⟨true, some "new-reg JWS", "", "https", "acme.example", "192.0.2.1", none⟩

/-- `192.0.2.1` as `ParseIP` gives it, in its 16-byte form. -/
def clientIP : List UInt8 := v4InV6Prefix ++ [192, 0, 2, 1]

/-- The key-change request: signed by the account key, its payload signed by `weakKey`. -/
def rolloverRequest : Request :=
  ⟨true, some "key-change JWS", "", "https", "acme.example", "", none⟩

/-- The state once `accountKey` has registered, at time 100. -/
def registered : State :=
  (step exampleWFE exampleRA exampleLibraries rolloverOn (State.init MaxUsed)
    (.newRegistration newRegRequest 100)).1

/-- The one account of `registered`. Its digest is read off the lemmas of `NewRegistration`
rather than computed: the kernel takes seconds over each comparison of the 617-digit text. -/
theorem registered_rows :
    registered.registrations.rows =
      [⟨1, accountKey, exampleLibraries.keyDigest accountKey.key, [], "", binary16 clientIP, 100,
        some .valid⟩] := by
  obtain ⟨rm, hrows, hsha⟩ : ∃ rm, registered.registrations.rows = [rm] ∧
      rm.keySHA256 = exampleLibraries.keyDigest rm.key.key := by
    have hone : registered.registrations.rows.length = 1 := by decide +kernel
    rw [registered, step_newRegistration_registrations] at hone ⊢
    rcases newRegistration_table exampleWFE exampleRA exampleLibraries rolloverOn _ _ newRegRequest 100
      with h | ⟨init, reg, h⟩
    · rw [h] at hone
      simp [State.init, RegTables.init] at hone
    · obtain ⟨key, -, -, built, -, hsa⟩ := RA.newRegistration_eq_ok _ _ h
      obtain ⟨rm, hrows, -, -, hsha, -⟩ := SA.newRegistration_rows _ hsa
      exact ⟨rm, by simpa [State.init, RegTables.init] using hrows, hsha⟩
  have hcolumns : registered.registrations.rows.map (fun r => { r with keySHA256 := "" }) =
      [⟨1, accountKey, "", [], "", binary16 clientIP, 100, some .valid⟩] := by decide +kernel
  rw [hrows, List.map_singleton, List.singleton_inj] at hcolumns
  obtain ⟨id, key, sha, contact, agreement, ip, created, status⟩ := rm
  simp only [RegModel.mk.injEq] at hcolumns hsha
  obtain ⟨rfl, rfl, -, rfl, rfl, rfl, rfl, rfl⟩ := hcolumns
  rw [hrows, hsha]

/-- From a reachable state where every account key passes the policy, one rollover installs
the twelve-bit `weakKey`. -/
theorem weakKey_rollover :
    Reachable (step exampleWFE exampleRA exampleLibraries rolloverOn) (State.init MaxUsed)
        registered ∧
      AccountKeysGood exampleRA exampleLibraries registered.registrations ∧
      ¬ AccountKeysGood exampleRA exampleLibraries
        (step exampleWFE exampleRA exampleLibraries rolloverOn registered
          (.keyRollover rolloverRequest 200)).1.registrations := by
  refine ⟨(Reachable.init _ _).next _, ?_, ?_⟩
  · rw [registered, step_newRegistration_registrations]
    exact accountKeysGood_newRegistration exampleWFE exampleRA exampleLibraries rolloverOn
      (by simp [AccountKeysGood, State.init, RegTables.init]) _ _ _
  · have hrow : registered.registrations.byDigest (exampleLibraries.keyDigest accountKey.key) =
        some ⟨1, accountKey, exampleLibraries.keyDigest accountKey.key, [], "", binary16 clientIP,
          100, some .valid⟩ := by
      simp [RegTables.byDigest, registered_rows]
    have haccount : lookupAccount exampleWFE exampleLibraries rolloverOn registered.registrations
        accountKey true = .ok (accountKey, ⟨1, some accountKey, some [], "", clientIP, 100, none⟩) :=
      lookupAccount_of_byDigest exampleWFE exampleLibraries rolloverOn hrow
    have hjws : extractJWSKey exampleLibraries "key-change JWS" =
        .ok (accountKey, ⟨[⟨some accountKey, "RS256", "2", accountKey.key⟩], "inner JWS"⟩,
          ⟨some accountKey, "RS256", "2", accountKey.key⟩) := by decide +kernel
    have hpost : verifyPOST exampleWFE exampleLibraries rolloverOn registered.registrations
        registered.nonces.nonce.2 rolloverRequest true "key-change" =
          ((nonceValid exampleLibraries registered.nonces.nonce.2 "2").2,
            .ok ("inner JWS", accountKey, ⟨1, some accountKey, some [], "", clientIP, 100, none⟩)) :=
      verifyPOST_of_checks exampleWFE exampleLibraries rolloverOn
        (verifySignature_of_checks exampleWFE exampleLibraries rolloverOn rfl rfl hjws haccount
          (by decide +kernel) (by decide +kernel) (by decide +kernel))
        (by decide) (Prod.ext (by decide +kernel) (by simp only)) (by decide +kernel)
    have hweak : exampleRA.keyPolicy.goodKey exampleLibraries.curves weakKey.key ≠ .ok () := by
      show Goodkey.goodKeyRSA exampleRA.keyPolicy 3233 65537 ≠ .ok ()
      have hsmall : 3233 < 2 ^ 2047 :=
        lt_of_lt_of_le (by norm_num : 3233 < 2 ^ 12) (Nat.pow_le_pow_right (by norm_num) (by norm_num))
      rw [Goodkey.goodKeyRSA_small rfl hsmall]
      intro h
      cases h
    have hunused : ∀ r ∈ registered.registrations.rows,
        r.keySHA256 ≠ exampleLibraries.keyDigest weakKey.key := by
      rw [registered_rows]
      decide +kernel
    exact (@keyRollover_installs_unchecked_key exampleWFE exampleRA exampleLibraries rolloverOn
      rfl registered rolloverRequest 200 "inner JWS" "rollover payload" accountKey weakKey weakKey
      ⟨1, some accountKey, some [], "", clientIP, 100, none⟩
      ⟨[⟨some weakKey, "RS256", "", weakKey.key⟩], "rollover payload"⟩
      ⟨some weakKey, "RS256", "", weakKey.key⟩
      { RequestObject.empty with
        account := "https://acme.example/acme/reg/1", newKey := some weakKey }
      (by rw [hpost]) (by decide +kernel) (by decide +kernel) (by decide +kernel)
      (by decide +kernel) rfl rfl (by decide +kernel) (by decide +kernel) hunused hweak).2

/-- The state after `accountKey` registered is well formed. -/
theorem registered_wf : registered.registrations.Wf :=
  registrations_wf_of_reachable exampleWFE exampleRA exampleLibraries rolloverOn MaxUsed
    ((Reachable.init _ _).next _)

/-- With both flags off, the account key stored by a registration passes the key policy. -/
theorem registered_keys_good :
    AccountKeysGood exampleRA exampleLibraries
      (step exampleWFE exampleRA exampleLibraries ⟨false, false⟩ (State.init MaxUsed)
        (.newRegistration newRegRequest 100)).1.registrations :=
  accountKeysGood_of_reachable exampleWFE exampleRA exampleLibraries ⟨false, false⟩ rfl MaxUsed
    ((Reachable.init _ _).next _)

end Boulder.WFE
