/-
# Boulder.GRPC.PBMarshalling -- registrations and authorizations as protobuf messages

The RA, the SA and the VA hand registrations and authorizations to each other as the messages of
`corepb`, through the converters of `grpc/pb-marshalling.go`. In a message an optional field is a
pointer (`none` for nil) and a repeated field a slice, an `Option` of a list so that nil and
empty stay apart. Protobuf keeps no such difference on the wire: a receiver reads an empty
repeated field as nil (`wireRegistration`).

A registration comes back as `registrationAfterRoundTrip` says (`registration_round_trip`): a
nil `Contact` comes back nil, an empty list comes back empty (`ContactsPresent` carries what the
wire loses), and a list comes back in order, while an initial IP of four bytes comes back in its
16-byte form. An authorization comes back as `authzAfterRoundTrip` says
(`pbToAuthz_authzToPB`): `authzToPB` writes a nil `Expires` as the instant 0, which `pbToAuthz`
reads back as a pointer to it; a challenge's empty list of validation records comes back nil, a
record's nil `AddressesResolved` comes back empty, an address used in its 4-byte form comes back
in its 16-byte form, and a problem's status is cut to 32 bits.

The codecs of other packages are parameters (`Codecs`). Of `net.IP.String` one law is assumed:
`ParseIP` (`Boulder.Lib.GoNet`) reads its text back to the 16-byte form of the address. The JSON
of a key and of the combinations is taken to read back as a hypothesis of each round trip. A status or
problem type is one of the named constants of the model's enumerations; a text that names none is
refused by the model's decoders, where Go would carry it along. No converter writes one.
-/
import Boulder.GRPC
import Boulder.Lib.GoNet
import Boulder.Lib.Loop

namespace Boulder.GRPC

open Boulder.Core Boulder.Jose Boulder.Lib.GoNet Boulder.Lib.GoStrings Boulder.Lib.Loop

/-! ## The messages of `corepb` -/

/-- `corepb.ProblemDetails`. -/
structure PBProblemDetails where
  problemType : Option String
  detail : Option String
  httpStatus : Option ℤ
  deriving DecidableEq, Repr

/-- `corepb.ValidationRecord`. `AddressUsed` holds the text of `MarshalText`. -/
structure PBValidationRecord where
  hostname : Option String
  port : Option String
  addressesResolved : Option (List NetIP)
  addressUsed : Option String
  authorities : Option (List String)
  url : Option String
  deriving DecidableEq, Repr

/-- `corepb.Challenge`. -/
structure PBChallenge where
  id : Option ℤ
  type : Option String
  status : Option String
  token : Option String
  keyAuthorization : Option String
  error : Option PBProblemDetails
  validationrecords : Option (List (Option PBValidationRecord))
  deriving DecidableEq, Repr

/-- `corepb.Authorization`. `Combinations` holds JSON. -/
structure PBAuthorization where
  id : Option String
  identifier : Option String
  registrationID : Option ℤ
  status : Option String
  expires : Option ℤ
  challenges : Option (List (Option PBChallenge))
  combinations : Option String
  deriving DecidableEq, Repr

/-- `corepb.Registration`. `Key` holds JSON and `InitialIP` the text of `MarshalText`. -/
structure PBRegistration where
  id : Option ℤ
  key : Option String
  contact : Option (List String)
  contactsPresent : Option Bool
  agreement : Option String
  initialIP : Option String
  createdAt : Option ℤ
  status : Option String
  deriving DecidableEq, Repr

/-- What a receiver sees of a repeated field: an empty one is nil. -/
def wireSlice {α : Type} : Option (List α) → Option (List α)
  | some [] => none
  | s => s

/-- A registration message as the receiver sees it; `Contact` is its one repeated field. -/
def wireRegistration (pb : PBRegistration) : PBRegistration :=
  { pb with contact := wireSlice pb.contact }

/-! ## Other packages -/

/-- The library calls of the converters. `ipString` is `net.IP.String`, whose text `ParseIP`
reads back to the address's 16-byte form. -/
structure Codecs where
  jwkMarshal : JsonWebKey → Except GoError String
  jwkUnmarshal : String → Except GoError JsonWebKey
  combosMarshal : List (List ℤ) → Except GoError String
  combosUnmarshal : String → Except GoError (List (List ℤ))
  ipString : NetIP → String
  parseIP_ipString : ∀ ip : NetIP, ip.length = 4 ∨ ip.length = 16 → parseIP (ipString ip) = to16 ip

/-- `ErrMissingParameters`, made by `grpc.Errorf`. -/
def errMissingParameters : GoError :=
  .rpc 9 (sprintfNoArgs "required RPC parameter was missing")

/-- Go's run-time error for the dereference of a nil pointer. -/
def nilDereference : GoError := .other "runtime error: invalid memory address or nil pointer dereference"

/-- The model's refusal of a text that names no constant of its enumerations. -/
def unknownConstant (s : String) : GoError := .other ("no constant named " ++ s)

/-- `int32(x)`: the low 32 bits, as a signed number. -/
def toInt32 (x : ℤ) : ℤ := (x + 2 ^ 31) % 2 ^ 32 - 2 ^ 31

/-- `net.IP.MarshalText`. -/
def ipMarshalText (codecs : Codecs) (ip : NetIP) : Except GoError String :=
  if ip.length = 0 then .ok ""
  else if ip.length ≠ 4 ∧ ip.length ≠ 16 then
    .error (.other ("address " ++ hexEncodeToString ip ++ ": invalid IP address"))
  else .ok (codecs.ipString ip)

/-- `net.IP.UnmarshalText`. -/
def ipUnmarshalText (text : String) : Except GoError NetIP :=
  if text.length = 0 then .ok []
  else match parseIP text with
    | none => .error (.other ("invalid IP address: " ++ text))
    | some x => .ok x

/-- The status a text names. -/
def statusOfName (s : String) : Option AcmeStatus :=
  [AcmeStatus.unknown, .pending, .processing, .valid, .invalid, .revoked, .deactivated].find?
    (·.name = s)

/-- `core.AcmeStatus(s)`. -/
def decodeStatus (s : String) : Except GoError AcmeStatus :=
  match statusOfName s with
  | some st => .ok st
  | none => .error (unknownConstant s)

/-- `string(reg.Status)`: the empty status is the empty string. -/
def regStatusName : Option AcmeStatus → String
  | none => ""
  | some st => st.name

/-- `core.AcmeStatus(s)` for a registration, whose status may be empty. -/
def decodeRegStatus (s : String) : Except GoError (Option AcmeStatus) :=
  if s = "" then .ok none else some <$> decodeStatus s

/-- The problem type a URN names. -/
def problemTypeOfURN (s : String) : Option ProblemType :=
  [ProblemType.connection, .malformed, .serverInternal, .tls, .unauthorized, .unknownHost,
    .rateLimited, .badNonce, .invalidEmail, .rejectedIdentifier, .unsupportedIdentifier].find?
    (·.urn = s)

/-! ## The converters -/

/-- `problemDetailsToPB`; it never fails. -/
def problemDetailsToPB : Option ProblemDetails → Option PBProblemDetails
  | none => none
  | some prob => some ⟨some prob.type.urn, some prob.detail, some (toInt32 prob.httpStatus)⟩

/-- `pbToProblemDetails`. -/
def pbToProblemDetails : Option PBProblemDetails → Except GoError (Option ProblemDetails)
  | none => .ok none
  | some pb =>
    match pb.problemType, pb.detail with
    | some pt, some detail =>
      match problemTypeOfURN pt with
      | some type => .ok (some ⟨type, detail, pb.httpStatus.getD 0⟩)
      | none => .error (unknownConstant pt)
    | _, _ => .error errMissingParameters

/-- `validationRecordToPB`: `make([][]byte, len(...))` is never nil. -/
def validationRecordToPB (codecs : Codecs) (record : ValidationRecord) :
    Except GoError PBValidationRecord := do
  let addrs := some (record.addressesResolved.getD [])
  let addrUsed ← ipMarshalText codecs record.addressUsed
  pure ⟨some record.hostname, some record.port, addrs, some addrUsed, record.authorities,
    some record.url⟩

/-- `pbToValidationRecord`: `make([]net.IP, len(...))` is never nil. -/
def pbToValidationRecord : Option PBValidationRecord → Except GoError ValidationRecord
  | none => .error errMissingParameters
  | some pb =>
    match pb.addressUsed, pb.hostname, pb.port, pb.url with
    | some used, some hostname, some port, some url => do
      let addrs := some (pb.addressesResolved.getD [])
      let addrUsed ← ipUnmarshalText used
      pure ⟨pb.authorities, url, hostname, port, addrs, addrUsed⟩
    | _, _, _, _ => .error errMissingParameters

/-- `challengeToPB`. -/
def challengeToPB (codecs : Codecs) (challenge : Challenge) : Except GoError PBChallenge := do
  let prob := problemDetailsToPB challenge.error
  let recordAry ← (challenge.validationRecord.getD []).mapM (validationRecordToPB codecs)
  pure ⟨some challenge.id, some challenge.type, some challenge.status.name, some challenge.token,
    some challenge.providedKeyAuthorization, prob, some (recordAry.map some)⟩

/-- `pbToChallenge`: the records are converted only when there are some; else they stay nil. -/
def pbToChallenge : Option PBChallenge → Except GoError Challenge
  | none => .error errMissingParameters
  | some pb =>
    match pb.id, pb.type, pb.status, pb.token, pb.keyAuthorization with
    | some id, some type, some status, some token, some keyAuthorization => do
      let records := pb.validationrecords.getD []
      let recordAry ←
        if records.length > 0 then some <$> records.mapM pbToValidationRecord else pure none
      let prob ← pbToProblemDetails pb.error
      let status ← decodeStatus status
      pure { id, type, status, token, providedKeyAuthorization := keyAuthorization, error := prob,
             validationRecord := recordAry }
    | _, _, _, _, _ => .error errMissingParameters

/-- `authzToPB`: `var expires int64` stays 0 for a nil `Expires`. -/
def authzToPB (codecs : Codecs) (authz : Authorization) : Except GoError PBAuthorization := do
  let challs ← authz.challenges.mapM (challengeToPB codecs)
  let comboBytes ← codecs.combosMarshal authz.combinations
  let expires := authz.expires.getD 0
  pure ⟨some authz.id, some authz.identifier.value, some authz.registrationID,
    some authz.status.name, some expires, some (challs.map some), some comboBytes⟩

/-- `pbToAuthz`: the identifier is always `dns`, and `Expires` always points to an instant. -/
def pbToAuthz (codecs : Codecs) (pb : PBAuthorization) : Except GoError Authorization := do
  let challs ← (pb.challenges.getD []).mapM pbToChallenge
  let combos ← codecs.combosUnmarshal (pb.combinations.getD "")
  match pb.expires, pb.id, pb.identifier, pb.registrationID, pb.status with
  | some expires, some id, some identifier, some registrationID, some status => do
    let status ← decodeStatus status
    pure ⟨id, ⟨.dns, identifier⟩, registrationID, status, some expires, challs, combos⟩
  | _, _, _, _, _ => .error nilDereference

/-- `registrationToPB`: `reg.Key.MarshalJSON()` dereferences the key. -/
def registrationToPB (codecs : Codecs) (reg : Registration) : Except GoError PBRegistration := do
  let keyBytes ← match reg.key with
    | none => .error nilDereference
    | some key => codecs.jwkMarshal key
  let ipBytes ← ipMarshalText codecs reg.initialIP
  pure ⟨some reg.id, some keyBytes, reg.contact, some reg.contact.isSome, some reg.agreement,
    some ipBytes, some reg.createdAt, some (regStatusName reg.status)⟩

/-- `pbToRegistration`: a present but empty `Contact` is rebuilt as an empty list. -/
def pbToRegistration (codecs : Codecs) (pb : PBRegistration) : Except GoError Registration := do
  let key ← codecs.jwkUnmarshal (pb.key.getD "")
  let initialIP ← ipUnmarshalText (pb.initialIP.getD "")
  match pb.contactsPresent, pb.id, pb.agreement, pb.createdAt, pb.status with
  | some contactsPresent, some id, some agreement, some createdAt, some status => do
    let contacts : Option (List String) :=
      if contactsPresent then
        if (pb.contact.getD []).length ≠ 0 then some (pb.contact.getD []) else some []
      else none
    let status ← decodeRegStatus status
    pure ⟨id, some key, contacts, agreement, initialIP, createdAt, status⟩
  | _, _, _, _, _ => .error nilDereference

/-! ## Constants and addresses -/

@[simp] theorem decodeStatus_name (st : AcmeStatus) : decodeStatus st.name = .ok st := by
  cases st <;> rfl

@[simp] theorem decodeRegStatus_regStatusName (st : Option AcmeStatus) :
    decodeRegStatus (regStatusName st) = .ok st := by
  cases st with
  | none => rfl
  | some st =>
    have hne : st.name ≠ "" := by cases st <;> decide
    rw [regStatusName, decodeRegStatus, if_neg hne, decodeStatus_name]
    rfl

@[simp] theorem problemTypeOfURN_urn (t : ProblemType) : problemTypeOfURN t.urn = some t := by
  cases t <;> rfl

theorem toInt32_of_lt {x : ℤ} (hlo : -2 ^ 31 ≤ x) (hhi : x < 2 ^ 31) : toInt32 x = x := by
  unfold toInt32
  omega

/-- An address of four or sixteen bytes comes back from its text in its 16-byte form. -/
theorem ipUnmarshalText_ipMarshalText (codecs : Codecs) {ip : NetIP}
    (hlen : ip.length = 0 ∨ ip.length = 4 ∨ ip.length = 16) :
    ∃ text, ipMarshalText codecs ip = .ok text ∧ ipUnmarshalText text = .ok ((to16 ip).getD []) := by
  rcases hlen with h0 | hlen
  · refine ⟨"", by rw [ipMarshalText, if_pos h0], ?_⟩
    rw [List.length_eq_zero_iff.mp h0]
    rfl
  · have hne : ip.length ≠ 0 := by omega
    have hparse := codecs.parseIP_ipString ip hlen
    have htext : (codecs.ipString ip).length ≠ 0 := by
      intro h
      rw [String.length_eq_zero_iff.mp h] at hparse
      have hsome : (to16 ip).isSome := by
        unfold to16
        rcases hlen with h | h <;> simp [h]
      rw [← hparse] at hsome
      exact absurd hsome (by decide)
    refine ⟨codecs.ipString ip, ?_, ?_⟩
    · rw [ipMarshalText, if_neg hne, if_neg (by omega)]
    · obtain ⟨x, hx⟩ := Option.isSome_iff_exists.mp (show (to16 ip).isSome by
        unfold to16
        rcases hlen with h | h <;> simp [h])
      rw [ipUnmarshalText, if_neg htext, hparse, hx]
      rfl

/-! ## Registrations -/

/-- A registration as it comes back: its initial IP in its 16-byte form, nil staying nil. -/
def registrationAfterRoundTrip (r : Registration) : Registration :=
  { r with initialIP := (to16 r.initialIP).getD [] }

/-- The contacts after the wire: `ContactsPresent` tells nil from empty. -/
theorem contacts_after_wire (contact : Option (List String)) :
    (if contact.isSome = true then
      if ((wireSlice contact).getD []).length ≠ 0 then some ((wireSlice contact).getD [])
      else some []
    else none) = contact := by
  rcases contact with _ | _ | ⟨c, cs⟩
  · rfl
  · rfl
  · simp [wireSlice]

/-- **Round trip of a registration.** A registration with a key whose JSON reads back and an
initial IP that is nil or of four or sixteen bytes comes back from its message, as the receiver
sees it, as `registrationAfterRoundTrip` says: a nil `Contact` stays nil, an empty one stays
empty and a list stays the list, while the IP comes back in its 16-byte form. -/
theorem registration_round_trip (codecs : Codecs) (r : Registration) {k : JsonWebKey}
    {json : String} (hkey : r.key = some k) (henc : codecs.jwkMarshal k = .ok json)
    (hdec : codecs.jwkUnmarshal json = .ok k)
    (hip : r.initialIP.length = 0 ∨ r.initialIP.length = 4 ∨ r.initialIP.length = 16) :
    (registrationToPB codecs r).bind (fun pb => pbToRegistration codecs (wireRegistration pb)) =
      .ok (registrationAfterRoundTrip r) := by
  obtain ⟨text, htext, hbs⟩ := ipUnmarshalText_ipMarshalText codecs hip
  have hpb : registrationToPB codecs r = .ok ⟨some r.id, some json, r.contact,
      some r.contact.isSome, some r.agreement, some text, some r.createdAt,
      some (regStatusName r.status)⟩ := by
    simp only [registrationToPB, hkey, henc, htext, ok_bind]
    rfl
  rw [hpb, Except.bind, wireRegistration, pbToRegistration]
  simp only [Option.getD_some, hdec, hbs, ok_bind, contacts_after_wire,
    decodeRegStatus_regStatusName]
  rw [← hkey]
  rfl

/-! ## Authorizations -/

/-- A record as it comes back: its resolved addresses are never nil, and the address it used
comes back in its 16-byte form. -/
def recordAfterRoundTrip (v : ValidationRecord) : ValidationRecord :=
  { v with addressesResolved := some (v.addressesResolved.getD []),
           addressUsed := (to16 v.addressUsed).getD [] }

/-- A problem as it comes back: its status cut to 32 bits. -/
def problemAfterRoundTrip (prob : ProblemDetails) : ProblemDetails :=
  { prob with httpStatus := toInt32 prob.httpStatus }

/-- A challenge as it comes back: an empty list of records comes back nil. -/
def challengeAfterRoundTrip (ch : Challenge) : Challenge :=
  { ch with error := ch.error.map problemAfterRoundTrip,
            validationRecord :=
              match ch.validationRecord with
              | none | some [] => none
              | some records => some (records.map recordAfterRoundTrip) }

/-- An authorization as it comes back: for `dns`, and with the instant 0 for a nil `Expires`. -/
def authzAfterRoundTrip (a : Authorization) : Authorization :=
  { a with identifier := ⟨.dns, a.identifier.value⟩, expires := some (a.expires.getD 0),
           challenges := a.challenges.map challengeAfterRoundTrip }

theorem pbToProblemDetails_problemDetailsToPB (prob : Option ProblemDetails) :
    pbToProblemDetails (problemDetailsToPB prob) = .ok (prob.map problemAfterRoundTrip) := by
  cases prob with
  | none => rfl
  | some prob =>
    simp only [problemDetailsToPB, pbToProblemDetails, problemTypeOfURN_urn, Option.getD_some]
    rfl

/-- A record whose address used is nil or of four or sixteen bytes is written and read back. -/
theorem validationRecord_round_trip (codecs : Codecs) {v : ValidationRecord}
    (haddr : v.addressUsed.length = 0 ∨ v.addressUsed.length = 4 ∨ v.addressUsed.length = 16) :
    ∃ pb, validationRecordToPB codecs v = .ok pb ∧
      pbToValidationRecord (some pb) = .ok (recordAfterRoundTrip v) := by
  obtain ⟨text, henc, hdec⟩ := ipUnmarshalText_ipMarshalText codecs haddr
  refine ⟨⟨some v.hostname, some v.port, some (v.addressesResolved.getD []), some text,
    v.authorities, some v.url⟩, ?_, ?_⟩
  · simp only [validationRecordToPB, henc, ok_bind]
    rfl
  · simp only [pbToValidationRecord, hdec, ok_bind]
    rfl

/-- A challenge is written and read back; `pbToChallenge` converts records only when there are
some, so an empty list comes back nil. -/
theorem challenge_round_trip (codecs : Codecs) {ch : Challenge}
    (haddr : ∀ v ∈ ch.validationRecord.getD [],
      v.addressUsed.length = 0 ∨ v.addressUsed.length = 4 ∨ v.addressUsed.length = 16) :
    ∃ pb, challengeToPB codecs ch = .ok pb ∧ pbToChallenge (some pb) = .ok (challengeAfterRoundTrip ch) := by
  obtain ⟨bs, hbs, hdec, hlen⟩ := mapM_map_roundTrip (k := some) (g := pbToValidationRecord)
    (h := recordAfterRoundTrip) fun v hv => validationRecord_round_trip codecs (haddr v hv)
  refine ⟨⟨some ch.id, some ch.type, some ch.status.name, some ch.token,
    some ch.providedKeyAuthorization, problemDetailsToPB ch.error, some (bs.map some)⟩, ?_, ?_⟩
  · simp only [challengeToPB, hbs, ok_bind]
    rfl
  · simp only [pbToChallenge, Option.getD_some, List.length_map, hlen, hdec,
      pbToProblemDetails_problemDetailsToPB, decodeStatus_name]
    unfold challengeAfterRoundTrip
    rcases ch.validationRecord with _ | _ | ⟨r, rs⟩ <;> rfl

/-- **What an authorization comes back as.** An authorization whose combinations' JSON reads
back and whose records used addresses of four or sixteen bytes is written and read back as
`authzAfterRoundTrip` says. -/
theorem pbToAuthz_authzToPB (codecs : Codecs) (a : Authorization) {json : String}
    (hcombos : codecs.combosMarshal a.combinations = .ok json)
    (hcombos' : codecs.combosUnmarshal json = .ok a.combinations)
    (haddr : ∀ ch ∈ a.challenges, ∀ v ∈ ch.validationRecord.getD [],
      v.addressUsed.length = 0 ∨ v.addressUsed.length = 4 ∨ v.addressUsed.length = 16) :
    (authzToPB codecs a).bind (pbToAuthz codecs) = .ok (authzAfterRoundTrip a) := by
  obtain ⟨bs, hbs, hdec, -⟩ := mapM_map_roundTrip (k := some) (g := pbToChallenge)
    (h := challengeAfterRoundTrip) fun ch hch => challenge_round_trip codecs (haddr ch hch)
  have hpb : authzToPB codecs a = .ok ⟨some a.id, some a.identifier.value, some a.registrationID,
      some a.status.name, some (a.expires.getD 0), some (bs.map some), some json⟩ := by
    simp only [authzToPB, hbs, hcombos, ok_bind]
    rfl
  rw [hpb]
  simp only [Except.bind, pbToAuthz, Option.getD_some, hdec, hcombos', ok_bind, decodeStatus_name]
  rfl

/-- **A nil `Expires` does not come back nil.** Every authorization without an expiry whose
combinations' JSON reads back and whose records used addresses of four or sixteen bytes makes
the round trip, and comes back expiring at the instant 0. -/
theorem authz_round_trip_nil_expires (codecs : Codecs) (a : Authorization) {json : String}
    (hnil : a.expires = none) (hcombos : codecs.combosMarshal a.combinations = .ok json)
    (hcombos' : codecs.combosUnmarshal json = .ok a.combinations)
    (haddr : ∀ ch ∈ a.challenges, ∀ v ∈ ch.validationRecord.getD [],
      v.addressUsed.length = 0 ∨ v.addressUsed.length = 4 ∨ v.addressUsed.length = 16) :
    ∃ a', (authzToPB codecs a).bind (pbToAuthz codecs) = .ok a' ∧ a'.expires = some 0 :=
  ⟨authzAfterRoundTrip a, pbToAuthz_authzToPB codecs a hcombos hcombos' haddr, by
    rw [authzAfterRoundTrip, hnil]
    rfl⟩

/-! ## Codecs for the examples -/

/-- The key of the examples. -/
def exampleKey : JsonWebKey := ⟨.rsa 3233 65537, ""⟩

/-- Codecs whose `ipString` writes the full text of the address's 16-byte form, and whose JSON
knows the example key and the combination `[[0]]`. -/
def exampleCodecs : Codecs where
  jwkMarshal _ := .ok "key"
  jwkUnmarshal s := if s = "key" then .ok exampleKey else .error (.other "invalid key")
  combosMarshal c := .ok (toString c)
  combosUnmarshal s := if s = "[[0]]" then .ok [[0]] else .error (.other "unexpected JSON")
  ipString ip := fullForm ((to16 ip).getD [])
  parseIP_ipString := fun ip hlen => by
    obtain ⟨x, hx, hxlen⟩ : ∃ x, to16 ip = some x ∧ x.length = 16 := by
      rcases hlen with h | h
      · exact ⟨v4InV6Prefix ++ ip, by rw [to16, if_pos h], by simp [v4InV6Prefix, h]⟩
      · exact ⟨ip, by rw [to16, if_neg (by omega), if_pos h], h⟩
    rw [hx, Option.getD_some, parseIP_fullForm hxlen]

/-- A registration that asked for no contacts, a pointer to an empty list, from the 4-byte
address `1.1.1.1`. -/
def exampleRegistration : Registration :=
  ⟨1, some exampleKey, some [], "yup", [1, 1, 1, 1], 1000, some .valid⟩

theorem registration_round_trip_example :
    (registrationToPB exampleCodecs exampleRegistration).bind
      (fun pb => pbToRegistration exampleCodecs (wireRegistration pb)) =
        .ok (registrationAfterRoundTrip exampleRegistration) :=
  registration_round_trip exampleCodecs exampleRegistration rfl rfl (by decide) (by decide)

/-- The 4-byte address comes back in its 16-byte form, so the registration does not come back
as it was. -/
theorem registration_round_trip_widens_v4 :
    (registrationToPB exampleCodecs exampleRegistration).bind
        (fun pb => pbToRegistration exampleCodecs (wireRegistration pb)) =
      .ok { exampleRegistration with initialIP := v4InV6Prefix ++ [1, 1, 1, 1] } ∧
      v4InV6Prefix ++ [1, 1, 1, 1] ≠ exampleRegistration.initialIP := by
  decide +kernel

/-- A pending authorization with no expiry, one challenge and no records. -/
def exampleNilExpires : Authorization :=
  { id := "a1", identifier := ⟨.dns, "example.com"⟩, registrationID := 5, status := .pending,
    expires := none,
    challenges := [{ id := 10, type := "dns-01", status := .pending, token := "asd",
                     providedKeyAuthorization := "keyauth" }],
    combinations := [[0]] }

theorem authz_round_trip_nil_expires_example :
    ∃ a', (authzToPB exampleCodecs exampleNilExpires).bind (pbToAuthz exampleCodecs) = .ok a' ∧
      a'.expires = some 0 :=
  authz_round_trip_nil_expires exampleCodecs exampleNilExpires rfl rfl (by decide)
    (by simp [exampleNilExpires])

end Boulder.GRPC
