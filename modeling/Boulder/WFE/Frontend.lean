/-
# Boulder.WFE.Frontend -- the account and authorization endpoints as one system

The WFE serves both families of endpoints from one nonce service, and the RA's
`UpdateAuthorization` reads the account a challenge response belongs to from the registrations
table that `NewRegistration`, `Registration` and `KeyRollover` write. A run of this system
interleaves account calls with the calls of the authorization flow: an account update or a key
rollover may land between the read of an authorization and its challenge response, or between
the response and the VA's answer.

An account call writes the accounts and the nonces and leaves the flow's tables, copies and
validations as they were (`frontendStep_account`): a rollover revisits no challenge checked with
the old key. The flow's invariant therefore holds here for every key an account held during the
run (`frontend_flowInv`, by the history rule `Lib.Run.final_heldDuring`), and a valid
authorization is backed by challenges whose key authorization is that of a key its account held
in some state of the run, not necessarily the key it has now (`frontend_valid_backed`). Runs of
authorization calls alone are the runs of the flow (`final_map_authz`).
-/
import Boulder.WFE.AuthzGuarantees
import Boulder.WFE.Registration

namespace Boulder.WFE

open Boulder.Core Boulder.Jose Boulder.SA Boulder.Lib.Run

/-- The state the endpoints share: the accounts, and the authorization flow with the nonces. -/
structure FrontendState where
  registrations : RegTables
  flow : AuthzState

/-- A call to the account endpoints, or a call of the authorization flow. -/
inductive FrontendCall where
  | account (call : Call)
  | authz (call : AuthzCall)

/-- What a call answers. -/
inductive FrontendReply where
  | account (response : Response)
  | authz (reply : AuthzReply)

section Step

variable (wfe : WebFrontEndImpl) (ra : RA.RegistrationAuthorityImpl) (lib : Libraries)
  (fs : Features) (cfg : RA.AuthzConfig) (sv : RA.AuthzServices) (allowAuthzDeactivation : Bool)
  (decodeAuthorization : String → Option Authorization) (decodeChallenge : String → Option Challenge)

/-- One call: an account call runs the account endpoints on the accounts and the shared nonces;
a call of the flow runs it over the accounts as they are now. -/
def frontendStep (s : FrontendState) : FrontendCall → FrontendState × FrontendReply
  | .account call =>
    let (accounts, r) := step wfe ra lib fs ⟨s.registrations, s.flow.nonces⟩ call
    (⟨accounts.registrations, { s.flow with nonces := accounts.nonces }⟩, .account r)
  | .authz call =>
    let (flow, r) := authzStep wfe lib fs cfg sv s.registrations allowAuthzDeactivation
      decodeAuthorization decodeChallenge s.flow call
    (⟨s.registrations, flow⟩, .authz r)

/-- The initial state: no accounts, no authorizations, a fresh nonce service. -/
def FrontendState.init (maxUsed : ℕ) : FrontendState := ⟨RegTables.init, AuthzState.init maxUsed⟩

/-- An account call leaves the flow but for its nonces. -/
theorem frontendStep_account (s : FrontendState) (call : Call) :
    (frontendStep wfe ra lib fs cfg sv allowAuthzDeactivation decodeAuthorization decodeChallenge s
      (.account call)).1.flow =
      { s.flow with nonces := (step wfe ra lib fs ⟨s.registrations, s.flow.nonces⟩ call).1.nonces } :=
  rfl

/-- A call of the flow leaves the accounts and takes the flow's step over them. -/
theorem frontendStep_authz (s : FrontendState) (call : AuthzCall) :
    (frontendStep wfe ra lib fs cfg sv allowAuthzDeactivation decodeAuthorization decodeChallenge s
      (.authz call)).1 =
      ⟨s.registrations, (authzStep wfe lib fs cfg sv s.registrations allowAuthzDeactivation
        decodeAuthorization decodeChallenge s.flow call).1⟩ :=
  rfl

/-- A run of calls of the flow alone is the flow's run over the accounts it starts with. -/
theorem final_map_authz (regs : RegTables) (calls : List AuthzCall) :
    ∀ flow : AuthzState,
      final (frontendStep wfe ra lib fs cfg sv allowAuthzDeactivation decodeAuthorization
        decodeChallenge) ⟨regs, flow⟩ (calls.map .authz) =
      ⟨regs, final (authzStep wfe lib fs cfg sv regs allowAuthzDeactivation decodeAuthorization
        decodeChallenge) flow calls⟩ := by
  induction calls with
  | nil => intro flow; rfl
  | cons call calls ih =>
    intro flow
    rw [List.map_cons, final_cons, frontendStep_authz, final_cons]
    exact ih _

end Step

/-! ## The flow's invariant, for the keys held during a run -/

section Keys

variable {wfe : WebFrontEndImpl} {ra : RA.RegistrationAuthorityImpl} {lib : Libraries}
  {fs : Features} {cfg : RA.AuthzConfig} {sv : RA.AuthzServices} {allowAuthzDeactivation : Bool}
  {decodeAuthorization : String → Option Authorization} {decodeChallenge : String → Option Challenge}

/-- What a state contributes to the keys held: the key each account has in it. -/
def heldKey (fs : Features) (s : FrontendState) (x : ℤ × Option JsonWebKey) : Prop :=
  AccountKey s.registrations fs x.1 x.2

/-- **Step.** Every call keeps the flow's invariant for any set of keys that holds the keys the
accounts have before the call: an account call leaves the flow, and a call of the flow reads
only those accounts. -/
theorem frontend_flowInv_step (K : ℤ × Option JsonWebKey → Prop) (s : FrontendState)
    (call : FrontendCall) (hheld : ∀ x, heldKey fs s x → K x)
    (h : FlowInv sv.thumbprint (fun regID key => K (regID, key)) s.flow) :
    FlowInv sv.thumbprint (fun regID key => K (regID, key))
      (frontendStep wfe ra lib fs cfg sv allowAuthzDeactivation decodeAuthorization decodeChallenge
        s call).1.flow := by
  cases call with
  | account call =>
    rw [frontendStep_account]
    exact ⟨h.tables, h.inFlight, h.validations⟩
  | authz call =>
    rw [frontendStep_authz]
    exact h.move (fun regID key hkey => hheld (regID, key) hkey) (move_authzStep s.flow call)

/-- **Run.** After any run from accounts with no authorizations yet, the flow's invariant holds
for the keys the accounts held in the states of the run. -/
theorem frontend_flowInv (regs : RegTables) (maxUsed : ℕ) (calls : List FrontendCall) :
    FlowInv sv.thumbprint
      (fun regID key => heldDuring (frontendStep wfe ra lib fs cfg sv allowAuthzDeactivation
        decodeAuthorization decodeChallenge) (heldKey fs) ⟨regs, AuthzState.init maxUsed⟩ calls
        (regID, key))
      (final (frontendStep wfe ra lib fs cfg sv allowAuthzDeactivation decodeAuthorization
        decodeChallenge) ⟨regs, AuthzState.init maxUsed⟩ calls).flow :=
  @final_heldDuring _ _ _ _
    (frontendStep wfe ra lib fs cfg sv allowAuthzDeactivation decodeAuthorization decodeChallenge)
    (heldKey fs) (fun K s => FlowInv sv.thumbprint (fun regID key => K (regID, key)) s.flow)
    ⟨regs, AuthzState.init maxUsed⟩ (fun _ => flowInv_init sv.thumbprint _ maxUsed)
    frontend_flowInv_step calls

/-- **Validated with a key the account held.** After any run of the account endpoints and the
authorization flow interleaved, from accounts with no authorizations yet, an authorization that
`GetAuthorization` returns as valid has a combination of its challenges, not empty, each of
which the VA validated and which carries the key authorization of a key its account held in some
state of the run. -/
theorem frontend_valid_backed (regs : RegTables) (maxUsed : ℕ) (calls : List FrontendCall)
    {id : String} {a : Authorization}
    (hget : getAuthorization (final (frontendStep wfe ra lib fs cfg sv allowAuthzDeactivation
      decodeAuthorization decodeChallenge) ⟨regs, AuthzState.init maxUsed⟩ calls).flow.tables id =
        .ok a)
    (hvalid : a.status = .valid) :
    BackedBy sv.thumbprint
      (fun regID key => ∃ s ∈ visited (frontendStep wfe ra lib fs cfg sv allowAuthzDeactivation
        decodeAuthorization decodeChallenge) ⟨regs, AuthzState.init maxUsed⟩ calls,
        AccountKey s.registrations fs regID key)
      a a.challenges :=
  (frontend_flowInv regs maxUsed calls).tables.backed_of_getAuthorization hget hvalid

/-- The flow's run of `flowCalls`, made over the accounts of `flowRegistrations`: the account
validated `example.com` with the one key it held. -/
theorem frontend_flow_backed :
    getAuthorization (final (frontendStep flowWFE RA.issuanceRA flowLibraries ⟨false, false⟩
      flowConfig flowServices false flowDecodeAuthorization flowDecodeChallenge)
        ⟨flowRegistrations, AuthzState.init 10⟩ (flowCalls.map .authz)).flow.tables flowAuthzID =
      .ok validFlowAuthz ∧
    validFlowAuthz.status = .valid ∧
    BackedBy flowServices.thumbprint
      (fun regID key => ∃ s ∈ visited (frontendStep flowWFE RA.issuanceRA flowLibraries
        ⟨false, false⟩ flowConfig flowServices false flowDecodeAuthorization flowDecodeChallenge)
        ⟨flowRegistrations, AuthzState.init 10⟩ (flowCalls.map .authz),
        AccountKey s.registrations ⟨false, false⟩ regID key)
      validFlowAuthz validFlowAuthz.challenges := by
  have hget : getAuthorization (final (frontendStep flowWFE RA.issuanceRA flowLibraries
      ⟨false, false⟩ flowConfig flowServices false flowDecodeAuthorization flowDecodeChallenge)
        ⟨flowRegistrations, AuthzState.init 10⟩ (flowCalls.map .authz)).flow.tables flowAuthzID =
      .ok validFlowAuthz := by
    rw [final_map_authz]
    exact flowState_getAuthorization
  exact ⟨hget, rfl, frontend_valid_backed flowRegistrations 10 (flowCalls.map .authz) hget rfl⟩

end Keys

end Boulder.WFE
