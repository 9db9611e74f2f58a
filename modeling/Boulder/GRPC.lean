/-
# Boulder.GRPC -- errors across the gRPC boundary

A server handler's error goes through `wrapError` in the server's interceptor and comes out of
`unwrapError` in the client's. A `berrors.BoulderError` travels as its detail, with its type in
the trailer entry `errortype` as a decimal string; the ten `core` error kinds and
`probs.ProblemDetails` travel as a gRPC code of Boulder's own, from 100 on, the latter with its
JSON form as the description. Every text travels as the *format* of `grpc.Errorf`, and a
BoulderError's detail becomes the format of `berrors.New` on the client as well.

`roundTrip_boulder`, `roundTrip_core` and `roundTrip_problem` say what comes back, for every
error: the text printed once or twice by `fmt.Sprintf` with no arguments. A text without `%`
comes back as it was (`roundTrip_of_no_percent`); one that ends in `%` comes back with `fmt`'s
error marks in it (`percent_detail_garbled`). JSON decoding is the parameter `unmarshal`.
-/
import Boulder.Core.Objects
import Boulder.Lib.GoStrings

namespace Boulder.GRPC

open Boulder.Core Boulder.Lib.GoStrings

/-! ## Errors and codes -/

/-- The ten `core.XXXError` types that `errorToCode` knows; each is a string type whose `Error`
is the string. -/
inductive CoreErrorKind where
  | malformedRequest
  | notSupported
  | unauthorized
  | notFound
  | lengthRequired
  | signatureValidation
  | rateLimited
  | badNonce
  | noSuchRegistration
  | internalServer
  deriving DecidableEq, Repr

/-- The errors the two interceptors tell apart. -/
inductive GoError where
  /-- A `*berrors.BoulderError` of a named type. -/
  | boulder (err : BoulderError)
  /-- A `*berrors.BoulderError` whose type is none of the named ones. -/
  | boulderOfType (type : ℤ) (detail : String)
  /-- A `core.XXXError` of a kind that `errorToCode` knows. -/
  | core (kind : CoreErrorKind) (msg : String)
  /-- A `*probs.ProblemDetails`. -/
  | problem (pd : ProblemDetails)
  /-- An `*rpcError`, as `grpc.Errorf` builds it. -/
  | rpc (code : ℕ) (desc : String)
  /-- Any other error, by its text. -/
  | other (msg : String)
  deriving DecidableEq, Repr

/-- `codes.OK`. -/
def codeOK : ℕ := 0

/-- `codes.Unknown`. -/
def codeUnknown : ℕ := 2

/-- `codes.Code.String`: gRPC's names of its codes, `Code(n)` for the others. -/
def codeString (c : ℕ) : String :=
  ["OK", "Canceled", "Unknown", "InvalidArgument", "DeadlineExceeded", "NotFound",
    "AlreadyExists", "PermissionDenied", "ResourceExhausted", "FailedPrecondition", "Aborted",
    "OutOfRange", "Unimplemented", "Internal", "Unavailable", "DataLoss",
    "Unauthenticated"].getD c ("Code(" ++ toString c ++ ")")

/-- `err.Error()`. -/
def GoError.error : GoError → String
  | .boulder err => err.detail
  | .boulderOfType _ detail => detail
  | .core _ msg => msg
  | .problem pd => pd.type.urn ++ " :: " ++ pd.detail
  | .rpc code desc => "rpc error: code = " ++ codeString code ++ " desc = " ++ desc
  | .other msg => msg

/-- Boulder's codes `MalformedRequestError = iota + 100` to `InternalServerError`. -/
def CoreErrorKind.code : CoreErrorKind → ℕ
  | .malformedRequest => 100
  | .notSupported => 101
  | .unauthorized => 102
  | .notFound => 103
  | .lengthRequired => 104
  | .signatureValidation => 105
  | .rateLimited => 106
  | .badNonce => 107
  | .noSuchRegistration => 108
  | .internalServer => 109

/-- Boulder's code `ProblemDetails`, the last of its `iota` list. -/
def problemDetailsCode : ℕ := 110

/-- `errorToCode`. -/
def errorToCode : GoError → ℕ
  | .core kind _ => kind.code
  | .problem _ => problemDetailsCode
  | _ => codeUnknown

/-- `json.Marshal` of a `probs.ProblemDetails`: the fields `type`, `detail` and `status` in
order, each left out when empty (`omitempty`). It cannot fail on strings and an `int`. -/
def marshalProblemDetails (pd : ProblemDetails) : String :=
  let field (name : String) (value : List Char) : List Char :=
    '"' :: name.toList ++ '"' :: ':' :: value
  let fields : List (List Char) :=
    (if pd.type.urn = "" then [] else [field "type" (jsonString pd.type.urn)]) ++
    (if pd.detail = "" then [] else [field "detail" (jsonString pd.detail)]) ++
    (if pd.httpStatus = 0 then [] else [field "status" (toString pd.httpStatus).toList])
  String.ofList ('\x7b' :: [','].intercalate fields ++ ['\x7d'])

/-! ## The two interceptors -/

/-- The trailer metadata of a call: keys and their values. -/
abbrev Metadata := List (String × List String)

/-- `grpc.Errorf(c, format)`: no error for `codes.OK`, else an `rpcError` whose description is
the format printed with no arguments. -/
def errorf (c : ℕ) (format : String) : Option GoError :=
  if c = codeOK then none else some (.rpc c (sprintfNoArgs format))

/-- `wrapError`: the trailer it sets, if any, and the error it returns. -/
def wrapError : Option GoError → Metadata × Option GoError
  | none => ([], none)
  | some (.boulder berr) =>
    ([("errortype", [toString berr.type.toInt])], errorf codeUnknown berr.detail)
  | some (.boulderOfType type detail) => ([("errortype", [toString type])], errorf codeUnknown detail)
  | some err =>
    -- `errorToCode` gives `ProblemDetails` exactly for a problem document
    let body := match err with
      | .problem pd => marshalProblemDetails pd
      | _ => err.error
    ([], errorf (errorToCode err) body)

/-- `grpc.Code`: an `rpcError`'s code, `codes.Unknown` for any other error. -/
def grpcCode : GoError → ℕ
  | .rpc code _ => code
  | _ => codeUnknown

/-- `grpc.ErrorDesc`: an `rpcError`'s description, the text of any other error. -/
def errorDesc : GoError → String
  | .rpc _ desc => desc
  | err => err.error

/-- `berrors.New(berrors.ErrorType(i), msg)`: the message is the format. -/
def boulderNew (i : ℤ) (msg : String) : GoError :=
  match ErrorType.ofInt i with
  | some type => .boulder ⟨type, sprintfNoArgs msg⟩
  | none => .boulderOfType i (sprintfNoArgs msg)

/-- The `core` error that `unwrapError`'s switch makes of a code, in the switch's order. -/
def coreErrorOfCode : ℕ → Option CoreErrorKind
  | 109 => some .internalServer
  | 101 => some .notSupported
  | 100 => some .malformedRequest
  | 102 => some .unauthorized
  | 103 => some .notFound
  | 105 => some .signatureValidation
  | 108 => some .noSuchRegistration
  | 106 => some .rateLimited
  | 104 => some .lengthRequired
  | 107 => some .badNonce
  | _ => none

/-- `unwrapError`, with JSON decoding of a problem document as the parameter `unmarshal`. -/
def unwrapError (unmarshal : String → Option ProblemDetails) :
    Option GoError → Metadata → Option GoError
  | none, _ => none
  | some err, md =>
    match md.lookup "errortype" with
    | some errTypeStrs =>
      let unwrappedErr := errorDesc err
      match errTypeStrs with
      | [errTypeStr] =>
        match atoi errTypeStr with
        | .error decErr => some (.boulder (internalServerError
            ("failed to decode error type, decoding error " ++ quote decErr ++
              ", wrapped error " ++ quote unwrappedErr)))
        | .ok errType => some (boulderNew errType unwrappedErr)
      -- `len(errTypeStrs) != 1`
      | _ => some (.boulder (internalServerError
          ("multiple errorType metadata, wrapped error " ++ quote unwrappedErr)))
    | none =>
      let code := grpcCode err
      let errBody := errorDesc err
      match coreErrorOfCode code with
      | some kind => some (.core kind errBody)
      | none =>
        if code = problemDetailsCode then
          match unmarshal errBody with
          | some pd => some (.problem pd)
          | none => some err
        else some err

/-- What the client's interceptor returns for an error of the server's handler: `wrapError` on
the server sets the trailer, `unwrapError` on the client reads it. -/
def roundTrip (unmarshal : String → Option ProblemDetails) (err : Option GoError) :
    Option GoError :=
  unwrapError unmarshal (wrapError err).2 (wrapError err).1

/-! ## Codes and types read back -/

theorem errorType_ofInt_toInt (t : ErrorType) : ErrorType.ofInt t.toInt = some t := by
  cases t <;> rfl

theorem errorType_toInt_bounds (t : ErrorType) : 0 ≤ t.toInt ∧ t.toInt < 12 := by
  cases t <;> decide

theorem coreErrorOfCode_code (kind : CoreErrorKind) : coreErrorOfCode kind.code = some kind := by
  cases kind <;> rfl

theorem code_ne_codeOK (kind : CoreErrorKind) : kind.code ≠ codeOK := by
  cases kind <;> decide

/-- Only the detail can put `%` into the JSON form: the URNs, the field names and the status
have none. -/
theorem percent_not_mem_marshal {pd : ProblemDetails} (hdetail : '%' ∉ pd.detail.toList) :
    '%' ∉ (marshalProblemDetails pd).toList := by
  have hurn : '%' ∉ pd.type.urn.toList := by
    cases pd.type <;> decide +kernel
  have hstatus : '%' ∉ (toString pd.httpStatus).toList := by
    cases pd.httpStatus with
    | ofNat n => exact not_mem_repr_of_not_isDigit rfl n
    | negSucc n =>
      show '%' ∉ ("-" ++ Nat.repr (n + 1)).toList
      rw [String.toList_append, List.mem_append, not_or]
      exact ⟨by decide, not_mem_repr_of_not_isDigit rfl (n + 1)⟩
  have hnames : '%' ∉ "type".toList ∧ '%' ∉ "detail".toList ∧ '%' ∉ "status".toList := by
    decide
  intro h
  simp only [marshalProblemDetails, String.toList_ofList, List.mem_cons, List.mem_append] at h
  rcases h with (h | h) | h
  · exact absurd h (by decide)
  · rcases mem_of_mem_intercalate h with h | ⟨field, hfield, hmem⟩
    · exact absurd h (by decide)
    · simp only [List.mem_append] at hfield
      split_ifs at hfield <;> simp_all [percent_mem_jsonString]
  · exact absurd h (by decide)

/-! ## What comes back -/

section RoundTrip

variable (unmarshal : String → Option ProblemDetails)

/-- A BoulderError keeps its type; its detail is printed twice, by `grpc.Errorf` on the server
and by `berrors.New` on the client. -/
theorem roundTrip_boulder (err : BoulderError) :
    roundTrip unmarshal (some (.boulder err)) =
      some (.boulder ⟨err.type, sprintfNoArgs (sprintfNoArgs err.detail)⟩) := by
  obtain ⟨hlo, hhi⟩ := errorType_toInt_bounds err.type
  -- `simp` writes `toString` of an integer as `Int.repr`
  have hatoi : atoi err.type.toInt.repr = .ok err.type.toInt := atoi_toString (by omega) (by omega)
  simp [roundTrip, wrapError, errorf, codeUnknown, codeOK, unwrapError, errorDesc, hatoi,
    boulderNew, errorType_ofInt_toInt]

/-- An error of no type the interceptors know arrives as a gRPC error of code `Unknown`, its text
printed once. -/
theorem roundTrip_other (msg : String) :
    roundTrip unmarshal (some (.other msg)) = some (.rpc codeUnknown (sprintfNoArgs msg)) := rfl

/-- A `core` error keeps its kind; its text is printed once, by `grpc.Errorf`. -/
theorem roundTrip_core (kind : CoreErrorKind) (msg : String) :
    roundTrip unmarshal (some (.core kind msg)) = some (.core kind (sprintfNoArgs msg)) := by
  have hwrap : wrapError (some (.core kind msg)) = ([], errorf kind.code msg) := rfl
  rw [roundTrip, hwrap, errorf, if_neg (code_ne_codeOK kind)]
  simp only [unwrapError, List.lookup_nil, grpcCode, errorDesc, coreErrorOfCode_code]

/-- A problem document is decoded from its JSON form printed once by `grpc.Errorf`; if that
does not decode, the client gets the gRPC error itself. -/
theorem roundTrip_problem (pd : ProblemDetails) :
    roundTrip unmarshal (some (.problem pd)) =
      match unmarshal (sprintfNoArgs (marshalProblemDetails pd)) with
      | some pd' => some (.problem pd')
      | none => some (.rpc problemDetailsCode (sprintfNoArgs (marshalProblemDetails pd))) := by
  rfl

/-- A text without `%` comes back as it was; so does a problem document whose detail has none,
if its JSON form decodes to it. -/
theorem roundTrip_of_no_percent :
    (∀ err : BoulderError, '%' ∉ err.detail.toList →
      roundTrip unmarshal (some (.boulder err)) = some (.boulder err)) ∧
    (∀ kind msg, '%' ∉ msg.toList →
      roundTrip unmarshal (some (.core kind msg)) = some (.core kind msg)) ∧
    (∀ pd, '%' ∉ pd.detail.toList → unmarshal (marshalProblemDetails pd) = some pd →
      roundTrip unmarshal (some (.problem pd)) = some (.problem pd)) := by
  refine ⟨?_, ?_, ?_⟩
  · intro err hdetail
    rw [roundTrip_boulder, sprintfNoArgs_of_not_mem hdetail, sprintfNoArgs_of_not_mem hdetail]
  · intro kind msg hmsg
    rw [roundTrip_core, sprintfNoArgs_of_not_mem hmsg]
  · intro pd hdetail hjson
    rw [roundTrip_problem, sprintfNoArgs_of_not_mem (percent_not_mem_marshal hdetail), hjson]

/-- A problem document of the examples. -/
def exampleProblem : ProblemDetails := ⟨.malformed, "100", 400⟩

/-- JSON decoding that knows the JSON form of `exampleProblem`. -/
def exampleUnmarshal (s : String) : Option ProblemDetails :=
  if s = marshalProblemDetails exampleProblem then some exampleProblem else none

/-- The text `100` comes back as it was, in each of the three forms. -/
theorem roundTrip_of_no_percent_example :
    '%' ∉ "100".toList ∧
      roundTrip exampleUnmarshal (some (.boulder ⟨.malformed, "100"⟩)) =
        some (.boulder ⟨.malformed, "100"⟩) ∧
      roundTrip exampleUnmarshal (some (.core .malformedRequest "100")) =
        some (.core .malformedRequest "100") ∧
      exampleUnmarshal (marshalProblemDetails exampleProblem) = some exampleProblem ∧
      roundTrip exampleUnmarshal (some (.problem exampleProblem)) = some (.problem exampleProblem) := by
  have hnp : '%' ∉ "100".toList := by decide
  have hjson : exampleUnmarshal (marshalProblemDetails exampleProblem) = some exampleProblem :=
    if_pos rfl
  have h := roundTrip_of_no_percent exampleUnmarshal
  exact ⟨hnp, h.1 ⟨.malformed, "100"⟩ hnp, h.2.1 .malformedRequest "100" hnp, hjson,
    h.2.2 exampleProblem hnp hjson⟩

/-- A text that ends in `%`, after text without one, comes back with `fmt`'s marks for a verb
that is missing: printed once, a `core` error's message; printed twice, a BoulderError's
detail. -/
theorem percent_detail_garbled (type : ErrorType) (kind : CoreErrorKind) (s : String)
    (hs : '%' ∉ s.toList) :
    roundTrip unmarshal (some (.boulder ⟨type, s ++ "%"⟩)) =
        some (.boulder ⟨type, s ++ "%!!(MISSING)(NOVERB)"⟩) ∧
      roundTrip unmarshal (some (.core kind (s ++ "%"))) =
        some (.core kind (s ++ "%!(NOVERB)")) := by
  -- the trailing `%` has no verb; printed again, its `!` is taken for a verb with no argument
  have honce : sprintfNoArgs (s ++ "%") = s ++ "%!(NOVERB)" := by
    rw [sprintfNoArgs_append hs]
    rfl
  have htwice : sprintfNoArgs (s ++ "%!(NOVERB)") = s ++ "%!!(MISSING)(NOVERB)" := by
    rw [sprintfNoArgs_append hs]
    rfl
  refine ⟨?_, ?_⟩
  · rw [roundTrip_boulder, honce, htwice]
  · rw [roundTrip_core, honce]

end RoundTrip

theorem percent_detail_garbled_at_100 :
    '%' ∉ "100".toList ∧
      (roundTrip (fun _ => none) (some (.boulder ⟨.malformed, "100" ++ "%"⟩)) =
          some (.boulder ⟨.malformed, "100" ++ "%!!(MISSING)(NOVERB)"⟩) ∧
        roundTrip (fun _ => none) (some (.core .malformedRequest ("100" ++ "%"))) =
          some (.core .malformedRequest ("100" ++ "%!(NOVERB)"))) :=
  ⟨by decide, percent_detail_garbled (fun _ => none) .malformed .malformedRequest "100" (by decide)⟩

end Boulder.GRPC
