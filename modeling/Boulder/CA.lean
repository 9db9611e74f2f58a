/-
# Boulder.CA -- the extensions a certificate request may ask for

`extensionsFromCSR` reads the request's attributes. Only extension-request attributes count;
their extension lists are walked in order, and a map keyed by the OID's string skips every
extension whose OID was met before. The TLS Feature extension must carry exactly the
must-staple value, or the request is malformed; with `enableMustStaple` it becomes the
must-staple extension of the certificate. Every other extension is only counted for the
statistics (`hasBasic`, `hasOther`), which are not modelled, and dropped.

`extensionsFromCSR_spec` says what that amounts to: the outcome is read off the first TLS
Feature extension among the requested ones. It rests on `ObjectIdentifier.string_injective`:
distinct OIDs have distinct strings, so no other extension can mark the TLS Feature OID as
seen.
-/
import Boulder.Core.Objects
import Boulder.Lib.GoStrings
import Boulder.Lib.Loop

namespace Boulder.CA

open Boulder.Core Boulder.Lib.GoStrings Boulder.Lib.Loop

/-! ## Object identifiers and attributes -/

/-- `asn1.ObjectIdentifier`: the arcs of an OID. -/
abbrev ObjectIdentifier := List ℕ

/-- `ObjectIdentifier.String`: the arcs in decimal, joined by dots. -/
def ObjectIdentifier.string (oi : ObjectIdentifier) : String :=
  join (oi.map Nat.repr) "."

/-- Decimal arcs never contain the dot, so the string gives the OID back. -/
theorem ObjectIdentifier.string_injective : Function.Injective ObjectIdentifier.string := by
  intro a b h
  have hpiece : ∀ oi : ObjectIdentifier, ∀ x ∈ oi.map Nat.repr, x ≠ "" ∧ '.' ∉ x.toList := by
    intro oi x hx
    obtain ⟨n, -, rfl⟩ := List.mem_map.mp hx
    exact ⟨Nat.repr_ne_empty, not_mem_repr_of_not_isDigit rfl n⟩
  have hrepr : a.map Nat.repr = b.map Nat.repr := join_inj rfl (hpiece a) (hpiece b) h
  exact List.map_injective_iff.mpr nat_repr_injective hrepr

/-- The value of a requested extension as `asn1` decoded it: a byte string, or anything else
(the type assertion `ext.Value.([]byte)` tells only these apart). -/
inductive AttributeValue where
  | bytes (value : List UInt8)
  | other
  deriving DecidableEq, Repr

/-- `pkix.AttributeTypeAndValue`: here, one requested extension. -/
structure AttributeTypeAndValue where
  type : ObjectIdentifier
  value : AttributeValue
  deriving DecidableEq, Repr

/-- `pkix.AttributeTypeAndValueSET`: one attribute of a request, with its lists of values. -/
structure AttributeTypeAndValueSET where
  type : ObjectIdentifier
  value : List (List AttributeTypeAndValue)
  deriving DecidableEq, Repr

/-- `signer.Extension`: an extension the signer adds, its value in hex. -/
structure Extension where
  id : ObjectIdentifier
  critical : Bool
  value : String
  deriving DecidableEq, Repr

/-- `oidTLSFeature`: the TLS Feature extension of RFC 7633. -/
def oidTLSFeature : ObjectIdentifier := [1, 3, 6, 1, 5, 5, 7, 1, 24]

/-- `oidExtensionRequest`: the request attribute that carries extensions. -/
def oidExtensionRequest : ObjectIdentifier := [1, 2, 840, 113549, 1, 9, 14]

/-- `mustStapleFeatureValue`: the DER encoding of a feature list holding `status_request`. -/
def mustStapleFeatureValue : List UInt8 := [0x30, 0x03, 0x02, 0x01, 0x05]

/-- `mustStapleExtension`: the must-staple extension, not critical. -/
def mustStapleExtension : Extension :=
  ⟨oidTLSFeature, false, hexEncodeToString mustStapleFeatureValue⟩

theorem oidTLSFeature_string : oidTLSFeature.string = "1.3.6.1.5.5.7.1.24" := by
  decide

/-- The part of `CertificateAuthorityImpl` that `extensionsFromCSR` reads. -/
structure CertificateAuthorityImpl where
  enableMustStaple : Bool
  deriving DecidableEq, Repr

/-! ## The extension loops -/

/-- The variables of the loops: the extensions to add, and the keys of the map
`extensionSeen`. -/
structure ExtensionLoop where
  extensions : List Extension
  extensionSeen : List String
  deriving DecidableEq, Repr

/-- One pass of the innermost loop, over one requested extension. -/
def visitExtension (enableMustStaple : Bool) (st : ExtensionLoop) (ext : AttributeTypeAndValue) :
    Except BoulderError ExtensionLoop :=
  if ext.type.string ∈ st.extensionSeen then
    -- Ignore duplicate certificate extensions
    .ok st
  else
    let st := { st with extensionSeen := ext.type.string :: st.extensionSeen }
    if ext.type = oidTLSFeature then
      match ext.value with
      | .bytes value =>
        if value ≠ mustStapleFeatureValue then
          .error (malformedError ("unsupported value for extension with OID " ++ ext.type.string))
        else if enableMustStaple then
          .ok { st with extensions := st.extensions ++ [mustStapleExtension] }
        else .ok st
      | .other => .error (malformedError ("malformed extension with OID " ++ ext.type.string))
    -- the basic extensions and all others only set a flag for the statistics
    else .ok st

/-- One pass of the outer loop, over one attribute of the request. -/
def visitAttribute (enableMustStaple : Bool) (st : ExtensionLoop)
    (attr : AttributeTypeAndValueSET) : Except BoulderError ExtensionLoop :=
  if attr.type ≠ oidExtensionRequest then .ok st
  else attr.value.foldlM (fun st extList => extList.foldlM (visitExtension enableMustStaple) st) st

/-- `CertificateAuthorityImpl.extensionsFromCSR`, on the request's attributes, the only part of
the request it reads. -/
def extensionsFromCSR (ca : CertificateAuthorityImpl) (attributes : List AttributeTypeAndValueSET) :
    Except BoulderError (List Extension) := do
  let st ← attributes.foldlM (visitAttribute ca.enableMustStaple) ⟨[], []⟩
  return st.extensions

/-- The extensions a request asks for, in order: those of its extension-request attributes. -/
def requestedExtensions (attributes : List AttributeTypeAndValueSET) : List AttributeTypeAndValue :=
  (attributes.filter (·.type = oidExtensionRequest)).flatMap (·.value.flatten)

/-- The three loops are one loop over the requested extensions. -/
theorem foldlM_visitAttribute (e : Bool) (attributes : List AttributeTypeAndValueSET)
    (st : ExtensionLoop) :
    attributes.foldlM (visitAttribute e) st =
      (requestedExtensions attributes).foldlM (visitExtension e) st := by
  induction attributes generalizing st with
  | nil => rfl
  | cons attr attributes ih =>
    by_cases htype : attr.type = oidExtensionRequest
    · simp [requestedExtensions, visitAttribute, htype, foldlM_flatten, List.foldlM_append, ih]
    · simp [requestedExtensions, visitAttribute, htype, ih]

/-! ## One pass -/

section Pass

variable {e : Bool} {st : ExtensionLoop} {ext : AttributeTypeAndValue}

/-- An extension whose OID was met before changes nothing. -/
theorem visitExtension_of_seen (hseen : ext.type.string ∈ st.extensionSeen) :
    visitExtension e st ext = .ok st := by
  simp [visitExtension, hseen]

/-- The first extension of an OID other than TLS Feature only marks its OID as seen. -/
theorem visitExtension_of_ne (hseen : ext.type.string ∉ st.extensionSeen)
    (hne : ext.type ≠ oidTLSFeature) :
    visitExtension e st ext = .ok { st with extensionSeen := ext.type.string :: st.extensionSeen } := by
  simp [visitExtension, hseen, hne]

/-- Once the TLS Feature OID is seen, a pass goes on, adds nothing and leaves it seen. -/
theorem visitExtension_of_tls_seen (hseen : oidTLSFeature.string ∈ st.extensionSeen) :
    ∃ st', visitExtension e st ext = .ok st' ∧ st'.extensions = st.extensions ∧
      oidTLSFeature.string ∈ st'.extensionSeen := by
  by_cases hext : ext.type.string ∈ st.extensionSeen
  · exact ⟨st, visitExtension_of_seen hext, rfl, hseen⟩
  · have hne : ext.type ≠ oidTLSFeature := by
      intro htype
      rw [htype] at hext
      exact hext hseen
    exact ⟨_, visitExtension_of_ne hext hne, rfl, List.mem_cons_of_mem _ hseen⟩

/-- While the TLS Feature OID is unseen, a pass over another extension goes on, adds nothing
and leaves it unseen: the OID strings differ. -/
theorem visitExtension_of_tls_unseen (hunseen : oidTLSFeature.string ∉ st.extensionSeen)
    (hne : ext.type ≠ oidTLSFeature) :
    ∃ st', visitExtension e st ext = .ok st' ∧ st'.extensions = st.extensions ∧
      oidTLSFeature.string ∉ st'.extensionSeen := by
  by_cases hext : ext.type.string ∈ st.extensionSeen
  · exact ⟨st, visitExtension_of_seen hext, rfl, hunseen⟩
  · have hkey : oidTLSFeature.string ≠ ext.type.string :=
      fun h => hne (ObjectIdentifier.string_injective h).symm
    refine ⟨_, visitExtension_of_ne hext hne, rfl, ?_⟩
    simp [hkey, hunseen]

end Pass

/-! ## The whole loop -/

section Run

variable {e : Bool}

/-- Once the TLS Feature OID is seen, the rest of the loop runs to its end and adds nothing. -/
theorem foldlM_visitExtension_of_tls_seen (l : List AttributeTypeAndValue) {st : ExtensionLoop}
    (hseen : oidTLSFeature.string ∈ st.extensionSeen) :
    ∃ st', l.foldlM (visitExtension e) st = .ok st' ∧ st'.extensions = st.extensions := by
  let P : ExtensionLoop → Prop := fun t =>
    t.extensions = st.extensions ∧ oidTLSFeature.string ∈ t.extensionSeen
  have hstep : ∀ t ext, ext ∈ l → P t → ∃ t', visitExtension e t ext = .ok t' ∧ P t' := by
    rintro t ext - ⟨hext, htls⟩
    obtain ⟨t', ht', hext', htls'⟩ := @visitExtension_of_tls_seen e t ext htls
    exact ⟨t', ht', hext'.trans hext, htls'⟩
  obtain ⟨st', hrun, hext, -⟩ := foldlM_total hstep (show P st from ⟨rfl, hseen⟩)
  exact ⟨st', hrun, hext⟩

/-- While the TLS Feature OID is unseen, the loop's outcome is read off the first TLS Feature
extension ahead, after the extensions gathered so far. -/
theorem foldlM_visitExtension_of_tls_unseen (l : List AttributeTypeAndValue) {st : ExtensionLoop}
    (hunseen : oidTLSFeature.string ∉ st.extensionSeen) :
    (l.foldlM (visitExtension e) st >>= fun st' => .ok st'.extensions) =
      match l.find? (·.type = oidTLSFeature) with
      | none => .ok st.extensions
      | some ⟨_, .bytes value⟩ =>
        if value = mustStapleFeatureValue then
          .ok (if e then st.extensions ++ [mustStapleExtension] else st.extensions)
        else .error (malformedError "unsupported value for extension with OID 1.3.6.1.5.5.7.1.24")
      | some ⟨_, .other⟩ =>
        .error (malformedError "malformed extension with OID 1.3.6.1.5.5.7.1.24") := by
  induction l generalizing st with
  | nil => rfl
  | cons ext l ih =>
    by_cases htls : ext.type = oidTLSFeature
    · obtain ⟨type, value⟩ := ext
      subst htls
      rw [List.find?_cons_of_pos (by simp)]
      cases value with
      | other =>
        rw [oidTLSFeature_string] at hunseen
        simp [visitExtension, hunseen, oidTLSFeature_string]
      | bytes value =>
        by_cases hvalue : value = mustStapleFeatureValue
        · let st₁ : ExtensionLoop :=
            ⟨if e then st.extensions ++ [mustStapleExtension] else st.extensions,
              oidTLSFeature.string :: st.extensionSeen⟩
          have hvisit : visitExtension e st ⟨oidTLSFeature, .bytes value⟩ = .ok st₁ := by
            cases e <;> simp [st₁, visitExtension, hunseen, hvalue]
          obtain ⟨st', hrun, hext⟩ :=
            @foldlM_visitExtension_of_tls_seen e l st₁ List.mem_cons_self
          rw [List.foldlM_cons, hvisit, ok_bind, hrun, ok_bind, hext]
          simp [st₁, hvalue]
        · rw [oidTLSFeature_string] at hunseen
          simp [visitExtension, hunseen, hvalue, oidTLSFeature_string]
    · obtain ⟨st', hst', hext, hunseen'⟩ := visitExtension_of_tls_unseen (e := e) hunseen htls
      rw [List.find?_cons_of_neg (by simpa using htls), List.foldlM_cons, hst', ok_bind, ih hunseen',
        hext]

end Run

/-! ## What the CA makes of a request -/

/-- **Extension handling.** Only extension-request attributes count, and of each OID only its
first extension: the outcome is read off the first requested TLS Feature extension, which must
carry the must-staple value and then gives the must-staple extension when that is enabled;
every other extension is dropped. -/
theorem extensionsFromCSR_spec (ca : CertificateAuthorityImpl)
    (attributes : List AttributeTypeAndValueSET) :
    extensionsFromCSR ca attributes =
      match (requestedExtensions attributes).find? (·.type = oidTLSFeature) with
      | none => .ok []
      | some ⟨_, .bytes value⟩ =>
        if value = mustStapleFeatureValue then
          .ok (if ca.enableMustStaple then [mustStapleExtension] else [])
        else .error (malformedError "unsupported value for extension with OID 1.3.6.1.5.5.7.1.24")
      | some ⟨_, .other⟩ =>
        .error (malformedError "malformed extension with OID 1.3.6.1.5.5.7.1.24") := by
  have hrun := @foldlM_visitExtension_of_tls_unseen ca.enableMustStaple
    (requestedExtensions attributes) ⟨[], []⟩ List.not_mem_nil
  rw [extensionsFromCSR, foldlM_visitAttribute]
  exact hrun

/-- The second, malformed TLS Feature extension is never looked at. -/
example : extensionsFromCSR ⟨true⟩
    [⟨oidExtensionRequest, [[⟨oidTLSFeature, .bytes mustStapleFeatureValue⟩],
      [⟨oidTLSFeature, .other⟩]]⟩] = .ok [mustStapleExtension] := by
  decide

end Boulder.CA
