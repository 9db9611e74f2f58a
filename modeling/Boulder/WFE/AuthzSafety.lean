/-
# Boulder.WFE.AuthzSafety -- what every run of the authorization endpoints keeps

The invariant `FlowInv` speaks of the stored rows and of the copies that the requests in flight
and the started validations hold. Its center is `Backed`: a valid authorization in `authz` has a
combination of its challenges, not empty, each of which the VA validated (valid, no problem,
records that `RecordsSane` accepts) and which carries the key authorization the owner's account
key gives its token. Around it: pending statuses only in the pending table, IDs distinct over
both tables, challenge keys increasing, every challenge row owned by a stored authorization,
the challenges of an authorization not yet final still open, and no empty combination.

A copy may be stale when it reaches the RA, but only a copy in a pending status gets past the
SA, and such a copy was read from the pending table, so its challenges were open. The one
challenge its validation marks valid is then the only valid one, and a fulfilled combination
names only it: so `Backed` holds of what `onValidationUpdate` finalizes, although the stale copy
overwrites every stored challenge of the authorization.

The invariant is stated for any set `accepted` of keys accepted for each account, and needs of a
run only that the accounts the RA reads hold keys of that set. `flowInv_reachable` gives it in
every reachable state of the flow over fixed accounts `regs`, with their keys (`AccountKey`);
`Boulder.WFE.Frontend` runs the account endpoints alongside, where `accepted` is every key an
account held during the run.
-/
import Boulder.WFE.Authz
import Boulder.Lib.Run

namespace Boulder.WFE

open Boulder.Core Boulder.Jose Boulder.SA Boulder.Policy Boulder.Lib.Run

/-! ## Validated challenges and backed authorizations -/

section Validated

variable (regs : RegTables) (fs : Features)
  (thumbprint : JsonWebKey → Except String (List.Vector UInt8 32))

/-- The challenge carries the key authorization the account's key gives it, as
`UpdateAuthorization` compares it. -/
def KeyAuthorized (c : Challenge) (regID : ℤ) : Prop :=
  ∃ reg, getRegistration regs fs regID = .ok reg ∧
    c.expectedKeyAuthorization thumbprint reg.key = .ok c.providedKeyAuthorization

/-- The key an account has in `regs`. -/
def AccountKey (regID : ℤ) (key : Option JsonWebKey) : Prop :=
  ∃ reg, getRegistration regs fs regID = .ok reg ∧ reg.key = key

variable (accepted : ℤ → Option JsonWebKey → Prop)

/-- The challenge carries the key authorization that one of the keys accepted for the account
gives it. -/
def KeyAuthorizedBy (c : Challenge) (regID : ℤ) : Prop :=
  ∃ key, accepted regID key ∧ c.expectedKeyAuthorization thumbprint key = .ok c.providedKeyAuthorization

/-- A challenge the VA validated for the account. -/
structure Validated (c : Challenge) (regID : ℤ) : Prop where
  valid : c.status = .valid
  noError : c.error = none
  recordsSane : c.recordsSane = true
  keyAuthorized : KeyAuthorizedBy thumbprint accepted c regID

/-- An authorization backed by its challenges: a combination of them, not empty, names only
validated challenges. -/
def BackedBy (a : Authorization) (challenges : List Challenge) : Prop :=
  ∃ combo ∈ a.combinations, combo ≠ [] ∧
    ∀ i ∈ combo, 0 ≤ i ∧ ∃ c, challenges[i.toNat]? = some c ∧
      Validated thumbprint accepted c a.registrationID

/-- Backed, with the key authorizations of the account keys in `regs`. -/
abbrev Backed (a : Authorization) (challenges : List Challenge) : Prop :=
  BackedBy thumbprint (AccountKey regs fs) a challenges

variable {regs fs thumbprint accepted}

/-- The key authorization of the key an account has is the one `UpdateAuthorization` compares. -/
theorem keyAuthorizedBy_accountKey {c : Challenge} {regID : ℤ} :
    KeyAuthorizedBy thumbprint (AccountKey regs fs) c regID ↔
      KeyAuthorized regs fs thumbprint c regID := by
  constructor
  · rintro ⟨key, ⟨reg, hreg, rfl⟩, hkey⟩
    exact ⟨reg, hreg, hkey⟩
  · rintro ⟨reg, hreg, hkey⟩
    exact ⟨reg.key, ⟨reg, hreg, rfl⟩, hkey⟩

/-- Whether a challenge is validated does not depend on its key. -/
theorem validated_withoutKey {c : Challenge} {regID : ℤ} :
    Validated thumbprint accepted (withoutKey c) regID ↔ Validated thumbprint accepted c regID := by
  constructor <;> intro h <;> exact ⟨h.valid, h.noError, h.recordsSane, h.keyAuthorized⟩

/-- Challenges that agree but for their keys back the same authorizations. -/
theorem BackedBy.of_map_withoutKey {a : Authorization} {l l' : List Challenge}
    (hl : l'.map withoutKey = l.map withoutKey) (h : BackedBy thumbprint accepted a l) :
    BackedBy thumbprint accepted a l' := by
  obtain ⟨combo, hcombo, hne, hall⟩ := h
  refine ⟨combo, hcombo, hne, fun i hi => ?_⟩
  obtain ⟨hpos, c, hc, hvalid⟩ := hall i hi
  have hmap : (l'.map withoutKey)[i.toNat]? = some (withoutKey c) := by
    rw [hl, List.getElem?_map, hc, Option.map_some]
  rw [List.getElem?_map] at hmap
  obtain ⟨c', hc', hkey⟩ := Option.map_eq_some_iff.mp hmap
  refine ⟨hpos, c', hc', ?_⟩
  rw [← validated_withoutKey, hkey, validated_withoutKey]
  exact hvalid

end Validated

/-! ## The invariant -/

/-- A challenge not yet decided: not valid, with no problem recorded. -/
structure Open (c : Challenge) : Prop where
  notValid : c.status ≠ .valid
  noError : c.error = none

/-- What a copy read from the tables keeps: no empty combination, and, in a pending status, the
status `pending` and open challenges. -/
structure CopyOK (a : Authorization) : Prop where
  combos : ∀ combo ∈ a.combinations, combo ≠ []
  pending : statusIsPending a.status = true → a.status = .pending ∧ ∀ c ∈ a.challenges, Open c

section Invariant

variable (thumbprint : JsonWebKey → Except String (List.Vector UInt8 32))
  (accepted : ℤ → Option JsonWebKey → Prop)

/-- What a started validation keeps: a pending copy with open challenges, no empty combination,
and an accepted key authorization on the challenge to validate. -/
structure ValidationOK (v : RA.Validation) : Prop where
  pending : v.authz.status = .pending
  combos : ∀ combo ∈ v.authz.combinations, combo ≠ []
  allOpen : ∀ c ∈ v.authz.challenges, Open c
  keyAuthorized : ∃ c, v.authz.challenges[v.challengeIndex]? = some c ∧
    KeyAuthorizedBy thumbprint accepted c v.authz.registrationID

/-- What the tables keep. -/
structure TablesOK (t : AuthzTables) : Prop where
  pendingStatus : ∀ a ∈ t.pendingAuthorizations,
    a.status = .pending ∨ a.status = .deactivated ∨ a.status = .revoked
  finalStatus : ∀ a ∈ t.authz, statusIsPending a.status = false
  ids : ((t.pendingAuthorizations ++ t.authz).map (·.id)).Nodup
  keys : (t.challenges.map (·.chall.id)).Pairwise (· < ·)
  owned : ∀ c ∈ t.challenges,
    existingPending t c.authorizationID = true ∨ existingFinal t c.authorizationID = true
  openRows : ∀ c ∈ t.challenges, existingFinal t c.authorizationID = false → Open c.chall
  combos : ∀ a ∈ t.pendingAuthorizations ++ t.authz, ∀ combo ∈ a.combinations, combo ≠ []
  backed : ∀ a ∈ t.authz, a.status = .valid →
    BackedBy thumbprint accepted a (challengesOf t.challenges a.id)

/-- The invariant of the flow. -/
structure FlowInv (s : AuthzState) : Prop where
  tables : TablesOK thumbprint accepted s.tables
  inFlight : ∀ p ∈ s.inFlight, CopyOK p.authz
  validations : ∀ v ∈ s.validations, ValidationOK thumbprint accepted v

end Invariant

/-! ## Small facts -/

@[simp] theorem open_withID {c : Challenge} {id : ℤ} : Open { c with id := id } ↔ Open c :=
  ⟨fun h => ⟨h.1, h.2⟩, fun h => ⟨h.1, h.2⟩⟩

/-- A new challenge is open. -/
theorem open_of_fresh {c : Challenge} (h : c.isSaneForClientOffer = true)
    (herr : c.error = none) : Open c :=
  ⟨by rw [(Challenge.isSane_eq_true.mp h).1]; decide, herr⟩

/-- A pending row's ID is not a final one. -/
theorem existingFinal_of_pending {t : AuthzTables}
    (hids : ((t.pendingAuthorizations ++ t.authz).map (·.id)).Nodup) {a : Authorization}
    (ha : a ∈ t.pendingAuthorizations) : existingFinal t a.id = false := by
  rw [List.map_append, List.nodup_append] at hids
  rw [Bool.eq_false_iff, ne_eq, existingFinal_eq_true]
  intro hfinal
  exact hids.2.2 _ (List.mem_map_of_mem ha) _ hfinal rfl

/-- A final row's ID is not the ID of a row yet to come that no table holds. -/
theorem id_ne_of_existingFinal {t : AuthzTables} {id : String} (hfresh : existingFinal t id = false)
    {a : Authorization} (ha : a ∈ t.authz) : a.id ≠ id := by
  rintro rfl
  have hmem : existingFinal t a.id = true := existingFinal_eq_true.mpr (List.mem_map_of_mem ha)
  rw [hfresh] at hmem
  cases hmem

/-! ## The tables under each write -/

section Tables

variable {thumbprint : JsonWebKey → Except String (List.Vector UInt8 32)}
  {accepted : ℤ → Option JsonWebKey → Prop} {t t' : AuthzTables}

/-- Deactivating or revoking rows keeps the tables' invariant. -/
theorem TablesOK.statusOnly (h : TablesOK thumbprint accepted t) {g g' : Authorization → Authorization}
    (hg : StatusOnly g) (hg' : StatusOnly g') :
    TablesOK thumbprint accepted
      { t with pendingAuthorizations := t.pendingAuthorizations.map g, authz := t.authz.map g' } := by
  have hpend : ∀ id, existingPending
      { t with pendingAuthorizations := t.pendingAuthorizations.map g, authz := t.authz.map g' } id =
      existingPending t id := fun id => by
    rw [Bool.eq_iff_iff, existingPending_eq_true, existingPending_eq_true]
    simp only [hg.map_id]
  have hfinal : ∀ id, existingFinal
      { t with pendingAuthorizations := t.pendingAuthorizations.map g, authz := t.authz.map g' } id =
      existingFinal t id := fun id => by
    rw [Bool.eq_iff_iff, existingFinal_eq_true, existingFinal_eq_true]
    simp only [hg'.map_id]
  constructor
  case pendingStatus =>
    intro a ha
    obtain ⟨b, hb, rfl⟩ := List.mem_map.mp ha
    rcases hg b with hgb | hgb | hgb <;> rw [hgb]
    · exact h.pendingStatus b hb
    · exact .inr (.inl rfl)
    · exact .inr (.inr rfl)
  case finalStatus =>
    intro a ha
    obtain ⟨b, hb, rfl⟩ := List.mem_map.mp ha
    rcases hg' b with hgb | hgb | hgb <;> rw [hgb]
    · exact h.finalStatus b hb
    · rfl
    · rfl
  case ids => simpa only [List.map_append, hg.map_id, hg'.map_id] using h.ids
  case keys => exact h.keys
  case owned => exact fun c hc => by simpa only [hpend, hfinal] using h.owned c hc
  case openRows => exact fun c hc => by simpa only [hfinal] using h.openRows c hc
  case combos =>
    intro a ha
    rcases List.mem_append.mp ha with ha | ha <;> obtain ⟨b, hb, rfl⟩ := List.mem_map.mp ha
    · rw [hg.eq_withStatus b]
      exact h.combos b (List.mem_append_left _ hb)
    · rw [hg'.eq_withStatus b]
      exact h.combos b (List.mem_append_right _ hb)
  case backed =>
    intro a ha hvalid
    obtain ⟨b, hb, rfl⟩ := List.mem_map.mp ha
    rcases hg' b with hgb | hgb | hgb <;> rw [hgb] at hvalid ⊢
    · exact h.backed b hb hvalid
    · cases hvalid
    · cases hvalid

/-- What `GetAuthorization` reads keeps what a copy needs. -/
theorem TablesOK.copyOK (h : TablesOK thumbprint accepted t) {id : String} {a : Authorization}
    (hget : getAuthorization t id = .ok a) : CopyOK a := by
  obtain ⟨row, hrow, rfl, rfl⟩ := getAuthorization_eq_ok hget
  refine ⟨h.combos row hrow, fun hpend => ?_⟩
  rcases List.mem_append.mp hrow with hrow | hrow
  · rcases h.pendingStatus row hrow with hs | hs | hs
    · refine ⟨hs, fun c hc => ?_⟩
      obtain ⟨cm, hcm, rfl⟩ := List.mem_map.mp hc
      obtain ⟨hcm, hauth⟩ := List.mem_filter.mp hcm
      have hauth : cm.authorizationID = row.id := by simpa using hauth
      exact h.openRows cm hcm (hauth ▸ existingFinal_of_pending h.ids hrow)
    · simp [hs, statusIsPending] at hpend
    · simp [hs, statusIsPending] at hpend
  · simp [h.finalStatus row hrow] at hpend

/-- What `GetAuthorization` reads as valid is backed by the challenges it reads with it: a valid
row is never pending, so it is a final row, which the invariant backs. -/
theorem TablesOK.backed_of_getAuthorization (h : TablesOK thumbprint accepted t) {id : String}
    {a : Authorization} (hget : getAuthorization t id = .ok a) (hvalid : a.status = .valid) :
    BackedBy thumbprint accepted a a.challenges := by
  obtain ⟨row, hrow, rfl, rfl⟩ := getAuthorization_eq_ok hget
  rcases List.mem_append.mp hrow with hrow | hrow
  · rcases h.pendingStatus row hrow with hs | hs | hs <;>
      · change row.status = .valid at hvalid
        rw [hs] at hvalid
        cases hvalid
  · exact h.backed row hrow hvalid

/-- A new pending authorization, pending, with open challenges and no empty combination, keeps
the tables' invariant. -/
theorem TablesOK.newPending (h : TablesOK thumbprint accepted t)
    {draws : List (List.Vector UInt8 32)} {authz out : Authorization}
    (hnew : newPendingAuthorization t draws authz = some (t', out)) (hstatus : authz.status = .pending)
    (hcombos : ∀ combo ∈ authz.combinations, combo ≠ []) (hopen : ∀ c ∈ authz.challenges, Open c) :
    TablesOK thumbprint accepted t' := by
  obtain ⟨id, hid, rfl, -⟩ := newPendingAuthorization_eq_some hnew
  obtain ⟨hnp, hnf, -⟩ := freshAuthzID_eq_some hid
  set rows := challengeRows id (nextChallengeID t.challenges) authz.challenges
  have hpend : ∀ x, existingPending t x = true → existingPending { t with
      pendingAuthorizations := t.pendingAuthorizations ++ [toRow { authz with id := id }],
      challenges := t.challenges ++ rows } x = true := fun x hx => by
    rw [existingPending_eq_true] at hx ⊢
    simp only [List.map_append, List.mem_append]
    exact .inl hx
  constructor
  case pendingStatus =>
    intro a ha
    rcases List.mem_append.mp ha with ha | ha
    · exact h.pendingStatus a ha
    · rw [List.mem_singleton.mp ha]
      exact .inl hstatus
  case finalStatus => exact h.finalStatus
  case ids =>
    have hperm : ((t.pendingAuthorizations ++ [toRow { authz with id := id }]) ++ t.authz).Perm
        (toRow { authz with id := id } :: (t.pendingAuthorizations ++ t.authz)) := by
      rw [List.append_assoc, List.singleton_append]
      exact List.perm_middle
    refine (hperm.map _).nodup_iff.mpr (List.nodup_cons.mpr ⟨?_, h.ids⟩)
    show id ∉ (t.pendingAuthorizations ++ t.authz).map (·.id)
    rw [List.map_append, List.mem_append, not_or]
    exact ⟨fun hp => Bool.eq_false_iff.mp hnp (existingPending_eq_true.mpr hp),
      fun hf => Bool.eq_false_iff.mp hnf (existingFinal_eq_true.mpr hf)⟩
  case keys => exact keys_sorted_append_challengeRows h.keys id authz.challenges
  case owned =>
    intro c hc
    rcases List.mem_append.mp hc with hc | hc
    · rcases h.owned c hc with hp | hf
      · exact .inl (hpend _ hp)
      · exact .inr hf
    · refine .inl (existingPending_eq_true.mpr ?_)
      rw [(mem_challengeRows hc).1]
      simp
  case openRows =>
    intro c hc hnotFinal
    rcases List.mem_append.mp hc with hc | hc
    · exact h.openRows c hc hnotFinal
    · obtain ⟨-, -, ch, hch, hchall⟩ := mem_challengeRows hc
      rw [hchall, open_withID]
      exact hopen ch hch
  case combos =>
    intro a ha
    simp only [List.append_assoc, List.mem_append, List.mem_singleton] at ha
    rcases ha with ha | rfl | ha
    · exact h.combos a (List.mem_append_left _ ha)
    · exact hcombos
    · exact h.combos a (List.mem_append_right _ ha)
  case backed =>
    intro a ha hvalid
    rw [challengesOf_append, challengesOf_challengeRows_of_ne (id_ne_of_existingFinal hnf ha),
      List.append_nil]
    exact h.backed a ha hvalid

/-- Storing a pending copy with open challenges keeps the tables' invariant. -/
theorem TablesOK.updatePending (h : TablesOK thumbprint accepted t) {a : Authorization}
    (hupd : updatePendingAuthorization t a = .ok t') (hstatus : a.status = .pending)
    (hcombos : ∀ combo ∈ a.combinations, combo ≠ []) (hopen : ∀ c ∈ a.challenges, Open c) :
    TablesOK thumbprint accepted t' := by
  obtain ⟨-, hnf, -, -, rfl⟩ := updatePendingAuthorization_eq_ok hupd
  have hids : (t.pendingAuthorizations.map fun pa => if pa.id = a.id then toRow a else pa).map
      (·.id) = t.pendingAuthorizations.map (·.id) := by
    rw [List.map_map]
    refine List.map_congr_left fun pa _ => ?_
    by_cases hpa : pa.id = a.id <;> simp [hpa]
  have hpend : ∀ x, existingPending { t with
      pendingAuthorizations := t.pendingAuthorizations.map fun pa =>
        if pa.id = a.id then toRow a else pa,
      challenges := rewriteChallenges a.id a.challenges t.challenges } x = existingPending t x :=
    fun x => by rw [Bool.eq_iff_iff, existingPending_eq_true, existingPending_eq_true, hids]
  constructor
  case pendingStatus =>
    intro r hr
    obtain ⟨pa, hpa, rfl⟩ := List.mem_map.mp hr
    by_cases hid : pa.id = a.id
    · simp [hid, hstatus]
    · simpa [hid] using h.pendingStatus pa hpa
  case finalStatus => exact h.finalStatus
  case ids => simpa only [List.map_append, hids] using h.ids
  case keys => simpa only [map_key_rewriteChallenges] using h.keys
  case owned =>
    intro c' hc'
    obtain ⟨c, hc, hauth, -⟩ := mem_rewriteChallenges hc'
    rw [hauth, hpend]
    exact h.owned c hc
  case openRows =>
    intro c' hc' hnotFinal
    obtain ⟨c, hc, hauth, hchall | ⟨-, ch, hch, hchall⟩⟩ := mem_rewriteChallenges hc'
    · rw [hchall]
      exact h.openRows c hc (hauth ▸ hnotFinal)
    · rw [hchall, open_withID]
      exact hopen ch hch
  case combos =>
    intro r hr
    rcases List.mem_append.mp hr with hr | hr
    · obtain ⟨pa, hpa, rfl⟩ := List.mem_map.mp hr
      by_cases hid : pa.id = a.id
      · simpa [hid, toRow] using hcombos
      · simpa [hid] using h.combos pa (List.mem_append_left _ hpa)
    · exact h.combos r (List.mem_append_right _ hr)
  case backed =>
    intro r hr hvalid
    rw [challengesOf_rewriteChallenges_of_ne (id_ne_of_existingFinal hnf hr)]
    exact h.backed r hr hvalid

/-- Finalizing a copy, which is backed by its own challenges when valid, keeps the tables'
invariant. -/
theorem TablesOK.finalize (h : TablesOK thumbprint accepted t) {a : Authorization}
    (hfin : finalizeAuthorization t a = .ok t') (hcombos : ∀ combo ∈ a.combinations, combo ≠ [])
    (hbacked : a.status = .valid → BackedBy thumbprint accepted a a.challenges) :
    TablesOK thumbprint accepted t' := by
  obtain ⟨hp, hnp, hnf, hlen, rfl⟩ := finalizeAuthorization_eq_ok hfin
  have hmem : a.id ∈ t.pendingAuthorizations.map (·.id) := existingPending_eq_true.mp hp
  constructor
  case pendingStatus => exact fun r hr => h.pendingStatus r (List.mem_of_mem_filter hr)
  case finalStatus =>
    intro r hr
    rcases List.mem_append.mp hr with hr | hr
    · exact h.finalStatus r hr
    · rw [List.mem_singleton.mp hr]
      exact hnp
  case ids =>
    have hsub : ((t.pendingAuthorizations.filter (·.id ≠ a.id)) ++ t.authz).map (·.id) |>.Sublist
        ((t.pendingAuthorizations ++ t.authz).map (·.id)) :=
      (List.filter_sublist.append (List.Sublist.refl _)).map _
    have hperm : ((t.pendingAuthorizations.filter (·.id ≠ a.id)) ++ (t.authz ++ [toRow a])).Perm
        (toRow a :: ((t.pendingAuthorizations.filter (·.id ≠ a.id)) ++ t.authz)) := by
      rw [← List.append_assoc]
      exact List.perm_append_singleton _ _
    refine (hperm.map _).nodup_iff.mpr (List.nodup_cons.mpr ⟨?_, hsub.nodup h.ids⟩)
    rw [List.map_append, List.mem_append, not_or]
    constructor
    · simp
    · exact fun hf => Bool.eq_false_iff.mp hnf (existingFinal_eq_true.mpr hf)
  case keys => simpa only [map_key_rewriteChallenges] using h.keys
  case owned =>
    intro c' hc'
    obtain ⟨c, hc, hauth, -⟩ := mem_rewriteChallenges hc'
    rw [hauth]
    by_cases hid : c.authorizationID = a.id
    · refine .inr (existingFinal_eq_true.mpr ?_)
      simp [hid]
    · rcases h.owned c hc with hpc | hfc
      · refine .inl (existingPending_eq_true.mpr ?_)
        obtain ⟨r, hr, hrid⟩ := List.mem_map.mp (existingPending_eq_true.mp hpc)
        exact List.mem_map.mpr ⟨r, List.mem_filter.mpr ⟨hr, by simpa [hrid] using hid⟩, hrid⟩
      · refine .inr (existingFinal_eq_true.mpr ?_)
        simp only [List.map_append, List.mem_append]
        exact .inl (existingFinal_eq_true.mp hfc)
  case openRows =>
    intro c' hc' hnotFinal
    obtain ⟨c, hc, hauth, hchall | ⟨hid, -⟩⟩ := mem_rewriteChallenges hc'
    · have hbefore : existingFinal t c.authorizationID = false := by
        rw [Bool.eq_false_iff, ne_eq, existingFinal_eq_true]
        intro hf
        rw [Bool.eq_false_iff, ne_eq, existingFinal_eq_true, hauth] at hnotFinal
        exact hnotFinal (by simp only [List.map_append, List.mem_append]; exact .inl hf)
      rw [hchall]
      exact h.openRows c hc hbefore
    · rw [hauth, hid, Bool.eq_false_iff] at hnotFinal
      exact absurd (existingFinal_eq_true.mpr (by simp)) hnotFinal
  case combos =>
    intro r hr
    simp only [List.mem_append, List.mem_singleton] at hr
    rcases hr with hr | hr | rfl
    · exact h.combos r (List.mem_append_left _ (List.mem_of_mem_filter hr))
    · exact h.combos r (List.mem_append_right _ hr)
    · exact hcombos
  case backed =>
    intro r hr hvalid
    rcases List.mem_append.mp hr with hr | hr
    · rw [challengesOf_rewriteChallenges_of_ne (id_ne_of_existingFinal hnf hr)]
      exact h.backed r hr hvalid
    · rw [List.mem_singleton.mp hr] at hvalid ⊢
      exact (hbacked hvalid).of_map_withoutKey
        (challengesOf_rewriteChallenges (keys_nodup_filter h.keys a.id) hlen)

end Tables

/-! ## The RA's writes -/

section RA

variable {regs : RegTables} {fs : Features} {cfg : RA.AuthzConfig} {sv : RA.AuthzServices}
  {accepted : ℤ → Option JsonWebKey → Prop} {t t' : AuthzTables} {now : Time}

/-- The pending authorization `NewAuthorization` builds has no empty combination: each offered
combination is one challenge. -/
theorem pendingAuthz_combos (identifier : AcmeIdentifier) (regID : ℤ) (draws : ChallengeDraws) :
    ∀ combo ∈ (RA.pendingAuthz cfg sv now identifier regID draws).combinations, combo ≠ [] := by
  intro combo hcombo
  have hperm := (challengesFor_spec sv.enabledChallenges sv.allowTLS02 draws).2.2
  obtain ⟨i, -, rfl⟩ := List.mem_map.mp (hperm.mem_iff.mp hcombo)
  exact List.cons_ne_nil _ _

/-- The challenges `NewAuthorization` offers are open. -/
theorem pendingAuthz_open (identifier : AcmeIdentifier) (regID : ℤ) (draws : ChallengeDraws) :
    ∀ c ∈ (RA.pendingAuthz cfg sv now identifier regID draws).challenges, Open c := by
  intro c hc
  have hoffered := (challengesFor_spec sv.enabledChallenges sv.allowTLS02 draws).2.1 c hc
  exact open_of_fresh hoffered.1 hoffered.2.1

/-- `NewAuthorization` keeps the tables' invariant. -/
theorem TablesOK.newAuthorization
    {thumbprint : JsonWebKey → Except String (List.Vector UInt8 32)}
    (h : TablesOK thumbprint accepted t) {draws : RA.AuthzDraws} {request : Authorization}
    {regID : ℤ} {r : Except BoulderError Authorization}
    (hra : RA.newAuthorization cfg sv t now draws request regID = some (t', r)) :
    TablesOK thumbprint accepted t' := by
  rcases RA.newAuthorization_eq_some cfg sv hra with ⟨rfl, -⟩ | ⟨-, -, out, hnew, -⟩
  · exact h
  · exact h.newPending hnew rfl (pendingAuthz_combos _ _ _) (pendingAuthz_open _ _ _)

/-- `UpdateAuthorization` on a copy read from the tables keeps their invariant, and the
validation it starts is one the invariant allows, when the keys of the accounts the RA reads are
accepted ones. -/
theorem TablesOK.updateAuthorization (h : TablesOK sv.thumbprint accepted t)
    (hkeys : ∀ regID key, AccountKey regs fs regID key → accepted regID key) {base a : Authorization}
    (hcopy : CopyOK base) {i : ℕ} {response : Challenge} {started : Option RA.Validation}
    (hra : RA.updateAuthorization cfg sv regs fs t now base i response = .ok (t', a, started)) :
    TablesOK sv.thumbprint accepted t' ∧
      ∀ v ∈ started.toList, ValidationOK sv.thumbprint accepted v := by
  obtain ⟨-, ch, -, -, hch, ⟨-, -, rfl, -, rfl⟩ | ⟨reg, hreg, hkey, -, rfl, hupd, rfl⟩⟩ :=
    RA.updateAuthorization_eq_ok cfg sv regs fs hra
  · exact ⟨h, by simp⟩
  obtain ⟨hpending, hopen⟩ := hcopy.pending (updatePendingAuthorization_eq_ok hupd).1
  set ch' : Challenge := { ch with providedKeyAuthorization := response.providedKeyAuthorization }
  have hch' : Open ch' := ⟨(hopen ch (List.mem_of_getElem? hch)).1, (hopen ch (List.mem_of_getElem? hch)).2⟩
  have hopen' : ∀ c ∈ base.challenges.set i ch', Open c := fun c hc => by
    rcases List.mem_or_eq_of_mem_set hc with hc | rfl
    · exact hopen c hc
    · exact hch'
  have hlt : i < base.challenges.length := (List.getElem?_eq_some_iff.mp hch).1
  refine ⟨h.updatePending hupd hpending hcopy.combos hopen', ?_⟩
  simp only [Option.toList_some, List.mem_singleton, forall_eq]
  refine ⟨hpending, hcopy.combos, hopen', ch', List.getElem?_set_self hlt, reg.key,
    hkeys _ _ ⟨reg, hreg, rfl⟩, ?_⟩
  rw [Challenge.expectedKeyAuthorization_of_token_eq (show ch'.token = ch.token from rfl) reg.key]
  exact hkey

/-- What the validation goroutine finalizes, when valid, is backed by its own challenges: the
copy was pending with open challenges, so the one it marks valid is the only valid one, and a
fulfilled combination names only it. -/
theorem ValidationOK.backed {thumbprint : JsonWebKey → Except String (List.Vector UInt8 32)}
    {v : RA.Validation} (hv : ValidationOK thumbprint accepted v) (lifetime : Time)
    (records : Option (List ValidationRecord)) (err : Option RA.ValidationError)
    (hvalid : (RA.onValidationUpdate now lifetime (RA.recordValidation v records err)).status = .valid) :
    BackedBy thumbprint accepted (RA.onValidationUpdate now lifetime (RA.recordValidation v records err))
      (RA.onValidationUpdate now lifetime (RA.recordValidation v records err)).challenges := by
  obtain ⟨c, hc, hkey⟩ := hv.keyAuthorized
  have hrec := RA.recordValidation_eq hc records err
  have hnot : (RA.recordValidation v records err).status ≠ .valid := by
    rw [RA.recordValidation_status, hv.pending]
    decide
  obtain ⟨combo, hcombo, hfull⟩ := RA.comboValid_of_onValidationUpdate now lifetime _ hnot hvalid
  rw [RA.comboValid_iff] at hfull
  unfold BackedBy
  simp only [RA.onValidationUpdate_combinations, RA.onValidationUpdate_registrationID,
    RA.onValidationUpdate_challenges]
  rw [hrec] at hcombo hfull ⊢
  refine ⟨combo, hcombo, hv.combos combo hcombo, fun i hi => ?_⟩
  obtain ⟨hpos, ch, hch, hchvalid⟩ := hfull i hi
  have hlt : v.challengeIndex < v.authz.challenges.length := (List.getElem?_eq_some_iff.mp hc).1
  have hidx : i.toNat = v.challengeIndex := by
    by_contra hne
    rw [List.getElem?_set_ne (Ne.symm hne)] at hch
    exact (hv.allOpen ch (List.mem_of_getElem? hch)).notValid hchvalid
  have hchEq : ch = RA.validatedChallenge c records err := by
    have hself := hch
    rw [hidx, List.getElem?_set_self hlt] at hself
    exact (Option.some.inj hself).symm
  subst hchEq
  obtain ⟨hvalidated, hsane⟩ := RA.validatedChallenge_of_valid hchvalid
  obtain ⟨key, hheld, hexpected⟩ := hkey
  refine ⟨hpos, _, hch, hchvalid, ?_, hsane, key, hheld, ?_⟩
  · rw [hvalidated]
    exact (hv.allOpen c (List.mem_of_getElem? hc)).noError
  · rw [Challenge.expectedKeyAuthorization_of_token_eq RA.validatedChallenge_token,
      RA.validatedChallenge_providedKeyAuthorization]
    exact hexpected

/-- The end of a validation keeps the tables' invariant. -/
theorem TablesOK.finishValidation {thumbprint : JsonWebKey → Except String (List.Vector UInt8 32)}
    (h : TablesOK thumbprint accepted t) {v : RA.Validation} (hv : ValidationOK thumbprint accepted v)
    {records : Option (List ValidationRecord)} {err : Option RA.ValidationError}
    (hfin : RA.finishValidation cfg t now v records err = .ok t') :
    TablesOK thumbprint accepted t' := by
  refine h.finalize hfin ?_ (hv.backed cfg.authorizationLifetime records err)
  simpa only [RA.onValidationUpdate_combinations, RA.recordValidation_combinations] using hv.combos

/-- The RA's deactivation keeps the tables' invariant. -/
theorem TablesOK.deactivate {thumbprint : JsonWebKey → Except String (List.Vector UInt8 32)}
    (h : TablesOK thumbprint accepted t) {authz : Authorization}
    (hra : RA.deactivateAuthorization t authz = .ok t') : TablesOK thumbprint accepted t' := by
  obtain ⟨-, rfl⟩ := RA.deactivateAuthorization_eq_ok hra
  obtain ⟨g, g', hg, hg', heq⟩ := deactivateAuthorization_statusOnly t authz.id
  rw [heq]
  exact h.statusOnly hg hg'

end RA

/-! ## What a call does -/

/-- What one call does to the state, its nonces aside: nothing, the RA's `NewAuthorization`, a read
that leaves POSTs in flight with their copies, a POST in flight that fails, goes through
`UpdateAuthorization` or, signed by the copy's account, through `DeactivateAuthorization`, a
validation that ends with or without its write, or a revocation. -/
inductive Move (wfe : WebFrontEndImpl) (lib : Libraries) (fs : Features) (cfg : RA.AuthzConfig)
    (sv : RA.AuthzServices) (regs : RegTables) (s : AuthzState) : AuthzState → Prop
  | quiet (ns : Nonce.NonceService) : Move wfe lib fs cfg sv regs s { s with nonces := ns }
  | newAuthorization {ns : Nonce.NonceService} {t : AuthzTables} {now : Time} {draws : RA.AuthzDraws}
      {request : Authorization} {regID : ℤ} {r : Except BoulderError Authorization} :
      RA.newAuthorization cfg sv s.tables now draws request regID = some (t, r) →
      Move wfe lib fs cfg sv regs s { s with nonces := ns, tables := t }
  | read {ns : Nonce.NonceService} {extra : List InFlight} :
      (∀ p ∈ extra, ∃ id, getAuthorization s.tables id = .ok p.authz) →
      Move wfe lib fs cfg sv regs s { s with nonces := ns, inFlight := s.inFlight ++ extra }
  | drop {ns : Nonce.NonceService} {k : ℕ} {p : InFlight} : s.inFlight[k]? = some p →
      Move wfe lib fs cfg sv regs s { s with nonces := ns, inFlight := s.inFlight.eraseIdx k }
  | respond {ns : Nonce.NonceService} {k i : ℕ} {authz : Authorization} {request : Request}
      {t : AuthzTables} {now : Time} {response : Challenge} {a : Authorization}
      {started : Option RA.Validation} :
      s.inFlight[k]? = some (.challengePost authz i request) →
      RA.updateAuthorization cfg sv regs fs s.tables now authz i response = .ok (t, a, started) →
      Move wfe lib fs cfg sv regs s
        { s with nonces := ns, inFlight := s.inFlight.eraseIdx k, tables := t,
                 validations := s.validations ++ started.toList }
  | deactivate {ns ns' : Nonce.NonceService} {k : ℕ} {authz : Authorization} {request : Request}
      {body : String} {key : JsonWebKey} {reg : Registration} {t : AuthzTables} :
      s.inFlight[k]? = some (.authzPost authz request) →
      verifyPOST wfe lib fs regs s.nonces request true "authz" = (ns', .ok (body, key, reg)) →
      reg.id = authz.registrationID → RA.deactivateAuthorization s.tables authz = .ok t →
      Move wfe lib fs cfg sv regs s
        { s with nonces := ns, inFlight := s.inFlight.eraseIdx k, tables := t }
  | finish {k : ℕ} {v : RA.Validation} {now : Time} {records : Option (List ValidationRecord)}
      {err : Option RA.ValidationError} {t : AuthzTables} :
      s.validations[k]? = some v → RA.finishValidation cfg s.tables now v records err = .ok t →
      Move wfe lib fs cfg sv regs s { s with validations := s.validations.eraseIdx k, tables := t }
  | abandon {k : ℕ} {v : RA.Validation} : s.validations[k]? = some v →
      Move wfe lib fs cfg sv regs s { s with validations := s.validations.eraseIdx k }
  | revoke (ident : AcmeIdentifier) (now : Time) :
      Move wfe lib fs cfg sv regs s
        { s with tables := (revokeAuthorizationsByDomain s.tables ident now).1 }

section Moves

variable {wfe : WebFrontEndImpl} {lib : Libraries} {fs : Features} {cfg : RA.AuthzConfig}
  {sv : RA.AuthzServices} {regs : RegTables} {allowAuthzDeactivation : Bool}
  {decodeAuthorization : String → Option Authorization} {decodeChallenge : String → Option Challenge}

/-- The `k`-th POST in flight going on. -/
theorem move_resume {s : AuthzState} {k : ℕ} {p : InFlight} (hp : s.inFlight[k]? = some p)
    (now : Time) :
    Move wfe lib fs cfg sv regs s (resume wfe lib fs cfg sv regs decodeChallenge
      { s with inFlight := s.inFlight.eraseIdx k } p now).1 := by
  cases p with
  | challengePost authz i request =>
    obtain ⟨ns, t, started, heq, hwrite⟩ := postChallenge_fst wfe lib fs cfg sv regs decodeChallenge
      { s with inFlight := s.inFlight.eraseIdx k } authz i request now
    show Move wfe lib fs cfg sv regs s (postChallenge wfe lib fs cfg sv regs decodeChallenge
      { s with inFlight := s.inFlight.eraseIdx k } authz i request now).1
    rw [heq]
    rcases hwrite with ⟨rfl, rfl⟩ | ⟨response, a, v, hra, rfl⟩
    · rw [List.append_nil]
      exact .drop hp
    · exact .respond hp hra
  | authzPost authz request =>
    obtain ⟨ns, t, heq, hwrite⟩ := deactivateAuthorization_fst wfe lib fs regs
      { s with inFlight := s.inFlight.eraseIdx k } authz request
    show Move wfe lib fs cfg sv regs s (deactivateAuthorization wfe lib fs regs
      { s with inFlight := s.inFlight.eraseIdx k } authz request).1
    rw [heq]
    rcases hwrite with rfl | ⟨ns', body, key, reg, hverify, howner, hra⟩
    · exact .drop hp
    · exact .deactivate hp hverify howner hra

/-- **What a call does.** Every call makes one of the moves. -/
theorem move_authzStep (s : AuthzState) (call : AuthzCall) :
    Move wfe lib fs cfg sv regs s (authzStep wfe lib fs cfg sv regs allowAuthzDeactivation
      decodeAuthorization decodeChallenge s call).1 := by
  cases call with
  | newAuthorization request now draws =>
    obtain ⟨ns, t, heq, hwrite⟩ := newAuthorization_fst wfe lib fs cfg sv regs decodeAuthorization
      { s with nonces := s.nonces.nonce.2 } request now draws
    show Move wfe lib fs cfg sv regs s (newAuthorization wfe lib fs cfg sv regs
      decodeAuthorization { s with nonces := s.nonces.nonce.2 } request now draws).1
    rw [heq]
    rcases hwrite with rfl | ⟨init, regID, r, hra⟩
    · exact .quiet ns
    · exact .newAuthorization hra
  | authorization method request now =>
    obtain ⟨extra, heq, hextra⟩ := authorization_fst allowAuthzDeactivation
      { s with nonces := s.nonces.nonce.2 } method request now
    show Move wfe lib fs cfg sv regs s (authorization allowAuthzDeactivation
      { s with nonces := s.nonces.nonce.2 } method request now).1
    rw [heq]
    exact .read hextra
  | challenge method request now =>
    obtain ⟨extra, heq, hextra⟩ := challenge_fst wfe { s with nonces := s.nonces.nonce.2 } method
      request now
    show Move wfe lib fs cfg sv regs s (challenge wfe
      { s with nonces := s.nonces.nonce.2 } method request now).1
    rw [heq]
    exact .read hextra
  | resume k now =>
    simp only [authzStep]
    split
    · exact .quiet s.nonces
    · exact move_resume ‹_› now
  | validate k records err now =>
    simp only [authzStep]
    split
    · exact .quiet s.nonces
    · split
      · exact .abandon ‹_›
      · exact .finish ‹_› ‹_›
  | revokeByDomain ident now => exact .revoke ident now

end Moves

/-! ## Every run -/

section Run

variable {wfe : WebFrontEndImpl} {lib : Libraries} {fs : Features} {cfg : RA.AuthzConfig}
  {sv : RA.AuthzServices} {regs : RegTables} {allowAuthzDeactivation : Bool}
  {decodeAuthorization : String → Option Authorization} {decodeChallenge : String → Option Challenge}
  {accepted : ℤ → Option JsonWebKey → Prop}

/-- The invariant holds of the initial state: nothing is stored or in flight. -/
theorem flowInv_init (thumbprint : JsonWebKey → Except String (List.Vector UInt8 32))
    (accepted : ℤ → Option JsonWebKey → Prop) (maxUsed : ℕ) :
    FlowInv thumbprint accepted (AuthzState.init maxUsed) :=
  ⟨⟨by simp [AuthzState.init], by simp [AuthzState.init], by simp [AuthzState.init],
    by simp [AuthzState.init], by simp [AuthzState.init], by simp [AuthzState.init],
    by simp [AuthzState.init], by simp [AuthzState.init]⟩, by simp [AuthzState.init],
    by simp [AuthzState.init]⟩

/-- Every move keeps the invariant, while the keys of the accounts it reads are accepted ones. -/
theorem FlowInv.move {s s' : AuthzState} (h : FlowInv sv.thumbprint accepted s)
    (hkeys : ∀ regID key, AccountKey regs fs regID key → accepted regID key)
    (hm : Move wfe lib fs cfg sv regs s s') : FlowInv sv.thumbprint accepted s' := by
  have hrestP : ∀ k, ∀ q ∈ s.inFlight.eraseIdx k, CopyOK q.authz :=
    fun _ q hq => h.inFlight q (List.mem_of_mem_eraseIdx hq)
  have hrestV : ∀ k, ∀ w ∈ s.validations.eraseIdx k, ValidationOK sv.thumbprint accepted w :=
    fun _ w hw => h.validations w (List.mem_of_mem_eraseIdx hw)
  cases hm with
  | quiet ns => exact ⟨h.tables, h.inFlight, h.validations⟩
  | newAuthorization hra => exact ⟨h.tables.newAuthorization hra, h.inFlight, h.validations⟩
  | read hextra =>
    refine ⟨h.tables, fun p hp => ?_, h.validations⟩
    rcases List.mem_append.mp hp with hp | hp
    · exact h.inFlight p hp
    · obtain ⟨id, hget⟩ := hextra p hp
      exact h.tables.copyOK hget
  | drop hp => exact ⟨h.tables, hrestP _, h.validations⟩
  | respond hp hra =>
    obtain ⟨ht, hv⟩ :=
      h.tables.updateAuthorization hkeys (h.inFlight _ (List.mem_of_getElem? hp)) hra
    refine ⟨ht, hrestP _, fun w hw => ?_⟩
    rcases List.mem_append.mp hw with hw | hw
    · exact h.validations w hw
    · exact hv w hw
  | deactivate hp hverify howner hra => exact ⟨h.tables.deactivate hra, hrestP _, h.validations⟩
  | finish hv hfin =>
    exact ⟨h.tables.finishValidation (h.validations _ (List.mem_of_getElem? hv)) hfin,
      h.inFlight, hrestV _⟩
  | abandon hv => exact ⟨h.tables, h.inFlight, hrestV _⟩
  | revoke ident now =>
    obtain ⟨g, g', hg, hg', heq⟩ := revokeAuthorizationsByDomain_statusOnly s.tables ident now
    refine ⟨?_, h.inFlight, h.validations⟩
    rw [heq]
    exact h.tables.statusOnly hg hg'

/-- The invariant holds in every reachable state. -/
theorem flowInv_reachable {s : AuthzState} {maxUsed : ℕ}
    (h : Reachable (authzStep wfe lib fs cfg sv regs allowAuthzDeactivation decodeAuthorization
      decodeChallenge) (AuthzState.init maxUsed) s) :
    FlowInv sv.thumbprint (AccountKey regs fs) s :=
  h.invariant (flowInv_init sv.thumbprint _ maxUsed) fun _ call hs =>
    hs.move (fun _ _ hkey => hkey) (move_authzStep _ call)

end Run

/-! ## Final rows are kept -/

section Kept

/-- `a'` is `a` later on: every field the same but the status, which stayed or became
deactivated or revoked. -/
def StatusLater (a a' : Authorization) : Prop :=
  a' = { a with status := a'.status } ∧
    (a'.status = a.status ∨ a'.status = .deactivated ∨ a'.status = .revoked)

/-- Every final row of `t` is in `t'`, later on, and reads the same challenges. -/
def FinalKept (t t' : AuthzTables) : Prop :=
  ∀ a ∈ t.authz, ∃ a' ∈ t'.authz, StatusLater a a' ∧
    challengesOf t'.challenges a.id = challengesOf t.challenges a.id

theorem StatusLater.refl (a : Authorization) : StatusLater a a := ⟨rfl, .inl rfl⟩

theorem StatusLater.trans {a a' a'' : Authorization} (h : StatusLater a a')
    (h' : StatusLater a' a'') : StatusLater a a'' := by
  refine ⟨?_, ?_⟩
  · calc a'' = { a' with status := a''.status } := h'.1
      _ = { a with status := a''.status } := by rw [h.1]
  · rcases h'.2 with hs | hs | hs
    · rw [hs]
      exact h.2
    · exact .inr (.inl hs)
    · exact .inr (.inr hs)

theorem FinalKept.refl (t : AuthzTables) : FinalKept t t := fun a ha => ⟨a, ha, .refl a, rfl⟩

theorem FinalKept.trans {t t' t'' : AuthzTables} (h : FinalKept t t') (h' : FinalKept t' t'') :
    FinalKept t t'' := by
  intro a ha
  obtain ⟨a', ha', hlater, hch⟩ := h a ha
  obtain ⟨a'', ha'', hlater', hch'⟩ := h' a' ha'
  have hid : a'.id = a.id := by rw [hlater.1]
  refine ⟨a'', ha'', hlater.trans hlater', ?_⟩
  rw [← hid, hch', hid, hch]

variable {t t' : AuthzTables}

/-- A write that leaves `authz` as it is and reads the same challenges for its rows. -/
theorem finalKept_of_authz_eq (hauthz : t'.authz = t.authz)
    (hch : ∀ a ∈ t.authz, challengesOf t'.challenges a.id = challengesOf t.challenges a.id) :
    FinalKept t t' :=
  fun a ha => ⟨a, hauthz ▸ ha, .refl a, hch a ha⟩

theorem finalKept_newPending {draws : List (List.Vector UInt8 32)} {authz out : Authorization}
    (h : newPendingAuthorization t draws authz = some (t', out)) : FinalKept t t' := by
  obtain ⟨id, hid, rfl, -⟩ := newPendingAuthorization_eq_some h
  obtain ⟨-, hnf, -⟩ := freshAuthzID_eq_some hid
  refine finalKept_of_authz_eq rfl fun a ha => ?_
  rw [challengesOf_append, challengesOf_challengeRows_of_ne (id_ne_of_existingFinal hnf ha),
    List.append_nil]

theorem finalKept_updatePending {a : Authorization} (h : updatePendingAuthorization t a = .ok t') :
    FinalKept t t' := by
  obtain ⟨-, hnf, -, -, rfl⟩ := updatePendingAuthorization_eq_ok h
  exact finalKept_of_authz_eq rfl fun r hr =>
    challengesOf_rewriteChallenges_of_ne (id_ne_of_existingFinal hnf hr) _ _

theorem finalKept_finalize {a : Authorization} (h : finalizeAuthorization t a = .ok t') :
    FinalKept t t' := by
  obtain ⟨-, -, hnf, -, rfl⟩ := finalizeAuthorization_eq_ok h
  intro r hr
  exact ⟨r, List.mem_append_left _ hr, .refl r,
    challengesOf_rewriteChallenges_of_ne (id_ne_of_existingFinal hnf hr) _ _⟩

theorem finalKept_statusOnly {g g' : Authorization → Authorization} (hg' : StatusOnly g') :
    FinalKept t
      { t with pendingAuthorizations := t.pendingAuthorizations.map g, authz := t.authz.map g' } := by
  intro a ha
  refine ⟨g' a, List.mem_map_of_mem ha, ⟨hg'.eq_withStatus a, ?_⟩, rfl⟩
  rcases hg' a with h | h | h <;> rw [h]
  · exact .inl rfl
  · exact .inr (.inl rfl)
  · exact .inr (.inr rfl)

end Kept

/-- Every move keeps the final rows. -/
theorem Move.finalKept {wfe : WebFrontEndImpl} {lib : Libraries} {fs : Features}
    {cfg : RA.AuthzConfig} {sv : RA.AuthzServices} {regs : RegTables} {s s' : AuthzState}
    (hm : Move wfe lib fs cfg sv regs s s') : FinalKept s.tables s'.tables := by
  cases hm with
  | quiet ns => exact .refl _
  | newAuthorization hra =>
    rcases RA.newAuthorization_eq_some cfg sv hra with ⟨rfl, -⟩ | ⟨-, -, out, hnew, -⟩
    · exact .refl _
    · exact finalKept_newPending hnew
  | read hextra => exact .refl _
  | drop hp => exact .refl _
  | respond hp hra =>
    obtain ⟨-, ch, -, -, -, ⟨-, -, rfl, -⟩ | ⟨reg, -, -, -, -, hupd, -⟩⟩ :=
      RA.updateAuthorization_eq_ok cfg sv regs fs hra
    · exact .refl _
    · exact finalKept_updatePending hupd
  | deactivate hp hverify howner hra =>
    obtain ⟨-, rfl⟩ := RA.deactivateAuthorization_eq_ok hra
    obtain ⟨g, g', -, hg', heq⟩ := deactivateAuthorization_statusOnly s.tables _
    rw [heq]
    exact finalKept_statusOnly hg'
  | finish hv hfin => exact finalKept_finalize hfin
  | abandon hv => exact .refl _
  | revoke ident now =>
    obtain ⟨g, g', -, hg', heq⟩ := revokeAuthorizationsByDomain_statusOnly s.tables ident now
    rw [heq]
    exact finalKept_statusOnly hg'

/-! ## The accounts that own copies

A copy read from the tables carries the `RegistrationID` of its row, and the WFE lets only that
account deactivate it. The rows keep their accounts: a write puts back a copy of the row under the
same ID, and IDs are unique, so every copy in flight still names the account of the row it will
change. -/

section Owners

/-- Some stored row has the copy's ID and account. -/
def Owned (t : AuthzTables) (c : Authorization) : Prop :=
  ∃ a ∈ t.pendingAuthorizations ++ t.authz, a.id = c.id ∧ a.registrationID = c.registrationID

/-- Every row of `t` is found in `t'` under its ID and account. -/
def OwnersKept (t t' : AuthzTables) : Prop :=
  ∀ a ∈ t.pendingAuthorizations ++ t.authz, Owned t' a

/-- Every copy in flight and every copy a validation works on is owned. -/
structure OwnersAgree (s : AuthzState) : Prop where
  inFlight : ∀ p ∈ s.inFlight, Owned s.tables p.authz
  validations : ∀ v ∈ s.validations, Owned s.tables v.authz

variable {t t' : AuthzTables} {c c' a : Authorization}

theorem Owned.of_eq (h : Owned t c) (hid : c'.id = c.id)
    (hreg : c'.registrationID = c.registrationID) : Owned t c' := by
  obtain ⟨a, ha, hida, hrega⟩ := h
  exact ⟨a, ha, hida.trans hid.symm, hrega.trans hreg.symm⟩

theorem Owned.kept (h : Owned t c) (hk : OwnersKept t t') : Owned t' c := by
  obtain ⟨a, ha, hid, hreg⟩ := h
  exact (hk a ha).of_eq hid.symm hreg.symm

/-- With unique IDs, the row under an owned copy's ID has the copy's account. -/
theorem Owned.registrationID_eq (hids : ((t.pendingAuthorizations ++ t.authz).map (·.id)).Nodup)
    (h : Owned t c) (ha : a ∈ t.pendingAuthorizations ++ t.authz) (hid : a.id = c.id) :
    a.registrationID = c.registrationID := by
  obtain ⟨a₀, ha₀, hid₀, hreg₀⟩ := h
  have heq : a = a₀ := List.inj_on_of_nodup_map hids ha ha₀ (hid.trans hid₀.symm)
  rw [heq, hreg₀]

theorem OwnersKept.refl (t : AuthzTables) : OwnersKept t t := fun a ha => ⟨a, ha, rfl, rfl⟩

theorem ownersKept_of_subset
    (h : ∀ a ∈ t.pendingAuthorizations ++ t.authz, a ∈ t'.pendingAuthorizations ++ t'.authz) :
    OwnersKept t t' := fun a ha => ⟨a, h a ha, rfl, rfl⟩

/-- A write that keeps every row or puts an owned copy in its place keeps the accounts. -/
theorem ownersKept_of_replaced (hids : ((t.pendingAuthorizations ++ t.authz).map (·.id)).Nodup)
    (hown : Owned t c)
    (hkeep : ∀ a ∈ t.pendingAuthorizations ++ t.authz, a ∈ t'.pendingAuthorizations ++ t'.authz ∨
      a.id = c.id ∧ toRow c ∈ t'.pendingAuthorizations ++ t'.authz) :
    OwnersKept t t' := by
  intro a ha
  rcases hkeep a ha with ha' | ⟨hid, hrow⟩
  · exact ⟨a, ha', rfl, rfl⟩
  · exact ⟨toRow c, hrow, hid.symm, (hown.registrationID_eq hids ha hid).symm⟩

theorem ownersKept_statusOnly {g g' : Authorization → Authorization} (hg : StatusOnly g)
    (hg' : StatusOnly g') : OwnersKept t
      { t with pendingAuthorizations := t.pendingAuthorizations.map g, authz := t.authz.map g' } := by
  intro a ha
  rcases List.mem_append.mp ha with ha | ha
  · exact ⟨g a, List.mem_append_left _ (List.mem_map_of_mem ha), hg.id_eq a, hg.registrationID_eq a⟩
  · exact ⟨g' a, List.mem_append_right _ (List.mem_map_of_mem ha), hg'.id_eq a,
      hg'.registrationID_eq a⟩

/-- The frame of a move: the old copies are owned again once the rows keep their accounts. -/
theorem OwnersAgree.step {s s' : AuthzState} (h : OwnersAgree s)
    (hk : OwnersKept s.tables s'.tables)
    (hP : ∀ p ∈ s'.inFlight, p ∈ s.inFlight ∨ Owned s'.tables p.authz)
    (hV : ∀ v ∈ s'.validations, v ∈ s.validations ∨ Owned s'.tables v.authz) : OwnersAgree s' :=
  ⟨fun p hp => (hP p hp).elim (fun hp => (h.inFlight p hp).kept hk) fun h => h,
    fun v hv => (hV v hv).elim (fun hv => (h.validations v hv).kept hk) fun h => h⟩

variable {wfe : WebFrontEndImpl} {lib : Libraries} {fs : Features} {cfg : RA.AuthzConfig}
  {sv : RA.AuthzServices} {regs : RegTables} {allowAuthzDeactivation : Bool}
  {decodeAuthorization : String → Option Authorization} {decodeChallenge : String → Option Challenge}
  {accepted : ℤ → Option JsonWebKey → Prop} {s s' : AuthzState}

/-- Every move keeps the copies owned. -/
theorem OwnersAgree.move (hinv : FlowInv sv.thumbprint accepted s) (h : OwnersAgree s)
    (hm : Move wfe lib fs cfg sv regs s s') : OwnersAgree s' := by
  have hids := hinv.tables.ids
  cases hm with
  | quiet ns => exact h.step (.refl _) (fun p hp => .inl hp) (fun v hv => .inl hv)
  | newAuthorization hra =>
    refine h.step ?_ (fun p hp => .inl hp) (fun v hv => .inl hv)
    rcases RA.newAuthorization_eq_some cfg sv hra with ⟨rfl, -⟩ | ⟨-, -, out, hnew, -⟩
    · exact .refl _
    · exact ownersKept_of_subset fun a ha => (mem_newPendingAuthorization hnew).mpr (.inl ha)
  | read hextra =>
    refine h.step (.refl _) (fun p hp => ?_) (fun v hv => .inl hv)
    rcases List.mem_append.mp hp with hp | hp
    · exact .inl hp
    · obtain ⟨id, hget⟩ := hextra p hp
      obtain ⟨row, hrow, -, heq⟩ := getAuthorization_eq_ok hget
      exact .inr ⟨row, hrow, by rw [heq], by rw [heq]⟩
  | drop hp => exact h.step (.refl _) (fun p hp => .inl (List.mem_of_mem_eraseIdx hp)) (fun v hv => .inl hv)
  | @respond ns k i authz request t now response a started hp hra =>
    have hown : Owned s.tables authz := h.inFlight _ (List.mem_of_getElem? hp)
    obtain ⟨-, ch, -, -, -, ⟨-, -, rfl, -, rfl⟩ | ⟨reg, -, -, -, ha, hupd, rfl⟩⟩ :=
      RA.updateAuthorization_eq_ok cfg sv regs fs hra
    · refine h.step (.refl _) (fun p hp => .inl (List.mem_of_mem_eraseIdx hp)) (fun v hv => ?_)
      simp only [Option.toList_none, List.append_nil] at hv
      exact .inl hv
    · have hown' : Owned s.tables a := hown.of_eq (by rw [ha]) (by rw [ha])
      have hk := ownersKept_of_replaced hids hown' fun a ha =>
        mem_updatePendingAuthorization_of_mem hupd ha
      refine h.step hk (fun p hp => .inl (List.mem_of_mem_eraseIdx hp)) (fun v hv => ?_)
      rcases List.mem_append.mp hv with hv | hv
      · exact .inl hv
      · rw [Option.toList_some, List.mem_singleton] at hv
        subst hv
        exact .inr (hown'.kept hk)
  | deactivate hp hverify howner hra =>
    obtain ⟨-, rfl⟩ := RA.deactivateAuthorization_eq_ok hra
    obtain ⟨g, g', hg, hg', heq⟩ := deactivateAuthorization_statusOnly s.tables _
    refine h.step ?_ (fun p hp => .inl (List.mem_of_mem_eraseIdx hp)) (fun v hv => .inl hv)
    rw [heq]
    exact ownersKept_statusOnly hg hg'
  | finish hv hfin =>
    have hown : Owned _ _ := h.validations _ (List.mem_of_getElem? hv)
    unfold RA.finishValidation at hfin
    have hk := ownersKept_of_replaced hids (hown.of_eq (by simp) (by simp)) fun a ha =>
      mem_finalizeAuthorization_of_mem hfin ha
    exact h.step hk (fun p hp => .inl hp) (fun v hv => .inl (List.mem_of_mem_eraseIdx hv))
  | abandon hv => exact h.step (.refl _) (fun p hp => .inl hp) (fun v hv => .inl (List.mem_of_mem_eraseIdx hv))
  | revoke ident now =>
    obtain ⟨g, g', hg, hg', heq⟩ := revokeAuthorizationsByDomain_statusOnly s.tables ident now
    refine h.step ?_ (fun p hp => .inl hp) (fun v hv => .inl hv)
    rw [heq]
    exact ownersKept_statusOnly hg hg'

theorem ownersAgree_init (maxUsed : ℕ) : OwnersAgree (AuthzState.init maxUsed) :=
  ⟨by simp [AuthzState.init], by simp [AuthzState.init]⟩

/-- In every reachable state the invariant holds and the copies are owned; the second rests on
the first, whose unique IDs make the row of a copy's ID the one it was read from. -/
theorem ownersAgree_reachable {maxUsed : ℕ}
    (h : Reachable (authzStep wfe lib fs cfg sv regs allowAuthzDeactivation decodeAuthorization
      decodeChallenge) (AuthzState.init maxUsed) s) :
    FlowInv sv.thumbprint (AccountKey regs fs) s ∧ OwnersAgree s :=
  @Reachable.invariant _ _ _ _ _ _
    (fun s => FlowInv sv.thumbprint (AccountKey regs fs) s ∧ OwnersAgree s)
    ⟨flowInv_init sv.thumbprint _ maxUsed, ownersAgree_init maxUsed⟩
    (fun _ call hs => ⟨hs.1.move (fun _ _ hkey => hkey) (move_authzStep _ call),
      hs.2.move hs.1 (move_authzStep _ call)⟩) h

/-- A deactivated row after a move was there before it, or the move carried out a POST in flight
on the row's ID, accepted by `verifyPOST` for the account that owns the row. -/
theorem Move.deactivated (hinv : FlowInv sv.thumbprint accepted s) (hown : OwnersAgree s)
    (hm : Move wfe lib fs cfg sv regs s s') {a : Authorization}
    (ha : a ∈ s'.tables.pendingAuthorizations ++ s'.tables.authz)
    (hdeact : a.status = .deactivated) :
    a ∈ s.tables.pendingAuthorizations ++ s.tables.authz ∨
      ∃ (k : ℕ) (authz : Authorization) (request : Request) (ns : Nonce.NonceService) (body : String)
        (key : JsonWebKey) (reg : Registration), s.inFlight[k]? = some (.authzPost authz request) ∧
        verifyPOST wfe lib fs regs s.nonces request true "authz" = (ns, .ok (body, key, reg)) ∧
        authz.id = a.id ∧ reg.id = a.registrationID := by
  cases hm with
  | quiet ns => exact .inl ha
  | newAuthorization hra =>
    rcases RA.newAuthorization_eq_some cfg sv hra with ⟨rfl, -⟩ | ⟨-, -, out, hnew, -⟩
    · exact .inl ha
    rcases (mem_newPendingAuthorization hnew).mp ha with ha | rfl
    · exact .inl ha
    · simp [toRow, RA.pendingAuthz] at hdeact
  | read hextra => exact .inl ha
  | drop hp => exact .inl ha
  | respond hp hra =>
    obtain ⟨-, ch, -, -, -, ⟨-, -, rfl, -, rfl⟩ | ⟨reg, -, -, -, -, hupd, rfl⟩⟩ :=
      RA.updateAuthorization_eq_ok cfg sv regs fs hra
    · exact .inl ha
    rcases mem_updatePendingAuthorization hupd ha with ha | rfl
    · exact .inl ha
    · have hpend := (updatePendingAuthorization_eq_ok hupd).1
      simp only [toRow] at hdeact
      rw [hdeact] at hpend
      exact absurd hpend (by decide)
  | deactivate hp hverify howner hra =>
    obtain ⟨-, rfl⟩ := RA.deactivateAuthorization_eq_ok hra
    rcases mem_deactivateAuthorization ha with ha | ⟨a₀, ha₀, hid, rfl⟩
    · exact .inl ha
    · have hreg := (hown.inFlight _ (List.mem_of_getElem? hp)).registrationID_eq hinv.tables.ids
        ha₀ hid
      exact .inr ⟨_, _, _, _, _, _, _, hp, hverify, hid.symm, howner.trans hreg.symm⟩
  | @finish k v now records err t hv hfin =>
    unfold RA.finishValidation at hfin
    rcases mem_finalizeAuthorization hfin ha with ha | rfl
    · exact .inl ha
    · simp only [toRow] at hdeact
      rcases RA.onValidationUpdate_status now cfg.authorizationLifetime
        (RA.recordValidation v records err) with hst | hst <;>
      · rw [hst] at hdeact
        exact absurd hdeact (by decide)
  | abandon hv => exact .inl ha
  | revoke ident now =>
    obtain ⟨g, g', hg, hg', heq⟩ := revokeAuthorizationsByDomain_statusTo s.tables ident now
    rw [heq] at ha
    rcases hg.mem_map hg' ha with ha | hrev
    · exact .inl ha
    · rw [hrev] at hdeact
      exact absurd hdeact (by decide)

end Owners

end Boulder.WFE
