/-
# Boulder.RA.Authz -- the authorization lifecycle across the RA and the SA

An authorization is written by four kinds of step. The RA's `UpdateAuthorization` stores the
copy of the authorization it was handed (read earlier by the WFE) through
`SA.UpdatePendingAuthorization`; the validation goroutine it starts later passes its own copy
through `onValidationUpdate` to `SA.FinalizeAuthorization`; a client deactivates through
`SA.DeactivateAuthorization`; an administrator revokes through
`SA.RevokeAuthorizationsByDomain`. Any interleaving of these is a run of `step`.

The RA's copies are not re-read from the store, and the SA checks the status of the copy it is
given, not of the stored row. `updatePending_revives` and `finalize_revives` state, for every
state and every copy, what that means: a deactivated or revoked pending row is brought back to
life by a stale copy, as the run of `stale_copy_revives_authz` shows. Rows already moved to
`authz` are different: there a deactivation or a revocation is final over every run
(`authz_terminal_step`, `authz_terminal_run`).
-/
import Boulder.SA.Authz
import Boulder.Lib.Run

namespace Boulder.RA

open Boulder.Core Boulder.SA Boulder.Lib.Run

/-! ## `onValidationUpdate` -/

/-- Whether every index of a combination names a challenge whose status is valid (the Go
`validated` map answers `false` for any other index). -/
def comboValid (challenges : List Challenge) (combo : List ℤ) : Bool :=
  combo.all fun i => (i.toNat? >>= fun n => challenges[n]?).any (·.status = .valid)

/-- `onValidationUpdate`, up to the call of `FinalizeAuthorization`: the authorization becomes
valid, with a fresh expiry, if some combination of its challenges is fulfilled, and invalid
otherwise. -/
def onValidationUpdate (now authorizationLifetime : Time) (authz : Authorization) :
    Authorization :=
  let authz := if authz.combinations.any (comboValid authz.challenges)
    then { authz with status := .valid } else authz
  if authz.status ≠ .valid then { authz with status := .invalid }
  else { authz with expires := some (now + authorizationLifetime) }

theorem comboValid_iff (challenges : List Challenge) (combo : List ℤ) :
    comboValid challenges combo = true ↔
      ∀ i ∈ combo, 0 ≤ i ∧ ∃ ch, challenges[i.toNat]? = some ch ∧ ch.status = .valid := by
  unfold comboValid
  rw [List.all_eq_true]
  apply forall₂_congr
  intro i _
  cases i with
  | ofNat n => simp [Int.toNat?, Option.any_eq_true]
  | negSucc n => simp [Int.toNat?]

/-- From a pending authorization, `onValidationUpdate` makes one that is valid exactly when a
combination names only challenges that exist and are valid, and invalid otherwise; it sets a
fresh expiry exactly when valid and changes no other field. -/
theorem onValidationUpdate_outcome (now authorizationLifetime : Time) (authz : Authorization)
    (hpending : authz.status = .pending) :
    ((onValidationUpdate now authorizationLifetime authz).status = .valid ↔
        ∃ combo ∈ authz.combinations, ∀ i ∈ combo,
          0 ≤ i ∧ ∃ ch, authz.challenges[i.toNat]? = some ch ∧ ch.status = .valid) ∧
      ((onValidationUpdate now authorizationLifetime authz).status ≠ .valid →
        (onValidationUpdate now authorizationLifetime authz).status = .invalid) ∧
      (onValidationUpdate now authorizationLifetime authz).expires =
        (if (onValidationUpdate now authorizationLifetime authz).status = .valid
          then some (now + authorizationLifetime) else authz.expires) ∧
      onValidationUpdate now authorizationLifetime authz =
        { authz with status := (onValidationUpdate now authorizationLifetime authz).status
                     expires := (onValidationUpdate now authorizationLifetime authz).expires } := by
  by_cases hany : authz.combinations.any (comboValid authz.challenges) = true
  · have hfinal : onValidationUpdate now authorizationLifetime authz =
        { authz with status := .valid, expires := some (now + authorizationLifetime) } := by
      simp [onValidationUpdate, hany]
    rw [hfinal]
    refine ⟨?_, by simp, by simp, rfl⟩
    obtain ⟨combo, hmem, hvalid⟩ := List.any_eq_true.mp hany
    exact iff_of_true rfl ⟨combo, hmem, (comboValid_iff _ _).mp hvalid⟩
  · have hfinal : onValidationUpdate now authorizationLifetime authz =
        { authz with status := .invalid } := by
      simp [onValidationUpdate, hany, hpending]
    rw [hfinal]
    refine ⟨?_, fun _ => rfl, by simp, rfl⟩
    rw [List.any_eq_true, not_exists] at hany
    constructor
    · intro h
      cases h
    · rintro ⟨combo, hmem, hall⟩
      exact absurd ⟨hmem, (comboValid_iff _ _).mpr hall⟩ (hany combo)

/-! ## The lifecycle as a step system -/

/-- The writes an authorization can undergo, each with the data its caller supplies. -/
inductive LifecycleStep where
  /-- `RA.UpdateAuthorization` storing the copy it holds. -/
  | updatePending (copy : Authorization)
  /-- The validation goroutine finishing at `now` with the copy it captured. -/
  | finalize (copy : Authorization) (now : Time)
  /-- `SA.DeactivateAuthorization`. -/
  | deactivate (id : String)
  /-- `SA.RevokeAuthorizationsByDomain` run at `now`. -/
  | revokeByDomain (ident : AcmeIdentifier) (now : Time)

/-- The tables left by a call that either succeeds with new tables or fails and rolls back. -/
def commit (t : AuthzTables) : Except BoulderError AuthzTables → AuthzTables
  | .ok t' => t'
  | .error _ => t

section Lifecycle

variable (authorizationLifetime : Time)

/-- One step of the lifecycle; the reply is the error, if any. -/
def step (t : AuthzTables) : LifecycleStep → AuthzTables × Option BoulderError
  | .updatePending copy =>
    match updatePendingAuthorization t copy with
    | .ok t' => (t', none)
    | .error e => (t, some e)
  | .finalize copy now =>
    match finalizeAuthorization t (onValidationUpdate now authorizationLifetime copy) with
    | .ok t' => (t', none)
    | .error e => (t, some e)
  | .deactivate id => (deactivateAuthorization t id, none)
  | .revokeByDomain ident now =>
    let r := revokeAuthorizationsByDomain t ident now
    (r.1, r.2.2)

end Lifecycle

/-- The stored status of an authorization ID, looked up as `GetAuthorization` does: the
pending table first, then `authz`. -/
def storedStatus (t : AuthzTables) (id : String) : Option AcmeStatus :=
  match t.pendingAuthorizations.find? (·.id = id) with
  | some a => some a.status
  | none => (t.authz.find? (·.id = id)).map (·.status)

/-- Deactivated and revoked: the statuses an authorization should never leave. -/
def Terminal (s : AcmeStatus) : Prop := s = .deactivated ∨ s = .revoked

instance : DecidablePred Terminal := fun s =>
  inferInstanceAs (Decidable (s = .deactivated ∨ s = .revoked))

/-! ## A stale copy overwrites the stored status -/

/-- The pending row `UpdatePendingAuthorization` writes is the copy itself, so afterwards the
stored status is the copy's, whatever it was before: the call looks at the copy's status,
at whether a final row exists and at whether a pending row exists, never at that row's status. -/
theorem updatePending_revives (t : AuthzTables) (copy : Authorization)
    (hpend : statusIsPending copy.status = true) (hfinal : existingFinal t copy.id = false)
    (hex : existingPending t copy.id = true)
    (hcount : (t.challenges.filter (·.authorizationID = copy.id)).length = copy.challenges.length) :
    ∃ t', updatePendingAuthorization t copy = .ok t' ∧ storedStatus t' copy.id = some copy.status := by
  have hrow := find?_replace (toRow_id copy) hex
  refine ⟨{ t with
      pendingAuthorizations := t.pendingAuthorizations.map fun pa =>
        if pa.id = copy.id then toRow copy else pa
      challenges := rewriteChallenges copy.id copy.challenges t.challenges }, ?_, ?_⟩
  · simp only [updatePendingAuthorization, hpend, hfinal, hex, Bool.not_true, Bool.false_eq_true,
      ↓reduceIte]
    exact updateChallenges_ok hcount
  · simp [storedStatus, hrow]

/-- `FinalizeAuthorization` moves the copy it is given into `authz` as long as a pending row
with that ID exists, whatever that row's status: a deactivated or revoked pending row is
replaced by a valid final one when the copy says valid. -/
theorem finalize_revives (t : AuthzTables) (copy : Authorization)
    (hex : existingPending t copy.id = true) (hnp : statusIsPending copy.status = false)
    (hfinal : existingFinal t copy.id = false)
    (hcount : (t.challenges.filter (·.authorizationID = copy.id)).length = copy.challenges.length) :
    ∃ t', finalizeAuthorization t copy = .ok t' ∧ storedStatus t' copy.id = some copy.status ∧
      t'.authz = t.authz ++ [toRow copy] := by
  refine ⟨{ t with
      authz := t.authz ++ [toRow copy]
      pendingAuthorizations := t.pendingAuthorizations.filter (·.id ≠ copy.id)
      challenges := rewriteChallenges copy.id copy.challenges t.challenges }, ?_, ?_, rfl⟩
  · simp only [finalizeAuthorization, hex, hnp, hfinal, Bool.not_true, Bool.false_eq_true,
      ↓reduceIte]
    exact updateChallenges_ok hcount
  · have hnone : t.authz.find? (·.id = copy.id) = none := by
      simpa [existingFinal, List.find?_eq_none] using hfinal
    have hgone : (t.pendingAuthorizations.filter (·.id ≠ copy.id)).find? (·.id = copy.id) = none := by
      simp [List.find?_eq_none]
    simp only [storedStatus, hgone, List.find?_append, hnone]
    simp

/-! ## Final rows stay deactivated or revoked -/

/-- The authorization `id` has left the pending table, and its first final row is deactivated or
revoked. -/
def FinalTerminal (t : AuthzTables) (id : String) : Prop :=
  id ∉ t.pendingAuthorizations.map (·.id) ∧ ∃ a, t.authz.find? (·.id = id) = some a ∧ Terminal a.status

/-- A rewrite of statuses finds the rewritten row where it found the row. -/
theorem find?_map_statusOnly {g : Authorization → Authorization} (hg : StatusOnly g)
    {rows : List Authorization} {id : String} {a : Authorization}
    (h : rows.find? (·.id = id) = some a) : (rows.map g).find? (·.id = id) = some (g a) := by
  have hpred : ((fun b : Authorization => decide (b.id = id)) ∘ g) = fun b => decide (b.id = id) := by
    funext b
    simp [hg.id_eq b]
  rw [List.find?_map, hpred, h]
  rfl

theorem terminal_statusOnly {g : Authorization → Authorization} (hg : StatusOnly g)
    {a : Authorization} (h : Terminal a.status) : Terminal (g a).status := by
  rcases hg a with hga | hga | hga <;> rw [hga]
  · exact h
  · exact .inl rfl
  · exact .inr rfl

section Terminal

variable {t : AuthzTables} {id : String}

theorem FinalTerminal.statusOnly (h : FinalTerminal t id) {g g' : Authorization → Authorization}
    (hg : StatusOnly g) (hg' : StatusOnly g') :
    FinalTerminal
      { t with
        pendingAuthorizations := t.pendingAuthorizations.map g
        authz := t.authz.map g' } id := by
  obtain ⟨hpend, a, hfind, hterm⟩ := h
  refine ⟨by rwa [hg.map_id], g' a, find?_map_statusOnly hg' hfind, terminal_statusOnly hg' hterm⟩

/-- The stored status of a final terminal row is terminal. -/
theorem FinalTerminal.storedStatus (h : FinalTerminal t id) :
    ∃ st, storedStatus t id = some st ∧ Terminal st := by
  obtain ⟨hpend, a, hfind, hterm⟩ := h
  have hnone : t.pendingAuthorizations.find? (·.id = id) = none := by
    rw [List.find?_eq_none]
    intro b hb hid
    exact hpend (List.mem_map.mpr ⟨b, hb, by simpa using hid⟩)
  exact ⟨a.status, by simp [RA.storedStatus, hnone, hfind], hterm⟩

/-- **Each step keeps a final row deactivated or revoked.** A stale copy cannot reach it:
`UpdatePendingAuthorization` and `FinalizeAuthorization` need a pending row of its ID, and a
deactivation or a revocation only moves a status to deactivated or revoked. -/
theorem authz_terminal_step (authorizationLifetime : Time) (s : LifecycleStep)
    (h : FinalTerminal t id) : FinalTerminal (step authorizationLifetime t s).1 id := by
  cases s with
  | updatePending copy =>
    simp only [step]
    split
    · rename_i t' hupd
      obtain ⟨-, -, -, -, rfl⟩ := updatePendingAuthorization_eq_ok hupd
      have hids : (t.pendingAuthorizations.map fun pa =>
          if pa.id = copy.id then toRow copy else pa).map (·.id) = t.pendingAuthorizations.map (·.id) := by
        rw [List.map_map]
        exact List.map_congr_left fun pa _ => by by_cases hp : pa.id = copy.id <;> simp [hp]
      exact ⟨by rw [hids]; exact h.1, h.2⟩
    · exact h
  | finalize copy now =>
    simp only [step]
    split
    · rename_i t' hfin
      obtain ⟨-, -, -, -, rfl⟩ := finalizeAuthorization_eq_ok hfin
      obtain ⟨hpend, a, hfind, hterm⟩ := h
      refine ⟨fun hmem => hpend ?_, a, by rw [List.find?_append, hfind]; rfl, hterm⟩
      exact (List.filter_sublist.map _).subset hmem
    · exact h
  | deactivate id' =>
    obtain ⟨g, g', hg, hg', heq⟩ := deactivateAuthorization_statusOnly t id'
    simp only [step, heq]
    exact h.statusOnly hg hg'
  | revokeByDomain ident now =>
    obtain ⟨g, g', hg, hg', heq⟩ := revokeAuthorizationsByDomain_statusOnly t ident now
    simp only [step, heq]
    exact h.statusOnly hg hg'

/-- **Final rows stay deactivated or revoked** over every run of the lifecycle. -/
theorem authz_terminal_run (authorizationLifetime : Time) (steps : List LifecycleStep)
    (h : FinalTerminal t id) :
    ∃ st, storedStatus (final (step authorizationLifetime) t steps) id = some st ∧ Terminal st :=
  (final_of_step (P := fun t => FinalTerminal t id)
    (fun _ s hs => authz_terminal_step authorizationLifetime s hs) steps h).storedStatus

end Terminal

section Runs

variable {authorizationLifetime : Time} {t t' : AuthzTables} {steps : List LifecycleStep}

theorem final_snoc_updatePending {copy : Authorization}
    (h : updatePendingAuthorization (final (step authorizationLifetime) t steps) copy = .ok t') :
    final (step authorizationLifetime) t (steps ++ [.updatePending copy]) = t' := by
  rw [final_append]
  simp [step, h]

theorem final_snoc_finalize {copy : Authorization} {now : Time}
    (h : finalizeAuthorization (final (step authorizationLifetime) t steps)
      (onValidationUpdate now authorizationLifetime copy) = .ok t') :
    final (step authorizationLifetime) t (steps ++ [.finalize copy now]) = t' := by
  rw [final_append]
  simp [step, h]

end Runs

/-! ## A run where a deactivation and a revocation are undone -/

/-- An `http-01` challenge as `NewAuthorization` creates it. -/
def exampleChallenge : Challenge :=
  { id := 7, type := "http-01", status := .pending, token := "tok", providedKeyAuthorization := "" }

/-- A pending authorization of registration 1 for `example.com`, expiring at instant 1000. -/
def exampleAuthz : Authorization :=
  { id := "a1", identifier := ⟨.dns, "example.com"⟩, registrationID := 1, status := .pending,
    expires := some 1000, challenges := [exampleChallenge], combinations := [[0]] }

/-- The SA's tables holding `exampleAuthz` and its challenge. -/
def exampleTables : AuthzTables :=
  { pendingAuthorizations := [toRow exampleAuthz], authz := []
    challenges := [⟨"a1", exampleChallenge⟩] }

/-- The copy `RA.UpdateAuthorization` stores after the challenge POST. -/
def postedCopy : Authorization :=
  { exampleAuthz with challenges := [{ exampleChallenge with providedKeyAuthorization := "tok.key" }] }

/-- The copy the validation goroutine hands to `onValidationUpdate` when the VA succeeds. -/
def validatedCopy : Authorization :=
  { postedCopy with challenges := [{ exampleChallenge with
      providedKeyAuthorization := "tok.key", status := .valid }] }

/-- With an authorization lifetime of 500: after the challenge POST, a deactivation that lands
before the VA completes is undone by the completion, which stores the authorization as valid,
and `GetValidAuthorizations` then returns it; the same happens to an administrative revocation;
and a deactivation that lands between the WFE's read and the RA's
`UpdatePendingAuthorization` is undone by that update, which makes the row pending again. -/
theorem stale_copy_revives_authz :
    storedStatus (final (step 500) exampleTables
      [.updatePending postedCopy, .deactivate "a1"]) "a1" = some .deactivated ∧
    storedStatus (final (step 500) exampleTables
      [.updatePending postedCopy, .deactivate "a1", .finalize validatedCopy 100]) "a1" =
      some .valid ∧
    (getValidAuthorizations (final (step 500) exampleTables
      [.updatePending postedCopy, .deactivate "a1", .finalize validatedCopy 100])
      1 ["example.com"] 200).map (·.map (·.1)) = .ok ["example.com"] ∧
    storedStatus (final (step 500) exampleTables
      [.updatePending postedCopy, .revokeByDomain ⟨.dns, "example.com"⟩ 50]) "a1" =
      some .revoked ∧
    storedStatus (final (step 500) exampleTables
      [.updatePending postedCopy, .revokeByDomain ⟨.dns, "example.com"⟩ 50,
        .finalize validatedCopy 100]) "a1" = some .valid ∧
    storedStatus (final (step 500) exampleTables [.deactivate "a1"]) "a1" = some .deactivated ∧
    storedStatus (final (step 500) exampleTables
      [.deactivate "a1", .updatePending postedCopy]) "a1" = some .pending := by
  have hvalid : (onValidationUpdate 100 500 validatedCopy).status = .valid := by decide
  have hnp : statusIsPending (onValidationUpdate 100 500 validatedCopy).status = false := by
    rw [hvalid]
    rfl
  -- the completion lands on the deactivated row, and on the revoked one, and makes it valid
  obtain ⟨t₁, hfin₁, hst₁, hauthz₁⟩ := finalize_revives
    (final (step 500) exampleTables [.updatePending postedCopy, .deactivate "a1"])
    (onValidationUpdate 100 500 validatedCopy) (by decide) hnp (by decide) (by decide)
  obtain ⟨t₂, hfin₂, hst₂, -⟩ := finalize_revives
    (final (step 500) exampleTables
      [.updatePending postedCopy, .revokeByDomain ⟨.dns, "example.com"⟩ 50])
    (onValidationUpdate 100 500 validatedCopy) (by decide) hnp (by decide) (by decide)
  -- the RA's pending copy lands on the deactivated row and makes it pending
  obtain ⟨t₃, hupd, hst₃⟩ := updatePending_revives (final (step 500) exampleTables [.deactivate "a1"])
    postedCopy rfl (by decide) (by decide) (by decide)
  have hrun₁ : final (step 500) exampleTables
      [.updatePending postedCopy, .deactivate "a1", .finalize validatedCopy 100] = t₁ :=
    final_snoc_finalize hfin₁
  have hrun₂ : final (step 500) exampleTables
      [.updatePending postedCopy, .revokeByDomain ⟨.dns, "example.com"⟩ 50,
        .finalize validatedCopy 100] = t₂ :=
    final_snoc_finalize hfin₂
  have hrun₃ : final (step 500) exampleTables [.deactivate "a1", .updatePending postedCopy] = t₃ :=
    final_snoc_updatePending hupd
  refine ⟨by decide, ?_, ?_, by decide, ?_, by decide, ?_⟩
  · rw [hrun₁]
    exact hst₁.trans (congrArg some hvalid)
  · rw [hrun₁, getValidAuthorizations, hauthz₁]
    decide
  · rw [hrun₂]
    exact hst₂.trans (congrArg some hvalid)
  · rw [hrun₃]
    exact hst₃

/-- The validated copy of the example run is finalized as valid. -/
theorem validatedCopy_finalized : (onValidationUpdate 100 500 validatedCopy).status = .valid :=
  (onValidationUpdate_outcome 100 500 validatedCopy rfl).1.mpr ⟨[0], by decide, by decide⟩

end Boulder.RA
