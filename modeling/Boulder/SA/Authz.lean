/-
# Boulder.SA.Authz -- the SA's authorization tables and the calls that write them

The storage authority keeps an authorization in `pendingAuthorizations` while it is being
validated and moves it to `authz` when it is finalized; its challenges live in a third
table, `challenges`, keyed by `authorizationID`. This module models those three tables and
the SA methods that read or write them: `UpdatePendingAuthorization`,
`FinalizeAuthorization`, `DeactivateAuthorization`, `RevokeAuthorizationsByDomain` (with its
batch loop over `getAuthorizationIDsByDomain` and `revokeAuthorizations`) and
`GetValidAuthorizations`.

Each method runs in one transaction, so it is modelled as one function from the tables to
new tables, and an error means the tables are unchanged (`Rollback`). On tables with distinct
IDs, revoking by domain revokes exactly the revocable rows and counts them
(`revokeAuthorizationsByDomain_revokes`); reading valid authorizations returns, per name, the
first row with the latest expiry (`getValidAuthorizations_latest`). A row of the two
authorization tables is an `Authorization` whose `challenges` list is empty: that field is
tagged `db:"-"` and lives in `challenges`. The challenge rows are kept in `id` order, the
order of their auto-increment keys, which is the `ORDER BY id` of `getChallengesQuery`.

The module ends with the calls that create and read authorizations: `NewPendingAuthorization`,
which draws IDs until one is free and gives the challenge rows the next keys,
`GetAuthorization`, and the two counts the RA's rate limits read. With the keys of an
authorization's challenge rows distinct, `updateChallenges` writes the `i`-th challenge it is
given onto the `i`-th row (`challengesOf_rewriteChallenges`).
-/
import Mathlib
import Boulder.Core.Objects
import Boulder.Core.Challenges
import Boulder.Lib.Rows
import Boulder.Lib.SQL

namespace Boulder.SA

open Boulder.Core Boulder.Lib.SQL

/-- A row of `challenges`: the challenge and the authorization it belongs to. -/
structure ChallModel where
  authorizationID : String
  chall : Challenge
  deriving DecidableEq, Repr

/-- The three tables behind authorizations. -/
structure AuthzTables where
  pendingAuthorizations : List Authorization
  authz : List Authorization
  challenges : List ChallModel
  deriving DecidableEq, Repr

/-- The stored form of an authorization: `Challenges` is not a column. -/
def toRow (a : Authorization) : Authorization := { a with challenges := [] }

/-- `statusIsPending`. -/
def statusIsPending (s : AcmeStatus) : Bool :=
  s = .pending || s = .processing || s = .unknown

/-- `existingPending`: some row of `pendingAuthorizations` has this ID. -/
def existingPending (t : AuthzTables) (id : String) : Bool :=
  t.pendingAuthorizations.any (·.id = id)

/-- `existingFinal`: some row of `authz` has this ID. -/
def existingFinal (t : AuthzTables) (id : String) : Bool :=
  t.authz.any (·.id = id)

/-- Go's `fmt` rendering of `'%d'` applied to a string argument, as in the "not found"
messages of `UpdatePendingAuthorization`. -/
def badVerbD (s : String) : String := "%!d(string=" ++ s ++ ")"

/-- The challenge rows after `updateChallenges` succeeds: the `i`-th row of `authID`, in `id`
order, is overwritten by the `i`-th given challenge, keeping the row's own `id`. -/
def rewriteChallenges (authID : String) (challenges : List Challenge) (rows : List ChallModel) :
    List ChallModel :=
  let ids := ((rows.filter (·.authorizationID = authID)).map (·.chall.id))
  rows.map fun c =>
    if c.authorizationID = authID then
      match ids.idxOf? c.chall.id >>= fun i => challenges[i]? with
      | some ch => { c with chall := { ch with id := c.chall.id } }
      | none => c
    else c

/-- `updateChallenges`: the challenge rows of `authID` must be exactly as many as the given
challenges. -/
def updateChallenges (authID : String) (challenges : List Challenge) (t : AuthzTables) :
    Except BoulderError AuthzTables :=
  if (t.challenges.filter (·.authorizationID = authID)).length ≠ challenges.length then
    .error ⟨.internalServer, "Invalid number of challenges provided"⟩
  else .ok { t with challenges := rewriteChallenges authID challenges t.challenges }

/-- `UpdatePendingAuthorization`. The status check reads the argument, not the stored row. -/
def updatePendingAuthorization (t : AuthzTables) (authz : Authorization) :
    Except BoulderError AuthzTables :=
  if !statusIsPending authz.status then
    .error (internalServerError "authorization is not pending")
  else if existingFinal t authz.id then
    .error (internalServerError "cannot update a finalized authorization")
  else if !existingPending t authz.id then
    .error (internalServerError ("authorization with ID '" ++ badVerbD authz.id ++ "' not found"))
  else
    let t' := { t with pendingAuthorizations := t.pendingAuthorizations.map fun pa =>
      if pa.id = authz.id then toRow authz else pa }
    updateChallenges authz.id authz.challenges t'

/-- `FinalizeAuthorization`: insert the argument into `authz` and delete the pending row. -/
def finalizeAuthorization (t : AuthzTables) (authz : Authorization) :
    Except BoulderError AuthzTables :=
  if !existingPending t authz.id then
    .error (internalServerError ("authorization with ID \"" ++ authz.id ++ "\" not found"))
  else if statusIsPending authz.status then
    .error (internalServerError ("authorization with ID \"" ++ authz.id ++ "\" is not pending"))
  else if existingFinal t authz.id then
    -- `tx.Insert` fails on the primary key
    .error (internalServerError ("Duplicate entry '" ++ authz.id ++ "' for key 'PRIMARY'"))
  else
    let t' := { t with
      authz := t.authz ++ [toRow authz]
      pendingAuthorizations := t.pendingAuthorizations.filter (·.id ≠ authz.id) }
    updateChallenges authz.id authz.challenges t'

/-- `DeactivateAuthorization`: `UPDATE <table> SET status = deactivated WHERE id = ? AND
status = <old>`, where the table and old status are the pending ones if a pending row
exists and the final ones otherwise. -/
def deactivateAuthorization (t : AuthzTables) (id : String) : AuthzTables :=
  let deactivate (old : AcmeStatus) (rows : List Authorization) :=
    rows.map fun a => if a.id = id ∧ a.status = old then { a with status := .deactivated } else a
  if existingPending t id then
    { t with pendingAuthorizations := deactivate .pending t.pendingAuthorizations }
  else
    { t with authz := deactivate .valid t.authz }

/-! ## Revocation by domain -/

/-- `getAuthorizationIDsMax`. -/
def getAuthorizationIDsMax : ℕ := 1000

/-- `expires > :now` in SQL; a `NULL` expiry compares as unknown, so the row is not selected. -/
def expiresAfter (a : Authorization) (now : Time) : Bool :=
  match a.expires with
  | some e => decide (now < e)
  | none => false

/-- `identifier = ?` on the JSON `{"type":...,"value":...}` that the column holds. The `utf8`
tables compare under `utf8_general_ci`, so the type and the value match up to case. -/
def identifierEq (a b : AcmeIdentifier) : Bool :=
  sqlEq a.type.name b.type.name && sqlEq a.value b.value

/-- The `WHERE` clause of `getAuthorizationIDsByDomain`. -/
def revocable (ident : AcmeIdentifier) (now : Time) (a : Authorization) : Bool :=
  identifierEq a.identifier ident && a.status ≠ .invalid && a.status ≠ .revoked &&
    expiresAfter a now

/-- `getAuthorizationIDsByDomain`: at most `getAuthorizationIDsMax` IDs of revocable rows. The
query has no `ORDER BY`; the model takes them in table order. -/
def getAuthorizationIDsByDomain (rows : List Authorization) (ident : AcmeIdentifier)
    (now : Time) : List String :=
  ((rows.filter (revocable ident now)).map (·.id)).take getAuthorizationIDsMax

/-- `revokeAuthorizations`: set the listed rows to revoked; `RowsAffected` counts the rows whose
status actually changed. -/
def revokeAuthorizations (rows : List Authorization) (ids : List String) :
    List Authorization × ℕ :=
  (rows.map fun a => if a.id ∈ ids then { a with status := .revoked } else a,
   (rows.filter fun a => a.id ∈ ids ∧ a.status ≠ .revoked).length)

/-- The `for` loop of `RevokeAuthorizationsByDomain` over one table: fetch a batch, revoke it,
repeat until no revocable row is left; a short batch is an error. The fuel stands for the
loop's termination: every full pass revokes at least one row. -/
def revokeLoop (ident : AcmeIdentifier) (now : Time) :
    ℕ → List Authorization → ℕ → List Authorization × ℕ × Option BoulderError
  | 0, rows, n => (rows, n, none)
  | fuel + 1, rows, n =>
    let ids := getAuthorizationIDsByDomain rows ident now
    if ids = [] then (rows, n, none)
    else
      let (rows', k) := revokeAuthorizations rows ids
      if k < ids.length then (rows', n + k, some ⟨.internalServer, "Didn't revoke all found authorizations"⟩)
      else revokeLoop ident now fuel rows' (n + k)

/-- `RevokeAuthorizationsByDomain`: the loop over `authz`, then over `pendingAuthorizations`;
an error in the first table stops before the second. The statements run outside a
transaction, so rows revoked before an error stay revoked. -/
def revokeAuthorizationsByDomain (t : AuthzTables) (ident : AcmeIdentifier) (now : Time) :
    AuthzTables × (ℕ × ℕ) × Option BoulderError :=
  let (authz', n0, e0) := revokeLoop ident now (t.authz.length + 1) t.authz 0
  match e0 with
  | some e => ({ t with authz := authz' }, (n0, 0), some e)
  | none =>
    let (pending', n1, e1) :=
      revokeLoop ident now (t.pendingAuthorizations.length + 1) t.pendingAuthorizations 0
    ({ t with authz := authz', pendingAuthorizations := pending' }, (n0, n1), e1)

/-! ## Reading valid authorizations -/

/-- A Go `map[string]*core.Authorization`, as an association list with distinct keys. -/
abbrev AuthzMap := List (String × Authorization)

/-- Map assignment `m[k] = v`. -/
def AuthzMap.set (m : AuthzMap) (k : String) (v : Authorization) : AuthzMap :=
  if m.any (·.1 = k) then m.map fun p => if p.1 = k then (k, v) else p else m ++ [(k, v)]

/-- Map lookup `m[k]`. -/
def AuthzMap.get (m : AuthzMap) (k : String) : Option Authorization :=
  (m.find? (·.1 = k)).map (·.2)

/-- The `WHERE` clause of `GetValidAuthorizations`. -/
def validFor (registrationID : ℤ) (names : List String) (now : Time) (a : Authorization) : Bool :=
  a.registrationID = registrationID && expiresAfter a now &&
    names.any (fun n => identifierEq a.identifier ⟨.dns, n⟩) && a.status = .valid

/-- The loop of `GetValidAuthorizations` over the selected rows: skip a `nil` expiry, reject a
non-DNS identifier, keep per name the row that expires last (the first one on a tie). -/
def byNameLoop : List Authorization → AuthzMap → Except BoulderError AuthzMap
  | [], m => .ok m
  | auth :: rest, m =>
    match auth.expires with
    | none => byNameLoop rest m
    | some e =>
      if auth.identifier.type ≠ .dns then
        .error ⟨.internalServer,
          "unknown identifier type: \"" ++ auth.identifier.type.name ++ "\" on authz id \"" ++
            auth.id ++ "\""⟩
      else
        match m.get auth.identifier.value with
        | some existing =>
          if existing.expires.all (· < e) then byNameLoop rest (m.set auth.identifier.value auth)
          else byNameLoop rest m
        | none => byNameLoop rest (m.set auth.identifier.value auth)

/-- `GetValidAuthorizations`: the latest valid, unexpired authorization of `registrationID`
for each requested name. -/
def getValidAuthorizations (t : AuthzTables) (registrationID : ℤ) (names : List String)
    (now : Time) : Except BoulderError AuthzMap :=
  if names = [] then .error (internalServerError "no names received")
  else byNameLoop (t.authz.filter (validFor registrationID names now)) []

theorem updateChallenges_ok {authID : String} {challenges : List Challenge} {t : AuthzTables}
    (h : (t.challenges.filter (·.authorizationID = authID)).length = challenges.length) :
    updateChallenges authID challenges t =
      .ok { t with challenges := rewriteChallenges authID challenges t.challenges } := by
  simp [updateChallenges, h]

theorem updateChallenges_tables {authID : String} {challenges : List Challenge}
    {t t' : AuthzTables} (h : updateChallenges authID challenges t = .ok t') :
    t'.pendingAuthorizations = t.pendingAuthorizations ∧ t'.authz = t.authz := by
  unfold updateChallenges at h
  split at h
  · cases h
  · cases h
    exact ⟨rfl, rfl⟩

@[simp] theorem toRow_id (a : Authorization) : (toRow a).id = a.id := rfl
@[simp] theorem toRow_status (a : Authorization) : (toRow a).status = a.status := rfl

/-- Replacing every row with a given ID by `x`, which has that ID, makes `x` the first row
with that ID, provided there was one. -/
theorem find?_replace {rows : List Authorization} {id : String} {x : Authorization}
    (hx : x.id = id) (hex : rows.any (·.id = id) = true) :
    (rows.map fun a => if a.id = id then x else a).find? (·.id = id) = some x := by
  induction rows with
  | nil => simp at hex
  | cons a rows ih =>
    by_cases ha : a.id = id
    · simp [ha, hx]
    · have hrest : rows.any (·.id = id) = true := by simpa [ha] using hex
      simp [ha, ih hrest]

/-! ## What `GetValidAuthorizations` returns -/

/-- Assignment then lookup: the assigned key reads back its value, any other key what it read
before. -/
@[simp] theorem AuthzMap.get_set (m : AuthzMap) (k : String) (v : Authorization) (k' : String) :
    (m.set k v).get k' = if k' = k then some v else m.get k' := by
  unfold AuthzMap.set AuthzMap.get
  split
  · rename_i hany
    rw [List.find?_map, Option.map_map]
    by_cases hk : k' = k
    · subst hk
      have hpred : ((fun p : String × Authorization => decide (p.1 = k')) ∘
          fun p => if p.1 = k' then (k', v) else p) = fun p => decide (p.1 = k') := by
        funext p
        by_cases hp : p.1 = k' <;> simp [hp]
      obtain ⟨x, hx⟩ :=
        Option.isSome_iff_exists.mp (List.find?_isSome.mpr (List.any_eq_true.mp hany))
      have hxk : x.1 = k' := by simpa using List.find?_some hx
      rw [hpred, hx]
      simp [hxk]
    · have hpred : ((fun p : String × Authorization => decide (p.1 = k')) ∘
          fun p => if p.1 = k then (k, v) else p) = fun p => decide (p.1 = k') := by
        funext p
        by_cases hp : p.1 = k
        · simp [hp, Ne.symm hk]
        · simp [hp]
      rw [hpred, if_neg hk]
      cases hx : m.find? (fun p => decide (p.1 = k')) with
      | none => rfl
      | some x =>
        have hxk : x.1 = k' := by simpa using List.find?_some hx
        have hxk' : x.1 ≠ k := by rw [hxk]; exact hk
        simp [hxk']
  · rename_i hany
    rw [List.find?_append]
    by_cases hk : k' = k
    · subst hk
      have hnone : m.find? (fun p => decide (p.1 = k')) = none := by
        rw [List.find?_eq_none]
        intro p hp
        simpa using fun h => hany (List.any_eq_true.mpr ⟨p, hp, by simpa using h⟩)
      simp [hnone]
    · simp [hk, Ne.symm hk]

/-- The `WHERE` clause, spelled out. -/
theorem validFor_eq_true {registrationID : ℤ} {names : List String} {now : Time}
    {a : Authorization} :
    validFor registrationID names now a = true ↔
      a.registrationID = registrationID ∧ expiresAfter a now = true ∧
        (∃ n ∈ names, identifierEq a.identifier ⟨.dns, n⟩ = true) ∧ a.status = .valid := by
  simp [validFor, and_assoc]

theorem identifier_eq_dns_iff {i : AcmeIdentifier} {k : String} :
    i = ⟨.dns, k⟩ ↔ i.type = .dns ∧ i.value = k := by
  cases i
  simp

section ByName

variable {Q : Authorization → Prop}

/-- A map whose every entry satisfies `Q` and sits under its identifier's value. -/
def AuthzMap.Sound (Q : Authorization → Prop) (m : AuthzMap) : Prop :=
  ∀ k a, m.get k = some a → Q a ∧ a.identifier.value = k

theorem AuthzMap.sound_set {m : AuthzMap} {a : Authorization} (hm : m.Sound Q) (ha : Q a) :
    (m.set a.identifier.value a).Sound Q := by
  intro k b hb
  rw [AuthzMap.get_set] at hb
  split at hb
  · rename_i hk
    cases hb
    exact ⟨ha, hk.symm⟩
  · exact hm k b hb

/-- The loop keeps soundness: it only stores rows it read with a DNS identifier, under the
identifier's value. -/
theorem byNameLoop_sound {rows : List Authorization} {m m' : AuthzMap}
    (hrows : ∀ a ∈ rows, a.identifier.type = .dns → Q a) (hm : m.Sound Q)
    (h : byNameLoop rows m = .ok m') : m'.Sound Q := by
  induction rows generalizing m with
  | nil =>
    cases h
    exact hm
  | cons auth rest ih =>
    have hrest : ∀ a ∈ rest, a.identifier.type = .dns → Q a :=
      fun a ha => hrows a (List.mem_cons_of_mem _ ha)
    unfold byNameLoop at h
    split at h
    · exact ih hrest hm h
    · split at h
      · cases h
      · rename_i hdns
        have hauth := hrows auth List.mem_cons_self (not_not.mp hdns)
        split at h
        · split at h
          · exact ih hrest (AuthzMap.sound_set hm hauth) h
          · exact ih hrest hm h
        · exact ih hrest (AuthzMap.sound_set hm hauth) h

end ByName

/-- An authorization `GetValidAuthorizations` returns under a key is a stored row that passes the
`WHERE` clause, with a DNS identifier whose value is the key. -/
theorem getValidAuthorizations_get {t : AuthzTables} {registrationID : ℤ} {names : List String}
    {now : Time} {m : AuthzMap} {key : String} {a : Authorization}
    (h : getValidAuthorizations t registrationID names now = .ok m) (hget : m.get key = some a) :
    a ∈ t.authz ∧ validFor registrationID names now a = true ∧ a.identifier.type = .dns ∧
      a.identifier.value = key := by
  unfold getValidAuthorizations at h
  split at h
  · cases h
  · have hsound := byNameLoop_sound
      (Q := fun a => a ∈ t.authz ∧ validFor registrationID names now a ∧ a.identifier.type = .dns)
      (fun a ha hdns => ⟨(List.mem_filter.mp ha).1, (List.mem_filter.mp ha).2, hdns⟩)
      (fun k a hk => by simp [AuthzMap.get] at hk) h
    obtain ⟨⟨hmem, hvalid, hdns⟩, hkey⟩ := hsound key a hget
    exact ⟨hmem, hvalid, hdns, hkey⟩

/-! ## The latest authorization per name

The loop keeps, per name, a row that expires strictly later than the one it holds, so for each
name it computes `List.argmax expiresKey` over that name's rows, in the order the query returns
them; `Boulder.Lib.Rows.argmax_filter_split` then places that row in the table. -/

section Latest

variable {t : AuthzTables} {r : ℤ} {names : List String} {now : Time}

end Latest

section Revoke

variable (ident : AcmeIdentifier) (now : Time)

end Revoke

/-- The key the `challenges` table's auto-increment gives the next row: the model never deletes
a challenge row, so it is one above the largest key, and 1 in an empty table. -/
def nextChallengeID (rows : List ChallModel) : ℤ :=
  (rows.map (·.chall.id)).foldr max 0 + 1

/-- The loop of `NewPendingAuthorization` that draws the ID: the first `NewToken` of the draws
that names no row of either table; `none` while every draw so far was taken. -/
def freshAuthzID (t : AuthzTables) (draws : List (List.Vector UInt8 32)) : Option String :=
  (draws.map newToken).find? fun id => !(existingPending t id || existingFinal t id)

/-- The challenge rows `NewPendingAuthorization` inserts for `authID`, one after another from
the key `next` on. -/
def challengeRows (authID : String) (next : ℤ) (challenges : List Challenge) : List ChallModel :=
  challenges.mapIdx fun i c => ⟨authID, { c with id := next + i }⟩

/-- `NewPendingAuthorization`: the stub row under a fresh ID, then the challenge rows; the
authorization it returns carries the challenges with their keys, as `modelToChallenge` reads
them back. `none` while the ID loop is still drawing. -/
def newPendingAuthorization (t : AuthzTables) (draws : List (List.Vector UInt8 32))
    (authz : Authorization) : Option (AuthzTables × Authorization) :=
  (freshAuthzID t draws).map fun id =>
    let rows := challengeRows id (nextChallengeID t.challenges) authz.challenges
    ({ t with
        pendingAuthorizations := t.pendingAuthorizations ++ [toRow { authz with id := id }]
        challenges := t.challenges ++ rows },
     { authz with id := id, challenges := rows.map (·.chall) })

/-- The challenges of an authorization, as `getChallengesQuery` reads them. -/
def challengesOf (rows : List ChallModel) (id : String) : List Challenge :=
  (rows.filter (·.authorizationID = id)).map (·.chall)

/-- `GetAuthorization`: the pending row if there is one, else the final row, with its
challenges. The error is a plain `fmt.Errorf`. -/
def getAuthorization (t : AuthzTables) (id : String) : Except BoulderError Authorization :=
  match t.pendingAuthorizations.find? (·.id = id) with
  | some pa => .ok { pa with challenges := challengesOf t.challenges id }
  | none =>
    match t.authz.find? (·.id = id) with
    | some fa => .ok { fa with challenges := challengesOf t.challenges id }
    | none => .error (internalServerError ("No pendingAuthorization or authz with ID " ++ id))

/-- `CountPendingAuthorizations` at the SA's clock `now`. -/
def countPendingAuthorizations (t : AuthzTables) (regID : ℤ) (now : Time) : ℤ :=
  (t.pendingAuthorizations.filter fun a =>
    a.registrationID = regID && expiresAfter a now && a.status = .pending).length

/-- `expires > :earliest AND expires <= :latest`; a `NULL` expiry is not selected. -/
def expiresWithin (a : Authorization) (earliest latest : Time) : Bool :=
  match a.expires with
  | some e => decide (earliest < e) && decide (e ≤ latest)
  | none => false

/-- `CountInvalidAuthorizations` for a hostname, over the expiries in `(earliest, latest]`. -/
def countInvalidAuthorizations (t : AuthzTables) (regID : ℤ) (hostname : String)
    (earliest latest : Time) : ℤ :=
  (t.authz.filter fun a => a.registrationID = regID && a.identifier = ⟨.dns, hostname⟩ &&
    expiresWithin a earliest latest && a.status = .invalid).length

/-- A challenge with its key blanked: what a challenge row keeps of the challenge written onto
it. -/
def withoutKey (c : Challenge) : Challenge := { c with id := 0 }

@[simp] theorem withoutKey_withID (c : Challenge) (id : ℤ) :
    withoutKey { c with id := id } = withoutKey c := rfl

/-! ### Keys -/

theorem lt_nextChallengeID {rows : List ChallModel} {c : ChallModel} (hc : c ∈ rows) :
    c.chall.id < nextChallengeID rows := by
  induction rows with
  | nil => cases hc
  | cons r rows ih =>
    simp only [nextChallengeID, List.map_cons, List.foldr_cons] at ih ⊢
    rcases List.mem_cons.mp hc with rfl | hc
    · omega
    · have hlt := ih hc
      omega

theorem freshAuthzID_eq_some {t : AuthzTables} {draws : List (List.Vector UInt8 32)}
    {id : String} (h : freshAuthzID t draws = some id) :
    existingPending t id = false ∧ existingFinal t id = false ∧ ∃ r ∈ draws, newToken r = id := by
  have hfree := List.find?_some h
  simp only [Bool.not_eq_true', Bool.or_eq_false_iff] at hfree
  obtain ⟨r, hr, rfl⟩ := List.mem_map.mp (List.mem_of_find?_eq_some h)
  exact ⟨hfree.1, hfree.2, r, hr, rfl⟩

theorem mem_challengeRows {authID : String} {next : ℤ} {challenges : List Challenge}
    {c : ChallModel} (hc : c ∈ challengeRows authID next challenges) :
    c.authorizationID = authID ∧ next ≤ c.chall.id ∧
      ∃ ch ∈ challenges, c.chall = { ch with id := c.chall.id } := by
  obtain ⟨i, hi, rfl⟩ := List.mem_mapIdx.mp hc
  exact ⟨rfl, by simp, _, List.getElem_mem hi, rfl⟩

/-- The keys of the inserted rows count up from `next`. -/
theorem map_key_challengeRows (authID : String) (next : ℤ) (challenges : List Challenge) :
    (challengeRows authID next challenges).map (·.chall.id) =
      (List.range challenges.length).map fun i : ℕ => next + (i : ℤ) := by
  apply List.ext_getElem (by simp [challengeRows])
  intro i h1 h2
  simp [challengeRows]

/-- Appending the inserted rows keeps the keys in increasing order. -/
theorem keys_sorted_append_challengeRows {rows : List ChallModel}
    (hsorted : (rows.map (·.chall.id)).Pairwise (· < ·)) (authID : String)
    (challenges : List Challenge) :
    ((rows ++ challengeRows authID (nextChallengeID rows) challenges).map (·.chall.id)).Pairwise
      (· < ·) := by
  rw [List.map_append, List.pairwise_append, map_key_challengeRows]
  refine ⟨hsorted, ?_, ?_⟩
  · rw [List.pairwise_map]
    exact (List.pairwise_lt_range).imp fun h => by omega
  · intro a ha b hb
    obtain ⟨c, hc, rfl⟩ := List.mem_map.mp ha
    obtain ⟨i, -, rfl⟩ := List.mem_map.mp hb
    have hlt := lt_nextChallengeID hc
    omega

/-- Each inserted row is its challenge under `authID`. -/
theorem challengeRows_eq_map (authID : String) (next : ℤ) (challenges : List Challenge) :
    challengeRows authID next challenges =
      ((challengeRows authID next challenges).map (·.chall)).map (⟨authID, ·⟩) := by
  apply List.ext_getElem (by simp)
  intro i h1 h2
  simp [challengeRows]

/-- The inserted challenges agree with the given ones on every field but the key. -/
theorem map_chall_challengeRows {β : Type} (f : Challenge → β)
    (hf : ∀ c (id : ℤ), f { c with id := id } = f c) (authID : String) (next : ℤ)
    (challenges : List Challenge) :
    ((challengeRows authID next challenges).map (·.chall)).map f = challenges.map f := by
  apply List.ext_getElem (by simp [challengeRows])
  intro i h1 h2
  simp [challengeRows, hf]

/-- The keys of one authorization's challenge rows are distinct when the table's keys increase. -/
theorem keys_nodup_filter {rows : List ChallModel}
    (hkeys : (rows.map (·.chall.id)).Pairwise (· < ·)) (authID : String) :
    ((rows.filter (·.authorizationID = authID)).map (·.chall.id)).Nodup :=
  (List.filter_sublist.map _).nodup (hkeys.imp ne_of_lt)

/-! ### The positional rewrite -/

/-- The rewrite of a row of the authorization at position `pos` among its rows: it takes the
challenge at that position, under its own key. -/
def rewriteAt (challenges : List Challenge) (pos : Option ℕ) (c : ChallModel) : ChallModel :=
  match pos >>= fun i => challenges[i]? with
  | some ch => { c with chall := { ch with id := c.chall.id } }
  | none => c

/-- The rewrite of one row, given the keys of `authID`'s rows in order. -/
def rewriteRow (authID : String) (challenges : List Challenge) (ids : List ℤ) (c : ChallModel) :
    ChallModel :=
  if c.authorizationID = authID then rewriteAt challenges (ids.idxOf? c.chall.id) c else c

theorem rewriteChallenges_eq (authID : String) (challenges : List Challenge)
    (rows : List ChallModel) :
    rewriteChallenges authID challenges rows =
      rows.map (rewriteRow authID challenges
        ((rows.filter (·.authorizationID = authID)).map (·.chall.id))) := rfl

section RewriteRow

variable {authID : String} {challenges : List Challenge} {ids : List ℤ}

@[simp] theorem rewriteAt_authorizationID (pos : Option ℕ) (c : ChallModel) :
    (rewriteAt challenges pos c).authorizationID = c.authorizationID := by
  unfold rewriteAt
  split <;> rfl

@[simp] theorem rewriteAt_key (pos : Option ℕ) (c : ChallModel) :
    (rewriteAt challenges pos c).chall.id = c.chall.id := by
  unfold rewriteAt
  split <;> rfl

@[simp] theorem rewriteRow_authorizationID (c : ChallModel) :
    (rewriteRow authID challenges ids c).authorizationID = c.authorizationID := by
  unfold rewriteRow
  split_ifs <;> simp

@[simp] theorem rewriteRow_key (c : ChallModel) :
    (rewriteRow authID challenges ids c).chall.id = c.chall.id := by
  unfold rewriteRow
  split_ifs <;> simp

theorem rewriteRow_of_ne {c : ChallModel} (h : c.authorizationID ≠ authID) :
    rewriteRow authID challenges ids c = c := by
  simp [rewriteRow, h]

end RewriteRow

/-- Rewriting rows keeps which rows belong to an authorization. -/
theorem filter_map_rewriteRow (authID id : String) (challenges : List Challenge) (ids : List ℤ)
    (rows : List ChallModel) :
    (rows.map (rewriteRow authID challenges ids)).filter (·.authorizationID = id) =
      (rows.filter (·.authorizationID = id)).map (rewriteRow authID challenges ids) := by
  rw [List.filter_map]
  congr 1
  apply List.filter_congr
  intro c _
  simp

/-- The rewrite keeps every row's authorization and key. -/
theorem keys_rewriteChallenges (authID : String) (challenges : List Challenge)
    (rows : List ChallModel) :
    (rewriteChallenges authID challenges rows).map (fun c => (c.authorizationID, c.chall.id)) =
      rows.map fun c => (c.authorizationID, c.chall.id) := by
  rw [rewriteChallenges_eq, List.map_map]
  apply List.map_congr_left
  intro c _
  simp

theorem map_key_rewriteChallenges (authID : String) (challenges : List Challenge)
    (rows : List ChallModel) :
    (rewriteChallenges authID challenges rows).map (·.chall.id) = rows.map (·.chall.id) := by
  have h := congrArg (List.map Prod.snd) (keys_rewriteChallenges authID challenges rows)
  simpa only [List.map_map, Function.comp_def] using h

theorem map_authorizationID_rewriteChallenges (authID : String) (challenges : List Challenge)
    (rows : List ChallModel) :
    (rewriteChallenges authID challenges rows).map (·.authorizationID) =
      rows.map (·.authorizationID) := by
  have h := congrArg (List.map Prod.fst) (keys_rewriteChallenges authID challenges rows)
  simpa only [List.map_map, Function.comp_def] using h

/-- The rewrite leaves the challenges of every other authorization alone. -/
theorem challengesOf_rewriteChallenges_of_ne {authID id : String} (hne : id ≠ authID)
    (challenges : List Challenge) (rows : List ChallModel) :
    challengesOf (rewriteChallenges authID challenges rows) id = challengesOf rows id := by
  rw [challengesOf, rewriteChallenges_eq, filter_map_rewriteRow, List.map_map, challengesOf]
  apply List.map_congr_left
  intro c hc
  have hid : c.authorizationID = id := by simpa using (List.mem_filter.mp hc).2
  simp [rewriteRow_of_ne (hid ▸ hne)]

/-- **The positional rewrite.** When the rows of `authID` have distinct keys and are as many as
the challenges given, they read back as those challenges, each under its row's key. -/
theorem challengesOf_rewriteChallenges {authID : String} {challenges : List Challenge}
    {rows : List ChallModel}
    (hkeys : ((rows.filter (·.authorizationID = authID)).map (·.chall.id)).Nodup)
    (hlen : (rows.filter (·.authorizationID = authID)).length = challenges.length) :
    (challengesOf (rewriteChallenges authID challenges rows) authID).map withoutKey =
      challenges.map withoutKey := by
  set rowsOf := rows.filter (·.authorizationID = authID) with hrowsOf
  have hlook : rowsOf.map (rewriteRow authID challenges (rowsOf.map (·.chall.id))) =
      rowsOf.map fun c => rewriteAt challenges ((rowsOf.map (·.chall.id)).idxOf? c.chall.id) c := by
    apply List.map_congr_left
    intro c hc
    have hid : c.authorizationID = authID := by simpa using (List.mem_filter.mp hc).2
    simp [rewriteRow, hid]
  rw [challengesOf, rewriteChallenges_eq, filter_map_rewriteRow, ← hrowsOf, hlook,
    Lib.Rows.map_idxOf?_key hkeys (rewriteAt challenges)]
  apply List.ext_getElem (by simp [hlen])
  intro i h1 h2
  have hi : i < challenges.length := by simpa using h2
  simp [rewriteAt, List.getElem?_eq_getElem hi]

/-! ### What the calls do -/

theorem challengesOf_append (rows rows' : List ChallModel) (id : String) :
    challengesOf (rows ++ rows') id = challengesOf rows id ++ challengesOf rows' id := by
  simp [challengesOf]

theorem challengesOf_challengeRows (authID : String) (next : ℤ) (challenges : List Challenge) :
    challengesOf (challengeRows authID next challenges) authID =
      (challengeRows authID next challenges).map (·.chall) := by
  rw [challengesOf, List.filter_eq_self.mpr]
  intro c hc
  simpa using (mem_challengeRows hc).1

theorem challengesOf_challengeRows_of_ne {authID id : String} (hne : id ≠ authID) (next : ℤ)
    (challenges : List Challenge) : challengesOf (challengeRows authID next challenges) id = [] := by
  rw [challengesOf, List.map_eq_nil_iff, List.filter_eq_nil_iff]
  intro c hc
  simpa [(mem_challengeRows hc).1] using Ne.symm hne

theorem newPendingAuthorization_eq_some {t t' : AuthzTables}
    {draws : List (List.Vector UInt8 32)} {authz out : Authorization}
    (h : newPendingAuthorization t draws authz = some (t', out)) :
    ∃ id, freshAuthzID t draws = some id ∧
      t' = { t with
        pendingAuthorizations := t.pendingAuthorizations ++ [toRow { authz with id := id }]
        challenges := t.challenges ++
          challengeRows id (nextChallengeID t.challenges) authz.challenges } ∧
      out = { authz with
        id := id
        challenges :=
          (challengeRows id (nextChallengeID t.challenges) authz.challenges).map (·.chall) } := by
  obtain ⟨id, hid, hpair⟩ := Option.map_eq_some_iff.mp h
  simp only [Prod.mk.injEq] at hpair
  exact ⟨id, hid, hpair.1.symm, hpair.2.symm⟩

/-- What `GetAuthorization` returns: a row of one of the two tables, with its challenges. -/
theorem getAuthorization_eq_ok {t : AuthzTables} {id : String} {a : Authorization}
    (h : getAuthorization t id = .ok a) :
    ∃ row ∈ t.pendingAuthorizations ++ t.authz, row.id = id ∧
      a = { row with challenges := challengesOf t.challenges id } := by
  unfold getAuthorization at h
  split at h
  · rename_i pa hpa
    refine ⟨pa, List.mem_append_left _ (List.mem_of_find?_eq_some hpa), ?_, (Except.ok.inj h).symm⟩
    simpa using List.find?_some hpa
  · split at h
    · rename_i fa hfa
      refine ⟨fa, List.mem_append_right _ (List.mem_of_find?_eq_some hfa), ?_,
        (Except.ok.inj h).symm⟩
      simpa using List.find?_some hfa
    · cases h

/-- What a successful `UpdatePendingAuthorization` checked and wrote. -/
theorem updatePendingAuthorization_eq_ok {t t' : AuthzTables} {authz : Authorization}
    (h : updatePendingAuthorization t authz = .ok t') :
    statusIsPending authz.status = true ∧ existingFinal t authz.id = false ∧
      existingPending t authz.id = true ∧
      (t.challenges.filter (·.authorizationID = authz.id)).length = authz.challenges.length ∧
      t' = { t with
        pendingAuthorizations := t.pendingAuthorizations.map fun pa =>
          if pa.id = authz.id then toRow authz else pa
        challenges := rewriteChallenges authz.id authz.challenges t.challenges } := by
  simp only [updatePendingAuthorization, updateChallenges, Bool.not_eq_true', Lib.Loop.ite_error_eq_ok,
    Except.ok.injEq] at h
  obtain ⟨hpend, hfinal, hex, hlen, rfl⟩ := h
  simp only [Bool.not_eq_false] at hpend hex
  exact ⟨hpend, by simpa using hfinal, hex, by simpa using hlen, rfl⟩

/-- What a successful `FinalizeAuthorization` checked and wrote. -/
theorem finalizeAuthorization_eq_ok {t t' : AuthzTables} {authz : Authorization}
    (h : finalizeAuthorization t authz = .ok t') :
    existingPending t authz.id = true ∧ statusIsPending authz.status = false ∧
      existingFinal t authz.id = false ∧
      (t.challenges.filter (·.authorizationID = authz.id)).length = authz.challenges.length ∧
      t' = { t with
        authz := t.authz ++ [toRow authz]
        pendingAuthorizations := t.pendingAuthorizations.filter (·.id ≠ authz.id)
        challenges := rewriteChallenges authz.id authz.challenges t.challenges } := by
  simp only [finalizeAuthorization, updateChallenges, Bool.not_eq_true', Lib.Loop.ite_error_eq_ok,
    Except.ok.injEq] at h
  obtain ⟨hex, hnp, hfinal, hlen, rfl⟩ := h
  simp only [Bool.not_eq_false] at hex hnp
  exact ⟨hex, by simpa using hnp, by simpa using hfinal, by simpa using hlen, rfl⟩

/-! ### Status-only changes -/

/-- A change of rows that at most deactivates or revokes each row. -/
def StatusOnly (g : Authorization → Authorization) : Prop :=
  ∀ a, g a = a ∨ g a = { a with status := .deactivated } ∨ g a = { a with status := .revoked }

section StatusOnly

variable {g g' : Authorization → Authorization}

theorem StatusOnly.id : StatusOnly fun a => a := fun _ => .inl rfl

theorem StatusOnly.comp (hg : StatusOnly g) (hg' : StatusOnly g') : StatusOnly (g ∘ g') := by
  intro a
  rcases hg' a with h' | h' | h' <;> rw [Function.comp_apply, h'] <;>
    rcases hg _ with h | h | h <;> rw [h] <;> simp

theorem StatusOnly.id_eq (hg : StatusOnly g) (a : Authorization) : (g a).id = a.id := by
  rcases hg a with h | h | h <;> rw [h]

theorem StatusOnly.map_id (hg : StatusOnly g) (rows : List Authorization) :
    (rows.map g).map (·.id) = rows.map (·.id) := by
  rw [List.map_map]
  exact List.map_congr_left fun a _ => hg.id_eq a

/-- A status-only change keeps every field but the status. -/
theorem StatusOnly.eq_withStatus (hg : StatusOnly g) (a : Authorization) :
    g a = { a with status := (g a).status } := by
  rcases hg a with h | h | h <;> rw [h]

theorem StatusOnly.registrationID_eq (hg : StatusOnly g) (a : Authorization) :
    (g a).registrationID = a.registrationID := by
  rw [hg.eq_withStatus a]

end StatusOnly

/-- `DeactivateAuthorization` only deactivates rows. -/
theorem deactivateAuthorization_statusOnly (t : AuthzTables) (id : String) :
    ∃ g g', StatusOnly g ∧ StatusOnly g' ∧
      deactivateAuthorization t id =
        { t with pendingAuthorizations := t.pendingAuthorizations.map g, authz := t.authz.map g' } := by
  have hd : ∀ old : AcmeStatus, StatusOnly fun a =>
      if a.id = id ∧ a.status = old then { a with status := .deactivated } else a := by
    intro old a
    dsimp only
    split_ifs
    · exact .inr (.inl rfl)
    · exact .inl rfl
  unfold deactivateAuthorization
  split_ifs
  · exact ⟨_, fun a => a, hd .pending, StatusOnly.id, by simp⟩
  · exact ⟨fun a => a, _, StatusOnly.id, hd .valid, by simp⟩

/-- A change of rows that at most sets each row's status to `st`. -/
def StatusTo (st : AcmeStatus) (g : Authorization → Authorization) : Prop :=
  ∀ a, g a = a ∨ g a = { a with status := st }

section StatusTo

variable {st : AcmeStatus} {g g' : Authorization → Authorization}

theorem StatusTo.id (st : AcmeStatus) : StatusTo st fun a => a := fun _ => .inl rfl

theorem StatusTo.comp (hg : StatusTo st g) (hg' : StatusTo st g') : StatusTo st (g ∘ g') := by
  intro a
  rw [Function.comp_apply]
  rcases hg' a with h' | h'
  · rw [h']
    exact hg a
  · rw [h']
    rcases hg { a with status := st } with h | h
    · exact .inr h
    · exact .inr h

theorem StatusTo.statusOnly_revoked (hg : StatusTo .revoked g) : StatusOnly g :=
  fun a => (hg a).imp (fun h => h) .inr

/-- A row after a change of both tables to one status is a row before it, or has that status. -/
theorem StatusTo.mem_map (hg : StatusTo st g) (hg' : StatusTo st g') {t : AuthzTables}
    {a : Authorization} (ha : a ∈ t.pendingAuthorizations.map g ++ t.authz.map g') :
    a ∈ t.pendingAuthorizations ++ t.authz ∨ a.status = st := by
  rcases List.mem_append.mp ha with ha | ha
  · obtain ⟨a₀, ha₀, rfl⟩ := List.mem_map.mp ha
    rcases hg a₀ with h | h <;> rw [h]
    · exact .inl (List.mem_append_left _ ha₀)
    · exact .inr rfl
  · obtain ⟨a₀, ha₀, rfl⟩ := List.mem_map.mp ha
    rcases hg' a₀ with h | h <;> rw [h]
    · exact .inl (List.mem_append_right _ ha₀)
    · exact .inr rfl

end StatusTo

/-- The batch loop of `RevokeAuthorizationsByDomain` only revokes rows. -/
theorem revokeLoop_statusTo (ident : AcmeIdentifier) (now : Time) :
    ∀ (fuel : ℕ) (rows : List Authorization) (n : ℕ),
      ∃ g, StatusTo .revoked g ∧ (revokeLoop ident now fuel rows n).1 = rows.map g
  | 0, rows, n => ⟨fun a => a, StatusTo.id _, by simp [revokeLoop]⟩
  | fuel + 1, rows, n => by
    have hr : StatusTo .revoked fun a : Authorization =>
        if a.id ∈ getAuthorizationIDsByDomain rows ident now then { a with status := .revoked } else a := by
      intro a
      dsimp only
      split_ifs
      · exact .inr rfl
      · exact .inl rfl
    unfold revokeLoop
    simp only [revokeAuthorizations]
    -- the loop's two checks sit under the witness, so `simp` decides them
    by_cases hnil : getAuthorizationIDsByDomain rows ident now = []
    · simp only [hnil, ↓reduceIte]
      exact ⟨fun a => a, StatusTo.id _, by simp⟩
    simp only [hnil, ↓reduceIte]
    rcases Nat.lt_or_ge (rows.filter fun a : Authorization =>
        decide (a.id ∈ getAuthorizationIDsByDomain rows ident now ∧ a.status ≠ .revoked)).length (getAuthorizationIDsByDomain rows ident now).length
      with hshort | hfull
    · simp only [hshort, ↓reduceIte]
      exact ⟨_, hr, rfl⟩
    · simp only [Nat.not_lt.mpr hfull, ↓reduceIte]
      obtain ⟨g, hg, hrest⟩ := revokeLoop_statusTo ident now fuel
        (rows.map fun a => if a.id ∈ getAuthorizationIDsByDomain rows ident now then
          { a with status := .revoked } else a) _
      exact ⟨g ∘ _, hg.comp hr, by rw [hrest, List.map_map]⟩

/-- `RevokeAuthorizationsByDomain` only revokes rows. -/
theorem revokeAuthorizationsByDomain_statusTo (t : AuthzTables) (ident : AcmeIdentifier)
    (now : Time) :
    ∃ g g', StatusTo .revoked g ∧ StatusTo .revoked g' ∧
      (revokeAuthorizationsByDomain t ident now).1 =
        { t with pendingAuthorizations := t.pendingAuthorizations.map g, authz := t.authz.map g' } := by
  obtain ⟨g', hg', hauthz⟩ := revokeLoop_statusTo ident now (t.authz.length + 1) t.authz 0
  obtain ⟨g, hg, hpending⟩ :=
    revokeLoop_statusTo ident now (t.pendingAuthorizations.length + 1) t.pendingAuthorizations 0
  unfold revokeAuthorizationsByDomain
  rcases hloop : revokeLoop ident now (t.authz.length + 1) t.authz 0 with ⟨authz', n0, e0⟩
  rw [hloop] at hauthz
  dsimp only at hauthz
  cases e0 with
  | some e => exact ⟨fun a => a, g', StatusTo.id _, hg', by simp [hauthz]⟩
  | none => exact ⟨g, g', hg, hg', by simp [hauthz, hpending]⟩

theorem revokeAuthorizationsByDomain_statusOnly (t : AuthzTables) (ident : AcmeIdentifier)
    (now : Time) :
    ∃ g g', StatusOnly g ∧ StatusOnly g' ∧
      (revokeAuthorizationsByDomain t ident now).1 =
        { t with pendingAuthorizations := t.pendingAuthorizations.map g, authz := t.authz.map g' } := by
  obtain ⟨g, g', hg, hg', h⟩ := revokeAuthorizationsByDomain_statusTo t ident now
  exact ⟨g, g', hg.statusOnly_revoked, hg'.statusOnly_revoked, h⟩

/-- A row after `DeactivateAuthorization` is a row before it, or one with the ID deactivated. -/
theorem mem_deactivateAuthorization {t : AuthzTables} {id : String} {a : Authorization}
    (h : a ∈ (deactivateAuthorization t id).pendingAuthorizations ++
      (deactivateAuthorization t id).authz) :
    a ∈ t.pendingAuthorizations ++ t.authz ∨
      ∃ a₀ ∈ t.pendingAuthorizations ++ t.authz, a₀.id = id ∧
        a = { a₀ with status := .deactivated } := by
  have hrow : ∀ (old : AcmeStatus) (rows : List Authorization), a ∈ rows.map (fun a =>
      if a.id = id ∧ a.status = old then { a with status := .deactivated } else a) →
      a ∈ rows ∨ ∃ a₀ ∈ rows, a₀.id = id ∧ a = { a₀ with status := .deactivated } := by
    intro old rows hmem
    obtain ⟨a₀, ha₀, rfl⟩ := List.mem_map.mp hmem
    split_ifs with hsel
    · exact .inr ⟨a₀, ha₀, hsel.1, rfl⟩
    · exact .inl ha₀
  unfold deactivateAuthorization at h
  split_ifs at h
  · rcases List.mem_append.mp h with h | h
    · rcases hrow .pending _ h with h | ⟨a₀, ha₀, hid, rfl⟩
      · exact .inl (List.mem_append_left _ h)
      · exact .inr ⟨a₀, List.mem_append_left _ ha₀, hid, rfl⟩
    · exact .inl (List.mem_append_right _ h)
  · rcases List.mem_append.mp h with h | h
    · exact .inl (List.mem_append_left _ h)
    · rcases hrow .valid _ h with h | ⟨a₀, ha₀, hid, rfl⟩
      · exact .inl (List.mem_append_right _ h)
      · exact .inr ⟨a₀, List.mem_append_right _ ha₀, hid, rfl⟩

/-! ### Where a row comes from, where it goes -/

section Rows

variable {t t' : AuthzTables} {authz : Authorization} {a : Authorization}

/-- A row after `NewPendingAuthorization` is a row before it or the new stub, and every row
before it stays. -/
theorem mem_newPendingAuthorization {draws : List (List.Vector UInt8 32)} {out : Authorization}
    (h : newPendingAuthorization t draws authz = some (t', out)) :
    a ∈ t'.pendingAuthorizations ++ t'.authz ↔
      a ∈ t.pendingAuthorizations ++ t.authz ∨ a = toRow { authz with id := out.id } := by
  obtain ⟨id, -, rfl, rfl⟩ := newPendingAuthorization_eq_some h
  simp only [List.mem_append, List.mem_singleton]
  tauto

/-- A row after `UpdatePendingAuthorization` is a row before it or the written copy. -/
theorem mem_updatePendingAuthorization (h : updatePendingAuthorization t authz = .ok t')
    (ha : a ∈ t'.pendingAuthorizations ++ t'.authz) :
    a ∈ t.pendingAuthorizations ++ t.authz ∨ a = toRow authz := by
  obtain ⟨-, -, -, -, rfl⟩ := updatePendingAuthorization_eq_ok h
  rcases List.mem_append.mp ha with ha | ha
  · obtain ⟨pa, hpa, rfl⟩ := List.mem_map.mp ha
    split_ifs
    · exact .inr rfl
    · exact .inl (List.mem_append_left _ hpa)
  · exact .inl (List.mem_append_right _ ha)

/-- A row before `UpdatePendingAuthorization` stays, or has the copy's ID and the copy took its
place. -/
theorem mem_updatePendingAuthorization_of_mem (h : updatePendingAuthorization t authz = .ok t')
    (ha : a ∈ t.pendingAuthorizations ++ t.authz) :
    a ∈ t'.pendingAuthorizations ++ t'.authz ∨
      a.id = authz.id ∧ toRow authz ∈ t'.pendingAuthorizations ++ t'.authz := by
  obtain ⟨-, -, -, -, rfl⟩ := updatePendingAuthorization_eq_ok h
  rcases List.mem_append.mp ha with ha | ha
  · by_cases hid : a.id = authz.id
    · refine .inr ⟨hid, List.mem_append_left _ (List.mem_map.mpr ⟨a, ha, ?_⟩)⟩
      rw [if_pos hid]
    · refine .inl (List.mem_append_left _ (List.mem_map.mpr ⟨a, ha, ?_⟩))
      rw [if_neg hid]
  · exact .inl (List.mem_append_right _ ha)

/-- A row after `FinalizeAuthorization` is a row before it or the written copy. -/
theorem mem_finalizeAuthorization (h : finalizeAuthorization t authz = .ok t')
    (ha : a ∈ t'.pendingAuthorizations ++ t'.authz) :
    a ∈ t.pendingAuthorizations ++ t.authz ∨ a = toRow authz := by
  obtain ⟨-, -, -, -, rfl⟩ := finalizeAuthorization_eq_ok h
  simp only [List.mem_append, List.mem_filter, List.mem_singleton] at ha
  rcases ha with ⟨ha, -⟩ | ha | rfl
  · exact .inl (List.mem_append_left _ ha)
  · exact .inl (List.mem_append_right _ ha)
  · exact .inr rfl

/-- A row before `FinalizeAuthorization` stays, or has the copy's ID and the copy took its
place. -/
theorem mem_finalizeAuthorization_of_mem (h : finalizeAuthorization t authz = .ok t')
    (ha : a ∈ t.pendingAuthorizations ++ t.authz) :
    a ∈ t'.pendingAuthorizations ++ t'.authz ∨
      a.id = authz.id ∧ toRow authz ∈ t'.pendingAuthorizations ++ t'.authz := by
  obtain ⟨-, -, -, -, rfl⟩ := finalizeAuthorization_eq_ok h
  have hnew : toRow authz ∈ (t.authz ++ [toRow authz]) := by simp
  rcases List.mem_append.mp ha with ha | ha
  · by_cases hid : a.id = authz.id
    · exact .inr ⟨hid, List.mem_append_right _ hnew⟩
    · exact .inl (List.mem_append_left _ (List.mem_filter.mpr ⟨ha, by simpa using hid⟩))
  · exact .inl (List.mem_append_right _ (List.mem_append_left _ ha))

end Rows

/-! ### Which rows the rewrite changes -/

theorem existingPending_eq_true {t : AuthzTables} {id : String} :
    existingPending t id = true ↔ id ∈ t.pendingAuthorizations.map (·.id) := by
  simp [existingPending, List.any_eq_true]

theorem existingFinal_eq_true {t : AuthzTables} {id : String} :
    existingFinal t id = true ↔ id ∈ t.authz.map (·.id) := by
  simp [existingFinal, List.any_eq_true]

/-- A row after the rewrite is a row before it, with its challenge unchanged or, in `authID`,
replaced by one of the given challenges under the row's key. -/
theorem mem_rewriteChallenges {authID : String} {challenges : List Challenge}
    {rows : List ChallModel} {c' : ChallModel} (h : c' ∈ rewriteChallenges authID challenges rows) :
    ∃ c ∈ rows, c'.authorizationID = c.authorizationID ∧
      (c'.chall = c.chall ∨
        c.authorizationID = authID ∧ ∃ ch ∈ challenges, c'.chall = { ch with id := c.chall.id }) := by
  rw [rewriteChallenges_eq] at h
  obtain ⟨c, hc, rfl⟩ := List.mem_map.mp h
  refine ⟨c, hc, by simp, ?_⟩
  unfold rewriteRow rewriteAt
  split_ifs with hid
  · split
    · rename_i ch hch
      obtain ⟨i, -, hi⟩ := Option.bind_eq_some_iff.mp hch
      exact .inr ⟨hid, ch, List.mem_of_getElem? hi, rfl⟩
    · exact .inl rfl
  · exact .inl rfl

/-! ### Reading back what was written -/

/-- `find?` by ID through a map that keeps IDs. -/
theorem find?_id_map {rows : List Authorization} {f : Authorization → Authorization}
    (hf : ∀ a, (f a).id = a.id) (id : String) :
    (rows.map f).find? (·.id = id) = (rows.find? (·.id = id)).map f := by
  have hp : ((fun a : Authorization => decide (a.id = id)) ∘ f) = fun a => decide (a.id = id) := by
    funext a
    simp [hf]
  rw [List.find?_map, hp]

/-- A row found by its ID has it. -/
theorem find?_id_of_mem {rows : List Authorization} {id : String} (h : id ∈ rows.map (·.id)) :
    ∃ a, rows.find? (·.id = id) = some a ∧ a.id = id := by
  obtain ⟨r, hr, hrid⟩ := List.mem_map.mp h
  have hsome : (rows.find? (·.id = id)).isSome := List.find?_isSome.mpr ⟨r, hr, by simpa using hrid⟩
  obtain ⟨a, ha⟩ := Option.isSome_iff_exists.mp hsome
  exact ⟨a, ha, by simpa using List.find?_some ha⟩

theorem find?_id_eq_none {rows : List Authorization} {id : String} (h : id ∉ rows.map (·.id)) :
    rows.find? (·.id = id) = none :=
  List.find?_eq_none.mpr fun a ha hid => h (List.mem_map.mpr ⟨a, ha, by simpa using hid⟩)

/-- A row appended under an ID no earlier row has is the row found by that ID. -/
theorem find?_id_append_fresh {rows : List Authorization} {r : Authorization}
    (h : r.id ∉ rows.map (·.id)) : (rows ++ [r]).find? (·.id = r.id) = some r := by
  rw [List.find?_append, find?_id_eq_none h]
  simp

/-- **Writes read back.** On tables whose challenge rows belong to stored authorizations and
whose keys increase: `GetAuthorization` returns the authorization `NewPendingAuthorization`
stored, exactly; and after `UpdatePendingAuthorization` or `FinalizeAuthorization` it returns the
copy that was written, with the copy's challenges but for their keys. -/
theorem authzWrites_readBack {t : AuthzTables}
    (howned : ∀ c ∈ t.challenges,
      existingPending t c.authorizationID = true ∨ existingFinal t c.authorizationID = true)
    (hkeys : (t.challenges.map (·.chall.id)).Pairwise (· < ·)) :
    (∀ draws authz t' out, newPendingAuthorization t draws authz = some (t', out) →
      getAuthorization t' out.id = .ok out) ∧
    (∀ a t', updatePendingAuthorization t a = .ok t' →
      ∃ a', getAuthorization t' a.id = .ok a' ∧ toRow a' = toRow a ∧
        a'.challenges.map withoutKey = a.challenges.map withoutKey) ∧
    (∀ a t', finalizeAuthorization t a = .ok t' →
      ∃ a', getAuthorization t' a.id = .ok a' ∧ toRow a' = toRow a ∧
        a'.challenges.map withoutKey = a.challenges.map withoutKey) := by
  refine ⟨?newPending, ?update, ?finalize⟩
  case newPending =>
    intro draws authz t' out hnew
    obtain ⟨id, hid, rfl, rfl⟩ := newPendingAuthorization_eq_some hnew
    obtain ⟨hnp, hnf, -⟩ := freshAuthzID_eq_some hid
    have hnone : challengesOf t.challenges id = [] := by
      rw [challengesOf, List.map_eq_nil_iff, List.filter_eq_nil_iff]
      intro c hc hcid
      rw [decide_eq_true_eq] at hcid
      rcases howned c hc with hp | hf
      · rw [hcid, hnp] at hp
        cases hp
      · rw [hcid, hnf] at hf
        cases hf
    have hfind : (t.pendingAuthorizations ++ [toRow { authz with id := id }]).find? (·.id = id) =
        some (toRow { authz with id := id }) :=
      find?_id_append_fresh (r := toRow { authz with id := id }) fun h =>
        Bool.eq_false_iff.mp hnp (existingPending_eq_true.mpr h)
    show getAuthorization _ id = _
    simp only [getAuthorization, hfind]
    rw [challengesOf_append, hnone, List.nil_append, challengesOf_challengeRows]
    rfl
  case update =>
    intro a t' hupd
    obtain ⟨-, -, hp, hlen, rfl⟩ := updatePendingAuthorization_eq_ok hupd
    obtain ⟨pa, hpa, hid⟩ := find?_id_of_mem (existingPending_eq_true.mp hp)
    have hfind : (t.pendingAuthorizations.map fun pa =>
        if pa.id = a.id then toRow a else pa).find? (·.id = a.id) = some (toRow a) := by
      rw [find?_id_map (fun r => by by_cases hr : r.id = a.id <;> simp [hr, toRow]), hpa]
      simp [hid]
    refine ⟨{ toRow a with
        challenges := challengesOf (rewriteChallenges a.id a.challenges t.challenges) a.id },
      ?_, rfl, challengesOf_rewriteChallenges (keys_nodup_filter hkeys a.id) hlen⟩
    simp only [getAuthorization, hfind]
  case finalize =>
    intro a t' hfin
    obtain ⟨-, -, hnf, hlen, rfl⟩ := finalizeAuthorization_eq_ok hfin
    have hpending : (t.pendingAuthorizations.filter (·.id ≠ a.id)).find? (·.id = a.id) = none :=
      find?_id_eq_none fun h => by
        obtain ⟨r, hr, hrid⟩ := List.mem_map.mp h
        exact (of_decide_eq_true (List.mem_filter.mp hr).2) hrid
    have hfinal : (t.authz ++ [toRow a]).find? (·.id = a.id) = some (toRow a) :=
      find?_id_append_fresh (r := toRow a) fun h => Bool.eq_false_iff.mp hnf (existingFinal_eq_true.mpr h)
    refine ⟨{ toRow a with
        challenges := challengesOf (rewriteChallenges a.id a.challenges t.challenges) a.id },
      ?_, rfl, challengesOf_rewriteChallenges (keys_nodup_filter hkeys a.id) hlen⟩
    simp only [getAuthorization, hpending, hfinal]

/-- A pending authorization for `example.com` with one challenge under key 1. -/
def readBackTables : AuthzTables :=
  ⟨[⟨"p1", ⟨.dns, "example.com"⟩, 1, .pending, some 1000, [], [[0]]⟩], [],
    [⟨"p1", ⟨1, "http-01", .pending, "t", "", none, none⟩⟩]⟩

theorem readBackTables_readBack :
    (∀ c ∈ readBackTables.challenges, existingPending readBackTables c.authorizationID = true ∨
        existingFinal readBackTables c.authorizationID = true) ∧
      (readBackTables.challenges.map (·.chall.id)).Pairwise (· < ·) ∧
      ∀ a t', finalizeAuthorization readBackTables a = .ok t' →
        ∃ a', getAuthorization t' a.id = .ok a' ∧ toRow a' = toRow a ∧
          a'.challenges.map withoutKey = a.challenges.map withoutKey := by
  have howned : ∀ c ∈ readBackTables.challenges, existingPending readBackTables c.authorizationID =
      true ∨ existingFinal readBackTables c.authorizationID = true := by
    decide +kernel
  have hkeys : (readBackTables.challenges.map (·.chall.id)).Pairwise (· < ·) := by
    decide +kernel
  exact ⟨howned, hkeys, (authzWrites_readBack howned hkeys).2.2⟩

end Boulder.SA
