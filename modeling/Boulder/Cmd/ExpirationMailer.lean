/-
# Boulder.Cmd.ExpirationMailer -- at most one nag per window

`expiration-mailer` runs `findExpiringCertificates` again and again. A run reads the clock once
(`now`) and then, for each nag time `nᵢ` in increasing order, selects the `certificateStatus`
rows with `now + nᵢ₋₁ < notAfter ≤ now + nᵢ` that are not revoked and whose last nag, if any,
was more than `nᵢ` before `notAfter`; it fetches their certificates and hands them to
`processCerts`, which groups them by account, marks the renewed ones, e-mails the account about
the others and marks those. Marking a certificate writes the clock's reading to
`lastExpirationNagSent`.

The model is a state machine (`mailerStep`) over two requests: a run of the mailer, whose
surroundings are a `RunEnv` (the database's order of rows with equal `notAfter`, how far the
clock moves at each reading, and the answers of the registration lookup, the renewal check, the
certificate parser and the mail server), and the SA revoking a certificate between two runs.
Writes to the database always succeed. The readings of the clock that only time the run for
metrics are left out; the e-mail's text is not modelled, so neither is the index of
`domains[0]` on a certificate without names. Every nag sent is logged as a `Nag`, with the nag
time of the window that selected it.

`nags_apart` is the property of whole runs: for any two nags of one certificate, one nag time
lies at or above `notAfter - t'` of the later nag and strictly below `notAfter - t` of the
earlier one, so no window `(nᵢ₋₁, nᵢ]` holds both (`expirationNags_once_per_window`). A
certificate revoked before a run gets no nag in that run or any later one.
-/
import Boulder.SA.Certificates
import Boulder.Lib.Paging
import Boulder.Lib.Rows
import Boulder.Lib.Run

namespace Boulder.Cmd

open Boulder.Core Boulder.SA Boulder.Lib.Paging Boulder.Lib.Rows Boulder.Lib.Run

/-! ## The mailer -/

/-- The fields of `mailer` that `findExpiringCertificates` reads: the nag times, the query's
`limit`, and `url.Parse` of a contact, as its scheme and its opaque part. -/
structure Mailer where
  nagTimes : List Time
  limit : ℕ
  urlParse : String → Option (String × String)

/-- `main`'s nag times: each configured one plus `nagCheckInterval`, sorted. -/
def nagDurations (configured : List Time) (nagCheckInterval : Time) : List Time :=
  (configured.map (· + nagCheckInterval)).insertionSort (· ≤ ·)

theorem nagDurations_sorted (configured : List Time) (nagCheckInterval : Time) :
    (nagDurations configured nagCheckInterval).Pairwise (· ≤ ·) :=
  List.pairwise_insertionSort _ _

/-- One certificate named in a nag e-mail: its serial, the clock's reading when the mail went
out, and the nag time of the window whose query selected it. -/
structure Nag where
  serial : String
  sentAt : Time
  window : Time
  deriving DecidableEq, Repr

/-- What the surroundings of one run decide. `order` is the order in which the `q`-th window's
query returns its rows (`ORDER BY notAfter`, ties in any order); the clock moves on by `tick k`
at its `k`-th reading; `regOrder` is the order in which `range` visits the accounts of
`regIDToCerts`; the rest are the answers of `Connect` and `SendMail` (by window and account),
`GetRegistration` (an error, or the account's contacts), `x509.ParseCertificate` and
`certIsRenewed` (an error, or the answer). -/
structure RunEnv where
  order : QueryOrder CertificateStatus
  order_sorted : OrderedBy (·.notAfter) order
  tick : ℕ → ℕ
  regOrder : List ℤ → List ℤ
  regOrder_perm : ∀ ids, (regOrder ids).Perm ids
  connect : ℕ → Bool
  registration : ℤ → Option (Option (List String))
  parses : String → Bool
  renewed : String → Option Bool
  sendMail : ℕ → ℤ → Bool

/-- The tables the mailer reads and writes, its clock (the last reading, and how many readings
have been taken), and the log of nags sent. -/
structure MailerState where
  tables : CertTables
  certificates : List Certificate
  clock : Time
  reads : ℕ
  nags : List Nag

/-! ## One run -/

section Run

variable (m : Mailer) (env : RunEnv)

/-- `m.clk.Now()`: the clock never goes back. -/
def MailerState.readClock (s : MailerState) : Time × MailerState :=
  let t := s.clock + env.tick s.reads
  (t, { s with clock := t, reads := s.reads + 1 })

/-- Readings whose values only go into the text of an e-mail. -/
def MailerState.readings : ℕ → MailerState → MailerState
  | 0, s => s
  | n + 1, s => MailerState.readings n (s.readClock env).2

/-- `updateCertStatus`: `lastExpirationNagSent` of the row set to the clock's reading. -/
def updateCertStatus (s : MailerState) (serial : String) : MailerState :=
  let (now, s) := s.readClock env
  { s with tables := s.tables.updateStatus serial fun cs => { cs with lastExpirationNagSent := now } }

/-- The log after a nag naming `certs` went out at `sentAt`. -/
def MailerState.logNags (s : MailerState) (certs : List Certificate) (sentAt window : Time) :
    MailerState :=
  { s with nags := s.nags ++ certs.map fun c => Nag.mk c.serial sentAt window }

/-- The addresses of the `mailto:` contacts; a contact `url.Parse` rejects is skipped. -/
def Mailer.emails (contacts : List String) : List String :=
  contacts.filterMap fun contact =>
    match m.urlParse contact with
    | some (scheme, address) => if scheme = "mailto" then some address else none
    | none => none

/-- `sendNags` for account `regID` in the `w`-th window, whose nag time is `window`: whether it
returned nil. Without a `mailto:` contact nothing is sent and nil is returned. The clock is
read for the e-mail's text, then at `startSending`, and after `SendMail` at `finishSending`. -/
def sendNags (w : ℕ) (window : Time) (regID : ℤ) (contacts : List String)
    (certs : List Certificate) (s : MailerState) : Bool × MailerState :=
  if certs = [] then (false, s)
  else if m.emails contacts = [] then (true, s)
  else
    -- `expDate` and each certificate's `possible`
    let s := s.readings env (certs.length + 1)
    let (startSending, s) := s.readClock env
    if env.sendMail w regID then (true, ((s.logNags certs startSending window).readClock env).2)
    else (false, s)

/-- The first loop of `processCerts` over one account's certificates: one that does not parse
is skipped, a renewed one is marked, and the others are kept to be nagged about (an error of
`certIsRenewed` counts as not renewed). -/
def checkRenewals : List Certificate → MailerState → List Certificate × MailerState
  | [], s => ([], s)
  | cert :: certs, s =>
    if !env.parses cert.serial then checkRenewals certs s
    else
      match env.renewed cert.serial with
      | some true => checkRenewals certs (updateCertStatus env s cert.serial)
      | _ =>
        let (parsed, s) := checkRenewals certs s
        (cert :: parsed, s)

/-- The body of `processCerts`' loop for one account: fetch the account, check renewals, and,
if some certificates are left and the account has contacts, send the nag and mark each of
them. -/
def processRegistration (w : ℕ) (window : Time) (regID : ℤ) (certs : List Certificate)
    (s : MailerState) : MailerState :=
  match env.registration regID with
  | none => s
  | some contact =>
    let (parsed, s) := checkRenewals env certs s
    if parsed = [] then s
    else
      match contact with
      | none => s
      | some contacts =>
        match sendNags m env w window regID contacts parsed s with
        | (false, s) => s
        | (true, s) => parsed.foldl (fun s cert => updateCertStatus env s cert.serial) s

/-- `processCerts` in the `w`-th window: the certificates grouped by account, each account
visited once in `range`'s order, after connecting to the mail server. -/
def processCerts (w : ℕ) (window : Time) (allCerts : List Certificate) (s : MailerState) :
    MailerState :=
  if !env.connect w then s
  else
    (env.regOrder (allCerts.map (·.registrationID)).dedup).foldl
      (fun s regID => processRegistration m env w window regID
        (allCerts.filter (·.registrationID = regID)) s) s

/-- The `WHERE` clause of a window's query. `TIMESTAMPDIFF` of the zero time is `NULL`, which
`COALESCE` turns into true. -/
def expiringWhere (left right nagCutoff : Time) (cs : CertificateStatus) : Bool :=
  decide (left < cs.notAfter) && decide (cs.notAfter ≤ right) && cs.status != .revoked &&
    (cs.lastExpirationNagSent == zeroTime ||
      decide (nagCutoff < cs.notAfter - cs.lastExpirationNagSent))

/-- The serials a window's query returns: the rows it matches in the database's order, at most
`limit` of them. -/
def expiringSerials (w : ℕ) (left right nagCutoff : Time) (s : MailerState) : List String :=
  ((env.order w (s.tables.certificateStatus.filter (expiringWhere left right nagCutoff))).take
    m.limit).map (·.serial)

/-- The loop of `findExpiringCertificates` from the `w`-th window on, `prev` being the nag time
of the window before (zero for the first). A serial without a certificate ends the run. -/
def findExpiring (now : Time) : ℕ → Time → List Time → MailerState → MailerState
  | _, _, [], s => s
  | w, prev, expiresIn :: rest, s =>
    let serials := expiringSerials m env w (now + prev) (now + expiresIn) expiresIn s
    match serials.mapM fun serial => s.certificates.find? (·.serial = serial) with
    | none => s
    | some certs =>
      if certs = [] then findExpiring now (w + 1) expiresIn rest s
      else findExpiring now (w + 1) expiresIn rest (processCerts m env w expiresIn certs s)

/-- `findExpiringCertificates`. -/
def findExpiringCertificates (s : MailerState) : MailerState :=
  let (now, s) := s.readClock env
  findExpiring m env now 0 0 m.nagTimes s

end Run

/-! ## What a stretch of a run does -/

/-- A row rewritten in `lastExpirationNagSent` only, which is kept or set to a reading no
earlier than `c`. -/
def RowStep (c : Time) (cs cs' : CertificateStatus) : Prop :=
  cs' = { cs with lastExpirationNagSent := cs'.lastExpirationNagSent } ∧
    (cs'.lastExpirationNagSent = cs.lastExpirationNagSent ∨ c ≤ cs'.lastExpirationNagSent)

namespace RowStep

variable {c c' : Time} {cs cs' cs'' : CertificateStatus}

theorem refl (c : Time) (cs : CertificateStatus) : RowStep c cs cs := ⟨rfl, .inl rfl⟩

theorem trans (h₁ : RowStep c cs cs') (h₂ : RowStep c' cs' cs'') (hc : c ≤ c') :
    RowStep c cs cs'' := by
  obtain ⟨e₁, l₁⟩ := h₁
  obtain ⟨e₂, l₂⟩ := h₂
  refine ⟨?_, ?_⟩
  · rw [e₂, e₁]
  · rcases l₂ with l₂ | l₂
    · rcases l₁ with l₁ | l₁
      · exact .inl (l₂.trans l₁)
      · exact .inr (l₂ ▸ l₁)
    · exact .inr (hc.trans l₂)

theorem status (h : RowStep c cs cs') : cs'.status = cs.status := by
  rw [h.1]

theorem notAfter (h : RowStep c cs cs') : cs'.notAfter = cs.notAfter := by
  rw [h.1]

/-- A time that the row's last nag and `c` are both at least stays below the last nag. -/
theorem le_lastNag {t : Time} (h : RowStep c cs cs') (hc : t ≤ c)
    (hl : t ≤ cs.lastExpirationNagSent) : t ≤ cs'.lastExpirationNagSent := by
  rcases h.2 with e | e
  · rw [e]; exact hl
  · exact hc.trans e

theorem mono (h : RowStep c' cs cs') (hc : c ≤ c') : RowStep c cs cs' :=
  ⟨h.1, h.2.imp_right hc.trans⟩

end RowStep

theorem rel_rowStep_refl (c : Time) : ∀ o : Option CertificateStatus, Option.Rel (RowStep c) o o
  | none => .none
  | some cs => .some (RowStep.refl c cs)

/-- Rows related by `RowStep` have the same status and the same expiry. -/
theorem rel_rowStep_map {c : Time} {γ : Type} {g : CertificateStatus → γ}
    (hg : ∀ cs cs', RowStep c cs cs' → g cs' = g cs) :
    ∀ {o o' : Option CertificateStatus}, Option.Rel (RowStep c) o o' → o'.map g = o.map g
  | _, _, .some h => by rw [Option.map_some, Option.map_some, hg _ _ h]
  | _, _, .none => rfl

/-- What a stretch of a run in one window can do: the clock goes forward and the certificates
stay; the status rows keep their serials and change only by `RowStep` from the clock at the
start; the nags sent name the serials `nagged`, each once and all among `serials`, in this
window, at readings of the stretch, and the row of each records a reading no earlier. -/
structure Touches (serials nagged : List String) (window : Time) (s s' : MailerState) : Prop where
  clock_le : s.clock ≤ s'.clock
  certificates : s'.certificates = s.certificates
  keys : s'.tables.certificateStatus.map (·.serial) = s.tables.certificateStatus.map (·.serial)
  rows : ∀ serial, Option.Rel (RowStep s.clock) (s.tables.statusOf serial)
    (s'.tables.statusOf serial)
  nodup : nagged.Nodup
  subset : ∀ x ∈ nagged, x ∈ serials
  sent : ∃ new, s'.nags = s.nags ++ new ∧ new.map (·.serial) = nagged ∧
    ∀ b ∈ new, s.clock ≤ b.sentAt ∧ b.sentAt ≤ s'.clock ∧ b.window = window ∧
      ∃ cs, s'.tables.statusOf b.serial = some cs ∧ b.sentAt ≤ cs.lastExpirationNagSent

namespace Touches

variable {serials serials₁ serials₂ nagged nagged₁ nagged₂ : List String} {window : Time}
  {s s' s'' : MailerState}

/-- A stretch that sends nothing. -/
theorem quiet (serials : List String) (window : Time) (hclock : s.clock ≤ s'.clock)
    (hcert : s'.certificates = s.certificates)
    (hkeys : s'.tables.certificateStatus.map (·.serial) =
      s.tables.certificateStatus.map (·.serial))
    (hrows : ∀ serial, Option.Rel (RowStep s.clock) (s.tables.statusOf serial)
      (s'.tables.statusOf serial))
    (hnags : s'.nags = s.nags) : Touches serials [] window s s' where
  clock_le := hclock
  certificates := hcert
  keys := hkeys
  rows := hrows
  nodup := List.nodup_nil
  subset := by simp
  sent := ⟨[], by rw [hnags, List.append_nil], rfl, by simp⟩

theorem refl (serials : List String) (window : Time) (s : MailerState) :
    Touches serials [] window s s :=
  quiet serials window le_rfl rfl rfl
    (fun _ => rel_rowStep_refl s.clock _) rfl

theorem mono (h : Touches serials nagged window s s') (hsub : ∀ x ∈ serials, x ∈ serials₂) :
    Touches serials₂ nagged window s s' :=
  { h with subset := fun x hx => hsub x (h.subset x hx) }

/-- Two stretches one after the other, the second sending for other serials than the
first. -/
theorem trans (h₁ : Touches serials₁ nagged₁ window s s') (h₂ : Touches serials₂ nagged₂ window s' s'')
    (hdisj : ∀ x ∈ serials₁, x ∉ serials₂) :
    Touches (serials₁ ++ serials₂) (nagged₁ ++ nagged₂) window s s'' where
  clock_le := h₁.clock_le.trans h₂.clock_le
  certificates := h₂.certificates.trans h₁.certificates
  keys := h₂.keys.trans h₁.keys
  rows serial :=
    optionRel_trans (fun e₁ e₂ => e₁.trans e₂ h₁.clock_le) (h₁.rows serial) (h₂.rows serial)
  nodup := by
    refine List.nodup_append.mpr ⟨h₁.nodup, h₂.nodup, ?_⟩
    intro x hx y hy hxy
    subst hxy
    exact hdisj x (h₁.subset x hx) (h₂.subset x hy)
  subset x hx := by
    rcases List.mem_append.mp hx with hx | hx
    · exact List.mem_append_left _ (h₁.subset x hx)
    · exact List.mem_append_right _ (h₂.subset x hx)
  sent := by
    obtain ⟨new₁, hn₁, hm₁, hb₁⟩ := h₁.sent
    obtain ⟨new₂, hn₂, hm₂, hb₂⟩ := h₂.sent
    refine ⟨new₁ ++ new₂, by rw [hn₂, hn₁, List.append_assoc], by rw [List.map_append, hm₁, hm₂], ?_⟩
    intro b hb
    rcases List.mem_append.mp hb with hb | hb
    · obtain ⟨hlo, hhi, hw, cs, hcs, hl⟩ := hb₁ b hb
      refine ⟨hlo, hhi.trans h₂.clock_le, hw, ?_⟩
      have r₂ := h₂.rows b.serial
      rw [hcs] at r₂
      obtain ⟨cs', hcs', e⟩ := optionRel_some_left r₂
      exact ⟨cs', hcs', e.le_lastNag hhi hl⟩
    · obtain ⟨hlo, hhi, hw, hrow⟩ := hb₂ b hb
      exact ⟨h₁.clock_le.trans hlo, hhi, hw, hrow⟩

theorem quiet_trans (h₁ : Touches [] [] window s s') (h₂ : Touches serials nagged window s' s'') :
    Touches serials nagged window s s'' :=
  h₁.trans h₂ (by simp)

theorem trans_quiet (h₁ : Touches serials nagged window s s') (h₂ : Touches [] [] window s' s'') :
    Touches serials nagged window s s'' := by
  simpa using h₁.trans h₂ (by simp)

/-- A row found at the start of the stretch is found at its end. -/
theorem statusOf_some (h : Touches serials nagged window s s') {serial : String}
    {cs : CertificateStatus} (hcs : s.tables.statusOf serial = some cs) :
    ∃ cs', s'.tables.statusOf serial = some cs' ∧ RowStep s.clock cs cs' := by
  have r := h.rows serial
  rw [hcs] at r
  exact optionRel_some_left r

theorem isSome_statusOf (h : Touches serials nagged window s s') {serial : String}
    (hs : (s.tables.statusOf serial).isSome) : (s'.tables.statusOf serial).isSome := by
  obtain ⟨cs, hcs⟩ := Option.isSome_iff_exists.mp hs
  obtain ⟨cs', hcs', -⟩ := h.statusOf_some hcs
  rw [hcs']
  rfl

/-- A stretch that first appends the nags `new` and then sends nothing more, where each nag of
`new` is recorded by its row at the end. -/
theorem of_append {new : List Nag} (h : Touches [] [] window { s with nags := s.nags ++ new } s')
    (hnew : new.map (·.serial) = nagged) (hnodup : nagged.Nodup) (hsub : ∀ x ∈ nagged, x ∈ serials)
    (hb : ∀ b ∈ new, s.clock ≤ b.sentAt ∧ b.sentAt ≤ s'.clock ∧ b.window = window ∧
      ∃ cs, s'.tables.statusOf b.serial = some cs ∧ b.sentAt ≤ cs.lastExpirationNagSent) :
    Touches serials nagged window s s' where
  clock_le := h.clock_le
  certificates := h.certificates
  keys := h.keys
  rows := h.rows
  nodup := hnodup
  subset := hsub
  sent := by
    obtain ⟨new', hn', hm', -⟩ := h.sent
    have hnil : new' = [] := List.map_eq_nil_iff.mp hm'
    rw [hnil, List.append_nil] at hn'
    exact ⟨new, hn', hnew, hb⟩

end Touches

section Pieces

variable (m : Mailer) (env : RunEnv) (window : Time)

@[simp] theorem readClock_fst (s : MailerState) : (s.readClock env).1 = s.clock + env.tick s.reads :=
  rfl

@[simp] theorem readClock_clock (s : MailerState) :
    (s.readClock env).2.clock = s.clock + env.tick s.reads := rfl

@[simp] theorem readClock_tables (s : MailerState) : (s.readClock env).2.tables = s.tables := rfl

@[simp] theorem readClock_certificates (s : MailerState) :
    (s.readClock env).2.certificates = s.certificates := rfl

@[simp] theorem readClock_nags (s : MailerState) : (s.readClock env).2.nags = s.nags := rfl

theorem touches_readClock (s : MailerState) : Touches [] [] window s (s.readClock env).2 :=
  Touches.quiet [] window (by simp) rfl rfl (fun _ => rel_rowStep_refl s.clock _) rfl

theorem touches_readings : ∀ (n : ℕ) (s : MailerState), Touches [] [] window s (s.readings env n)
  | 0, s => Touches.refl [] window s
  | n + 1, s => (touches_readClock env window s).quiet_trans (touches_readings n _)

theorem statusOf_updateCertStatus_self (s : MailerState) (serial : String) :
    (updateCertStatus env s serial).tables.statusOf serial = (s.tables.statusOf serial).map
      fun cs => { cs with lastExpirationNagSent := s.clock + env.tick s.reads } :=
  statusOf_updateStatus_self serial
    (f := fun cs => { cs with lastExpirationNagSent := s.clock + env.tick s.reads }) (fun _ => rfl)
    s.tables

theorem touches_updateCertStatus (s : MailerState) (serial : String) :
    Touches [] [] window s (updateCertStatus env s serial) := by
  have hclock : s.clock ≤ s.clock + env.tick s.reads := by simp
  have hf : ∀ cs : CertificateStatus,
      ({ cs with lastExpirationNagSent := s.clock + env.tick s.reads } : CertificateStatus).serial =
        cs.serial := fun _ => rfl
  refine Touches.quiet [] window hclock rfl
    (map_serial_updateRows serial hf s.tables.certificateStatus) (fun x => ?_) rfl
  show Option.Rel (RowStep s.clock) (s.tables.statusOf x)
    ((s.tables.updateStatus serial _).statusOf x)
  rw [statusOf_updateStatus serial hf]
  cases s.tables.statusOf x with
  | none => exact .none
  | some cs =>
    refine .some ?_
    split
    · exact ⟨rfl, .inr hclock⟩
    · exact RowStep.refl _ cs

/-- The loop that marks the certificates of a sent nag. -/
theorem touches_updates : ∀ (certs : List Certificate) (s : MailerState),
    Touches [] [] window s (certs.foldl (fun s cert => updateCertStatus env s cert.serial) s)
  | [], s => Touches.refl [] window s
  | c :: certs, s =>
    (touches_updateCertStatus env window s c.serial).quiet_trans (touches_updates certs _)

/-- After the loop, the row of each certificate it marked records a reading no earlier than the
clock at its start. -/
theorem updates_mark : ∀ (certs : List Certificate) (s : MailerState), ∀ c ∈ certs,
    (s.tables.statusOf c.serial).isSome → ∃ cs,
      (certs.foldl (fun s cert => updateCertStatus env s cert.serial) s).tables.statusOf c.serial =
        some cs ∧ s.clock ≤ cs.lastExpirationNagSent
  | [], _, c, hc, _ => absurd hc List.not_mem_nil
  | c₀ :: certs, s, c, hc, hs => by
    have hq := touches_updateCertStatus env 0 s c₀.serial
    rw [List.foldl_cons]
    by_cases hrest : c ∈ certs
    · obtain ⟨cs, hcs, hle⟩ := updates_mark certs _ c hrest (hq.isSome_statusOf hs)
      exact ⟨cs, hcs, hq.clock_le.trans hle⟩
    · have hc₀ : c = c₀ := (List.mem_cons.mp hc).resolve_right hrest
      subst hc₀
      obtain ⟨cs, hcs⟩ := Option.isSome_iff_exists.mp hs
      have hself := statusOf_updateCertStatus_self env s c.serial
      rw [hcs, Option.map_some] at hself
      have hrest' := touches_updates env 0 certs (updateCertStatus env s c.serial)
      obtain ⟨cs', hcs', hstep⟩ := hrest'.statusOf_some hself
      exact ⟨cs', hcs', hstep.le_lastNag (hq.clock_le) (by simp)⟩

/-- The renewal loop only marks rows, and keeps some of the certificates, in order. -/
theorem checkRenewals_touches : ∀ (certs : List Certificate) (s : MailerState),
    Touches [] [] window s (checkRenewals env certs s).2 ∧
      (checkRenewals env certs s).1.Sublist certs
  | [], s => ⟨Touches.refl [] window s, List.Sublist.slnil⟩
  | cert :: certs, s => by
    rw [checkRenewals]
    split
    · obtain ⟨h, hsub⟩ := checkRenewals_touches certs s
      exact ⟨h, hsub.cons cert⟩
    · split
      · obtain ⟨h, hsub⟩ := checkRenewals_touches certs (updateCertStatus env s cert.serial)
        exact ⟨(touches_updateCertStatus env window s cert.serial).quiet_trans h, hsub.cons cert⟩
      · obtain ⟨h, hsub⟩ := checkRenewals_touches certs s
        exact ⟨h, hsub.cons_cons cert⟩

/-- A failed `sendNags` only read the clock. -/
theorem sendNags_false {w : ℕ} {regID : ℤ} {contacts : List String} {certs : List Certificate}
    {s s' : MailerState} (h : sendNags m env w window regID contacts certs s = (false, s')) :
    Touches [] [] window s s' := by
  unfold sendNags at h
  dsimp only [MailerState.readClock] at h
  split_ifs at h with hcerts hemails hsend
  · cases h
    exact Touches.refl [] window s
  · cases h
  · cases h
  · cases h
    exact (touches_readings env window _ s).quiet_trans (touches_readClock env window _)

/-- A nag sent at the clock's reading, then the loop that marks its certificates: the nag names
each certificate once, and every row then records a reading no earlier. -/
theorem touches_logNags_then_mark (s : MailerState) {certs : List Certificate}
    (hnodup : (certs.map (·.serial)).Nodup)
    (hrows : ∀ c ∈ certs, (s.tables.statusOf c.serial).isSome) :
    Touches (certs.map (·.serial)) (certs.map (·.serial)) window s
      (certs.foldl (fun s cert => updateCertStatus env s cert.serial)
        ((s.logNags certs s.clock window).readClock env).2) := by
  set s₁ := ((s.logNags certs s.clock window).readClock env).2 with hs₁
  have hq : Touches [] [] window (s.logNags certs s.clock window)
      (certs.foldl (fun s cert => updateCertStatus env s cert.serial) s₁) :=
    (touches_readClock env window _).quiet_trans (touches_updates env window certs s₁)
  refine Touches.of_append hq (by simp [Function.comp_def]) hnodup (fun _ hx => hx) ?_
  intro b hb
  obtain ⟨c, hc, rfl⟩ := List.mem_map.mp hb
  obtain ⟨cs, hcs, hle⟩ := updates_mark env certs s₁ c hc (hrows c hc)
  exact ⟨le_rfl, hq.clock_le, rfl, cs, hcs, le_trans (by simp [hs₁, MailerState.logNags]) hle⟩

/-- A `sendNags` that returned nil, followed by the loop that marks its certificates. -/
theorem sendNags_true {w : ℕ} {regID : ℤ} {contacts : List String} {certs : List Certificate}
    {s s₁ : MailerState} (h : sendNags m env w window regID contacts certs s = (true, s₁))
    (hnodup : (certs.map (·.serial)).Nodup)
    (hrows : ∀ c ∈ certs, (s.tables.statusOf c.serial).isSome) :
    ∃ nagged, Touches (certs.map (·.serial)) nagged window s
      (certs.foldl (fun s cert => updateCertStatus env s cert.serial) s₁) := by
  unfold sendNags at h
  split_ifs at h with hcerts hemails hsend
  · cases h
  · cases h
    exact ⟨[], (touches_updates env window certs s).mono (by simp)⟩
  · cases h
    have hq := (touches_readings env window (certs.length + 1) s).quiet_trans
      (touches_readClock env window _)
    exact ⟨_, hq.quiet_trans (touches_logNags_then_mark env window _ hnodup
      (fun c hc => hq.isSome_statusOf (hrows c hc)))⟩
  · cases h

/-- One account's turn in `processCerts`. -/
theorem processRegistration_touches {w : ℕ} {regID : ℤ} {certs : List Certificate}
    {s : MailerState} (hnodup : (certs.map (·.serial)).Nodup)
    (hrows : ∀ c ∈ certs, (s.tables.statusOf c.serial).isSome) :
    ∃ nagged, Touches (certs.map (·.serial)) nagged window s
      (processRegistration m env w window regID certs s) := by
  unfold processRegistration
  split
  · exact ⟨[], Touches.refl _ window s⟩
  · obtain ⟨hq, hsub⟩ := checkRenewals_touches env window certs s
    rcases hcr : checkRenewals env certs s with ⟨parsed, s₁⟩
    rw [hcr] at hq hsub
    have hquiet : ∃ nagged, Touches (certs.map (·.serial)) nagged window s s₁ :=
      ⟨[], hq.mono (by simp)⟩
    dsimp only
    split
    · exact hquiet
    · split
      · exact hquiet
      · have hsub' := hsub.map (·.serial)
        rcases hsend : sendNags m env w window regID _ parsed s₁ with ⟨_ | _, s₂⟩
        · exact ⟨[], (hq.trans_quiet (sendNags_false m env window hsend)).mono (by simp)⟩
        · obtain ⟨nagged, h⟩ := sendNags_true m env window hsend (hsub'.nodup hnodup)
            (fun c hc => hq.isSome_statusOf (hrows c (hsub.subset hc)))
          exact ⟨nagged, (hq.quiet_trans h).mono fun x hx => hsub'.subset hx⟩

/-- With distinct serials, two accounts' certificates have no serial in common. -/
theorem groups_disjoint {allCerts : List Certificate} (hnodup : (allCerts.map (·.serial)).Nodup)
    {r : ℤ} {R : List ℤ} (hr : r ∉ R) :
    ∀ x ∈ (allCerts.filter (·.registrationID = r)).map (·.serial),
      x ∉ R.flatMap fun r' => (allCerts.filter (·.registrationID = r')).map (·.serial) := by
  intro x hx hx'
  obtain ⟨c₁, hc₁, rfl⟩ := List.mem_map.mp hx
  obtain ⟨r', hr', hx''⟩ := List.mem_flatMap.mp hx'
  obtain ⟨c₂, hc₂, he⟩ := List.mem_map.mp hx''
  obtain ⟨hc₁m, hc₁r⟩ := List.mem_filter.mp hc₁
  obtain ⟨hc₂m, hc₂r⟩ := List.mem_filter.mp hc₂
  have hc : c₂ = c₁ := List.inj_on_of_nodup_map hnodup hc₂m hc₁m he
  subst hc
  have hrr : r' = r := (of_decide_eq_true hc₂r).symm.trans (of_decide_eq_true hc₁r)
  exact hr (hrr ▸ hr')

/-- The loop of `processCerts` over accounts, each visited once. -/
theorem processAccounts_touches {w : ℕ} {allCerts : List Certificate}
    (hnodup : (allCerts.map (·.serial)).Nodup) :
    ∀ (R : List ℤ) (s : MailerState), R.Nodup →
      (∀ c ∈ allCerts, (s.tables.statusOf c.serial).isSome) →
      ∃ nagged, Touches (R.flatMap fun r => (allCerts.filter (·.registrationID = r)).map (·.serial))
        nagged window s (R.foldl (fun s regID => processRegistration m env w window regID
          (allCerts.filter (·.registrationID = regID)) s) s)
  | [], s, _, _ => ⟨[], Touches.refl _ window s⟩
  | r :: R, s, hR, hrows => by
    obtain ⟨hr, hR'⟩ := List.nodup_cons.mp hR
    have hgroup : (allCerts.filter (·.registrationID = r)).Sublist allCerts := List.filter_sublist
    obtain ⟨n₁, h₁⟩ := processRegistration_touches m env window ((hgroup.map _).nodup hnodup)
      (fun c hc => hrows c (hgroup.subset hc))
    obtain ⟨n₂, h₂⟩ := processAccounts_touches hnodup R _ hR'
      (fun c hc => h₁.isSome_statusOf (hrows c hc))
    rw [List.foldl_cons, List.flatMap_cons]
    exact ⟨n₁ ++ n₂, h₁.trans h₂ (groups_disjoint hnodup hr)⟩

/-- `processCerts` on certificates of distinct serials, each with a status row. -/
theorem processCerts_touches {w : ℕ} {allCerts : List Certificate} {s : MailerState}
    (hnodup : (allCerts.map (·.serial)).Nodup)
    (hrows : ∀ c ∈ allCerts, (s.tables.statusOf c.serial).isSome) :
    ∃ nagged, Touches (allCerts.map (·.serial)) nagged window s
      (processCerts m env w window allCerts s) := by
  unfold processCerts
  split
  · exact ⟨[], Touches.refl _ window s⟩
  · have hR : (env.regOrder (allCerts.map (·.registrationID)).dedup).Nodup :=
      (env.regOrder_perm _).nodup_iff.mpr (List.nodup_dedup _)
    obtain ⟨nagged, h⟩ := processAccounts_touches m env window hnodup _ s hR hrows
    refine ⟨nagged, h.mono fun x hx => ?_⟩
    obtain ⟨r, -, hx'⟩ := List.mem_flatMap.mp hx
    exact (List.filter_sublist.map _).subset hx'

end Pieces

/-! ## What a window's query selects -/

section Select

variable (m : Mailer) (env : RunEnv)

theorem expiringWhere_eq_true {left right cutoff : Time} {cs : CertificateStatus} :
    expiringWhere left right cutoff cs = true ↔
      left < cs.notAfter ∧ cs.notAfter ≤ right ∧ cs.status ≠ .revoked ∧
        (cs.lastExpirationNagSent = zeroTime ∨
          cutoff < cs.notAfter - cs.lastExpirationNagSent) := by
  simp [expiringWhere, and_assoc]

/-- The serials a window's query returns are distinct, the table's being so. -/
theorem nodup_expiringSerials {w : ℕ} {left right cutoff : Time} {s : MailerState}
    (hkeys : s.tables.KeysUnique) : (expiringSerials m env w left right cutoff s).Nodup := by
  unfold expiringSerials
  have hfilter : ((s.tables.certificateStatus.filter (expiringWhere left right cutoff)).map
      (·.serial)).Nodup := (List.filter_sublist.map _).nodup hkeys
  have hordered := ((env.order_sorted w _).1.map (·.serial)).nodup_iff.mpr hfilter
  exact ((List.take_sublist m.limit _).map fun cs : CertificateStatus => cs.serial).nodup hordered

/-- Each serial a window's query returns is the key of a row that the `WHERE` clause
selects. -/
theorem mem_expiringSerials {w : ℕ} {left right cutoff : Time} {s : MailerState}
    (hkeys : s.tables.KeysUnique) {x : String}
    (hx : x ∈ expiringSerials m env w left right cutoff s) :
    ∃ cs, s.tables.statusOf x = some cs ∧ expiringWhere left right cutoff cs = true := by
  unfold expiringSerials at hx
  obtain ⟨cs, hcs, rfl⟩ := List.mem_map.mp hx
  have hcs' := (env.order_sorted w _).1.subset (List.mem_of_mem_take hcs)
  obtain ⟨hmem, hwhere⟩ := List.mem_filter.mp hcs'
  exact ⟨cs, find?_key_of_mem hkeys hmem, hwhere⟩

end Select

/-! ## The invariant of runs -/

/-- What holds between two windows of a run and between two requests: the status table keeps
its key, the clock has been read after the zero time, every nag sent is recorded by its row, no
later than the row's last nag and within its window of `notAfter`; and each nag was sent more
than its nag time before `notAfter` after any earlier nag of the same certificate. -/
structure NagInv (ns : List Time) (s : MailerState) : Prop where
  keys : s.tables.KeysUnique
  clock_pos : zeroTime < s.clock
  sent : ∀ a ∈ s.nags, zeroTime < a.sentAt ∧ a.sentAt ≤ s.clock ∧ a.window ∈ ns ∧
    ∃ cs, s.tables.statusOf a.serial = some cs ∧ a.sentAt ≤ cs.lastExpirationNagSent ∧
      cs.notAfter - a.sentAt ≤ a.window
  apart : s.nags.Pairwise fun a b => a.serial = b.serial →
    ∀ cs, s.tables.statusOf a.serial = some cs → b.window < cs.notAfter - a.sentAt

/-- What a whole run keeps: the clock goes forward, no row changes status, and every nag sent
names a certificate whose row was not revoked when the run started. -/
structure RunFrame (s s' : MailerState) : Prop where
  clock_le : s.clock ≤ s'.clock
  status : ∀ serial, (s'.tables.statusOf serial).map (·.status) =
    (s.tables.statusOf serial).map (·.status)
  sent : ∃ new, s'.nags = s.nags ++ new ∧
    ∀ b ∈ new, ∃ cs, s.tables.statusOf b.serial = some cs ∧ cs.status ≠ .revoked

theorem RunFrame.refl (s : MailerState) : RunFrame s s :=
  ⟨le_rfl, fun _ => rfl, ⟨[], by rw [List.append_nil], by simp⟩⟩

theorem RunFrame.trans {s s' s'' : MailerState} (h₁ : RunFrame s s') (h₂ : RunFrame s' s'') :
    RunFrame s s'' where
  clock_le := h₁.clock_le.trans h₂.clock_le
  status serial := (h₂.status serial).trans (h₁.status serial)
  sent := by
    obtain ⟨new₁, hn₁, hb₁⟩ := h₁.sent
    obtain ⟨new₂, hn₂, hb₂⟩ := h₂.sent
    refine ⟨new₁ ++ new₂, by rw [hn₂, hn₁, List.append_assoc], fun b hb => ?_⟩
    rcases List.mem_append.mp hb with hb | hb
    · exact hb₁ b hb
    · obtain ⟨cs', hcs', hst⟩ := hb₂ b hb
      have hmap := h₁.status b.serial
      rw [hcs', Option.map_some] at hmap
      obtain ⟨cs, hcs, he⟩ := Option.map_eq_some_iff.mp hmap.symm
      exact ⟨cs, hcs, he ▸ hst⟩

namespace Touches

variable {serials nagged : List String} {window : Time} {s s' : MailerState}

/-- A row keeps its expiry over the stretch. -/
theorem notAfter_eq (h : Touches serials nagged window s s') {x : String}
    {cs cs' : CertificateStatus} (hcs : s.tables.statusOf x = some cs)
    (hcs' : s'.tables.statusOf x = some cs') : cs'.notAfter = cs.notAfter := by
  obtain ⟨cs'', hcs'', hstep⟩ := h.statusOf_some hcs
  rw [hcs'] at hcs''
  cases hcs''
  exact hstep.notAfter

/-- A stretch whose serials had rows that were not revoked keeps the run's frame. -/
theorem runFrame (h : Touches serials nagged window s s')
    (hsel : ∀ x ∈ serials, ∃ cs, s.tables.statusOf x = some cs ∧ cs.status ≠ .revoked) :
    RunFrame s s' where
  clock_le := h.clock_le
  status serial := rel_rowStep_map (fun _ _ e => e.status) (h.rows serial)
  sent := by
    obtain ⟨new, hnags, hmap, -⟩ := h.sent
    refine ⟨new, hnags, fun b hb => hsel b.serial (h.subset _ ?_)⟩
    rw [← hmap]
    exact List.mem_map_of_mem hb

end Touches

/-- **Step of a window.** A stretch of a run keeps the invariant when every serial it may nag
about was selected, at its start, by the query of a window of the mailer: `notAfter` at most
`now + window`, and a last nag, if any, more than `window` before `notAfter`. -/
theorem NagInv.touches {ns : List Time} {serials nagged : List String} {window now : Time}
    {s s' : MailerState} (hinv : NagInv ns s) (h : Touches serials nagged window s s')
    (hnow : now ≤ s.clock)
    (hsel : ∀ x ∈ serials, window ∈ ns ∧ ∃ cs, s.tables.statusOf x = some cs ∧
      cs.notAfter ≤ now + window ∧
        (cs.lastExpirationNagSent = zeroTime ∨ window < cs.notAfter - cs.lastExpirationNagSent)) :
    NagInv ns s' := by
  obtain ⟨new, hnags, hmap, hnew⟩ := h.sent
  have hsel' : ∀ b ∈ new, window ∈ ns ∧ ∃ cs, s.tables.statusOf b.serial = some cs ∧
      cs.notAfter ≤ now + window ∧
        (cs.lastExpirationNagSent = zeroTime ∨ window < cs.notAfter - cs.lastExpirationNagSent) :=
    fun b hb => hsel b.serial (h.subset _ (hmap ▸ List.mem_map_of_mem hb))
  have hkeys : s'.tables.KeysUnique := by
    unfold CertTables.KeysUnique
    rw [h.keys]
    exact hinv.keys
  refine ⟨hkeys, hinv.clock_pos.trans_le h.clock_le, ?_, ?_⟩
  · intro a ha
    rw [hnags] at ha
    rcases List.mem_append.mp ha with ha | hb
    · obtain ⟨h0, hle, hwin, cs, hcs, hl, hna⟩ := hinv.sent a ha
      obtain ⟨cs', hcs', hstep⟩ := h.statusOf_some hcs
      exact ⟨h0, hle.trans h.clock_le, hwin, cs', hcs', hstep.le_lastNag hle hl,
        by rw [hstep.notAfter]; exact hna⟩
    · obtain ⟨hlo, hhi, hwb, cs', hcs', hl'⟩ := hnew a hb
      obtain ⟨hw, cs, hcs, hna, -⟩ := hsel' a hb
      have he := h.notAfter_eq hcs hcs'
      refine ⟨hinv.clock_pos.trans_le hlo, hhi, hwb ▸ hw, cs', hcs', hl', ?_⟩
      rw [he, hwb]
      -- `Time` is `ℤ`, which `omega` sees once the abbreviation is unfolded
      unfold Time at *
      omega
  · rw [hnags]
    refine List.pairwise_append.mpr ⟨?_, ?_, ?_⟩
    · refine hinv.apart.imp_of_mem fun {a b} ha _ hab hser cs' hcs' => ?_
      obtain ⟨-, -, -, cs, hcs, -, -⟩ := hinv.sent a ha
      rw [h.notAfter_eq hcs hcs']
      exact hab hser cs hcs
    · have hne : new.Pairwise fun a b => a.serial ≠ b.serial :=
        List.pairwise_map.mp (hmap ▸ h.nodup)
      exact hne.imp fun hab hser => absurd hser hab
    · intro a ha b hb hser cs' hcs'
      obtain ⟨h0, -, -, cs, hcs, hl, -⟩ := hinv.sent a ha
      obtain ⟨-, -, hwb, -⟩ := hnew b hb
      obtain ⟨-, csb, hcsb, -, hcut⟩ := hsel' b hb
      rw [← hser, hcs] at hcsb
      cases hcsb
      have hpos : cs.lastExpirationNagSent ≠ zeroTime := (h0.trans_le hl).ne'
      have hlt := hcut.resolve_left hpos
      rw [h.notAfter_eq hcs hcs', hwb]
      unfold Time at *
      omega

/-- A stretch that sends nothing keeps the invariant. -/
theorem NagInv.quiet {ns : List Time} {window : Time} {s s' : MailerState} (hinv : NagInv ns s)
    (h : Touches [] [] window s s') : NagInv ns s' :=
  hinv.touches h le_rfl (by simp)

/-! ## Windows and runs -/

section Loop

variable (m : Mailer) (env : RunEnv)

/-- **The loop over windows.** Window after window, `findExpiring` keeps the invariant and the
run's frame: each window hands `processCerts` certificates of distinct serials whose rows its
query selected. -/
theorem findExpiring_inv (now : Time) :
    ∀ (rest : List Time) (w : ℕ) (prev : Time) (s : MailerState), (∀ n ∈ rest, n ∈ m.nagTimes) →
      NagInv m.nagTimes s → now ≤ s.clock →
      NagInv m.nagTimes (findExpiring m env now w prev rest s) ∧
        RunFrame s (findExpiring m env now w prev rest s)
  | [], _, _, s, _, hinv, _ => ⟨hinv, RunFrame.refl s⟩
  | expiresIn :: rest, w, prev, s, hrest, hinv, hnow => by
    have hw : expiresIn ∈ m.nagTimes := hrest expiresIn List.mem_cons_self
    have hrest' : ∀ n ∈ rest, n ∈ m.nagTimes := fun n hn => hrest n (List.mem_cons_of_mem _ hn)
    rw [findExpiring]
    split
    · exact ⟨hinv, RunFrame.refl s⟩
    · rename_i certs hcerts
      have hmap : certs.map (·.serial) =
          expiringSerials m env w (now + prev) (now + expiresIn) expiresIn s :=
        map_key_of_mapM_find? hcerts
      have hsel : ∀ x ∈ certs.map (·.serial), ∃ cs, s.tables.statusOf x = some cs ∧
          expiringWhere (now + prev) (now + expiresIn) expiresIn cs = true :=
        fun x hx => mem_expiringSerials m env hinv.keys (hmap ▸ hx)
      have hnodup : (certs.map (·.serial)).Nodup := hmap ▸ nodup_expiringSerials m env hinv.keys
      have hrows : ∀ c ∈ certs, (s.tables.statusOf c.serial).isSome := fun c hc => by
        obtain ⟨cs, hcs, -⟩ := hsel c.serial (List.mem_map_of_mem hc)
        rw [hcs]
        rfl
      split
      · exact findExpiring_inv now rest (w + 1) expiresIn s hrest' hinv hnow
      · obtain ⟨nagged, htouch⟩ := processCerts_touches m env expiresIn (w := w) hnodup hrows
        have hinv' := hinv.touches htouch hnow fun x hx => by
          obtain ⟨cs, hcs, hwhere⟩ := hsel x hx
          obtain ⟨-, hna, -, hcut⟩ := expiringWhere_eq_true.mp hwhere
          exact ⟨hw, cs, hcs, hna, hcut⟩
        have hframe := htouch.runFrame fun x hx => by
          obtain ⟨cs, hcs, hwhere⟩ := hsel x hx
          exact ⟨cs, hcs, (expiringWhere_eq_true.mp hwhere).2.2.1⟩
        obtain ⟨hinv'', hframe'⟩ := findExpiring_inv now rest (w + 1) expiresIn _ hrest' hinv'
          (hnow.trans htouch.clock_le)
        exact ⟨hinv'', hframe.trans hframe'⟩

/-- **A run.** `findExpiringCertificates` keeps the invariant and the run's frame. -/
theorem findExpiringCertificates_inv {s : MailerState} (hinv : NagInv m.nagTimes s) :
    NagInv m.nagTimes (findExpiringCertificates m env s) ∧
      RunFrame s (findExpiringCertificates m env s) := by
  have hq := touches_readClock env 0 s
  obtain ⟨hinv', hframe'⟩ := findExpiring_inv m env (s.readClock env).1 m.nagTimes 0 0 _
    (fun _ hn => hn) (hinv.quiet hq) le_rfl
  exact ⟨hinv', (hq.runFrame (by simp)).trans hframe'⟩

end Loop

/-- A change of the status table that keeps its key and every row's last nag and expiry keeps
the invariant. -/
theorem NagInv.of_rows {ns : List Time} {s s' : MailerState} (hinv : NagInv ns s)
    (hkeys : s'.tables.KeysUnique) (hclock : s'.clock = s.clock) (hnags : s'.nags = s.nags)
    (hrows : ∀ x, (s'.tables.statusOf x).map (fun cs => (cs.lastExpirationNagSent, cs.notAfter)) =
      (s.tables.statusOf x).map fun cs => (cs.lastExpirationNagSent, cs.notAfter)) :
    NagInv ns s' := by
  have hrow : ∀ {x cs}, s.tables.statusOf x = some cs → ∃ cs', s'.tables.statusOf x = some cs' ∧
      cs'.lastExpirationNagSent = cs.lastExpirationNagSent ∧ cs'.notAfter = cs.notAfter := by
    intro x cs hcs
    have h := hrows x
    rw [hcs, Option.map_some] at h
    obtain ⟨cs', hcs', he⟩ := Option.map_eq_some_iff.mp h
    exact ⟨cs', hcs', (Prod.mk.inj he).1, (Prod.mk.inj he).2⟩
  refine ⟨hkeys, hclock ▸ hinv.clock_pos, fun a ha => ?_, ?_⟩
  · rw [hnags] at ha
    obtain ⟨h0, hle, hwin, cs, hcs, hl, hna⟩ := hinv.sent a ha
    obtain ⟨cs', hcs', hl', hna'⟩ := hrow hcs
    exact ⟨h0, hclock ▸ hle, hwin, cs', hcs', hl' ▸ hl, hna' ▸ hna⟩
  · rw [hnags]
    refine hinv.apart.imp_of_mem fun {a b} ha _ hab hser cs' hcs' => ?_
    obtain ⟨-, -, -, cs, hcs, -, -⟩ := hinv.sent a ha
    obtain ⟨cs'', hcs'', -, hna⟩ := hrow hcs
    rw [hcs'] at hcs''
    cases hcs''
    rw [hna]
    exact hab hser cs hcs

/-- The SA's revocation keeps a row's serial. -/
theorem serial_revoked (reasonCode : Reason) (now : Time) (cs : CertificateStatus) :
    ({ cs with status := .revoked, revokedDate := now, revokedReason := reasonCode } :
      CertificateStatus).serial = cs.serial :=
  rfl

/-- The SA's revocation rewrites a row's status, date and reason only. -/
theorem NagInv.revoke {ns : List Time} {s : MailerState} {serial : String} {reasonCode : Reason}
    {now : Time} {t : CertTables} (hinv : NagInv ns s)
    (h : markCertificateRevoked s.tables serial reasonCode now = .ok t) :
    NagInv ns { s with tables := t } := by
  obtain ⟨-, -, -, rfl⟩ := markCertificateRevoked_eq_ok.mp h
  have hf := serial_revoked reasonCode now
  exact hinv.of_rows (keysUnique_updateStatus serial hf hinv.keys) rfl rfl
    (map_statusOf_updateStatus serial hf (fun _ => rfl) s.tables)

/-- A revoked row stays revoked through a revocation. -/
theorem revoked_of_revoke {s : CertTables} {serial x : String} {reasonCode : Reason}
    {now : Time} {t : CertTables} (h : markCertificateRevoked s serial reasonCode now = .ok t)
    (hx : (s.statusOf x).map (·.status) = some .revoked) :
    (t.statusOf x).map (·.status) = some .revoked := by
  obtain ⟨-, -, -, rfl⟩ := markCertificateRevoked_eq_ok.mp h
  have hf := serial_revoked reasonCode now
  rw [statusOf_updateStatus serial hf, Option.map_map]
  obtain ⟨cs, hcs, hst⟩ := Option.map_eq_some_iff.mp hx
  rw [hcs, Option.map_some]
  split <;> simp_all

/-! ## Runs and revocations -/

/-- What happens to the mailer's tables: a run of the mailer, or the SA revoking a
certificate. -/
inductive MailerRequest where
  | run (env : RunEnv)
  | revoke (serial : String) (reasonCode : Reason) (now : Time)

/-- One request; a revocation that fails leaves the tables as they were. -/
def mailerStep (m : Mailer) (s : MailerState) : MailerRequest → MailerState × Unit
  | .run env => (findExpiringCertificates m env s, ())
  | .revoke serial reasonCode now =>
    match markCertificateRevoked s.tables serial reasonCode now with
    | .ok t => ({ s with tables := t }, ())
    | .error _ => (s, ())

/-- Every request keeps the invariant. -/
theorem mailerStep_inv {m : Mailer} {s : MailerState} (hinv : NagInv m.nagTimes s)
    (req : MailerRequest) : NagInv m.nagTimes (mailerStep m s req).1 := by
  cases req with
  | run env => exact (findExpiringCertificates_inv m env hinv).1
  | revoke serial reasonCode now =>
    simp only [mailerStep]
    split
    next t ht => exact hinv.revoke ht
    next => exact hinv

/-- The row of `serial` is revoked, and of the nags logged after the `k`-th none names it. -/
def RevokedSince (serial : String) (k : ℕ) (s : MailerState) : Prop :=
  (s.tables.statusOf serial).map (·.status) = some .revoked ∧ k ≤ s.nags.length ∧
    ∀ b ∈ s.nags.drop k, b.serial ≠ serial

/-- Every request keeps a revoked row revoked and sends it no nag: a run selects no revoked
row, and no request takes a revocation back. -/
theorem mailerStep_revokedSince {m : Mailer} {s : MailerState} {serial : String} {k : ℕ}
    (hinv : NagInv m.nagTimes s) (hP : RevokedSince serial k s) (req : MailerRequest) :
    RevokedSince serial k (mailerStep m s req).1 := by
  obtain ⟨hrev, hk, hdrop⟩ := hP
  cases req with
  | run env =>
    obtain ⟨-, hstatus, new, hnags, hnew⟩ := (findExpiringCertificates_inv m env hinv).2
    refine ⟨(hstatus serial).trans hrev, ?_, ?_⟩
    · show k ≤ (findExpiringCertificates m env s).nags.length
      rw [hnags, List.length_append]
      omega
    · show ∀ b ∈ (findExpiringCertificates m env s).nags.drop k, b.serial ≠ serial
      rw [hnags, List.drop_append_of_le_length hk]
      intro b hb
      rcases List.mem_append.mp hb with hb | hb
      · exact hdrop b hb
      · rintro rfl
        obtain ⟨cs, hcs, hst⟩ := hnew b hb
        rw [hcs, Option.map_some, Option.some.injEq] at hrev
        exact hst hrev
  | revoke serial' reasonCode now =>
    simp only [mailerStep]
    split
    next t ht => exact ⟨revoked_of_revoke ht hrev, hk, hdrop⟩
    next => exact ⟨hrev, hk, hdrop⟩

/-! ## At most one nag per window -/

/-- The lower end of the `i`-th window, as a time before `notAfter`: the nag time before it,
and zero for the first (`left` in `findExpiringCertificates`). -/
def windowLeft (ns : List Time) : ℕ → Time
  | 0 => 0
  | j + 1 => ns.getD j 0

theorem getElem_le_of_pairwise {ns : List Time} (hs : ns.Pairwise (· ≤ ·)) {i j : ℕ}
    (hi : i < ns.length) (hj : j < ns.length) (hij : i ≤ j) : ns[i] ≤ ns[j] := by
  rcases hij.lt_or_eq with h | rfl
  · exact List.pairwise_iff_getElem.mp hs i j hi hj h
  · exact le_rfl

/-- With sorted nag times, two times before `notAfter` that a nag time separates, one at or
below it and the other above, lie in no common window. -/
theorem not_both_in_window {ns : List Time} (hsorted : ns.Pairwise (· ≤ ·)) {n d d' : Time}
    (hn : n ∈ ns) (hd' : d' ≤ n) (hd : n < d) (i : ℕ) (hi : i < ns.length) :
    ¬ (windowLeft ns i < d ∧ d ≤ ns[i] ∧ windowLeft ns i < d' ∧ d' ≤ ns[i]) := by
  rintro ⟨-, hdi, hlo, -⟩
  obtain ⟨j, hj, rfl⟩ := List.getElem_of_mem hn
  have hji : j < i := by
    by_contra hij
    have hle : ns[i] ≤ ns[j] := getElem_le_of_pairwise hsorted hi hj (not_lt.mp hij)
    exact absurd (hd.trans_le hdi) (not_lt.mpr hle)
  obtain ⟨k, rfl⟩ : ∃ k, i = k + 1 := ⟨i - 1, by omega⟩
  have hk : k < ns.length := by omega
  have hleft : windowLeft ns (k + 1) = ns[k] := by
    simp [windowLeft, List.getElem?_eq_getElem hk]
  have hle : ns[j] ≤ ns[k] := getElem_le_of_pairwise hsorted hj hk (by omega)
  rw [hleft] at hlo
  exact absurd (hlo.trans_le hd') (not_lt.mpr hle)

section Schedules

variable {m : Mailer} {init : MailerState}

/-- **Nags are a nag time apart.** In every state a schedule of runs and revocations reaches,
for two nags of one certificate, the later one's window lies at or above `notAfter - t'` of the
later nag and strictly below `notAfter - t` of the earlier one. -/
theorem nags_apart (hinit : NagInv m.nagTimes init) {s : MailerState}
    (hs : Reachable (mailerStep m) init s) :
    s.nags.Pairwise fun a b => a.serial = b.serial → ∀ cs, s.tables.statusOf a.serial = some cs →
      ∃ n ∈ m.nagTimes, cs.notAfter - b.sentAt ≤ n ∧ n < cs.notAfter - a.sentAt := by
  have hinv : NagInv m.nagTimes s := hs.invariant hinit fun _ req h => mailerStep_inv h req
  refine hinv.apart.imp_of_mem fun {a b} _ hb hab hser cs hcs => ?_
  obtain ⟨-, -, hwin, csb, hcsb, -, hna⟩ := hinv.sent b hb
  rw [← hser, hcs] at hcsb
  cases hcsb
  exact ⟨b.window, hwin, hna, hab hser cs hcs⟩

/-- **A revoked certificate is never nagged.** Once a reachable state has the row revoked, no
schedule of runs and revocations from there sends it a nag. -/
theorem revoked_never_nagged (hinit : NagInv m.nagTimes init) {s : MailerState}
    (hs : Reachable (mailerStep m) init s) {serial : String}
    (hrev : (s.tables.statusOf serial).map (·.status) = some .revoked)
    (reqs : List MailerRequest) :
    ∀ b ∈ (final (mailerStep m) s reqs).nags.drop s.nags.length, b.serial ≠ serial :=
  (hs.stable (P := RevokedSince serial s.nags.length) hinit
    (fun _ req h => mailerStep_inv h req) (fun _ req h hP => mailerStep_revokedSince h hP req)
    ⟨hrev, le_rfl, by simp⟩ reqs).2.2

/-- The mailer starts with no nag logged, a status table keyed by serial and a clock past the
zero time. -/
theorem nagInv_init (hkeys : init.tables.KeysUnique) (hclock : zeroTime < init.clock)
    (hnags : init.nags = []) : NagInv m.nagTimes init :=
  ⟨hkeys, hclock, by simp [hnags], by simp [hnags]⟩

end Schedules

/-- **Expiration nags are sent at most once per nag window.** For sorted nag times and any
schedule of mailer runs and revocations: two nags of one certificate, sent at `t` and `t'`, never
have `notAfter - t` and `notAfter - t'` in one window `(nᵢ₋₁, nᵢ]`; and after the row is revoked
no nag names the certificate. -/
theorem expirationNags_once_per_window (m : Mailer) (hsorted : m.nagTimes.Pairwise (· ≤ ·))
    (init : MailerState) (hkeys : init.tables.KeysUnique) (hclock : zeroTime < init.clock)
    (hnags : init.nags = []) (reqs : List MailerRequest) :
    (final (mailerStep m) init reqs).nags.Pairwise (fun a b => a.serial = b.serial →
      ∀ cs, (final (mailerStep m) init reqs).tables.statusOf a.serial = some cs →
        ∀ i (hi : i < m.nagTimes.length),
          ¬ (windowLeft m.nagTimes i < cs.notAfter - a.sentAt ∧
              cs.notAfter - a.sentAt ≤ m.nagTimes[i] ∧
            windowLeft m.nagTimes i < cs.notAfter - b.sentAt ∧
              cs.notAfter - b.sentAt ≤ m.nagTimes[i])) ∧
    ∀ k serial, ((final (mailerStep m) init (reqs.take k)).tables.statusOf serial).map
        (·.status) = some .revoked →
      ∀ b ∈ (final (mailerStep m) init reqs).nags.drop
          (final (mailerStep m) init (reqs.take k)).nags.length, b.serial ≠ serial := by
  have hinit : NagInv m.nagTimes init := nagInv_init hkeys hclock hnags
  refine ⟨?_, fun k serial hrev => ?_⟩
  · refine (nags_apart hinit ⟨reqs, rfl⟩).imp fun hab hser cs hcs i hi hboth => ?_
    obtain ⟨n, hn, hle, hlt⟩ := hab hser cs hcs
    exact not_both_in_window hsorted hn hle hlt i hi hboth
  · have hsplit : final (mailerStep m) init reqs =
        final (mailerStep m) (final (mailerStep m) init (reqs.take k)) (reqs.drop k) := by
      rw [← final_append, List.take_append_drop]
    rw [hsplit]
    exact revoked_never_nagged hinit ⟨reqs.take k, rfl⟩ hrev (reqs.drop k)

/-! ## A schedule -/

/-- Nag times of 10 and 50, as `main` builds them from the configured 49 and 9 with a check
interval of 1; every contact a `mailto:` address. -/
def exampleMailer : Mailer :=
  ⟨nagDurations [49, 9] 1, 100, fun _ => some ("mailto", "admin@example.com")⟩

/-- A run in which every call succeeds, no certificate is renewed, and the clock moves on by
`tick k` at its `k`-th reading. -/
def allSucceed (tick : ℕ → ℕ) : RunEnv where
  order := reorderedOnce (·.notAfter) 0
  order_sorted := orderedBy_reorderedOnce _ 0
  tick := tick
  regOrder := id
  regOrder_perm := fun _ => List.Perm.refl _
  connect := fun _ => true
  registration := fun _ => some (some ["mailto:admin@example.com"])
  parses := fun _ => true
  renewed := fun _ => some false
  sendMail := fun _ _ => true

/-- One good certificate of account 1, expiring at 100, never nagged; the clock reads 60. -/
def exampleState : MailerState :=
  ⟨⟨["00"], [⟨"00", .good, 0, 0, 0, none, 100, false, zeroTime⟩]⟩, [⟨1, "00", [1]⟩], 60, 0, []⟩

/-- Three runs, the clock moving on by one at each reading but by 25 at the start of the third:
the first run nags in the 50 window, the second finds the last nag too recent, and the third
nags in the 10 window. -/
def exampleSchedule : List MailerRequest :=
  [.run (allSucceed fun _ => 1), .run (allSucceed fun _ => 1),
    .run (allSucceed fun k => if k = 7 then 25 else 1)]

example : (final (mailerStep exampleMailer) exampleState exampleSchedule).nags =
    [⟨"00", 64, 50⟩, ⟨"00", 95, 10⟩] := by decide +kernel

/-- The mailer's theorem holds of `exampleSchedule`. -/
theorem expirationNags_once_per_window_example :
    exampleMailer.nagTimes.Pairwise (· ≤ ·) ∧ exampleState.tables.KeysUnique ∧
      zeroTime < exampleState.clock ∧ exampleState.nags = [] ∧
    ((final (mailerStep exampleMailer) exampleState exampleSchedule).nags.Pairwise
      (fun a b => a.serial = b.serial →
        ∀ cs, (final (mailerStep exampleMailer) exampleState exampleSchedule).tables.statusOf
            a.serial = some cs →
          ∀ i (hi : i < exampleMailer.nagTimes.length),
            ¬ (windowLeft exampleMailer.nagTimes i < cs.notAfter - a.sentAt ∧
                cs.notAfter - a.sentAt ≤ exampleMailer.nagTimes[i] ∧
              windowLeft exampleMailer.nagTimes i < cs.notAfter - b.sentAt ∧
                cs.notAfter - b.sentAt ≤ exampleMailer.nagTimes[i])) ∧
      ∀ k serial, ((final (mailerStep exampleMailer) exampleState
          (exampleSchedule.take k)).tables.statusOf serial).map (·.status) = some .revoked →
        ∀ b ∈ (final (mailerStep exampleMailer) exampleState exampleSchedule).nags.drop
            (final (mailerStep exampleMailer) exampleState (exampleSchedule.take k)).nags.length,
          b.serial ≠ serial) :=
  ⟨nagDurations_sorted _ _, List.nodup_singleton _, by decide, rfl,
    expirationNags_once_per_window exampleMailer (nagDurations_sorted _ _) exampleState
      (List.nodup_singleton _) (by decide) rfl exampleSchedule⟩

end Boulder.Cmd
