/-
# Boulder.Nonce -- the anti-replay nonce service at the level of counters

`nonce.NonceService` hands out nonces that encrypt an increasing counter and accepts each
counter at most once. This module models its counter bookkeeping: `Nonce` bumps `latest`,
and `Valid` (after decryption, which is a separate concern) accepts a counter `c` exactly
when `earliest < c ≤ latest` and `c` is not in the `used` set, then records it. When `used`
outgrows `maxUsed` the smallest recorded counter is evicted and becomes the new `earliest`,
so everything at or below `earliest` is refused from then on.

The state is the one the Go struct keeps (`latest`, `earliest`, `used`, `maxUsed`); the
counters are `int64`, modelled as `ℤ` (a run would need `2^63` calls of `Nonce` to reach the
overflow). The main result is the replay guarantee over arbitrary runs: a counter once
accepted is never accepted again, carried by the invariant `Inv` and by the monotonicity
of `earliest`.
-/
import Mathlib.Data.Finset.Fold
import Mathlib.Data.Finset.Card
import Mathlib.Algebra.Order.Group.Int
import Boulder.Lib.Run

namespace Boulder.Nonce

open Boulder.Lib.Run

/-- `MaxUsed` defines the maximum number of nonces the service is willing to hold. -/
def MaxUsed : ℕ := 65536

/-- The counter state of a `NonceService` (the AEAD and the metrics scope are left out). -/
structure NonceService where
  latest : ℤ
  earliest : ℤ
  used : Finset ℤ
  maxUsed : ℕ
  deriving DecidableEq

/-- `NewNonceService`: nothing issued, nothing used. The production bound is `MaxUsed`; the
tests build services with other bounds, so the bound is a parameter. -/
def newNonceService (maxUsed : ℕ) : NonceService :=
  { latest := 0, earliest := 0, used := ∅, maxUsed := maxUsed }

namespace NonceService

/-- `Nonce`: increment `latest` and issue it. -/
def nonce (ns : NonceService) : ℤ × NonceService :=
  (ns.latest + 1, { ns with latest := ns.latest + 1 })

/-- `minUsed`: the lowest key of `used`, scanning from `latest`. -/
def minUsed (ns : NonceService) : ℤ :=
  ns.used.fold min ns.latest id

/-- `Valid`, from the point where the nonce has been decrypted to the counter `c`. -/
def valid (ns : NonceService) (c : ℤ) : Bool × NonceService :=
  if c > ns.latest then (false, ns)
  else if c ≤ ns.earliest then (false, ns)
  else if c ∈ ns.used then (false, ns)
  else
    let ns' := { ns with used := insert c ns.used }
    if ns'.used.card > ns'.maxUsed then
      (true, { ns' with earliest := ns'.minUsed, used := ns'.used.erase ns'.minUsed })
    else (true, ns')

end NonceService

/-! ## The service as a step system -/

/-- The two calls a client of the service can make. -/
inductive Request where
  | nonce
  | valid (c : ℤ)
  deriving DecidableEq

/-- What a call answers: the issued counter, or the verdict of `Valid`. -/
inductive Reply where
  | issued (c : ℤ)
  | checked (ok : Bool)
  deriving DecidableEq

/-- One call, served under the service's mutex. -/
def step (ns : NonceService) : Request → NonceService × Reply
  | .nonce => (ns.nonce.2, .issued ns.nonce.1)
  | .valid c => ((ns.valid c).2, .checked (ns.valid c).1)

namespace NonceService

/-! ## Small facts about each call -/

@[simp] theorem nonce_latest (ns : NonceService) : ns.nonce.2.latest = ns.latest + 1 := rfl
@[simp] theorem nonce_earliest (ns : NonceService) : ns.nonce.2.earliest = ns.earliest := rfl
@[simp] theorem nonce_used (ns : NonceService) : ns.nonce.2.used = ns.used := rfl
@[simp] theorem nonce_maxUsed (ns : NonceService) : ns.nonce.2.maxUsed = ns.maxUsed := rfl

/-- `minUsed` is either the starting value `latest` or one of the used counters. -/
theorem minUsed_eq_or_mem (ns : NonceService) : ns.minUsed = ns.latest ∨ ns.minUsed ∈ ns.used := by
  unfold minUsed
  induction ns.used using Finset.induction_on with
  | empty => simp
  | insert a s ha ih =>
    rw [Finset.fold_insert ha]
    rcases min_choice (id a) (s.fold min ns.latest id) with h | h
    · rw [h]
      exact Or.inr (Finset.mem_insert_self a s)
    · rw [h]
      rcases ih with h' | h'
      · exact Or.inl h'
      · exact Or.inr (Finset.mem_insert_of_mem h')

theorem minUsed_le_latest (ns : NonceService) : ns.minUsed ≤ ns.latest :=
  ((Finset.le_fold_min _).mp le_rfl).1

theorem minUsed_le_of_mem {ns : NonceService} {c : ℤ} (hc : c ∈ ns.used) : ns.minUsed ≤ c :=
  ((Finset.le_fold_min _).mp le_rfl).2 c hc

/-- When `used` is non-empty and bounded by `latest`, the minimum really is a used counter,
so the eviction in `Valid` deletes an entry. -/
theorem minUsed_mem {ns : NonceService} (hne : ns.used.Nonempty)
    (hle : ∀ c ∈ ns.used, c ≤ ns.latest) : ns.minUsed ∈ ns.used := by
  rcases minUsed_eq_or_mem ns with h | h
  · obtain ⟨x, hx⟩ := hne
    have hx_eq : x = ns.latest := le_antisymm (hle x hx) (h ▸ minUsed_le_of_mem hx)
    rw [h, ← hx_eq]
    exact hx
  · exact h

/-- The three ways `Valid` can answer, with the state each leaves. -/
theorem valid_cases (ns : NonceService) (c : ℤ) :
    (ns.valid c = (false, ns) ∧ (ns.latest < c ∨ c ≤ ns.earliest ∨ c ∈ ns.used)) ∨
    (ns.earliest < c ∧ c ≤ ns.latest ∧ c ∉ ns.used ∧
      let ns' := { ns with used := insert c ns.used }
      ((ns'.used.card > ns.maxUsed ∧
          ns.valid c = (true, { ns' with earliest := ns'.minUsed, used := ns'.used.erase ns'.minUsed })) ∨
        (ns'.used.card ≤ ns.maxUsed ∧ ns.valid c = (true, ns')))) := by
  unfold valid
  by_cases h1 : c > ns.latest
  · exact Or.inl ⟨by simp [h1], Or.inl h1⟩
  by_cases h2 : c ≤ ns.earliest
  · exact Or.inl ⟨by simp [h1, h2], Or.inr (Or.inl h2)⟩
  by_cases h3 : c ∈ ns.used
  · exact Or.inl ⟨by simp [h1, h2, h3], Or.inr (Or.inr h3)⟩
  refine Or.inr ⟨lt_of_not_ge h2, le_of_not_gt h1, h3, ?_⟩
  by_cases h4 : (insert c ns.used).card > ns.maxUsed
  · exact Or.inl ⟨h4, by simp only [h1, h2, h3, h4, ↓reduceIte]⟩
  · exact Or.inr ⟨le_of_not_gt h4, by simp only [h1, h2, h3, h4, ↓reduceIte]⟩

@[simp] theorem valid_maxUsed (ns : NonceService) (c : ℤ) :
    (ns.valid c).2.maxUsed = ns.maxUsed := by
  rcases valid_cases ns c with ⟨h, -⟩ | ⟨-, -, -, ⟨-, h⟩ | ⟨-, h⟩⟩ <;> rw [h]

@[simp] theorem valid_latest (ns : NonceService) (c : ℤ) :
    (ns.valid c).2.latest = ns.latest := by
  rcases valid_cases ns c with ⟨h, -⟩ | ⟨-, -, -, ⟨-, h⟩ | ⟨-, h⟩⟩ <;> rw [h]

/-- A counter `Valid` accepts was strictly between `earliest` and `latest` and unused. -/
theorem valid_true {ns : NonceService} {c : ℤ} (h : (ns.valid c).1 = true) :
    ns.earliest < c ∧ c ≤ ns.latest ∧ c ∉ ns.used := by
  rcases valid_cases ns c with ⟨h', -⟩ | ⟨h1, h2, h3, -⟩
  · rw [h'] at h; cases h
  · exact ⟨h1, h2, h3⟩

/-- A counter that is used, or at or below `earliest`, is refused. -/
theorem valid_false_of {ns : NonceService} {c : ℤ} (h : c ∈ ns.used ∨ c ≤ ns.earliest) :
    (ns.valid c).1 = false := by
  cases hv : (ns.valid c).1 with
  | false => rfl
  | true =>
    obtain ⟨h1, -, h3⟩ := valid_true hv
    rcases h with h | h
    · exact absurd h h3
    · exact absurd h1 (not_lt.mpr h)

end NonceService

end Boulder.Nonce

namespace Boulder.Nonce

open Boulder.Lib.Run

namespace NonceService

/-! ## The invariant -/

/-- The bookkeeping invariant: every used counter lies in `(earliest, latest]`, `earliest` has
not overtaken `latest`, and `used` respects its bound. -/
structure Inv (ns : NonceService) : Prop where
  used_gt : ∀ c ∈ ns.used, ns.earliest < c
  used_le : ∀ c ∈ ns.used, c ≤ ns.latest
  earliest_le : ns.earliest ≤ ns.latest
  card_le : ns.used.card ≤ ns.maxUsed

theorem inv_newNonceService (maxUsed : ℕ) : Inv (newNonceService maxUsed) where
  used_gt := by simp [newNonceService]
  used_le := by simp [newNonceService]
  earliest_le := le_rfl
  card_le := by simp [newNonceService]

theorem nonce_inv {ns : NonceService} (h : Inv ns) : Inv ns.nonce.2 where
  used_gt := by simpa using h.used_gt
  used_le := fun c hc => by have := h.used_le c hc; simp; omega
  earliest_le := by have := h.earliest_le; simp; omega
  card_le := by simpa using h.card_le

/-- The counters `Valid` keeps after accepting `c` are bounded by `latest`. -/
theorem insert_le_latest {ns : NonceService} {c : ℤ} (h : Inv ns) (hc : c ≤ ns.latest) :
    ∀ x ∈ insert c ns.used, x ≤ ns.latest := by
  intro x hx
  rcases Finset.mem_insert.mp hx with rfl | hx
  · exact hc
  · exact h.used_le x hx

/-- The eviction branch of `Valid`: `earliest` becomes the minimum `m` of `insert c used`,
which is one of its elements, is at least the old `earliest`, and leaves `used` minus `m`. -/
theorem evict_spec {ns : NonceService} {c : ℤ} (h : Inv ns) (h1 : ns.earliest < c)
    (h2 : c ≤ ns.latest) :
    let ns' : NonceService := { ns with used := insert c ns.used }
    ns'.minUsed ∈ insert c ns.used ∧ ns.earliest ≤ ns'.minUsed ∧ ns'.minUsed ≤ ns.latest ∧
      ∀ x ∈ insert c ns.used, ns'.minUsed ≤ x := by
  intro ns'
  have hle := insert_le_latest h h2
  refine ⟨@minUsed_mem ns' ⟨c, Finset.mem_insert_self c _⟩ hle, ?_,
    minUsed_le_latest ns', fun x hx => @minUsed_le_of_mem ns' x hx⟩
  refine (Finset.le_fold_min _).mpr ⟨h.earliest_le, fun x hx => ?_⟩
  rcases Finset.mem_insert.mp hx with rfl | hx
  · exact h1.le
  · exact (h.used_gt x hx).le

theorem valid_inv {ns : NonceService} (h : Inv ns) (c : ℤ) : Inv (ns.valid c).2 := by
  rcases valid_cases ns c with ⟨hv, -⟩ | ⟨h1, h2, h3, ⟨hcard, hv⟩ | ⟨hcard, hv⟩⟩
  · rw [hv]; exact h
  · rw [hv]
    obtain ⟨hmem, -, hmle, hmin⟩ := evict_spec h h1 h2
    have hle := insert_le_latest h h2
    refine ⟨fun x hx => ?_, fun x hx => hle x (Finset.mem_of_mem_erase hx), hmle, ?_⟩
    · obtain ⟨hne, hx⟩ := Finset.mem_erase.mp hx
      exact lt_of_le_of_ne (hmin x hx) (Ne.symm hne)
    · have hcard_erase := Finset.card_erase_of_mem hmem
      have hins := Finset.card_insert_of_notMem h3
      have := h.card_le
      simp only at hcard ⊢
      omega
  · rw [hv]
    refine ⟨fun x hx => ?_, insert_le_latest h h2, h.earliest_le, hcard⟩
    rcases Finset.mem_insert.mp hx with rfl | hx
    · exact h1
    · exact h.used_gt x hx

theorem step_inv {ns : NonceService} (h : Inv ns) : ∀ r, Inv (step ns r).1
  | .nonce => nonce_inv h
  | .valid c => valid_inv h c

/-- Every state a run of the service reaches satisfies the invariant. -/
theorem reachable_inv {maxUsed : ℕ} {ns : NonceService}
    (h : Reachable step (newNonceService maxUsed) ns) : Inv ns :=
  h.invariant (inv_newNonceService maxUsed) (fun _ r hs => step_inv hs r)

/-! ## `earliest` only grows, and accepted counters stay refused -/

theorem earliest_le_step {ns : NonceService} (h : Inv ns) :
    ∀ r, ns.earliest ≤ (step ns r).1.earliest
  | .nonce => le_rfl
  | .valid c => by
    rcases valid_cases ns c with ⟨hv, -⟩ | ⟨h1, h2, -, ⟨-, hv⟩ | ⟨-, hv⟩⟩
    · simp only [step, hv, le_refl]
    · simp only [step, hv]
      exact (evict_spec h h1 h2).2.1
    · simp only [step, hv, le_refl]

/-- A counter is *spent* when it is recorded as used or lies at or below `earliest`: exactly
the counters `Valid` refuses without looking at `latest`. -/
def Spent (ns : NonceService) (c : ℤ) : Prop := c ∈ ns.used ∨ c ≤ ns.earliest

/-- A counter just accepted by `Valid` is spent in the state `Valid` leaves, whether or not
that call evicted it. -/
theorem spent_of_valid {ns : NonceService} {c : ℤ} (h : Inv ns) (hacc : (ns.valid c).1 = true) :
    Spent (ns.valid c).2 c := by
  rcases valid_cases ns c with ⟨hv, -⟩ | ⟨h1, h2, -, ⟨-, hv⟩ | ⟨-, hv⟩⟩
  · rw [hv] at hacc; cases hacc
  · rw [hv]
    obtain ⟨-, -, -, hmin⟩ := evict_spec h h1 h2
    by_cases hc : c = ({ ns with used := insert c ns.used } : NonceService).minUsed
    · exact Or.inr hc.le
    · exact Or.inl (Finset.mem_erase.mpr ⟨hc, Finset.mem_insert_self c _⟩)
  · rw [hv]
    exact Or.inl (Finset.mem_insert_self c _)

/-- Being spent survives every call. -/
theorem spent_step {ns : NonceService} {c : ℤ} (h : Inv ns) (hs : Spent ns c) :
    ∀ r, Spent (step ns r).1 c
  | .nonce => hs
  | .valid d => by
    have hmono := earliest_le_step h (.valid d)
    rcases valid_cases ns d with ⟨hv, -⟩ | ⟨h1, h2, -, ⟨-, hv⟩ | ⟨-, hv⟩⟩
    · simpa only [step, hv] using hs
    · simp only [step, hv] at hmono ⊢
      by_cases hc : c = ({ ns with used := insert d ns.used } : NonceService).minUsed
      · exact Or.inr hc.le
      · rcases hs with hs | hs
        · exact Or.inl (Finset.mem_erase.mpr ⟨hc, Finset.mem_insert_of_mem hs⟩)
        · exact Or.inr (hs.trans hmono)
    · simp only [step, hv]
      rcases hs with hs | hs
      · exact Or.inl (Finset.mem_insert_of_mem hs)
      · exact Or.inr hs

end NonceService

/-! ## Replay protection over whole runs -/

open NonceService in
/-- Replay protection of the nonce service over arbitrary runs of `Nonce` and `Valid` calls,
from the initial state and for any bound `maxUsed`: every reachable state satisfies the
invariant `Inv`; a counter that `Valid` accepts in a reachable state remains spent (in `used`
or at most `earliest`) after any later run, and every later `Valid` of it answers `false`; and
`earliest` never decreases along a run. -/
theorem nonce_replay_protection (maxUsed : ℕ) :
    (∀ ns, Reachable step (newNonceService maxUsed) ns → Inv ns) ∧
    (∀ ns c, Reachable step (newNonceService maxUsed) ns → (ns.valid c).1 = true →
      ∀ as : List Request,
        Spent (final step (ns.valid c).2 as) c ∧
        ((final step (ns.valid c).2 as).valid c).1 = false) ∧
    (∀ ns, Reachable step (newNonceService maxUsed) ns →
      ∀ as : List Request, ns.earliest ≤ (final step ns as).earliest) := by
  refine ⟨fun ns h => reachable_inv h, ?_, ?_⟩
  · intro ns c h hacc as
    have hI : Inv ns := reachable_inv h
    have hreach' : Reachable step (newNonceService maxUsed) (ns.valid c).2 := h.next (.valid c)
    have hspent : Spent (final step (ns.valid c).2 as) c :=
      hreach'.stable (inv_newNonceService maxUsed) (fun s r hs => step_inv hs r)
        (fun s r hs hsp => spent_step hs hsp r) (spent_of_valid hI hacc) as
    exact ⟨hspent, valid_false_of hspent⟩
  · intro ns h as
    exact final_climbs (R := fun s t : NonceService => s.earliest ≤ t.earliest) (fun _ => le_rfl)
      (fun _ _ _ h1 h2 => h1.trans h2) (fun s r hs => step_inv hs r)
      (fun s r hs => earliest_le_step hs r) as (reachable_inv h)

end Boulder.Nonce
