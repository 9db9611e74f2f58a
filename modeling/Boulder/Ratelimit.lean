/-
# Boulder.Ratelimit -- rate limit policies (package `ratelimit`)

A policy counts items over a window and has a threshold, which overrides can replace per key
and per registration; a threshold of zero disables it. Go maps are association lists here,
looked up with `List.lookup`.
-/
import Mathlib.Data.List.Basic
import Boulder.Core.Objects

namespace Boulder.Ratelimit

open Boulder.Core

/-- `RateLimitPolicy`. -/
structure RateLimitPolicy where
  window : Time
  threshold : ℤ
  overrides : List (String × ℤ)
  registrationOverrides : List (ℤ × ℤ)
  deriving DecidableEq, Repr

namespace RateLimitPolicy

/-- `Enabled`. -/
def enabled (rlp : RateLimitPolicy) : Bool := rlp.threshold ≠ 0

/-- `GetThreshold`: a registration override first, then a key override, then the default. -/
def getThreshold (rlp : RateLimitPolicy) (key : String) (regID : ℤ) : ℤ :=
  match rlp.registrationOverrides.lookup regID with
  | some override => override
  | none =>
    match rlp.overrides.lookup key with
    | some override => override
    | none => rlp.threshold

/-- `WindowBegin`. -/
def windowBegin (rlp : RateLimitPolicy) (windowEnd : Time) : Time := windowEnd - rlp.window

/-- Without overrides every key and registration gets the default threshold. -/
@[simp] theorem getThreshold_of_no_overrides (window threshold : ℤ) (key : String) (regID : ℤ) :
    getThreshold ⟨window, threshold, [], []⟩ key regID = threshold := rfl

end RateLimitPolicy

/-- `rateLimitConfig`: the policies the RA reads. -/
structure RateLimitConfig where
  totalCertificates : RateLimitPolicy
  certificatesPerName : RateLimitPolicy
  registrationsPerIP : RateLimitPolicy
  pendingAuthorizationsPerAccount : RateLimitPolicy
  invalidAuthorizationsPerAccount : RateLimitPolicy
  certificatesPerFQDNSet : RateLimitPolicy
  deriving DecidableEq, Repr

end Boulder.Ratelimit
