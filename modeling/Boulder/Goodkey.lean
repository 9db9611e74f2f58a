/-
# Boulder.Goodkey -- the key policy (package `goodkey`)

`GoodKey` decides whether a public key is acceptable for an account or a certificate. An RSA key
needs a modulus of 2048 to 4096 bits in whole bytes, an odd exponent above `2^16` and no prime
factor below 752. An ECDSA key needs an allowed curve and a point of the right order on it
(SP 800-56A's public key validation); the curve arithmetic of `crypto/elliptic` is the
parameter `CurveArithmetic`.

`goodKeyRSA_eq_ok` states the RSA conditions at once, so later proofs never unfold the chain of
checks. The table `smallPrimeInts` holds every prime below 752 (`mem_smallPrimeInts_of_prime`),
so trial division by it finds exactly the divisors between 2 and 751 (`checkSmallPrimes_iff`),
and `goodKeyRSA_baseline` reads the RSA checks as the Baseline Requirements state them. A modulus
below `2^2047` is refused as too small (`goodKeyRSA_small`).
-/
import Mathlib.Data.Nat.Size
import Mathlib.Data.Nat.Prime.Basic
import Boulder.Core.Objects
import Boulder.Jose
import Boulder.Lib.Loop

namespace Boulder.Goodkey

open Boulder.Core Boulder.Jose Boulder.Lib.Loop

/-- `KeyPolicy`: which kinds of key are allowed. -/
structure KeyPolicy where
  allowRSA : Bool
  allowECDSANISTP256 : Bool
  allowECDSANISTP384 : Bool
  deriving DecidableEq, Repr

/-- `NewKeyPolicy`: RSA, P-256 and P-384. -/
def newKeyPolicy : KeyPolicy := ⟨true, true, true⟩

/-- What `goodKeyECDSA` asks of `crypto/elliptic` for a curve: the field prime `P`, the group
order `N`, `IsOnCurve` and `ScalarMult`. -/
structure CurveArithmetic where
  p : Curve → ℕ
  n : Curve → ℕ
  isOnCurve : Curve → ℤ → ℤ → Bool
  scalarMult : Curve → ℤ → ℤ → ℕ → ℤ × ℤ

/-! ## RSA -/

/-- `smallPrimeInts`: the primes up to 751. -/
def smallPrimeInts : List ℕ :=
  [2, 3, 5, 7, 11, 13, 17, 19, 23, 29, 31, 37, 41, 43, 47,
    53, 59, 61, 67, 71, 73, 79, 83, 89, 97, 101, 103, 107,
    109, 113, 127, 131, 137, 139, 149, 151, 157, 163, 167,
    173, 179, 181, 191, 193, 197, 199, 211, 223, 227, 229,
    233, 239, 241, 251, 257, 263, 269, 271, 277, 281, 283,
    293, 307, 311, 313, 317, 331, 337, 347, 349, 353, 359,
    367, 373, 379, 383, 389, 397, 401, 409, 419, 421, 431,
    433, 439, 443, 449, 457, 461, 463, 467, 479, 487, 491,
    499, 503, 509, 521, 523, 541, 547, 557, 563, 569, 571,
    577, 587, 593, 599, 601, 607, 613, 617, 619, 631, 641,
    643, 647, 653, 659, 661, 673, 677, 683, 691, 701, 709,
    719, 727, 733, 739, 743, 751]

/-- `checkSmallPrimes`: some small prime divides `i`. -/
def checkSmallPrimes (i : ℕ) : Bool :=
  smallPrimeInts.any fun prime => i % prime = 0

/-- `goodKeyRSA`. `big.Int.BitLen` is `Nat.size`. -/
def goodKeyRSA (policy : KeyPolicy) (n e : ℕ) : Except BoulderError Unit :=
  if !policy.allowRSA then .error (malformedError "RSA keys are not allowed")
  else if n.size < 2048 then .error (malformedError ("key too small: " ++ toString n.size))
  -- `maxKeySize` is 4096
  else if n.size > 4096 then
    .error (malformedError ("key too large: " ++ toString n.size ++ " > 4096"))
  else if n.size % 8 ≠ 0 then
    .error (malformedError ("key length wasn't a multiple of 8: " ++ toString n.size))
  else if e % 2 = 0 ∨ e < 2 ^ 16 + 1 then
    .error (malformedError ("key exponent should be odd and >2^16: " ++ toString e))
  else if checkSmallPrimes n then .error (malformedError "key divisible by small prime")
  else .ok ()

/-! ## ECDSA -/

/-- `goodCurve`: the curve is one the policy allows. -/
def goodCurve (policy : KeyPolicy) (c : Curve) : Except BoulderError Unit :=
  if policy.allowECDSANISTP256 && c = .p256 then .ok ()
  else if policy.allowECDSANISTP384 && c = .p384 then .ok ()
  else .error (malformedError ("ECDSA curve " ++ c.name ++ " not allowed"))

/-- `isPointAtInfinityNISTP`. -/
def isPointAtInfinityNISTP (x y : ℤ) : Bool := x = 0 && y = 0

/-- `goodKeyECDSA`: the curve check, then steps 1 to 4 of SP 800-56A 5.6.2.3.2. -/
def goodKeyECDSA (arith : CurveArithmetic) (policy : KeyPolicy) (c : Curve) (x y : ℤ) :
    Except BoulderError Unit :=
  match goodCurve policy c with
  | .error err => .error err
  | .ok () =>
    if isPointAtInfinityNISTP x y then
      .error (malformedError "key x, y must not be the point at infinity")
    else if x < 0 ∨ y < 0 then .error (malformedError "key x, y must not be negative")
    else if x ≥ arith.p c ∨ y ≥ arith.p c then
      .error (malformedError "key x, y must not exceed P-1")
    else if !arith.isOnCurve c x y then .error (malformedError "key point is not on the curve")
    else
      let (ox, oy) := arith.scalarMult c x y (arith.n c)
      if !isPointAtInfinityNISTP ox oy then
        .error (malformedError "public key does not have correct order")
      else .ok ()

/-- `KeyPolicy.GoodKey`. A JWK holds one of the two key kinds, so the "unknown key type" branch
of the Go switch has no counterpart. -/
def KeyPolicy.goodKey (arith : CurveArithmetic) (policy : KeyPolicy) : PublicKey → Except BoulderError Unit
  | .rsa n e => goodKeyRSA policy n e
  | .ecdsa c x y => goodKeyECDSA arith policy c x y

/-! ## What the RSA checks accept -/

/-- The RSA checks, all at once. -/
theorem goodKeyRSA_eq_ok {policy : KeyPolicy} {n e : ℕ} :
    goodKeyRSA policy n e = .ok () ↔
      policy.allowRSA = true ∧ 2048 ≤ n.size ∧ n.size ≤ 4096 ∧ n.size % 8 = 0 ∧
        e % 2 = 1 ∧ 2 ^ 16 + 1 ≤ e ∧ checkSmallPrimes n = false := by
  unfold goodKeyRSA
  simp only [ite_error_eq_ok, and_true]
  constructor
  · rintro ⟨hrsa, hsmall, hlarge, hmult, hexp, hprimes⟩
    refine ⟨by simpa using hrsa, by omega, by omega, by omega, by omega, by omega,
      by simpa using hprimes⟩
  · rintro ⟨hrsa, hsmall, hlarge, hmult, hodd, hexp, hprimes⟩
    exact ⟨by simp [hrsa], by omega, by omega, by omega, by omega, by simp [hprimes]⟩

/-! ## The prime table -/

/-- The table is what trial division by the primes up to 23, the root of 751, leaves of the
numbers from 2 to 751. -/
theorem smallPrimeInts_eq_sieve : smallPrimeInts = (List.range 752).filter fun m =>
    2 ≤ m && [2, 3, 5, 7, 11, 13, 17, 19, 23].all fun q => q = m || m % q ≠ 0 := by
  decide +kernel

theorem bounds_of_mem_smallPrimeInts {p : ℕ} (hp : p ∈ smallPrimeInts) : 2 ≤ p ∧ p ≤ 751 := by
  rw [smallPrimeInts_eq_sieve] at hp
  simp only [List.mem_filter, List.mem_range, Bool.and_eq_true, decide_eq_true_eq] at hp
  omega

/-- **The table is complete**: every prime below 752 is in it. -/
theorem mem_smallPrimeInts_of_prime {p : ℕ} (hp : p.Prime) (hlt : p < 752) :
    p ∈ smallPrimeInts := by
  rw [smallPrimeInts_eq_sieve]
  simp only [List.mem_filter, List.mem_range, Bool.and_eq_true, decide_eq_true_eq, List.all_eq_true]
  refine ⟨hlt, hp.two_le, fun q hq => ?_⟩
  have hq2 : 2 ≤ q := by
    simp only [List.mem_cons, List.not_mem_nil, or_false] at hq
    omega
  by_cases hdvd : p % q = 0
  · have hqp : q = p := by
      rcases hp.eq_one_or_self_of_dvd q (Nat.dvd_of_mod_eq_zero hdvd) with h | h
      · omega
      · exact h
    simp [hqp]
  · simp [hdvd]

/-- `checkSmallPrimes` finds a divisor between 2 and 751 exactly when there is one. -/
theorem checkSmallPrimes_iff {i : ℕ} :
    checkSmallPrimes i = true ↔ ∃ d, 2 ≤ d ∧ d ≤ 751 ∧ d ∣ i := by
  simp only [checkSmallPrimes, List.any_eq_true, decide_eq_true_eq]
  constructor
  · rintro ⟨p, hp, hmod⟩
    obtain ⟨h2, h751⟩ := bounds_of_mem_smallPrimeInts hp
    exact ⟨p, h2, h751, Nat.dvd_of_mod_eq_zero hmod⟩
  · rintro ⟨d, h2, h751, hd⟩
    have hprime : d.minFac.Prime := Nat.minFac_prime (by omega)
    have hle : d.minFac ≤ d := Nat.minFac_le (by omega)
    exact ⟨d.minFac, mem_smallPrimeInts_of_prime hprime (by omega),
      Nat.mod_eq_zero_of_dvd ((Nat.minFac_dvd d).trans hd)⟩

/-- **`goodKeyRSA` is the Baseline Requirements check.** The prime table holds every prime below
752, `checkSmallPrimes` finds exactly the divisors from 2 to 751, and an RSA key is accepted
exactly when RSA is allowed, its modulus has 2048 to 4096 bits in whole bytes, its exponent is
odd and at least `65537`, and no number from 2 to 751 divides the modulus. -/
theorem goodKeyRSA_baseline :
    (∀ p, p.Prime → p < 752 → p ∈ smallPrimeInts) ∧
    (∀ n, checkSmallPrimes n = true ↔ ∃ d, 2 ≤ d ∧ d ≤ 751 ∧ d ∣ n) ∧
    ∀ (policy : KeyPolicy) (n e : ℕ), goodKeyRSA policy n e = .ok () ↔
      policy.allowRSA = true ∧ 2048 ≤ n.size ∧ n.size ≤ 4096 ∧ n.size % 8 = 0 ∧
        e % 2 = 1 ∧ 65537 ≤ e ∧ ¬ ∃ d, 2 ≤ d ∧ d ≤ 751 ∧ d ∣ n := by
  refine ⟨fun p hp hlt => mem_smallPrimeInts_of_prime hp hlt, fun n => checkSmallPrimes_iff,
    fun policy n e => ?_⟩
  rw [goodKeyRSA_eq_ok, ← checkSmallPrimes_iff, Bool.not_eq_true]
  exact Iff.rfl

/-- A modulus below `2^2047` is refused as too small. -/
theorem goodKeyRSA_small {policy : KeyPolicy} {n e : ℕ} (hrsa : policy.allowRSA = true)
    (hn : n < 2 ^ 2047) :
    goodKeyRSA policy n e = .error (malformedError ("key too small: " ++ toString n.size)) := by
  have hsize : n.size < 2048 := Nat.lt_succ_of_le (Nat.size_le.mpr hn)
  simp [goodKeyRSA, hrsa, hsize]

end Boulder.Goodkey
