/-
# Boulder.Lib.GoNet -- addresses and networks of Go's `net` package (Go 1.8)

A `net.IP` is a byte slice: four bytes for an IPv4 address, sixteen for IPv6, where an IPv4
address may also stand in its sixteen-byte form `::ffff:a.b.c.d`. An `IPNet` is a network
number and a mask, and `Contains` compares the two with an address byte by byte under the mask,
after both are brought to the same form by `To4`. This module models those functions with the
parsers `ParseIP` and `ParseCIDR` on which they are built. Nil slices are the empty list.

What a mask means is proved once: under the mask `CIDRMask(p, 8 * n)` an address agrees with a
network number exactly when their first `p` bits do, read as big-endian naturals
(`maskedEq_cidrMaskBytes_iff`). The parsers read the character list of a string; every character
they accept is ASCII, so characters and bytes agree on what they accept. `ParseIP` reads back the
text of a 16-byte address written in full, eight groups of four hex digits (`parseIP_fullForm`).
-/
import Mathlib.Data.List.Basic
import Mathlib.Tactic.IntervalCases
import Boulder.Lib.GoStrings

namespace Boulder.Lib.GoNet

open Boulder.Lib.GoStrings

/-! ## Addresses and networks -/

/-- `net.IP`. -/
abbrev NetIP := List UInt8

/-- The twelve bytes in front of an IPv4 address in its sixteen-byte form. -/
def v4InV6Prefix : List UInt8 := [0, 0, 0, 0, 0, 0, 0, 0, 0, 0, 0xff, 0xff]

/-- `IP.To4`: the four bytes of an IPv4 address, given in either form. -/
def to4 (ip : NetIP) : Option NetIP :=
  if ip.length = 4 then some ip
  else if ip.length = 16 ∧ ip.take 12 = v4InV6Prefix then some (ip.drop 12)
  else none

/-- `IP.To16`. -/
def to16 (ip : NetIP) : Option NetIP :=
  if ip.length = 4 then some (v4InV6Prefix ++ ip)
  else if ip.length = 16 then some ip
  else none

/-- `net.IPNet`: a network number and a mask. -/
structure IPNet where
  ip : NetIP
  mask : List UInt8
  deriving DecidableEq, Repr

/-- The mask half of `networkNumberAndMask`: a four-byte mask needs a four-byte number, a
sixteen-byte one loses its first twelve bytes in front of one. -/
def maskFor (ip : NetIP) (m : List UInt8) : NetIP × List UInt8 :=
  if m.length = 4 then (if ip.length ≠ 4 then ([], []) else (ip, m))
  else if m.length = 16 then (ip, if ip.length = 4 then m.drop 12 else m)
  else ([], [])

/-- `networkNumberAndMask`: the network number in its `To4` form where it has one. -/
def networkNumberAndMask (n : IPNet) : NetIP × List UInt8 :=
  match to4 n.ip with
  | some ip => maskFor ip n.mask
  | none => if n.ip.length ≠ 16 then ([], []) else maskFor n.ip n.mask

/-- The byte loop of `Contains`: the network number and the address agree under the mask. Go
indexes the mask by the address length; every mask here is as long as its network number. -/
def maskedEq : List UInt8 → List UInt8 → NetIP → Bool
  | a :: nn, k :: m, b :: ip => (a &&& k == b &&& k) && maskedEq nn m ip
  | _, _, _ => true

/-- `IPNet.Contains`. -/
def IPNet.contains (n : IPNet) (ip : NetIP) : Bool :=
  let nm := networkNumberAndMask n
  let ip := (to4 ip).getD ip
  ip.length == nm.1.length && maskedEq nm.1 nm.2 ip

/-- One byte of `CIDRMask`: `^byte(0xff >> n)` below eight leading ones, `0xff` from there. -/
def prefixByte (n : ℕ) : UInt8 :=
  if n ≥ 8 then 0xff else ~~~((0xff : UInt8) >>> UInt8.ofNat n)

/-- The byte loop of `CIDRMask`: `l` bytes carrying `n` leading ones. -/
def cidrMaskBytes : ℕ → ℕ → List UInt8
  | 0, _ => []
  | l + 1, n => prefixByte n :: cidrMaskBytes l (n - 8)

/-- `net.CIDRMask(ones, bits)`: nil unless `bits` is 32 or 128 and `ones` fits. -/
def cidrMask (ones bits : ℕ) : List UInt8 :=
  if bits ≠ 32 ∧ bits ≠ 128 then []
  else if ones > bits then []
  else cidrMaskBytes (bits / 8) ones

/-- `IP.Mask`: the address under the mask, after bringing the two to the same length. -/
def ipMask (ip : NetIP) (mask : List UInt8) : NetIP :=
  let mask :=
    if mask.length = 16 ∧ ip.length = 4 ∧ (mask.take 12).all (· == 0xff) then mask.drop 12
    else mask
  let ip := if mask.length = 4 ∧ ip.length = 16 ∧ ip.take 12 = v4InV6Prefix then ip.drop 12 else ip
  if ip.length ≠ mask.length then [] else List.zipWith (· &&& ·) ip mask

/-! ## Parsers -/

/-- The bound `big` past which `dtoi` and `xtoi` give up. -/
def big : ℕ := 0xFFFFFF

/-- `dtoi`: the decimal number in front of `s` and the rest. Go stops as soon as the running
value reaches `big`; the value only grows, so that is the whole number reaching it. -/
def dtoi (s : List Char) : Option (ℕ × List Char) :=
  let ds := s.takeWhile Char.isDigit
  match decimalValue ds with
  | some n => if n ≥ big then none else some (n, s.drop ds.length)
  | none => none

/-- `xtoi`: the hexadecimal number in front of `s` and the rest. -/
def xtoi (s : List Char) : Option (ℕ × List Char) :=
  let ds := s.takeWhile fun c => (hexDigit? c).isSome
  match hexValue ds with
  | some n => if n ≥ big then none else some (n, s.drop ds.length)
  | none => none

/-- The octet loop of `parseIPv4`: `k` octets still to read, each after a dot but the first,
and then nothing. -/
def parseOctets : ℕ → Bool → List Char → Option (List UInt8)
  | 0, _, s => if s = [] then some [] else none
  | k + 1, first, s =>
    if s = [] then none
    else
      let afterDot : Option (List Char) :=
        if first then some s else match s with
          | '.' :: s => some s
          | _ => none
      match afterDot.bind dtoi with
      | some (n, s) => if n > 0xFF then none else (parseOctets k false s).map (UInt8.ofNat n :: ·)
      | none => none

/-- `parseIPv4`: `d.d.d.d`, in the sixteen-byte form that `IPv4` builds. -/
def parseIPv4 (s : List Char) : Option NetIP :=
  (parseOctets 4 true s).map (v4InV6Prefix ++ ·)

/-- The two bytes of a sixteen-bit group. -/
def groupBytes (n : ℕ) : List UInt8 := [UInt8.ofNat (n / 256), UInt8.ofNat n]

/-- The group loop of `parseIPv6`: `fuel` groups still fit, `acc` holds the bytes read so far
and `ellipsis` the position of a `::`. It returns them with the input left unread. -/
def parseGroups : ℕ → List UInt8 → Option ℕ → List Char →
    Option (List UInt8 × Option ℕ × List Char)
  | 0, acc, ellipsis, s => some (acc, ellipsis, s)
  | fuel + 1, acc, ellipsis, s =>
    match xtoi s with
    | none => none
    | some (n, rest) =>
      if n > 0xFFFF then none
      else match rest with
        | '.' :: _ =>
          -- an IPv4 tail, which must be the last four bytes
          if ellipsis.isNone ∧ acc.length ≠ 12 then none
          else if acc.length + 4 > 16 then none
          else (parseIPv4 s).map fun ip4 => (acc ++ ip4.drop 12, ellipsis, [])
        | [] => some (acc ++ groupBytes n, ellipsis, [])
        | [':'] => none
        | ':' :: ':' :: s' =>
          if ellipsis.isSome then none
          else if s' = [] then some (acc ++ groupBytes n, some (acc.length + 2), [])
          else parseGroups fuel (acc ++ groupBytes n) (some (acc.length + 2)) s'
        | ':' :: s' => parseGroups fuel (acc ++ groupBytes n) ellipsis s'
        | _ :: _ => none

/-- `parseIPv6` without a zone: hex groups between colons, at most one `::` for one or more zero
groups, and perhaps an IPv4 tail. -/
def parseIPv6 (s : List Char) : Option NetIP :=
  let start : Option ℕ × List Char :=
    match s with
    | ':' :: ':' :: s => (some 0, s)
    | s => (none, s)
  if start.1.isSome ∧ start.2 = [] then some (List.replicate 16 0)
  else match parseGroups 8 [] start.1 start.2 with
    | none => none
    | some (acc, ellipsis, s) =>
      if s ≠ [] then none
      else if acc.length < 16 then
        -- the ellipsis stands for the missing zero bytes
        ellipsis.map fun e => acc.take e ++ List.replicate (16 - acc.length) 0 ++ acc.drop e
      else if ellipsis.isSome then none
      else some acc

/-- `net.ParseIP`: the first dot or colon decides which parser reads the address. -/
def parseIP (s : String) : Option NetIP :=
  match s.toList.find? (fun c => c == '.' || c == ':') with
  | some '.' => parseIPv4 s.toList
  | some _ => parseIPv6 s.toList
  | none => none

/-- `net.ParseCIDR`: the address and its network, whose number is the address under the mask. -/
def parseCIDR (s : String) : Option (NetIP × IPNet) :=
  match s.toList.dropWhile (· ≠ '/') with
  | [] => none
  | _ :: maskDigits =>
    let addr := s.toList.takeWhile (· ≠ '/')
    let parsed : Option NetIP × ℕ :=
      match parseIPv4 addr with
      | some ip => (some ip, 4)
      | none => (parseIPv6 addr, 16)
    match parsed.1, dtoi maskDigits with
    | some ip, some (n, []) =>
      if n > 8 * parsed.2 then none
      else
        let m := cidrMask n (8 * parsed.2)
        some (ip, ⟨ipMask ip m, m⟩)
    | _, _ => none

example : parseIP "::1" = some (List.replicate 15 0 ++ [1]) := by decide
example : parseIP "1.2.3.4" = some (v4InV6Prefix ++ [1, 2, 3, 4]) := by decide
example : parseIP "example.com" = none := by decide

/-! ## Prefixes

A block `net/p` of `w`-bit addresses holds the addresses whose first `p` bits are those of
`net`, that is whose value divided by `2 ^ (w - p)` is that of `net`. -/

/-- The big-endian value of a byte string. -/
def bytesToNat : List UInt8 → ℕ
  | [] => 0
  | b :: bs => b.toNat * 256 ^ bs.length + bytesToNat bs

/-- The `l` big-endian bytes of `n`. -/
def natToBytes : ℕ → ℕ → List UInt8
  | 0, _ => []
  | l + 1, n => UInt8.ofNat (n / 256 ^ l) :: natToBytes l n

/-- `x` lies in the block `net/p` of `w`-bit addresses. -/
def InPrefix (w net p x : ℕ) : Prop := x / 2 ^ (w - p) = net / 2 ^ (w - p)

instance (w net p x : ℕ) : Decidable (InPrefix w net p x) :=
  inferInstanceAs (Decidable (_ = _))

@[simp] theorem bytesToNat_nil : bytesToNat [] = 0 := rfl

@[simp] theorem bytesToNat_cons (b : UInt8) (bs : List UInt8) :
    bytesToNat (b :: bs) = b.toNat * 256 ^ bs.length + bytesToNat bs := rfl

/-- A digit and what follows it are the quotient and the remainder by the digit's place. -/
theorem mul_add_div_mod {S k m : ℕ} (hm : m < S) : (k * S + m) / S = k ∧ (k * S + m) % S = m := by
  have hS : 0 < S := by omega
  refine ⟨?_, ?_⟩
  · rw [Nat.mul_comm, Nat.mul_add_div hS, Nat.div_eq_of_lt hm, Nat.add_zero]
  · rw [Nat.mul_comm, Nat.mul_add_mod, Nat.mod_eq_of_lt hm]

theorem mul_add_eq_mul_add_iff {S a b x y : ℕ} (hx : x < S) (hy : y < S) :
    a * S + x = b * S + y ↔ a = b ∧ x = y := by
  constructor
  · intro h
    obtain ⟨hqa, hra⟩ := mul_add_div_mod (k := a) hx
    obtain ⟨hqb, hrb⟩ := mul_add_div_mod (k := b) hy
    rw [h, hqb] at hqa
    rw [h, hrb] at hra
    exact ⟨hqa.symm, hra.symm⟩
  · rintro ⟨rfl, rfl⟩
    rfl

theorem bytesToNat_lt (bs : List UInt8) : bytesToNat bs < 256 ^ bs.length := by
  induction bs with
  | nil => simp
  | cons b bs ih =>
    have hb : b.toNat < 256 := b.toNat_lt
    rw [bytesToNat_cons, List.length_cons, Nat.pow_succ]
    calc b.toNat * 256 ^ bs.length + bytesToNat bs
        < b.toNat * 256 ^ bs.length + 256 ^ bs.length := by omega
      _ = (b.toNat + 1) * 256 ^ bs.length := by rw [Nat.add_mul, Nat.one_mul]
      _ ≤ 256 * 256 ^ bs.length := Nat.mul_le_mul_right _ hb
      _ = 256 ^ bs.length * 256 := Nat.mul_comm _ _

theorem bytesToNat_append (xs ys : List UInt8) :
    bytesToNat (xs ++ ys) = bytesToNat xs * 256 ^ ys.length + bytesToNat ys := by
  induction xs with
  | nil => simp
  | cons b bs ih =>
    rw [List.cons_append, bytesToNat_cons, bytesToNat_cons, ih, List.length_append, Nat.pow_add,
      Nat.add_mul, Nat.mul_assoc, Nat.add_assoc]

/-- Two byte strings of one length with one value are equal. -/
theorem bytesToNat_inj {xs ys : List UInt8} (hlen : xs.length = ys.length)
    (h : bytesToNat xs = bytesToNat ys) : xs = ys := by
  induction xs generalizing ys with
  | nil =>
    cases ys with
    | nil => rfl
    | cons _ _ => simp at hlen
  | cons a as ih =>
    cases ys with
    | nil => simp at hlen
    | cons b bs =>
      simp only [List.length_cons, Nat.add_right_cancel_iff] at hlen
      rw [bytesToNat_cons, bytesToNat_cons, hlen] at h
      have has : bytesToNat as < 256 ^ bs.length := by
        rw [← hlen]
        exact bytesToNat_lt as
      obtain ⟨hab, hrest⟩ := (mul_add_eq_mul_add_iff has (bytesToNat_lt bs)).mp h
      rw [UInt8.toNat_inj.mp hab, ih hlen hrest]

@[simp] theorem length_natToBytes (l n : ℕ) : (natToBytes l n).length = l := by
  induction l with
  | zero => rfl
  | succ l ih => rw [natToBytes, List.length_cons, ih]

theorem bytesToNat_natToBytes (l n : ℕ) : bytesToNat (natToBytes l n) = n % 256 ^ l := by
  induction l with
  | zero => rw [natToBytes, bytesToNat_nil, Nat.pow_zero, Nat.mod_one]
  | succ l ih =>
    have h256 : (2 : ℕ) ^ 8 = 256 := by norm_num
    rw [natToBytes, bytesToNat_cons, length_natToBytes, ih, UInt8.toNat_ofNat', h256,
      Nat.mod_pow_succ, Nat.add_comm, Nat.mul_comm (n / 256 ^ l % 256)]

/-! ## Prefix masks -/

theorem prefixByte_toNat {n : ℕ} (hn : n ≤ 8) : (prefixByte n).toNat = 2 ^ 8 - 2 ^ (8 - n) := by
  interval_cases n <;> decide

/-- A `w`-bit number under the mask of its top `w - j` bits keeps its value down to a multiple
of `2 ^ j`. -/
theorem land_two_pow_sub_two_pow {a w j : ℕ} (ha : a < 2 ^ w) (hj : j ≤ w) :
    a &&& (2 ^ w - 2 ^ j) = a / 2 ^ j * 2 ^ j := by
  have hm : 2 ^ w - 2 ^ j = (2 ^ (w - j) - 1) * 2 ^ j := by
    rw [Nat.sub_mul, Nat.one_mul, ← Nat.pow_add, Nat.sub_add_cancel hj]
  apply Nat.eq_of_testBit_eq
  intro i
  rw [Nat.testBit_and, hm, Nat.testBit_mul_two_pow, Nat.testBit_mul_two_pow,
    Nat.testBit_two_pow_sub_one, Nat.testBit_div_two_pow]
  by_cases hji : j ≤ i
  · rw [Nat.sub_add_cancel hji]
    by_cases hi : i < w
    · simp [hji, show i - j < w - j by omega]
    · have hbit : a.testBit i = false :=
        Nat.testBit_lt_two_pow (Nat.lt_of_lt_of_le ha (Nat.pow_le_pow_right (by norm_num) (by omega)))
      simp [hbit]
  · simp [hji]

/-- Two bytes agree under the mask of `n ≤ 8` leading ones exactly when their top `n` bits
do. -/
theorem land_prefixByte_iff {a b : UInt8} {n : ℕ} (hn : n ≤ 8) :
    (a &&& prefixByte n == b &&& prefixByte n) = true ↔
      a.toNat / 2 ^ (8 - n) = b.toNat / 2 ^ (8 - n) := by
  have hj : 8 - n ≤ 8 := by omega
  rw [beq_iff_eq, ← UInt8.toNat_inj, UInt8.toNat_and, UInt8.toNat_and, prefixByte_toNat hn,
    land_two_pow_sub_two_pow a.toNat_lt hj, land_two_pow_sub_two_pow b.toNat_lt hj]
  exact Nat.mul_right_cancel_iff (Nat.two_pow_pos _)

@[simp] theorem maskedEq_nil_mask (nn ip : List UInt8) : maskedEq nn [] ip = true := by
  cases nn <;> cases ip <;> rfl

/-- The mask with no leading ones lets everything through. -/
theorem maskedEq_cidrMaskBytes_zero (nn ip : List UInt8) (l : ℕ) :
    maskedEq nn (cidrMaskBytes l 0) ip = true := by
  induction l generalizing nn ip with
  | zero => exact maskedEq_nil_mask nn ip
  | succ l ih =>
    have hzero : prefixByte 0 = 0 := by decide
    cases nn with
    | nil => rfl
    | cons a nn =>
      cases ip with
      | nil => rfl
      | cons b ip => simp [cidrMaskBytes, maskedEq, hzero, ih]

/-- What a prefix mask means: under `p` leading ones an address agrees with a network number of
its length exactly when it lies in the block of the number's first `p` bits. -/
theorem maskedEq_cidrMaskBytes_iff {nn ip : List UInt8} (hlen : ip.length = nn.length) {p : ℕ}
    (hp : p ≤ 8 * nn.length) :
    maskedEq nn (cidrMaskBytes nn.length p) ip = true ↔
      InPrefix (8 * nn.length) (bytesToNat nn) p (bytesToNat ip) := by
  induction nn generalizing ip p with
  | nil =>
    rw [List.length_nil] at hlen
    rw [List.eq_nil_of_length_eq_zero hlen]
    simp [InPrefix, cidrMaskBytes]
  | cons a nn ih =>
    obtain ⟨b, ip, rfl⟩ := List.exists_cons_of_length_eq_add_one hlen
    simp only [List.length_cons, Nat.add_right_cancel_iff] at hlen
    rw [List.length_cons] at hp
    rw [List.length_cons, cidrMaskBytes, maskedEq, Bool.and_eq_true, bytesToNat_cons,
      bytesToNat_cons, hlen]
    unfold InPrefix
    by_cases hp8 : 8 ≤ p
    · have hbyte : prefixByte p = prefixByte 8 := by simp [prefixByte, hp8]
      have he : 8 * (nn.length + 1) - p = 8 * nn.length - (p - 8) := by omega
      have hK : (256 : ℕ) ^ nn.length = 2 ^ (p - 8) * 2 ^ (8 * nn.length - (p - 8)) := by
        rw [← Nat.pow_add, Nat.add_sub_cancel' (by omega), Nat.pow_mul]
      have hdiv : ∀ c z, (c * (2 ^ (p - 8) * 2 ^ (8 * nn.length - (p - 8))) + z) /
          2 ^ (8 * nn.length - (p - 8)) = c * 2 ^ (p - 8) + z / 2 ^ (8 * nn.length - (p - 8)) := by
        intro c z
        rw [← Nat.mul_assoc, Nat.mul_comm _ (2 ^ _), Nat.mul_add_div (Nat.two_pow_pos _)]
      have hrest : ∀ z : List UInt8, z.length = nn.length →
          bytesToNat z / 2 ^ (8 * nn.length - (p - 8)) < 2 ^ (p - 8) := by
        intro z hz
        rw [Nat.div_lt_iff_lt_mul (Nat.two_pow_pos _), ← hK, ← hz]
        exact bytesToNat_lt z
      rw [hbyte, land_prefixByte_iff (le_refl 8), ih hlen (by omega), he, hK, hdiv, hdiv,
        mul_add_eq_mul_add_iff (hrest ip hlen) (hrest nn rfl)]
      simp only [InPrefix, Nat.sub_self, Nat.pow_zero, Nat.div_one]
      exact and_congr_left' eq_comm
    · have hzero : p - 8 = 0 := by omega
      have hK : 2 ^ (8 * (nn.length + 1) - p) = 256 ^ nn.length * 2 ^ (8 - p) := by
        rw [show 8 * (nn.length + 1) - p = 8 * nn.length + (8 - p) by omega, Nat.pow_add,
          Nat.pow_mul]
      have hdiv : ∀ (c : UInt8) (z : List UInt8), z.length = nn.length →
          (c.toNat * 256 ^ nn.length + bytesToNat z) / (256 ^ nn.length * 2 ^ (8 - p)) =
            c.toNat / 2 ^ (8 - p) := by
        intro c z hz
        rw [← Nat.div_div_eq_div_mul, (mul_add_div_mod (hz ▸ bytesToNat_lt z)).1]
      rw [hzero]
      simp only [maskedEq_cidrMaskBytes_zero, and_true]
      rw [land_prefixByte_iff (by omega), hK,
        hdiv b ip hlen, hdiv a nn rfl, eq_comm]

/-! ## Networks of blocks

`ParseCIDR` turns a block `net/len` of `l`-byte addresses into the network of `net`'s bytes and
the mask of `len` ones. `Contains` on such a network is membership in the block, for IPv4
networks after `To4` (`contains_toIPNet_four`) and for IPv6 networks that are not IPv4-mapped on
addresses that are not either (`contains_toIPNet_sixteen`). -/

/-- A CIDR block `net/len`, its network number as a natural. -/
structure CIDRBlock where
  net : ℕ
  len : ℕ
  deriving DecidableEq, Repr

/-- The network of a block of `l`-byte addresses. -/
def CIDRBlock.toIPNet (b : CIDRBlock) (l : ℕ) : IPNet :=
  ⟨natToBytes l b.net, cidrMaskBytes l b.len⟩

theorem to4_of_length_four {ip : NetIP} (h : ip.length = 4) : to4 ip = some ip := by
  simp [to4, h]

theorem length_of_to4 {ip y : NetIP} (h : to4 ip = some y) : y.length = 4 := by
  unfold to4 at h
  split_ifs at h with h4 h16
  · rw [← Option.some.inj h, h4]
  · rw [← Option.some.inj h, List.length_drop, h16.1]

theorem to4_eq_none_of_length_sixteen {ip : NetIP} (h : ip.length = 16) :
    to4 ip = none ↔ ip.take 12 ≠ v4InV6Prefix := by
  simp [to4, h]

/-- A sixteen-byte address has an IPv4 form exactly when its top 96 bits are `::ffff`. -/
theorem to4_isSome_iff {x : NetIP} (hx : x.length = 16) :
    (to4 x).isSome ↔ bytesToNat x / 2 ^ 32 = 0xffff := by
  have htake : (x.take 12).length = v4InV6Prefix.length := by simp [hx, v4InV6Prefix]
  have hdrop : bytesToNat (x.drop 12) < 2 ^ 32 := by
    have h := bytesToNat_lt (x.drop 12)
    rwa [List.length_drop, hx] at h
  have hsplit : bytesToNat x = bytesToNat (x.take 12) * 2 ^ 32 + bytesToNat (x.drop 12) := by
    conv_lhs => rw [← List.take_append_drop 12 x]
    rw [bytesToNat_append, List.length_drop, hx]
    norm_num
  have hprefix : bytesToNat v4InV6Prefix = 0xffff := by decide
  rw [hsplit, (mul_add_div_mod hdrop).1, ← hprefix, Option.isSome_iff_ne_none, Ne,
    to4_eq_none_of_length_sixteen hx, not_not]
  exact ⟨congrArg bytesToNat, bytesToNat_inj htake⟩

theorem networkNumberAndMask_four {nn m : List UInt8} (hnn : nn.length = 4) (hm : m.length = 4) :
    networkNumberAndMask ⟨nn, m⟩ = (nn, m) := by
  simp [networkNumberAndMask, to4_of_length_four hnn, maskFor, hnn, hm]

theorem networkNumberAndMask_sixteen {nn m : List UInt8} (hnn : nn.length = 16)
    (hn4 : to4 nn = none) (hm : m.length = 16) :
    networkNumberAndMask ⟨nn, m⟩ = (nn, m) := by
  simp [networkNumberAndMask, hn4, maskFor, hnn, hm]

/-- `Contains` on an IPv4 network reads the address in its `To4` form. -/
theorem contains_four {nn m : List UInt8} (hnn : nn.length = 4) (hm : m.length = 4)
    {x y : NetIP} (hx : to4 x = some y) :
    IPNet.contains ⟨nn, m⟩ x = maskedEq nn m y := by
  simp [IPNet.contains, networkNumberAndMask_four hnn hm, hx, length_of_to4 hx, hnn]

/-- `Contains` on an IPv6 network that is not IPv4-mapped, for an address without an IPv4
form. -/
theorem contains_sixteen {nn m : List UInt8} (hnn : nn.length = 16) (hn4 : to4 nn = none)
    (hm : m.length = 16) {x : NetIP} (hx16 : x.length = 16) (hx : to4 x = none) :
    IPNet.contains ⟨nn, m⟩ x = maskedEq nn m x := by
  simp [IPNet.contains, networkNumberAndMask_sixteen hnn hn4 hm, hx, hx16, hnn]

/-- `Contains` on an IPv4-mapped network compares the IPv4 forms under the low mask bytes. -/
theorem contains_mapped {nn m nn4 : List UInt8} (hn4 : to4 nn = some nn4) (hm : m.length = 16)
    (x : NetIP) :
    IPNet.contains ⟨nn, m⟩ x =
      (((to4 x).getD x).length == 4 && maskedEq nn4 (m.drop 12) ((to4 x).getD x)) := by
  simp [IPNet.contains, networkNumberAndMask, hn4, maskFor, hm, length_of_to4 hn4]

theorem contains_toIPNet_four {b : CIDRBlock} (hnet : b.net < 2 ^ 32) (hlen : b.len ≤ 32)
    {x y : NetIP} (hx : to4 x = some y) :
    (b.toIPNet 4).contains x = true ↔ InPrefix 32 b.net b.len (bytesToNat y) := by
  have hnn : (natToBytes 4 b.net).length = 4 := length_natToBytes 4 b.net
  have hval : bytesToNat (natToBytes 4 b.net) = b.net := by
    rw [bytesToNat_natToBytes, Nat.mod_eq_of_lt (by omega)]
  have key := @maskedEq_cidrMaskBytes_iff (natToBytes 4 b.net) y
    (by rw [length_of_to4 hx, hnn]) b.len (by omega)
  rw [hnn, hval] at key
  rw [CIDRBlock.toIPNet, contains_four hnn (by simp [cidrMaskBytes]) hx]
  exact key

theorem contains_toIPNet_sixteen {b : CIDRBlock} (hnet : b.net < 2 ^ 128) (hlen : b.len ≤ 128)
    (hn4 : to4 (natToBytes 16 b.net) = none) {x : NetIP} (hx16 : x.length = 16)
    (hx : to4 x = none) :
    (b.toIPNet 16).contains x = true ↔ InPrefix 128 b.net b.len (bytesToNat x) := by
  have hnn : (natToBytes 16 b.net).length = 16 := length_natToBytes 16 b.net
  have hval : bytesToNat (natToBytes 16 b.net) = b.net := by
    rw [bytesToNat_natToBytes, Nat.mod_eq_of_lt (by omega)]
  have key := @maskedEq_cidrMaskBytes_iff (natToBytes 16 b.net) x (by rw [hx16, hnn]) b.len
    (by omega)
  rw [hnn, hval] at key
  rw [CIDRBlock.toIPNet, contains_sixteen hnn hn4 (by simp [cidrMaskBytes]) hx16 hx]
  exact key

/-! ## The full text of an address

`ParseIP` reads an IPv6 address written with all eight groups in full, four hex digits each; Go's
`String` shortens that text, which `ParseIP` reads as well. -/

/-- The groups of a byte string of even length, four hex digits each, between colons. -/
def fullGroups : List UInt8 → List Char
  | b0 :: b1 :: rest =>
    hexPad 4 (b0.toNat * 256 + b1.toNat) ++ (if rest = [] then [] else ':' :: fullGroups rest)
  | _ => []

/-- The full text of an address. -/
def fullForm (ip : NetIP) : String := String.ofList (fullGroups ip)

/-- `xtoi` reads four hex digits up to a character that is none. -/
theorem xtoi_hexPad_append (v : ℕ) (rest : List Char)
    (hrest : ∀ c, rest.head? = some c → (hexDigit? c).isSome = false) :
    xtoi (hexPad 4 v ++ rest) = some (v % 65536, rest) := by
  have hall : ∀ c ∈ hexPad 4 v, (hexDigit? c).isSome = true :=
    fun _ hc => hexDigit?_isSome_of_mem_hexPad hc
  have hstop : rest.takeWhile (fun c => (hexDigit? c).isSome) = [] := by
    cases rest with
    | nil => rfl
    | cons c cs => simp [hrest c rfl]
  have htake : (hexPad 4 v ++ rest).takeWhile (fun c => (hexDigit? c).isSome) = hexPad 4 v := by
    rw [List.takeWhile_append_of_pos hall, hstop, List.append_nil]
  have hsmall : ¬ v % 65536 ≥ big := by
    unfold big
    omega
  unfold xtoi
  simp only [htake, hexValue_hexPad (k := 4) (by decide) v, show (16 : ℕ) ^ 4 = 65536 by norm_num,
    if_neg hsmall, length_hexPad, List.drop_left']

/-- A group followed by a colon and more text: the loop goes on after the colon. -/
theorem parseGroups_succ_colon {fuel : ℕ} {acc : List UInt8} {ellipsis : Option ℕ}
    {t s : List Char} {n : ℕ} (hx : xtoi t = some (n, ':' :: s)) (hn : n ≤ 0xFFFF)
    (hs : s ≠ []) (hcolon : s.head? ≠ some ':') :
    parseGroups (fuel + 1) acc ellipsis t = parseGroups fuel (acc ++ groupBytes n) ellipsis s := by
  rw [parseGroups, hx]
  simp only [if_neg (show ¬ n > 0xFFFF by omega)]
  split
  next tail heq => simp at heq
  next heq => simp at heq
  next heq => simp only [List.cons.injEq, true_and] at heq; exact absurd heq hs
  next s' heq =>
    simp only [List.cons.injEq, true_and] at heq
    subst heq
    exact absurd rfl hcolon
  next s' heq =>
    simp only [List.cons.injEq, true_and] at heq
    rw [heq]
  next _ head _ _ _ _ hnot heq =>
    simp only [List.cons.injEq] at heq
    exact absurd heq.1.symm hnot

/-- The two bytes of a group read back. -/
theorem groupBytes_bytes (b0 b1 : UInt8) : groupBytes (b0.toNat * 256 + b1.toNat) = [b0, b1] := by
  have h0 := b0.toNat_lt
  have h1 := b1.toNat_lt
  have hhi : UInt8.ofNat ((b0.toNat * 256 + b1.toNat) / 256) = b0 := by
    apply UInt8.toNat_inj.mp
    rw [UInt8.toNat_ofNat']
    omega
  have hlo : UInt8.ofNat (b0.toNat * 256 + b1.toNat) = b1 := by
    apply UInt8.toNat_inj.mp
    rw [UInt8.toNat_ofNat']
    omega
  rw [groupBytes, hhi, hlo]

/-- The full text of a non-empty byte string of even length starts with a hex digit. -/
theorem fullGroups_cons {bs : List UInt8} (hne : bs ≠ []) (heven : bs.length % 2 = 0) :
    ∃ c more, fullGroups bs = c :: more ∧ (hexDigit? c).isSome = true := by
  rcases bs with _ | ⟨b0, _ | ⟨b1, rest⟩⟩
  · exact absurd rfl hne
  · simp at heven
  · obtain ⟨c, more, hcm⟩ : ∃ c more, hexPad 4 (b0.toNat * 256 + b1.toNat) = c :: more := by
      apply List.exists_cons_of_ne_nil
      intro h
      have hlen := length_hexPad 4 (b0.toNat * 256 + b1.toNat)
      rw [h] at hlen
      cases hlen
    refine ⟨c, _, by rw [fullGroups, hcm, List.cons_append], ?_⟩
    exact hexDigit?_isSome_of_mem_hexPad (hcm ▸ List.mem_cons_self)

/-- **The group loop on a full text.** Each group is read back as its two bytes; the induction
is on the byte string, two bytes at a time. -/
theorem parseGroups_fullGroups : ∀ (bs : List UInt8) (fuel : ℕ) (acc : List UInt8),
    bs ≠ [] → bs.length % 2 = 0 → bs.length ≤ 2 * fuel →
      parseGroups fuel acc none (fullGroups bs) = some (acc ++ bs, none, [])
  | b0 :: b1 :: rest, fuel + 1, acc, _, heven, hlen => by
    have hv : b0.toNat * 256 + b1.toNat < 65536 := by
      have := b0.toNat_lt
      have := b1.toNat_lt
      omega
    by_cases hrest : rest = []
    · subst hrest
      have hfull : fullGroups [b0, b1] = hexPad 4 (b0.toNat * 256 + b1.toNat) := by
        simp [fullGroups]
      have hx := xtoi_hexPad_append (b0.toNat * 256 + b1.toNat) [] (fun _ h => by cases h)
      rw [List.append_nil, Nat.mod_eq_of_lt hv] at hx
      rw [hfull, parseGroups, hx]
      simp only [if_neg (show ¬ b0.toNat * 256 + b1.toNat > 0xFFFF by omega), groupBytes_bytes]
    · have heven' : rest.length % 2 = 0 := by
        simp only [List.length_cons] at heven
        omega
      obtain ⟨c, more, hcm, hc⟩ := fullGroups_cons hrest heven'
      have hcolon : c ≠ ':' := fun h => absurd (h ▸ hc) (by decide)
      have hx := xtoi_hexPad_append (b0.toNat * 256 + b1.toNat) (':' :: c :: more)
        (fun c' h => by
          rw [List.head?_cons, Option.some.injEq] at h
          subst h
          decide)
      rw [Nat.mod_eq_of_lt hv] at hx
      have ih := parseGroups_fullGroups rest fuel (acc ++ [b0, b1]) hrest heven'
        (by simp only [List.length_cons] at hlen; omega)
      rw [hcm] at ih
      have hfull : fullGroups (b0 :: b1 :: rest) =
          hexPad 4 (b0.toNat * 256 + b1.toNat) ++ ':' :: c :: more := by
        rw [fullGroups, if_neg hrest, hcm]
      rw [hfull, parseGroups_succ_colon hx (by omega) (List.cons_ne_nil c more)
        (by simpa using hcolon), groupBytes_bytes, ih]
      simp
  | [_], _, _, _, heven, _ => by simp at heven
  | [], _, _, hne, _, _ => absurd rfl hne
  | _ :: _ :: _, 0, _, _, _, hlen => by simp at hlen

/-- **`ParseIP` reads the full text of a 16-byte address.** -/
theorem parseIP_fullForm {ip : NetIP} (hlen : ip.length = 16) : parseIP (fullForm ip) = some ip := by
  have hne : ip ≠ [] := fun h => by simp [h] at hlen
  have heven : ip.length % 2 = 0 := by omega
  obtain ⟨c, more, hcm, hc⟩ := fullGroups_cons hne heven
  have hcolon : c ≠ ':' := fun h => absurd (h ▸ hc) (by decide)
  have hgroups := parseGroups_fullGroups ip 8 [] hne heven (by omega)
  rw [hcm] at hgroups
  have hfind : (fullGroups ip).find? (fun d => d == '.' || d == ':') = some ':' := by
    rcases ip with _ | ⟨b0, _ | ⟨b1, rest⟩⟩
    · exact absurd rfl hne
    · simp at hlen
    · have hrest : rest ≠ [] := fun h => by simp [h] at hlen
      have hpad : ∀ d ∈ hexPad 4 (b0.toNat * 256 + b1.toNat), ¬ (d == '.' || d == ':') = true := by
        intro d hd
        have hs := hexDigit?_isSome_of_mem_hexPad hd
        have hdot : d ≠ '.' := fun h => absurd (h ▸ hs) (by decide)
        have hcol : d ≠ ':' := fun h => absurd (h ▸ hs) (by decide)
        simp [hdot, hcol]
      rw [fullGroups, if_neg hrest, List.find?_append, List.find?_eq_none.mpr hpad, Option.none_or]
      rfl
  rw [parseIP, fullForm, String.toList_ofList, hfind]
  show parseIPv6 (fullGroups ip) = some ip
  rw [hcm]
  unfold parseIPv6
  simp [hcolon, hgroups, hlen]

end Boulder.Lib.GoNet
