/-
# Boulder.Nonce.Codec -- the nonce a client sees: the counter, sealed and base64url-encoded

`NonceService.encrypt` writes the counter as eight big-endian bytes (`big.Int.Bytes`, copied to
the end of an 8-byte buffer), seals them under a 12-byte GCM nonce of four zero bytes and eight
random ones, and sends the eight random bytes and the sealed text, 32 bytes in all, in
`base64.RawURLEncoding`. `decrypt` decodes, refuses anything that is not 32 bytes, rebuilds the
GCM nonce from the first eight, opens the rest and reads the plaintext back with
`SetBytes`/`Int64`. `Valid` decrypts and then checks the counter (`Boulder.Nonce`).

Of the AES-GCM `cipher.AEAD` two laws are assumed, as fields of `AEAD`: under a nonce of
`NonceSize` bytes `Open` undoes `Seal`, and `Seal` adds `Overhead` bytes. With them every counter
`Nonce` issues before the `int64` overflows decrypts to itself (`decrypt_encrypt`), the nonce is
43 characters long (`length_encrypt`), and a string whose decoding is not 32 bytes is refused.
`rand.Read` is a parameter that fails or gives eight bytes; the errors of `decrypt` are kept apart
by kind, and their texts, which `Valid` drops, are not modelled.
-/
import Mathlib.Data.Nat.Log
import Mathlib.Data.Vector.Defs
import Boulder.Lib.Base64
import Boulder.Lib.GoNet
import Boulder.Nonce

namespace Boulder.Nonce

open Boulder.Lib.Base64 Boulder.Lib.GoNet Encoding

/-! ## Bytes and big integers -/

/-- Go's built-in `copy(dst, src)`: the first `len(dst)` bytes of `src` over the front of
`dst`. -/
def copySlice {α : Type} (dst src : List α) : List α := src.take dst.length ++ dst.drop src.length

/-- The number of bytes of `n` without leading zeros. -/
def byteLength (n : ℕ) : ℕ := if n = 0 then 0 else Nat.log 256 n + 1

/-- `big.Int.Bytes`: the absolute value, big-endian, without leading zeros. -/
def intBytes (x : ℤ) : List UInt8 := natToBytes (byteLength x.natAbs) x.natAbs

/-- `big.Int.Int64` of the non-negative value `SetBytes` gives: its low 64 bits, as an
`int64`. -/
def int64Of (n : ℕ) : ℤ :=
  if n % 2 ^ 64 < 2 ^ 63 then (n % 2 ^ 64 : ℕ) else ((n % 2 ^ 64 : ℕ) : ℤ) - 2 ^ 64

/-! ## `encrypt` and `decrypt` -/

/-- `nonceLen`. -/
def nonceLen : ℕ := 32

/-- The AES-GCM `cipher.AEAD` as `encrypt` and `decrypt` use it, with no additional data. `Open`
fails on a text that does not authenticate. -/
structure AEAD where
  sealBytes : List UInt8 → List UInt8 → List UInt8
  openBytes : List UInt8 → List UInt8 → Option (List UInt8)
  open_seal : ∀ nonce pt, nonce.length = 12 → openBytes nonce (sealBytes nonce pt) = some pt
  length_seal : ∀ nonce pt, nonce.length = 12 → (sealBytes nonce pt).length = pt.length + 16

/-- The errors `decrypt` passes on. -/
inductive DecryptError where
  /-- `base64.CorruptInputError`. -/
  | corruptInput
  /-- `errInvalidNonceLength`. -/
  | invalidNonceLength
  /-- `Open` failing to authenticate. -/
  | openFailed
  deriving DecidableEq, Repr

/-- The plaintext: `copy(pt[pad:], ctr.Bytes())` into eight zero bytes, with
`pad := 8 - len(ctr.Bytes())`. An `int64` has at most eight bytes, so `pad` is never negative. -/
def counterPlaintext (counter : ℤ) : List UInt8 :=
  let b := intBytes counter
  let pt := List.replicate 8 (0 : UInt8)
  let pad := 8 - b.length
  pt.take pad ++ copySlice (pt.drop pad) b

/-- `encrypt`: the GCM nonce is four zero bytes and the eight that `rand.Read` gives; the eight
random bytes and the sealed counter are copied into a `nonceLen`-byte buffer, which is encoded. -/
def encrypt (gcm : AEAD) (random : Except String (List.Vector UInt8 8)) (counter : ℤ) :
    Except String String :=
  match random with
  | .error e => .error e
  | .ok r =>
    let nonce := List.replicate 4 (0 : UInt8) ++ r.toList
    let ct := gcm.sealBytes nonce (counterPlaintext counter)
    let ret := copySlice (List.replicate nonceLen (0 : UInt8)) (nonce.drop 4)
    let ret := ret.take 8 ++ copySlice (ret.drop 8) ct
    .ok (rawURLEncoding.encodeToString ret)

/-- `decrypt`. -/
def decrypt (gcm : AEAD) (nonce : String) : Except DecryptError ℤ :=
  match rawURLEncoding.decodeString nonce with
  | none => .error .corruptInput
  | some decoded =>
    if decoded.length ≠ nonceLen then .error .invalidNonceLength
    else
      let n := List.replicate 12 (0 : UInt8)
      let n := n.take 4 ++ copySlice (n.drop 4) (decoded.take 8)
      match gcm.openBytes n (decoded.drop 8) with
      | none => .error .openFailed
      | some pt => .ok (int64Of (bytesToNat pt))

/-- `Valid` on the string a client sends: a nonce that does not decrypt is refused and changes
nothing; the counter of one that does is checked by `NonceService.valid`. -/
def NonceService.validNonce (gcm : AEAD) (ns : NonceService) (nonce : String) :
    Bool × NonceService :=
  match decrypt gcm nonce with
  | .error _ => (false, ns)
  | .ok c => ns.valid c

/-! ## The byte layer -/

theorem copySlice_of_length_le {α : Type} {dst src : List α} (h : src.length ≤ dst.length) :
    copySlice dst src = src ++ dst.drop src.length := by
  rw [copySlice, List.take_of_length_le h]

/-- `copy` of as many bytes as the destination holds replaces it. -/
theorem copySlice_of_length_eq {α : Type} {dst src : List α} (h : src.length = dst.length) :
    copySlice dst src = src := by
  rw [copySlice_of_length_le h.le, List.drop_eq_nil_of_le h.ge, List.append_nil]

theorem lt_pow_byteLength (n : ℕ) : n < 256 ^ byteLength n := by
  unfold byteLength
  split
  · next h => simp [h]
  · exact Nat.lt_pow_succ_log_self (by decide) n

theorem byteLength_le {n : ℕ} (h : n < 256 ^ 8) : byteLength n ≤ 8 := by
  unfold byteLength
  split
  · omega
  · next h0 => exact Nat.log_lt_of_lt_pow h0 h

/-- Leading zero bytes: `k` more bytes of a number that fits in `l` are zeros. -/
theorem natToBytes_add {n l : ℕ} (h : n < 256 ^ l) (k : ℕ) :
    natToBytes (k + l) n = List.replicate k 0 ++ natToBytes l n := by
  induction k with
  | zero => rw [Nat.zero_add, List.replicate_zero, List.nil_append]
  | succ k ih =>
    have hpow : 256 ^ l ≤ 256 ^ (k + l) := Nat.pow_le_pow_right (by decide) (by omega)
    have hzero : n / 256 ^ (k + l) = 0 := Nat.div_eq_of_lt (by omega)
    rw [Nat.add_right_comm, natToBytes, ih, hzero, List.replicate_succ, List.cons_append]
    rfl

/-- An `int64`'s magnitude fits in the eight bytes: the plaintext is its 8-byte big-endian form. -/
theorem counterPlaintext_eq {c : ℤ} (h : c.natAbs < 256 ^ 8) :
    counterPlaintext c = natToBytes 8 c.natAbs := by
  have hlen : byteLength c.natAbs ≤ 8 := byteLength_le h
  have hsplit : natToBytes 8 c.natAbs =
      List.replicate (8 - byteLength c.natAbs) 0 ++ natToBytes (byteLength c.natAbs) c.natAbs := by
    rw [← natToBytes_add (lt_pow_byteLength c.natAbs), Nat.sub_add_cancel hlen]
  rw [hsplit, counterPlaintext, intBytes, length_natToBytes, List.take_replicate,
    List.drop_replicate, Nat.min_eq_left (Nat.sub_le 8 _), copySlice_of_length_eq (by simp; omega)]

theorem length_counterPlaintext (c : ℤ) : (counterPlaintext c).length = 8 := by
  simp only [counterPlaintext, copySlice, List.length_append, List.length_take, List.length_drop,
    List.length_replicate]
  omega

/-! ## `encrypt` -/

/-- The GCM nonce `encrypt` seals under. -/
def sealNonce (r : List.Vector UInt8 8) : List UInt8 := List.replicate 4 0 ++ r.toList

theorem length_sealNonce (r : List.Vector UInt8 8) : (sealNonce r).length = 12 := by
  simp [sealNonce]

/-- **Spec of `encrypt`.** The encoded buffer is the eight random bytes and the sealed counter:
`Seal` gives 24 bytes, which fill the buffer. -/
theorem encrypt_eq (gcm : AEAD) (r : List.Vector UInt8 8) (c : ℤ) :
    encrypt gcm (.ok r) c =
      .ok (rawURLEncoding.encodeToString (r.toList ++ gcm.sealBytes (sealNonce r) (counterPlaintext c))) := by
  have hct : (gcm.sealBytes (sealNonce r) (counterPlaintext c)).length = 24 := by
    rw [gcm.length_seal _ _ (length_sealNonce r), length_counterPlaintext]
  have hr : r.toList.length = 8 := r.toList_length
  have hret : copySlice (List.replicate nonceLen (0 : UInt8)) r.toList =
      r.toList ++ List.replicate 24 0 := by
    rw [copySlice_of_length_le (by simp [nonceLen, hr]), hr, List.drop_replicate]
    rfl
  have hnonce : List.replicate 4 (0 : UInt8) ++ r.toList = sealNonce r := rfl
  have hdrop : (sealNonce r).drop 4 = r.toList := by simp [sealNonce]
  simp only [encrypt, hnonce, hdrop, hret, List.take_left' hr, List.drop_left' hr]
  rw [copySlice_of_length_eq (by rw [hct, List.length_replicate])]

/-- **The nonce is 43 characters**: `EncodedLen(32)` without padding. -/
theorem length_encrypt (gcm : AEAD) (r : List.Vector UInt8 8) (c : ℤ) :
    ∃ s, encrypt gcm (.ok r) c = .ok s ∧ s.length = 43 := by
  refine ⟨_, encrypt_eq gcm r c, ?_⟩
  have hct : (gcm.sealBytes (sealNonce r) (counterPlaintext c)).length = 24 := by
    rw [gcm.length_seal _ _ (length_sealNonce r), length_counterPlaintext]
  rw [length_encodeToString, List.length_append, r.toList_length, hct]
  rfl

/-! ## `decrypt` -/

/-- **Length check.** A string that does not decode to `nonceLen` bytes is refused, before
anything is opened. -/
theorem decrypt_rejects (gcm : AEAD) (s : String)
    (h : ∀ d, rawURLEncoding.decodeString s = some d → d.length ≠ nonceLen) :
    decrypt gcm s = .error .corruptInput ∨ decrypt gcm s = .error .invalidNonceLength := by
  unfold decrypt
  cases hd : rawURLEncoding.decodeString s with
  | none => exact Or.inl rfl
  | some d => exact Or.inr (if_pos (h d hd))

/-- `SetBytes` and `Int64` read the 8-byte form of a counter below `2 ^ 63` back. -/
theorem int64Of_natToBytes {c : ℤ} (h0 : 0 ≤ c) (h1 : c < 2 ^ 63) :
    int64Of (bytesToNat (natToBytes 8 c.natAbs)) = c := by
  have habs : (c.natAbs : ℤ) = c := Int.natAbs_of_nonneg h0
  have hlt : c.natAbs < 2 ^ 63 := by omega
  rw [bytesToNat_natToBytes, Nat.mod_eq_of_lt (by omega : c.natAbs < 256 ^ 8), int64Of,
    Nat.mod_eq_of_lt (by omega : c.natAbs < 2 ^ 64), if_pos hlt, habs]

/-- **Round trip.** Every counter from zero up to the `int64` bound decrypts to itself. -/
theorem decrypt_encrypt (gcm : AEAD) (r : List.Vector UInt8 8) {c : ℤ} (h0 : 0 ≤ c)
    (h1 : c < 2 ^ 63) :
    decrypt gcm (rawURLEncoding.encodeToString
      (r.toList ++ gcm.sealBytes (sealNonce r) (counterPlaintext c))) = .ok c := by
  have hct : (gcm.sealBytes (sealNonce r) (counterPlaintext c)).length = 24 := by
    rw [gcm.length_seal _ _ (length_sealNonce r), length_counterPlaintext]
  have hr : r.toList.length = 8 := r.toList_length
  have hlen : (r.toList ++ gcm.sealBytes (sealNonce r) (counterPlaintext c)).length = nonceLen := by
    rw [List.length_append, hr, hct]
    rfl
  have hnonce : (List.replicate 12 (0 : UInt8)).take 4 ++
      copySlice ((List.replicate 12 (0 : UInt8)).drop 4)
        ((r.toList ++ gcm.sealBytes (sealNonce r) (counterPlaintext c)).take 8) = sealNonce r := by
    rw [List.take_left' hr, List.take_replicate, List.drop_replicate,
      copySlice_of_length_eq (by simp [hr])]
    rfl
  have hpt : counterPlaintext c = natToBytes 8 c.natAbs := counterPlaintext_eq (by omega)
  unfold decrypt
  rw [decodeString_encodeToString]
  simp only [hlen, ne_eq, not_true_eq_false, if_false, hnonce, List.drop_left' hr,
    gcm.open_seal _ _ (length_sealNonce r)]
  rw [hpt, int64Of_natToBytes h0 h1]

/-- The nonce of an issued counter is checked as the counter is. -/
theorem validNonce_encrypt (gcm : AEAD) (ns : NonceService) (r : List.Vector UInt8 8) {c : ℤ}
    (h0 : 0 ≤ c) (h1 : c < 2 ^ 63) :
    ns.validNonce gcm (rawURLEncoding.encodeToString
      (r.toList ++ gcm.sealBytes (sealNonce r) (counterPlaintext c))) = ns.valid c := by
  rw [NonceService.validNonce, decrypt_encrypt gcm r h0 h1]

/-! ## The codec as a whole -/

/-- The nonce codec: every counter `Nonce` issues before the `int64` overflows decrypts to
itself; every nonce is 43 characters, the encoding of the eight random bytes followed by the 24
sealed ones; and a string whose decoding is not 32 bytes is refused. -/
theorem nonce_encoding_round_trip (gcm : AEAD) :
    (∀ (r : List.Vector UInt8 8) (c : ℤ), 1 ≤ c → c ≤ 2 ^ 63 - 1 →
      ∃ s, encrypt gcm (.ok r) c = .ok s ∧ decrypt gcm s = .ok c) ∧
    (∀ (r : List.Vector UInt8 8) (c : ℤ), ∃ buf : List UInt8,
      encrypt gcm (.ok r) c = .ok (rawURLEncoding.encodeToString buf) ∧
      buf = r.toList ++ gcm.sealBytes (sealNonce r) (counterPlaintext c) ∧
      (gcm.sealBytes (sealNonce r) (counterPlaintext c)).length = 24 ∧
      (rawURLEncoding.encodeToString buf).length = 43) ∧
    (∀ s, (∀ d, rawURLEncoding.decodeString s = some d → d.length ≠ nonceLen) →
      decrypt gcm s = .error .corruptInput ∨ decrypt gcm s = .error .invalidNonceLength) := by
  refine ⟨?_, ?_, decrypt_rejects gcm⟩
  · intro r c h1 h2
    exact ⟨_, encrypt_eq gcm r c, decrypt_encrypt gcm r (by omega) (by omega)⟩
  · intro r c
    have hct : (gcm.sealBytes (sealNonce r) (counterPlaintext c)).length = 24 := by
      rw [gcm.length_seal _ _ (length_sealNonce r), length_counterPlaintext]
    obtain ⟨s, hs, hlen⟩ := length_encrypt gcm r c
    rw [encrypt_eq gcm r c] at hs
    refine ⟨_, encrypt_eq gcm r c, rfl, hct, ?_⟩
    rw [Except.ok.inj hs]
    exact hlen

/-- An `AEAD` that satisfies the two laws and hides nothing: `Seal` appends sixteen zero bytes. -/
def plainAEAD : AEAD where
  sealBytes _ pt := pt ++ List.replicate 16 0
  openBytes _ ct := if ct.length < 16 then none else some (ct.take (ct.length - 16))
  open_seal := fun _ pt _ => by simp
  length_seal := fun _ pt _ => by simp

theorem nonce_encoding_round_trip_example :
    ∃ s, encrypt plainAEAD (.ok ⟨[1, 2, 3, 4, 5, 6, 7, 8], rfl⟩) 1 = .ok s ∧
      decrypt plainAEAD s = .ok 1 :=
  (nonce_encoding_round_trip plainAEAD).1 _ 1 (by decide) (by decide)

end Boulder.Nonce
