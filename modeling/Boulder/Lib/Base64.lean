/-
# Boulder.Lib.Base64 -- Go's encoding/base64 (Go 1.8)

An `Encoding` is its alphabet of 64 characters. `Encode` turns each three bytes into four
characters, six bits each, most significant first; with `NoPadding` a last one or two bytes give
two or three characters and nothing more. `decode` skips `\n` and `\r` wherever they stand,
reads four characters at a time into three bytes, and reads a last two or three into one or two;
a character outside the alphabet, or a single one at the end, is a `CorruptInputError`. The
encodings here are not strict, so the bits a short last quantum leaves over are ignored.

Decoding undoes encoding for every byte list (`decodeString_encodeToString`), and the encoding of
`n` bytes has `EncodedLen(n) = (8n + 5) / 6` characters. The error's byte offset is not modelled:
`decodeString` returns `none`. An encoding with `StdPadding` writes `=` up to a whole last
quantum (`encodeToStringPadded`); only the encoder of that kind is modelled. This module names
no program.
-/
import Mathlib.Data.List.Basic
import Mathlib.Algebra.Group.Nat.Defs

namespace Boulder.Lib.Base64

/-- The two characters `decode` skips. -/
def isNewline (c : Char) : Bool := c == '\n' || c == '\r'

/-- An `Encoding` with `NoPadding`, by its alphabet. `decodeMap` inverts the alphabet, and no
character of it is one that `decode` skips. -/
structure Encoding where
  encode : List Char
  length_encode : encode.length = 64
  idxOf_encode : ∀ i < 64, encode.idxOf (encode.getD i ' ') = i
  not_newline : encode.all (fun c => !isNewline c) = true

namespace Encoding

variable (enc : Encoding)

/-- `enc.encode[v & 0x3F]`. -/
def char (v : ℕ) : Char := enc.encode.getD (v % 64) ' '

/-- `enc.decodeMap[c]`, with the invalid entry `0xFF` as `none`. -/
def decodeMap (c : Char) : Option ℕ :=
  if enc.encode.idxOf c < 64 then some (enc.encode.idxOf c) else none

/-- The four characters of a 24-bit quantum `val`, most significant sextet first. -/
def encodeQuantum (val : ℕ) : List Char :=
  [enc.char (val / 2 ^ 18), enc.char (val / 2 ^ 12), enc.char (val / 2 ^ 6), enc.char val]

/-- `Encode` with `NoPadding`: a quantum per three bytes, then the first two or three characters
of the quantum of the last one or two bytes. -/
def encodeBytes : List UInt8 → List Char
  | b0 :: b1 :: b2 :: rest =>
    enc.encodeQuantum (b0.toNat * 2 ^ 16 + b1.toNat * 2 ^ 8 + b2.toNat) ++ encodeBytes rest
  | [b0, b1] => (enc.encodeQuantum (b0.toNat * 2 ^ 16 + b1.toNat * 2 ^ 8)).take 3
  | [b0] => (enc.encodeQuantum (b0.toNat * 2 ^ 16)).take 2
  | [] => []

/-- `EncodeToString`. -/
def encodeToString (src : List UInt8) : String := String.ofList (enc.encodeBytes src)

/-- `EncodedLen` with `NoPadding`. -/
def encodedLen (n : ℕ) : ℕ := (n * 8 + 5) / 6

/-- The three bytes of the 24-bit `val`; a quantum of `dlen` characters keeps `dlen - 1`. -/
def quantumBytes (val dlen : ℕ) : List UInt8 :=
  [UInt8.ofNat (val / 2 ^ 16), UInt8.ofNat (val / 2 ^ 8), UInt8.ofNat val].take (dlen - 1)

/-- `decode`, quantum by quantum, over the characters left once the newlines are skipped. The
sextets a short last quantum lacks are zero, as in `dbuf`. -/
def decodeQuanta : List Char → Option (List UInt8)
  | c0 :: c1 :: c2 :: c3 :: rest => do
    let v0 ← enc.decodeMap c0
    let v1 ← enc.decodeMap c1
    let v2 ← enc.decodeMap c2
    let v3 ← enc.decodeMap c3
    let tail ← decodeQuanta rest
    pure (quantumBytes (v0 * 2 ^ 18 + v1 * 2 ^ 12 + v2 * 2 ^ 6 + v3) 4 ++ tail)
  | [c0, c1, c2] => do
    let v0 ← enc.decodeMap c0
    let v1 ← enc.decodeMap c1
    let v2 ← enc.decodeMap c2
    pure (quantumBytes (v0 * 2 ^ 18 + v1 * 2 ^ 12 + v2 * 2 ^ 6) 3)
  | [c0, c1] => do
    let v0 ← enc.decodeMap c0
    let v1 ← enc.decodeMap c1
    pure (quantumBytes (v0 * 2 ^ 18 + v1 * 2 ^ 12) 2)
  | [_] => none
  | [] => some []

/-- `DecodeString`: `none` is a `CorruptInputError`. -/
def decodeString (s : String) : Option (List UInt8) :=
  enc.decodeQuanta (s.toList.filter fun c => !isNewline c)

/-! ## The alphabet -/

variable {enc}

theorem char_mem (v : ℕ) : enc.char v ∈ enc.encode := by
  have hlt : v % 64 < enc.encode.length := by
    rw [enc.length_encode]
    exact Nat.mod_lt v (by decide)
  rw [char, List.getD_eq_getElem?_getD, List.getElem?_eq_getElem hlt, Option.getD_some]
  exact List.getElem_mem hlt

@[simp] theorem decodeMap_char (v : ℕ) : enc.decodeMap (enc.char v) = some (v % 64) := by
  have hidx := enc.idxOf_encode (v % 64) (Nat.mod_lt v (by decide))
  rw [decodeMap, char, hidx, if_pos (Nat.mod_lt v (by decide))]

theorem mem_encodeBytes {src : List UInt8} {c : Char} (h : c ∈ enc.encodeBytes src) :
    c ∈ enc.encode := by
  fun_induction enc.encodeBytes src with
  | case1 b0 b1 b2 rest ih =>
    rcases List.mem_append.mp h with h | h
    · simp only [encodeQuantum, List.mem_cons, List.not_mem_nil, or_false] at h
      rcases h with rfl | rfl | rfl | rfl <;> exact char_mem _
    · exact ih h
  | case2 b0 b1 =>
    simp only [encodeQuantum, List.take_succ_cons, List.take_zero, List.mem_cons,
      List.not_mem_nil, or_false] at h
    rcases h with rfl | rfl | rfl <;> exact char_mem _
  | case3 b0 =>
    simp only [encodeQuantum, List.take_succ_cons, List.take_zero, List.mem_cons,
      List.not_mem_nil, or_false] at h
    rcases h with rfl | rfl <;> exact char_mem _
  | case4 => cases h

/-- The encoder writes no newline, so the decoder skips nothing of what it wrote. -/
theorem filter_encodeBytes (src : List UInt8) :
    (enc.encodeBytes src).filter (fun c => !isNewline c) = enc.encodeBytes src :=
  List.filter_eq_self.mpr fun _ hc => List.all_eq_true.mp enc.not_newline _ (mem_encodeBytes hc)

/-! ## Lengths -/

theorem length_encodeBytes (src : List UInt8) :
    (enc.encodeBytes src).length = encodedLen src.length := by
  fun_induction enc.encodeBytes src with
  | case1 b0 b1 b2 rest ih =>
    rw [List.length_append, ih]
    simp only [encodeQuantum, encodedLen, List.length_cons, List.length_nil]
    omega
  | case2 b0 b1 => simp [encodeQuantum, encodedLen]
  | case3 b0 => simp [encodeQuantum, encodedLen]
  | case4 => rfl

theorem length_encodeToString (src : List UInt8) :
    (enc.encodeToString src).length = encodedLen src.length := by
  rw [encodeToString, String.length_ofList, length_encodeBytes]

/-! ## The round trip -/

/-- Three bytes read as a quantum and back: the bytes, of which `dlen - 1` are kept. -/
theorem quantumBytes_bytes (b0 b1 b2 : UInt8) (dlen : ℕ) :
    quantumBytes (b0.toNat * 2 ^ 16 + b1.toNat * 2 ^ 8 + b2.toNat) dlen =
      [b0, b1, b2].take (dlen - 1) := by
  have h0 := b0.toNat_lt
  have h1 := b1.toNat_lt
  have h2 := b2.toNat_lt
  have hb0 : UInt8.ofNat ((b0.toNat * 2 ^ 16 + b1.toNat * 2 ^ 8 + b2.toNat) / 2 ^ 16) = b0 := by
    apply UInt8.toNat_inj.mp
    rw [UInt8.toNat_ofNat']
    omega
  have hb1 : UInt8.ofNat ((b0.toNat * 2 ^ 16 + b1.toNat * 2 ^ 8 + b2.toNat) / 2 ^ 8) = b1 := by
    apply UInt8.toNat_inj.mp
    rw [UInt8.toNat_ofNat']
    omega
  have hb2 : UInt8.ofNat (b0.toNat * 2 ^ 16 + b1.toNat * 2 ^ 8 + b2.toNat) = b2 := by
    apply UInt8.toNat_inj.mp
    rw [UInt8.toNat_ofNat']
    omega
  rw [quantumBytes, hb0, hb1, hb2]

/-- The sextets of a 24-bit value, put back together, give the value. -/
theorem sextets_val {val : ℕ} (h : val < 2 ^ 24) :
    val / 2 ^ 18 % 64 * 2 ^ 18 + val / 2 ^ 12 % 64 * 2 ^ 12 + val / 2 ^ 6 % 64 * 2 ^ 6 +
      val % 64 = val := by
  omega

theorem decodeQuanta_encodeBytes (src : List UInt8) :
    enc.decodeQuanta (enc.encodeBytes src) = some src := by
  fun_induction enc.encodeBytes src with
  | case1 b0 b1 b2 rest ih =>
    have hval : b0.toNat * 2 ^ 16 + b1.toNat * 2 ^ 8 + b2.toNat < 2 ^ 24 := by
      have := b0.toNat_lt; have := b1.toNat_lt; have := b2.toNat_lt
      omega
    simp only [encodeQuantum, List.cons_append, List.nil_append, decodeQuanta, decodeMap_char,
      ih, Option.bind_eq_bind, Option.bind_some, Option.pure_def, sextets_val hval,
      quantumBytes_bytes]
    rfl
  | case2 b0 b1 =>
    have hval : (b0.toNat * 2 ^ 16 + b1.toNat * 2 ^ 8) / 2 ^ 18 % 64 * 2 ^ 18 +
        (b0.toNat * 2 ^ 16 + b1.toNat * 2 ^ 8) / 2 ^ 12 % 64 * 2 ^ 12 +
        (b0.toNat * 2 ^ 16 + b1.toNat * 2 ^ 8) / 2 ^ 6 % 64 * 2 ^ 6 =
        b0.toNat * 2 ^ 16 + b1.toNat * 2 ^ 8 + (0 : UInt8).toNat := by
      have := b0.toNat_lt; have := b1.toNat_lt
      simp only [UInt8.toNat_zero]
      omega
    simp only [encodeQuantum, List.take_succ_cons, List.take_zero, decodeQuanta, decodeMap_char,
      Option.bind_eq_bind, Option.bind_some, Option.pure_def, hval, quantumBytes_bytes]
  | case3 b0 =>
    have hval : b0.toNat * 2 ^ 16 / 2 ^ 18 % 64 * 2 ^ 18 + b0.toNat * 2 ^ 16 / 2 ^ 12 % 64 * 2 ^ 12 =
        b0.toNat * 2 ^ 16 + (0 : UInt8).toNat * 2 ^ 8 + (0 : UInt8).toNat := by
      have := b0.toNat_lt
      simp only [UInt8.toNat_zero]
      omega
    simp only [encodeQuantum, List.take_succ_cons, List.take_zero, decodeQuanta, decodeMap_char,
      Option.bind_eq_bind, Option.bind_some, Option.pure_def, hval, quantumBytes_bytes]
  | case4 => rfl

/-- **Round trip.** `DecodeString` undoes `EncodeToString`, for every byte list. -/
theorem decodeString_encodeToString (src : List UInt8) :
    enc.decodeString (enc.encodeToString src) = some src := by
  rw [decodeString, encodeToString, String.toList_ofList, filter_encodeBytes,
    decodeQuanta_encodeBytes]

end Encoding

/-! ## `RawURLEncoding` -/

/-- `encodeURL`: the alphabet of RFC 4648's URL and file name safe encoding. -/
def encodeURL : String := "ABCDEFGHIJKLMNOPQRSTUVWXYZabcdefghijklmnopqrstuvwxyz0123456789-_"

/-- `RawURLEncoding`: the URL alphabet with `NoPadding`. -/
def rawURLEncoding : Encoding where
  encode := encodeURL.toList
  length_encode := by decide +kernel
  idxOf_encode := by decide +kernel
  not_newline := by decide +kernel

example : rawURLEncoding.encodeToString [0x4d, 0x61] = "TWE" := by decide +kernel

/-! ## `StdEncoding` -/

/-- `StdPadding`: the `=` that fill a last quantum of one or two bytes up to four characters. -/
def padding (n : ℕ) : List Char :=
  List.replicate ((3 - n % 3) % 3) '='

/-- `EncodeToString` of an encoding with `StdPadding`. -/
def Encoding.encodeToStringPadded (enc : Encoding) (src : List UInt8) : String :=
  String.ofList (enc.encodeBytes src ++ padding src.length)

/-- `encodeStd`: the alphabet of RFC 4648's standard encoding. -/
def encodeStd : String := "ABCDEFGHIJKLMNOPQRSTUVWXYZabcdefghijklmnopqrstuvwxyz0123456789+/"

/-- `StdEncoding`: the standard alphabet, written with `StdPadding`. -/
def stdEncoding : Encoding where
  encode := encodeStd.toList
  length_encode := by decide +kernel
  idxOf_encode := by decide +kernel
  not_newline := by decide +kernel

example : stdEncoding.encodeToStringPadded [0x4d] = "TQ==" := by decide +kernel

end Boulder.Lib.Base64
