/-
# Boulder.Lib.GoStrings -- the few functions of Go's `strings`, `sort`, `strconv`, `fmt`,
`encoding/hex` and `encoding/json` in use

Go strings are byte sequences; here they are Lean `String`s and every function works on the
character list (`String.toList`), so that definitions evaluate by `decide` and proofs reason
about lists. The separators and cut sets that occur are ASCII, for which character and byte
positions agree.

Two documented differences from Go: `toLower` maps only `'A'`–`'Z'` (Go's `strings.ToLower`
maps every Unicode upper-case letter), and `split` takes a one-character separator (every
call modelled here splits on `"."` or `","`). `replace` is `strings.Replace` with a negative
count and a non-empty pattern, and `queryEscape` is `url.QueryEscape`, on the UTF-8 bytes.

Splitting and joining at one character are inverse (`join_split`, `split_join`), and both
commute with a character map that fixes the separator and makes no new one (`split_map`,
`join_map`); replacing one character is a map over the characters (`replace_singleton`).
-/
import Mathlib.Data.List.Sort
import Mathlib.Data.String.Basic
import Mathlib.Data.List.Dedup
import Mathlib.Data.List.DropRight
import Mathlib.Tactic.IntervalCases
import Mathlib.Data.List.Infix

namespace Boulder.Lib.GoStrings

/-- `strings.ToLower`, on ASCII letters. -/
def toLower (s : String) : String :=
  String.ofList (s.toList.map Char.toLower)

/-- `strings.Split(s, sep)` for a one-character separator: the pieces between the
separators, so `split "" c = [""]`. -/
def split (s : String) (sep : Char) : List String :=
  (s.toList.splitOn sep).map String.ofList

/-- `strings.Join(xs, sep)`. -/
def join (xs : List String) (sep : String) : String :=
  String.ofList (sep.toList.intercalate (xs.map String.toList))

/-- `strings.TrimRight(s, cutset)`: drop trailing characters that occur in `cutset`. -/
def trimRight (s : String) (cutset : List Char) : String :=
  String.ofList (s.toList.rdropWhile (· ∈ cutset))

/-- `strings.Trim(s, cutset)`: drop leading and trailing characters that occur in `cutset`. -/
def trim (s : String) (cutset : List Char) : String :=
  String.ofList ((s.toList.dropWhile (· ∈ cutset)).rdropWhile (· ∈ cutset))

/-- `strings.HasSuffix(s, suffix)`. -/
def hasSuffix (s suffix : String) : Bool :=
  suffix.toList.isSuffixOf s.toList

/-- `strings.IndexByte(s, c)`: the position of the first `c`, if any. -/
def indexByte (s : String) (c : Char) : Option ℕ :=
  s.toList.findIdx? (· = c)

/-- `s[0:i]`. -/
def prefixTo (s : String) (i : ℕ) : String :=
  String.ofList (s.toList.take i)

/-- `sort.Strings`: ascending byte-wise order, which on valid UTF-8 is Lean's order on
`String`. Equal strings are identical, so every correct sort returns this list. -/
def sortStrings (xs : List String) : List String :=
  xs.insertionSort (· ≤ ·)

/-- The value of a string of decimal digits; `none` if it is empty or has another character. -/
def decimalValue (cs : List Char) : Option ℕ :=
  if cs = [] then none
  else cs.foldlM (fun n c => if c.isDigit then some (10 * n + (c.toNat - '0'.toNat)) else none) 0

/-- The value of one hex digit, of either case. -/
def hexDigit? (c : Char) : Option ℕ :=
  if c.isDigit then some (c.toNat - '0'.toNat)
  else if 'a' ≤ c ∧ c ≤ 'f' then some (c.toNat - 'a'.toNat + 10)
  else if 'A' ≤ c ∧ c ≤ 'F' then some (c.toNat - 'A'.toNat + 10)
  else none

/-- The value of a string of hex digits; `none` if it is empty or has another character. -/
def hexValue (cs : List Char) : Option ℕ :=
  if cs = [] then none
  else cs.foldlM (fun n c => (hexDigit? c).map (16 * n + ·)) 0

/-- The last `k` hex digits of `v`, lower case and most significant first: for `v < 16 ^ k`,
what `%0kx` prints. -/
def hexPad : ℕ → ℕ → List Char
  | 0, _ => []
  | k + 1, v => hexPad k (v / 16) ++ [Nat.digitChar (v % 16)]

/-- `fmt.Sscanf(s, "%0<width>x", &n)` into a `big.Int`: the hex digits that start the first
`width` characters. `big.Int` also skips leading spaces and reads a sign, which no caller here
can pass. -/
def sscanfHex (width : ℕ) (s : String) : Except String ℕ :=
  match hexValue ((s.toList.take width).takeWhile fun c => (hexDigit? c).isSome) with
  | some n => .ok n
  | none => .error (if s.isEmpty then "unexpected EOF" else "number has no digits")

/-- `strconv.ParseInt(s, 10, 64)`: an optional sign, decimal digits, a value in `int64`. -/
def parseInt (s : String) : Option ℤ :=
  let value : Option ℤ :=
    match s.toList with
    | '-' :: cs => (decimalValue cs).map fun n => -(n : ℤ)
    | '+' :: cs => (decimalValue cs).map fun n => (n : ℤ)
    | cs => (decimalValue cs).map fun n => (n : ℤ)
  value.filter fun n => -2 ^ 63 ≤ n ∧ n < 2 ^ 63

/-- Two lower-case hex digits of a byte. -/
def hexByte (n : ℕ) : List Char :=
  [Nat.digitChar (n / 16 % 16), Nat.digitChar (n % 16)]

/-- `hex.EncodeToString`: two lower-case hex digits per byte. -/
def hexEncodeToString (src : List UInt8) : String :=
  String.ofList (src.flatMap fun b => hexByte b.toNat)

/-- `hex.DecodeString`: two hex digits of either case per byte; `none` on an odd length or a
character that is not a hex digit. -/
def hexDecodeString : List Char → Option (List UInt8)
  | [] => some []
  | [_] => none
  | hi :: lo :: rest => do
    let a ← hexDigit? hi
    let b ← hexDigit? lo
    let bytes ← hexDecodeString rest
    pure ((16 * a + b).toUInt8 :: bytes)

/-- `strings.Contains`. -/
def contains (s substr : String) : Bool :=
  decide (substr.toList <:+: s.toList)

/-- The scan of `strings.Replace(s, old, new, -1)`: from the left, an occurrence of `old`
becomes `new` and the scan resumes after it. Each step consumes a character, so `fuel` at the
length of the string finishes the scan. -/
def replaceAux (old new : List Char) : ℕ → List Char → List Char
  | 0, s => s
  | _ + 1, [] => []
  | fuel + 1, c :: s =>
    if old ≠ [] ∧ old.isPrefixOf (c :: s) = true then
      new ++ replaceAux old new fuel ((c :: s).drop old.length)
    else c :: replaceAux old new fuel s

/-- `strings.Replace(s, old, new, -1)`. With an empty `old` Go writes `new` around every
character; no call modelled here passes one, and the string is kept as it is. -/
def replace (s old new : String) : String :=
  String.ofList (replaceAux old.toList new.toList s.length s.toList)

/-- A byte `url.QueryEscape` writes as it is: an ASCII letter or digit, or one of `-_.~`. -/
def isUnreserved (b : UInt8) : Bool :=
  (Char.ofNat b.toNat).isAlphanum || b == 45 || b == 95 || b == 46 || b == 126

/-- `"0123456789ABCDEF"[v]`. -/
def upperHexDigit (v : ℕ) : Char :=
  (Nat.digitChar v).toUpper

/-- One byte as `url.QueryEscape` writes it: a space as `+`, an unreserved byte as it is,
any other as `%` and two upper-case hex digits. -/
def queryEscapeByte (b : UInt8) : List Char :=
  if b = 32 then ['+']
  else if isUnreserved b then [Char.ofNat b.toNat]
  else ['%', upperHexDigit (b.toNat / 16), upperHexDigit (b.toNat % 16)]

/-- `url.QueryEscape`: every UTF-8 byte of the string, escaped. -/
def queryEscape (s : String) : String :=
  String.ofList (s.toList.flatMap fun c => (String.utf8EncodeChar c).flatMap queryEscapeByte)

/-- One character as `strconv.Quote` writes it: the quote and the backslash escaped, the ASCII
control characters by their short or `\x` escapes, every other character as it is. -/
def quoteChar (c : Char) : List Char :=
  if c = '"' then ['\\', '"']
  else if c = '\\' then ['\\', '\\']
  else if c.toNat = 7 then ['\\', 'a']
  else if c.toNat = 8 then ['\\', 'b']
  else if c.toNat = 12 then ['\\', 'f']
  else if c.toNat = 10 then ['\\', 'n']
  else if c.toNat = 13 then ['\\', 'r']
  else if c.toNat = 9 then ['\\', 't']
  else if c.toNat = 11 then ['\\', 'v']
  else if c.toNat < 32 ∨ c.toNat = 127 then '\\' :: 'x' :: hexByte c.toNat
  else [c]

/-- `strconv.Quote`, which `%q` prints for a string. Go also escapes the non-printable
characters beyond ASCII; those are kept here. -/
def quote (s : String) : String :=
  String.ofList ('"' :: s.toList.flatMap quoteChar ++ ['"'])

/-- Where `fmt` is in a format: in plain text, or in a verb's flags, width or precision. -/
inductive FmtPhase where
  | text
  | flags
  | width
  | precision
  deriving DecidableEq, Repr

/-- What a verb prints when no argument is left: `%%` prints `%`, any other verb `%!v(MISSING)`. -/
def missingVerb (c : Char) : List Char :=
  if c = '%' then ['%'] else '%' :: '!' :: c :: "(MISSING)".toList

/-- `fmt`'s scan of a format with no arguments: flags (`#0+- `), then width digits, then a `.`
and precision digits, then the verb; a format that ends inside a verb prints `%!(NOVERB)`. An
argument index (`%[1]d`) and a `*` width are not modelled. -/
def fmtNoArgs : FmtPhase → List Char → List Char
  | .text, [] => []
  | _, [] => "%!(NOVERB)".toList
  | .text, c :: rest => if c = '%' then fmtNoArgs .flags rest else c :: fmtNoArgs .text rest
  | .flags, c :: rest =>
    if c ∈ ['#', '0', '+', '-', ' '] then fmtNoArgs .flags rest
    else if c.isDigit then fmtNoArgs .width rest
    else if c = '.' ∧ rest ≠ [] then fmtNoArgs .precision rest
    else missingVerb c ++ fmtNoArgs .text rest
  | .width, c :: rest =>
    if c.isDigit then fmtNoArgs .width rest
    else if c = '.' ∧ rest ≠ [] then fmtNoArgs .precision rest
    else missingVerb c ++ fmtNoArgs .text rest
  | .precision, c :: rest =>
    if c.isDigit then fmtNoArgs .precision rest
    else missingVerb c ++ fmtNoArgs .text rest

/-- `fmt.Sprintf(format)` with no arguments, as `berrors.New` formats a detail passed as the
format. -/
def sprintfNoArgs (format : String) : String :=
  String.ofList (fmtNoArgs .text format.toList)

/-- The value of an optionally signed decimal, with no bound. -/
def signedDecimalValue (s : String) : Option ℤ :=
  match s.toList with
  | '-' :: cs => (decimalValue cs).map fun n => -(n : ℤ)
  | '+' :: cs => (decimalValue cs).map fun n => (n : ℤ)
  | cs => (decimalValue cs).map fun n => (n : ℤ)

/-- The text of a `*strconv.NumError`. -/
def numError (fn s reason : String) : String :=
  "strconv." ++ fn ++ ": parsing " ++ quote s ++ ": " ++ reason

/-- `strconv.Atoi`: an optional sign and decimal digits, with a value in a 64-bit `int`; or the
error's text. -/
def atoi (s : String) : Except String ℤ :=
  match signedDecimalValue s with
  | none => .error (numError "Atoi" s "invalid syntax")
  | some i =>
    if -2 ^ 63 ≤ i ∧ i < 2 ^ 63 then .ok i else .error (numError "Atoi" s "value out of range")

/-- One character as `json.Marshal` writes it inside a string: the quote, the backslash and the
control characters escaped, and `<`, `>`, `&`, U+2028 and U+2029 as `\u` escapes. -/
def jsonChar (c : Char) : List Char :=
  if c = '"' ∨ c = '\\' then ['\\', c]
  else if c.toNat = 10 then ['\\', 'n']
  else if c.toNat = 13 then ['\\', 'r']
  else if c.toNat = 9 then ['\\', 't']
  else if c.toNat < 32 ∨ c = '<' ∨ c = '>' ∨ c = '&' then
    '\\' :: 'u' :: '0' :: '0' :: hexByte c.toNat
  else if c.toNat = 0x2028 ∨ c.toNat = 0x2029 then
    ['\\', 'u', '2', '0', '2', Nat.digitChar (c.toNat % 16)]
  else [c]

/-- A string as `json.Marshal` writes it. -/
def jsonString (s : String) : List Char :=
  '"' :: s.toList.flatMap jsonChar ++ ['"']

/-- `Char.toLower` leaves a character that is not an upper-case ASCII letter alone. -/
theorem char_toLower_of_not_isUpper {c : Char} (h : ¬ c.isUpper) : c.toLower = c := by
  -- by delta: the equation lemmas of these definitions belong to the standard library
  delta Char.isUpper at h
  delta Char.toLower
  simp_all [UInt32.le_iff_toNat_le]

/-- `Char.toLower` never returns an upper-case ASCII letter. -/
theorem char_isUpper_toLower (c : Char) : c.toLower.isUpper = false := by
  delta Char.isUpper Char.toLower
  split <;> grind [UInt32.toNat_add, Char.toNat_val]

/-- `Char.toLower` turns an upper-case ASCII letter into a lower-case one. -/
theorem char_isLower_toLower {c : Char} (h : c.isUpper) : c.toLower.isLower := by
  delta Char.isUpper at h
  delta Char.isLower Char.toLower
  split <;> grind [UInt32.toNat_add, Char.toNat_val, UInt32.le_iff_toNat_le]

@[simp] theorem toList_toLower (s : String) : (toLower s).toList = s.toList.map Char.toLower := by
  simp [toLower]

theorem perm_sortStrings (xs : List String) : (sortStrings xs).Perm xs :=
  List.perm_insertionSort _ _

@[simp] theorem mem_sortStrings {xs : List String} {x : String} : x ∈ sortStrings xs ↔ x ∈ xs :=
  (perm_sortStrings xs).mem_iff

@[simp] theorem length_sortStrings (xs : List String) : (sortStrings xs).length = xs.length :=
  (perm_sortStrings xs).length_eq

/-- Two lists sort to the same list exactly when they hold the same strings with the same
multiplicities. -/
theorem sortStrings_eq_iff_perm {xs ys : List String} : sortStrings xs = sortStrings ys ↔ xs.Perm ys := by
  constructor
  · intro h
    have hys : (sortStrings xs).Perm ys := h ▸ perm_sortStrings ys
    exact (perm_sortStrings xs).symm.trans hys
  · intro h
    exact List.Perm.eq_of_sortedLE List.sortedLE_insertionSort List.sortedLE_insertionSort
      ((perm_sortStrings xs).trans (h.trans (perm_sortStrings ys).symm))

theorem toLower_eq_empty {s : String} : toLower s = "" ↔ s = "" := by
  rw [← String.toList_inj, toList_toLower, ← String.toList_inj]
  simp

theorem toLower_toLower (s : String) : toLower (toLower s) = toLower s := by
  apply String.toList_inj.mp
  simp only [toList_toLower, List.map_map]
  congr 1
  funext c
  exact char_toLower_of_not_isUpper (by rw [char_isUpper_toLower]; exact Bool.false_ne_true)

/-- Cutting trailing characters off a list that does not start with one of them leaves a list
that still does not start with one: the first character stays. -/
theorem dropWhile_rdropWhile_of_head {p : Char → Bool} {l : List Char} (h : l.dropWhile p = l) :
    (l.rdropWhile p).dropWhile p = l.rdropWhile p := by
  cases l with
  | nil => simp
  | cons x xs =>
    have hx : ¬ p x := by
      intro hp
      have hlen := congrArg List.length h
      simp [hp] at hlen
      have := List.length_dropWhile_le p xs
      omega
    obtain ⟨tl, htl⟩ := List.rdropWhile_prefix (p := p) (l := x :: xs)
    cases hy : (x :: xs).rdropWhile p with
    | nil =>
      have := List.rdropWhile_eq_nil_iff.mp hy x List.mem_cons_self
      exact absurd this hx
    | cons y ys =>
      rw [hy] at htl
      have hyx : y = x := (List.cons.inj htl).1
      subst hyx
      simp [hx]

/-- `strings.Trim` is idempotent. -/
theorem trim_trim (s : String) (cutset : List Char) : trim (trim s cutset) cutset = trim s cutset := by
  apply String.toList_inj.mp
  simp only [trim, String.toList_ofList]
  rw [dropWhile_rdropWhile_of_head (List.dropWhile_idempotent _ _), List.rdropWhile_idempotent]

/-- Up to the first occurrence of `c`, `s[0:IndexByte(s, c)]` is the longest prefix of `s`
without `c`. -/
theorem take_of_findIdx? {l : List Char} {c : Char} {i : ℕ} (h : l.findIdx? (· = c) = some i) :
    l.take i = l.takeWhile (· ≠ c) := by
  induction l generalizing i with
  | nil => simp at h
  | cons a l ih =>
    by_cases ha : a = c
    · rw [List.findIdx?_cons] at h
      simp only [ha, decide_true, ↓reduceIte, Option.some.injEq] at h
      subst h
      simp [ha]
    · rw [List.findIdx?_cons] at h
      simp only [ha, decide_false, Bool.false_eq_true, ↓reduceIte, Option.map_eq_some_iff] at h
      obtain ⟨j, hj, rfl⟩ := h
      simp [ha, ih hj]

/-- Without an occurrence of `c`, the longest prefix without `c` is the whole string. -/
theorem takeWhile_of_findIdx?_none {l : List Char} {c : Char} (h : l.findIdx? (· = c) = none) :
    l.takeWhile (· ≠ c) = l := by
  rw [List.takeWhile_eq_self_iff]
  intro x hx
  have := List.findIdx?_eq_none_iff.mp h x hx
  simpa using this

/-! ## Hex digits -/

theorem hexDigit?_digitChar {d : ℕ} (hd : d < 16) : hexDigit? (Nat.digitChar d) = some d := by
  interval_cases d <;> decide

/-- A hex digit's value is below sixteen, and lowercased it is the digit character of that
value. -/
theorem hexDigit?_spec {c : Char} {d : ℕ} (h : hexDigit? c = some d) :
    d < 16 ∧ c.toLower = Nat.digitChar d := by
  have hz : Char.toNat 'z' = 122 := rfl
  have hascii : c.toNat < 128 := by
    unfold hexDigit? at h
    split_ifs at h with hdigit hlower hupper
    · have := Char.isDigit_iff_toNat.mp hdigit
      simp only [Char.reduceToNat] at this
      omega
    · have : c.toNat ≤ Char.toNat 'f' := UInt32.le_iff_toNat_le.mp (Char.le_def.mp hlower.2)
      simp only [Char.reduceToNat] at this
      omega
    · have : c.toNat ≤ Char.toNat 'F' := UInt32.le_iff_toNat_le.mp (Char.le_def.mp hupper.2)
      simp only [Char.reduceToNat] at this
      omega
  have hcheck : ∀ n < 128, (hexDigit? (Char.ofNat n)).all
      (fun d => d < 16 && (Char.ofNat n).toLower == Nat.digitChar d) = true := by
    decide
  have hc := hcheck c.toNat hascii
  rw [Char.ofNat_toNat, h] at hc
  simpa using hc

@[simp] theorem length_hexPad (k v : ℕ) : (hexPad k v).length = k := by
  induction k generalizing v with
  | zero => rfl
  | succ k ih => rw [hexPad, List.length_append, ih, List.length_singleton]

theorem hexPad_zero (k : ℕ) : hexPad k 0 = List.replicate k '0' := by
  induction k with
  | zero => rfl
  | succ k ih => rw [hexPad, Nat.zero_div, ih, Nat.zero_mod, List.replicate_succ']; rfl

theorem hexValue_snoc {l : List Char} (hl : l ≠ []) (c : Char) :
    hexValue (l ++ [c]) = (hexValue l).bind fun v => (hexDigit? c).map (16 * v + ·) := by
  simp [hexValue, hl, List.foldlM_append]

/-- `hexPad` reads back as the value it was given, below `16 ^ k`. -/
theorem hexValue_hexPad {k : ℕ} (hk : 0 < k) (v : ℕ) : hexValue (hexPad k v) = some (v % 16 ^ k) := by
  induction k generalizing v with
  | zero => omega
  | succ k ih =>
    have hdigit := hexDigit?_digitChar (Nat.mod_lt v (show 0 < 16 by norm_num))
    rcases Nat.eq_zero_or_pos k with rfl | hk'
    · simp [hexPad, hexValue, hdigit]
    · have hne : hexPad k (v / 16) ≠ [] := by
        rw [← List.length_pos_iff, length_hexPad]
        exact hk'
      rw [hexPad, hexValue_snoc hne, ih hk', Option.bind_some, hdigit, Option.map_some,
        Nat.pow_succ', Nat.mod_mul, Nat.add_comm]

/-- What `Nat.toDigits 16` pads to `k` digits is `hexPad k`. -/
theorem hexPad_eq_toDigits {k n : ℕ} (hk : 0 < k) (hn : n < 16 ^ k) :
    hexPad k n = List.replicate (k - (Nat.toDigits 16 n).length) '0' ++ Nat.toDigits 16 n := by
  induction k generalizing n with
  | zero => omega
  | succ k ih =>
    by_cases hsmall : n < 16
    · rw [hexPad, Nat.div_eq_of_lt hsmall, hexPad_zero, Nat.mod_eq_of_lt hsmall,
        Nat.toDigits_of_lt_base hsmall, List.length_singleton, Nat.add_sub_cancel]
    · have hdiv : n / 16 < 16 ^ k := by
        rw [Nat.div_lt_iff_lt_mul (by norm_num), ← Nat.pow_succ]
        exact hn
      have hk' : 0 < k := by
        rcases Nat.eq_zero_or_pos k with rfl | hk'
        · simp at hn
          omega
        · exact hk'
      have hlen : (Nat.toDigits 16 (n / 16)).length ≤ k :=
        (Nat.length_toDigits_le_iff (by norm_num) hk').mpr hdiv
      rw [hexPad, ih hk' hdiv, Nat.toDigits_of_base_le (n := n) (by norm_num) (by omega),
        List.length_append, List.length_singleton, List.append_assoc]
      congr 2
      omega

/-- A string of hex digits, lowercased, is `hexPad` of its length and its value. -/
theorem map_toLower_eq_hexPad {l : List Char} {v : ℕ} (h : hexValue l = some v) :
    l.map Char.toLower = hexPad l.length v := by
  induction l using List.reverseRecOn generalizing v with
  | nil => simp [hexValue] at h
  | append_singleton l c ih =>
    by_cases hl : l = []
    · subst hl
      have hd : hexDigit? c = some v := by simpa [hexValue] using h
      obtain ⟨hd16, hlower⟩ := hexDigit?_spec hd
      simp [hexPad, hlower, Nat.mod_eq_of_lt hd16]
    · rw [hexValue_snoc hl, Option.bind_eq_some_iff] at h
      obtain ⟨w, hw, hmap⟩ := h
      obtain ⟨d, hd, rfl⟩ := Option.map_eq_some_iff.mp hmap
      obtain ⟨hd16, hlower⟩ := hexDigit?_spec hd
      have hdiv : (16 * w + d) / 16 = w := by omega
      have hmod : (16 * w + d) % 16 = d := by omega
      rw [List.map_append, ih hw, List.length_append, List.length_singleton, hexPad, hdiv, hmod,
        List.map_singleton, hlower]

theorem hexValue_lt {l : List Char} {v : ℕ} (h : hexValue l = some v) : v < 16 ^ l.length := by
  induction l using List.reverseRecOn generalizing v with
  | nil => simp [hexValue] at h
  | append_singleton l c ih =>
    by_cases hl : l = []
    · subst hl
      have hd : hexDigit? c = some v := by simpa [hexValue] using h
      simpa using (hexDigit?_spec hd).1
    · rw [hexValue_snoc hl, Option.bind_eq_some_iff] at h
      obtain ⟨w, hw, hmap⟩ := h
      obtain ⟨d, hd, rfl⟩ := Option.map_eq_some_iff.mp hmap
      have hw' := ih hw
      have hd16 := (hexDigit?_spec hd).1
      rw [List.length_append, List.length_singleton, Nat.pow_succ]
      omega

/-- Every character of `hexPad` is a lower-case hex digit. -/
theorem mem_hexPad {k v : ℕ} {c : Char} (h : c ∈ hexPad k v) :
    c.isDigit ∨ ('a' ≤ c ∧ c ≤ 'f') := by
  have hdigits : ∀ d < 16, (Nat.digitChar d).isDigit ∨ ('a' ≤ Nat.digitChar d ∧ Nat.digitChar d ≤ 'f') := by
    decide
  induction k generalizing v with
  | zero => simp [hexPad] at h
  | succ k ih =>
    rw [hexPad, List.mem_append, List.mem_singleton] at h
    rcases h with h | rfl
    · exact ih h
    · exact hdigits _ (Nat.mod_lt v (by norm_num))

theorem hexDigit?_isSome_of_mem_hexPad {k v : ℕ} {c : Char} (h : c ∈ hexPad k v) :
    (hexDigit? c).isSome := by
  induction k generalizing v with
  | zero => simp [hexPad] at h
  | succ k ih =>
    rw [hexPad, List.mem_append, List.mem_singleton] at h
    rcases h with h | rfl
    · exact ih h
    · rw [hexDigit?_digitChar (Nat.mod_lt v (by norm_num))]
      rfl

/-- On a string of at most `width` hex digits, `sscanfHex` reads them all. -/
theorem sscanfHex_eq_ok_iff {width : ℕ} {s : String} (hlen : s.length ≤ width)
    (hhex : ∀ c ∈ s.toList, (hexDigit? c).isSome) {n : ℕ} :
    sscanfHex width s = .ok n ↔ hexValue s.toList = some n := by
  have htake : s.toList.take width = s.toList :=
    List.take_of_length_le (by rw [String.length_toList]; exact hlen)
  rw [sscanfHex, htake, List.takeWhile_eq_self_iff.mpr hhex]
  cases hexValue s.toList <;> simp

/-- Lowercasing keeps a character that is not a lower-case letter only where it was. -/
theorem mem_of_mem_toLower {s : String} {d : Char} (hd : d.isLower = false)
    (h : d ∈ (toLower s).toList) : d ∈ s.toList := by
  rw [toList_toLower, List.mem_map] at h
  obtain ⟨c, hc, rfl⟩ := h
  by_cases hu : c.isUpper
  · rw [char_isLower_toLower hu] at hd
    simp at hd
  · rwa [char_toLower_of_not_isUpper hu]

/-- `strconv.Itoa` is injective: the decimal digits give the number back. -/
theorem nat_repr_injective : Function.Injective Nat.repr := by
  intro m n h
  have hdigits : Nat.toDigits 10 m = Nat.toDigits 10 n := by
    rw [← Nat.toList_repr, ← Nat.toList_repr, h]
  rw [← Nat.ofDigitChars_ten_toDigits (n := m), hdigits, Nat.ofDigitChars_ten_toDigits]

/-- `strconv.Itoa` writes only digits. -/
theorem not_mem_repr_of_not_isDigit {c : Char} (hc : c.isDigit = false) (n : ℕ) :
    c ∉ (Nat.repr n).toList := by
  rw [Nat.toList_repr]
  intro h
  have hdigit := Nat.isDigit_of_mem_toDigits (by decide) (by decide) h
  rw [hc] at hdigit
  exact Bool.false_ne_true hdigit

/-- Whatever an intercalation holds comes from the separator or from one of the pieces. -/
theorem mem_of_mem_intercalate {α : Type} {c : α} {sep : List α} :
    ∀ {xs : List (List α)}, c ∈ sep.intercalate xs → c ∈ sep ∨ ∃ x ∈ xs, c ∈ x
  | [], h => by simp [List.intercalate_nil] at h
  | [x], h => Or.inr ⟨x, List.mem_singleton_self x, by simpa [List.intercalate_singleton] using h⟩
  | x :: y :: xs, h => by
    rw [List.intercalate_cons_cons] at h
    rcases List.mem_append.mp h with h | h
    · rcases List.mem_append.mp h with h | h
      · exact Or.inr ⟨x, List.mem_cons_self, h⟩
      · exact Or.inl h
    · rcases mem_of_mem_intercalate h with h | ⟨z, hz, hcz⟩
      · exact Or.inl h
      · exact Or.inr ⟨z, List.mem_cons_of_mem x hz, hcz⟩

/-- Splitting at a separator written between two strings splits each of them. -/
theorem split_append_sep (l v : String) (c : Char) :
    split (l ++ String.singleton c ++ v) c = split l c ++ split v c := by
  have hlist : (l ++ String.singleton c ++ v).toList = l.toList ++ c :: v.toList := by
    simp
  rw [split, hlist, List.splitOn_append_cons_self, List.map_append]
  rfl

/-- Every character of a string is the separator or a character of one of its pieces. -/
theorem mem_split_of_mem {s : String} {c d : Char} (h : d ∈ s.toList) :
    d = c ∨ ∃ x ∈ split s c, d ∈ x.toList := by
  have hjoin : [c].intercalate (s.toList.splitOn c) = s.toList := List.intercalate_splitOn c
  rw [← hjoin] at h
  rcases mem_of_mem_intercalate h with h | ⟨piece, hpiece, hd⟩
  · exact Or.inl (List.mem_singleton.mp h)
  · refine Or.inr ⟨String.ofList piece, List.mem_map_of_mem hpiece, ?_⟩
    rwa [String.toList_ofList]

/-- Joining strings that are not empty and hold no separator loses nothing. -/
theorem join_inj {xs ys : List String} {sep : String} {c : Char} (hsep : sep.toList = [c])
    (hxs : ∀ x ∈ xs, x ≠ "" ∧ c ∉ x.toList) (hys : ∀ y ∈ ys, y ≠ "" ∧ c ∉ y.toList)
    (h : join xs sep = join ys sep) : xs = ys := by
  have hsplit : ∀ zs : List String, (∀ z ∈ zs, z ≠ "" ∧ c ∉ z.toList) →
      (join zs sep).toList.splitOn c = if zs = [] then [[]] else zs.map String.toList := by
    intro zs hzs
    split_ifs with hz
    · subst hz
      rfl
    · rw [join, String.toList_ofList, hsep]
      apply List.splitOn_intercalate c
      · simpa using fun z hz => (hzs z hz).2
      · simpa using hz
  have hnotEmpty : ∀ zs : List String, (∀ z ∈ zs, z ≠ "" ∧ c ∉ z.toList) → zs ≠ [] →
      [[]] ≠ zs.map String.toList := by
    intro zs hzs hz hmap
    cases zs with
    | nil => exact hz rfl
    | cons z zs =>
      have hz' := (hzs z List.mem_cons_self).1
      simp only [List.map_cons, List.cons.injEq] at hmap
      exact hz' (String.toList_inj.mp (by rw [← hmap.1]; rfl))
  have hsame := congrArg (fun s => s.toList.splitOn c) h
  simp only [hsplit xs hxs, hsplit ys hys] at hsame
  split_ifs at hsame with hx hy hy
  · rw [hx, hy]
  · exact absurd hsame (hnotEmpty ys hys hy)
  · exact absurd hsame.symm (hnotEmpty xs hxs hx)
  · exact List.map_injective_iff.mpr (fun _ _ hst => String.toList_inj.mp hst) hsame

/-! ## Splitting and joining -/

section Pieces

variable {α β : Type}

/-- Joining lists of lists whose both parts are non-empty puts one separator between them. -/
theorem intercalate_append_of_ne_nil (sep : List α) :
    ∀ {xs ys : List (List α)}, xs ≠ [] → ys ≠ [] →
      sep.intercalate (xs ++ ys) = sep.intercalate xs ++ sep ++ sep.intercalate ys
  | [x], ys, _, hys => by
    rw [List.singleton_append, List.intercalate_cons_of_ne_nil hys, List.intercalate_singleton]
  | x :: x' :: xs, ys, _, hys => by
    rw [List.cons_append, List.intercalate_cons_of_ne_nil (by simp),
      intercalate_append_of_ne_nil sep (List.cons_ne_nil x' xs) hys,
      List.intercalate_cons_of_ne_nil (List.cons_ne_nil x' xs)]
    simp only [List.append_assoc]

/-- A map over a joined list maps the separator and every piece. -/
theorem map_intercalate (f : α → β) (sep : List α) :
    ∀ xs : List (List α), (sep.intercalate xs).map f = (sep.map f).intercalate (xs.map (List.map f))
  | [] => rfl
  | [x] => by simp
  | x :: x' :: xs => by
    rw [List.intercalate_cons_cons, List.map_cons, List.map_cons, List.intercalate_cons_cons,
      List.map_append, List.map_append, ← List.map_cons, map_intercalate f sep (x' :: xs)]

/-- An element of a piece is an element of the join. -/
theorem mem_intercalate_of_mem {a : α} {x : List α} (sep : List α) :
    ∀ {xs : List (List α)}, x ∈ xs → a ∈ x → a ∈ sep.intercalate xs
  | [], hx, _ => by simp at hx
  | [y], hx, ha => by
    rw [List.mem_singleton.mp hx] at ha
    simpa using ha
  | y :: y' :: xs, hx, ha => by
    rw [List.intercalate_cons_cons, List.mem_append, List.mem_append]
    rcases List.mem_cons.mp hx with rfl | hx
    · exact Or.inl (Or.inl ha)
    · exact Or.inr (mem_intercalate_of_mem sep hx ha)

/-- No piece of a split holds an element it was split at. -/
theorem not_of_mem_splitOnP {p : α → Bool} :
    ∀ {l x : List α}, x ∈ l.splitOnP p → ∀ a ∈ x, p a = false
  | [], x, hx => by
    rw [List.splitOnP_nil, List.mem_singleton] at hx
    subst hx
    simp
  | b :: l, x, hx => by
    rw [List.splitOnP_cons_eq_if_modifyHead] at hx
    split_ifs at hx with hb
    · rcases List.mem_cons.mp hx with rfl | hx
      · simp
      · exact not_of_mem_splitOnP hx
    · obtain ⟨r, rs, hr⟩ := List.exists_cons_of_ne_nil (List.splitOnP_ne_nil p l)
      rw [hr, List.modifyHead_cons] at hx
      rcases List.mem_cons.mp hx with rfl | hx
      · intro a ha
        rcases List.mem_cons.mp ha with rfl | ha
        · simpa using hb
        · exact not_of_mem_splitOnP (hr ▸ List.mem_cons_self) a ha
      · exact not_of_mem_splitOnP (hr ▸ List.mem_cons_of_mem r hx)

end Pieces

/-- No piece of a split holds the separator. -/
theorem not_mem_of_mem_split {s x : String} {c : Char} (h : x ∈ split s c) : c ∉ x.toList := by
  obtain ⟨piece, hpiece, rfl⟩ := List.mem_map.mp h
  rw [List.splitOn_eq_splitOnP] at hpiece
  intro hc
  have hsep := not_of_mem_splitOnP hpiece c (by simpa using hc)
  simp at hsep

theorem split_ne_nil (s : String) (c : Char) : split s c ≠ [] := by
  simp [split, List.splitOn_eq_splitOnP, List.splitOnP_ne_nil]

/-- Joining the pieces of a split at the separator gives the string back. -/
theorem join_split (s : String) {sep : String} {c : Char} (hsep : sep.toList = [c]) :
    join (split s c) sep = s := by
  apply String.toList_inj.mp
  rw [join, split, String.toList_ofList, hsep, List.map_map]
  have hid : (String.toList ∘ String.ofList) = id := funext fun l => String.toList_ofList
  rw [hid, List.map_id]
  exact List.intercalate_splitOn c

/-- Splitting a join of pieces without the separator gives the pieces back. -/
theorem split_join {xs : List String} {sep : String} {c : Char} (hsep : sep.toList = [c])
    (hxs : ∀ x ∈ xs, c ∉ x.toList) (hne : xs ≠ []) : split (join xs sep) c = xs := by
  rw [split, join, String.toList_ofList, hsep,
    List.splitOn_intercalate c (by simpa using hxs) (by simpa using hne), List.map_map]
  have hid : (String.ofList ∘ String.toList) = id := funext fun s => String.ofList_toList
  rw [hid, List.map_id]

/-- Joining two non-empty lists puts one separator between their joins. -/
theorem join_append {xs ys : List String} (sep : String) (hxs : xs ≠ []) (hys : ys ≠ []) :
    join (xs ++ ys) sep = join xs sep ++ sep ++ join ys sep := by
  apply String.toList_inj.mp
  simp only [join, String.toList_ofList, String.toList_append, List.map_append]
  exact intercalate_append_of_ne_nil _ (by simpa using hxs) (by simpa using hys)

/-- A string without the separator is its own only piece. -/
theorem split_of_not_mem {s : String} {c : Char} (h : c ∉ s.toList) : split s c = [s] := by
  have hsplit := @split_join [s] (String.singleton c) c (by simp) (by simpa using h) (by simp)
  have hjoin : join [s] (String.singleton c) = s := by
    simp [join]
  rwa [hjoin] at hsplit

/-- A character of a piece is a character of the string. -/
theorem mem_of_mem_split {s x : String} {c d : Char} (hx : x ∈ split s c) (hd : d ∈ x.toList) :
    d ∈ s.toList := by
  rw [← join_split s (show (String.singleton c).toList = [c] by simp), join,
    String.toList_ofList, String.toList_singleton]
  exact mem_intercalate_of_mem [c] (List.mem_map_of_mem hx) hd

section CharMap

-- a character map that keeps the separator `c` and makes no new one
variable {f : Char → Char} {c : Char} (hf : ∀ d, f d = c ↔ d = c)

include hf in
/-- Splitting commutes with a character map that keeps the separator and makes no new one. -/
theorem split_map (s : String) :
    split (String.ofList (s.toList.map f)) c =
      (split s c).map fun x => String.ofList (x.toList.map f) := by
  have hfc : f c = c := (hf c).mpr rfl
  have hjoin : s.toList.map f = [c].intercalate ((s.toList.splitOn c).map (List.map f)) := by
    conv_lhs => rw [← @List.intercalate_splitOn Char s.toList _ _ c]
    rw [map_intercalate, List.map_singleton, hfc]
  have hpieces : ∀ l ∈ (s.toList.splitOn c).map (List.map f), c ∉ l := by
    intro l hl hc
    obtain ⟨piece, hpiece, rfl⟩ := List.mem_map.mp hl
    obtain ⟨d, hd, hdc⟩ := List.mem_map.mp hc
    have hnot := not_mem_of_mem_split (List.mem_map_of_mem (f := String.ofList) hpiece)
    rw [String.toList_ofList, ← (hf d).mp hdc] at hnot
    exact hnot hd
  rw [split, String.toList_ofList, hjoin, List.splitOn_intercalate c hpieces (by
    simp [List.splitOn_eq_splitOnP, List.splitOnP_ne_nil]), split, List.map_map,
    List.map_map]
  simp only [Function.comp_def, String.toList_ofList]

include hf in
/-- Joining commutes with a character map that keeps the separator. -/
theorem join_map {sep : String} (hsep : sep.toList = [c]) (xs : List String) :
    String.ofList ((join xs sep).toList.map f) = join (xs.map fun x => String.ofList (x.toList.map f)) sep := by
  have hfc : f c = c := (hf c).mpr rfl
  rw [join, join, String.toList_ofList, hsep, map_intercalate, List.map_singleton, hfc,
    List.map_map, List.map_map]
  simp only [Function.comp_def, String.toList_ofList]

end CharMap

/-- Lowering makes a character that is not a letter only from itself. -/
theorem toLower_eq_iff_of_not_letter {c : Char} (hup : c.isUpper = false) (hlow : c.isLower = false)
    (d : Char) : d.toLower = c ↔ d = c := by
  constructor
  · intro h
    by_cases hd : d.isUpper
    · have hlower := char_isLower_toLower hd
      rw [h, hlow] at hlower
      exact absurd hlower (by decide)
    · rwa [char_toLower_of_not_isUpper hd] at h
  · rintro rfl
    exact char_toLower_of_not_isUpper (by simp [hup])

/-! ## Replacing -/

/-- Replacing a one-character pattern rewrites each occurrence of that character, given fuel
for every character. -/
theorem replaceAux_singleton (c : Char) (new : List Char) :
    ∀ (fuel : ℕ) (s : List Char), s.length ≤ fuel →
      replaceAux [c] new fuel s = s.flatMap fun d => if d = c then new else [d]
  | _, [], _ => by cases ‹ℕ› <;> rfl
  | fuel + 1, d :: s, hlen => by
    have ih := replaceAux_singleton c new fuel s (by simpa using hlen)
    by_cases hd : d = c
    · subst hd
      simp [replaceAux, ih]
    · have hprefix : [c].isPrefixOf (d :: s) = false := by
        simp [List.isPrefixOf, Ne.symm hd]
      simp [replaceAux, hprefix, hd, ih]

/-- `strings.Replace(s, string(c), new, -1)` writes `new` for each `c` and keeps every other
character. -/
theorem replace_singleton (s : String) (c : Char) (new : String) :
    (replace s (String.singleton c) new).toList =
      s.toList.flatMap fun d => if d = c then new.toList else [d] := by
  rw [replace, String.toList_ofList, String.toList_singleton,
    replaceAux_singleton c new.toList s.length s.toList le_rfl]

/-- Replacing a character distributes over appending. -/
theorem replace_singleton_append (a b : String) (c : Char) (new : String) :
    replace (a ++ b) (String.singleton c) new =
      replace a (String.singleton c) new ++ replace b (String.singleton c) new := by
  apply String.toList_inj.mp
  rw [String.toList_append, replace_singleton, replace_singleton, replace_singleton,
    String.toList_append, List.flatMap_append]

/-- Replacing a character that does not occur keeps the string. -/
theorem replace_singleton_of_not_mem {s : String} {c : Char} (new : String) (hc : c ∉ s.toList) :
    replace s (String.singleton c) new = s := by
  apply String.toList_inj.mp
  rw [replace_singleton]
  generalize s.toList = l at hc ⊢
  induction l with
  | nil => rfl
  | cons d l ih =>
    have hdc : d ≠ c := fun hd => hc (hd ▸ List.mem_cons_self)
    rw [List.flatMap_cons, if_neg hdc, ih (fun hl => hc (List.mem_cons_of_mem d hl))]
    rfl

/-! ## Integers -/

/-- A run of decimal digits reads as `Nat.ofDigitChars` says. -/
theorem decimalValue_eq_ofDigitChars {cs : List Char} (hne : cs ≠ [])
    (hdigits : ∀ c ∈ cs, c.isDigit = true) : decimalValue cs = some (Nat.ofDigitChars 10 cs 0) := by
  have hfold : ∀ ds : List Char, (∀ c ∈ ds, c.isDigit = true) → ∀ init,
      ds.foldlM (fun n c => if c.isDigit then some (10 * n + (c.toNat - '0'.toNat)) else none)
        init = some (Nat.ofDigitChars 10 ds init) := by
    intro ds hds
    induction ds with
    | nil => intro init; rfl
    | cons c ds ih =>
      intro init
      rw [List.foldlM_cons, if_pos (hds c List.mem_cons_self), Nat.ofDigitChars_cons]
      exact ih (fun d hd => hds d (List.mem_cons_of_mem c hd)) _
  rw [decimalValue, if_neg hne]
  exact hfold cs hdigits 0

/-- The decimal parser reads back the digits of `strconv.Itoa`. -/
theorem decimalValue_toDigits (n : ℕ) : decimalValue (Nat.toDigits 10 n) = some n := by
  rw [decimalValue_eq_ofDigitChars Nat.toDigits_ne_nil
    (fun c hc => Nat.isDigit_of_mem_toDigits (by decide) (by decide) hc),
    Nat.ofDigitChars_ten_toDigits]

/-- `strconv.Itoa` of any integer is read back by `signedDecimalValue`. -/
theorem signedDecimalValue_toString (i : ℤ) : signedDecimalValue (toString i) = some i := by
  cases i with
  | ofNat n =>
    obtain ⟨c, cs, hcs⟩ := List.exists_cons_of_ne_nil (Nat.toDigits_ne_nil (n := n) (b := 10))
    have hc : c.isDigit = true :=
      Nat.isDigit_of_mem_toDigits (by decide) (by decide) (hcs ▸ List.mem_cons_self)
    have hminus : c ≠ '-' := by rintro rfl; exact absurd hc (by decide)
    have hplus : c ≠ '+' := by rintro rfl; exact absurd hc (by decide)
    have hrepr : (toString (Int.ofNat n)).toList = c :: cs := by
      show (Nat.repr n).toList = _
      rw [Nat.toList_repr, hcs]
    unfold signedDecimalValue
    rw [hrepr]
    split
    · rename_i h; exact absurd (List.cons.inj h).1 hminus
    · rename_i h; exact absurd (List.cons.inj h).1 hplus
    · rw [← hcs, decimalValue_toDigits]; rfl
  | negSucc n =>
    have hrepr : (toString (Int.negSucc n)).toList = '-' :: Nat.toDigits 10 (n + 1) := by
      show ("-" ++ Nat.repr (n + 1)).toList = _
      rw [String.toList_append, Nat.toList_repr]
      rfl
    simp only [signedDecimalValue, hrepr, decimalValue_toDigits]
    rfl

/-- `strconv.Atoi` reads back what `strconv.Itoa` writes, for every 64-bit `int`. -/
theorem atoi_toString {i : ℤ} (hlo : -2 ^ 63 ≤ i) (hhi : i < 2 ^ 63) : atoi (toString i) = .ok i := by
  rw [atoi, signedDecimalValue_toString]
  exact if_pos ⟨hlo, hhi⟩

/-- `hex.EncodeToString` writes lower-case hex digits only. -/
theorem mem_hexEncodeToString {src : List UInt8} {c : Char}
    (h : c ∈ (hexEncodeToString src).toList) : c.isDigit ∨ ('a' ≤ c ∧ c ≤ 'f') := by
  have hdigits : ∀ d < 16, (Nat.digitChar d).isDigit ∨
      ('a' ≤ Nat.digitChar d ∧ Nat.digitChar d ≤ 'f') := by
    decide
  rw [hexEncodeToString, String.toList_ofList, List.mem_flatMap] at h
  obtain ⟨b, -, hb⟩ := h
  rw [hexByte, List.mem_cons, List.mem_singleton] at hb
  rcases hb with rfl | rfl
  · exact hdigits _ (Nat.mod_lt _ (by norm_num))
  · exact hdigits _ (Nat.mod_lt _ (by norm_num))

/-- `hex.DecodeString` reads back what `hex.EncodeToString` writes. -/
theorem hexDecodeString_hexEncodeToString (src : List UInt8) :
    hexDecodeString (hexEncodeToString src).toList = some src := by
  rw [hexEncodeToString, String.toList_ofList]
  induction src with
  | nil => rfl
  | cons b src ih =>
    have hb : b.toNat < 256 := UInt8.toNat_lt_size b
    have hbyte : (16 * (b.toNat / 16 % 16) + b.toNat % 16).toUInt8 = b := by
      rw [show 16 * (b.toNat / 16 % 16) + b.toNat % 16 = b.toNat by omega]
      exact UInt8.ofNat_toNat
    rw [List.flatMap_cons, hexByte, List.cons_append, List.cons_append, List.nil_append,
      hexDecodeString, hexDigit?_digitChar (Nat.mod_lt _ (by norm_num)),
      hexDigit?_digitChar (Nat.mod_lt _ (by norm_num)), ih]
    simp only [Option.bind_eq_bind, Option.bind_some, Option.pure_def, hbyte]

/-! ## Formatting -/

/-- Text before the first `%` prints as it is. -/
theorem fmtNoArgs_text_append {s : List Char} (hs : '%' ∉ s) (rest : List Char) :
    fmtNoArgs .text (s ++ rest) = s ++ fmtNoArgs .text rest := by
  induction s with
  | nil => rfl
  | cons c s ih =>
    have hc : c ≠ '%' := fun hc => hs (hc ▸ List.mem_cons_self)
    rw [List.cons_append, fmtNoArgs, if_neg hc, ih (fun h => hs (List.mem_cons_of_mem c h)),
      List.cons_append]

/-- A format that starts with text without `%` prints that text, then the rest. -/
theorem sprintfNoArgs_append {s : String} (hs : '%' ∉ s.toList) (t : String) :
    sprintfNoArgs (s ++ t) = s ++ sprintfNoArgs t := by
  apply String.toList_inj.mp
  rw [sprintfNoArgs, sprintfNoArgs, String.toList_append, fmtNoArgs_text_append hs,
    String.toList_ofList, String.toList_append, String.toList_ofList]

/-- A format with no `%` prints as it is. -/
theorem sprintfNoArgs_of_not_mem {s : String} (hs : '%' ∉ s.toList) : sprintfNoArgs s = s := by
  have happend := sprintfNoArgs_append hs ""
  rwa [String.append_empty, show sprintfNoArgs "" = "" from rfl, String.append_empty] at happend

/-- A hex digit is never `%`. -/
theorem digitChar_ne_percent {n : ℕ} (hn : n < 16) : Nat.digitChar n ≠ '%' := by
  have hall : ∀ m < 16, Nat.digitChar m ≠ '%' := by decide
  exact hall n hn

theorem percent_not_mem_hexByte (n : ℕ) : '%' ∉ hexByte n := by
  have hhi := digitChar_ne_percent (Nat.mod_lt (n / 16) (by decide : 16 > 0))
  have hlo := digitChar_ne_percent (Nat.mod_lt n (by decide : 16 > 0))
  simp [hexByte, hhi.symm, hlo.symm]

/-- A JSON escape never writes `%`, and `%` is written as it is. -/
theorem percent_mem_jsonChar {c : Char} : '%' ∈ jsonChar c ↔ c = '%' := by
  constructor
  · intro h
    have hlo := digitChar_ne_percent (Nat.mod_lt c.toNat (by decide : 16 > 0))
    refine Eq.symm ?_
    unfold jsonChar at h
    split_ifs at h <;> simp at h <;> first | exact h | simp_all [percent_not_mem_hexByte]
  · rintro rfl
    decide

/-- A JSON string holds `%` exactly when the string does. -/
theorem percent_mem_jsonString (s : String) : '%' ∈ jsonString s ↔ '%' ∈ s.toList := by
  simp [jsonString, List.mem_flatMap, percent_mem_jsonChar]

end Boulder.Lib.GoStrings
