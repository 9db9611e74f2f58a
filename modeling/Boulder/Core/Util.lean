/-
# Boulder.Core.Util -- serials and name sets (package `core`, `util.go`)

`UniqueLowerNames` is how every component names a set of DNS names: lowercased, without
repeats, sorted. The SA hashes it into `fqdnSets`, the RA keys rate limits on it and compares
it with certificate contents. `uniqueLowerNames_eq_iff` says what makes two name lists the same
set: their lowercased members agree, whatever the order, case or repeats. A list already in that
form is its own name set (`uniqueLowerNames_of_normal`), and the empty name, when present, comes
first (`headD_uniqueLowerNames`).

`ValidSerial` is modelled as written. Its length test asks for a length below 32 and above 36
at once, which no length is, so the function accepts every even-length hex string
(`validSerial_iff`).
-/
import Mathlib.Data.List.Sort
import Mathlib.Data.String.Basic
import Boulder.Lib.GoStrings

namespace Boulder.Core

open Boulder.Lib.GoStrings

/-! ## Serials -/

/-- A character `hex.DecodeString` accepts. -/
def isHexDigit (c : Char) : Bool :=
  ('0' ≤ c && c ≤ '9') || ('a' ≤ c && c ≤ 'f') || ('A' ≤ c && c ≤ 'F')

/-- `core.ValidSerial`. `hex.DecodeString` fails on an odd length or a non-hex character. -/
def validSerial (serial : String) : Bool :=
  if serial.length < 32 ∧ serial.length > 36 then false
  else serial.length % 2 = 0 && serial.toList.all isHexDigit

/-- The length test of `ValidSerial` never rejects: a serial is valid exactly when it is an
even-length hex string. -/
theorem validSerial_iff (serial : String) :
    validSerial serial = true ↔
      serial.length % 2 = 0 ∧ ∀ c ∈ serial.toList, isHexDigit c = true := by
  have hlen : ¬ (serial.length < 32 ∧ serial.length > 36) := by omega
  simp [validSerial, hlen]

/-- `core.SerialToString`: `%036x`, lower-case hex padded with zeros to 36 digits. -/
def serialToString (serial : ℕ) : String :=
  let digits := Nat.toDigits 16 serial
  String.ofList (List.replicate (36 - digits.length) '0' ++ digits)

/-- `core.StringToSerial`: a valid serial, scanned with `%036x`. -/
def stringToSerial (serial : String) : Except String ℕ :=
  if !validSerial serial then .error "Invalid serial number"
  else sscanfHex 36 serial

/-- `isHexDigit` is the test `hexDigit?` passes. -/
theorem isHexDigit_iff (c : Char) : isHexDigit c = true ↔ (hexDigit? c).isSome := by
  unfold isHexDigit hexDigit?
  split_ifs <;> simp_all [Char.isDigit, Char.le_def]

/-- Below `16 ^ 36` the serial string is the 36 hex digits of the number. -/
theorem toList_serialToString {n : ℕ} (hn : n < 16 ^ 36) :
    (serialToString n).toList = hexPad 36 n := by
  rw [serialToString, String.toList_ofList, hexPad_eq_toDigits (by norm_num) hn]

/-- Below `16 ^ 36` the serial string is 36 hex digits, which `ValidSerial` accepts. -/
theorem validSerial_serialToString {n : ℕ} (hn : n < 16 ^ 36) :
    validSerial (serialToString n) = true := by
  have hlist := toList_serialToString hn
  rw [validSerial_iff, ← String.length_toList, hlist, length_hexPad]
  exact ⟨rfl, fun c hc => (isHexDigit_iff c).mpr (hexDigit?_isSome_of_mem_hexPad hc)⟩

/-- `StringToSerial` of a valid serial is the value of its hex digits, up to the 36th. -/
theorem stringToSerial_of_valid {serial : String} (h : validSerial serial = true) :
    stringToSerial serial = sscanfHex 36 serial := by
  simp [stringToSerial, h]

/-- `SerialToString` and `StringToSerial` are inverse on serials below `16 ^ 36` and on
36-digit hex strings, up to the case of the digits. -/
theorem serial_round_trip :
    (∀ n < 16 ^ 36, (serialToString n).length = 36 ∧
        (∀ c ∈ (serialToString n).toList, c.isDigit ∨ ('a' ≤ c ∧ c ≤ 'f')) ∧
        validSerial (serialToString n) = true ∧ stringToSerial (serialToString n) = .ok n) ∧
      ∀ (s : String) (n : ℕ), s.length = 36 → stringToSerial s = .ok n →
        serialToString n = toLower s := by
  constructor
  · intro n hn
    have hlist := toList_serialToString hn
    have hlen : (serialToString n).length = 36 := by
      rw [← String.length_toList, hlist, length_hexPad]
    have hhex : ∀ c ∈ (serialToString n).toList, (hexDigit? c).isSome := by
      rw [hlist]
      intro c hc
      exact hexDigit?_isSome_of_mem_hexPad hc
    have hvalid := validSerial_serialToString hn
    refine ⟨hlen, ?_, hvalid, ?_⟩
    · rw [hlist]
      intro c hc
      exact mem_hexPad hc
    · rw [stringToSerial_of_valid hvalid, sscanfHex_eq_ok_iff (le_of_eq hlen) hhex, hlist,
        hexValue_hexPad (by norm_num), Nat.mod_eq_of_lt hn]
  · intro s n hs hn
    have hvalid : validSerial s = true := by
      by_contra hinvalid
      rw [Bool.not_eq_true] at hinvalid
      simp [stringToSerial, hinvalid] at hn
    have hhex : ∀ c ∈ s.toList, (hexDigit? c).isSome := fun c hc =>
      (isHexDigit_iff c).mp ((validSerial_iff s).mp hvalid |>.2 c hc)
    rw [stringToSerial_of_valid hvalid, sscanfHex_eq_ok_iff (le_of_eq hs) hhex] at hn
    have hlt : n < 16 ^ 36 := by
      have := hexValue_lt hn
      rwa [String.length_toList, hs] at this
    apply String.toList_inj.mp
    rw [toList_serialToString hlt, toList_toLower, map_toLower_eq_hexPad hn,
      String.length_toList, hs]

/-- `core.IsASCII`: no rune above `unicode.MaxASCII`. -/
def isASCII (str : String) : Bool :=
  str.toList.all fun r => r.toNat ≤ 127

/-! ## Name sets -/

/-- `core.UniqueLowerNames`: the distinct lowercased names, sorted. -/
def uniqueLowerNames (names : List String) : List String :=
  sortStrings (names.map toLower).dedup

theorem mem_uniqueLowerNames {names : List String} {x : String} :
    x ∈ uniqueLowerNames names ↔ x ∈ names.map toLower := by
  simp only [uniqueLowerNames, sortStrings, (List.perm_insertionSort _ _).mem_iff, List.mem_dedup]

theorem nodup_uniqueLowerNames (names : List String) : (uniqueLowerNames names).Nodup :=
  (List.perm_insertionSort _ _).nodup_iff.mpr (List.nodup_dedup _)

/-- The names of a name set are already lowercase. -/
theorem toLower_of_mem_uniqueLowerNames {names : List String} {x : String}
    (h : x ∈ uniqueLowerNames names) : toLower x = x := by
  obtain ⟨y, -, rfl⟩ := List.mem_map.mp (mem_uniqueLowerNames.mp h)
  exact toLower_toLower y

/-- Two name lists give the same set exactly when their lowercased names agree. -/
theorem uniqueLowerNames_eq_iff {names names' : List String} :
    uniqueLowerNames names = uniqueLowerNames names' ↔
      ∀ x, x ∈ names.map toLower ↔ x ∈ names'.map toLower := by
  constructor
  · intro h x
    rw [← mem_uniqueLowerNames, ← mem_uniqueLowerNames, h]
  · intro h
    have hperm : (uniqueLowerNames names).Perm (uniqueLowerNames names') :=
      (List.perm_ext_iff_of_nodup (nodup_uniqueLowerNames _) (nodup_uniqueLowerNames _)).mpr
        fun x => by rw [mem_uniqueLowerNames, mem_uniqueLowerNames, h]
    exact hperm.eq_of_sortedLE List.sortedLE_insertionSort List.sortedLE_insertionSort

theorem sortedLE_uniqueLowerNames (names : List String) : (uniqueLowerNames names).SortedLE :=
  List.sortedLE_insertionSort

/-- A sorted list of lowercase names without repeats is its own name set. -/
theorem uniqueLowerNames_of_normal {names : List String} (hsorted : names.SortedLE)
    (hnodup : names.Nodup) (hlower : ∀ x ∈ names, toLower x = x) : uniqueLowerNames names = names := by
  have hmap : names.map toLower = names := by simpa using List.map_congr_left hlower
  apply List.Perm.eq_of_sortedLE (sortedLE_uniqueLowerNames names) hsorted
  rw [uniqueLowerNames, hmap, hnodup.dedup]
  exact List.perm_insertionSort _ _

/-- A name set is its own name set. -/
theorem uniqueLowerNames_uniqueLowerNames (names : List String) :
    uniqueLowerNames (uniqueLowerNames names) = uniqueLowerNames names :=
  uniqueLowerNames_of_normal (sortedLE_uniqueLowerNames names) (nodup_uniqueLowerNames names)
    fun _ hx => toLower_of_mem_uniqueLowerNames hx

/-- The empty name sorts before every other. -/
theorem headD_uniqueLowerNames {names : List String} (h : "" ∈ uniqueLowerNames names) :
    (uniqueLowerNames names).headD "" = "" := by
  have hsorted := sortedLE_uniqueLowerNames names
  cases hnames : uniqueLowerNames names with
  | nil => rfl
  | cons first rest =>
    rw [hnames] at h hsorted
    have hle : first ≤ "" := by
      rcases List.mem_cons.mp h with h | h
      · exact h ▸ le_rfl
      · exact List.rel_of_pairwise_cons hsorted.pairwise h
    have hge : "" ≤ first := by
      apply le_of_not_gt
      rw [String.lt_iff_toList_lt, String.toList_empty]
      exact List.not_lt_nil _
    exact le_antisymm hle hge

end Boulder.Core
