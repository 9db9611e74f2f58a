/-
# Boulder.Lib.GoTime -- the two layouts of Go's `time.Format` in use (Go 1.8)

An instant is an integer count of nanoseconds since 1970-01-01 00:00 UTC, read in UTC. `civil`
gives its proleptic Gregorian date and time of day: whole seconds and days by floor division,
and the date of a day count by the civil-from-days computation over eras of 400 years
(146097 days), counted from 0000-03-01 so that a leap day ends its year. `appendInt` is the
format package's decimal writer: a minus sign for a negative value, then the digits padded
with zeros to a width.

`formatRFC822` is `Format(time.RFC822)`, the layout `02 Jan 06 15:04 MST`, and `formatStamp`
is `Format("20060102T150405")`; in UTC the zone is written `UTC`. Both write ASCII letters,
digits, spaces, colons and minus signs only (`all_formatRFC822`, `all_formatStamp`). This
module names no program.
-/
import Mathlib.Data.Int.Notation
import Mathlib.Data.List.Basic

namespace Boulder.Lib.GoTime

/-- A date and a time of day. -/
structure Civil where
  year : ℤ
  month : ℕ
  day : ℕ
  hour : ℕ
  minute : ℕ
  second : ℕ
  deriving DecidableEq, Repr

/-- The year, month and day of a count of days since 1970-01-01. -/
def civilOfDays (days : ℤ) : ℤ × ℕ × ℕ :=
  -- days since 0000-03-01, split into 400-year eras
  let z := days + 719468
  let era := z / 146097
  let doe := (z % 146097).toNat
  let yoe := (doe - doe / 1460 + doe / 36524 - doe / 146096) / 365
  let doy := doe - (365 * yoe + yoe / 4 - yoe / 100)
  -- months counted from March
  let mp := (5 * doy + 2) / 153
  let day := doy - (153 * mp + 2) / 5 + 1
  let month := if mp < 10 then mp + 3 else mp - 9
  ((yoe : ℤ) + era * 400 + (if month ≤ 2 then 1 else 0), month, day)

/-- The date and time of day, in UTC, of an instant in nanoseconds. -/
def civil (t : ℤ) : Civil :=
  let secs := t / 1000000000
  let date := civilOfDays (secs / 86400)
  let sod := (secs % 86400).toNat
  ⟨date.1, date.2.1, date.2.2, sod / 3600, sod % 3600 / 60, sod % 60⟩

example : civil 0 = ⟨1970, 1, 1, 0, 0, 0⟩ := by decide

example : civil (951782400 * 1000000000 + 1) = ⟨2000, 2, 29, 0, 0, 0⟩ := by decide

/-- `appendInt(b, x, width)`: a minus sign for a negative value, then the decimal digits of its
magnitude padded with zeros to `width`. -/
def appendInt (x : ℤ) (width : ℕ) : List Char :=
  let digits := Nat.toDigits 10 x.natAbs
  (if x < 0 then ['-'] else []) ++ List.replicate (width - digits.length) '0' ++ digits

/-- The three-letter name of a month, `Jan` to `Dec`. -/
def shortMonthName (month : ℕ) : List Char :=
  (["Jan", "Feb", "Mar", "Apr", "May", "Jun", "Jul", "Aug", "Sep", "Oct", "Nov", "Dec"].getD
    (month - 1) "").toList

/-- `Format(time.RFC822)` in UTC: day, month name, year modulo 100 of its magnitude, hours and
minutes, and the zone. -/
def formatRFC822 (t : ℤ) : String :=
  let c := civil t
  String.ofList (appendInt c.day 2 ++ [' '] ++ shortMonthName c.month ++ [' '] ++
    appendInt (c.year.natAbs % 100 : ℕ) 2 ++ [' '] ++ appendInt c.hour 2 ++ [':'] ++
    appendInt c.minute 2 ++ " UTC".toList)

/-- `Format("20060102T150405")` in UTC. -/
def formatStamp (t : ℤ) : String :=
  let c := civil t
  String.ofList (appendInt c.year 4 ++ appendInt c.month 2 ++ appendInt c.day 2 ++ ['T'] ++
    appendInt c.hour 2 ++ appendInt c.minute 2 ++ appendInt c.second 2)

example : formatRFC822 0 = "01 Jan 70 00:00 UTC" := by decide

example : formatStamp 0 = "19700101T000000" := by decide

/-! ## What the layouts write -/

/-- The characters the two layouts write. -/
def isFormatChar (c : Char) : Bool :=
  c.isAlphanum || c == ' ' || c == ':' || c == '-'

theorem isFormatChar_of_isDigit {c : Char} (h : c.isDigit = true) : isFormatChar c = true := by
  simp [isFormatChar, Char.isAlphanum, h]

theorem all_appendInt (x : ℤ) (width : ℕ) : (appendInt x width).all isFormatChar = true := by
  have hdigits : (Nat.toDigits 10 x.natAbs).all isFormatChar = true :=
    List.all_eq_true.mpr fun c hc =>
      isFormatChar_of_isDigit (Nat.isDigit_of_mem_toDigits (by decide) (by decide) hc)
  have hzeros : (List.replicate (width - (Nat.toDigits 10 x.natAbs).length) '0').all
      isFormatChar = true :=
    List.all_eq_true.mpr fun c hc => by
      rw [List.eq_of_mem_replicate hc]
      rfl
  have hsign : (if x < 0 then ['-'] else []).all isFormatChar = true := by
    split_ifs <;> rfl
  simp only [appendInt, List.all_append, hdigits, hzeros, hsign, Bool.and_self]

theorem all_shortMonthName (month : ℕ) : (shortMonthName month).all isFormatChar = true := by
  have hnames : (["Jan", "Feb", "Mar", "Apr", "May", "Jun", "Jul", "Aug", "Sep", "Oct", "Nov",
      "Dec", ""].all fun name => name.toList.all isFormatChar) = true := by
    decide
  apply List.all_eq_true.mp hnames
  rw [List.getD_eq_getElem?_getD]
  cases hget : ["Jan", "Feb", "Mar", "Apr", "May", "Jun", "Jul", "Aug", "Sep", "Oct", "Nov",
      "Dec"][month - 1]? with
  | none => simp
  | some name => exact List.mem_append_left _ (List.mem_of_getElem? hget)

theorem all_formatRFC822 (t : ℤ) : (formatRFC822 t).toList.all isFormatChar = true := by
  simp only [formatRFC822, String.toList_ofList, List.all_append, all_appendInt,
    all_shortMonthName, Bool.true_and, Bool.and_true]
  rfl

theorem all_formatStamp (t : ℤ) : (formatStamp t).toList.all isFormatChar = true := by
  simp only [formatStamp, String.toList_ofList, List.all_append, all_appendInt, Bool.true_and,
    Bool.and_true]
  rfl

end Boulder.Lib.GoTime
