/-
# Boulder.SA.FQDNSets -- the `fqdnSets` table

`AddCertificate` records, for every certificate, the hash of its set of DNS names with the
certificate's `notBefore` as its issue time; `CountFQDNSets` and `FQDNSetExists` look rows up by
that hash. The hash is SHA-256, taken as a parameter: all that matters here is that it is a
function of `UniqueLowerNames`, so a name set hashes the same in any case and order
(`hashNames_eq_of_same_set`).
-/
import Boulder.Core.Objects
import Boulder.Core.Util

namespace Boulder.SA

open Boulder.Core Boulder.Lib.GoStrings

/-- A row of `fqdnSets`. -/
structure FQDNSet (H : Type) where
  setHash : H
  serial : String
  issued : Time
  expires : Time
  deriving DecidableEq, Repr

section FQDNSets

variable {H : Type} [DecidableEq H] (sha256 : String → H)

/-- `hashNames`: the hash of the joined set of names. -/
def hashNames (names : List String) : H :=
  sha256 (join (uniqueLowerNames names) ",")

/-- `addFQDNSet`: insert one row. -/
def addFQDNSet (sets : List (FQDNSet H)) (names : List String) (serial : String)
    (issued expires : Time) : List (FQDNSet H) :=
  sets ++ [⟨hashNames sha256 names, serial, issued, expires⟩]

/-- The rows `CountFQDNSets` counts at `now`: this set's, issued after `now - window`. -/
def inWindow (now window : Time) (names : List String) (set : FQDNSet H) : Bool :=
  set.setHash = hashNames sha256 names ∧ now - window < set.issued

/-- `CountFQDNSets` at `now`. -/
def countFQDNSets (sets : List (FQDNSet H)) (now window : Time) (names : List String) : ℤ :=
  (sets.countP (inWindow sha256 now window names) : ℤ)

/-- `FQDNSetExists`. -/
def fqdnSetExists (sets : List (FQDNSet H)) (names : List String) : Bool :=
  sets.any (·.setHash = hashNames sha256 names)

omit [DecidableEq H] in
theorem hashNames_eq_of_same_set {names names' : List String}
    (h : ∀ x, x ∈ names.map toLower ↔ x ∈ names'.map toLower) :
    hashNames sha256 names = hashNames sha256 names' := by
  rw [hashNames, hashNames, uniqueLowerNames_eq_iff.mpr h]

/-- `CountFQDNSets` sees a name list only through its hash. -/
theorem countFQDNSets_congr (sets : List (FQDNSet H)) (now window : Time)
    {names names' : List String} (h : hashNames sha256 names = hashNames sha256 names') :
    countFQDNSets sha256 sets now window names = countFQDNSets sha256 sets now window names' := by
  have hsame : inWindow sha256 now window names = inWindow sha256 now window names' := by
    funext set
    simp [inWindow, h]
  rw [countFQDNSets, countFQDNSets, hsame]

/-- A row added for the same set, inside the window, is counted once more. -/
theorem countFQDNSets_addFQDNSet (sets : List (FQDNSet H)) {now window issued : Time}
    {names names' : List String} (serial : String) (expires : Time)
    (hsame : hashNames sha256 names' = hashNames sha256 names) (hin : now - window < issued) :
    countFQDNSets sha256 (addFQDNSet sha256 sets names' serial issued expires) now window names =
      countFQDNSets sha256 sets now window names + 1 := by
  simp [countFQDNSets, addFQDNSet, inWindow, hsame, hin]

end FQDNSets

end Boulder.SA
