import PolicyHost.Text.Numeral

/-!
# Semantic versions

A version is three numbers, perhaps a hyphen and identifiers of a prerelease, and perhaps a plus sign
and identifiers of a build. Precedence goes by the numbers, then by the prerelease; a version with a
prerelease comes before the one without. The build does not count.

* `Semver.parse?`: a text as a version.
* `Semver.compareFrom`: precedence; fails on a numeral that is too long to be read.
-/

namespace PolicyHost

/-- A version: its numerals as they stand, and the identifiers of its prerelease. -/
structure Semver where
  major : Text
  minor : Text
  patch : Text
  prerelease : List Text
deriving DecidableEq

namespace Semver

/-- A numeral without a needless zero in front. Digits after the first may be of any script. -/
def isNumber : Text → Bool
  | [] => false
  | c :: rest => if c = '0' then rest.isEmpty else c.isDigit && rest.all CodePoint.isDecimal

/-- A letter, a digit or a hyphen. -/
def isWordMark (c : CodePoint) : Bool := c.isLetter || c.isDigit || c == '-'

def isWord (t : Text) : Bool := !t.isEmpty && t.all isWordMark

/-- An identifier of a prerelease: a number, or a word that holds a letter or a hyphen. Digits before
the first of these may be of any script. -/
def isIdentifier (t : Text) : Bool :=
  isNumber t ||
    match t.dropWhile CodePoint.isDecimal with
    | [] => false
    | word => word.all isWordMark

/-- Cuts a text at the first mark: what stands before it and, if it occurs, what stands behind. -/
def cut (mark : CodePoint) (t : Text) : Text × Option Text :=
  let before := t.takeWhile fun c => c != mark
  match t.drop before.length with
  | [] => (before, none)
  | _ :: behind => (before, some behind)

def dropLineBreak (t : Text) : Text :=
  if t.getLast? = some (CodePoint.ofChar '\n') then t.dropLast else t

/-- Reads a version. One line break may follow it. -/
def parse? (t : Text) : Option Semver := do
  let (version, build) := cut '+' (dropLineBreak t)
  let (core, prerelease) := cut '-' version
  let identifiers := (prerelease.map (Text.split '.')).getD []
  let words := (build.map (Text.split '.')).getD []
  match Text.split '.' core with
  | [major, minor, patch] =>
    if [major, minor, patch].all isNumber && identifiers.all isIdentifier && words.all isWord then
      some ⟨major, minor, patch, identifiers⟩
    else none
  | _ => none

def isValid (t : Text) : Bool := (parse? t).isSome

def core (v : Semver) : Except Numeral.Fault (List Int) := [v.major, v.minor, v.patch].mapM Numeral.read

/-- An identifier of digits alone counts by its number. -/
def isNumeric (identifier : Text) : Bool := !identifier.isEmpty && identifier.all CodePoint.isDecimal

def compareText (a b : Text) : Ordering := if a < b then .lt else if b < a then .gt else .eq

/-- The order of identifiers: numbers by their value and before words, words by code points. -/
def compareIdentifiers (a b : Text) : Except Numeral.Fault Ordering :=
  match isNumeric a, isNumeric b with
  | true, true => do return compareOfLessAndEq (← Numeral.read a) (← Numeral.read b)
  | true, false => .ok .lt
  | false, true => .ok .gt
  | false, false => .ok (compareText a b)

/-- The order of lists of identifiers: by the first that differ; a list comes before those that it
begins. -/
def compareLists : List Text → List Text → Except Numeral.Fault Ordering
  | [], [] => .ok .eq
  | [], _ :: _ => .ok .lt
  | _ :: _, [] => .ok .gt
  | a :: as, b :: bs => do
    match ← compareIdentifiers a b with
    | .eq => compareLists as bs
    | order => return order

/-- The order of prereleases: their absence comes last. -/
def comparePrereleases (a b : List Text) : Except Numeral.Fault Ordering :=
  match a.isEmpty, b.isEmpty with
  | true, true => .ok .eq
  | true, false => .ok .gt
  | false, true => .ok .lt
  | false, false => compareLists a b

/-- The order of versions whose numbers are known. -/
def compareFrom (a b : Semver) (coreA coreB : List Int) : Except Numeral.Fault Ordering :=
  match compareOfLessAndEq coreA coreB with
  | .eq => comparePrereleases a.prerelease b.prerelease
  | order => .ok order

def sign : Ordering → Int
  | .lt => -1
  | .eq => 0
  | .gt => 1

end Semver

end PolicyHost
