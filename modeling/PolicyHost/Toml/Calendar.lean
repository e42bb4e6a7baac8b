import PolicyHost.Text.Basic

/-!
# Dates and times of day

How documents write dates, times of day and offsets from universal time, and how messages call them.
A scanner takes the longest form in front of a text; fields have to lie in their ranges, and only
`Date.isReal` knows the lengths of months.

* `Date`, `Clock`, `Stamp`: a date, a time of day, and either with the other.
* `Stamp.scan?`: a date, perhaps with a time and an offset, or a time alone.
* `Stamp.quoted`: how a message calls it.
-/

namespace PolicyHost

/-- A year, a month and a day. -/
structure Date where
  year : Nat
  month : Nat
  day : Nat
deriving DecidableEq, Repr

/-- A time of day. -/
structure Clock where
  hour : Nat
  minute : Nat
  second : Nat
  microsecond : Nat
deriving DecidableEq, Repr

/-- A point in time: a date, a time of day, or both, perhaps with the minutes by which the clock is
ahead of universal time. -/
inductive Stamp
  | date (date : Date)
  | clock (clock : Clock)
  | moment (date : Date) (clock : Clock) (offset : Option Int)
deriving DecidableEq, Repr

namespace Date

def isLeap (year : Nat) : Bool := year % 4 == 0 && (year % 100 != 0 || year % 400 == 0)

def daysOf (year month : Nat) : Nat :=
  if month = 2 then if isLeap year then 29 else 28
  else if month = 4 ∨ month = 6 ∨ month = 9 ∨ month = 11 then 30
  else 31

/-- A date of the calendar, which starts with year one. -/
def isReal (d : Date) : Bool :=
  1 ≤ d.year && 1 ≤ d.month && d.month ≤ 12 && 1 ≤ d.day && d.day ≤ daysOf d.year d.month

end Date

namespace Stamp

def number? (digits : Text) : Option Nat :=
  if digits.all CodePoint.isDigit then some digits.digitsValue else none

/-- A number of two digits within bounds. -/
def field? (low high : Nat) (a b : CodePoint) : Option Nat :=
  (number? [a, b]).bind fun n => if low ≤ n ∧ n ≤ high then some n else none

def scanDate? : Text → Option (Date × Text)
  | a :: b :: c :: d :: x :: e :: f :: y :: g :: h :: rest => do
    let year ← number? [a, b, c, d]
    let month ← field? 1 12 e f
    let day ← field? 1 31 g h
    if x = '-' ∧ y = '-' then some (⟨year, month, day⟩, rest) else none
  | _ => none

/-- The digits of a fraction of a second that count. -/
def fractionDigits : Nat := 6

/-- A fraction of a second in front of a text, in millionths; without one there are none. -/
def scanFraction (t : Text) : Nat × Text :=
  match t with
  | c :: rest =>
    let digits := rest.takeWhile CodePoint.isDigit
    if c = '.' ∧ digits ≠ [] then
      let kept := digits.take fractionDigits
      (Text.digitsValue kept * 10 ^ (fractionDigits - kept.length), rest.drop digits.length)
    else (0, t)
  | [] => (0, t)

/-- A time of day in front of a text. -/
def scanClock? : Text → Option (Clock × Text)
  | a :: b :: x :: c :: d :: y :: e :: f :: rest => do
    let hour ← field? 0 23 a b
    let minute ← field? 0 59 c d
    let second ← field? 0 59 e f
    let (microsecond, rest) := scanFraction rest
    if x = ':' ∧ y = ':' then some (⟨hour, minute, second, microsecond⟩, rest) else none
  | _ => none

/-- An offset in front of a text, in minutes; without one there is none. -/
def scanOffset (t : Text) : Option Int × Text :=
  let numbered : Option (Int × Text) :=
    match t with
    | sign :: a :: b :: x :: c :: d :: rest => do
      let hours ← field? 0 23 a b
      let minutes ← field? 0 59 c d
      let size : Int := hours * 60 + minutes
      if x ≠ ':' then none
      else if sign = '+' then some (size, rest)
      else if sign = '-' then some (-size, rest)
      else none
    | _ => none
  match numbered, t with
  | some (offset, rest), _ => (some offset, rest)
  | none, c :: rest => if c = 'Z' ∨ c = 'z' then (some 0, rest) else (none, t)
  | none, [] => (none, t)

/-- A time of day after a date, behind the letter or the blank that sets it off. -/
def scanLater? : Text → Option (Clock × Text)
  | c :: rest => if c = 'T' ∨ c = 't' ∨ c = ' ' then scanClock? rest else none
  | [] => none

def scan? (t : Text) : Option (Stamp × Text) :=
  match scanDate? t with
  | none => (scanClock? t).map fun found => (.clock found.1, found.2)
  | some (d, rest) =>
    match scanLater? rest with
    | none => some (.date d, rest)
    | some (c, rest) =>
      let (offset, rest) := scanOffset rest
      some (.moment d c offset, rest)

def isReal : Stamp → Bool
  | .date d | .moment d .. => d.isReal
  | .clock _ => true

/-- The fields of a time of day; what is zero at the end may be left out. -/
def clockFields (c : Clock) : List Nat :=
  if c.microsecond ≠ 0 then [c.hour, c.minute, c.second, c.microsecond]
  else if c.second ≠ 0 then [c.hour, c.minute, c.second]
  else [c.hour, c.minute]

def dateFields (d : Date) : List Nat := [d.year, d.month, d.day]

/-- An offset that a message names: days and seconds, where only days are negative. -/
def quotedOffset (minutes : Int) : Text :=
  let seconds := minutes * 60
  if minutes = 0 then "datetime.timezone.utc"
  else if 0 < minutes then
    "datetime.timezone(datetime.timedelta(seconds=" ++ Text.ofInt seconds ++ "))"
  else
    "datetime.timezone(datetime.timedelta(days=-1, seconds=" ++ Text.ofInt (86400 + seconds) ++ "))"

def quotedCall (name : Text) (arguments : List Text) : Text :=
  name ++ "(" ++ Text.joinWith ", " arguments ++ ")"

def quoted : Stamp → Text
  | .date d => quotedCall "datetime.date" ((dateFields d).map Text.ofNat)
  | .clock c => quotedCall "datetime.time" ((clockFields c).map Text.ofNat)
  | .moment d c offset =>
    let numbers := (dateFields d ++ clockFields c).map Text.ofNat
    let zone := offset.toList.map fun minutes => "tzinfo=" ++ quotedOffset minutes
    quotedCall "datetime.datetime" (numbers ++ zone)

end Stamp

end PolicyHost
