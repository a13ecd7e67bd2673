import AdmissionLedger.Number.Double
import AdmissionLedger.Text.CodePoint

/-!
# Timestamps

A timestamp is a number of microseconds from the epoch, within the years 1 to
9999.  It is made from a clock reading in nanoseconds, which is first divided into
seconds as a double; the fraction of the double is then rounded to microseconds,
a half to the even one.

## Main definitions

* `Timestamp.ofNanoseconds` — the timestamp of a clock reading, or why there is none.
* `Timestamp.civil` — its date and time of day.
* `Timestamp.iso`, `Timestamp.toSecond` — the two written forms.
-/

namespace AdmissionLedger

/-- Why a clock reading has no timestamp. -/
inductive TimestampError
  /-- The reading in seconds is no double. -/
  | quotientTooLarge
  /-- The seconds do not fit 64 bits. -/
  | secondsTooLarge
  /-- The year does not fit 32 bits. -/
  | yearTooLarge
  /-- The year is not from 1 to 9999. -/
  | yearOutOfRange (year : Int)
  deriving DecidableEq, Repr

/-- The wording of a failure. -/
def TimestampError.message : TimestampError → Text
  | .quotientTooLarge => "integer division result too large for a float"
  | .secondsTooLarge => "timestamp out of range for platform time_t"
  | .yearTooLarge => "[Errno 75] Value too large for defined data type"
  | .yearOutOfRange year => Text.ofString "year " ++ Text.ofInt year ++ " is out of range"

/-- A date and time of day. -/
structure Civil where
  year : Int
  month : Nat
  day : Nat
  hour : Nat
  minute : Nat
  second : Nat
  microsecond : Nat
  deriving DecidableEq, Repr

/-- The date that is a number of days after 1 January 1970.  Years are counted from March, so that
the leap day is the last of its year, in eras of 400 years. -/
def civilDate (days : Int) : Int × Nat × Nat :=
  let shifted := days + 719468
  let era := Int.fdiv shifted 146097
  let dayOfEra := (shifted - era * 146097).toNat
  let yearOfEra := (dayOfEra - dayOfEra / 1460 + dayOfEra / 36524 - dayOfEra / 146096) / 365
  let dayOfYear := dayOfEra - (365 * yearOfEra + yearOfEra / 4 - yearOfEra / 100)
  let monthFromMarch := (5 * dayOfYear + 2) / 153
  let day := dayOfYear - (153 * monthFromMarch + 2) / 5 + 1
  let month := if monthFromMarch < 10 then monthFromMarch + 3 else monthFromMarch - 9
  (yearOfEra + era * 400 + (if month ≤ 2 then 1 else 0), month, day)

/-- The year that holds a second counted from the epoch. -/
def yearOfSecond (second : Int) : Int :=
  (civilDate (Int.fdiv second 86400)).1

/-- A number of microseconds from the epoch. -/
structure Timestamp where
  microseconds : Int
  deriving DecidableEq, Repr

namespace Timestamp

/-- A double split into whole seconds, toward zero, and the microseconds of the rest.  The rest is
scaled as a double before it is rounded, and may carry into the seconds. -/
def splitSeconds (negative : Bool) (mantissa : Nat) (exponent : Int) : Int :=
  let (n, d) := shiftRatio mantissa 1 exponent
  let whole := n / d
  let scaled := (Double.ofRatio negative (n % d) d).scale 1000000
  let micros := match scaled with
    | .finite _ m e =>
      let (n, d) := shiftRatio m 1 e
      roundHalfEven n d
    | _ => 0
  let total : Int := whole * 1000000 + micros
  if negative then -total else total

/-- Whether a number fits in a signed word of so many bits. -/
def fitsWord (bits : Nat) (n : Int) : Bool :=
  let half : Int := (Nat.pow 2 (bits - 1) : Nat)
  n < half && -half ≤ n

/-- The timestamp of a clock reading in nanoseconds. -/
def ofNanoseconds (ns : Int) : Except TimestampError Timestamp :=
  match Double.ofIntRatio ns 1000000000 with
  | .finite negative mantissa exponent =>
    let total := splitSeconds negative mantissa exponent
    let seconds := Int.fdiv total 1000000
    let year := yearOfSecond seconds
    if !fitsWord 64 seconds then .error .secondsTooLarge
    else if !fitsWord 32 (year - 1900) then .error .yearTooLarge
    else if year < 1 || 9999 < year then .error (.yearOutOfRange year)
    else .ok ⟨total⟩
  | _ => .error .quotientTooLarge

/-- The date and time of day of a timestamp. -/
def civil (t : Timestamp) : Civil :=
  let seconds := Int.fdiv t.microseconds 1000000
  let days := Int.fdiv seconds 86400
  let (year, month, day) := civilDate days
  let ofDay := (seconds - days * 86400).toNat
  ⟨year, month, day, ofDay / 3600, ofDay / 60 % 60, ofDay % 60,
    (t.microseconds - seconds * 1000000).toNat⟩

/-- A time of day to the second. -/
def clockText (c : Civil) : Text :=
  Text.paddedDecimal 2 c.hour ++ ":" ++ Text.paddedDecimal 2 c.minute ++ ":" ++
    Text.paddedDecimal 2 c.second

/-- The written form of records: four digits of the year, six of the fraction unless it is zero. -/
def iso (t : Timestamp) : Text :=
  let c := t.civil
  Text.paddedDecimal 4 c.year.toNat ++ "-" ++ Text.paddedDecimal 2 c.month ++ "-" ++
    Text.paddedDecimal 2 c.day ++ "T" ++ clockText c ++
    (if c.microsecond = 0 then [] else Text.ofString "." ++ Text.paddedDecimal 6 c.microsecond) ++
    "+00:00"

/-- The written form of mails: to the second, the year in as many digits as it has. -/
def toSecond (t : Timestamp) : Text :=
  let c := t.civil
  Text.decimal c.year.toNat ++ "-" ++ Text.paddedDecimal 2 c.month ++ "-" ++
    Text.paddedDecimal 2 c.day ++ " " ++ clockText c ++ " UTC"

end Timestamp

end AdmissionLedger
