import Pacing.Civil.Date
import Pacing.Text.Numeral

/-!
# Moments

Moments of Coordinated Universal Time in whole seconds, their count from
1970-01-01T00:00:00Z, and their text.  A year of four digits is written
without a sign, every other year with one.
-/

namespace Pacing.Civil

structure Moment where
  date : Date
  hour : Nat
  minute : Nat
  second : Nat
  deriving DecidableEq, Repr

namespace Moment

/-- The moments that exist. -/
def Exists (moment : Moment) : Prop :=
  moment.date.Exists ∧ moment.hour < 24 ∧ moment.minute < 60 ∧ moment.second < 60

instance (moment : Moment) : Decidable moment.Exists :=
  inferInstanceAs (Decidable (_ ∧ _))

def secondsInDay : Int := 86400

/-- The seconds from 1970-01-01T00:00:00Z to a moment. -/
def toSeconds (moment : Moment) : Int :=
  moment.date.toDays * secondsInDay +
    (moment.hour * 3600 + moment.minute * 60 + moment.second : Nat)

/-- The moment that lies a number of seconds after 1970-01-01T00:00:00Z. -/
def ofSeconds (seconds : Int) : Moment :=
  let secondOfDay := (seconds % secondsInDay).toNat
  { date := Date.ofDays (seconds / secondsInDay)
    hour := secondOfDay / 3600
    minute := secondOfDay / 60 % 60
    second := secondOfDay % 60 }

def yearChars (year : Int) : List Char :=
  if 0 ≤ year ∧ year ≤ 9999 then Text.paddedDigits 4 year.toNat
  else (if year < 0 then '-' else '+') :: Text.paddedDigits 4 year.natAbs

/-- The characters `YYYY-MM-DDThh:mm:ssZ` of a moment. -/
def chars (moment : Moment) : List Char :=
  yearChars moment.date.year ++ '-' :: Text.paddedDigits 2 moment.date.month ++
    '-' :: Text.paddedDigits 2 moment.date.day ++
    'T' :: Text.paddedDigits 2 moment.hour ++
    ':' :: Text.paddedDigits 2 moment.minute ++
    ':' :: Text.paddedDigits 2 moment.second ++ ['Z']

def text (moment : Moment) : String :=
  String.ofList moment.chars

/-- The first second of the year -262143, the earliest moment with a text. -/
def leastSecond : Int := -8334601228800

/-- The last second of the year 262142, the latest moment with a text. -/
def greatestSecond : Int := 8210266876799

/-- The text of a moment that is given by its seconds, if it has one. -/
def textOfSeconds? (seconds : Int) : Option String :=
  if leastSecond ≤ seconds ∧ seconds ≤ greatestSecond then
    some (ofSeconds seconds).text
  else none

end Moment

end Pacing.Civil
