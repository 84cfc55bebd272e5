/-! Dates of the proleptic Gregorian calendar from seconds since the start of 1970, and the two
written forms of an instant. -/

namespace ArpProbe

structure CalendarTime where
  year : Nat
  month : Nat
  day : Nat
  weekday : Nat
  hour : Nat
  minute : Nat
  second : Nat
  deriving DecidableEq, Repr

namespace CalendarTime

/-- The date of a day counted from the first of January 1970. Years are counted from March, so
that a leap day ends its year, in eras of 400 years or 146097 days. -/
def ofDay (days : Nat) : Nat × Nat × Nat :=
  let shifted := days + 719468
  let era := shifted / 146097
  let dayOfEra := shifted % 146097
  let yearOfEra :=
    (dayOfEra - dayOfEra / 1460 + dayOfEra / 36524 - dayOfEra / 146096) / 365
  let dayOfYear := dayOfEra - (365 * yearOfEra + yearOfEra / 4 - yearOfEra / 100)
  let fromMarch := (5 * dayOfYear + 2) / 153
  let day := dayOfYear - (153 * fromMarch + 2) / 5 + 1
  let month := if fromMarch < 10 then fromMarch + 3 else fromMarch - 9
  let year := yearOfEra + era * 400 + (if month ≤ 2 then 1 else 0)
  (year, month, day)

def ofSeconds (seconds : Nat) : CalendarTime :=
  let days := seconds / 86400
  let rest := seconds % 86400
  let (year, month, day) := ofDay days
  { year, month, day
    weekday := (days + 4) % 7
    hour := rest / 3600
    minute := rest / 60 % 60
    second := rest % 60 }

def monthName (month : Nat) : String :=
  ["Jan", "Feb", "Mar", "Apr", "May", "Jun", "Jul", "Aug", "Sep", "Oct", "Nov", "Dec"].getD
    (month - 1) ""

def weekdayName (weekday : Nat) : String :=
  ["Sun", "Mon", "Tue", "Wed", "Thu", "Fri", "Sat"].getD weekday ""

def padded (filler : Char) (width n : Nat) : String :=
  String.ofList ((Nat.toDigits 10 n).leftpad width filler)

def clockText (t : CalendarTime) : String :=
  padded '0' 2 t.hour ++ ":" ++ padded '0' 2 t.minute ++ ":" ++ padded '0' 2 t.second

def yearText (t : CalendarTime) : String :=
  (if 9999 < t.year then "+" else "") ++ padded '0' 4 t.year

def shortText (t : CalendarTime) : String :=
  monthName t.month ++ " " ++ padded ' ' 2 t.day ++ " " ++ t.yearText ++ " " ++ t.clockText

def mailText (t : CalendarTime) (offset : String) : String :=
  weekdayName t.weekday ++ ", " ++ toString t.day ++ " " ++ monthName t.month ++ " " ++
    t.yearText ++ " " ++ t.clockText ++ " " ++ offset

end CalendarTime

end ArpProbe
