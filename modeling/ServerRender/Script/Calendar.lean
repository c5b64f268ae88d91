import ServerRender.Text.Numeral

/-!
# Days and times

A time is a whole number of milliseconds since the start of 1970. The calendar is
Gregorian for all years; a year starts in March as far as leap days are concerned, so
that the leap day is the last day of its year.
-/

namespace ServerRender.Script

namespace Calendar

/-- A day and a time of day. -/
structure Moment where
  year : Int
  /-- From zero to eleven. -/
  month : Nat
  day : Nat
  hour : Nat
  minute : Nat
  second : Nat
  millisecond : Nat
  weekday : Nat
  deriving DecidableEq, Inhabited

def millisecondsPerDay : Int := 86400000

/-- The number of a day; months count from zero and may be outside their year. -/
def dayNumber (year month day : Int) : Int :=
  let fromMarch := month - 2
  let y := year + fromMarch / 12
  let m := fromMarch % 12
  365 * y + y / 4 - y / 100 + y / 400 + (153 * m + 2) / 5 + day - 1 - 719468

/-- Year, month from zero, and day of the month of a day. -/
def ofDayNumber (number : Int) : Int × Nat × Nat :=
  let z := number + 719468
  let era := z / 146097
  let dayOfEra := z % 146097
  let yearOfEra := (dayOfEra - dayOfEra / 1460 + dayOfEra / 36524 - dayOfEra / 146096) / 365
  let dayOfYear := dayOfEra - (365 * yearOfEra + yearOfEra / 4 - yearOfEra / 100)
  let m := (5 * dayOfYear + 2) / 153
  let day := dayOfYear - (153 * m + 2) / 5 + 1
  let month := if m < 10 then m + 2 else m - 10
  (yearOfEra + era * 400 + (if month ≤ 1 then 1 else 0), month.toNat, day.toNat)

/-- The moment of a time. -/
def momentOf (time : Int) : Moment :=
  let days := time / millisecondsPerDay
  let rest := (time % millisecondsPerDay).toNat
  let (year, month, day) := ofDayNumber days
  ⟨year, month, day, rest / 3600000, rest / 60000 % 60, rest / 1000 % 60, rest % 1000,
    ((days + 4) % 7).toNat⟩

/-- The time of a day and of parts that may be too large or too small. -/
def timeOf (year month day hour minute second millisecond : Int) : Int :=
  dayNumber year month 1 * millisecondsPerDay + (day - 1) * millisecondsPerDay
    + hour * 3600000 + minute * 60000 + second * 1000 + millisecond

/-- The time that is farthest from the start. -/
def lastTime : Int := 8640000000000000

/-- A time, if it is not too far away. -/
def clip? (time : Int) : Option Int :=
  if time.natAbs ≤ lastTime.natAbs then some time else none

/-! ## Writing -/

def weekdays : List String :=
  ["Sun", "Mon", "Tue", "Wed", "Thu", "Fri", "Sat"]

def months : List String :=
  ["Jan", "Feb", "Mar", "Apr", "May", "Jun", "Jul", "Aug", "Sep", "Oct", "Nov", "Dec"]

def padded (width n : Nat) : String :=
  let digits := Nat.toDigits 10 n
  String.ofList (List.replicate (width - digits.length) '0' ++ digits)

def yearText (year : Int) : String :=
  (if year < 0 then "-" else "") ++ padded 4 year.natAbs

def clockText (moment : Moment) : String :=
  padded 2 moment.hour ++ ":" ++ padded 2 moment.minute ++ ":" ++ padded 2 moment.second

def monthName (moment : Moment) : String :=
  months.getD moment.month ""

def weekdayName (moment : Moment) : String :=
  weekdays.getD moment.weekday ""

/-- Such as `Thu Jan 01 1970`. -/
def dateText (moment : Moment) : String :=
  weekdayName moment ++ " " ++ monthName moment ++ " " ++ padded 2 moment.day ++ " "
    ++ yearText moment.year

/-- Such as `00:00:00 GMT+0000`. -/
def timeText (moment : Moment) : String :=
  clockText moment ++ " GMT+0000"

/-- Such as `Thu, 01 Jan 1970 00:00:00 GMT`. -/
def universalText (moment : Moment) : String :=
  weekdayName moment ++ ", " ++ padded 2 moment.day ++ " " ++ monthName moment ++ " "
    ++ yearText moment.year ++ " " ++ clockText moment ++ " GMT"

/-- Such as `1970-01-01T00:00:00.000Z`; a year of more digits has a sign. -/
def isoText (moment : Moment) : String :=
  let year := if 0 ≤ moment.year && moment.year ≤ 9999 then padded 4 moment.year.natAbs
    else (if moment.year < 0 then "-" else "+") ++ padded 6 moment.year.natAbs
  year ++ "-" ++ padded 2 (moment.month + 1) ++ "-" ++ padded 2 moment.day ++ "T"
    ++ clockText moment
    ++ "." ++ padded 3 moment.millisecond ++ "Z"

/-! ## Reading -/

/-- So many digits at the start of a text, and the rest. -/
def takeDigits? (count : Nat) (text : List Char) : Option (Nat × List Char) := do
  let digits := text.take count
  if digits.length = count then return (← Text.digits? digits, text.drop count) else none

def expect? (c : Char) : List Char → Option (List Char)
  | first :: rest => if first = c then some rest else none
  | [] => none

/-- A year of four digits, or of six behind a sign. -/
def takeYear? : List Char → Option (Int × List Char)
  | '+' :: rest => do
    let (year, left) ← takeDigits? 6 rest
    return (year, left)
  | '-' :: rest => do
    let (year, left) ← takeDigits? 6 rest
    if year = 0 then none else return (-(year : Int), left)
  | text => do
    let (year, left) ← takeDigits? 4 text
    return (year, left)

/-- A month or a day behind a hyphen; without one it is the first. -/
def takePart? (most : Nat) : List Char → Option (Nat × List Char)
  | '-' :: rest => do
    let (part, left) ← takeDigits? 2 rest
    if 1 ≤ part && part ≤ most then return (part, left) else none
  | text => return (1, text)

/-- How far a zone is ahead, in minutes. -/
def zone? : List Char → Option Int
  | [] => some 0
  | ['Z'] => some 0
  | sign :: rest => do
    let (hours, left) ← takeDigits? 2 rest
    let (minutes, left) ← takeDigits? 2 (← expect? ':' left)
    if !left.isEmpty || 23 < hours || 59 < minutes then none
    else if sign = '+' then return (60 * hours + minutes : Nat)
    else if sign = '-' then return -((60 * hours + minutes : Nat) : Int)
    else none

/-- Seconds and milliseconds, which may be missing. -/
def takeSeconds? : List Char → Option (Nat × Nat × List Char)
  | ':' :: rest => do
    let (second, left) ← takeDigits? 2 rest
    match left with
    | '.' :: digits =>
      let known := digits.takeWhile Char.isDigit
      if known.isEmpty || 9 < known.length then none
      else
        let first := (known ++ ['0', '0']).take 3
        return (second, ← Text.digits? first, digits.dropWhile Char.isDigit)
    | _ => return (second, 0, left)
  | text => return (0, 0, text)

/-- The time of a text such as `1970-01-01T00:00:00.000Z`. -/
def ofIso? (text : List Char) : Option Int := do
  let (year, rest) ← takeYear? text
  let (month, afterMonth) ← takePart? 12 rest
  let hasMonth := afterMonth.length < rest.length
  let (day, afterDay) ← if hasMonth then takePart? 31 afterMonth else some (1, afterMonth)
  match afterDay with
  | [] => clip? (timeOf year (month - 1) day 0 0 0 0)
  | 'T' :: clock => do
    let (hour, left) ← takeDigits? 2 clock
    let (minute, left) ← takeDigits? 2 (← expect? ':' left)
    let (second, millisecond, left) ← takeSeconds? left
    let ahead ← zone? left
    if 24 < hour || 59 < minute || 59 < second then none
    else if hour = 24 && (minute, second, millisecond) != (0, 0, 0) then none
    else clip? (timeOf year (month - 1) day hour (minute - ahead) second millisecond)
  | _ => none

/-- The number of a month by its name. -/
def monthNamed? (name : List Char) : Option Nat :=
  months.idxOf? (String.ofList name)

def takeClock? (text : List Char) : Option (Nat × Nat × Nat × List Char) := do
  let (hour, left) ← takeDigits? 2 text
  let (minute, left) ← takeDigits? 2 (← expect? ':' left)
  let (second, left) ← takeDigits? 2 (← expect? ':' left)
  if 23 < hour || 59 < minute || 59 < second then none else return (hour, minute, second, left)

/-- The time of a text in one of the two written forms. -/
def ofWritten? (text : List Char) : Option Int := do
  let name := String.ofList (text.take 3)
  if !weekdays.contains name then none
  else match text.drop 3 with
    | ',' :: ' ' :: rest => do
      let (day, left) ← takeDigits? 2 rest
      let month ← monthNamed? ((← expect? ' ' left).take 3)
      let (year, left) ← takeDigits? 4 (← expect? ' ' (left.drop 4))
      let (hour, minute, second, left) ← takeClock? (← expect? ' ' left)
      check name year month day left " GMT".toList (timeOf year month day hour minute second 0)
    | ' ' :: rest => do
      let month ← monthNamed? (rest.take 3)
      let (day, left) ← takeDigits? 2 (← expect? ' ' (rest.drop 3))
      let (year, left) ← takeDigits? 4 (← expect? ' ' left)
      let (hour, minute, second, left) ← takeClock? (← expect? ' ' left)
      let sign := left.drop 4
      let (hours, rest) ← takeDigits? 2 (sign.drop 1)
      let (minutes, _) ← takeDigits? 2 rest
      let size : Int := 60 * hours + minutes
      let ahead ← match sign.head? with
        | some '+' => some size
        | some '-' => some (-size)
        | _ => none
      let time := timeOf year month day hour (minute - ahead) second 0
      let others := left.take 4 ++ rest.drop 2
      if 23 < hours || 59 < minutes then none
      else check name year month day others " GMT".toList time
    | _ => none
where
  check (name : String) (year month day : Nat) (left expected : List Char) (time : Int) : Option Int :=
    let moment := momentOf (timeOf year month day 0 0 0 0)
    if left = expected && moment.day = day && weekdayName moment = name then clip? time else none

/-- The time that a text names. -/
def parse? (text : String) : Option Int :=
  (ofIso? text.toList).orElse fun _ => ofWritten? text.toList

end Calendar

end ServerRender.Script
