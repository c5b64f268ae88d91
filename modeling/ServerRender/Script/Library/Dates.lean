import ServerRender.Script.Calendar
import ServerRender.Script.Library.Basic

/-!
# Dates

A date holds a time or none. Local time is universal time.
-/

namespace ServerRender.Script

namespace Run

open Calendar

/-! ## Times -/

/-- A time as a number. -/
def ofTime (time : Option Int) : Double :=
  (time.map Double.ofInt).getD .notANumber

/-- The time of a script that asks for it: no clock is at hand. -/
def presentTime : Int := 1700000000000

/-- The place of a date and its time. -/
def dateThis (this : Value) : Run (Nat × Option Int) := do
  match this, ← kindOf? this with
  | .object id, some (.date time) => return (id, time.toInt?)
  | _, _ => throwType "'this' is not a Date"

def setTime (id : Nat) (time : Option Int) : Run Value := do
  changeKind id (.date (ofTime time))
  return .number (ofTime time)

/-- A whole number without regard to its fraction, if it is finite. -/
def wholePart? (x : Double) : Option Int :=
  if x.isFinite then some x.truncated else none

/-- All parts, if they are finite. -/
def wholeParts? (parts : List Double) : Option (List Int) :=
  parts.mapM wholePart?

/-- A year of two digits is one of the last century. -/
def fullYear (year : Int) : Int :=
  if 0 ≤ year && year ≤ 99 then 1900 + year else year

/-- The time of year, month and further parts, which count from their least value where
they are missing. -/
def timeOfParts? (parts : List Int) : Option Int :=
  let part (index : Nat) (default : Int) : Int := parts.getD index default
  let year := fullYear (part 0 0)
  if 400000 < year.natAbs || 10000000 < (part 1 0).natAbs then none
  else clip? (timeOf year (part 1 0) (part 2 1) (part 3 0) (part 4 0) (part 5 0) (part 6 0))

def universalTime : Native := fun _ arguments => do
  let parts ← (arguments.take 7).mapM numberOf
  if parts.isEmpty then return .notANumber
  else return .number (ofTime ((wholeParts? parts).bind timeOfParts?))

/-- A time of a number. -/
def timeOfNumber? (x : Double) : Option Int :=
  (wholePart? x).bind clip?

def makeDate : Making := fun arguments target => do
  let time ← match arguments with
    | [] => pure (some presentTime)
    | [value] => do
      match ← kindOf? value with
      | some (.date time) => pure time.toInt?
      | _ =>
        match ← primitive "default" value with
        | .text units => pure (parse? (Text.ofUnits units))
        | other => do pure (timeOfNumber? (← primitiveNumber other))
    | _ => do pure ((wholeParts? (← (arguments.take 7).mapM numberOf)).bind timeOfParts?)
  return .object (← addFor target "Date" (.ofKind (.date (ofTime time)) .empty))

/-! ## Reading parts -/

/-- A number that a moment has. -/
def getPart (part : Moment → Int) : Native := fun this _ => do
  let (_, time) ← dateThis this
  return .number ((time.map fun time => Double.ofInt (part (momentOf time))).getD .notANumber)

def getTime : Native := fun this _ => do
  return .number (ofTime (← dateThis this).2)

/-- A text of a moment. -/
def momentText (write : Moment → String) : Native := fun this _ => do
  let (_, time) ← dateThis this
  return .ofString ((time.map fun time => write (momentOf time)).getD "Invalid Date")

def fullText (moment : Moment) : String :=
  dateText moment ++ " " ++ timeText moment

def isoDate : Native := fun this _ => do
  match (← dateThis this).2 with
  | some time => return .ofString (isoText (momentOf time))
  | none => throwRange "Invalid time value"

def dateToJson : Native := fun this _ => do
  let id ← objectOf this
  match ← primitive "number" (.object id) with
  | .number x => if x.isFinite then invoke (.object id) (.name "toISOString") [] else return .null
  | _ => invoke (.object id) (.name "toISOString") []

def notWritten : Native := fun this _ => do
  let _ ← dateThis this
  throwValue (.ofString "Function Unimplemented")

def datePrimitive : Native := fun this arguments => do
  if !this.isObject then throwType "'this' is not an object"
  match argument arguments 0 with
  | .text units =>
    let hint := Text.ofUnits units
    if hint == "string" || hint == "default" then ordinaryPrimitive this true
    else if hint == "number" then ordinaryPrimitive this false
    else throwType "`hint` must be one of \"default\", \"string\" or \"number\""
  | _ => throwType "`hint` must be one of \"default\", \"string\" or \"number\""

/-! ## Changing parts -/

/-- The parts of a moment from the year on. -/
def partsOf (moment : Moment) : List Int :=
  [moment.year, moment.month, moment.day, moment.hour, moment.minute, moment.second,
    moment.millisecond]

/-- Replaces parts from an index on, at most so many. -/
def setParts (start most : Nat) : Native := fun this arguments => do
  let (id, time) ← dateThis this
  let given ← (arguments.take most).mapM numberOf
  let known := match time with
    | some time => some time
    | none => if start = 0 then some 0 else none
  let after := do
    let parts := partsOf (momentOf (← known))
    let changes ← wholeParts? (if given.isEmpty then [.notANumber] else given)
    let all := parts.take start ++ changes ++ parts.drop (start + changes.length)
    let year := all.getD 0 0
    if 400000 < year.natAbs || 10000000 < (all.getD 1 0).natAbs then none
    else
      clip? (timeOf year (all.getD 1 0) (all.getD 2 0) (all.getD 3 0) (all.getD 4 0) (all.getD 5 0)
        (all.getD 6 0))
  setTime id after

def setWholeTime : Native := fun this arguments => do
  let (id, _) ← dateThis this
  setTime id (timeOfNumber? (← numberOf (argument arguments 0)))

def setShortYear : Native := fun this arguments => do
  let (id, time) ← dateThis this
  let year ← numberOf (argument arguments 0)
  let after := do
    let parts := partsOf (momentOf (time.getD 0))
    let year := fullYear (← wholePart? year)
    if 400000 < year.natAbs then none
    else clip? (timeOf year (parts.getD 1 0) (parts.getD 2 0) (parts.getD 3 0) (parts.getD 4 0)
      (parts.getD 5 0) (parts.getD 6 0))
  setTime id after

/-- The parts that have methods of their own: their names, where they stand, and how
many parts a change can have. -/
def dateParts : List (String × Nat × Nat) :=
  [("FullYear", 0, 3), ("Month", 1, 2), ("Date", 2, 1), ("Hours", 3, 4), ("Minutes", 4, 3),
    ("Seconds", 5, 2), ("Milliseconds", 6, 1)]

end Run

open Run Calendar in
def Class.date : Class where
  name := "Date"
  length := 7
  call := fun _ _ => return .ofString (fullText (momentOf presentTime))
  making := some makeDate
  statics := [
    .method "now" 0 (fun _ _ => return .number (.ofInt presentTime)),
    .method "parse" 1 (fun _ arguments => do
      return .number (ofTime (parse? (← stringOf (argument arguments 0))))),
    .method "UTC" 7 universalTime]
  methods :=
    (["", "UTC"].flatMap fun zone => dateParts.flatMap fun (name, index, most) => [
      .method ("get" ++ zone ++ name) 0 (getPart fun moment => (partsOf moment).getD index 0),
      .method ("set" ++ zone ++ name) most (setParts index most)])
    ++ [.method "getDay" 0 (getPart fun moment => moment.weekday),
      .method "getUTCDay" 0 (getPart fun moment => moment.weekday),
      .method "getTime" 0 getTime,
      .method "setTime" 1 setWholeTime,
      .method "getTimezoneOffset" 0 (getPart fun _ => 0),
      .method "getYear" 0 (getPart fun moment => moment.year - 1900),
      .method "setYear" 1 setShortYear,
      .method "toDateString" 0 (momentText dateText),
      .method "toISOString" 0 isoDate,
      .method "toJSON" 1 dateToJson,
      .method "toLocaleDateString" 0 notWritten,
      .method "toLocaleString" 0 notWritten,
      .method "toLocaleTimeString" 0 notWritten,
      .method "toString" 0 (momentText fullText),
      .method "toTimeString" 0 (momentText timeText),
      .method "toUTCString" 0 (momentText universalText),
      .method "toGMTString" 0 (momentText universalText),
      .method "valueOf" 0 getTime,
      .keyed "toPrimitive" "[Symbol.toPrimitive]" 1 datePrimitive]

end ServerRender.Script
