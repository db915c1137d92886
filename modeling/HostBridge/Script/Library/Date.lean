/-
This file defines the functions of dates. All clocks show the universal time.
-/
import HostBridge.Script.Library.Array.Basic
import HostBridge.Script.Library.Object

namespace HostBridge.Script

/-- The parts of a point in time. Months and days of the week are counted from zero. -/
structure DateParts where
  year : Int
  month : Int
  day : Int
  hour : Int
  minute : Int
  second : Int
  millisecond : Int

def dayLength : Int := 86400000

/-- The years before a year that have a day more than others. -/
def leapDays (year : Int) : Int :=
  Int.fdiv (year - 1969) 4 - Int.fdiv (year - 1901) 100 + Int.fdiv (year - 1601) 400

/-- The day on which a year begins. -/
def yearStart (year : Int) : Int := 365 * (year - 1970) + leapDays year

def yearLength (year : Int) : Int := yearStart (year + 1) - yearStart year

def monthLengths (year : Int) : List Int :=
  [31, if yearLength year = 366 then 29 else 28, 31, 30, 31, 30, 31, 31, 30, 31, 30, 31]

/-- The point in time that parts describe, which may lie outside their usual ranges. -/
def DateParts.time (parts : DateParts) : Int :=
  let year := parts.year + Int.fdiv parts.month 12
  let month := (Int.fmod parts.month 12).toNat
  let days := yearStart year + ((monthLengths year).take month).foldl (· + ·) 0 + parts.day - 1
  days * dayLength + parts.hour * 3600000 + parts.minute * 60000 + parts.second * 1000 +
    parts.millisecond

/-- The month and the day in it of a day of the year. -/
def findMonth : Int → Int → List Int → Int × Int
  | month, day, size :: rest => if day < size then (month, day) else findMonth (month + 1) (day - size) rest
  | month, day, [] => (month, day)

/-- The year of a day, which is near the guess. The first argument bounds the steps. -/
def findYear (day : Int) : Nat → Int → Int
  | 0, year => year
  | bound + 1, year =>
      if day < yearStart year then findYear day bound (year - 1)
      else if yearStart (year + 1) ≤ day then findYear day bound (year + 1)
      else year

def DateParts.ofTime (time : Int) : DateParts :=
  let days := Int.fdiv time dayLength
  let rest := Int.fmod time dayLength
  let year := findYear days 1000 (1970 + Int.fdiv (days * 400) 146097)
  let (month, day) := findMonth 0 (days - yearStart year) (monthLengths year)
  ⟨year, month, day + 1, rest / 3600000, rest / 60000 % 60, rest / 1000 % 60, rest % 1000⟩

def weekday (time : Int) : Int := Int.fmod (Int.fdiv time dayLength + 4) 7

/-- Dates reach no further than this from the year 1970. -/
def latestTime : Float := 8.64e15

/-- A point in time that no date reaches is none. -/
def clipTime (time : Float) : Float :=
  if time.isNaN || latestTime < time.abs then notNumber else truncated time + 0.0

/-- The point in time that is taken for the present one. -/
def presentTime : Float := 1700000000000.0

/-- The parts in their order. -/
def DateParts.toList (parts : DateParts) : List Int := [
  parts.year, parts.month, parts.day, parts.hour, parts.minute, parts.second, parts.millisecond]

/-- The point in time of finite parts, of which the missing ones are the first of their kind. -/
def timeOfParts (fields : List Float) : Float :=
  if fields.all Float.isFinite then
    let field (index otherwise : Nat) : Int :=
      match fields[index]? with
      | some size => exactPart size
      | none => Int.ofNat otherwise
    let parts : DateParts := ⟨field 0 1970, field 1 0, field 2 1, field 3 0, field 4 0, field 5 0,
      field 6 0⟩
    if parts.toList.any fun size => (100000000000000000 : Int) < Int.ofNat size.natAbs then notNumber
    else if 1000000 < parts.year.natAbs then notNumber
    else clipTime (Float.ofInt parts.time)
  else notNumber

/-- Years of two digits belong to the twentieth century. -/
def fullYear (year : Float) : Float :=
  let year := truncated year
  if 0.0 ≤ year && year < 100.0 then year + 1900.0 else year

def timeOfArguments (call : Caller) (arguments : List Value) : Machine Float := do
  let numbers ← (arguments.take 7).mapM (toNumber call)
  match numbers with
  | [] => return notNumber
  | year :: rest => return timeOfParts (fullYear year :: rest)

def dayNames : List String := ["Sun", "Mon", "Tue", "Wed", "Thu", "Fri", "Sat"]

def monthNames : List String := [
  "Jan", "Feb", "Mar", "Apr", "May", "Jun", "Jul", "Aug", "Sep", "Oct", "Nov", "Dec"]

/-- A number with at least so many digits. -/
def paddedNumber (width : Nat) (number : Int) : String :=
  let digits := Decimal.digitText number.natAbs
  (if number < 0 then "-" else "") ++
    String.ofList (List.replicate (width - digits.length) '0') ++ digits

def twoDigits (number : Int) : String := paddedNumber 2 number

/-- The ways of writing a date. -/
inductive DateStyle where
  | universal
  | plain
  | exact
  | short

def monthName (parts : DateParts) : String := (monthNames[parts.month.toNat]?).getD ""

def dayName (time : Int) : String := (dayNames[(weekday time).toNat]?).getD ""

def exactYear (year : Int) : String :=
  if 0 ≤ year && year ≤ 9999 then paddedNumber 4 year
  else (if year < 0 then "-" else "+") ++ paddedNumber 6 year.natAbs

def DateStyle.dayText (style : DateStyle) (time : Int) (parts : DateParts) : String :=
  let day := twoDigits parts.day
  let year := paddedNumber 4 parts.year
  match style with
  | .universal => dayName time ++ ", " ++ day ++ " " ++ monthName parts ++ " " ++ year
  | .plain => dayName time ++ " " ++ monthName parts ++ " " ++ day ++ " " ++ year
  | .exact => exactYear parts.year ++ "-" ++ twoDigits (parts.month + 1) ++ "-" ++ day
  | .short => twoDigits (parts.month + 1) ++ "/" ++ day ++ "/" ++ year

def DateStyle.clockText (style : DateStyle) (parts : DateParts) : String :=
  let rest := twoDigits parts.minute ++ ":" ++ twoDigits parts.second
  let clock := twoDigits parts.hour ++ ":" ++ rest
  match style with
  | .universal => clock ++ " GMT"
  | .plain => clock ++ " GMT+0000"
  | .exact => clock ++ "." ++ paddedNumber 3 parts.millisecond ++ "Z"
  | .short =>
      twoDigits ((parts.hour + 11) % 12 + 1) ++ ":" ++ rest ++
        (if parts.hour < 12 then " AM" else " PM")

/-- What stands between the day and the clock. -/
def DateStyle.between : DateStyle → String
  | .universal | .plain => " "
  | .exact => "T"
  | .short => ", "

def DateStyle.text (style : DateStyle) (hasDay hasClock : Bool) (time : Int) : String :=
  let parts := DateParts.ofTime time
  (if hasDay then style.dayText time parts else "") ++
    (if hasDay && hasClock then style.between else "") ++
    (if hasClock then style.clockText parts else "")

/-- The digits at the beginning of a text, if their number is right. -/
def takeDigits? (width : Nat) (text : List Char) : Option (Int × List Char) :=
  let digits := (text.take width).takeWhile Decimal.isDigit
  if digits.length = width then
    some (Int.ofNat (Decimal.digitsValue digits), text.drop width)
  else none

/-- A field behind a mark. -/
def takeField? (mark : Char) (width : Nat) (text : List Char) : Option (Int × List Char) :=
  match text with
  | c :: rest => if c = mark then takeDigits? width rest else none
  | [] => none

def takeYear? (text : List Char) : Option (Int × List Char) :=
  match text with
  | '+' :: rest => takeDigits? 6 rest
  | '-' :: rest => (takeDigits? 6 rest).map fun (year, rest) => (-year, rest)
  | _ => takeDigits? 4 text

/-- The milliseconds that digits behind a point are. -/
def takeFraction (text : List Char) : Int × List Char :=
  match text with
  | c :: rest =>
      let digits := rest.takeWhile Decimal.isDigit
      if (c = '.' || c = ',') && !digits.isEmpty then
        let three := (digits ++ ['0', '0', '0']).take 3
        (Int.ofNat (Decimal.digitsValue three), rest.drop digits.length)
      else (0, text)
  | [] => (0, [])

/-- The minutes that a clock is ahead of the universal time. -/
def takeZone? (text : List Char) : Option Int :=
  match text with
  | [] | ['Z'] => some 0
  | sign :: rest =>
      if sign = '+' || sign = '-' then do
        let (hours, rest) ← takeDigits? 2 rest
        let (minutes, rest) ← (takeField? ':' 2 rest).or (takeDigits? 2 rest)
        if rest.isEmpty then
          let size := hours * 60 + minutes
          some (if sign = '-' then -size else size)
        else none
      else none

/-- A clock behind a day. -/
def takeClock? (text : List Char) : Option (Int × Int × Int × Int × List Char) := do
  let (hour, rest) ← (takeField? 'T' 2 text).or (takeField? ' ' 2 text)
  let (minute, rest) ← takeField? ':' 2 rest
  match takeField? ':' 2 rest with
  | none => some (hour, minute, 0, 0, rest)
  | some (second, rest) =>
      let (fraction, rest) := takeFraction rest
      some (hour, minute, second, fraction, rest)

/-- The point in time that a text in the exact style is. -/
def exactTime? (text : List Char) : Option Float := do
  let (year, rest) ← takeYear? text
  let (month, rest) := (takeField? '-' 2 rest).getD (1, rest)
  let (day, rest) := (takeField? '-' 2 rest).getD (1, rest)
  let (hour, minute, second, fraction, rest) := (takeClock? rest).getD (0, 0, 0, 0, rest)
  let zone ← takeZone? rest
  if month < 1 || 12 < month || day < 1 || 31 < day || 24 < hour || 59 < minute || 59 < second then
    none
  else
    let parts : DateParts := ⟨year, month - 1, day, hour, minute, second, fraction⟩
    some (clipTime (Float.ofInt (parts.time - zone * 60000)))

/-- The words of a text, which blanks and commas part. -/
def dateWords (text : List Char) : List (List Char) :=
  (text.splitOnP fun c => c = ' ' || c = ',').filter fun word => !word.isEmpty

def monthOfWord? (word : List Char) : Option Nat :=
  let name := (word.take 3).map Char.toLower
  monthNames.findIdx? fun month => month.toList.map Char.toLower = name

/-- What is known of a date while its words are read. -/
structure DateDraft where
  numbers : List Int
  month : Option Nat
  clock : Option (Int × Int × Int)
  zone : Int

def DateDraft.addWord? (draft : DateDraft) (word : List Char) : Option DateDraft :=
  if word.all Decimal.isDigit then
    some { draft with numbers := draft.numbers ++ [Int.ofNat (Decimal.digitsValue word)] }
  else
    match takeClock? (' ' :: word) with
    | some (hour, minute, second, _, []) => some { draft with clock := some (hour, minute, second) }
    | _ =>
        match monthOfWord? word with
        | some month => some { draft with month := some month }
        | none =>
            let name := String.ofList (word.take 3)
            if name = "GMT" || name = "UTC" then
              (takeZone? (word.drop 3)).map fun zone => { draft with zone := zone }
            else if dayNames.contains name || word.head? = some '(' then some draft
            else none

/-- The point in time that a text of words is. -/
def wordedTime? (text : List Char) : Option Float := do
  let draft ← (dateWords text).foldlM DateDraft.addWord? ⟨[], none, none, 0⟩
  let month ← draft.month
  let (hour, minute, second) := draft.clock.getD (0, 0, 0)
  match draft.numbers with
  | [day, year] =>
      let parts : DateParts := ⟨year, month, day, hour, minute, second, 0⟩
      some (clipTime (Float.ofInt (parts.time - draft.zone * 60000)))
  | _ => none

def parseTime (text : Units) : Float :=
  let chars := characters text
  ((exactTime? chars).or (wordedTime? chars)).getD notNumber

/-- The point in time that a function of dates is called on. -/
def thisTime (given : Given) : Machine (Reference × Float) := do
  match given.receiver with
  | .object place =>
      match ← kindAt place with
      | .date time => return (place, time)
      | _ => typeFaultText "not a Date object"
  | _ => typeFaultText "not a Date object"

def shelvedDateText (name : String) (style : DateStyle) (hasDay hasClock : Bool) : Article :=
  shelved name 0 fun _ given => do
    let (_, time) ← thisTime given
    if time.isNaN then
      match style with
      | .exact => rangeFault "Date value is NaN"
      | _ => return .ofString "Invalid Date"
    else return .ofString (style.text hasDay hasClock (exactPart time))

/-- A part of a date, under its plain name and under the one for the universal time. -/
def shelvedPart (names : List String) (part : Int → DateParts → Int) : Shelf :=
  names.map fun name => shelved name 0 fun _ given => do
    let (_, time) ← thisTime given
    if time.isNaN then return .float notNumber
    else
      let time := exactPart time
      return .ofInt (part time (DateParts.ofTime time))

def shelvedPartOf (name : String) (part : Int → DateParts → Int) : Shelf :=
  shelvedPart ["get" ++ name, "getUTC" ++ name] part

def changeTime (place : Reference) (time : Float) : Machine Value := do
  changeKind place (.date time)
  return .ofFloat time

/-- The parts of a date from one on are replaced. -/
def setParts (first last : Nat) : NativeAction := fun call given => do
  let (place, time) ← thisTime given
  let numbers ← (given.arguments.take (last - first)).mapM (toNumber call)
  let base := if time.isNaN && first = 0 then 0.0 else time
  if base.isNaN || numbers.isEmpty then changeTime place notNumber
  else
    let fields := (DateParts.ofTime (exactPart base)).toList.map Float.ofInt
    changeTime place (timeOfParts
      (fields.take first ++ numbers ++ fields.drop (first + numbers.length)))

def shelvedSetter (name : String) (arity first last : Nat) : Shelf :=
  ["set" ++ name, "setUTC" ++ name].map fun name => shelved name arity (setParts first last)

/-- A date becomes a text, unless a number is wanted. -/
def datePrimitive : NativeAction := fun call given => do
  let _ ← requireObject given.receiver
  match given.first with
  | .text hint =>
      let name := shownText hint
      if name = "number" then askMethods call given.receiver Hint.number.methods
      else if name = "string" || name = "default" then
        askMethods call given.receiver Hint.text.methods
      else typeFaultText "invalid hint"
  | _ => typeFaultText "invalid hint"

def dateJson : NativeAction := fun call given => do
  let holder := Value.object (← toObject given.receiver)
  let isMissing :=
    match (← toPrimitive call .number holder).number? with
    | some time => !time.isFinite
    | none => false
  if isMissing then return .null
  else
    let method ← getNamed call holder "toISOString"
    if ← lookUp fun memory => memory.isFunction method then call (.on holder) method []
    else typeFaultText "object needs toISOString method"

def setYear : NativeAction := fun call given => do
  let number ← toNumber call given.first
  setParts 0 1 call { given with arguments := [.float (fullYear number)] }

def dateTextShelf : Shelf := [
  shelved "valueOf" 0 fun _ given => return .ofFloat (← thisTime given).2,
  shelvedDateText "toString" .plain true true,
  shelvedSymbol primitiveSymbol 1 datePrimitive,
  shelvedDateText "toUTCString" .universal true true,
  shelvedAgain "toGMTString" "toUTCString",
  shelvedDateText "toISOString" .exact true true,
  shelvedDateText "toDateString" .plain true false,
  shelvedDateText "toTimeString" .plain false true,
  shelvedDateText "toLocaleString" .short true true,
  shelvedDateText "toLocaleDateString" .short true false,
  shelvedDateText "toLocaleTimeString" .short false true,
  shelved "getTimezoneOffset" 0 fun _ given => do
    let (_, time) ← thisTime given
    return if time.isNaN then .float notNumber else .integer 0,
  shelved "getTime" 0 fun _ given => return .ofFloat (← thisTime given).2]

def datePartShelf : Shelf :=
  shelvedPart ["getYear"] (fun _ parts => parts.year - 1900) ++
  shelvedPartOf "FullYear" (fun _ parts => parts.year) ++
  shelvedPartOf "Month" (fun _ parts => parts.month) ++
  shelvedPartOf "Date" (fun _ parts => parts.day) ++
  shelvedPartOf "Hours" (fun _ parts => parts.hour) ++
  shelvedPartOf "Minutes" (fun _ parts => parts.minute) ++
  shelvedPartOf "Seconds" (fun _ parts => parts.second) ++
  shelvedPartOf "Milliseconds" (fun _ parts => parts.millisecond) ++
  shelvedPartOf "Day" (fun time _ => weekday time)

def dateShelf : Shelf := dateTextShelf ++ datePartShelf ++ [
  shelved "setTime" 1 fun call given => do
    let (place, _) ← thisTime given
    changeTime place (clipTime (← toNumber call given.first))] ++
  shelvedSetter "Milliseconds" 1 6 7 ++
  shelvedSetter "Seconds" 2 5 7 ++
  shelvedSetter "Minutes" 3 4 7 ++
  shelvedSetter "Hours" 4 3 7 ++
  shelvedSetter "Date" 1 2 3 ++
  shelvedSetter "Month" 2 1 3 ++
  [shelved "setYear" 1 setYear] ++
  shelvedSetter "FullYear" 3 0 3 ++
  [shelved "toJSON" 1 dateJson]

def dateClassShelf : Shelf := [
  shelved "now" 0 fun _ _ => return .ofFloat presentTime,
  shelved "parse" 1 fun call given => return .ofFloat (parseTime (← toText call given.first)),
  shelved "UTC" 7 fun call given => return .ofFloat (← timeOfArguments call given.arguments)]

/-- The point in time that one argument gives. -/
def timeOfValue (call : Caller) (value : Value) : Machine Float := do
  let known ←
    match value with
    | .object place => do
        match ← kindAt place with
        | .date time => pure (some time)
        | _ => pure none
    | _ => pure none
  match known with
  | some time => return time
  | none =>
      match ← toPrimitive call .either value with
      | .text units => return parseTime units
      | other => return clipTime (← toNumber call other)

def makeDate : NativeAction := fun call given => do
  if !given.isFresh then return .ofString (DateStyle.plain.text true true (exactPart presentTime))
  else
    let time ←
      match given.arguments with
      | [] => pure presentTime
      | [value] => timeOfValue call value
      | arguments => timeOfArguments call arguments
    makeObject (.bare (.date time) (some (← given.prototype call (prototypePlace "Date"))))

end HostBridge.Script
