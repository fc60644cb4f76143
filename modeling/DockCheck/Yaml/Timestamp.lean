import DockCheck.Yaml.Token

/-!
# Dates

A `Timestamp` is a date, perhaps with a time of day and the offset of a time zone.
`Timestamp.ofText?` reads one, and `Timestamp.check` says whether the calendar knows it.
-/

namespace DockCheck.Yaml

/-- A time of day with the offset of its zone in seconds. -/
structure TimeOfDay where
  hour : Nat
  minute : Nat
  second : Nat
  offset : Int
  deriving DecidableEq, Repr

/-- A date, perhaps with a time of day. -/
structure Timestamp where
  year : Nat
  month : Nat
  day : Nat
  time : Option TimeOfDay
  deriving DecidableEq, Repr

namespace Timestamp

/-- The number that digits give. -/
def number (digits : Text) : Nat := Text.ofBaseDigits 10 (digits.filterMap Text.baseDigit?)

/-- From `least` to `most` digits at the start of a text, as many as there are, and the text after
them. -/
def digits? (least most : Nat) (t : Text) : Option (Nat × Text) :=
  let found := (t.take most).takeWhile Text.isAsciiDigit
  if least ≤ found.length then some (number found, t.drop found.length) else none

/-- The text after a character that comes first. -/
def after? (c : Char) : Text → Option Text
  | [] => none
  | d :: rest => if d = c then some rest else none

/-- The text after what separates a date from a time: a letter or white space. -/
def afterDate? (t : Text) : Option Text :=
  match t with
  | [] => none
  | c :: rest =>
    if c = 'T' || c = 't' then some rest
    else if isSpace c then some (rest.dropWhile isSpace)
    else none

/-- The offset of a time zone, in seconds, that a text gives as a whole. -/
def offset? (t : Text) : Option Int :=
  match t with
  | [] => some 0
  | _ =>
    match t.dropWhile isSpace with
    | ['Z'] => some 0
    | sign :: rest => do
      let (hours, rest) ← digits? 1 2 rest
      let minutes ← match rest with
        | [] => some 0
        | ':' :: rest =>
          match digits? 2 2 rest with
          | some (minutes, []) => some minutes
          | _ => none
        | _ => none
      let seconds : Int := (hours * 60 + minutes) * 60
      if sign = '+' then some seconds else if sign = '-' then some (-seconds) else none
    | [] => none

/-- A time of day that a text gives as a whole. -/
def time? (t : Text) : Option TimeOfDay := do
  let (hour, t) ← digits? 1 2 t
  let (minute, t) ← digits? 2 2 (← after? ':' t)
  let (second, t) ← digits? 2 2 (← after? ':' t)
  let rest := match t with
    | '.' :: rest => rest.dropWhile Text.isAsciiDigit
    | _ => t
  return ⟨hour, minute, second, ← offset? rest⟩

/-- The timestamp that a text gives.  A line feed at its end does not count. -/
def ofText? (content : Text) : Option Timestamp := do
  let t := if content.getLast? == some '\n' then content.dropLast else content
  let (year, t) ← digits? 4 4 t
  let (month, t) ← digits? 1 2 (← after? '-' t)
  let (day, t) ← digits? 1 2 (← after? '-' t)
  match t with
  | [] => return ⟨year, month, day, none⟩
  | _ => return ⟨year, month, day, some (← time? (← afterDate? t))⟩

/-- Does a text without a tag look like a timestamp?  A date alone has two digits for the month and
for the day. -/
def looksLike (t : Text) : Bool :=
  match ofText? t with
  | none => false
  | some stamp => stamp.time.isSome || t.length = 10

/-- The number of days in a month. -/
def daysIn (year month : Nat) : Nat :=
  if month = 2 then
    if year % 4 = 0 && (year % 100 != 0 || year % 400 = 0) then 29 else 28
  else if month = 4 || month = 6 || month = 9 || month = 11 then 30
  else 31

/-- What is wrong with a date. -/
def dateProblem? (stamp : Timestamp) : Option DateProblem :=
  if stamp.year = 0 then some .year
  else if stamp.month = 0 || 12 < stamp.month then some .month
  else if stamp.day = 0 || daysIn stamp.year stamp.month < stamp.day then some .day
  else none

/-- What is wrong with a time of day, the offset apart. -/
def timeProblem? (time : TimeOfDay) : Option DateProblem :=
  if 23 < time.hour then some .hour
  else if 59 < time.minute then some .minute
  else if 59 < time.second then some .second
  else none

/-- What is wrong with a timestamp.  The offset is looked at first. -/
def problem? (stamp : Timestamp) : Option DateProblem :=
  match stamp.time with
  | none => stamp.dateProblem?
  | some time =>
    if 86400 ≤ time.offset.natAbs then some (.offset time.offset)
    else stamp.dateProblem?.or (timeProblem? time)

end Timestamp

end DockCheck.Yaml
