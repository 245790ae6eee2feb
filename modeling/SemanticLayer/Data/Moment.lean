import SemanticLayer.Number.Digits

/-!
# Dates and times

A date, or a date with a time of day and perhaps its distance from universal time.
-/

namespace SemanticLayer

/-- A time of day. -/
structure TimeOfDay where
  hour : Nat
  minute : Nat
  second : Nat
  microsecond : Nat := 0
  /-- Minutes ahead of universal time, if known. -/
  offset : Option Int := none
  deriving DecidableEq, Repr

/-- A date, perhaps with a time of day. -/
structure Moment where
  year : Nat
  month : Nat
  day : Nat
  time : Option TimeOfDay := none
  deriving DecidableEq, Repr

namespace Moment

/-- A number with zeros in front up to a width. -/
def padded (width n : Nat) : String :=
  let digits := toString n
  String.ofList (List.replicate (width - digits.length) '0') ++ digits

/-- Whether a year has 366 days. -/
def isLeap (year : Nat) : Bool := year % 4 == 0 && (year % 100 != 0 || year % 400 == 0)

/-- The number of days of a month. -/
def daysIn (year month : Nat) : Nat :=
  if month == 2 then if isLeap year then 29 else 28
  else if [4, 6, 9, 11].contains month then 30 else 31

/-- Whether the date and the time exist. -/
def isValid (m : Moment) : Bool :=
  1 ≤ m.year && 1 ≤ m.month && m.month ≤ 12 && 1 ≤ m.day && m.day ≤ daysIn m.year m.month &&
    m.time.all fun t => t.hour < 24 && t.minute < 60 && t.second < 60

/-- The text of a distance from universal time. -/
def offsetText (minutes : Int) : String :=
  (if minutes < 0 then "-" else "+") ++ padded 2 (minutes.natAbs / 60) ++ ":" ++
    padded 2 (minutes.natAbs % 60)

def timeText (t : TimeOfDay) : String :=
  padded 2 t.hour ++ ":" ++ padded 2 t.minute ++ ":" ++ padded 2 t.second ++
    (if t.microsecond == 0 then "" else "." ++ padded 6 t.microsecond) ++
    (t.offset.map offsetText).getD ""

def toText (m : Moment) : String :=
  padded 4 m.year ++ "-" ++ padded 2 m.month ++ "-" ++ padded 2 m.day ++
    ((m.time.map fun t => " " ++ timeText t).getD "")

/-- The text of a moment inside the text of a collection. -/
def literal (m : Moment) : String :=
  let date := [m.year, m.month, m.day]
  let shown (ns : List Nat) : String := ", ".intercalate (ns.map toString)
  match m.time with
  | none => "datetime.date(" ++ shown date ++ ")"
  | some t =>
    let seconds := if t.second == 0 && t.microsecond == 0 then [] else [t.second]
    let micros := if t.microsecond == 0 then [] else [t.microsecond]
    let zone := match t.offset with
      | none => ""
      | some 0 => ", tzinfo=datetime.timezone.utc"
      | some o =>
        let days := if o < 0 then "days=-1, " else ""
        let secs : Int := if o < 0 then 86400 + 60 * o else 60 * o
        ", tzinfo=datetime.timezone(datetime.timedelta(" ++ days ++ "seconds=" ++
          Number.showInt secs ++ "))"
    "datetime.datetime(" ++ shown (date ++ [t.hour, t.minute] ++ seconds ++ micros) ++ zone ++ ")"

end Moment

end SemanticLayer
