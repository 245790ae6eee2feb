import SemanticLayer.Sql.Tree
import SemanticLayer.Text.LetterCase

/-!
# Units of time

Days, months and the like, as they stand in calls and intervals.
-/

namespace SemanticLayer.Sql

/-- Short names of units of time. -/
def shortUnits : List (String × String) :=
  [("D", "DAY"), ("H", "HOUR"), ("M", "MINUTE"), ("MS", "MILLISECOND"), ("NS", "NANOSECOND"),
    ("Q", "QUARTER"), ("S", "SECOND"), ("US", "MICROSECOND"), ("W", "WEEK"), ("Y", "YEAR")]

/-- The name of a unit given as a literal or as a plain column, if it is one. -/
def unitName? : Node → Option String
  | .mk (.string s) _ _ => some s
  | .mk (.number s) _ _ => some s
  | .mk (.keyword s) _ _ => some s
  | .mk (.column [id]) _ _ => some id.name
  | _ => none

/-- The unit of a date truncation, as a string in upper case. -/
def truncUnit (expand : Bool) (unit : Node) : Node :=
  match unitName? unit with
  | some s =>
    let u := Text.upper s
    .of (.string (if expand then (shortUnits.lookup u).getD u else u)) []
  | none => unit

/-- A unit in upper case; a short name counts only in upper case. -/
def fullUnit (s : String) : String := Text.upper ((shortUnits.lookup s).getD s)

/-- The unit of a timestamp truncation, as a string. -/
def timestampUnit (unit : Node) : Node :=
  match unitName? unit with
  | some s => .of (.string (fullUnit s)) []
  | none => unit

def unitWord (unit : Node) : Node :=
  match unitName? unit with
  | some s => .of (.keyword (fullUnit s)) []
  | none => unit

/-- Names of the parts of a date and the usual name of each part. -/
def dateParts : List (String × String) :=
  [("Y", "YEAR"), ("YY", "YEAR"), ("YYY", "YEAR"), ("YYYY", "YEAR"), ("YR", "YEAR"),
    ("YEARS", "YEAR"), ("YRS", "YEAR"), ("MM", "MONTH"), ("MON", "MONTH"), ("MONS", "MONTH"),
    ("MONTHS", "MONTH"), ("D", "DAY"), ("DD", "DAY"), ("DAYS", "DAY"), ("DAYOFMONTH", "DAY"),
    ("DAY OF WEEK", "DAYOFWEEK"), ("DOW", "DAYOFWEEK"), ("DW", "DAYOFWEEK"),
    ("WEEKDAY_ISO", "ISODOW"), ("DOW_ISO", "ISODOW"), ("DW_ISO", "ISODOW"),
    ("DAYOFWEEK_ISO", "ISODOW"), ("DAYOFWEEKISO", "ISODOW"), ("DAY OF YEAR", "DAYOFYEAR"),
    ("DOY", "DAYOFYEAR"), ("DY", "DAYOFYEAR"), ("W", "WEEK"), ("WK", "WEEK"),
    ("WEEKOFYEAR", "WEEK"), ("WOY", "WEEK"), ("WY", "WEEK"), ("WEEK_ISO", "WEEKISO"),
    ("WEEKOFYEARISO", "WEEKISO"), ("WEEKOFYEAR_ISO", "WEEKISO"), ("Q", "QUARTER"),
    ("QTR", "QUARTER"), ("QTRS", "QUARTER"), ("QUARTERS", "QUARTER"), ("H", "HOUR"),
    ("HH", "HOUR"), ("HR", "HOUR"), ("HOURS", "HOUR"), ("HRS", "HOUR"), ("M", "MINUTE"),
    ("MI", "MINUTE"), ("MIN", "MINUTE"), ("MINUTES", "MINUTE"), ("MINS", "MINUTE"),
    ("S", "SECOND"), ("SEC", "SECOND"), ("SECONDS", "SECOND"), ("SECS", "SECOND"),
    ("MS", "MILLISECOND"), ("MSEC", "MILLISECOND"), ("MSECS", "MILLISECOND"),
    ("MSECOND", "MILLISECOND"), ("MSECONDS", "MILLISECOND"), ("MILLISEC", "MILLISECOND"),
    ("MILLISECS", "MILLISECOND"), ("MILLISECON", "MILLISECOND"), ("MILLISECONDS", "MILLISECOND"),
    ("US", "MICROSECOND"), ("USEC", "MICROSECOND"), ("USECS", "MICROSECOND"),
    ("MICROSEC", "MICROSECOND"), ("MICROSECS", "MICROSECOND"), ("USECOND", "MICROSECOND"),
    ("USECONDS", "MICROSECOND"), ("MICROSECONDS", "MICROSECOND"), ("NS", "NANOSECOND"),
    ("NSEC", "NANOSECOND"), ("NANOSEC", "NANOSECOND"), ("NSECOND", "NANOSECOND"),
    ("NSECONDS", "NANOSECOND"), ("NANOSECS", "NANOSECOND"), ("EPOCH_SECOND", "EPOCH"),
    ("EPOCH_SECONDS", "EPOCH"), ("EPOCH_MILLISECONDS", "EPOCH_MILLISECOND"),
    ("EPOCH_MICROSECONDS", "EPOCH_MICROSECOND"), ("EPOCH_NANOSECONDS", "EPOCH_NANOSECOND"),
    ("TZH", "TIMEZONE_HOUR"), ("TZM", "TIMEZONE_MINUTE"), ("DEC", "DECADE"), ("DECS", "DECADE"),
    ("DECADES", "DECADE"), ("MIL", "MILLENNIUM"), ("MILS", "MILLENNIUM"),
    ("MILLENIA", "MILLENNIUM"), ("C", "CENTURY"), ("CENT", "CENTURY"), ("CENTS", "CENTURY"),
    ("CENTURIES", "CENTURY")]

/-- A part of a date under its usual name. -/
def usualPart (part : Node) : Node :=
  match part.head with
  | .keyword s => match dateParts.lookup (Text.upper s) with
    | some u => .of (.keyword u) []
    | none => part
  | .string s => match dateParts.lookup (Text.upper s) with
    | some u => .of (.string u) []
    | none => part
  | _ => part

end SemanticLayer.Sql
