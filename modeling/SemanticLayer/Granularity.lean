import SemanticLayer.Text.LetterCase

/-!
# Granularities

The periods to which time can be cut.
-/

namespace SemanticLayer

/-- A period of the calendar or the clock. -/
inductive Granularity where
  | second
  | minute
  | hour
  | day
  | week
  | month
  | quarter
  | year
  deriving DecidableEq, Repr

namespace Granularity

/-- All granularities, from the finest. -/
def all : List Granularity := [second, minute, hour, day, week, month, quarter, year]

def name : Granularity → String
  | second => "second"
  | minute => "minute"
  | hour => "hour"
  | day => "day"
  | week => "week"
  | month => "month"
  | quarter => "quarter"
  | year => "year"

/-- The granularity of a name, in any letter case. -/
def ofName? (s : String) : Option Granularity := all.find? fun g => g.name == Text.lower s

end Granularity

end SemanticLayer
