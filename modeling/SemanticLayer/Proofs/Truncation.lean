import Mathlib.Data.Rat.Floor
import Mathlib.Tactic.FieldSimp
import Mathlib.Tactic.NormNum
import SemanticLayer.Dialect.Backends
import SemanticLayer.Proofs.Calendar

/-!
# Truncated times

What a dialect writes for a time that is cut to a granularity is an expression over one operand
(`TimeTerm`). An expression has a text, and a value for each time that the operand can have; the
value follows the documentation of the databases. `Groups` says by what the values are grouped.

* In DuckDB and PostgreSQL, and in Oracle down to the minute, the value is the time at which the
  period begins. Oracle's seconds are added to the minute as a part of a day.
* In MySQL it is a text. A format writes its fields with separators between them, so the text is
  the same only if all of the fields are (`shown_eq_iff`).

Weeks are the exception. MySQL goes back to Monday and keeps the time of day, so that times are
grouped by week and time of day; Oracle counts weeks from the first day of the year. Everywhere else
the groups are the periods (`cut_groups_by_period_iff`).
-/

namespace SemanticLayer.Calendar

/-! ## Formats -/

/-- A part of a time that a format can show. -/
inductive Field where
  | year
  | month
  | day
  | hour
  | minute
  | second
  deriving DecidableEq

namespace Field

def get : Field → Timestamp → Nat
  | year, t => t.date.year
  | month, t => t.date.month
  | day, t => t.date.day
  | hour, t => t.hour
  | minute, t => t.minute
  | second, t => t.second

/-- The digits that a field has at least. -/
def width : Field → Nat
  | year => 4
  | _ => 2

/-- The field that a letter after a percent sign stands for. -/
def ofSpecifier? : Char → Option Field
  | 'Y' => some year
  | 'm' => some month
  | 'd' => some day
  | 'H' => some hour
  | 'i' => some minute
  | 's' => some second
  | _ => none

end Field

/-- A part of a format. -/
inductive FormatItem where
  | field (f : Field)
  | plain (c : Char)
  deriving DecidableEq

/-- What a part of a format shows. -/
def FormatItem.shown (t : Timestamp) : FormatItem → List Char
  | field f => (Moment.padded f.width (f.get t)).toList
  | plain c => [c]

/-- The parts of a format, if it has no specifiers but those of `Field`. -/
def formatItems? : List Char → Option (List FormatItem)
  | [] => some []
  | '%' :: c :: cs =>
    (Field.ofSpecifier? c).bind fun f => (formatItems? cs).map (FormatItem.field f :: ·)
  | c :: cs => (formatItems? cs).map (FormatItem.plain c :: ·)

/-- Whether something that is no digit stands after each field but the last. -/
def separated : List FormatItem → Bool
  | [] => true
  | [_] => true
  | .field _ :: .plain c :: is => !c.isDigit && separated is
  | .field _ :: .field _ :: _ => false
  | .plain _ :: is => separated is

theorem isDigit_of_mem_padded {c : Char} {width n : Nat}
    (h : c ∈ (Moment.padded width n).toList) : c.isDigit = true := by
  have hcut : c ∈ List.replicate (width - (toString n).length) '0' ∨ c ∈ Nat.toDigits 10 n := by
    simpa [Moment.padded, Nat.toString_eq_repr, Nat.toList_repr] using h
  rcases hcut with hzero | hdigit
  · rw [List.eq_of_mem_replicate hzero]
    decide
  · exact Nat.isDigit_of_mem_toDigits (by decide) (by decide) hdigit

/-- Zeros in front do not change a number. -/
theorem ofDigitChars_padded (width n : Nat) :
    Nat.ofDigitChars 10 (Moment.padded width n).toList 0 = n := by
  simp [Moment.padded, Nat.toString_eq_repr, Nat.toList_repr, Nat.ofDigitChars_append,
    Nat.ofDigitChars_replicate_zero]

theorem padded_inj {width n m : Nat} :
    (Moment.padded width n).toList = (Moment.padded width m).toList ↔ n = m := by
  constructor
  · intro h
    rw [← ofDigitChars_padded width n, h, ofDigitChars_padded]
  · rintro rfl
    rfl

/-- Digits up to something that is no digit. -/
theorem digits_append_inj {as bs as' bs' : List Char} {c : Char} (hc : c.isDigit = false)
    (has : ∀ a ∈ as, a.isDigit = true) (hbs : ∀ b ∈ bs, b.isDigit = true) :
    as ++ c :: as' = bs ++ c :: bs' ↔ as = bs ∧ as' = bs' := by
  have hcut {ds ds' : List Char} (hds : ∀ d ∈ ds, d.isDigit = true) :
      (ds ++ c :: ds').takeWhile Char.isDigit = ds := by
    rw [List.takeWhile_append_of_pos hds, List.takeWhile_cons_of_neg (by simp [hc]),
      List.append_nil]
  constructor
  · intro h
    have hruns := congrArg (List.takeWhile Char.isDigit) h
    rw [hcut has, hcut hbs] at hruns
    subst hruns
    exact ⟨rfl, List.tail_eq_of_cons_eq (List.append_cancel_left h)⟩
  · rintro ⟨rfl, rfl⟩
    rfl

/-- A format with separators shows two times in the same way exactly if all of its fields are the
same. -/
theorem shown_eq_iff {t u : Timestamp} {is : List FormatItem} (h : separated is = true) :
    is.flatMap (FormatItem.shown t) = is.flatMap (FormatItem.shown u) ↔
      ∀ f, .field f ∈ is → f.get t = f.get u := by
  fun_induction separated is with
  | case1 => simp
  | case2 i =>
    cases i with
    | field f => simp [FormatItem.shown, padded_inj]
    | plain c => simp [FormatItem.shown]
  | case3 f c is ih =>
    obtain ⟨hc, hrest⟩ : c.isDigit = false ∧ separated is = true := by simpa using h
    have hdigits (n : Nat) : ∀ c ∈ (Moment.padded f.width n).toList, c.isDigit = true :=
      fun _ => isDigit_of_mem_padded
    -- The digits of the first field end where the separator stands.
    simp [FormatItem.shown, digits_append_inj hc (hdigits _) (hdigits _), padded_inj, ih hrest]
  | case4 => cases h
  | case5 c is _ ih => simp [FormatItem.shown, ih h]

/-! ## Expressions -/

/-- A value of an expression over a time. -/
inductive TimeValue where
  | text (s : String)
  | number (q : ℚ)
  /-- A point on the line of microseconds. -/
  | time (x : Int)
  deriving DecidableEq

namespace TimeValue

/-- A value as a part of a text. -/
def shown? : TimeValue → Option String
  | text s => some s
  | number q => if q.den = 1 then some (Number.showInt q.num) else none
  | time _ => none

/-- Two texts after each other. -/
def concat? (a b : TimeValue) : Option TimeValue :=
  a.shown?.bind fun s => b.shown?.map fun s' => text (s ++ s')

/-- A sum. To a time, days are added. -/
def sum? : TimeValue → TimeValue → Option TimeValue
  | time x, number q => some (time (x + ⌊q * dayLength⌋))
  | number p, number q => some (number (p + q))
  | _, _ => none

/-- A quotient of numbers. -/
def quotient? : TimeValue → TimeValue → Option TimeValue
  | number p, number q => if q = 0 then none else some (number (p / q))
  | _, _ => none

/-- A number without its fraction. -/
def whole? : TimeValue → Option TimeValue
  | number q => some (number (if 0 ≤ q then ⌊q⌋ else ⌈q⌉))
  | _ => none

/-- A time some whole days earlier. -/
def daysBefore? (x : Int) : TimeValue → Option TimeValue
  | number q => if q.den = 1 then some (time (x - dayLength * q.num)) else none
  | _ => none

end TimeValue

/-- An expression over one operand, a time. -/
inductive TimeTerm where
  | literal (s : String)
  | number (n : Nat)
  /-- The operand cut to a unit by `DATE_TRUNC`. -/
  | dateTrunc (unit : String)
  /-- The operand cut to a unit by `TRUNC`. -/
  | trunc (unit : String)
  | dateFormat (format : String)
  | yearOf
  | quarterOf
  | weekdayOf
  /-- The seconds of the operand with their fraction. -/
  | secondOf
  | whole (a : TimeTerm)
  | concat (a b : TimeTerm)
  | sum (a b : TimeTerm)
  | quotient (a b : TimeTerm)
  /-- The operand some days earlier. -/
  | daysBefore (days : TimeTerm)
  /-- The first of the arms whose number the subject is. -/
  | choose (subject : TimeTerm) (arms : List (Nat × TimeTerm))

/-- The beginning of the unit of `TRUNC` in which a time lies. The weeks of a year are counted from
its first day. -/
def Timestamp.truncStart? (t : Timestamp) : String → Option Int
  | "YEAR" => some (t.start .year)
  | "Q" => some (t.start .quarter)
  | "MONTH" => some (t.start .month)
  | "WW" => some (midnight (t.date.number - t.date.dayOfYear % 7))
  | "DD" => some (t.start .day)
  | "HH24" => some (t.start .hour)
  | "MI" => some (t.start .minute)
  | _ => none

namespace TimeTerm

mutual

/-- The text of an expression over the operand with a text. -/
def textOver (operand : String) : TimeTerm → String
  | literal s => "'" ++ s ++ "'"
  | number n => toString n
  | dateTrunc unit => "DATE_TRUNC('" ++ unit ++ "', " ++ operand ++ ")"
  | trunc unit => "TRUNC(" ++ operand ++ ", '" ++ unit ++ "')"
  | dateFormat format => "DATE_FORMAT(" ++ operand ++ ", '" ++ format ++ "')"
  | yearOf => "YEAR(" ++ operand ++ ")"
  | quarterOf => "QUARTER(" ++ operand ++ ")"
  | weekdayOf => "WEEKDAY(" ++ operand ++ ")"
  | secondOf => "EXTRACT(SECOND FROM " ++ operand ++ ")"
  | whole a => "TRUNC(" ++ a.textOver operand ++ ")"
  | concat a b => "CONCAT(" ++ a.textOver operand ++ ", " ++ b.textOver operand ++ ")"
  | sum a b => a.textOver operand ++ " + " ++ b.textOver operand
  | quotient a b => a.textOver operand ++ " / " ++ b.textOver operand
  | daysBefore days => "DATE_SUB(" ++ operand ++ ", INTERVAL " ++ days.textOver operand ++ " DAY)"
  | choose subject arms =>
    "CASE " ++ subject.textOver operand ++ " " ++ armsOver operand arms ++ "END"

/-- The text of the arms of a choice. -/
def armsOver (operand : String) : List (Nat × TimeTerm) → String
  | [] => ""
  | (n, a) :: arms =>
    "WHEN " ++ toString n ++ " THEN " ++ a.textOver operand ++ " " ++ armsOver operand arms

end

mutual

/-- The value of an expression for a time. -/
def value? (t : Timestamp) : TimeTerm → Option TimeValue
  | literal s => some (.text s)
  | number n => some (.number n)
  | dateTrunc unit => (Granularity.ofName? unit).map fun g => .time (t.start g)
  | trunc unit => (t.truncStart? unit).map .time
  | dateFormat format =>
    (formatItems? format.toList).map fun is => .text (.ofList (is.flatMap (FormatItem.shown t)))
  | yearOf => some (.number t.date.year)
  | quarterOf => some (.number t.date.quarter)
  | weekdayOf => some (.number t.date.weekday)
  | secondOf => some (.number (t.second + t.microsecond / 1000000))
  | whole a => (a.value? t).bind TimeValue.whole?
  | concat a b => (a.value? t).bind fun v => (b.value? t).bind v.concat?
  | sum a b => (a.value? t).bind fun v => (b.value? t).bind v.sum?
  | quotient a b => (a.value? t).bind fun v => (b.value? t).bind v.quotient?
  | daysBefore days => (days.value? t).bind (TimeValue.daysBefore? t.point)
  | choose subject arms => (subject.value? t).bind fun v => chosen? t v arms

/-- The value of the first arm with a number. -/
def chosen? (t : Timestamp) (v : TimeValue) : List (Nat × TimeTerm) → Option TimeValue
  | [] => none
  | (n, a) :: arms => if v = .number n then a.value? t else chosen? t v arms

end

/-- By what the values of an expression are grouped: for every two times there are values, and they
are the same exactly if the times have the same key. -/
def Groups (term : TimeTerm) (key : Timestamp → List Nat) : Prop :=
  ∀ t u, ∃ a b, term.value? t = some a ∧ term.value? u = some b ∧ (a = b ↔ key t = key u)

variable {term : TimeTerm} {key key' : Timestamp → List Nat}

/-- Values that are times. -/
theorem groups_of_time {f : Timestamp → Int} (hvalue : ∀ t, term.value? t = some (.time (f t)))
    (h : ∀ t u, f t = f u ↔ key t = key u) : term.Groups key := by
  intro t u
  refine ⟨_, _, hvalue t, hvalue u, ?_⟩
  rw [TimeValue.time.injEq, h]

/-- Values that are texts. -/
theorem groups_of_text {f : Timestamp → List Char}
    (hvalue : ∀ t, term.value? t = some (.text (.ofList (f t))))
    (h : ∀ t u, f t = f u ↔ key t = key u) : term.Groups key := by
  intro t u
  refine ⟨_, _, hvalue t, hvalue u, ?_⟩
  rw [TimeValue.text.injEq, String.ofList_inj, h]

/-- Values are grouped in one way. -/
theorem Groups.key_eq_iff (h : term.Groups key) (h' : term.Groups key') (t u : Timestamp) :
    key t = key u ↔ key' t = key' u := by
  obtain ⟨a, b, ha, hb, hiff⟩ := h t u
  obtain ⟨a', b', ha', hb', hiff'⟩ := h' t u
  obtain rfl : a = a' := Option.some.inj (ha.symm.trans ha')
  obtain rfl : b = b' := Option.some.inj (hb.symm.trans hb')
  exact hiff.symm.trans hiff'

/-- Times with different keys have different values. -/
theorem Groups.value?_ne (h : term.Groups key) {t u : Timestamp} (hne : key t ≠ key u) :
    term.value? t ≠ term.value? u := by
  obtain ⟨a, b, ha, hb, hiff⟩ := h t u
  rw [ha, hb]
  exact fun heq => hne (hiff.1 (Option.some.inj heq))

/-! ## Units -/

theorem ofName?_name (g : Granularity) : Granularity.ofName? g.name = some g := by
  cases g <;> decide

theorem groups_dateTrunc (g : Granularity) : (dateTrunc g.name).Groups (period g) := by
  refine groups_of_time (f := (·.start g)) (fun t => ?_) fun t u => Timestamp.start_eq_iff g
  rw [value?, ofName?_name, Option.map_some]

/-- What `TRUNC` gives for a unit that is a granularity. -/
theorem groups_trunc {unit : String} {g : Granularity}
    (h : ∀ t : Timestamp, t.truncStart? unit = some (t.start g)) :
    (trunc unit).Groups (period g) := by
  refine groups_of_time (f := (·.start g)) (fun t => ?_) fun t u => Timestamp.start_eq_iff g
  rw [value?, h, Option.map_some]

/-- The weeks of `TRUNC` begin on the weekday on which the year began. -/
theorem groups_trunc_week :
    (trunc "WW").Groups fun t => [t.date.year, t.date.dayOfYear / 7] := by
  refine groups_of_time (f := fun t => midnight (t.date.number - t.date.dayOfYear % 7))
    (fun t => rfl) fun t u => ?_
  have ht := t.date.number_eq
  have hu := u.date.number_eq
  simp only [midnight_inj, List.cons.injEq, and_true]
  constructor
  · intro h
    -- The week begins within the year of both times.
    have hyear : t.date.year = u.date.year := by
      refine Date.year_eq_of_number (n := t.date.number - t.date.dayOfYear % 7) ?_ ?_ ?_ ?_ <;>
        omega
    rw [hyear] at ht
    omega
  · rintro ⟨hyear, hweek⟩
    rw [hyear] at ht
    omega

/-- The seconds without their fraction. -/
theorem value?_whole_secondOf (t : Timestamp) :
    (whole secondOf).value? t = some (.number t.second) := by
  have hfraction : ⌊(t.microsecond : ℚ) / 1000000⌋ = 0 := by
    rw [Int.floor_eq_zero_iff, Set.mem_Ico]
    have hlt : (t.microsecond : ℚ) < 1000000 := by exact_mod_cast t.microsecond_lt
    exact ⟨by positivity, (div_lt_one (by norm_num)).2 hlt⟩
  have hfloor : ⌊(t.second : ℚ) + t.microsecond / 1000000⌋ = t.second := by
    rw [Int.floor_natCast_add, hfraction, add_zero]
  have hpos : (0 : ℚ) ≤ t.second + t.microsecond / 1000000 := by positivity
  rw [value?, value?, Option.bind_some, TimeValue.whole?, if_pos hpos, hfloor, Int.cast_natCast]

/-- Seconds as a part of a day. -/
theorem floor_second_mul_dayLength (s : Nat) :
    ⌊(s : ℚ) / 86400 * dayLength⌋ = 1000000 * (s : Int) := by
  have hproduct : (s : ℚ) / 86400 * dayLength = ((1000000 * (s : Int) : Int) : ℚ) := by
    unfold dayLength
    push_cast
    ring
  rw [hproduct, Int.floor_intCast]

/-- The minute and the seconds as a part of a day. -/
theorem groups_minute_and_seconds :
    (sum (trunc "MI") (quotient (whole secondOf) (number 86400))).Groups (period .second) := by
  refine groups_of_time (f := (·.start .second)) (fun t => ?_)
    fun t u => Timestamp.start_eq_iff .second
  have hminute : (trunc "MI").value? t = some (.time (t.start .minute)) := rfl
  have hpart : (quotient (whole secondOf) (number 86400)).value? t =
      some (.number (t.second / 86400)) := by
    rw [value?, value?_whole_secondOf, value?]
    simp [TimeValue.quotient?]
  have hstart : t.start .minute + 1000000 * (t.second : Int) = t.start .second := by
    change instant .. + _ = instant ..
    unfold instant
    omega
  rw [value?, hminute, hpart, Option.bind_some, Option.bind_some, TimeValue.sum?,
    floor_second_mul_dayLength, hstart]

/-! ## Texts -/

/-- A format groups times by its fields. -/
theorem groups_dateFormat {format : String} {is : List FormatItem}
    (hitems : formatItems? format.toList = some is) (hseparated : separated is = true)
    (h : ∀ t u, (∀ f, .field f ∈ is → f.get t = f.get u) ↔ key t = key u) :
    (dateFormat format).Groups key := by
  refine groups_of_text (f := fun t => is.flatMap (FormatItem.shown t)) (fun t => ?_) fun t u => ?_
  · rw [value?, hitems, Option.map_some]
  · rw [shown_eq_iff hseparated, h]

def quarterMonth : Nat → String
  | 1 => "01"
  | 2 => "04"
  | 3 => "07"
  | _ => "10"

/-- The first day of the quarter of the operand. -/
def quarterStart : TimeTerm :=
  choose quarterOf ([1, 2, 3, 4].map fun n =>
    (n, concat yearOf (literal ("-" ++ quarterMonth n ++ "-01"))))

theorem showInt_natCast (n : Nat) :
    Number.showInt (n : Int) = String.ofList (Nat.toDigits 10 n) := by
  have hpos : ¬ (n : Int) < 0 := by omega
  rw [Number.showInt, if_neg hpos, Int.natAbs_natCast, Nat.toString_eq_repr,
    Nat.repr_eq_ofList_toDigits]

theorem toDigits_inj {n m : Nat} : Nat.toDigits 10 n = Nat.toDigits 10 m ↔ n = m := by
  constructor
  · intro h
    have hvalue := congrArg (Nat.ofDigitChars 10 · 0) h
    simpa [Nat.ofDigitChars_toDigits] using hvalue
  · rintro rfl
    rfl

theorem groups_quarterStart : quarterStart.Groups (period .quarter) := by
  have hquarter (t : Timestamp) : t.date.quarter = 1 ∨ t.date.quarter = 2 ∨ t.date.quarter = 3 ∨
      t.date.quarter = 4 := by
    have h := t.date.month_mem
    unfold Date.quarter
    omega
  have hdigits (n : Nat) : ∀ c ∈ Nat.toDigits 10 n, c.isDigit = true :=
    fun c => Nat.isDigit_of_mem_toDigits (by decide) (by decide)
  refine groups_of_text
    (f := fun t => Nat.toDigits 10 t.date.year ++
      ("-" ++ quarterMonth t.date.quarter ++ "-01").toList)
    (fun t => ?_) fun t u => ?_
  · rcases hquarter t with h | h | h | h <;>
      simp [value?, chosen?, quarterStart, h, TimeValue.concat?, TimeValue.shown?, showInt_natCast,
        String.append_assoc]
  · -- The year ends where the literal begins, and no two quarters have one literal.
    have hcut (cs cs' : List Char) :
        Nat.toDigits 10 t.date.year ++ '-' :: cs = Nat.toDigits 10 u.date.year ++ '-' :: cs' ↔
          Nat.toDigits 10 t.date.year = Nat.toDigits 10 u.date.year ∧ cs = cs' :=
      digits_append_inj (by decide) (hdigits t.date.year) (hdigits u.date.year)
    rcases hquarter t with h | h | h | h <;> rcases hquarter u with h' | h' | h' | h' <;>
      simp [period, quarterMonth, h, h', hcut, toDigits_inj]

/-! ## What the dialects write -/

def mysqlCut : Granularity → TimeTerm
  | .year => dateFormat "%Y-01-01"
  | .quarter => quarterStart
  | .month => dateFormat "%Y-%m-01"
  | .week => daysBefore weekdayOf
  | .day => dateFormat "%Y-%m-%d"
  | .hour => dateFormat "%Y-%m-%d %H:00:00"
  | .minute => dateFormat "%Y-%m-%d %H:%i:00"
  | .second => dateFormat "%Y-%m-%d %H:%i:%s"

def oracleCut (g : Granularity) : TimeTerm :=
  match Dialect.Oracle.unit? g with
  | some unit => trunc unit
  | none => sum (trunc "MI") (quotient (whole secondOf) (number 86400))

def cutOf (d : Dialect) (g : Granularity) : TimeTerm :=
  if d.name = "mysql" then mysqlCut g
  else if d.name = "oracle" then oracleCut g
  else dateTrunc g.name

/-- By what a dialect groups times that are cut to weeks. -/
def weekKey (d : Dialect) (t : Timestamp) : List Nat :=
  if d.name = "mysql" then [t.date.week, t.hour, t.minute, t.second, t.microsecond]
  else if d.name = "oracle" then [t.date.year, t.date.dayOfYear / 7]
  else [t.date.week]

/-- By what a dialect groups times that are cut to a granularity. -/
def groupKey (d : Dialect) (g : Granularity) (t : Timestamp) : List Nat :=
  if g = .week then weekKey d t else period g t

/-- Going back to Monday keeps the time of day. -/
theorem groups_daysBefore_weekday : (daysBefore weekdayOf).Groups (weekKey Dialect.mysql) := by
  refine groups_of_time (f := fun t => t.point - dayLength * t.date.weekday) (fun t => ?_)
    fun t u => ?_
  · simp [value?, TimeValue.daysBefore?]
  · have hmonday := Date.monday_eq_iff (d := t.date) (e := u.date)
    have := t.hour_lt
    have := t.minute_lt
    have := t.second_lt
    have := t.microsecond_lt
    have := u.hour_lt
    have := u.minute_lt
    have := u.second_lt
    have := u.microsecond_lt
    simp only [weekKey, Dialect.mysql, if_pos, List.cons.injEq, and_true, ← hmonday]
    unfold Timestamp.point instant dayLength
    omega

theorem groups_mysqlCut (g : Granularity) : (mysqlCut g).Groups (groupKey Dialect.mysql g) := by
  cases g with
  | quarter => exact groups_quarterStart
  | week => exact groups_daysBefore_weekday
  | _ => exact groups_dateFormat rfl rfl fun t u => by simp [groupKey, period, Field.get]

theorem groups_oracleCut (g : Granularity) : (oracleCut g).Groups (groupKey Dialect.oracle g) := by
  cases g with
  | year => exact groups_trunc (g := .year) fun t => rfl
  | quarter => exact groups_trunc (g := .quarter) fun t => rfl
  | month => exact groups_trunc (g := .month) fun t => rfl
  | week => exact groups_trunc_week
  | day => exact groups_trunc (g := .day) fun t => rfl
  | hour => exact groups_trunc (g := .hour) fun t => rfl
  | minute => exact groups_trunc (g := .minute) fun t => rfl
  | second => exact groups_minute_and_seconds

/-- A cut that the other dialects write. -/
theorem groups_dateTrunc_groupKey {d : Dialect} (hmysql : d.name ≠ "mysql")
    (horacle : d.name ≠ "oracle") (g : Granularity) : (dateTrunc g.name).Groups (groupKey d g) := by
  have hkey : groupKey d g = period g := by
    funext t
    unfold groupKey weekKey
    rw [if_neg hmysql, if_neg horacle]
    split
    case isTrue h => rw [h, period]
    case isFalse => rfl
  rw [hkey]
  exact groups_dateTrunc g

variable {d : Dialect}

theorem groups_cutOf (hd : d ∈ Backends.standard.dialects.map Prod.snd) (g : Granularity) :
    (cutOf d g).Groups (groupKey d g) := by
  obtain rfl | rfl | rfl | rfl := Backends.mem_standard_iff.1 hd
  · exact groups_dateTrunc_groupKey (by decide) (by decide) g
  · exact groups_mysqlCut g
  · exact groups_oracleCut g
  · exact groups_dateTrunc_groupKey (by decide) (by decide) g

/-- The text of one arm of the choice between quarters. -/
theorem armsOver_quarter (expr month : String) (n : Nat) (arms : List (Nat × TimeTerm)) :
    armsOver expr ((n, concat yearOf (literal ("-" ++ month ++ "-01"))) :: arms) =
      "WHEN " ++ toString n ++ " THEN CONCAT(YEAR(" ++ expr ++ "), '-" ++ month ++ "-01') " ++
        armsOver expr arms := by
  change "WHEN " ++ toString n ++ " THEN " ++
      ("CONCAT(" ++ ("YEAR(" ++ expr ++ ")") ++ ", " ++ ("'" ++ ("-" ++ month ++ "-01") ++ "'") ++
        ")") ++ " " ++ armsOver expr arms = _
  refine String.toList_injective ?_
  simp

theorem textOver_quarterStart (expr : String) :
    quarterStart.textOver expr = Dialect.MySql.quarterStart expr := by
  have htext : quarterStart.textOver expr =
      "CASE " ++ ("QUARTER(" ++ expr ++ ")") ++ " " ++ armsOver expr ([1, 2, 3, 4].map fun n =>
        (n, concat yearOf (literal ("-" ++ quarterMonth n ++ "-01")))) ++ "END" := rfl
  have hhead : "CASE " ++ ("QUARTER(" ++ expr ++ ")") ++ " " = "CASE QUARTER(" ++ expr ++ ") " := by
    refine String.toList_injective ?_
    simp
  have hend : armsOver expr [] = "" := rfl
  have hdigits : toString 1 = "1" ∧ toString 2 = "2" ∧ toString 3 = "3" ∧ toString 4 = "4" := by
    decide
  obtain ⟨h1, h2, h3, h4⟩ := hdigits
  rw [htext, hhead, List.map_cons, List.map_cons, List.map_cons, List.map_cons, List.map_nil,
    armsOver_quarter, armsOver_quarter, armsOver_quarter, armsOver_quarter, hend, h1, h2, h3, h4]
  unfold Dialect.MySql.quarterStart quarterMonth
  simp only [String.append_assoc, String.empty_append]

theorem textOver_mysqlCut (expr : String) (g : Granularity) :
    (mysqlCut g).textOver expr = Dialect.MySql.cut expr g := by
  cases g with
  | quarter => exact textOver_quarterStart expr
  | week =>
    change "DATE_SUB(" ++ expr ++ ", INTERVAL " ++ ("WEEKDAY(" ++ expr ++ ")") ++ " DAY)" =
      "DATE_SUB(" ++ expr ++ ", INTERVAL WEEKDAY(" ++ expr ++ ") DAY)"
    refine String.toList_injective ?_
    simp
  | _ => rfl

theorem textOver_oracleCut (expr : String) (g : Granularity) :
    (oracleCut g).textOver expr = Dialect.Oracle.cut expr g := by
  cases g with
  | second =>
    have hnumber : toString 86400 = "86400" := by decide
    change "TRUNC(" ++ expr ++ ", '" ++ "MI" ++ "')" ++ " + " ++
        ("TRUNC(" ++ ("EXTRACT(SECOND FROM " ++ expr ++ ")") ++ ")" ++ " / " ++ toString 86400) =
      "TRUNC(" ++ expr ++ ", 'MI') + TRUNC(EXTRACT(SECOND FROM " ++ expr ++ ")) / 86400"
    rw [hnumber]
    refine String.toList_injective ?_
    simp
  | _ => rfl

/-- What a dialect writes is the text of its cut. -/
theorem textOver_cutOf (hd : d ∈ Backends.standard.dialects.map Prod.snd) (expr : String)
    (g : Granularity) : (cutOf d g).textOver expr = d.cut expr g := by
  obtain rfl | rfl | rfl | rfl := Backends.mem_standard_iff.1 hd
  · rfl
  · exact textOver_mysqlCut expr g
  · exact textOver_oracleCut expr g
  · rfl

/-- An expression that is not blank is cut. -/
theorem truncate_eq_textOver (hd : d ∈ Backends.standard.dialects.map Prod.snd) (g : Granularity)
    {expr : String} (hexpr : (Text.strip expr).isEmpty = false) :
    d.truncate expr g = .ok ((cutOf d g).textOver expr) := by
  rw [Dialect.truncate, hexpr, textOver_cutOf hd]
  rfl

/-- A Wednesday at midnight. -/
def newYear : Timestamp where
  date := { year := 2025, month := 1, day := 1, month_mem := by decide, day_mem := by decide }
  hour := 0
  minute := 0
  second := 0
  microsecond := 0
  hour_lt := by decide
  minute_lt := by decide
  second_lt := by decide
  microsecond_lt := by decide

def hourLater : Timestamp := { newYear with hour := 1, hour_lt := by decide }

/-- A day earlier, in the year before. -/
def dayEarlier : Timestamp :=
  { newYear with
    date := { year := 2024, month := 12, day := 31, month_mem := by decide, day_mem := by decide } }

/-- The three times lie in one week, but MySQL sets one hour apart and Oracle one day. -/
theorem weekKey_splits_week :
    (period .week newYear = period .week hourLater ∧
      weekKey Dialect.mysql newYear ≠ weekKey Dialect.mysql hourLater) ∧
    period .week newYear = period .week dayEarlier ∧
      weekKey Dialect.oracle newYear ≠ weekKey Dialect.oracle dayEarlier := by
  decide

/-- What a dialect writes for an expression and a granularity is the text of its cut, whose values
are grouped by `groupKey`. They are grouped by the periods of the granularity in all cases but the
weeks of MySQL and Oracle. -/
theorem cut_groups_by_period_iff (hd : d ∈ Backends.standard.dialects.map Prod.snd)
    (g : Granularity) :
    (∀ expr, (Text.strip expr).isEmpty = false →
      d.truncate expr g = .ok ((cutOf d g).textOver expr)) ∧
    (cutOf d g).Groups (groupKey d g) ∧
    ((cutOf d g).Groups (period g) ↔ ¬ (g = .week ∧ (d.name = "mysql" ∨ d.name = "oracle"))) := by
  have hgroups := groups_cutOf hd g
  refine ⟨fun expr => truncate_eq_textOver hd g, hgroups, fun hperiod => ?_, fun hother => ?_⟩
  · rintro ⟨rfl, hname⟩
    obtain ⟨⟨hmysql, hmysql'⟩, horacle, horacle'⟩ := weekKey_splits_week
    have hkey := hgroups.key_eq_iff hperiod
    obtain rfl | rfl | rfl | rfl := Backends.mem_standard_iff.1 hd
    · exact absurd hname (by decide)
    · exact hmysql' ((hkey _ _).2 hmysql)
    · exact horacle' ((hkey _ _).2 horacle)
    · exact absurd hname (by decide)
  · have hkey : groupKey d g = period g := by
      funext t
      unfold groupKey weekKey
      by_cases hg : g = .week
      · have hname : d.name ≠ "mysql" ∧ d.name ≠ "oracle" := by
          simpa [hg] using hother
        rw [if_pos hg, if_neg hname.1, if_neg hname.2, hg, period]
      · exact if_neg hg
    rwa [hkey] at hgroups

/-- Quarters in MySQL. -/
theorem mysql_cut_groups_by_quarter :
    Dialect.mysql ∈ Backends.standard.dialects.map Prod.snd ∧
    Dialect.mysql.truncate "ts" .quarter = .ok ((cutOf Dialect.mysql .quarter).textOver "ts") ∧
    (cutOf Dialect.mysql .quarter).Groups (period .quarter) := by
  have hd : Dialect.mysql ∈ Backends.standard.dialects.map Prod.snd :=
    Backends.mem_standard_iff.2 (.inr (.inl rfl))
  obtain ⟨htext, -, hgroups⟩ := cut_groups_by_period_iff hd .quarter
  exact ⟨hd, htext "ts" (by decide), hgroups.2 (by decide)⟩

/-- Cut to weeks, two hours of one day differ in MySQL, and two days of one week in Oracle. -/
theorem week_cut_splits_week :
    (Dialect.mysql.truncate "ts" .week = .ok ((cutOf Dialect.mysql .week).textOver "ts") ∧
      period .week newYear = period .week hourLater ∧
      (cutOf Dialect.mysql .week).value? newYear ≠ (cutOf Dialect.mysql .week).value? hourLater) ∧
    Dialect.oracle.truncate "ts" .week = .ok ((cutOf Dialect.oracle .week).textOver "ts") ∧
      period .week newYear = period .week dayEarlier ∧
      (cutOf Dialect.oracle .week).value? newYear ≠
        (cutOf Dialect.oracle .week).value? dayEarlier := by
  obtain ⟨⟨hmysql, hmysql'⟩, horacle, horacle'⟩ := weekKey_splits_week
  have hts : (Text.strip "ts").isEmpty = false := by decide
  refine ⟨⟨truncate_eq_textOver ?_ .week hts, hmysql, (groups_mysqlCut .week).value?_ne hmysql'⟩,
    truncate_eq_textOver ?_ .week hts, horacle, (groups_oracleCut .week).value?_ne horacle'⟩
  · exact Backends.mem_standard_iff.2 (.inr (.inl rfl))
  · exact Backends.mem_standard_iff.2 (.inr (.inr (.inl rfl)))

end TimeTerm

end SemanticLayer.Calendar
