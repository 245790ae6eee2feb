import Mathlib.Data.Bool.AllAny
import Mathlib.Tactic.NormNum
import SemanticLayer.Dialect.Backends
import SemanticLayer.Proofs.Decimals

/-!
# Values of a column as common ones

What a dialect makes of the values of a column, by the name of the column's type.

* Bringing a value to a common one twice is the same as doing it once (`normalize_idempotent`). The
  second time the value is often of another kind, so it takes another way through the dialect. An
  amount of money that was read from a text is the one case that needs an argument: a decimal is
  read again from its own text.
* A decimal of Oracle becomes a whole number if its exponent is not negative, which is more than
  being one (`oracle_decimal_to_int_iff`).
* Whether the integers of a column become truth values is decided apart from whether the type of the
  column is boolean. `boolean_decisions_agree_iff` says where the two decisions meet.
* Bits that come as bytes become a truth value by the first byte (`mysql_bits_truth_iff`).
-/

namespace SemanticLayer.Dialect

variable {native : String} {v w : Value} {t : String} {p : Option Int} {n : Int}

theorem duckdb_convert : duckdb.convert = DuckDb.convert := by simp only [duckdb]

theorem mysql_convert : mysql.convert = MySql.convert := by simp only [mysql]

theorem oracle_convert : oracle.convert = Oracle.convert := by simp only [oracle]

theorem postgresql_convert : postgresql.convert = PostgreSql.convert := by simp only [postgresql]

theorem normalize_of_ne_null {d : Dialect} {native : Option String} (h : v ≠ .null) :
    d.normalize native v = d.convert (native.getD "") v := by
  cases v with
  | null => exact absurd rfl h
  | _ => rfl

/-! ## Twice is once -/

namespace DuckDb

theorem convert_bool (b : Bool) : convert native (.bool b) = .ok (.bool b) := by
  unfold convert
  split_ifs <;> rfl

/-- A value is left as it is, or it becomes a truth value. -/
theorem eq_or_bool_of_convert (h : convert native v = .ok w) : w = v ∨ ∃ b, w = .bool b := by
  unfold convert at h
  split_ifs at h
  · split at h <;> cases h
    · exact .inr ⟨_, rfl⟩
    · exact .inr ⟨_, rfl⟩
    · exact .inl rfl
  · cases h
    exact .inl rfl

theorem convert_convert (h : convert native v = .ok w) : convert native w = .ok w := by
  obtain rfl | ⟨b, rfl⟩ := eq_or_bool_of_convert h
  · exact h
  · exact convert_bool b

end DuckDb

namespace MySql

theorem convert_bool (b : Bool) : convert native (.bool b) = .ok (.bool b) := by
  unfold convert
  generalize typeKey native = key
  split
  · next hv => cases hv
  · next hv => cases hv
  · rfl

/-- A value is left as it is, or it becomes a truth value. -/
theorem eq_or_bool_of_convert (h : convert native v = .ok w) : w = v ∨ ∃ b, w = .bool b := by
  unfold convert at h
  generalize typeKey native = key at h
  split at h <;> cases h
  · exact .inr ⟨_, rfl⟩
  · exact .inr ⟨_, rfl⟩
  · exact .inl rfl

theorem convert_convert (h : convert native v = .ok w) : convert native w = .ok w := by
  obtain rfl | ⟨b, rfl⟩ := eq_or_bool_of_convert h
  · exact h
  · exact convert_bool b

end MySql

namespace Oracle

/-- A decimal becomes a number of another kind. -/
theorem number_of_ofDecimal {d : Decimal} (h : ofDecimal d = .ok w) :
    (∃ n, w = .int n) ∨ ∃ x, w = .float x := by
  unfold ofDecimal at h
  split at h
  · cases h
    exact .inl ⟨_, rfl⟩
  · split at h <;> cases h
    exact .inr ⟨_, rfl⟩

theorem convert_convert (h : convert native v = .ok w) : convert native w = .ok w := by
  cases v with
  | decimal d =>
    simp only [convert] at h
    split_ifs at h with hkey
    · obtain ⟨n, rfl⟩ | ⟨x, rfl⟩ := number_of_ofDecimal h <;> rfl
    · cases h
      simp only [convert, if_neg hkey]
  | string s =>
    simp only [convert] at h
    split_ifs at h with hkey <;> cases h
    · simp only [convert, if_pos hkey, Text.strip_strip]
    · simp only [convert, if_neg hkey]
  | reader text =>
    simp only [convert] at h
    split_ifs at h with hkey <;> cases h
    · -- The name of a large text is not the name of a padded one.
      have hpadded : ["CHAR", "NCHAR"].contains (typeKey native) = false := by
        simp only [List.contains_iff_mem, List.mem_cons, List.not_mem_nil, or_false] at hkey
        rcases hkey with hkey | hkey <;> rw [hkey] <;> rfl
      simp only [convert, hpadded]
      rfl
    · simp only [convert, if_neg hkey]
  | _ =>
    cases h
    rfl

end Oracle

namespace PostgreSql

/-- The amount that a text says, or the text without blanks around it, is the same the second
time. -/
theorem moneyOfText_cases {s : String} (h : moneyOfText s = .ok w) :
    (∃ d : Decimal, w = .decimal d ∧ d.Canonical) ∨
      ∃ u, w = .string u ∧ moneyOfText u = .ok (.string u) := by
  unfold moneyOfText at h
  extract_lets cs negative at h
  split at h
  · next d hd =>
    have hcanonical := Decimal.canonical_of_ofText? hd
    split at h <;> cases h
    next d' hd' =>
    refine .inl ⟨d', rfl, ?_⟩
    split_ifs at hd'
    · exact hcanonical.negated? hd'
    · exact Option.some.inj hd' ▸ hcanonical
  · next hnone =>
    cases h
    have htrim : Text.trim (String.ofList cs).toList = cs := by
      rw [String.toList_ofList, Text.trim_trim]
    refine .inr ⟨_, rfl, ?_⟩
    unfold moneyOfText
    simp only [htrim, hnone]

theorem money_decimal {d : Decimal} (h : d.Canonical) : money (.decimal d) = .ok (.decimal d) := by
  unfold money
  simp only [Value.text, Decimal.ofText?_toText h]

theorem money_string (s : String) : money (.string s) = moneyOfText s := rfl

/-- Money is a decimal, or a text in which there is no amount. -/
theorem money_money (h : money v = .ok w) : money w = .ok w := by
  unfold money at h
  split at h
  case h_5 =>
    obtain ⟨d, rfl, hcanonical⟩ | ⟨u, rfl, hagain⟩ := moneyOfText_cases h
    · exact money_decimal hcanonical
    · rw [money_string, hagain]
  all_goals
    split at h <;> cases h
    next d hd => exact money_decimal (Decimal.canonical_of_ofText? hd)

theorem convert_of_money (h : typeKey native = "money") : convert native v = money v := by
  unfold convert
  rw [h]
  rfl

theorem convert_convert (h : convert native v = .ok w) : convert native w = .ok w := by
  unfold convert at h ⊢
  generalize typeKey native = key at h ⊢
  dsimp only at h ⊢
  split_ifs at h ⊢ with hjson hmoney hbits htext
  · split at h
    · cases h
      rfl
    · split at h <;> cases h
      rfl
  · exact money_money h
  · split at h <;> cases h <;> rfl
  · cases h
    rfl
  · rfl

end PostgreSql

/-- A missing value stays missing, so only the values that are there matter. -/
theorem normalize_of_convert {d : Dialect} {native : Option String}
    (hd : ∀ v w, d.convert (native.getD "") v = .ok w → d.convert (native.getD "") w = .ok w)
    (h : d.normalize native v = .ok w) : d.normalize native w = .ok w := by
  by_cases hv : v = .null
  · subst hv
    cases h
    rfl
  · by_cases hw : w = .null
    · rw [hw, normalize]
    · rw [normalize_of_ne_null hv] at h
      rw [normalize_of_ne_null hw]
      exact hd v w h

/-- A value that was brought to a common one is left as it is. -/
theorem normalize_idempotent {d : Dialect} (hd : d ∈ Backends.standard.dialects.map Prod.snd)
    {native : Option String} (h : d.normalize native v = .ok w) : d.normalize native w = .ok w := by
  refine normalize_of_convert (fun v w => ?_) h
  obtain rfl | rfl | rfl | rfl := Backends.mem_standard_iff.1 hd
  · rw [duckdb_convert]
    exact DuckDb.convert_convert
  · rw [mysql_convert]
    exact MySql.convert_convert
  · rw [oracle_convert]
    exact Oracle.convert_convert
  · rw [postgresql_convert]
    exact PostgreSql.convert_convert

/-- An amount in parentheses becomes a negative decimal, whose text has no parentheses. -/
theorem normalize_amount_idempotent :
    postgresql.normalize (some " Money") (.string " ($1,234.50)") =
        .ok (.decimal (.finite true 123450 (-2))) ∧
      postgresql.normalize (some " Money") (.decimal (.finite true 123450 (-2))) =
        .ok (.decimal (.finite true 123450 (-2))) := by
  have hamount : postgresql.normalize (some " Money") (.string " ($1,234.50)") =
      .ok (.decimal (.finite true 123450 (-2))) := by rfl
  exact ⟨hamount,
    normalize_idempotent (Backends.mem_standard_iff.2 (.inr (.inr (.inr rfl)))) hamount⟩

/-! ## Whole decimals -/

/-- A decimal in a column of a decimal type, whatever the letter case and the blanks around the
name. -/
theorem oracle_normalize_decimal {name : String} (hname : name ∈ Oracle.decimalTypes)
    (ht : Text.Spelled name t) (d : Decimal) :
    oracle.normalize (some t) (.decimal d) = Oracle.ofDecimal d := by
  have hupper : ∀ name ∈ Oracle.decimalTypes, name.toList.all Char.isUpper = true := by decide
  have hkey : Oracle.typeKey t = name := ht.upper_strip (List.all_eq_true.1 (hupper name hname))
  rw [normalize_of_ne_null (by simp), oracle_convert, Option.getD_some]
  simp only [Oracle.convert, hkey, List.contains_iff_mem.2 hname, if_true]

theorem Oracle.ofDecimal_eq_int_iff {d : Decimal} :
    ofDecimal d = .ok (.int n) ↔ d.toInt? = some n := by
  unfold ofDecimal
  split
  · next m hm => simp [hm]
  · next hnone => split <;> simp [hnone]

/-- A decimal in a column of a decimal type becomes a whole number exactly if that number is its
value and its exponent is not negative. With a negative exponent it becomes a floating-point number,
also if its value is a whole number. -/
theorem oracle_decimal_to_int_iff {name : String} (hname : name ∈ Oracle.decimalTypes)
    (ht : Text.Spelled name t) (d : Decimal) :
    (∀ n : Int, oracle.normalize (some t) (.decimal d) = .ok (.int n) ↔
      d.value = some (n : ℚ) ∧ ∃ negative coefficient exponent,
        d = .finite negative coefficient exponent ∧ 0 ≤ exponent) ∧
    ∀ negative coefficient exponent, d = .finite negative coefficient exponent → exponent < 0 →
      oracle.normalize (some t) (.decimal d) =
        .ok (.float (Binary64.ofScaled negative coefficient exponent)) := by
  rw [oracle_normalize_decimal hname ht]
  refine ⟨fun n => Oracle.ofDecimal_eq_int_iff.trans Decimal.toInt?_eq_some_iff, ?_⟩
  rintro negative coefficient exponent rfl hneg
  simp only [Oracle.ofDecimal, Decimal.toInt?, if_pos hneg, Binary64.ofDecimal?]

/-- Twelve thousand with three zeros that are not written out, in a column with a padded name. -/
theorem oracle_twelve_thousand_to_int :
    oracle.normalize (some " Numeric\t") (.decimal (.finite true 12 3)) = .ok (.int (-12000)) := by
  have hname : "NUMERIC" ∈ Oracle.decimalTypes := by decide
  have ht : Text.Spelled "NUMERIC" " Numeric\t" :=
    ⟨" ".toList, "Numeric".toList, "\t".toList, by decide, List.all_iff_forall_prop.1 (by decide),
      List.all_iff_forall_prop.1 (by decide), by decide⟩
  apply ((oracle_decimal_to_int_iff hname ht _).1 _).2
  refine ⟨?_, true, 12, 3, rfl, by decide⟩
  norm_num [Decimal.value]

/-- Four with a zero after the point is a whole number, but it does not become one. -/
theorem oracle_four_point_zero_to_float :
    Decimal.value (.finite false 40 (-1)) = some (4 : ℚ) ∧
      ∀ n, oracle.normalize (some "NUMBER") (.decimal (.finite false 40 (-1))) ≠ .ok (.int n) := by
  refine ⟨by norm_num [Decimal.value], fun n hint => ?_⟩
  have ht : Text.Spelled "NUMBER" "NUMBER" :=
    ⟨[], "NUMBER".toList, [], by decide, List.forall_mem_nil _, List.forall_mem_nil _, by decide⟩
  rw [oracle_normalize_decimal (by decide) ht, Oracle.ofDecimal_eq_int_iff] at hint
  cases hint

/-! ## Truth values -/

/-- Whether an integer in a column becomes a truth value. -/
def BecomesTruth (d : Dialect) (t : String) (n : Int) : Prop :=
  ∃ b, d.normalize (some t) (.int n) = .ok (.bool b)

/-- What a column is known by: the name of its type and a precision. -/
def columnOf (t : String) (p : Option Int) : ColumnType := { native := some t, precision := p }

/-- Without a code the type of a column comes from a rule of the dialect or from its name. -/
theorem columnType?_columnOf {d : Dialect} :
    d.columnType? (columnOf t p) =
      some (((d.specialType (columnOf t p)).or
        (d.nativeTypes.lookup (Text.upper (Text.strip t)))).getD .unknown) := by
  have hname : (columnOf t p).native.getD "" = t := rfl
  rw [columnType?, hname]
  cases d.specialType (columnOf t p) with
  | some special => rfl
  | none => cases d.nativeTypes.lookup (Text.upper (Text.strip t)) <;> rfl

/-- The names that a list gives a boolean type. -/
theorem lookup_eq_boolean_iff {types : List (String × AnsiType)} {names : List String}
    (hnames : ∀ name ∈ names, types.lookup name = some .boolean)
    (htypes : ∀ e ∈ types, e.2 = .boolean → e.1 ∈ names) {key : String} :
    types.lookup key = some .boolean ↔ key ∈ names := by
  refine ⟨fun h => ?_, hnames key⟩
  obtain ⟨before, after, rfl, -⟩ := List.lookup_eq_some_iff.1 h
  exact htypes (key, .boolean) (by simp) rfl

namespace DuckDb

theorem normalize_int :
    duckdb.normalize (some t) (.int n) =
      .ok (if Text.upper t ∈ booleanTypes then .bool (n != 0) else .int n) := by
  rw [normalize_of_ne_null (by simp), duckdb_convert, Option.getD_some]
  unfold convert
  simp only [List.contains_iff_mem]
  split_ifs <;> rfl

theorem becomesTruth_iff : BecomesTruth duckdb t n ↔ Text.upper t ∈ booleanTypes := by
  rw [BecomesTruth, normalize_int]
  split_ifs with hmem <;> simp [hmem]

theorem columnType?_boolean_iff :
    duckdb.columnType? (columnOf t p) = some .boolean ↔
      Text.upper (Text.strip t) ∈ booleanTypes := by
  have hspecial : duckdb.specialType (columnOf t p) = none := by simp only [duckdb]
  have htypes : duckdb.nativeTypes = nativeTypes := by simp only [duckdb]
  have hnamed : nativeTypes.lookup (Text.upper (Text.strip t)) = some .boolean ↔
      Text.upper (Text.strip t) ∈ booleanTypes :=
    lookup_eq_boolean_iff (by decide) (by decide)
  rw [columnType?_columnOf, hspecial, htypes, Option.none_or, ← hnamed]
  cases nativeTypes.lookup (Text.upper (Text.strip t)) <;> simp

/-- A boolean name has no blanks, so only a name without blanks around it is found. -/
theorem strip_eq_self_of_boolean (h : Text.upper t ∈ booleanTypes) : Text.strip t = t := by
  have hblank : ∀ name ∈ booleanTypes, (name.toList.all fun c => !Text.isBlank c) = true := by
    decide
  refine Text.strip_eq_self_of_upper rfl fun c hc => ?_
  simpa using List.all_eq_true.1 (hblank _ h) c hc

theorem agrees_iff :
    (BecomesTruth duckdb t n ↔ duckdb.columnType? (columnOf t p) = some .boolean) ↔
      (Text.upper (Text.strip t) ∈ booleanTypes → Text.strip t = t) := by
  rw [becomesTruth_iff, columnType?_boolean_iff]
  constructor
  · intro hagrees hboolean
    exact strip_eq_self_of_boolean (hagrees.2 hboolean)
  · intro hplain
    constructor
    · intro hboolean
      rwa [strip_eq_self_of_boolean hboolean]
    · intro hboolean
      rwa [hplain hboolean] at hboolean

theorem normalize_int_of_not_boolean (h : duckdb.columnType? (columnOf t p) ≠ some .boolean) :
    duckdb.normalize (some t) (.int n) = .ok (.int n) := by
  rw [ne_eq, columnType?_boolean_iff] at h
  have hnot : Text.upper t ∉ booleanTypes := by
    intro hboolean
    rw [strip_eq_self_of_boolean hboolean] at h
    exact h hboolean
  rw [normalize_int, if_neg hnot]

end DuckDb

namespace MySql

theorem normalize_int :
    mysql.normalize (some t) (.int n) =
      .ok (if typeKey t = "TINYINT" then .bool (n != 0) else .int n) := by
  rw [normalize_of_ne_null (by simp), mysql_convert, Option.getD_some]
  unfold convert
  generalize typeKey t = key
  split
  · next hv => cases hv
  · next hv =>
    cases hv
    rfl
  · next hkey => rw [if_neg fun h => hkey n h rfl]

theorem becomesTruth_iff : BecomesTruth mysql t n ↔ typeKey t = "TINYINT" := by
  rw [BecomesTruth, normalize_int]
  split_ifs with hkey <;> simp [hkey]

/-- A small integer is boolean by its precision, which is one if there is none. -/
theorem specialType_columnOf :
    specialType (columnOf t p) =
      if typeKey t ∈ ["TINYINT", "TINYINT UNSIGNED"] then
        some (if p.getD 1 = 1 then .boolean else .tinyint)
      else none := by
  have hone : (p.all (· == 1)) = true ↔ p.getD 1 = 1 := by cases p <;> simp
  simp only [specialType, columnOf, Option.getD_some, List.contains_iff_mem, hone]

theorem columnType?_columnOf :
    mysql.columnType? (columnOf t p) =
      some (if typeKey t ∈ ["TINYINT", "TINYINT UNSIGNED"] then
          if p.getD 1 = 1 then .boolean else .tinyint
        else (nativeTypes.lookup (typeKey t)).getD .unknown) := by
  have hspecial : mysql.specialType = specialType := by simp only [mysql]
  have htypes : mysql.nativeTypes = nativeTypes := by simp only [mysql]
  have hkey : Text.upper (Text.strip t) = typeKey t := rfl
  rw [Dialect.columnType?_columnOf, hspecial, htypes, specialType_columnOf, hkey]
  generalize nativeTypes.lookup (typeKey t) = named
  split_ifs <;> simp

theorem columnType?_boolean_iff :
    mysql.columnType? (columnOf t p) = some .boolean ↔
      typeKey t ∈ ["TINYINT", "TINYINT UNSIGNED"] ∧ p.getD 1 = 1 ∨
        typeKey t ∈ ["BIT", "BOOL", "BOOLEAN"] := by
  have hnamed : nativeTypes.lookup (typeKey t) = some .boolean ↔
      typeKey t ∈ ["BIT", "BOOL", "BOOLEAN"] :=
    lookup_eq_boolean_iff (by decide) (by decide)
  rw [columnType?_columnOf]
  by_cases hsmall : typeKey t ∈ ["TINYINT", "TINYINT UNSIGNED"]
  · have hother : typeKey t ∉ ["BIT", "BOOL", "BOOLEAN"] :=
      (by decide : ∀ key ∈ ["TINYINT", "TINYINT UNSIGNED"], key ∉ ["BIT", "BOOL", "BOOLEAN"]) _
        hsmall
    rw [if_pos hsmall, or_iff_left hother, and_iff_right hsmall]
    split_ifs with hone <;> simp [hone]
  · rw [if_neg hsmall, or_iff_right fun h => hsmall h.1, ← hnamed]
    cases nativeTypes.lookup (typeKey t) <;> simp

theorem agrees_iff :
    (BecomesTruth mysql t n ↔ mysql.columnType? (columnOf t p) = some .boolean) ↔
      typeKey t ∉ ["BIT", "BOOL", "BOOLEAN"] ∧ (typeKey t = "TINYINT" → p.getD 1 = 1) ∧
        (typeKey t = "TINYINT UNSIGNED" → p.getD 1 ≠ 1) := by
  rw [becomesTruth_iff, columnType?_boolean_iff]
  by_cases hsigned : typeKey t = "TINYINT"
  · simp [hsigned]
  · by_cases hunsigned : typeKey t = "TINYINT UNSIGNED"
    · simp [hunsigned]
    · simp [hsigned, hunsigned]

theorem normalize_int_of_not_boolean (h : mysql.columnType? (columnOf t p) ≠ some .boolean) :
    mysql.normalize (some t) (.int n) = .ok (.int n) ∨
      typeKey t = "TINYINT" ∧ mysql.columnType? (columnOf t p) = some .tinyint ∧
        mysql.normalize (some t) (.int n) = .ok (.bool (n != 0)) := by
  rw [normalize_int]
  by_cases hsigned : typeKey t = "TINYINT"
  · have hone : p.getD 1 ≠ 1 := fun hone =>
      h (columnType?_boolean_iff.2 (.inl ⟨by simp [hsigned], hone⟩))
    refine .inr ⟨hsigned, ?_, by rw [if_pos hsigned]⟩
    rw [columnType?_columnOf, if_pos (by simp [hsigned]), if_neg hone]
  · exact .inl (by rw [if_neg hsigned])

end MySql

/-- Where an integer becomes a truth value exactly if the type of its column is boolean. DuckDB
decides the first without looking past the blanks around the name. MySQL decides it for one name
only, and without the precision. So the only integers that are replaced in a column of another type
are those of MySQL's `TINYINT` with a precision other than one. -/
theorem boolean_decisions_agree_iff (t : String) (p : Option Int) (n : Int) :
    ((BecomesTruth duckdb t n ↔ duckdb.columnType? (columnOf t p) = some .boolean) ↔
      (Text.upper (Text.strip t) ∈ DuckDb.booleanTypes → Text.strip t = t)) ∧
    ((BecomesTruth mysql t n ↔ mysql.columnType? (columnOf t p) = some .boolean) ↔
      MySql.typeKey t ∉ ["BIT", "BOOL", "BOOLEAN"] ∧
        (MySql.typeKey t = "TINYINT" → p.getD 1 = 1) ∧
        (MySql.typeKey t = "TINYINT UNSIGNED" → p.getD 1 ≠ 1)) ∧
    (duckdb.columnType? (columnOf t p) ≠ some .boolean →
      duckdb.normalize (some t) (.int n) = .ok (.int n)) ∧
    (mysql.columnType? (columnOf t p) ≠ some .boolean →
      mysql.normalize (some t) (.int n) = .ok (.int n) ∨
        MySql.typeKey t = "TINYINT" ∧ mysql.columnType? (columnOf t p) = some .tinyint ∧
          mysql.normalize (some t) (.int n) = .ok (.bool (n != 0))) :=
  ⟨DuckDb.agrees_iff, MySql.agrees_iff, DuckDb.normalize_int_of_not_boolean,
    MySql.normalize_int_of_not_boolean⟩

/-- A bit that comes as a number is left as it is, though the type of its column is boolean. -/
theorem mysql_bit_number_stays :
    mysql.columnType? (columnOf "BIT" none) = some .boolean ∧
      mysql.normalize (some "BIT") (.int 5) = .ok (.int 5) := by
  have hkey : MySql.typeKey "BIT" = "BIT" := by decide
  refine ⟨MySql.columnType?_boolean_iff.2 (.inr (by simp [hkey])), ?_⟩
  rw [MySql.normalize_int, if_neg (by simp [hkey])]

/-! ## Bits -/

/-- The number that bytes encode, the first of them with the greatest weight. -/
def bigEndian : List UInt8 → Nat
  | [] => 0
  | b :: bs => b.toNat * 256 ^ bs.length + bigEndian bs

theorem bigEndian_lt (bs : List UInt8) : bigEndian bs < 256 ^ bs.length := by
  induction bs with
  | nil => exact Nat.one_pos
  | cons b bs ih =>
    have hbyte : b.toNat + 1 ≤ 256 := b.toNat_lt
    calc bigEndian (b :: bs) < b.toNat * 256 ^ bs.length + 256 ^ bs.length :=
          Nat.add_lt_add_left ih _
      _ = (b.toNat + 1) * 256 ^ bs.length := (Nat.succ_mul ..).symm
      _ ≤ 256 * 256 ^ bs.length := Nat.mul_le_mul_right _ hbyte
      _ = 256 ^ (b :: bs).length := (Nat.pow_succ' ..).symm

/-- The first byte is not zero if the number needs all the bytes. -/
theorem head?_ne_zero_iff (bs : List UInt8) :
    bs.head?.any (· != 0) = true ↔ 256 ^ (bs.length - 1) ≤ bigEndian bs := by
  cases bs with
  | nil => simp [bigEndian]
  | cons b bs =>
    have hrest := bigEndian_lt bs
    have hhead : (b :: bs).head?.any (· != 0) = true ↔ b.toNat ≠ 0 := by
      simp [← UInt8.toNat_inj]
    rw [hhead, List.length_cons, Nat.add_sub_cancel, bigEndian]
    constructor
    · intro hb
      calc 256 ^ bs.length ≤ b.toNat * 256 ^ bs.length :=
            Nat.le_mul_of_pos_left _ (Nat.pos_of_ne_zero hb)
        _ ≤ b.toNat * 256 ^ bs.length + bigEndian bs := Nat.le_add_right ..
    · intro hle hb
      rw [hb, Nat.zero_mul, Nat.zero_add] at hle
      exact absurd hle (Nat.not_le.2 hrest)

namespace MySql

theorem normalize_bytes {bs : List UInt8} :
    mysql.normalize (some t) (.bytes bs) =
      .ok (if typeKey t = "BIT" then .bool (bs.head?.any (· != 0)) else .bytes bs) := by
  rw [normalize_of_ne_null (by simp), mysql_convert, Option.getD_some]
  unfold convert
  generalize typeKey t = key
  split
  · next hv =>
    cases hv
    rfl
  · next hv => cases hv
  · next hkey _ => rw [if_neg fun h => hkey bs h rfl]

theorem normalize_bits (bs : List UInt8) :
    mysql.normalize (some "BIT") (.bytes bs) =
      .ok (.bool (decide (256 ^ (bs.length - 1) ≤ bigEndian bs))) := by
  have hkey : typeKey "BIT" = "BIT" := by decide
  have hfirst : bs.head?.any (· != 0) = decide (256 ^ (bs.length - 1) ≤ bigEndian bs) :=
    Bool.eq_iff_iff.2 ((head?_ne_zero_iff bs).trans decide_eq_true_iff.symm)
  rw [normalize_bytes, if_pos hkey, hfirst]

theorem normalize_small (n : Int) :
    mysql.normalize (some "TINYINT") (.int n) = .ok (.bool (decide (n ≠ 0))) := by
  have hkey : typeKey "TINYINT" = "TINYINT" := by decide
  have hn : (n != 0) = decide (n ≠ 0) := Bool.eq_iff_iff.2 (by simp)
  rw [normalize_int, if_pos hkey, hn]

end MySql

/-- Bits that come as bytes become a truth value by the first byte alone: it is true if the number
that they encode needs all of them. So it says whether that number is other than zero, as a column
of small integers does for the number itself, unless the number is positive and has a byte to
spare. -/
theorem mysql_bits_truth_iff (bs : List UInt8) :
    mysql.normalize (some "BIT") (.bytes bs) =
        .ok (.bool (decide (256 ^ (bs.length - 1) ≤ bigEndian bs))) ∧
      ((mysql.normalize (some "BIT") (.bytes bs) = .ok (.bool true) ↔ bigEndian bs ≠ 0) ↔
        bigEndian bs = 0 ∨ 256 ^ (bs.length - 1) ≤ bigEndian bs) ∧
      (mysql.normalize (some "BIT") (.bytes bs) =
          mysql.normalize (some "TINYINT") (.int (bigEndian bs)) ↔
        bigEndian bs = 0 ∨ 256 ^ (bs.length - 1) ≤ bigEndian bs) := by
  have hpos : 0 < 256 ^ (bs.length - 1) := Nat.pow_pos (by decide)
  have hneeded : (256 ^ (bs.length - 1) ≤ bigEndian bs ↔ bigEndian bs ≠ 0) ↔
      bigEndian bs = 0 ∨ 256 ^ (bs.length - 1) ≤ bigEndian bs := by omega
  refine ⟨MySql.normalize_bits bs, ?_, ?_⟩
  · rw [MySql.normalize_bits, ← hneeded]
    simp
  · rw [MySql.normalize_bits, MySql.normalize_small, ← hneeded, Except.ok.injEq,
      Value.bool.injEq, decide_eq_decide, Nat.cast_ne_zero]

/-- Two bytes that encode one: the first is zero, so they are false, and the number is true. -/
theorem mysql_bits_second_byte :
    mysql.normalize (some "BIT") (.bytes [0, 1]) = .ok (.bool false) ∧
      bigEndian [0, 1] = 1 ∧
      mysql.normalize (some "TINYINT") (.int 1) = .ok (.bool true) := by
  have hkey : MySql.typeKey "BIT" = "BIT" := by decide
  refine ⟨?_, by decide, MySql.normalize_small 1⟩
  rw [MySql.normalize_bytes, if_pos hkey]
  rfl

end SemanticLayer.Dialect
