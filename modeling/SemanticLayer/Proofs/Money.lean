import Mathlib.Tactic.Linarith
import SemanticLayer.Proofs.Normalization
import SemanticLayer.Proofs.Rounding

/-!
# Amounts of money

PostgreSQL writes an amount of money as a text: digits in groups, perhaps with a point, the symbol
of a currency, and a minus sign or parentheses if the amount is negative. `AmountText` has the parts
of such a text, and `money_text_exact_iff` says which texts are read as the amount that they show.

* All characters but digits, points and minus signs are dropped, and what is left is a numeral
  (`ofText?_core`). It is read as it stands, with any number of digits.
* Parentheses count if nothing but blanks is around them (`ends_iff`). The sign is changed then,
  which is an operation on decimals and rounds its result, so the amount has to be one that a result
  can be. A symbol outside the parentheses takes the sign away.
-/

namespace SemanticLayer

open Dialect.PostgreSql (countsInMoney moneyOfText)
open Number
open Text (isBlank trim)

theorem Number.ofDigits_append (cs ds : List Char) :
    ofDigits (cs ++ ds) = ofDigits cs * 10 ^ ds.length + ofDigits ds := by
  rw [ofDigits_eq, Nat.ofDigitChars_append, Nat.ofDigitChars_eq_ofDigitChars_zero, ofDigits_eq,
    ofDigits_eq, Nat.mul_comm]

/-! ## Texts of amounts -/

/-- How an amount shows whether it is negative. -/
inductive SignMark where
  | unsigned
  | minus
  | parentheses
  deriving DecidableEq

namespace SignMark

/-- What a mark puts in front of an amount. -/
def opening : SignMark → List Char
  | unsigned => []
  | minus => ['-']
  | parentheses => ['(']

/-- What a mark puts behind an amount. -/
def closing : SignMark → List Char
  | parentheses => [')']
  | _ => []

end SignMark

/-- Where the symbol of a currency stands: in front of the digits or behind them, and inside or
outside the mark of the sign. -/
inductive SymbolPlace where
  | outerFront
  | innerFront
  | innerBack
  | outerBack
  deriving DecidableEq

/-- The parts of the text of an amount. -/
structure AmountText where
  mark : SignMark
  /-- The symbol of the currency, or nothing. -/
  symbol : List Char
  place : SymbolPlace
  /-- The digits in front of the point, with commas anywhere between them. -/
  whole : List Char
  /-- The digits behind the point. Without them there is no point. -/
  fraction : List Char
  before : List Char
  after : List Char
  symbol_free : ∀ c ∈ symbol, countsInMoney c = false
  whole_char : ∀ c ∈ whole, isDigit c = true ∨ c = ','
  whole_digit : ∃ c ∈ whole, isDigit c = true
  fraction_digit : ∀ c ∈ fraction, isDigit c = true
  before_blank : ∀ c ∈ before, isBlank c = true
  after_blank : ∀ c ∈ after, isBlank c = true

namespace AmountText

variable (a : AmountText)

/-- The symbol, if it stands at a place. -/
def symbolAt (p : SymbolPlace) : List Char := if a.place = p then a.symbol else []

/-- The amount without the symbol and the sign. -/
def number : List Char := a.whole ++ pointed a.fraction

/-- The amount without blanks around it. -/
def core : List Char :=
  a.symbolAt .outerFront ++ (a.mark.opening ++ (a.symbolAt .innerFront ++ (a.number ++
    (a.symbolAt .innerBack ++ (a.mark.closing ++ a.symbolAt .outerBack)))))

/-- The text of the amount. -/
def text : String := String.ofList (a.before ++ (a.core ++ a.after))

/-- The digits in front of the point. -/
def digits : List Char := a.whole.filter isDigit

/-- The amount without its sign. -/
def amount : ℚ := ofDigits a.digits + ofDigits a.fraction / 10 ^ a.fraction.length

/-- The amount that the text shows. -/
def value : ℚ := if a.mark = .unsigned then a.amount else -a.amount

/-- The digits as a decimal with a sign. -/
def shown (negative : Bool) : Decimal :=
  .finite negative (ofDigits (a.digits ++ a.fraction)) (-a.fraction.length)

/-- The parentheses are the first and the last character, blanks aside: no symbol stands outside
them, unless it begins or ends with a parenthesis itself. -/
def Enclosed : Prop :=
  (∀ c, (a.symbolAt .outerFront).find? (fun c => !isBlank c) = some c → c = '(') ∧
    ∀ c, (a.symbolAt .outerBack).reverse.find? (fun c => !isBlank c) = some c → c = ')'

variable {a}

/-! ## What is left of a text -/

theorem countsInMoney_of_isDigit {c : Char} (h : isDigit c = true) : countsInMoney c = true := by
  simp [countsInMoney, h]

theorem isNumeralChar_of_countsInMoney {c : Char} (h : countsInMoney c = true) :
    isNumeralChar c = true := by
  simp only [countsInMoney, Bool.or_eq_true, beq_iff_eq] at h
  rcases h with (h | rfl) | rfl
  · exact isNumeralChar_of_isDigit h
  · decide
  · decide

theorem countsInMoney_of_isBlank (c : Char) (h : isBlank c = true) :
    countsInMoney c = false := by
  by_contra hcounts
  have := (ne_of_isNumeralChar (isNumeralChar_of_countsInMoney (by simpa using hcounts))).1
  rw [this] at h
  cases h

theorem filter_symbolAt (p : SymbolPlace) : (a.symbolAt p).filter countsInMoney = [] := by
  unfold symbolAt
  split_ifs
  · exact List.filter_eq_nil_iff.2 fun c hc => by simp [a.symbol_free c hc]
  · rfl

theorem filter_number : a.number.filter countsInMoney = a.digits ++ pointed a.fraction := by
  have hwhole : a.whole.filter countsInMoney = a.digits := by
    refine List.filter_congr fun c hc => ?_
    rcases a.whole_char c hc with hdigit | rfl
    · rw [hdigit, countsInMoney_of_isDigit hdigit]
    · decide
  have hfraction : (pointed a.fraction).filter countsInMoney = pointed a.fraction := by
    refine List.filter_eq_self.2 fun c hc => ?_
    unfold pointed at hc
    split_ifs at hc
    · cases hc
    · rcases List.mem_cons.1 hc with rfl | hc
      · decide
      · exact countsInMoney_of_isDigit (a.fraction_digit c hc)
  rw [number, List.filter_append, hwhole, hfraction]

theorem filter_core :
    a.core.filter countsInMoney =
      signChars (a.mark == .minus) ++ (a.digits ++ pointed a.fraction) := by
  have hopening : a.mark.opening.filter countsInMoney = signChars (a.mark == .minus) := by
    cases a.mark <;> decide
  have hclosing : a.mark.closing.filter countsInMoney = [] := by
    cases a.mark <;> decide
  simp only [core, List.filter_append, filter_symbolAt, filter_number, hopening, hclosing,
    List.nil_append, List.append_nil]

theorem trim_text : trim a.text.toList = trim a.core := by
  rw [text, String.toList_ofList, Text.trim_blanks_append a.before_blank,
    Text.trim_append_blanks a.after_blank]

theorem isDigit_of_mem_digits {c : Char} (h : c ∈ a.digits) : isDigit c = true :=
  (List.mem_filter.1 h).2

theorem digits_ne_nil : a.digits ≠ [] := by
  obtain ⟨c, hc, hdigit⟩ := a.whole_digit
  exact List.ne_nil_of_mem (List.mem_filter.2 ⟨hc, hdigit⟩)

/-- What is left is read as a numeral: all digits count, and the point lowers the exponent. -/
theorem ofText?_core :
    Decimal.ofText? (String.ofList (a.core.filter countsInMoney)) =
      some (a.shown (a.mark == .minus)) := by
  have htail : ∀ c ∈ ([] : List Char).head?, isDigit c = false ∧ c ≠ '.' := by simp
  have hread := Scientific.ofChars?_numeral (a.mark == .minus) (digits_ne_nil (a := a))
    (fun c hc => isDigit_of_mem_digits hc) a.fraction_digit htail rfl
  rw [List.append_nil, Int.zero_sub] at hread
  rw [filter_core]
  refine Decimal.ofText?_of_numeral (fun c hc => ?_) hread
  rw [← filter_core] at hc
  exact ne_of_isNumeralChar (isNumeralChar_of_countsInMoney (List.mem_filter.1 hc).2)

/-- The digits on both sides of the point are those of one number. -/
theorem amount_eq :
    a.amount = ofDigits (a.digits ++ a.fraction) * 10 ^ (-a.fraction.length : Int) := by
  rw [amount, ofDigits_append, Nat.cast_add, Nat.cast_mul, Nat.cast_pow, zpow_neg, zpow_natCast,
    add_mul, mul_assoc, Nat.cast_ofNat, mul_inv_cancel₀ (pow_ne_zero _ (by norm_num)), mul_one,
    div_eq_mul_inv]

/-! ## Parentheses -/

/-- The digits of an amount stand between its ends: no parenthesis is the first or the last of
their characters, and none of these is a blank. -/
theorem number_ends :
    (∃ c, a.number.find? (fun c => !isBlank c) = some c ∧ c ≠ '(') ∧
      ∃ c, a.number.reverse.find? (fun c => !isBlank c) = some c ∧ c ≠ ')' := by
  have hchar : ∀ c ∈ a.number, isBlank c = false ∧ c ≠ '(' ∧ c ≠ ')' := by
    intro c hc
    rcases List.mem_append.1 hc with hc | hc
    · rcases a.whole_char c hc with hdigit | rfl
      · refine ⟨(ne_of_isNumeralChar (isNumeralChar_of_isDigit hdigit)).1, ?_, ?_⟩ <;>
          rintro rfl <;> exact absurd hdigit (by decide)
      · decide
    · have hnumeral := isNumeralChar_of_mem_pointed a.fraction_digit hc
      refine ⟨(ne_of_isNumeralChar hnumeral).1, ?_, ?_⟩ <;>
        rintro rfl <;> exact absurd hnumeral (by decide)
  have hne : a.number ≠ [] := by
    obtain ⟨c, hc, -⟩ := a.whole_digit
    exact List.ne_nil_of_mem (List.mem_append_left _ hc)
  have hfind (cs : List Char) (hcs : ∀ c ∈ cs, c ∈ a.number) (hne : cs ≠ []) :
      ∃ c ∈ a.number, cs.find? (fun c => !isBlank c) = some c := by
    obtain ⟨c, cs, rfl⟩ := List.exists_cons_of_ne_nil hne
    have hc := hcs c List.mem_cons_self
    exact ⟨c, hc, List.find?_cons_of_pos (by simp [(hchar c hc).1])⟩
  obtain ⟨c, hc, hfirst⟩ := hfind a.number (fun c hc => hc) hne
  obtain ⟨d, hd, hlast⟩ := hfind a.number.reverse (fun c hc => List.mem_reverse.1 hc)
    (fun h => hne (List.reverse_eq_nil_iff.1 h))
  exact ⟨⟨c, hfirst, (hchar c hc).2.1⟩, d, hlast, (hchar d hd).2.2⟩

/-- Without parentheses of its own an amount has a digit or a sign at one end at least, since the
symbol stands at the other. -/
theorem ends_of_mark_ne (h : a.mark ≠ .parentheses) :
    (trim a.core).head? ≠ some '(' ∨ (trim a.core).getLast? ≠ some ')' := by
  obtain ⟨⟨c, hc, hopen⟩, d, hd, hclose⟩ := a.number_ends
  have hclosing : a.mark.closing = [] := by
    cases hm : a.mark <;> first | rfl | exact absurd hm h
  rw [Text.head?_trim_eq, Text.getLast?_trim_eq]
  by_cases hfront : a.place = .outerFront ∨ a.place = .innerFront
  · right
    have hback : a.symbolAt .innerBack = [] ∧ a.symbolAt .outerBack = [] := by
      rcases hfront with hp | hp <;> simp [symbolAt, hp]
    simpa [core, hclosing, hback, List.find?_append, hd] using hclose
  · left
    have hnone : a.symbolAt .outerFront = [] ∧ a.symbolAt .innerFront = [] := by
      simp only [not_or] at hfront
      simp [symbolAt, hfront]
    cases hm : a.mark with
    | unsigned => simpa [core, hm, SignMark.opening, hnone, List.find?_append, hc] using hopen
    | minus =>
      have hsign : isBlank '-' = false := by decide
      simp [core, hm, SignMark.opening, hnone, hsign]
    | parentheses => exact absurd hm h

/-- Something in front of a parenthesis hides it, unless it is one itself. -/
theorem or_some_eq_some_iff {o : Option Char} {c : Char} :
    o.or (some c) = some c ↔ ∀ d, o = some d → d = c := by
  cases o <;> simp

theorem ends_of_parentheses (h : a.mark = .parentheses) :
    (trim a.core).head? = some '(' ∧ (trim a.core).getLast? = some ')' ↔ a.Enclosed := by
  have hopen : isBlank '(' = false := by decide
  have hclose : isBlank ')' = false := by decide
  rw [Text.head?_trim_eq, Text.getLast?_trim_eq, Enclosed, ← or_some_eq_some_iff,
    ← or_some_eq_some_iff]
  simp [core, h, SignMark.opening, SignMark.closing, List.find?_append, hopen, hclose]

/-- When a text counts as one in parentheses. -/
theorem ends_iff :
    ((trim a.core).head? == some '(' && (trim a.core).getLast? == some ')') = true ↔
      a.mark = .parentheses ∧ a.Enclosed := by
  rw [Bool.and_eq_true, beq_iff_eq, beq_iff_eq]
  constructor
  · intro hends
    by_cases hm : a.mark = .parentheses
    · exact ⟨hm, (ends_of_parentheses hm).1 hends⟩
    · rcases ends_of_mark_ne hm with h | h
      · exact absurd hends.1 h
      · exact absurd hends.2 h
  · rintro ⟨hm, henclosed⟩
    exact (ends_of_parentheses hm).2 henclosed

/-! ## Reading -/

theorem value_shown (negative : Bool) :
    (a.shown negative).value = some (if negative then -a.amount else a.amount) := by
  rw [shown, Decimal.value, amount_eq]
  cases negative <;> simp

theorem moneyOfText_text :
    moneyOfText a.text =
      (if (trim a.core).head? == some '(' && (trim a.core).getLast? == some ')' then
        (a.shown (a.mark == .minus)).negated? else some (a.shown (a.mark == .minus))).elim
          (.error .overflow) fun d => .ok (.decimal d) := by
  have hread : Decimal.ofText? (String.ofList ((trim a.text.toList).filter countsInMoney)) =
      some (a.shown (a.mark == .minus)) := by
    rw [trim_text, Text.filter_trim countsInMoney_of_isBlank, ofText?_core]
  unfold moneyOfText
  simp only [hread]
  rw [trim_text]
  split
  · next hd => rw [hd, Option.elim_some]
  · next hnone => rw [hnone, Option.elim_none]

/-- An amount in parentheses is read without its sign, which is then changed. -/
theorem moneyOfText_of_enclosed (hm : a.mark = .parentheses) (h : a.Enclosed) :
    moneyOfText a.text =
      (a.shown false).negated?.elim (.error .overflow) fun d => .ok (.decimal d) := by
  have hminus : (a.mark == .minus) = false := by
    rw [hm]
    rfl
  rw [moneyOfText_text, if_pos (ends_iff.2 ⟨hm, h⟩), hminus]

/-- Any other amount is read as it stands. -/
theorem moneyOfText_of_not_enclosed (h : ¬(a.mark = .parentheses ∧ a.Enclosed)) :
    moneyOfText a.text = .ok (.decimal (a.shown (a.mark == .minus))) := by
  rw [moneyOfText_text, if_neg (mt ends_iff.1 h), Option.elim_some]

theorem normalize_text :
    Dialect.postgresql.normalize (some "money") (.string a.text) =
      moneyOfText a.text := by
  have hkey : Dialect.PostgreSql.typeKey "money" = "money" := by decide
  rw [Dialect.normalize_of_ne_null (by simp), Dialect.postgresql_convert, Option.getD_some,
    Dialect.PostgreSql.convert_of_money hkey, Dialect.PostgreSql.money_string]

theorem value_of_parentheses (hm : a.mark = .parentheses) : a.value = -a.amount :=
  if_neg (by rw [hm]; decide)

/-- The sign of an amount in parentheses is changed without a loss if the amount is one that a
result can be. -/
theorem exact_of_enclosed_iff (hm : a.mark = .parentheses) (h : a.Enclosed) :
    (∃ d : Decimal, moneyOfText a.text = .ok (.decimal d) ∧ d.value = some a.value) ↔
      Decimal.Representable a.amount := by
  rw [moneyOfText_of_enclosed hm h, value_of_parentheses hm, amount_eq,
    ← Decimal.negated?_exact_iff, shown]
  refine exists_congr fun d => and_congr_left' ?_
  cases Decimal.negated? _ <;> simp

/-- Parentheses that are not noticed leave an amount without a sign. -/
theorem exact_of_not_enclosed_iff (hm : a.mark = .parentheses) (h : ¬a.Enclosed) :
    (∃ d : Decimal, moneyOfText a.text = .ok (.decimal d) ∧ d.value = some a.value) ↔
      a.amount = 0 := by
  have hvalue : (a.shown (a.mark == .minus)).value = some a.amount := by
    rw [value_shown, hm]
    rfl
  rw [moneyOfText_of_not_enclosed fun henclosed => h henclosed.2, value_of_parentheses hm]
  constructor
  · rintro ⟨d, hd, hdvalue⟩
    cases hd
    rw [hvalue, Option.some.injEq] at hdvalue
    linarith
  · intro hzero
    exact ⟨_, rfl, by rw [hvalue, hzero, neg_zero]⟩

/-- With a minus sign or without a sign nothing is lost, whatever the digits. -/
theorem exact_of_mark_ne (hm : a.mark ≠ .parentheses) :
    ∃ d : Decimal, moneyOfText a.text = .ok (.decimal d) ∧ d.value = some a.value := by
  refine ⟨_, moneyOfText_of_not_enclosed fun h => hm h.1, ?_⟩
  rw [value_shown, value]
  cases h : a.mark with
  | unsigned => rfl
  | minus => rfl
  | parentheses => exact absurd h hm

end AmountText

open AmountText in
/-- An amount is read as the one that the text shows if a minus sign or nothing shows its sign,
whatever its digits. In parentheses it has to be zero, or the parentheses have to be around all of
the text and the amount one that is left as it is where results are rounded. -/
theorem money_text_exact_iff (a : AmountText) :
    (∃ d : Decimal,
      Dialect.postgresql.normalize (some "money") (.string a.text) = .ok (.decimal d) ∧
        d.value = some a.value) ↔
      a.mark ≠ .parentheses ∨ a.amount = 0 ∨ a.Enclosed ∧ Decimal.Representable a.amount := by
  rw [normalize_text]
  by_cases hm : a.mark = .parentheses
  · rw [or_iff_right (not_not.2 hm)]
    by_cases henclosed : a.Enclosed
    · -- zero is among the amounts that are left as they are
      have hzero : a.amount = 0 → Decimal.Representable a.amount := by
        intro h
        rw [h]
        exact Decimal.representable_zero
      rw [exact_of_enclosed_iff hm henclosed, and_iff_right henclosed, or_iff_right_of_imp hzero]
    · rw [exact_of_not_enclosed_iff hm henclosed, or_iff_left fun h => henclosed h.1]
  · exact iff_of_true (exact_of_mark_ne hm) (.inl hm)

/-- An amount in parentheses with blanks, a symbol and a comma. -/
def AmountText.refund : AmountText where
  mark := .parentheses
  symbol := ['$']
  place := .innerFront
  whole := ['1', ',', '2', '3', '4']
  fraction := ['5', '0']
  before := [' ']
  after := []
  symbol_free := List.forall_mem_singleton.2 (by decide)
  whole_char := List.all_iff_forall_prop.1 (by decide)
  whole_digit := ⟨'1', by decide⟩
  fraction_digit := List.all_iff_forall_prop.1 (by decide)
  before_blank := List.forall_mem_singleton.2 (by decide)
  after_blank := List.forall_mem_nil _

open AmountText in
theorem refund_exact :
    refund.text = " ($1,234.50)" ∧ refund.value = -1234.5 ∧
      ∃ d : Decimal,
        Dialect.postgresql.normalize (some "money") (.string refund.text) = .ok (.decimal d) ∧
          d.value = some refund.value := by
  have hdigits : ofDigits refund.digits = 1234 := by decide
  have hfraction : ofDigits refund.fraction = 50 := by decide
  have hamount : refund.amount = 1234.5 := by
    rw [AmountText.amount, hdigits, hfraction]
    norm_num [refund]
  have henclosed : refund.Enclosed := by
    constructor <;> simp [AmountText.symbolAt, refund]
  have hsmall : (1234.5 : ℚ) < 10 ^ (Decimal.topExponent + 1) :=
    calc (1234.5 : ℚ) < 10 ^ (4 : ℤ) := by norm_num
      _ ≤ 10 ^ (Decimal.topExponent + 1) := zpow_le_zpow_right₀ (by norm_num) (by decide)
  have hvalue : refund.value = -1234.5 := by
    rw [AmountText.value, hamount]
    rfl
  refine ⟨by decide, hvalue, (money_text_exact_iff refund).2 (.inr (.inr ⟨henclosed, ?_⟩))⟩
  rw [hamount]
  exact ⟨12345, -1, by decide, by decide, by norm_num, hsmall⟩

/-- An amount of twenty-nine digits in parentheses loses the last one. -/
theorem money_long_amount_rounded :
    Dialect.postgresql.normalize (some "money") (.string "(12345678901234567890123456789)") =
        .ok (.decimal (.finite true 1234567890123456789012345679 1)) ∧
      (Decimal.finite true 1234567890123456789012345679 1).value ≠
        some (-12345678901234567890123456789) := by
  refine ⟨by rfl, ?_⟩
  rw [Decimal.value, ne_eq, Option.some.injEq]
  norm_num

end SemanticLayer
