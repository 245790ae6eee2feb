import Mathlib.Data.Bool.AllAny
import Mathlib.Algebra.Field.Rat
import SemanticLayer.Number.Decimal
import SemanticLayer.Proofs.Trimming

/-!
# Decimals and their texts

The text of a decimal is read as the same decimal: sign, digits and exponent (`ofText?_toText`). The
digits of the coefficient may have a point among them, or zeros and a point in front, and there may
be an exponent. Whatever the form, the text is a numeral (`Scientific.ofChars?_numeral`): digits,
perhaps a point and digits, perhaps an exponent, and the exponent makes up for the place of the
point.

The value of a decimal is a rational number. Decimals with a different number of zeros at the end
have the same value, so whether a decimal is a whole number cannot be told from its exponent alone.
-/

namespace SemanticLayer.Number

variable {c : Char} {cs ds es : List Char} {n : Nat}

/-! ## Digits -/

theorem isDigit_iff : isDigit c = true ↔ 48 ≤ c.toNat ∧ c.toNat ≤ 57 := by
  simp [isDigit, Char.le_def, UInt32.le_iff_toNat_le, ← Char.toNat_val]

theorem isDigit_of_mem_toDigits (h : c ∈ toDigits n) : isDigit c = true := by
  rw [toDigits, Nat.toString_eq_repr, Nat.toList_repr] at h
  have := Nat.isDigit_of_mem_toDigits (by decide) (by decide) h
  exact isDigit_iff.2 (Char.isDigit_iff_toNat.1 this)

theorem toDigits_ne_nil (n : Nat) : toDigits n ≠ [] := by
  rw [toDigits, Nat.toString_eq_repr, Nat.toList_repr]
  exact Nat.toDigits_ne_nil

theorem ofDigits_eq : ofDigits cs = Nat.ofDigitChars 10 cs 0 := rfl

@[simp] theorem ofDigits_toDigits (n : Nat) : ofDigits (toDigits n) = n := by
  rw [ofDigits_eq, toDigits, Nat.toString_eq_repr, Nat.toList_repr]
  exact Nat.ofDigitChars_toDigits (by decide) (by decide)

/-- Zeros in front do not change a number. -/
theorem ofDigits_zeros_append (k : Nat) : ofDigits (List.replicate k '0' ++ ds) = ofDigits ds := by
  rw [ofDigits_eq, Nat.ofDigitChars_append, Nat.ofDigitChars_replicate_zero, Nat.mul_zero,
    ofDigits_eq]

/-- Digits are cut off in front of something that is none. -/
theorem spanDigits_append (hds : ∀ c ∈ ds, isDigit c = true)
    (hcs : ∀ c ∈ cs.head?, isDigit c = false) : spanDigits (ds ++ cs) = (ds, cs) := by
  have hstop : cs.takeWhile isDigit = [] ∧ cs.dropWhile isDigit = cs := by
    cases cs with
    | nil => exact ⟨rfl, rfl⟩
    | cons c cs => simp [hcs c rfl]
  rw [spanDigits, List.takeWhile_append_of_pos hds, List.dropWhile_append_of_pos hds, hstop.1,
    hstop.2, List.append_nil]

/-! ## Numerals -/

def isNumeralChar (c : Char) : Bool := isDigit c || ['.', '-', '+', 'E'].contains c

theorem isNumeralChar_of_isDigit (h : isDigit c = true) : isNumeralChar c = true := by
  simp [isNumeralChar, h]

theorem ne_of_isNumeralChar (h : isNumeralChar c = true) : Text.isBlank c = false ∧ c ≠ '_' := by
  rw [isNumeralChar, Bool.or_eq_true, isDigit_iff, List.contains_iff_mem] at h
  rcases h with ⟨hlow, hhigh⟩ | hmark
  · refine ⟨?_, ?_⟩
    · rw [Text.isBlank, Text.inRanges, List.any_eq_false]
      intro r hr
      have hfar : ∀ r ∈ Text.blankRanges, r.2 < 48 ∨ 57 < r.1 := by decide
      have := hfar r hr
      simp only [Bool.and_eq_true, decide_eq_true_eq]
      omega
    · rintro rfl
      exact absurd hhigh (by decide)
  · have hmarks : ∀ c ∈ ['.', '-', '+', 'E'], Text.isBlank c = false ∧ c ≠ '_' :=
      List.all_iff_forall_prop.1 (by decide)
    exact hmarks c hmark

/-- A minus sign for a negative number. -/
def signChars (negative : Bool) : List Char := if negative then ['-'] else []

/-- The digits after a point, with the point. -/
def pointed (fraction : List Char) : List Char := if fraction = [] then [] else '.' :: fraction

theorem isNumeralChar_of_mem_signChars {negative : Bool} (hc : c ∈ signChars negative) :
    isNumeralChar c = true := by
  cases negative with
  | false => cases hc
  | true =>
    rw [List.mem_singleton.1 hc]
    decide

theorem isNumeralChar_of_mem_pointed (hds : ∀ c ∈ ds, isDigit c = true) (hc : c ∈ pointed ds) :
    isNumeralChar c = true := by
  unfold pointed at hc
  split_ifs at hc
  · cases hc
  · rcases List.mem_cons.1 hc with rfl | hc
    · decide
    · exact isNumeralChar_of_isDigit (hds c hc)

theorem splitSign_signChars {negative : Bool} (hcs : ∀ c ∈ cs.head?, c ≠ '-' ∧ c ≠ '+') :
    splitSign (signChars negative ++ cs) = (negative, cs) := by
  cases negative with
  | true => rfl
  | false =>
    cases cs with
    | nil => rfl
    | cons c cs => simp [signChars, splitSign, hcs c rfl]

/-- A numeral is read part by part: a sign, digits, perhaps a point and further digits, and an
exponent. The place of the point lowers the exponent. -/
theorem Scientific.ofChars?_numeral (negative : Bool) {whole fraction tail : List Char} {x : Int}
    (hne : whole ≠ []) (hwhole : ∀ c ∈ whole, isDigit c = true)
    (hfraction : ∀ c ∈ fraction, isDigit c = true)
    (htail : ∀ c ∈ tail.head?, isDigit c = false ∧ c ≠ '.') (hx : readExponent? tail = some x) :
    Scientific.ofChars? (signChars negative ++ (whole ++ (pointed fraction ++ tail))) =
      some ⟨negative, ofDigits (whole ++ fraction), x - fraction.length⟩ := by
  have hsign : splitSign (signChars negative ++ (whole ++ (pointed fraction ++ tail))) =
      (negative, whole ++ (pointed fraction ++ tail)) := by
    obtain ⟨d, ds, rfl⟩ := List.exists_cons_of_ne_nil hne
    have hd : isDigit d = true := hwhole d List.mem_cons_self
    apply splitSign_signChars
    rintro c ⟨⟩
    constructor <;> rintro rfl <;> exact absurd hd (by decide)
  have hrest : ∀ c ∈ tail.head?, isDigit c = false := fun c hc => (htail c hc).1
  by_cases hnone : fraction = []
  · have hwholeCut : spanDigits (whole ++ (pointed fraction ++ tail)) = (whole, tail) := by
      rw [pointed, if_pos hnone, List.nil_append]
      exact spanDigits_append hwhole hrest
    have hpoint : ¬ ∃ rest, tail = '.' :: rest := by
      rintro ⟨rest, rfl⟩
      exact (htail '.' rfl).2 rfl
    rw [Scientific.ofChars?, hsign]
    simp only [hwholeCut]
    split
    · next rest => exact absurd ⟨rest, rfl⟩ hpoint
    · simp [hne, hx, hnone]
  · have hwholeCut : spanDigits (whole ++ (pointed fraction ++ tail)) =
        (whole, '.' :: (fraction ++ tail)) := by
      rw [pointed, if_neg hnone, List.cons_append]
      exact spanDigits_append hwhole (by simp; decide)
    rw [Scientific.ofChars?, hsign]
    simp only [hwholeCut, spanDigits_append hfraction hrest]
    simp [hne, hx]

theorem readInt?_cons (hne : ds ≠ []) (hds : ∀ c ∈ ds, isDigit c = true) :
    readInt? ('-' :: ds) = some (-(ofDigits ds : Int)) ∧
      readInt? ('+' :: ds) = some (ofDigits ds : Int) := by
  have hguard : (ds.isEmpty || !ds.all isDigit) = false := by
    simp [hne, List.all_eq_true.2 hds]
  simp [readInt?, splitSign, hguard]

theorem toList_exponentText (x : Int) :
    (Decimal.exponentText x).toList = 'E' :: (if x < 0 then '-' else '+') :: toDigits x.natAbs := by
  by_cases hneg : x < 0 <;> simp [Decimal.exponentText, showInt, hneg, toDigits]

/-- The exponent of a numeral is read from its text. -/
theorem readExponent?_exponentText (x : Int) :
    readExponent? (Decimal.exponentText x).toList = some x := by
  have hread := readInt?_cons (toDigits_ne_nil x.natAbs) fun c hc => isDigit_of_mem_toDigits hc
  rw [ofDigits_toDigits] at hread
  rw [toList_exponentText, readExponent?, if_pos (by decide)]
  split_ifs with hneg
  · rw [hread.1]
    exact congrArg some (by omega)
  · rw [hread.2]
    exact congrArg some (by omega)

end SemanticLayer.Number

namespace SemanticLayer.Decimal

open Number

variable {d : Decimal} {ds : List Char} {s : String}

/-! ## Reading a text again -/

/-- A value that is no number keeps digits without zeros in front, as a number does. -/
def Canonical : Decimal → Prop
  | finite .. | infinite _ => True
  | nan _ _ payload => (∀ c ∈ payload, isDigit c = true) ∧ payload.head? ≠ some '0'

/-- Digits with a point among them, or with zeros and a point in front, are a numeral without an
exponent. -/
theorem placePoint_eq {place : Int} (hds : ∀ c ∈ ds, isDigit c = true) (hne : ds ≠ [])
    (hplace : place ≤ ds.length) :
    ∃ whole fraction, placePoint ds place = whole ++ pointed fraction ∧ whole ≠ [] ∧
      (∀ c ∈ whole, isDigit c = true) ∧ (∀ c ∈ fraction, isDigit c = true) ∧
      ofDigits (whole ++ fraction) = ofDigits ds ∧ (fraction.length : Int) = ds.length - place := by
  have hpos : 0 < ds.length := List.length_pos_iff.2 hne
  unfold placePoint
  split_ifs with hzero hlong
  · refine ⟨['0'], List.replicate place.natAbs '0' ++ ds, ?_, by simp, by simp; decide, ?_, ?_, ?_⟩
    · simp [pointed, hne]
    · intro c hc
      rcases List.mem_append.1 hc with hc | hc
      · rw [List.eq_of_mem_replicate hc]
        decide
      · exact hds c hc
    · have hzeros : ['0'] ++ (List.replicate place.natAbs '0' ++ ds) =
          List.replicate (place.natAbs + 1) '0' ++ ds := by simp [List.replicate_succ]
      rw [hzeros, ofDigits_zeros_append]
    · simp only [List.length_append, List.length_replicate]
      omega
  · obtain hall : place.natAbs = ds.length := by omega
    refine ⟨ds, [], by simp [pointed, hall], hne, hds, by simp, by simp, ?_⟩
    simp only [List.length_nil]
    omega
  · refine ⟨ds.take place.natAbs, ds.drop place.natAbs, ?_, ?_,
      fun c hc => hds c (List.mem_of_mem_take hc), fun c hc => hds c (List.mem_of_mem_drop hc),
      by rw [List.take_append_drop], ?_⟩
    · have hrest : ds.drop place.natAbs ≠ [] := by
        rw [ne_eq, List.drop_eq_nil_iff]
        omega
      rw [pointed, if_neg hrest]
    · rw [ne_eq, List.take_eq_nil_iff, not_or]
      exact ⟨by omega, hne⟩
    · rw [List.length_drop]
      omega

section Characters

variable {cs : List Char} (h : ∀ c ∈ cs, Text.isBlank c = false ∧ c ≠ '_')
include h

/-- A text of which no character is a blank or an underscore is read as it stands. -/
theorem withoutUnderscores_trim : withoutUnderscores (Text.trim cs) = cs := by
  have htrim : Text.trim cs = cs := Text.trim_eq_self
    (fun c hc => (h c (List.mem_of_mem_head? hc)).1)
    (fun c hc => (h c (List.mem_of_mem_getLast? hc)).1)
  rw [htrim]
  exact List.filter_eq_self.2 fun c hc => by simpa using (h c hc).2

theorem ofText?_of_numeral {n : Scientific} (hn : Scientific.ofChars? cs = some n) :
    ofText? (String.ofList cs) = some (.finite n.negative n.coefficient n.exponent) := by
  unfold ofText?
  rw [String.toList_ofList, withoutUnderscores_trim h]
  simp only [hn]

theorem ofText?_of_word {negative : Bool} {word : List Char} (hn : Scientific.ofChars? cs = none)
    (hsign : splitSign cs = (negative, word)) :
    ofText? (String.ofList cs) = ofWord? negative word := by
  unfold ofText?
  rw [String.toList_ofList, withoutUnderscores_trim h]
  simp only [hn, hsign]

end Characters

/-- What stands after the digits of a decimal: nothing, or an exponent. -/
def exponentChars (x : Int) : List Char := if x = 0 then [] else (exponentText x).toList

theorem readExponent?_exponentChars (x : Int) : readExponent? (exponentChars x) = some x := by
  unfold exponentChars
  split_ifs with hx
  · rw [hx, readExponent?]
  · exact readExponent?_exponentText x

theorem head?_exponentChars {x : Int} {c : Char} (hc : c ∈ (exponentChars x).head?) : c = 'E' := by
  unfold exponentChars at hc
  split_ifs at hc
  · simp at hc
  · simpa [toList_exponentText, eq_comm] using hc

theorem isNumeralChar_of_mem_exponentChars {x : Int} {c : Char} (hc : c ∈ exponentChars x) :
    isNumeralChar c = true := by
  unfold exponentChars at hc
  split_ifs at hc
  · simp at hc
  · rw [toList_exponentText, List.mem_cons, List.mem_cons] at hc
    rcases hc with rfl | rfl | hc
    · decide
    · split_ifs <;> decide
    · exact isNumeralChar_of_isDigit (isDigit_of_mem_toDigits hc)

/-- The text of a finite decimal: its digits with a point at some place, and an exponent that makes
up for the place. -/
theorem toText_finite (negative : Bool) (coefficient : Nat) (exponent : Int) :
    ∃ place ≤ ((toDigits coefficient).length : Int),
      toText (.finite negative coefficient exponent) =
        String.ofList (signChars negative ++ (placePoint (toDigits coefficient) place ++
          exponentChars (exponent + (toDigits coefficient).length - place))) := by
  have hlength : 0 < (toDigits coefficient).length := List.length_pos_iff.2 (toDigits_ne_nil _)
  rw [toText]
  generalize hbefore : exponent + ((toDigits coefficient).length : Int) = before
  generalize hplace : (if (decide (exponent ≤ 0) && decide (-6 < before)) = true then before
    else 1) = place
  refine ⟨place, ?_, ?_⟩
  · rw [← hplace]
    split_ifs with hplain
    · simp only [Bool.and_eq_true, decide_eq_true_eq] at hplain
      omega
    · omega
  · have hsign : (if negative = true then "-" else "") = String.ofList (signChars negative) := by
      cases negative <;> rfl
    have htail : (if (before == place) = true then "" else exponentText (before - place)) =
        String.ofList (exponentChars (before - place)) := by
      have hzero : before - place = 0 ↔ before = place := by omega
      simp only [exponentChars, beq_iff_eq, hzero]
      split_ifs <;> simp
    rw [hsign, htail, String.ofList_append, String.ofList_append, String.append_assoc]

theorem ofText?_toText_finite (negative : Bool) (coefficient : Nat) (exponent : Int) :
    ofText? (toText (.finite negative coefficient exponent)) =
      some (.finite negative coefficient exponent) := by
  obtain ⟨place, hplace, htext⟩ := toText_finite negative coefficient exponent
  obtain ⟨whole, fraction, hpoint, hne, hwhole, hfraction, hvalue, hlength⟩ :=
    placePoint_eq (fun c hc => isDigit_of_mem_toDigits hc) (toDigits_ne_nil coefficient) hplace
  generalize hx : exponent + ((toDigits coefficient).length : Int) - place = x at htext
  have hhead : ∀ c ∈ (exponentChars x).head?, isDigit c = false ∧ c ≠ '.' := by
    intro c hc
    rw [head?_exponentChars hc]
    decide
  have hread := Scientific.ofChars?_numeral negative hne hwhole hfraction hhead
    (readExponent?_exponentChars x)
  have hchars : ∀ c ∈ signChars negative ++ (whole ++ (pointed fraction ++ exponentChars x)),
      isNumeralChar c = true := by
    intro c hc
    simp only [List.mem_append] at hc
    rcases hc with hc | hc | hc | hc
    · exact isNumeralChar_of_mem_signChars hc
    · exact isNumeralChar_of_isDigit (hwhole c hc)
    · exact isNumeralChar_of_mem_pointed hfraction hc
    · exact isNumeralChar_of_mem_exponentChars hc
  rw [htext, hpoint, List.append_assoc,
    ofText?_of_numeral (fun c hc => ne_of_isNumeralChar (hchars c hc)) hread, hvalue,
    ofDigits_toDigits]
  have hexponent : x - fraction.length = exponent := by omega
  rw [hexponent]

theorem Scientific.ofChars?_eq_none {negative : Bool} {c : Char} {cs : List Char}
    (hc : isDigit c = false) (hmark : c ≠ '-' ∧ c ≠ '+' ∧ c ≠ '.') :
    Scientific.ofChars? (signChars negative ++ c :: cs) = none := by
  have hsign : splitSign (signChars negative ++ c :: cs) = (negative, c :: cs) :=
    splitSign_signChars (by rintro c ⟨⟩; exact ⟨hmark.1, hmark.2.1⟩)
  rw [Scientific.ofChars?, hsign]
  simp [spanDigits, hc, hmark.2.2]

theorem toLower_of_isDigit {c : Char} (h : isDigit c = true) : c.toLower = c := by
  have := isDigit_iff.1 h
  exact Text.toLower_eq_self (by omega)

/-- The word for a value that is no number. -/
def nanChars (signaling : Bool) : List Char := (if signaling then "sNaN" else "NaN").toList

/-- The word and the digits after it are read in lower case. -/
theorem ofWord?_nanChars {negative signaling : Bool} {payload : List Char}
    (hdigits : ∀ c ∈ payload, isDigit c = true) :
    ofWord? negative (nanChars signaling ++ payload) =
      some (.nan negative signaling (payload.dropWhile (· == '0'))) := by
  have hlower : payload.map Char.toLower = payload :=
    (List.map_congr_left fun c hc => toLower_of_isDigit (hdigits c hc)).trans (List.map_id _)
  have hword : (nanChars signaling).map Char.toLower =
      if signaling then "snan".toList else "nan".toList := by
    cases signaling <;> decide
  rw [ofWord?, List.map_append, hlower, hword]
  cases signaling <;> simp [List.all_eq_true.2 hdigits]

theorem toText_nan (negative signaling : Bool) (payload : List Char) :
    toText (.nan negative signaling payload) =
      String.ofList (signChars negative ++ (nanChars signaling ++ payload)) := by
  rw [toText, String.ofList_append, String.ofList_append, ← String.append_assoc]
  cases negative <;> cases signaling <;> rfl

theorem ofText?_toText_nan {negative signaling : Bool} {payload : List Char}
    (h : Canonical (.nan negative signaling payload)) :
    ofText? (toText (.nan negative signaling payload)) =
      some (.nan negative signaling payload) := by
  obtain ⟨hdigits, hhead⟩ := h
  have hzeros : payload.dropWhile (· == '0') = payload := by
    cases payload with
    | nil => rfl
    | cons c cs =>
      have hc : c ≠ '0' := fun hc => hhead (by rw [hc, List.head?_cons])
      simp [hc]
  have hchars : ∀ c ∈ signChars negative ++ (nanChars signaling ++ payload),
      Text.isBlank c = false ∧ c ≠ '_' := by
    intro c hc
    simp only [List.mem_append] at hc
    rcases hc with hc | hc | hc
    · exact ne_of_isNumeralChar (isNumeralChar_of_mem_signChars hc)
    · have hnan : ∀ c ∈ nanChars signaling, Text.isBlank c = false ∧ c ≠ '_' := by
        cases signaling <;> exact List.all_iff_forall_prop.1 (by decide)
      exact hnan c hc
    · exact ne_of_isNumeralChar (isNumeralChar_of_isDigit (hdigits c hc))
  have hnone :
      Scientific.ofChars? (signChars negative ++ (nanChars signaling ++ payload)) = none := by
    cases signaling <;> exact Scientific.ofChars?_eq_none (by decide) (by decide)
  have hsign : splitSign (signChars negative ++ (nanChars signaling ++ payload)) =
      (negative, nanChars signaling ++ payload) := by
    apply splitSign_signChars
    cases signaling <;> rintro c ⟨⟩ <;> decide
  rw [toText_nan, ofText?_of_word hchars hnone hsign, ofWord?_nanChars hdigits, hzeros]

/-- A decimal is read from its own text: its sign, its digits and its exponent. -/
theorem ofText?_toText (h : d.Canonical) : ofText? d.toText = some d := by
  cases d with
  | finite negative coefficient exponent => exact ofText?_toText_finite ..
  | infinite negative => cases negative <;> decide
  | nan negative signaling payload => exact ofText?_toText_nan h

theorem canonical_of_ofWord? {negative : Bool} {cs : List Char}
    (h : ofWord? negative cs = some d) : d.Canonical := by
  simp only [ofWord?] at h
  split at h
  · cases h
    trivial
  · split at h
    · next payload _ =>
      split_ifs at h with hall
      cases h
      refine ⟨fun c hc => List.all_eq_true.1 hall c ((List.dropWhile_sublist _).mem hc), ?_⟩
      intro hzero
      have := List.head?_dropWhile_not (· == '0') payload
      rw [hzero] at this
      simp at this
    · cases h

theorem canonical_of_ofText? (h : ofText? s = some d) : d.Canonical := by
  simp only [ofText?] at h
  split at h
  · cases h
    trivial
  · exact canonical_of_ofWord? h

theorem Canonical.negated? {d' : Decimal} (h : d.Canonical) (hd : d.negated? = some d') :
    d'.Canonical := by
  cases d with
  | finite negative coefficient exponent =>
    simp only [Decimal.negated?, rounded?] at hd
    split_ifs at hd <;> cases hd <;> trivial
  | infinite negative =>
    cases hd
    trivial
  | nan negative signaling payload =>
    cases hd
    exact h

/-! ## Values -/

/-- The number that a finite decimal stands for. -/
def value : Decimal → Option ℚ
  | finite negative coefficient exponent =>
    some ((if negative then -1 else 1) * coefficient * 10 ^ exponent)
  | infinite _ | nan .. => none

/-- The whole number for which a decimal with an exponent that is not negative is taken is its
value. -/
theorem toInt?_finite (negative : Bool) (coefficient k : Nat) :
    ∃ m : Int, toInt? (.finite negative coefficient k) = some m ∧
      value (.finite negative coefficient k) = some (m : ℚ) := by
  have hexponent : ¬ (k : Int) < 0 := by omega
  refine ⟨if negative then -(coefficient * Nat.pow 10 k) else coefficient * Nat.pow 10 k, ?_, ?_⟩
  · simp [toInt?, hexponent]
  · cases negative <;> simp [value]

/-- A decimal is taken for the whole number that is its value, unless its exponent is negative. -/
theorem toInt?_eq_some_iff {n : Int} :
    d.toInt? = some n ↔
      d.value = some (n : ℚ) ∧ ∃ negative coefficient exponent,
        d = .finite negative coefficient exponent ∧ 0 ≤ exponent := by
  cases d with
  | infinite negative => simp [toInt?]
  | nan negative signaling payload => simp [toInt?]
  | finite negative coefficient exponent =>
    by_cases hneg : exponent < 0
    · have hpos : ¬ 0 ≤ exponent := by omega
      simp [toInt?, hneg, hpos]
    · obtain ⟨k, rfl⟩ := Int.eq_ofNat_of_zero_le (Int.not_lt.1 hneg)
      obtain ⟨m, hint, hvalue⟩ := toInt?_finite negative coefficient k
      rw [hint, hvalue]
      simp

end SemanticLayer.Decimal
