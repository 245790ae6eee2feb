import Mathlib.Algebra.Order.Field.Power
import Mathlib.Data.Rat.Cast.Order
import Mathlib.Tactic.NormNum
import SemanticLayer.Proofs.Decimals

/-!
# Rounded decimals

The result of an operation on decimals keeps `precision` digits, none of them below the least
exponent. `rounded?_exact_iff` says when nothing is lost: exactly if the number can be written with
such digits at all (`Representable`), whatever zeros its coefficient ends with.

The argument goes through the last digit that is kept. Rounding is exact if, and only if, the digits
below it are zeros (`roundHalfEven_mul_eq_iff`). A number that can be written with few digits has
zeros there, since its first digit stands too high for the others to reach down
(`keptExponent_le`).
-/

namespace SemanticLayer.Number

variable {n d k : Nat}

/-! ## The length of a number -/

theorem length_toDigits_le_iff (hk : 0 < k) : (toDigits n).length ≤ k ↔ n < 10 ^ k := by
  rw [toDigits, Nat.toString_eq_repr, Nat.toList_repr]
  exact Nat.length_toDigits_le_iff (by decide) hk

theorem length_toDigits_pos (n : Nat) : 0 < (toDigits n).length :=
  List.length_pos_iff.2 (toDigits_ne_nil n)

theorem lt_pow_length_toDigits (n : Nat) : n < 10 ^ (toDigits n).length :=
  (length_toDigits_le_iff (length_toDigits_pos n)).1 le_rfl

theorem pow_le_of_lt_length (hn : n ≠ 0) (hk : k < (toDigits n).length) : 10 ^ k ≤ n := by
  rcases Nat.eq_zero_or_pos k with rfl | hpos
  · rw [Nat.pow_zero]
    omega
  · by_contra hlt
    have := (length_toDigits_le_iff hpos).2 (Nat.lt_of_not_le hlt)
    omega

/-! ## The nearest whole number -/

theorem roundHalfEven_of_dvd (h : d ∣ n) (hd : 0 < d) : roundHalfEven n d = n / d := by
  have hrest : n % d = 0 := Nat.mod_eq_zero_of_dvd h
  simp [roundHalfEven, hrest, hd]

/-- Nothing is lost exactly if there is no remainder. -/
theorem roundHalfEven_mul_eq_iff (hd : 0 < d) : roundHalfEven n d * d = n ↔ d ∣ n := by
  constructor
  · intro h
    exact Dvd.intro_left _ h
  · intro h
    rw [roundHalfEven_of_dvd h hd, Nat.div_mul_cancel h]

theorem roundHalfEven_le (h : n < k * d) : roundHalfEven n d ≤ k := by
  have hquotient : n / d < k := Nat.div_lt_of_lt_mul (by rwa [Nat.mul_comm])
  unfold roundHalfEven
  dsimp only
  split_ifs <;> omega

end SemanticLayer.Number

namespace SemanticLayer.Decimal

open Number

variable {c n : Nat} {e k : Int}

/-- The numbers without a sign that the result of an operation can be: `precision` digits suffice,
none of them is below the least exponent, and the first one is not above the top exponent. -/
def Representable (x : ℚ) : Prop :=
  ∃ m : Nat, ∃ k : Int,
    m < 10 ^ precision ∧ leastExponent ≤ k ∧ x = m * 10 ^ k ∧ x < 10 ^ (topExponent + 1)

/-! ## The first digit -/

theorem scaled_lt_zpow (n : Nat) (e : Int) :
    (n : ℚ) * 10 ^ e < 10 ^ (e + (toDigits n).length) := by
  have hn : (n : ℚ) < 10 ^ ((toDigits n).length : Int) := by
    exact_mod_cast lt_pow_length_toDigits n
  have hpos : (0 : ℚ) < 10 ^ e := zpow_pos (by norm_num) e
  calc (n : ℚ) * 10 ^ e
      < 10 ^ ((toDigits n).length : Int) * 10 ^ e := by gcongr
    _ = 10 ^ (e + (toDigits n).length) := by
      rw [← zpow_add₀ (by norm_num : (10 : ℚ) ≠ 0), Int.add_comm]

theorem zpow_le_scaled (hn : n ≠ 0) (e : Int) :
    (10 : ℚ) ^ (e + (toDigits n).length - 1) ≤ n * 10 ^ e := by
  have hlength := length_toDigits_pos n
  obtain ⟨k, hk⟩ := Nat.exists_eq_add_of_lt hlength
  rw [Nat.zero_add] at hk
  have hle : (10 : ℚ) ^ (k : Int) ≤ n := by
    exact_mod_cast pow_le_of_lt_length (k := k) hn (by omega)
  have hpos : (0 : ℚ) < 10 ^ e := zpow_pos (by norm_num) e
  have hexponent : e + ((toDigits n).length : Int) - 1 = k + e := by omega
  calc (10 : ℚ) ^ (e + (toDigits n).length - 1)
      = 10 ^ (k : Int) * 10 ^ e := by
        rw [hexponent, zpow_add₀ (by norm_num : (10 : ℚ) ≠ 0)]
    _ ≤ n * 10 ^ e := by gcongr

/-- A number is below a power of ten if the exponent of its first digit is. -/
theorem scaled_lt_zpow_iff (hn : n ≠ 0) :
    (n : ℚ) * 10 ^ e < 10 ^ k ↔ e + (toDigits n).length - 1 < k := by
  have hten : (1 : ℚ) < 10 := by norm_num
  constructor
  · intro h
    exact (zpow_lt_zpow_iff_right₀ hten).1 ((zpow_le_scaled hn e).trans_lt h)
  · intro h
    exact (scaled_lt_zpow n e).trans_le ((zpow_le_zpow_iff_right₀ hten).2 (by omega))

/-! ## The last digit -/

theorem le_keptExponent (n : Nat) (e : Int) : e ≤ keptExponent n e := le_max_left ..

theorem leastExponent_le_keptExponent (n : Nat) (e : Int) : leastExponent ≤ keptExponent n e :=
  (le_max_right ..).trans (le_max_right ..)

theorem nearest_eq (n : Nat) (e : Int) :
    nearest n e = roundHalfEven n (10 ^ (keptExponent n e - e).toNat) := rfl

/-- Rounding up gives at most one digit too many. -/
theorem nearest_le (n : Nat) (e : Int) : nearest n e ≤ 10 ^ precision := by
  rw [nearest_eq]
  apply roundHalfEven_le
  have hlength : (toDigits n).length ≤ precision + (keptExponent n e - e).toNat := by
    have : e + (toDigits n).length - precision ≤ keptExponent n e :=
      (le_max_left ..).trans (le_max_right ..)
    omega
  rw [← Nat.pow_add]
  exact (lt_pow_length_toDigits n).trans_le (Nat.pow_le_pow_right (by decide) hlength)

/-- A number that can be written with few digits has no digits but zeros below the last one that is
kept. -/
theorem keptExponent_le {m : Nat} (hn : n ≠ 0) (hm : m < 10 ^ precision) (hk : leastExponent ≤ k)
    (h : (n : ℚ) * 10 ^ e = m * 10 ^ k) (hround : e < keptExponent n e) :
    keptExponent n e ≤ k := by
  have hfirst : e + (toDigits n).length - 1 < precision + k := by
    have hm' : (m : ℚ) < 10 ^ (precision : Int) := by exact_mod_cast hm
    have hpos : (0 : ℚ) < 10 ^ k := zpow_pos (by norm_num) k
    rw [← scaled_lt_zpow_iff hn, h, zpow_add₀ (by norm_num : (10 : ℚ) ≠ 0)]
    gcongr
  unfold keptExponent at hround ⊢
  omega

theorem pow_dvd_of_representable (hn : n ≠ 0) (h : Representable (n * 10 ^ e)) :
    10 ^ (keptExponent n e - e).toNat ∣ n := by
  obtain ⟨m, k, hm, hk, hvalue, -⟩ := h
  rcases (le_keptExponent n e).eq_or_lt with heq | hround
  · rw [← heq, Int.sub_self]
    exact one_dvd n
  · have hle := keptExponent_le hn hm hk hvalue hround
    -- The digits of `m` are those of `n` without the zeros.
    have hscaled : n = m * 10 ^ (k - e).toNat := by
      have hsplit : k = (k - e).toNat + e := by omega
      have hcancel : (n : ℚ) = m * 10 ^ ((k - e).toNat : Int) := by
        have hne : (10 : ℚ) ^ e ≠ 0 := zpow_ne_zero e (by norm_num)
        apply mul_right_cancel₀ hne
        rw [hvalue, mul_assoc, ← zpow_add₀ (by norm_num : (10 : ℚ) ≠ 0), ← hsplit]
      exact_mod_cast hcancel
    calc 10 ^ (keptExponent n e - e).toNat
        ∣ 10 ^ (k - e).toNat := Nat.pow_dvd_pow 10 (by omega)
      _ ∣ m * 10 ^ (k - e).toNat := Nat.dvd_mul_left ..
      _ = n := hscaled.symm

/-! ## Rounding -/

/-- What rounding gives: the nearest coefficient, with one zero less if it has a digit too many, and
nothing if the first digit is too high. -/
theorem rounded?_eq (negative : Bool) (n : Nat) (e : Int) :
    ∃ (c : Nat) (k : Int), c < 10 ^ precision ∧ leastExponent ≤ k ∧
      (c : ℚ) * 10 ^ k = nearest n e * 10 ^ keptExponent n e ∧
      rounded? negative n e = if topExponent < k + (toDigits c).length - 1 then none
        else some (.finite negative c k) := by
  have hleast := leastExponent_le_keptExponent n e
  unfold rounded?
  by_cases hcarry : 10 ^ precision ≤ nearest n e
  · have hall : nearest n e = 10 ^ precision := Nat.le_antisymm (nearest_le n e) hcarry
    have htenth : nearest n e / 10 = 10 ^ 27 := by
      rw [hall]
      rfl
    have hten : (10 : ℚ) ≠ 0 := by norm_num
    refine ⟨10 ^ 27, keptExponent n e + 1, by decide, by omega, ?_, ?_⟩
    · calc ((10 ^ 27 : Nat) : ℚ) * 10 ^ (keptExponent n e + 1)
          = ((10 ^ 27 * 10 : Nat) : ℚ) * 10 ^ keptExponent n e := by
            rw [zpow_add_one₀ hten, Nat.cast_mul, mul_comm (10 ^ keptExponent n e), mul_assoc]
            rfl
        _ = nearest n e * 10 ^ keptExponent n e := by
            rw [hall]
            rfl
    · simp only [Nat.pow_eq, hcarry, decide_true, if_true, htenth]
  · refine ⟨nearest n e, keptExponent n e, Nat.lt_of_not_le hcarry, hleast, rfl, ?_⟩
    simp only [Nat.pow_eq, hcarry, decide_false, Bool.false_eq_true, if_false, Int.add_zero]

theorem ne_zero_of_scaled_eq (hn : n ≠ 0) (h : (c : ℚ) * 10 ^ k = n * 10 ^ e) : c ≠ 0 := by
  rintro rfl
  have hpos : (0 : ℚ) < 10 ^ e := zpow_pos (by norm_num) e
  simp [hn, hpos.ne'] at h

/-- The number is kept exactly if it can be written with the digits that a result has. -/
theorem rounded?_exact_iff (negative : Bool) (hn : n ≠ 0) :
    (∃ c k, rounded? negative n e = some (.finite negative c k) ∧
      (c : ℚ) * 10 ^ k = n * 10 ^ e) ↔ Representable (n * 10 ^ e) := by
  obtain ⟨c, k, hc, hk, hvalue, hrounded⟩ := rounded?_eq negative n e
  constructor
  · rintro ⟨c', k', hresult, hexact⟩
    rw [hrounded] at hresult
    split_ifs at hresult with htop
    obtain ⟨-, rfl, rfl⟩ := Decimal.finite.inj (Option.some.inj hresult)
    refine ⟨c, k, hc, hk, hexact.symm, ?_⟩
    rw [← hexact, scaled_lt_zpow_iff (ne_zero_of_scaled_eq hn hexact)]
    omega
  · intro h
    have hdvd := pow_dvd_of_representable hn h
    have hexact : (c : ℚ) * 10 ^ k = n * 10 ^ e := by
      have hmul := (roundHalfEven_mul_eq_iff (Nat.pow_pos (by decide))).2 hdvd
      have hsplit : keptExponent n e = (keptExponent n e - e).toNat + e := by
        have := le_keptExponent n e
        omega
      rw [hvalue, hsplit, zpow_add₀ (by norm_num : (10 : ℚ) ≠ 0), ← mul_assoc]
      congr 1
      exact_mod_cast hmul
    obtain ⟨-, -, -, -, -, hbelow⟩ := h
    rw [← hexact, scaled_lt_zpow_iff (ne_zero_of_scaled_eq hn hexact)] at hbelow
    exact ⟨c, k, by rw [hrounded, if_neg (by omega)], hexact⟩

theorem representable_zero : Representable 0 :=
  ⟨0, 0, by decide, by decide, by simp, zpow_pos (by norm_num) _⟩

/-- The other sign changes nothing else exactly if the number is one that a result can be. -/
theorem negated?_exact_iff (n : Nat) (e : Int) :
    (∃ d, negated? (.finite false n e) = some d ∧ d.value = some (-((n : ℚ) * 10 ^ e))) ↔
      Representable (n * 10 ^ e) := by
  by_cases hn : n = 0
  · subst hn
    rw [Nat.cast_zero, zero_mul, neg_zero]
    exact iff_of_true ⟨_, rfl, by simp [value]⟩ representable_zero
  · have hrounded : negated? (.finite false n e) = rounded? true n e := by simp [negated?, hn]
    rw [hrounded, ← rounded?_exact_iff true hn]
    constructor
    · rintro ⟨d, hd, hvalue⟩
      obtain ⟨c, k, -, -, -, hresult⟩ := rounded?_eq true n e
      rw [hresult] at hd
      split_ifs at hd with htop
      cases hd
      refine ⟨c, k, by rw [hresult, if_neg htop], ?_⟩
      simpa [value] using hvalue
    · rintro ⟨c, k, hresult, hvalue⟩
      exact ⟨_, hresult, by simp [value, hvalue]⟩

end SemanticLayer.Decimal
