import Mathlib.Algebra.Order.Field.Power
import Mathlib.Data.Nat.Digits.Defs
import Mathlib.Tactic.Linarith
import Mathlib.Tactic.Positivity
import SimControl.Decimal.Numeral
import SimControl.Proofs.Binary64

/-!
# The value of a numeral

A double and a numeral stand for exact values. Reading a numeral takes it apart and rounds, and where its value is
a natural number that number alone decides what it is rounded to: `Parts.ofDecimal?_of_value`. So `2e1`, `20.0`
and `+20` are read alike, and like the integer 20, also where the integer is no double.
-/

namespace SimControl

namespace Binary64

/-- The exact value of a double. -/
def value (x : Binary64) : ℚ :=
  (if x.negative then -1 else 1) * (x.units / one)

theorem ofInt?_natCast (m : Nat) : ofInt? m = ofUnits? false (m * one) 1 := by
  rw [ofInt?, Int.natAbs_natCast, decide_eq_false (by omega)]

/-- Only the quotient matters for its rounding. -/
theorem ofUnits?_mul (negative : Bool) (n : Nat) {d : Nat} (hd : 0 < d) :
    ofUnits? negative (n * d) d = ofUnits? negative n 1 := by
  have hround : ∀ k, roundHalfEven (n * d) (d * k) = roundHalfEven n k := by
    intro k
    unfold roundHalfEven
    simp only [Nat.mul_comm n d, Nat.mul_div_mul_left _ _ hd, Nat.mul_mod_mul_left, Nat.mul_left_comm 2 d,
      Nat.mul_lt_mul_left hd]
    rcases Nat.lt_trichotomy (2 * (n % k)) k with hlt | heq | hlt
    · simp [hlt]
    · simp [heq]
    · have hne : d * (2 * (n % k)) ≠ d * k := fun h => by
        have := Nat.eq_of_mul_eq_mul_left hd h
        omega
      simp [hne, Nat.ne_of_gt hlt]
  unfold ofUnits?
  simp only [Nat.mul_div_cancel n hd, Nat.div_one, Nat.one_mul, hround]

/-- Values far beyond the largest double are no double. -/
theorem ofUnits?_eq_none (negative : Bool) {m k : Nat} (h : 2 ^ k ≤ m) (hk : 1024 ≤ k) :
    ofUnits? negative (m * one) 1 = none := by
  have hunits : 2 ^ (k + 1074) ≤ m * one := by
    rw [Nat.pow_add, one]
    gcongr
  generalize m * one = n at hunits
  have hlarge : 2 ^ 53 ≤ n := Nat.le_trans (Nat.pow_le_pow_right (by decide) (by omega)) hunits
  have hlog : k + 1074 ≤ n.log2 := (Nat.le_log2 (by omega)).2 hunits
  unfold ofUnits?
  simp only [Nat.div_one, if_neg (Nat.not_lt.2 hlarge), pack?]
  split
  · exact dif_neg (by omega)
  · exact dif_neg (by omega)

theorem one_pos : 0 < one := by decide +kernel

theorem value_eq_natCast_iff {x : Binary64} {m : Nat} :
    x.value = m ↔ x.units = m * one ∧ (x.negative = false ∨ m = 0) := by
  have hone : (0 : ℚ) < one := Nat.cast_pos.2 one_pos
  rw [value]
  cases hsign : x.negative with
  | false =>
      simp only [Bool.false_eq_true, if_false, one_mul, true_or, and_true]
      rw [div_eq_iff hone.ne']
      exact_mod_cast Iff.rfl
  | true =>
      simp only [if_true, Bool.true_eq_false, false_or]
      have hnonneg : (0 : ℚ) ≤ x.units / one := div_nonneg (Nat.cast_nonneg _) (Nat.cast_nonneg _)
      constructor
      · intro h
        have hm : (m : ℚ) = 0 := by
          have : (0 : ℚ) ≤ m := Nat.cast_nonneg m
          linarith
        obtain rfl : m = 0 := by exact_mod_cast hm
        refine ⟨?_, rfl⟩
        have hzero : (x.units : ℚ) / one = 0 := by
          rw [Nat.cast_zero] at h
          linarith
        rw [div_eq_zero_iff, or_iff_left hone.ne'] at hzero
        rw [Nat.zero_mul]
        exact_mod_cast hzero
      · rintro ⟨hunits, rfl⟩
        rw [hunits, Nat.zero_mul, Nat.cast_zero, zero_div, mul_zero]

/-- The natural numbers with 53 significant bits are doubles, in the range of the doubles. -/
theorem exists_value {s e : Nat} (hs : s < 2 ^ 53) (he : e ≤ 971) : ∃ x : Binary64, x.value = (s * 2 ^ e : Nat) := by
  obtain ⟨x, hsign, hunits⟩ := exists_units hs (k := e + 1074) (by omega) (by omega)
  exact ⟨x, value_eq_natCast_iff.2 ⟨by rw [hunits, Nat.pow_add, ← Nat.mul_assoc, one], .inl hsign⟩⟩

/-- A natural number that is a double is rounded to a double with its value. -/
theorem exists_ofInt?_of_value {x : Binary64} {m : Nat} (h : x.value = m) : ∃ y, ofInt? m = some y ∧ y.value = m := by
  have hunits := (value_eq_natCast_iff.1 h).1
  refine ⟨{ x with negative := false }, ?_, value_eq_natCast_iff.2 ⟨hunits, .inl rfl⟩⟩
  rw [ofInt?_natCast, ← hunits, ofUnits?_units]

/-- Numbers up to `2 ^ 53` are rounded to themselves, and no other number is rounded to one of them. -/
theorem rounds_to_small_iff {m code : Nat} (hcode : code < 2 ^ 53) :
    (∃ x, ofInt? m = some x ∧ x.value = code) ↔ m = code := by
  have hexact : ∀ {n : Nat}, n < 2 ^ 53 → ∃ x, ofInt? n = some x ∧ x.value = n := by
    intro n hn
    obtain ⟨x, hx⟩ := exists_value (e := 0) hn (by decide)
    rw [Nat.pow_zero, Nat.mul_one] at hx
    exact exists_ofInt?_of_value hx
  constructor
  · rintro ⟨x, hx, hvalue⟩
    by_cases hm : m < 2 ^ 53
    · obtain ⟨y, hy, hm'⟩ := hexact hm
      obtain rfl := Option.some.inj (hx.symm.trans hy)
      exact_mod_cast hm'.symm.trans hvalue
    · rw [ofInt?_natCast] at hx
      have hunits := (two_pow_mul_one_le_units (Nat.le_of_not_lt hm) hx).2
      rw [(value_eq_natCast_iff.1 hvalue).1] at hunits
      exact absurd (Nat.le_of_mul_le_mul_right hunits one_pos) (Nat.not_le.2 hcode)
  · rintro rfl
    exact hexact hcode

end Binary64

/-! ## Digits -/

theorem toDigits_bounds {n : Nat} (hn : 0 < n) :
    10 ^ ((Nat.toDigits 10 n).length - 1) ≤ n ∧ n < 10 ^ (Nat.toDigits 10 n).length := by
  have hle : ∀ {k}, 0 < k → ((Nat.toDigits 10 n).length ≤ k ↔ n < 10 ^ k) :=
    Nat.length_toDigits_le_iff (by decide)
  refine ⟨?_, (hle Nat.length_toDigits_pos).1 (Nat.le_refl _)⟩
  rcases Nat.eq_zero_or_pos ((Nat.toDigits 10 n).length - 1) with hzero | hpos
  · rw [hzero, Nat.pow_zero]
    exact hn
  · refine Nat.le_of_not_lt fun hlt => ?_
    have := (hle hpos).2 hlt
    omega

namespace Decimal

open Text

/-- A numeral taken apart: its digits as one number, times a power of ten. -/
structure Parts where
  negative : Bool
  digits : Nat
  scale : Int

def Parts.value (p : Parts) : ℚ :=
  (if p.negative then -1 else 1) * (p.digits * 10 ^ p.scale)

def parts? (cs : List Char) : Option Parts :=
  let (negative, unsignedPart) := takeSign cs
  let (whole, rest) := unsignedPart.span isDigit
  let (decimals, rest) := fraction rest
  match digits? (whole ++ decimals), exponent? rest with
  | some digits, some scale => some ⟨negative, digits, scale - decimals.length⟩
  | _, _ => none

/-- A numeral is read as the double nearest to its value. -/
theorem numeral?_eq (cs : List Char) :
    numeral? cs = (parts? cs).bind fun p => Binary64.ofDecimal? p.negative p.digits p.scale := by
  unfold numeral? parts?
  obtain ⟨negative, unsignedPart⟩ := takeSign cs
  dsimp only
  obtain ⟨whole, rest⟩ := unsignedPart.span isDigit
  dsimp only
  obtain ⟨decimals, rest⟩ := fraction rest
  dsimp only
  cases digits? (whole ++ decimals) with
  | none => rfl
  | some digits => cases exponent? rest <;> rfl

theorem Parts.digits_eq {p : Parts} {m : Nat} (h : p.value = m) :
    p.digits * 10 ^ p.scale.toNat = m * 10 ^ (-p.scale).toNat ∧ (p.negative = false ∨ p.digits = 0) := by
  have hten : (10 : ℚ) ≠ 0 := by norm_num
  rw [Parts.value] at h
  have hpower : (0 : ℚ) < 10 ^ p.scale := zpow_pos (by norm_num) _
  have hsign : p.negative = false ∨ p.digits = 0 := by
    cases hnegative : p.negative with
    | false => exact .inl rfl
    | true =>
        rw [hnegative, if_pos rfl] at h
        have hm : (0 : ℚ) ≤ m := Nat.cast_nonneg m
        have hdigits : (0 : ℚ) ≤ p.digits * 10 ^ p.scale := mul_nonneg (Nat.cast_nonneg _) hpower.le
        have hzero : (p.digits : ℚ) * 10 ^ p.scale = 0 := by linarith
        exact .inr (by exact_mod_cast (mul_eq_zero.1 hzero).resolve_right hpower.ne')
  refine ⟨?_, hsign⟩
  have hvalue : (p.digits : ℚ) * 10 ^ p.scale = m := by
    rcases hsign with hsign | hzero
    · simpa [hsign] using h
    · simpa [hzero] using h
  have hcast : (p.digits : ℚ) * 10 ^ p.scale.toNat = m * 10 ^ (-p.scale).toNat := by
    rw [← hvalue, mul_assoc, ← zpow_natCast, ← zpow_natCast, ← zpow_add₀ hten]
    congr 2
    omega
  exact_mod_cast hcast

/-- A number with many digits before the point is large. -/
theorem ten_pow_le {digits m length up down k : Nat} (hcross : digits * 10 ^ up = m * 10 ^ down)
    (hlow : 10 ^ (length - 1) ≤ digits) (h : k + down ≤ length - 1 + up) : 10 ^ k ≤ m := by
  refine Nat.le_of_mul_le_mul_right ?_ (Nat.pow_pos (by decide) : 0 < 10 ^ down)
  calc 10 ^ k * 10 ^ down = 10 ^ (k + down) := (Nat.pow_add ..).symm
    _ ≤ 10 ^ (length - 1 + up) := Nat.pow_le_pow_right (by decide) h
    _ = 10 ^ (length - 1) * 10 ^ up := Nat.pow_add ..
    _ ≤ digits * 10 ^ up := Nat.mul_le_mul_right _ hlow
    _ = m * 10 ^ down := hcross

/-- A natural number is rounded in one way, however it is written. -/
theorem Parts.ofDecimal?_of_value {p : Parts} {m : Nat} (h : p.value = m) (hm : 0 < m) :
    Binary64.ofDecimal? p.negative p.digits p.scale = Binary64.ofInt? m := by
  obtain ⟨hcross, hsign⟩ := p.digits_eq h
  have hten : ∀ k, 0 < 10 ^ k := fun k => Nat.pow_pos (by decide)
  have hdigits : 0 < p.digits := by
    refine Nat.pos_of_ne_zero fun hzero => ?_
    rw [hzero, Nat.zero_mul] at hcross
    exact Nat.ne_of_lt (Nat.mul_pos hm (hten _)) hcross
  have hpositive : p.negative = false := hsign.resolve_right (Nat.ne_of_gt hdigits)
  obtain ⟨hlow, hhigh⟩ := toDigits_bounds hdigits
  rw [Binary64.ofDecimal?, hpositive, Binary64.ofInt?_natCast]
  generalize (Nat.toDigits 10 p.digits).length = length at hlow hhigh
  rw [if_neg]
  · split
    · have hlarge : 2 ^ 1024 ≤ m :=
        Nat.le_trans (by decide +kernel) (ten_pow_le (k := 310) hcross hlow (by omega))
      exact (Binary64.ofUnits?_eq_none false hlarge (Nat.le_refl _)).symm
    · split
      · rename_i hscale
        have hzero : (-p.scale).toNat = 0 := by omega
        rw [hzero, Nat.pow_zero, Nat.mul_one] at hcross
        rw [hcross]
      · have hzero : p.scale.toNat = 0 := by omega
        rw [hzero, Nat.pow_zero, Nat.mul_one] at hcross
        rw [hcross, Nat.mul_right_comm, Binary64.ofUnits?_mul _ _ (hten _)]
  · rintro (hzero | hsmall)
    · omega
    · have hscale : p.scale.toNat = 0 := by omega
      have hle : 10 ^ length ≤ 10 ^ (-p.scale).toNat := Nat.pow_le_pow_right (by decide) (by omega)
      have hmul : 10 ^ (-p.scale).toNat ≤ m * 10 ^ (-p.scale).toNat := Nat.le_mul_of_pos_left _ hm
      rw [hscale, Nat.pow_zero, Nat.mul_one] at hcross
      omega

end Decimal

end SimControl
