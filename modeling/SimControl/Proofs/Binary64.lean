import SimControl.Json.Number

/-!
# Doubles with whole values

A double is its own rounding: `ofUnits?_units`. So the integer that a whole double stands for is read back
as that double, but for the sign of a zero, which integers do not have: `ofInt?_toInt`.
-/

namespace SimControl

namespace Binary64

theorem roundHalfEven_mul (q : Nat) {d : Nat} (hd : 0 < d) : roundHalfEven (q * d) d = q := by
  unfold roundHalfEven
  simp only [Nat.mul_div_cancel q hd, Nat.mul_mod_left, Nat.mul_zero, hd, decide_true, Bool.true_or, if_true]

theorem pack?_eq_some (x : Binary64) (negative : Bool) :
    pack? negative x.significand x.exponent = some { x with negative } :=
  dif_pos ⟨x.significand_lt, x.normal, x.exponent_le⟩

theorem of_pack? {negative : Bool} {significand exponent : Nat} {x : Binary64}
    (h : pack? negative significand exponent = some x) :
    x.negative = negative ∧ x.units = significand * 2 ^ exponent := by
  unfold pack? at h
  split at h
  · obtain rfl := Option.some.inj h
    exact ⟨rfl, rfl⟩
  · cases h

/-- The exponent of a double is the one that rounding chooses for its magnitude. -/
theorem exponent_of_units (x : Binary64) :
    (if x.units < 2 ^ 53 then 0 else x.units.log2 - 52) = x.exponent := by
  have hlt := x.significand_lt
  by_cases hzero : x.exponent = 0
  · have hunits : x.units = x.significand := by rw [units, hzero, Nat.pow_zero, Nat.mul_one]
    rw [hunits, if_pos hlt, hzero]
  · have hnormal : 2 ^ 52 ≤ x.significand := x.normal.resolve_right hzero
    have hlow : 2 ^ (52 + x.exponent) ≤ x.units := by
      rw [Nat.pow_add]
      exact Nat.mul_le_mul_right _ hnormal
    have hhigh : x.units < 2 ^ (52 + x.exponent + 1) := by
      rw [show 52 + x.exponent + 1 = 53 + x.exponent by omega, Nat.pow_add]
      exact Nat.mul_lt_mul_of_pos_right hlt (Nat.two_pow_pos _)
    have hbig : ¬ x.units < 2 ^ 53 := by
      have : 2 ^ 53 ≤ 2 ^ (52 + x.exponent) := Nat.pow_le_pow_right (by decide) (by omega)
      omega
    have hne : x.units ≠ 0 := by
      have := Nat.two_pow_pos (52 + x.exponent)
      omega
    rw [if_neg hbig, (Nat.log2_eq_iff hne).2 ⟨hlow, hhigh⟩]
    omega

theorem ofUnits?_units (x : Binary64) (negative : Bool) :
    ofUnits? negative x.units 1 = some { x with negative } := by
  unfold ofUnits?
  simp only [Nat.div_one, Nat.one_mul, exponent_of_units]
  rw [show roundHalfEven x.units (2 ^ x.exponent) = x.significand from
    roundHalfEven_mul x.significand (Nat.two_pow_pos _), if_pos x.significand_lt, pack?_eq_some]

/-- A number of 53 bits, shifted in the range of the doubles, is the magnitude of a double. -/
theorem exists_units {s k : Nat} (hs : s < 2 ^ 53) (hlow : 52 ≤ k) (hhigh : k ≤ 2045) :
    ∃ x : Binary64, x.negative = false ∧ x.units = s * 2 ^ k := by
  rcases Nat.eq_zero_or_pos s with rfl | hpos
  · exact ⟨zero false, rfl, by rw [units, Nat.zero_mul]; exact Nat.zero_mul _⟩
  · have hlog : s.log2 < 53 := (Nat.log2_lt (by omega)).2 hs
    have hshift : s.log2 + (52 - s.log2) = 52 := by omega
    have hnormal : 2 ^ 52 ≤ s * 2 ^ (52 - s.log2) := by
      calc 2 ^ 52 = 2 ^ s.log2 * 2 ^ (52 - s.log2) := by rw [← Nat.pow_add, hshift]
        _ ≤ s * 2 ^ (52 - s.log2) := Nat.mul_le_mul_right _ (Nat.log2_self_le (by omega))
    have hfits : s * 2 ^ (52 - s.log2) < 2 ^ 53 := by
      calc s * 2 ^ (52 - s.log2) < 2 ^ (s.log2 + 1) * 2 ^ (52 - s.log2) :=
            Nat.mul_lt_mul_of_pos_right Nat.lt_log2_self (Nat.two_pow_pos _)
        _ = 2 ^ 53 := by rw [← Nat.pow_add, Nat.add_right_comm, hshift]
    refine ⟨⟨false, s * 2 ^ (52 - s.log2), k - (52 - s.log2), hfits, .inl hnormal, by omega⟩, rfl, ?_⟩
    rw [units, Nat.mul_assoc, ← Nat.pow_add, Nat.add_sub_cancel' (by omega)]

theorem div_le_roundHalfEven (n d : Nat) : n / d ≤ roundHalfEven n d := by
  unfold roundHalfEven
  simp only []
  split <;> omega

/-- A magnitude with more than 53 bits is rounded to one that has 53 bits at least. -/
theorem normal_roundHalfEven {n : Nat} (h : 2 ^ 53 ≤ n) : 2 ^ 52 ≤ roundHalfEven n (2 ^ (n.log2 - 52)) := by
  have hlarge : 52 ≤ n.log2 := (Nat.le_log2 (by omega)).2 (by omega)
  refine Nat.le_trans ?_ (div_le_roundHalfEven _ _)
  rw [Nat.le_div_iff_mul_le (Nat.two_pow_pos _), ← Nat.pow_add, Nat.add_sub_cancel' hlarge]
  exact Nat.log2_self_le (by omega)

/-- Rounding takes no magnitude below a power of two, and it keeps the sign. -/
theorem two_pow_le_units {negative : Bool} {n k : Nat} (h : 2 ^ k ≤ n) (hk : 53 ≤ k) {x : Binary64}
    (hx : ofUnits? negative n 1 = some x) : x.negative = negative ∧ 2 ^ k ≤ x.units := by
  have hlarge : 2 ^ 53 ≤ n := Nat.le_trans (Nat.pow_le_pow_right (by decide) hk) h
  have hlog : k ≤ 52 + (n.log2 - 52) := by
    have := (Nat.le_log2 (by omega)).2 h
    omega
  have hpower : 2 ^ k ≤ 2 ^ 52 * 2 ^ (n.log2 - 52) := by
    rw [← Nat.pow_add]
    exact Nat.pow_le_pow_right (by decide) hlog
  unfold ofUnits? at hx
  simp only [Nat.div_one, Nat.one_mul, if_neg (Nat.not_lt.2 hlarge)] at hx
  split at hx
  · obtain ⟨hsign, hunits⟩ := of_pack? hx
    exact ⟨hsign, hunits ▸ Nat.le_trans hpower (Nat.mul_le_mul_right _ (normal_roundHalfEven hlarge))⟩
  · obtain ⟨hsign, hunits⟩ := of_pack? hx
    refine ⟨hsign, hunits ▸ Nat.le_trans hpower (Nat.mul_le_mul_left _ ?_)⟩
    exact Nat.pow_le_pow_right (by decide) (Nat.le_succ _)

theorem two_pow_mul_one_le_units {negative : Bool} {m k : Nat} (h : 2 ^ k ≤ m) {x : Binary64}
    (hx : ofUnits? negative (m * one) 1 = some x) : x.negative = negative ∧ 2 ^ k * one ≤ x.units := by
  have hall : ∀ e, 53 ≤ k + e → ofUnits? negative (m * 2 ^ e) 1 = some x →
      x.negative = negative ∧ 2 ^ k * 2 ^ e ≤ x.units := by
    intro e he hx
    rw [← Nat.pow_add]
    refine two_pow_le_units ?_ he hx
    rw [Nat.pow_add]
    exact Nat.mul_le_mul_right _ h
  rw [one] at hx ⊢
  exact hall 1074 (by omega) hx

/-- Magnitudes far below the largest double are rounded to a double. -/
theorem exists_ofUnits? (negative : Bool) {n m : Nat} (h : n < 2 ^ m) (hm : m ≤ 2096) :
    ∃ x, ofUnits? negative n 1 = some x := by
  unfold ofUnits?
  simp only [Nat.div_one, Nat.one_mul]
  by_cases hsmall : n < 2 ^ 53
  · have hround : roundHalfEven n (2 ^ 0) = n := by
      have hone := roundHalfEven_mul n (Nat.two_pow_pos 0)
      rwa [Nat.pow_zero, Nat.mul_one] at hone
    rw [if_pos hsmall, hround, if_pos hsmall]
    exact ⟨_, dif_pos ⟨hsmall, .inr rfl, by decide⟩⟩
  · have hlog : n.log2 < m := (Nat.log2_lt (by omega)).2 h
    rw [if_neg hsmall]
    split
    · rename_i hlt
      exact ⟨_, dif_pos ⟨hlt, .inl (normal_roundHalfEven (Nat.le_of_not_lt hsmall)), by omega⟩⟩
    · exact ⟨_, dif_pos ⟨by decide, .inl (Nat.le_refl _), by omega⟩⟩

theorem exists_ofInt? {i : Int} (h : i.natAbs < 2 ^ 64) : ∃ x, ofInt? i = some x := by
  have hunits : ∀ k, i.natAbs * 2 ^ k < 2 ^ (64 + k) := by
    intro k
    rw [Nat.pow_add]
    exact Nat.mul_lt_mul_of_pos_right h (Nat.two_pow_pos k)
  rw [ofInt?, one]
  exact exists_ofUnits? _ (hunits 1074) (by decide)

/-! ## Whole values -/

/-- The same value; a zero without its sign. -/
def unsignZero (x : Binary64) : Binary64 :=
  { x with negative := x.negative && x.significand != 0 }

theorem unsignZero_of_ne {x : Binary64} (h : x.significand ≠ 0) : x.unsignZero = x := by
  rw [unsignZero, bne_iff_ne.2 h, Bool.and_true]

theorem sameValue_unsignZero (x : Binary64) : x.unsignZero.sameValue x = true := by
  by_cases h : x.significand = 0
  · simp [sameValue, unsignZero, h]
  · simp [sameValue, unsignZero_of_ne h]

@[simp] theorem wholePart_unsignZero (x : Binary64) : x.unsignZero.wholePart = x.wholePart := rfl

@[simp] theorem isWhole_unsignZero (x : Binary64) : x.unsignZero.isWhole = x.isWhole := rfl

theorem wholePart_mul_one {x : Binary64} (hx : x.isWhole = true) : x.wholePart * one = x.units := by
  rw [isWhole, beq_iff_eq] at hx
  exact Nat.div_mul_cancel (Nat.dvd_of_mod_eq_zero hx)

theorem wholePart_of_significand_eq_zero {x : Binary64} (h : x.significand = 0) : x.wholePart = 0 := by
  rw [wholePart, units, h, Nat.zero_mul, Nat.zero_div]

theorem wholePart_eq_zero_iff {x : Binary64} (hx : x.isWhole = true) :
    x.wholePart = 0 ↔ x.significand = 0 := by
  refine ⟨fun h => ?_, wholePart_of_significand_eq_zero⟩
  have hunits := wholePart_mul_one hx
  rw [h, Nat.zero_mul, units] at hunits
  exact (Nat.mul_eq_zero.1 hunits.symm).resolve_right (Nat.ne_of_gt (Nat.two_pow_pos _))

@[simp] theorem natAbs_toInt (x : Binary64) : x.toInt.natAbs = x.wholePart := by
  unfold toInt
  split <;> simp

theorem toInt_unsignZero (x : Binary64) : x.unsignZero.toInt = x.toInt := by
  by_cases h : x.significand = 0
  · simp [toInt, wholePart_of_significand_eq_zero h]
  · rw [unsignZero_of_ne h]

theorem toInt_neg_iff {x : Binary64} (hx : x.isWhole = true) :
    decide (x.toInt < 0) = (x.negative && x.significand != 0) := by
  have hzero := wholePart_eq_zero_iff hx
  unfold toInt
  cases x.negative with
  | false => simp
  | true =>
      by_cases h : x.significand = 0
      · simp [h, hzero.2 h]
      · have hwhole : x.wholePart ≠ 0 := fun hwhole => h (hzero.1 hwhole)
        rw [bne_iff_ne.2 h, if_pos rfl, Bool.and_true, decide_eq_true_iff]
        omega

/-- The integer of a whole double is read back as that double. -/
theorem ofInt?_toInt {x : Binary64} (hx : x.isWhole = true) : ofInt? x.toInt = some x.unsignZero := by
  rw [ofInt?, natAbs_toInt, wholePart_mul_one hx, ofUnits?_units, toInt_neg_iff hx]
  rfl

end Binary64

end SimControl
