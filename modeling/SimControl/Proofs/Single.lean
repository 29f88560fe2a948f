import SimControl.Proofs.Decimal

/-!
# Quotients in single precision

A quotient of two counts is rounded three times: each count to 24 significant bits, and then the quotient of the
two. No step changes the order. Two numbers of one size are rounded in the same steps, `roundHalfEven_mono`; with
different steps, a power of two lies between the numbers, `mul_step_le`. The quotient has so few bits that as a double
it is exact: `singleRatio?_spec`.
-/

namespace SimControl

namespace Binary64

/-! ## Rounding keeps the order -/

theorem roundHalfEven_le (n d : Nat) : roundHalfEven n d ≤ n / d + 1 := by
  unfold roundHalfEven
  simp only []
  split <;> omega

theorem roundHalfEven_mono {n n' : Nat} (d : Nat) (h : n ≤ n') : roundHalfEven n d ≤ roundHalfEven n' d := by
  rcases Nat.eq_or_lt_of_le (Nat.div_le_div_right (c := d) h) with heq | hlt
  · have hmod : n % d ≤ n' % d := by
      have hn := Nat.div_add_mod n d
      have hn' := Nat.div_add_mod n' d
      rw [heq] at hn
      omega
    unfold roundHalfEven
    simp only [heq, Bool.or_eq_true, Bool.and_eq_true, decide_eq_true_eq, beq_iff_eq]
    split <;> split <;> omega
  · calc roundHalfEven n d ≤ n / d + 1 := roundHalfEven_le n d
      _ ≤ n' / d := hlt
      _ ≤ roundHalfEven n' d := div_le_roundHalfEven n' d

/-- A number has 24 bits when it is counted in steps of `d`. -/
structure InSteps (n d : Nat) : Prop where
  lower : 2 ^ 23 * d ≤ n
  upper : n < 2 ^ 24 * d

theorem InSteps.le_rounded {n d : Nat} (h : InSteps n d) : 2 ^ 23 ≤ roundHalfEven n d := by
  have hd : 0 < d := Nat.pos_of_ne_zero fun hzero => by
    have := h.upper
    simp only [hzero, Nat.mul_zero, Nat.not_lt_zero] at this
  exact Nat.le_trans ((Nat.le_div_iff_mul_le hd).2 h.lower) (div_le_roundHalfEven n d)

theorem rounded_le {n d : Nat} (h : n < 2 ^ 24 * d) : roundHalfEven n d ≤ 2 ^ 24 := by
  have hdiv : n / d < 2 ^ 24 := Nat.div_lt_of_lt_mul (by rwa [Nat.mul_comm])
  exact Nat.le_trans (roundHalfEven_le n d) hdiv

/-- Two numbers of 24 bits in steps of `u` and `u'`: with different steps, the steps decide the order. -/
theorem mul_step_le {s s' u u' : Nat} (hs : s ≤ 2 ^ 24) (hs' : 2 ^ 23 ≤ s') (h : 2 * u ≤ u') : s * u ≤ s' * u' := by
  calc s * u ≤ 2 ^ 24 * u := Nat.mul_le_mul_right u hs
    _ = 2 ^ 23 * (2 * u) := by rw [← Nat.mul_assoc]
    _ ≤ s' * u' := Nat.mul_le_mul hs' h

theorem two_mul_pow_le {k k' : Nat} (h : k < k') : 2 * 2 ^ k ≤ 2 ^ k' := by
  rw [← Nat.pow_succ']
  exact Nat.pow_le_pow_right (by decide) h

/-! ## Counts -/

theorem lt_single_step (n : Nat) : n < 2 ^ 24 * 2 ^ (n.log2 - 23) := by
  rw [← Nat.pow_add]
  exact Nat.lt_of_lt_of_le Nat.lt_log2_self (Nat.pow_le_pow_right (by decide) (by omega))

theorem inSteps_single {n : Nat} (h : 23 ≤ n.log2) : InSteps n (2 ^ (n.log2 - 23)) where
  lower := by
    rw [← Nat.pow_add, Nat.add_sub_cancel' h]
    exact Nat.log2_self_le fun hzero => by
      rw [hzero, Nat.log2_zero] at h
      omega
  upper := lt_single_step n

theorem log2_mono {n n' : Nat} (h : n ≤ n') : n.log2 ≤ n'.log2 := by
  rcases Nat.eq_zero_or_pos n with rfl | hn
  · exact Nat.zero_le _
  · exact (Nat.le_log2 (by omega)).2 (Nat.le_trans (Nat.log2_self_le (by omega)) h)

theorem single_mono {n n' : Nat} (h : n ≤ n') : single n ≤ single n' := by
  have hlog : n.log2 - 23 ≤ n'.log2 - 23 := Nat.sub_le_sub_right (log2_mono h) 23
  unfold single
  rcases Nat.eq_or_lt_of_le hlog with heq | hlt
  · simp only [heq]
    exact Nat.mul_le_mul_right _ (roundHalfEven_mono _ h)
  · exact mul_step_le (rounded_le (lt_single_step n)) (inSteps_single (by omega)).le_rounded (two_mul_pow_le hlt)

theorem single_pos {n : Nat} (hn : 0 < n) : 0 < single n :=
  Nat.lt_of_lt_of_le (by decide) (single_mono hn : single 1 ≤ single n)

theorem single_le {n k : Nat} (hk : 24 ≤ k) (hn : n < 2 ^ k) : single n ≤ 2 ^ k := by
  rcases Nat.eq_zero_or_pos n with rfl | hpos
  · exact Nat.zero_le _
  have hlog : n.log2 < k := (Nat.log2_lt (by omega)).2 hn
  calc single n ≤ 2 ^ 24 * 2 ^ (n.log2 - 23) := Nat.mul_le_mul_right _ (rounded_le (lt_single_step n))
    _ = 2 ^ (24 + (n.log2 - 23)) := (Nat.pow_add ..).symm
    _ ≤ 2 ^ k := Nat.pow_le_pow_right (by decide) (by omega)

/-! ## Quotients -/

/-- A quotient below one is rounded where it has 24 bits before the point. -/
theorem roundSingle_spec {n d : Nat} (hn : 0 < n) (h : n ≤ d) :
    ∃ e, roundSingle n d = (roundHalfEven (n * 2 ^ e) d, e) ∧ InSteps (n * 2 ^ e) d ∧ e ≤ 24 + d.log2 := by
  have hlog := log2_mono h
  obtain ⟨e, he⟩ : ∃ e, 24 + d.log2 - n.log2 = e + 1 := ⟨23 + d.log2 - n.log2, by omega⟩
  have hlow : 2 ^ 23 * d < n * 2 ^ (e + 1) := by
    calc 2 ^ 23 * d < 2 ^ 23 * 2 ^ (d.log2 + 1) := Nat.mul_lt_mul_of_pos_left Nat.lt_log2_self (by decide)
      _ = 2 ^ n.log2 * 2 ^ (e + 1) := by
          rw [← Nat.pow_add, ← Nat.pow_add]
          congr 1
          omega
      _ ≤ n * 2 ^ (e + 1) := Nat.mul_le_mul_right _ (Nat.log2_self_le (by omega))
  have hhigh : n * 2 ^ e < 2 ^ 24 * d := by
    calc n * 2 ^ e < 2 ^ (n.log2 + 1) * 2 ^ e := Nat.mul_lt_mul_of_pos_right Nat.lt_log2_self (Nat.two_pow_pos e)
      _ = 2 ^ 24 * 2 ^ d.log2 := by
          rw [← Nat.pow_add, ← Nat.pow_add]
          congr 1
          omega
      _ ≤ 2 ^ 24 * d := Nat.mul_le_mul_left _ (Nat.log2_self_le (by omega))
  unfold roundSingle
  simp only [he, Nat.div_lt_iff_lt_mul (show 0 < d by omega), Nat.add_sub_cancel]
  split
  · rename_i hlt
    exact ⟨e + 1, rfl, ⟨Nat.le_of_lt hlow, hlt⟩, by omega⟩
  · rename_i hge
    refine ⟨e, rfl, ⟨?_, hhigh⟩, by omega⟩
    rw [Nat.pow_succ, ← Nat.mul_assoc] at hge
    omega

/-- Of two quotients by one number, the larger one needs no larger exponent. -/
theorem InSteps.exponent_le {n n' d e e' : Nat} (h : n ≤ n') (hn : InSteps (n * 2 ^ e) d)
    (hn' : InSteps (n' * 2 ^ e') d) : e' ≤ e := by
  refine Nat.le_of_not_lt fun hlt => Nat.not_le_of_lt hn'.upper ?_
  calc 2 ^ 24 * d = 2 * (2 ^ 23 * d) := by rw [← Nat.mul_assoc]
    _ ≤ 2 * (n * 2 ^ e) := Nat.mul_le_mul_left 2 hn.lower
    _ = n * (2 * 2 ^ e) := Nat.mul_left_comm ..
    _ ≤ n' * 2 ^ e' := Nat.mul_le_mul h (two_mul_pow_le hlt)

theorem InSteps.rounded_le_rounded {n n' d e e' : Nat} (h : n ≤ n') (hn : InSteps (n * 2 ^ e) d)
    (hn' : InSteps (n' * 2 ^ e') d) :
    roundHalfEven (n * 2 ^ e) d * 2 ^ e' ≤ roundHalfEven (n' * 2 ^ e') d * 2 ^ e := by
  rcases Nat.eq_or_lt_of_le (hn.exponent_le h hn') with rfl | hlt
  · exact Nat.mul_le_mul_right _ (roundHalfEven_mono d (Nat.mul_le_mul_right _ h))
  · exact mul_step_le (rounded_le hn.upper) hn'.le_rounded (two_mul_pow_le hlt)

/-! ## The quotient as a double -/

theorem value_zero : (zero false).value = 0 := by
  rw [value, units, show (zero false).significand = 0 from rfl, Nat.zero_mul, Nat.cast_zero, zero_div, mul_zero]

/-- A fraction of few bits is a double. -/
theorem exists_ofUnits?_fraction {s e : Nat} (hs : s < 2 ^ 53) (he : e ≤ 1022) :
    ∃ x, ofUnits? false (s * one) (2 ^ e) = some x ∧ x.value = (s : ℚ) / 2 ^ e := by
  have hone : one = 2 ^ (1074 - e) * 2 ^ e := by rw [one, ← Nat.pow_add, Nat.sub_add_cancel (by omega)]
  obtain ⟨x, hsign, hunits⟩ := exists_units hs (k := 1074 - e) (by omega) (by omega)
  refine ⟨x, ?_, ?_⟩
  · rw [hone, ← Nat.mul_assoc, ofUnits?_mul _ _ (Nat.two_pow_pos e), ← hunits, ofUnits?_units, ← hsign]
  · have hpower : (2 : ℚ) ^ (1074 - e) ≠ 0 := pow_ne_zero _ two_ne_zero
    rw [value, hsign, hunits, hone, if_neg Bool.false_ne_true, one_mul]
    push_cast
    rw [mul_comm ((2 : ℚ) ^ (1074 - e)), mul_div_mul_right _ _ hpower]

/-- The quotient of counts of at most 32 bits. -/
theorem singleRatio?_spec {n d : Nat} (hn : 0 < n) (h : n ≤ d) (hd : d < 2 ^ 32) :
    ∃ x e, singleRatio? n d = some x ∧ InSteps (single n * 2 ^ e) (single d) ∧
      x.value = (roundHalfEven (single n * 2 ^ e) (single d) : ℚ) / 2 ^ e := by
  obtain ⟨e, hround, hsteps, he⟩ := roundSingle_spec (single_pos hn) (single_mono h)
  have hlog : (single d).log2 ≤ 32 := by
    refine Nat.le_of_lt_succ ((Nat.log2_lt (Nat.ne_of_gt (single_pos (by omega)))).2 ?_)
    exact Nat.lt_of_le_of_lt (single_le (by decide) hd) (by decide)
  obtain ⟨x, hx, hvalue⟩ := exists_ofUnits?_fraction (Nat.lt_of_le_of_lt (rounded_le hsteps.upper) (by decide))
    (show e ≤ 1022 by omega)
  refine ⟨x, e, ?_, hsteps, hvalue⟩
  rw [singleRatio?, if_neg (by omega), hround]
  exact hx

end Binary64

end SimControl
