import SimControl.Device.DryRun
import SimControl.Proofs.Decimal
import SimControl.Proofs.Device.Declared

/-!
# Durations

A duration is read as a double and passed on as an integer of 64 bits. What is lost on the way depends on the
exact value alone, not on how it is written (`duration?_of_value`): a value is passed on as it is if and only if
it is an integer of 64 bits that is a double, or the largest integer of 64 bits. Every other value is refused,
or the device gets another one (`dispatch_duration`): `9007199254740993` is rounded to `9007199254740992`, what
is larger than 64 bits is cut off, and `0.99999999999999999999` is taken for one.
-/

namespace SimControl

/-- The exact value of a number in data, or of the numeral in a text. -/
def Json.value? : Json → Option ℚ
  | .number (.natural n) => some n.toNat
  | .number (.negative n) => some (-n.magnitude)
  | .number (.double x) => some x.value
  | .string s =>
    (Decimal.parts? ((Text.trim s.toList).map fun c => if c == ',' then '.' else c)).map Decimal.Parts.value
  | _ => none

namespace Params

/-- The duration that data stands for. -/
def duration? (j : Json) : Option UInt64 :=
  (double? j).bind natural?

/-! ## Values -/

theorem natural?_sign {x : Binary64} {negative : Bool} (hx : x.negative = false ∨ x.significand = 0)
    (hnegative : negative = false ∨ x.significand = 0) : natural? { x with negative } = natural? x := by
  have hleft : (!negative || x.significand == 0) = true := by
    rcases hnegative with rfl | hzero
    · rfl
    · simp [hzero]
  have hright : (!x.negative || x.significand == 0) = true := by
    rcases hx with hx | hzero
    · simp [hx]
    · simp [hzero]
  simp only [natural?, hleft, hright]
  rfl

/-- A natural number is passed on in one way, however it is written. -/
theorem duration?_of_value {j : Json} {m : Nat} (h : j.value? = some (m : ℚ)) :
    duration? j = (Binary64.ofInt? m).bind natural? := by
  cases j with
  | number n =>
      cases n with
      | natural n =>
          obtain rfl : n.toNat = m := Nat.cast_injective (Option.some.inj h)
          rfl
      | negative n =>
          have hvalue : -(n.magnitude : ℚ) = m := Option.some.inj h
          have hpositive : (0 : ℚ) < n.magnitude := Nat.cast_pos.2 n.positive
          have hm : (0 : ℚ) ≤ m := Nat.cast_nonneg m
          linarith
      | double x =>
          obtain ⟨hunits, hsign⟩ := Binary64.value_eq_natCast_iff.1 (Option.some.inj h)
          have hzero : x.negative = false ∨ x.significand = 0 := by
            refine hsign.imp_right fun hm => ?_
            rw [hm, Nat.zero_mul, Binary64.units] at hunits
            exact (Nat.mul_eq_zero.1 hunits).resolve_right (Nat.ne_of_gt (Nat.two_pow_pos _))
          rw [Binary64.ofInt?_natCast, ← hunits, Binary64.ofUnits?_units, Option.bind_some,
            natural?_sign hzero (.inl rfl)]
          rfl
  | string s =>
      rw [Json.value?, Option.map_eq_some_iff] at h
      obtain ⟨p, hp, hvalue⟩ := h
      rw [duration?, double?, Decimal.localNumeral?, Decimal.numeral?_eq, hp, Option.bind_some]
      rcases Nat.eq_zero_or_pos m with rfl | hm
      · have hdigits : p.digits = 0 := by
          obtain ⟨hcross, -⟩ := p.digits_eq hvalue
          rw [Nat.zero_mul] at hcross
          exact (Nat.mul_eq_zero.1 hcross).resolve_right (Nat.ne_of_gt (Nat.pow_pos (by decide)))
        rw [Binary64.ofDecimal?, if_pos (.inl hdigits), Option.bind_some,
          show Binary64.ofInt? (0 : Nat) = some (Binary64.zero false) by decide +kernel, Option.bind_some]
        exact natural?_sign (x := Binary64.zero false) (.inl rfl) (.inr rfl)
      · rw [Decimal.Parts.ofDecimal?_of_value hvalue hm]
  | null => cases h
  | bool => cases h
  | array => cases h
  | object => cases h

/-- Integers of 64 bits but for the largest one are read from their own values only. -/
theorem natural?_eq_some_iff_value {x : Binary64} {n : UInt64} (hn : n.toNat < 2 ^ 64 - 1) :
    natural? x = some n ↔ x.value = n.toNat := by
  rw [natural?_eq_some_iff, Binary64.value_eq_natCast_iff]
  constructor
  · rintro ⟨hsign, hwhole, hpart⟩
    have hmin : min x.wholePart (2 ^ 64 - 1) = n.toNat := by
      rw [← hpart, UInt64.toNat_ofNat_of_lt' (by rw [UInt64.size]; omega)]
    have hvalue : x.wholePart = n.toNat := by omega
    rw [← hvalue, Binary64.wholePart_mul_one hwhole]
    exact ⟨rfl, hsign.imp_right Binary64.wholePart_of_significand_eq_zero⟩
  · rintro ⟨hunits, hsign⟩
    have hwhole : x.isWhole = true := by
      rw [Binary64.isWhole, hunits, Nat.mul_mod_left, beq_self_eq_true]
    have hpart : x.wholePart = n.toNat := by
      rw [Binary64.wholePart, hunits, Nat.mul_div_cancel _ Binary64.one_pos]
    refine ⟨hsign.imp_right fun hzero => ?_, hwhole, ?_⟩
    · exact (Binary64.wholePart_eq_zero_iff hwhole).1 (hpart.trans hzero)
    · rw [hpart, Nat.min_eq_left hn.le, UInt64.ofNat_toNat]

/-- The integers of 64 bits that are passed on as they are. Doubles beyond 64 bits are cut off at the largest one,
and it is itself rounded to such a double. -/
theorem natural?_ofInt?_iff {n : UInt64} : (Binary64.ofInt? n.toNat).bind natural? = some n ↔
    (∃ x : Binary64, x.value = n.toNat) ∨ n.toNat = 2 ^ 64 - 1 := by
  have hlt := n.toNat_lt
  by_cases hmax : n.toNat = 2 ^ 64 - 1
  · obtain rfl : n = UInt64.ofNat (2 ^ 64 - 1) := UInt64.toNat_inj.1 (by rw [hmax]; rfl)
    exact iff_of_true (by decide +kernel) (.inr hmax)
  · rw [or_iff_left hmax, Option.bind_eq_some_iff]
    simp only [natural?_eq_some_iff_value (show n.toNat < 2 ^ 64 - 1 by omega)]
    constructor
    · rintro ⟨x, -, hx⟩
      exact ⟨x, hx⟩
    · rintro ⟨x, hx⟩
      exact Binary64.exists_ofInt?_of_value hx

end Params

/-- The values that a duration has without being changed. -/
def UnchangedDuration (q : ℚ) : Prop :=
  ∃ n : UInt64, q = n.toNat ∧ ((∃ x : Binary64, x.value = n.toNat) ∨ n.toNat = 2 ^ 64 - 1)

/-- The integers of 64 bits of which 53 are significant do not change. -/
theorem unchangedDuration_of_significand {s e : Nat} (hs : s < 2 ^ 53) (hsize : s * 2 ^ e < 2 ^ 64) :
    UnchangedDuration (s * 2 ^ e : Nat) := by
  have hcast : (UInt64.ofNat (s * 2 ^ e)).toNat = s * 2 ^ e := UInt64.toNat_ofNat_of_lt' hsize
  refine ⟨UInt64.ofNat (s * 2 ^ e), by rw [hcast], .inl ?_⟩
  rw [hcast]
  rcases Nat.eq_zero_or_pos s with rfl | hpos
  · simpa using Binary64.exists_value (s := 0) (e := 0) (by decide) (by decide)
  · have he : e < 64 := by
      refine (Nat.pow_lt_pow_iff_right (by decide : 1 < 2)).1 (Nat.lt_of_le_of_lt ?_ hsize)
      exact Nat.le_mul_of_pos_left _ hpos
    exact Binary64.exists_value hs (by omega)

namespace Params

theorem duration?_of_unchanged {j : Json} {q : ℚ} (hvalue : j.value? = some q) (hq : UnchangedDuration q) :
    ∃ ms, duration? j = some ms ∧ q = ms.toNat := by
  obtain ⟨n, rfl, hn⟩ := hq
  exact ⟨n, (duration?_of_value hvalue).trans (natural?_ofInt?_iff.2 hn), rfl⟩

theorem eq_duration?_iff {j : Json} {q : ℚ} {ms : UInt64} (hvalue : j.value? = some q)
    (hms : duration? j = some ms) : q = ms.toNat ↔ UnchangedDuration q := by
  constructor
  · rintro rfl
    exact ⟨ms, rfl, natural?_ofInt?_iff.1 ((duration?_of_value hvalue).symm.trans hms)⟩
  · intro hq
    obtain ⟨n, hn, heq⟩ := duration?_of_unchanged hvalue hq
    rwa [Option.some.inj (hms.symm.trans hn)]

/-! ## Reading -/

variable {params : Params} {name : String} {given : Json}

theorem optionalNatural_of_duration {ms : UInt64} (h : params.present? name = some given)
    (hms : duration? given = some ms) : params.optionalNatural name = .ok (some ms) := by
  obtain ⟨x, hx, hnatural⟩ := Option.bind_eq_some_iff.1 hms
  rw [optionalNatural, optionalNumber_of_present h hx]
  simp only [bind, Except.bind, hnatural, require, Except.map]

theorem optionalNatural_of_no_duration (h : params.present? name = some given)
    (hnone : duration? given = none) : ∃ fault, params.optionalNatural name = .error ⟨name, fault⟩ := by
  rw [optionalNatural, optionalNumber, h]
  simp only []
  cases hx : double? given with
  | none => exact ⟨_, rfl⟩
  | some x =>
      have hnatural : natural? x = none := by rwa [duration?, hx] at hnone
      simp only [require, Except.map, bind, Except.bind, hnatural]
      exact ⟨_, rfl⟩

end Params

/-- The same gesture with another duration. -/
def Operation.lasting (operation : Operation) (ms : UInt64) : Operation :=
  match operation with
  | .swipe start stop _ => .swipe start stop (some ms)
  | .pressButton button _ => .pressButton button (some ms)
  | .pressKey code _ => .pressKey code (some ms)
  | operation => operation

def CommandKind.lasting : List CommandKind :=
  [.swipe, .pressDeviceButton, .pressKey]

namespace Operation

variable {kind : CommandKind} {params : Params} {operation : Operation}

/-- The duration is read last, and nothing else depends on it. -/
theorem ofParams_duration (hkind : kind ∈ CommandKind.lasting) (hread : ofParams kind params = .ok operation)
    (habsent : params.present? "duration" = none) (given : Json) :
    ofParams kind (params.insert "duration" given) =
      ((Params.optionalNatural (params.insert "duration" given) "duration").map fun ms? =>
        ms?.elim operation operation.lasting) := by
  have hother : ∀ name, name ≠ "duration" →
      Params.present? (params.insert "duration" given) name = params.present? name := by
    intro name hname
    rw [Params.present?, Params.present?, Dictionary.get?_insert, if_neg hname]
  have hnone := Params.optionalNatural_of_absent habsent
  generalize hduration : Params.optionalNatural (params.insert "duration" given) "duration" = a
  simp only [CommandKind.lasting, List.mem_cons, List.not_mem_nil, or_false] at hkind
  rcases hkind with rfl | rfl | rfl
  · obtain ⟨start, hstart, h⟩ := bind_eq_ok.1 hread
    obtain ⟨stop, hstop, h⟩ := bind_eq_ok.1 h
    rw [hnone] at h
    obtain rfl := Except.ok.inj h
    have hstart' := (Params.reads_point "startX" "startY").congr (p := params.insert "duration" given)
      (q := params) (by simpa using ⟨hother _ (by decide), hother _ (by decide)⟩)
    have hstop' := (Params.reads_point "endX" "endY").congr (p := params.insert "duration" given)
      (q := params) (by simpa using ⟨hother _ (by decide), hother _ (by decide)⟩)
    simp only [ofParams, hstart', hstart, hstop', hstop, hduration]
    cases a with
    | error e => rfl
    | ok ms? => cases ms? <;> rfl
  · obtain ⟨button, hbutton, h⟩ := bind_eq_ok.1 hread
    rw [hnone] at h
    obtain rfl := Except.ok.inj h
    have hbutton' := (Params.reads_button "button").congr (p := params.insert "duration" given) (q := params)
      (by simpa using hother _ (by decide))
    simp only [ofParams, hbutton', hbutton, hduration]
    cases a with
    | error e => rfl
    | ok ms? => cases ms? <;> rfl
  · obtain ⟨code, hcode, h⟩ := bind_eq_ok.1 hread
    rw [hnone] at h
    obtain rfl := Except.ok.inj h
    have hcode' := (Params.reads_keyCode "keyCode").congr (p := params.insert "duration" given) (q := params)
      (by simpa using hother _ (by decide))
    simp only [ofParams, hcode', hcode, hduration]
    cases a with
    | error e => rfl
    | ok ms? => cases ms? <;> rfl

end Operation

/-! ## Dispatching -/

/-- A gesture with a numeric duration fails before the device is called and names the duration, or the device is
called once with an integer duration. That integer is the exact value if and only if the value is one that does not
change; such a value is not refused. -/
theorem dispatch_duration {σ : Type} (backend : Backend σ) {kind : CommandKind} (hkind : kind ∈ CommandKind.lasting)
    {params : Params} {operation : Operation} (hread : Operation.ofParams kind params = .ok operation)
    (habsent : params.Missing "duration") {given : Json} {q : ℚ} (hvalue : given.value? = some q) (session : String)
    (w : World σ) :
    (¬ UnchangedDuration q ∧ ∃ fault : ParameterFault,
      dispatch backend kind (params.insert "duration" given) session w =
        (.error (.invalidParameter "duration" fault.message), w)) ∨
    ∃ ms : UInt64, (q = ms.toNat ↔ UnchangedDuration q) ∧
      dispatch backend kind (params.insert "duration" given) session w =
        ((backend ⟨operation.lasting ms, session⟩ w.device).ending.outcome kind ⟨operation.lasting ms, session⟩,
          w.afterAttempt ⟨operation.lasting ms, session⟩ (backend ⟨operation.lasting ms, session⟩ w.device)) := by
  have hpresent : Params.present? (params.insert "duration" given) "duration" = some given := by
    refine Params.present?_of_get? (by rw [Dictionary.get?_insert, if_pos rfl]) ?_
    cases given with
    | null => cases hvalue
    | bool | number | string | array | object => rfl
  have hparams := Operation.ofParams_duration hkind hread (Params.missing_iff.1 habsent) given
  cases hms : Params.duration? given with
  | none =>
      obtain ⟨fault, hfault⟩ := Params.optionalNatural_of_no_duration hpresent hms
      refine .inl ⟨fun hq => ?_, fault, dispatch_of_error (hparams.trans (by rw [hfault]; rfl)) session w⟩
      obtain ⟨ms, hsome, -⟩ := Params.duration?_of_unchanged hvalue hq
      cases hms.symm.trans hsome
  | some ms =>
      have hduration := Params.optionalNatural_of_duration hpresent hms
      exact .inr ⟨ms, Params.eq_duration?_iff hvalue hms,
        dispatch_of_ok (hparams.trans (by rw [hduration]; rfl)) session w⟩

def heldKey : Params :=
  .ofList [("keyCode", .ofUInt64 4)]

/-- A key is held for `2 ^ 60` milliseconds, also if that is written with decimals. With `2 ^ 53 + 1` it is held for
another time. -/
theorem dispatch_duration_heldKey :
    (∃ ms : UInt64, (2 ^ 60 : ℚ) = ms.toNat ∧
      (dispatch DryRun.backend .pressKey (heldKey.insert "duration" (.string " 1152921504606846976,0")) "pad"
        ⟨[], 0, []⟩).2.calls = [⟨.pressKey 4 (some ms), "pad"⟩]) ∧
    ∃ ms : UInt64, (2 ^ 53 + 1 : ℚ) ≠ ms.toNat ∧
      (dispatch DryRun.backend .pressKey (heldKey.insert "duration" (.ofUInt64 9007199254740993)) "pad"
        ⟨[], 0, []⟩).2.calls = [⟨.pressKey 4 (some ms), "pad"⟩] := by
  have hkind : CommandKind.pressKey ∈ CommandKind.lasting := by decide
  have habsent : heldKey.Missing "duration" := .inl (by decide +kernel)
  have hpresent : heldKey.present? "keyCode" = some (.ofUInt64 4) := rfl
  have hcode : heldKey.keyCode "keyCode" = .ok 4 :=
    bind_eq_ok.2 ⟨some 4, Params.optionalNatural_of_duration hpresent (by decide +kernel),
      bind_eq_ok.2 ⟨4, rfl, Params.narrow_toUInt64 4⟩⟩
  have hread : Operation.ofParams .pressKey heldKey = .ok (.pressKey 4 none) :=
    bind_eq_ok.2 ⟨4, hcode, bind_eq_ok.2 ⟨none, Params.optionalNatural_of_absent (Params.missing_iff.1 habsent), rfl⟩⟩
  constructor
  · have hparts : (Json.string " 1152921504606846976,0").value? =
        some (Decimal.Parts.value ⟨false, 11529215046068469760, -1⟩) := rfl
    have hvalue : (Json.string " 1152921504606846976,0").value? = some (2 ^ 60 : ℚ) := by
      rw [hparts]
      norm_num [Decimal.Parts.value]
    have hunchanged : UnchangedDuration (2 ^ 60 : ℚ) := by
      exact_mod_cast unchangedDuration_of_significand (s := 1) (e := 60) (by decide) (by decide)
    rcases dispatch_duration DryRun.backend hkind hread habsent hvalue "pad" ⟨[], 0, []⟩ with
      ⟨hchanged, -⟩ | ⟨ms, hms, hrun⟩
    · exact absurd hunchanged hchanged
    · exact ⟨ms, hms.2 hunchanged, by rw [hrun]; rfl⟩
  · have hvalue : (Json.ofUInt64 9007199254740993).value? = some (2 ^ 53 + 1 : ℚ) := by
      rw [Json.ofUInt64, Json.value?, show (9007199254740993 : UInt64).toNat = 9007199254740993 from rfl]
      norm_num
    have hcalls : (dispatch DryRun.backend .pressKey (heldKey.insert "duration" (.ofUInt64 9007199254740993)) "pad"
        ⟨[], 0, []⟩).2.calls = [⟨.pressKey 4 (some 9007199254740992), "pad"⟩] := by
      decide +kernel
    rcases dispatch_duration DryRun.backend hkind hread habsent hvalue "pad" ⟨[], 0, []⟩ with
      ⟨-, fault, hrun⟩ | ⟨ms, hms, hrun⟩
    · rw [hrun] at hcalls
      cases hcalls
    · rw [hrun] at hcalls ⊢
      have hrounded : ms = 9007199254740992 := by
        simpa [World.afterAttempt, Operation.lasting] using hcalls
      refine ⟨ms, ?_, rfl⟩
      rw [hrounded, show (9007199254740992 : UInt64).toNat = 9007199254740992 from rfl]
      norm_num

end SimControl
