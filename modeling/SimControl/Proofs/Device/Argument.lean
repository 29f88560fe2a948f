import SimControl.Device.Request
import SimControl.Proofs.Binary64
import SimControl.Proofs.Dictionary
import SimControl.Proofs.Reading
import SimControl.Proofs.Text.Blank

/-!
# Arguments that are read back

What the data form of an argument is read as. Each typed argument is read back from its own form, and a
whole coordinate from the integer that is written for it, but for the sign of a zero.
-/

namespace SimControl

namespace Params

variable {params : Params} {name : String}

theorem require_eq_ok {α : Type} {fault : ParameterFault} {a : Option α} {b : α} :
    require name fault a = .ok b ↔ a = some b := by
  cases a with
  | none => simp [require]
  | some a => simp [require]

theorem present?_of_get? {j : Json} (h : params.get? name = some j) (hj : j.isNull = false) :
    params.present? name = some j := by
  simp [present?, h, hj]

theorem present?_of_null (h : params.get? name = some .null) : params.present? name = none := by
  simp [present?, h, Json.isNull]

theorem present?_of_none (h : params.get? name = none) : params.present? name = none := by
  simp [present?, h]

/-! ## Text -/

/-- Text as it is read: trimmed and not empty. -/
structure IsTrimmed (s : String) : Prop where
  trimmed : Text.trimmed s = s
  ne_empty : s ≠ ""

theorem isTrimmed_of_optionalText {s : String} (h : params.optionalText name = some s) : IsTrimmed s := by
  rw [optionalText, Option.filter_eq_some_iff, Option.map_eq_some_iff] at h
  obtain ⟨⟨given, -, rfl⟩, hne⟩ := h
  exact ⟨Text.trimmed_trimmed given, by simpa using hne⟩

theorem optionalText_of_string {s : String} (hs : IsTrimmed s) (h : params.get? name = some (.string s)) :
    params.optionalText name = some s := by
  rw [optionalText, present?_of_get? h rfl]
  simp [Json.string?, hs.trimmed, hs.ne_empty]

theorem isTrimmed_of_text {s : String} (h : params.text name = .ok s) : IsTrimmed s :=
  isTrimmed_of_optionalText (require_eq_ok.1 h)

theorem text_of_string {s : String} (hs : IsTrimmed s) (h : params.get? name = some (.string s)) :
    params.text name = .ok s :=
  require_eq_ok.2 (optionalText_of_string hs h)

theorem button_of_label {b : DeviceButton} (h : params.get? name = some b.toJson) :
    params.button name = .ok b := by
  have hlabel : IsTrimmed b.label := by
    cases b <;> exact ⟨by decide +kernel, by decide +kernel⟩
  have hbutton : DeviceButton.ofText? b.label = some b := by
    cases b <;> decide +kernel
  rw [button, text_of_string hlabel h]
  exact require_eq_ok.2 hbutton

/-! ## Numbers -/

theorem optionalNumber_of_present {j : Json} (h : params.present? name = some j) {x : Binary64}
    (hx : double? j = some x) : params.optionalNumber name = .ok (some x) := by
  rw [optionalNumber, h]
  simp only [hx, require, Except.map]

theorem optionalNumber_of_absent (h : params.present? name = none) :
    params.optionalNumber name = .ok none := by
  rw [optionalNumber, h]

theorem number_of_present {j : Json} (h : params.present? name = some j) {x : Binary64}
    (hx : double? j = some x) : params.number name = .ok x := by
  rw [number, optionalNumber_of_present h hx]
  rfl

theorem number_of_double {x : Binary64} (h : params.get? name = some (.ofDouble x)) :
    params.number name = .ok x :=
  number_of_present (present?_of_get? h rfl) rfl

end Params

theorem Json.Number.toDouble?_of_ofInt? {i : Int} {n : Json.Number} (h : ofInt? i = some n) :
    n.toDouble? = Binary64.ofInt? i := by
  unfold ofInt? at h
  split at h
  · rename_i hneg
    obtain rfl := Option.some.inj h
    rw [toDouble?]
    congr 1
    simp only
    omega
  · split at h
    · rename_i hnat
      obtain rfl := Option.some.inj h
      have hlt : i.toNat < 2 ^ 64 := by omega
      rw [toDouble?, UInt64.toNat_ofNat_of_lt' hlt]
      congr 1
      omega
    · cases h

theorem Json.Number.exists_ofInt? {i : Int} (hlow : -2 ^ 63 ≤ i) (hhigh : i < 2 ^ 63) :
    ∃ n, ofInt? i = some n := by
  unfold ofInt?
  split
  · exact ⟨_, rfl⟩
  · exact ⟨_, if_pos (by omega)⟩

theorem Json.ofCoordinate_unsignZero (x : Binary64) :
    Json.ofCoordinate x.unsignZero = Json.ofCoordinate x := by
  by_cases h : x.significand = 0
  · have hwhole : x.isWhole = true := by simp [Binary64.isWhole, Binary64.units, h]
    have hpart := Binary64.wholePart_of_significand_eq_zero h
    have hint : x.toInt = 0 := by simp [Binary64.toInt, hpart]
    simp [ofCoordinate, hwhole, hpart, hint, Binary64.toInt_unsignZero, Number.ofInt?]
  · rw [Binary64.unsignZero_of_ne h]

/-- A coordinate is read back from what is written for it. -/
theorem Params.double?_ofCoordinate (x : Binary64) :
    Params.double? (Json.ofCoordinate x) = some x.unsignZero := by
  rw [Json.ofCoordinate, Params.double?]
  by_cases h : (x.isWhole && decide (x.wholePart < 2 ^ 63)) = true
  · obtain ⟨hwhole, hlt⟩ := Bool.and_eq_true_iff.1 h
    have habs : x.toInt.natAbs < 2 ^ 63 := by
      rw [Binary64.natAbs_toInt]
      exact of_decide_eq_true hlt
    obtain ⟨n, hn⟩ := Json.Number.exists_ofInt? (i := x.toInt) (by omega) (by omega)
    rw [if_pos h, hn, Option.getD_some, Json.Number.toDouble?_of_ofInt? hn, Binary64.ofInt?_toInt hwhole]
  · have hne : x.significand ≠ 0 := by
      intro hzero
      have hpart := Binary64.wholePart_of_significand_eq_zero hzero
      simp [Binary64.isWhole, Binary64.units, hzero, hpart] at h
    rw [if_neg h, Binary64.unsignZero_of_ne hne]
    rfl

namespace Params

variable {params : Params} {name : String}

theorem number_of_coordinate {x : Binary64} (h : params.get? name = some (.ofCoordinate x)) :
    params.number name = .ok x.unsignZero :=
  number_of_present (present?_of_get? h rfl) (double?_ofCoordinate x)

theorem point_of_coordinates {p : Point} {x y : String} (hx : params.get? x = some (.ofCoordinate p.x))
    (hy : params.get? y = some (.ofCoordinate p.y)) :
    params.point x y = .ok ⟨p.x.unsignZero, p.y.unsignZero⟩ := by
  rw [point, number_of_coordinate hx, number_of_coordinate hy]
  rfl

/-! ## Integers that are not negative -/

theorem natural?_eq_some_iff {x : Binary64} {n : UInt64} : natural? x = some n ↔
    (x.negative = false ∨ x.significand = 0) ∧ x.isWhole = true ∧
      UInt64.ofNat (min x.wholePart (2 ^ 64 - 1)) = n := by
  unfold natural?
  by_cases h : ((!x.negative || x.significand == 0) && x.isWhole) = true
  · rw [if_pos h]
    simp only [Bool.and_eq_true, Bool.or_eq_true, Bool.not_eq_true', beq_iff_eq] at h
    simp [h]
  · rw [if_neg h]
    simp only [Bool.and_eq_true, Bool.or_eq_true, Bool.not_eq_true', beq_iff_eq, not_and] at h
    simp only [reduceCtorEq, false_iff, not_and]
    exact fun hsign hwhole => absurd hwhole (h hsign)

/-- The integer that a double is read as stands for a double that is read as the same integer. That is the
first double again, but beyond 64 bits both are cut off at the largest integer. -/
theorem natural?_readBack {x : Binary64} {n : UInt64} (h : natural? x = some n) :
    (Json.Number.natural n).toDouble?.bind natural? = some n := by
  obtain ⟨hsign, hwhole, hn⟩ := natural?_eq_some_iff.1 h
  by_cases hlt : x.wholePart < 2 ^ 64
  · have hpart : n.toNat = x.wholePart := by
      rw [← hn, Nat.min_eq_left (by omega), UInt64.toNat_ofNat_of_lt' hlt]
    have hint : (n.toNat : Int) = x.toInt := by
      rw [hpart, Binary64.toInt]
      rcases hsign with hsign | hzero
      · simp [hsign]
      · simp [Binary64.wholePart_of_significand_eq_zero hzero]
    rw [Json.Number.toDouble?, hint, Binary64.ofInt?_toInt hwhole, Option.bind_some]
    refine natural?_eq_some_iff.2 ⟨?_, hwhole, hn⟩
    rcases hsign with hsign | hzero
    · exact .inl (by simp [Binary64.unsignZero, hsign])
    · exact .inr hzero
  · have hmax : n = UInt64.ofNat (2 ^ 64 - 1) := by
      rw [← hn, Nat.min_eq_right (by omega)]
    rw [hmax]
    decide +kernel

theorem natural?_of_optionalNatural {n : UInt64} (h : params.optionalNatural name = .ok (some n)) :
    ∃ x, natural? x = some n := by
  rw [optionalNatural, bind_eq_ok] at h
  obtain ⟨x?, -, h⟩ := h
  cases x? with
  | none => cases h
  | some x =>
      obtain ⟨m, hm, hsome⟩ := map_eq_ok.1 h
      exact ⟨x, (Option.some.inj hsome) ▸ require_eq_ok.1 hm⟩

theorem optionalNatural_of_absent (h : params.present? name = none) :
    params.optionalNatural name = .ok none := by
  rw [optionalNatural, optionalNumber_of_absent h]
  rfl

theorem optionalNatural_of_natural {x : Binary64} {n : UInt64} (hn : natural? x = some n)
    (h : params.get? name = some (.ofUInt64 n)) : params.optionalNatural name = .ok (some n) := by
  obtain ⟨y, hy, hnat⟩ := Option.bind_eq_some_iff.1 (natural?_readBack hn)
  rw [optionalNatural, optionalNumber_of_present (present?_of_get? h rfl) hy]
  exact map_eq_ok.2 ⟨n, require_eq_ok.2 hnat, rfl⟩

/-- A duration is read back if it is written as a number or, when there is none, as a null or not at all. -/
theorem optionalNatural_readBack {other : Params} {d : Option UInt64}
    (hd : params.optionalNatural name = .ok d)
    (h : other.get? name = d.map Json.ofUInt64 ∨ other.get? name = some (Operation.optionalDuration d)) :
    other.optionalNatural name = .ok d := by
  cases d with
  | none =>
      rcases h with h | h
      · exact optionalNatural_of_absent (present?_of_none h)
      · exact optionalNatural_of_absent (present?_of_null h)
  | some n =>
      obtain ⟨x, hx⟩ := natural?_of_optionalNatural hd
      exact optionalNatural_of_natural hx (h.elim id id)

/-! ## Key codes -/

theorem narrow_eq_ok {n : UInt64} {code : UInt32} :
    narrow name n = .ok code ↔ n.toNat < 2 ^ 32 ∧ n.toUInt32 = code := by
  rw [narrow, require_eq_ok]
  by_cases h : n.toNat < 2 ^ 32 <;> simp [h]

theorem narrow_toUInt64 (code : UInt32) : narrow name code.toUInt64 = .ok code :=
  narrow_eq_ok.2 ⟨code.toNat_lt, by simp⟩

theorem keyCode_readBack {other : Params} {code : UInt32} (hcode : params.keyCode name = .ok code)
    (h : other.get? name = some (.ofUInt32 code)) : other.keyCode name = .ok code := by
  rw [keyCode, bind_eq_ok] at hcode
  obtain ⟨n?, hn?, hcode⟩ := hcode
  obtain ⟨n, hn, hcode⟩ := bind_eq_ok.1 hcode
  obtain rfl := require_eq_ok.1 hn
  obtain ⟨hlt, rfl⟩ := narrow_eq_ok.1 hcode
  have hwide : n.toUInt32.toUInt64 = n := by
    apply UInt64.toNat_inj.1
    simp only [UInt32.toNat_toUInt64, UInt64.toNat_toUInt32]
    omega
  obtain ⟨x, hx⟩ := natural?_of_optionalNatural hn?
  rw [Json.ofUInt32, hwide] at h
  rw [keyCode, optionalNatural_of_natural hx h]
  exact narrow_eq_ok.2 ⟨hlt, rfl⟩

/-! ## Lists -/

theorem list_of_array {items : List Json} (h : params.get? name = some (.array items)) :
    params.list name = .ok items := by
  rw [list, present?_of_get? h rfl]

theorem ne_nil_of_keyCodes {codes : List UInt32} (h : params.keyCodes name = .ok codes) : codes ≠ [] := by
  rw [keyCodes, bind_eq_ok] at h
  obtain ⟨items, -, h⟩ := h
  cases items with
  | nil => cases h
  | cons j rest =>
      rw [List.isEmpty_cons, if_neg Bool.false_ne_true, List.mapM_cons, bind_eq_ok] at h
      obtain ⟨code, -, h⟩ := h
      obtain ⟨others, -, h⟩ := bind_eq_ok.1 h
      exact Except.ok.inj h ▸ List.cons_ne_nil _ _

theorem keyCodes_of_array {codes : List UInt32} (hne : codes ≠ [])
    (h : params.get? name = some (.array (codes.map .ofUInt32))) : params.keyCodes name = .ok codes := by
  rw [keyCodes]
  refine bind_eq_ok.2 ⟨_, list_of_array h, (if_neg (by simpa using hne)).trans ?_⟩
  exact mapM_map fun code _ => narrow_toUInt64 code

theorem ne_nil_of_strings {entries : List String} (h : params.strings name = .ok entries) : entries ≠ [] := by
  rw [strings, bind_eq_ok] at h
  obtain ⟨items, -, h⟩ := h
  obtain ⟨read, -, h⟩ := bind_eq_ok.1 h
  cases read with
  | nil => cases h
  | cons s rest => exact Except.ok.inj h ▸ List.cons_ne_nil _ _

theorem strings_of_array {entries : List String} (hne : entries ≠ [])
    (h : params.get? name = some (.ofStrings entries)) : params.strings name = .ok entries := by
  have hread : (entries.map Json.string).mapM (fun j => require name (.notString j) j.string?) = .ok entries :=
    mapM_map fun s _ => rfl
  rw [strings]
  refine bind_eq_ok.2 ⟨_, list_of_array h, bind_eq_ok.2 ⟨entries, hread, ?_⟩⟩
  exact if_neg (by simpa using hne)

end Params

end SimControl
