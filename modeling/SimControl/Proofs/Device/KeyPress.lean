import SimControl.Proofs.Device.Duration
import SimControl.Proofs.Device.Integer
import SimControl.Proofs.Device.KeyCodes

/-!
# Single key codes and lists of them

A single key code is read as a double that has to be whole, an item of a list as an integer that has to be written as
one. The two agree where the integer is written without a point or an exponent (`roundsTo_iff_of_writes`). Everything
else that a double rounds to a key code, such as `4.0`, `1e1` or a minus zero, is a key code on its own and is refused
in a list: `dispatch_key_forms`.
-/

namespace SimControl

namespace Json

/-- The data is written as the natural number: an integer, or digits after a plus sign or no sign. -/
inductive Writes : Json → Nat → Prop
  | number (n : UInt64) : Writes (.number (.natural n)) n.toNat
  | text {s : String} {n : Nat} (numeral : Text.UnsignedNumeral s.toList n) : Writes (.string s) n

/-- The double that is nearest to the data is the key code. -/
def RoundsTo (given : Json) (code : UInt32) : Prop :=
  ∃ x, Params.double? given = some x ∧ x.value = code.toNat

/-- The data comes to a key code, but it is not written as a natural number. -/
structure LooseCode (given : Json) (code : UInt32) : Prop where
  rounds : given.RoundsTo code
  loose : ∀ n, ¬ given.Writes n

end Json

namespace Params

variable {given : Json} {code : UInt32}

/-! ## Integers that are written as such -/

theorem double?_of_numeral {cs : List Char} {n : Nat} (h : Text.UnsignedNumeral cs n) :
    double? (.string (String.ofList cs)) = Binary64.ofInt? n := by
  have hchars : ∀ c ∈ cs, c.isDigit = true ∨ c = '+' ∨ c = '-' := by
    cases h with
    | bare run => exact fun c hc => .inl (run.digits c hc)
    | plus run => exact fun c hc => (List.mem_cons.1 hc).elim (.inr ∘ .inl) (.inl ∘ run.digits c)
  rw [double?_digits hchars, Decimal.parts?_of_numeral h, Option.bind_some]
  rcases Nat.eq_zero_or_pos n with rfl | hn
  · decide +kernel
  · exact Decimal.Parts.ofDecimal?_of_value (p := ⟨false, n, 0⟩) (by simp [Decimal.Parts.value]) hn

theorem double?_of_writes {n : Nat} (h : given.Writes n) : double? given = Binary64.ofInt? n := by
  cases h with
  | number => rfl
  | @text s _ numeral =>
      have hread := double?_of_numeral numeral
      rwa [String.ofList_toList] at hread

/-- What is written as a natural number comes to just that key code. -/
theorem roundsTo_iff_of_writes {n : Nat} (h : given.Writes n) : given.RoundsTo code ↔ n = code.toNat := by
  have hlt := code.toNat_lt
  rw [Json.RoundsTo, double?_of_writes h]
  exact Binary64.rounds_to_small_iff (by omega)

/-- An item of a list has to be written as its key code. -/
theorem code?_eq_some_iff : code? given = some code.toUInt64 ↔ given.Writes code.toNat := by
  have hcode : ∀ {n : UInt64}, n = code.toUInt64 ↔ n.toNat = code.toNat := by
    intro n
    rw [← UInt64.toNat_inj, UInt32.toNat_toUInt64]
  constructor
  · intro h
    cases given with
    | number n =>
        cases n with
        | natural n => exact hcode.1 (Option.some.inj h) ▸ .number n
        | negative => cases h
        | double => cases h
    | string s =>
        have hnumeral := Text.uint64?_eq_some_iff.1 h
        rw [UInt32.toNat_toUInt64] at hnumeral
        exact .text hnumeral
    | null => cases h
    | bool => cases h
    | array => cases h
    | object => cases h
  · generalize hm : code.toNat = m
    rintro (n | hnumeral)
    · exact congrArg some (hcode.2 hm.symm)
    · refine Text.uint64?_eq_some_iff.2 ?_
      rwa [UInt32.toNat_toUInt64, hm]

/-! ## Readers -/

variable {params : Params} {name : String}

theorem roundsTo_iff : given.RoundsTo code ↔ duration? given = some code.toUInt64 := by
  have hlt := code.toNat_lt
  have hn : code.toUInt64.toNat < 2 ^ 64 - 1 := by
    rw [UInt32.toNat_toUInt64]
    omega
  rw [Json.RoundsTo, duration?, Option.bind_eq_some_iff]
  simp only [natural?_eq_some_iff_value hn, UInt32.toNat_toUInt64]

/-- Another spelling of a key code is a loose code. -/
theorem looseCode_of_value (hvalue : given.value? = some (code.toNat : ℚ)) (hloose : ∀ n, ¬ given.Writes n) :
    given.LooseCode code := by
  have hlt := code.toNat_lt
  have hdouble : ∃ x : Binary64, x.value = code.toUInt64.toNat := by
    simpa using Binary64.exists_value (s := code.toNat) (e := 0) (by omega) (by decide)
  have hread := Params.natural?_ofInt?_iff.2 (.inl hdouble)
  rw [UInt32.toNat_toUInt64] at hread
  exact ⟨roundsTo_iff.2 ((duration?_of_value hvalue).trans hread), hloose⟩

theorem keyCode_eq_ok_iff (hget : params.get? name = some given) :
    params.keyCode name = .ok code ↔ given.RoundsTo code := by
  rw [roundsTo_iff]
  cases hnull : given.isNull with
  | true =>
      cases given with
      | null =>
          rw [keyCode, optionalNatural_of_absent (present?_of_null hget)]
          constructor <;> (intro h; cases h)
      | _ => cases hnull
  | false =>
      have hpresent := present?_of_get? hget hnull
      cases hread : duration? given with
      | none =>
          obtain ⟨fault, hfault⟩ := optionalNatural_of_no_duration hpresent hread
          rw [keyCode, hfault]
          constructor <;> (intro h; cases h)
      | some n =>
          rw [keyCode, optionalNatural_of_duration hpresent hread]
          exact (narrow_require_eq_ok : (require name .missing (some n) >>= narrow name) = _ ↔ _)

theorem keyCodes_singleton_eq_ok_iff (hget : params.get? name = some (.array [given])) {codes : List UInt32} :
    params.keyCodes name = .ok codes ↔ ∃ code, codes = [code] ∧ given.Writes code.toNat := by
  rw [keyCodes_eq_ok_iff (list_of_array hget)]
  simp only [code?_eq_some_iff]
  constructor
  · rintro ⟨-, hitems⟩
    obtain ⟨code, rest, hcode, hrest, rfl⟩ := List.forall₂_cons_left_iff.1 hitems
    rw [List.forall₂_nil_left_iff.1 hrest]
    exact ⟨code, rfl, hcode⟩
  · rintro ⟨code, rfl, hcode⟩
    exact ⟨List.cons_ne_nil _ _, .cons hcode .nil⟩

end Params

/-! ## Dispatching -/

section

variable {σ : Type} (backend : Backend σ) (kind : CommandKind) (params : Params) (session : String) (w : World σ)

/-- The device is called once with the operation, and how that ends is the outcome. -/
def CallsOnce (operation : Operation) : Prop :=
  dispatch backend kind params session w =
    ((backend ⟨operation, session⟩ w.device).ending.outcome kind ⟨operation, session⟩,
      w.afterAttempt ⟨operation, session⟩ (backend ⟨operation, session⟩ w.device))

/-- The parameter is refused, and the device is not called. -/
def Refuses (name : String) : Prop :=
  ∃ reason, dispatch backend kind params session w = (.error (.invalidParameter name reason), w)

end

def singleKey (given : Json) : Params :=
  .ofList [("keyCode", given)]

def keyList (given : Json) : Params :=
  .ofList [("keyCodes", .array [given])]

section

variable {σ : Type} (backend : Backend σ) (given : Json) (session : String) (w : World σ)

theorem dispatch_singleKey :
    (∃ code, given.RoundsTo code ∧ CallsOnce backend .pressKey (singleKey given) session w (.pressKey code none)) ∨
      (∀ code, ¬ given.RoundsTo code) ∧ Refuses backend .pressKey (singleKey given) session w "keyCode" := by
  have hget : (singleKey given).get? "keyCode" = some given := rfl
  have hduration : Params.optionalNatural (singleKey given) "duration" = .ok none :=
    Params.optionalNatural_of_absent (Params.present?_of_none rfl)
  rcases (Params.reads_keyCode "keyCode").eq_ok_or (singleKey given) with ⟨code, hread⟩ | ⟨fault, hread⟩
  · have hparams : Operation.ofParams .pressKey (singleKey given) = .ok (.pressKey code none) := by
      rw [Operation.ofParams, hread, hduration]
      rfl
    exact .inl ⟨code, (Params.keyCode_eq_ok_iff hget).1 hread, dispatch_of_ok hparams session w⟩
  · have hparams : Operation.ofParams .pressKey (singleKey given) = .error ⟨"keyCode", fault⟩ := by
      rw [Operation.ofParams, hread]
      rfl
    refine .inr ⟨fun code hcode => ?_, _, dispatch_of_error hparams session w⟩
    cases hread.symm.trans ((Params.keyCode_eq_ok_iff hget).2 hcode)

theorem dispatch_keyList :
    (∃ code, given.Writes code.toNat ∧
      CallsOnce backend .pressKeySequence (keyList given) session w (.pressKeys [code])) ∨
      (∀ code : UInt32, ¬ given.Writes code.toNat) ∧
        Refuses backend .pressKeySequence (keyList given) session w "keyCodes" := by
  have hget : (keyList given).get? "keyCodes" = some (.array [given]) := rfl
  rcases (Params.reads_keyCodes "keyCodes").eq_ok_or (keyList given) with ⟨codes, hread⟩ | ⟨fault, hread⟩
  · obtain ⟨code, rfl, hcode⟩ := (Params.keyCodes_singleton_eq_ok_iff hget).1 hread
    have hparams : Operation.ofParams .pressKeySequence (keyList given) = .ok (.pressKeys [code]) := by
      rw [Operation.ofParams, hread]
      rfl
    exact .inl ⟨code, hcode, dispatch_of_ok hparams session w⟩
  · have hparams : Operation.ofParams .pressKeySequence (keyList given) = .error ⟨"keyCodes", fault⟩ := by
      rw [Operation.ofParams, hread]
      rfl
    refine .inr ⟨fun code hcode => ?_, _, dispatch_of_error hparams session w⟩
    cases hread.symm.trans ((Params.keyCodes_singleton_eq_ok_iff hget).2 ⟨code, rfl, hcode⟩)

/-- A key is pressed on its own and in a list of one alike: either the device is called once for the same code, or both
commands refuse what they are given and the device is not called. The only exceptions are loose codes, which are
pressed on their own and refused in a list. -/
theorem dispatch_key_forms :
    (∃ code, given.LooseCode code ∧
      CallsOnce backend .pressKey (singleKey given) session w (.pressKey code none) ∧
      Refuses backend .pressKeySequence (keyList given) session w "keyCodes") ∨
    (∀ code, ¬ given.LooseCode code) ∧
      ((∃ code, given.Writes code.toNat ∧
          CallsOnce backend .pressKey (singleKey given) session w (.pressKey code none) ∧
          CallsOnce backend .pressKeySequence (keyList given) session w (.pressKeys [code])) ∨
        (∀ code : UInt32, ¬ given.Writes code.toNat) ∧
          Refuses backend .pressKey (singleKey given) session w "keyCode" ∧
          Refuses backend .pressKeySequence (keyList given) session w "keyCodes") := by
  rcases dispatch_keyList backend given session w with ⟨code, hwrites, hlist⟩ | ⟨hnone, hlist⟩
  · have hrounds : given.RoundsTo code := (Params.roundsTo_iff_of_writes hwrites).2 rfl
    refine .inr ⟨fun other hother => hother.loose _ hwrites, .inl ⟨code, hwrites, ?_, hlist⟩⟩
    rcases dispatch_singleKey backend given session w with ⟨other, hother, hsingle⟩ | ⟨hunread, -⟩
    · obtain rfl : code = other := UInt32.toNat_inj.1 ((Params.roundsTo_iff_of_writes hwrites).1 hother)
      exact hsingle
    · exact absurd hrounds (hunread code)
  · rcases dispatch_singleKey backend given session w with ⟨code, hrounds, hsingle⟩ | ⟨hunread, hsingle⟩
    · refine .inl ⟨code, ⟨hrounds, fun n hn => hnone code ?_⟩, hsingle, hlist⟩
      rwa [← (Params.roundsTo_iff_of_writes hn).1 hrounds]
    · exact .inr ⟨fun code hcode => hunread code hcode.rounds, .inr ⟨hnone, hsingle, hlist⟩⟩

end

/-- A plus sign and zeros in front do not matter, but an exponent does. -/
theorem dispatch_key_forms_ten :
    (∃ code, CallsOnce DryRun.backend .pressKey (singleKey (.string "+010")) "pad" ⟨[], 0, []⟩ (.pressKey code none) ∧
      CallsOnce DryRun.backend .pressKeySequence (keyList (.string "+010")) "pad" ⟨[], 0, []⟩ (.pressKeys [code])) ∧
    ∃ code, (Json.string "1e1").LooseCode code ∧
      CallsOnce DryRun.backend .pressKey (singleKey (.string "1e1")) "pad" ⟨[], 0, []⟩ (.pressKey code none) ∧
      Refuses DryRun.backend .pressKeySequence (keyList (.string "1e1")) "pad" ⟨[], 0, []⟩ "keyCodes" := by
  constructor
  · have hwrites : (Json.string "+010").Writes (10 : UInt32).toNat :=
      .text (Text.digits?_dropPlus_eq_some_iff.1 (by decide))
    rcases dispatch_key_forms DryRun.backend (.string "+010") "pad" ⟨[], 0, []⟩ with
      ⟨code, hloose, -⟩ | ⟨-, ⟨code, -, hsingle, hlist⟩ | ⟨hnone, -⟩⟩
    · exact absurd hwrites (hloose.loose _)
    · exact ⟨code, hsingle, hlist⟩
    · exact absurd hwrites (hnone 10)
  · have hvalue : (Json.string "1e1").value? = some ((10 : UInt32).toNat : ℚ) := by
      rw [show (Json.string "1e1").value? = some (Decimal.Parts.value ⟨false, 1, 1⟩) from rfl,
        show (10 : UInt32).toNat = 10 from rfl]
      norm_num [Decimal.Parts.value]
    have hloose : ∀ n, ¬ (Json.string "1e1").Writes n := by
      intro n hn
      cases hn with
      | text numeral => cases Text.digits?_dropPlus_eq_some_iff.2 numeral
    rcases dispatch_key_forms DryRun.backend (.string "1e1") "pad" ⟨[], 0, []⟩ with hall | ⟨hnone, -⟩
    · exact hall
    · exact absurd (Params.looseCode_of_value hvalue hloose) (hnone 10)

end SimControl
