import SimControl.Proofs.Catalog.Numeral
import SimControl.Proofs.Decimal
import SimControl.Proofs.Device.Declared
import SimControl.Proofs.Json.Scalar

/-!
# Integers and their numerals

Data that stands for a number is an integer, a double or a text. An integer of 64 bits is read like the text with its
decimal digits, whether it is rounded to a double (`double?_text`) or taken as it is (`code?_text`). So it does not
matter to a command which of its numbers are given in which of the two forms: `dispatch_respelled`.
-/

namespace SimControl

/-! ## Digits -/

namespace Text

theorem valueFrom_toDigits (n : Nat) : valueFrom 0 (Nat.toDigits 10 n) = n :=
  Json.Reader.foldl_toDigits n

theorem isDigit_of_mem_toDigits {n : Nat} {c : Char} (h : c ∈ Nat.toDigits 10 n) : c.isDigit = true :=
  Nat.isDigit_of_mem_toDigits (by decide) (by decide) h

/-- The digits of a number are a numeral for it. -/
theorem digitRun_toDigits (n : Nat) : DigitRun (Nat.toDigits 10 n) n :=
  ⟨Nat.toDigits_ne_nil, fun _ => isDigit_of_mem_toDigits, valueFrom_toDigits n⟩

theorem ne_of_isDigit {c d : Char} (hc : c.isDigit = true) (hd : d.isDigit = false) : c ≠ d := by
  rintro rfl
  rw [hc] at hd
  cases hd

theorem uint64?_toDigits (n : UInt64) : uint64? (Nat.toDigits 10 n.toNat) = some n :=
  uint64?_eq_some_iff.2 (.bare (digitRun_toDigits _))

theorem uint64?_minus (cs : List Char) : uint64? ('-' :: cs) = none := rfl

end Text

namespace Decimal

open Text

/-- The parts of a numeral without point and exponent, for each sign. -/
theorem parts?_of_run {cs : List Char} {m : Nat} (h : DigitRun cs m) : parts? cs = some ⟨false, m, 0⟩ ∧
    parts? ('+' :: cs) = some ⟨false, m, 0⟩ ∧ parts? ('-' :: cs) = some ⟨true, m, 0⟩ := by
  have hall : ∀ c ∈ cs, isDigit c = true := fun c hc =>
    of_isDigit (p := (isDigit · = true)) (by decide) (h.digits c hc)
  have hspan : cs.span isDigit = (cs, []) := by
    rw [List.span_eq_takeWhile_dropWhile, List.takeWhile_eq_self_iff.2 hall, List.dropWhile_eq_nil_iff.2 hall]
  have hsign : takeSign cs = (false, cs) := by
    obtain ⟨c, rest, rfl⟩ := List.exists_cons_of_ne_nil h.ne_nil
    have hc := h.digits c List.mem_cons_self
    rw [takeSign_of_ne (ne_of_isDigit hc (by decide)) (ne_of_isDigit hc (by decide))]
  have hdigits := digits?_eq_some_iff.2 h
  refine ⟨?_, ?_, ?_⟩
  · simp only [parts?, hsign, hspan, fraction, List.append_nil, hdigits, exponent?]
    rfl
  · simp only [parts?, takeSign, hspan, fraction, List.append_nil, hdigits, exponent?]
    rfl
  · simp only [parts?, takeSign, hspan, fraction, List.append_nil, hdigits, exponent?]
    rfl

theorem parts?_of_numeral {cs : List Char} {m : Nat} (h : UnsignedNumeral cs m) :
    parts? cs = some ⟨false, m, 0⟩ := by
  cases h with
  | bare run => exact (parts?_of_run run).1
  | plus run => exact (parts?_of_run run).2.1

end Decimal

/-- An integer is rounded in one way, whether it is read from digits or not. -/
theorem Binary64.ofDecimal?_natural (negative : Bool) {m : Nat} (hm : m < 10 ^ 310) :
    ofDecimal? negative m 0 = ofUnits? negative (m * one) 1 := by
  rcases Nat.eq_zero_or_pos m with rfl | hpos
  · cases negative <;> decide +kernel
  · have hlength : (Nat.toDigits 10 m).length ≤ 310 := (Nat.length_toDigits_le_iff (by decide) (by decide)).2 hm
    rw [ofDecimal?, if_neg (by omega), if_neg (by omega), if_pos (by decide), Int.toNat_zero, Nat.pow_zero, Nat.mul_one]

/-! ## Integers in data -/

namespace Json

/-- The same data, or an integer and the text with its decimal digits. -/
inductive Respelled : Json → Json → Prop
  | same (j : Json) : Respelled j j
  | natural (n : UInt64) : Respelled (.number (.natural n)) (.string (String.ofList (Number.natural n).text))
  | negative (n : Negative) : Respelled (.number (.negative n)) (.string (String.ofList (Number.negative n).text))

/-- The same data, or arrays with the same items in the same order, some of them respelled. -/
inductive ItemsRespelled : Json → Json → Prop
  | same (j : Json) : ItemsRespelled j j
  | items {items others : List Json} (h : List.Forall₂ Respelled items others) :
      ItemsRespelled (.array items) (.array others)

theorem Respelled.isNull_eq {j k : Json} (h : Respelled j k) : j.isNull = k.isNull := by
  cases h <;> rfl

theorem ItemsRespelled.isNull_eq {j k : Json} (h : ItemsRespelled j k) : j.isNull = k.isNull := by
  cases h <;> rfl

end Json

namespace Params

/-- The digits of a text are read as they are, without blanks or decimal marks in the way. -/
theorem double?_digits {cs : List Char} (h : ∀ c ∈ cs, c.isDigit = true ∨ c = '+' ∨ c = '-') :
    double? (.string (String.ofList cs)) =
      (Decimal.parts? cs).bind fun p => Binary64.ofDecimal? p.negative p.digits p.scale := by
  have hblank : ∀ c ∈ cs, Text.isBlank c = false := by
    intro c hc
    rcases h c hc with hdigit | rfl | rfl
    · exact Text.isBlank_of_isDigit hdigit
    · decide
    · decide
  have hmark : (cs.map fun c => if c == ',' then '.' else c) = cs := by
    refine (List.map_congr_left fun c hc => if_neg ?_).trans (List.map_id cs)
    rcases h c hc with hdigit | rfl | rfl
    · exact fun hcomma => Text.ne_of_isDigit hdigit (by decide) (beq_iff_eq.1 hcomma)
    · decide
    · decide
  rw [double?, String.toList_ofList, Text.trim_of_no_blank hblank, Decimal.localNumeral?, hmark, Decimal.numeral?_eq]

/-- An integer and its text stand for the same double. -/
theorem double?_respelled {j k : Json} (h : j.Respelled k) : double? j = double? k := by
  cases h with
  | same => rfl
  | natural n =>
      have hlt : n.toNat < 10 ^ 310 := Nat.lt_trans n.toNat_lt (by decide +kernel)
      rw [Json.Number.text, double?_digits fun c hc => .inl (Text.isDigit_of_mem_toDigits hc),
        (Decimal.parts?_of_run (Text.digitRun_toDigits _)).1, Option.bind_some, Binary64.ofDecimal?_natural _ hlt,
        ← Binary64.ofInt?_natCast]
      rfl
  | negative n =>
      have hlt : n.magnitude < 10 ^ 310 := Nat.lt_of_le_of_lt n.bounded (by decide +kernel)
      have hneg : decide (-(n.magnitude : Int) < 0) = true := by
        have := n.positive
        exact decide_eq_true (by omega)
      rw [Json.Number.text, double?_digits, (Decimal.parts?_of_run (Text.digitRun_toDigits _)).2.2, Option.bind_some,
        Binary64.ofDecimal?_natural _ hlt, double?, Json.Number.toDouble?, Binary64.ofInt?, hneg, Int.natAbs_neg,
        Int.natAbs_natCast]
      intro c hc
      exact (List.mem_cons.1 hc).symm.imp Text.isDigit_of_mem_toDigits .inr

/-- An integer and its text stand for the same key code. -/
theorem code?_respelled {j k : Json} (h : j.Respelled k) : code? j = code? k := by
  cases h with
  | same => rfl
  | natural n => rw [code?, code?, String.toList_ofList, Json.Number.text, Text.uint64?_toDigits]; rfl
  | negative n => rw [code?, code?, String.toList_ofList, Json.Number.text, Text.uint64?_minus]; rfl

end Params

/-! ## Readings that come to the same -/

section

variable {α β : Type}

/-- Both readings give the same, or both fail because of the same parameter. -/
inductive Argument.Alike : Argument α → Argument α → Prop
  | ok (a : α) : Alike (.ok a) (.ok a)
  | error (name : String) (fault fault' : ParameterFault) : Alike (.error ⟨name, fault⟩) (.error ⟨name, fault'⟩)

namespace Argument.Alike

variable {x y : Argument α} {name : String}

theorem refl (x : Argument α) : Alike x x := by
  cases x with
  | ok a => exact .ok a
  | error e => exact .error e.name e.fault e.fault

theorem of_eq (h : x = y) : Alike x y :=
  h ▸ refl x

theorem bind {f g : α → Argument β} (hxy : Alike x y) (hfg : ∀ a, Alike (f a) (g a)) : Alike (x >>= f) (y >>= g) := by
  cases hxy with
  | ok a => exact hfg a
  | error name fault fault' => exact .error name fault fault'

theorem map (hxy : Alike x y) (f : α → β) : Alike (x.map f) (y.map f) := by
  cases hxy with
  | ok a => exact .ok (f a)
  | error name fault fault' => exact .error name fault fault'

/-- Only what is said of a value that is missing may differ. -/
theorem require (fault fault' : ParameterFault) {a b : Option α} (h : a = b) :
    Alike (Params.require name fault a) (Params.require name fault' b) := by
  subst h
  cases a with
  | some a => exact .ok a
  | none => exact .error name fault fault'

theorem mapM {R : α → α → Prop} {f : α → Argument β} (hf : ∀ a b, R a b → Alike (f a) (f b)) {as bs : List α}
    (h : List.Forall₂ R as bs) : Alike (as.mapM f) (bs.mapM f) := by
  induction h with
  | nil => exact .ok []
  | cons hab _ ih =>
      rw [List.mapM_cons, List.mapM_cons]
      exact (hf _ _ hab).bind fun b => ih.bind fun bs => .ok (b :: bs)

end Argument.Alike

end

namespace Params

open Argument

variable {params other : Params} {name : String}

theorem present?_rel {R : Json → Json → Prop} (hR : ∀ j k, R j k → j.isNull = k.isNull)
    (h : Option.Rel R (params.get? name) (other.get? name)) :
    Option.Rel R (params.present? name) (other.present? name) := by
  rw [present?, present?]
  generalize params.get? name = given, other.get? name = respelled at h
  cases h with
  | none => exact .none
  | @some j k hjk =>
      rw [Option.filter_some, Option.filter_some, hR j k hjk]
      split
      · exact .some hjk
      · exact .none

theorem optionalNumber_alike (h : Option.Rel Json.Respelled (params.get? name) (other.get? name)) :
    (params.optionalNumber name).Alike (other.optionalNumber name) := by
  have hpresent := present?_rel (fun _ _ => Json.Respelled.isNull_eq) h
  rw [optionalNumber, optionalNumber]
  generalize params.present? name = given, other.present? name = respelled at hpresent
  cases hpresent with
  | none => exact .ok none
  | some hjk => exact (Alike.require _ _ (double?_respelled hjk)).map some

theorem number_alike (h : Option.Rel Json.Respelled (params.get? name) (other.get? name)) :
    (params.number name).Alike (other.number name) :=
  (optionalNumber_alike h).bind fun _ => .refl _

theorem optionalNatural_alike (h : Option.Rel Json.Respelled (params.get? name) (other.get? name)) :
    (params.optionalNatural name).Alike (other.optionalNatural name) :=
  (optionalNumber_alike h).bind fun _ => .refl _

theorem keyCode_alike (h : Option.Rel Json.Respelled (params.get? name) (other.get? name)) :
    (params.keyCode name).Alike (other.keyCode name) :=
  (optionalNatural_alike h).bind fun _ => .refl _

theorem point_alike {x y : String} (hx : Option.Rel Json.Respelled (params.get? x) (other.get? x))
    (hy : Option.Rel Json.Respelled (params.get? y) (other.get? y)) : (params.point x y).Alike (other.point x y) :=
  (number_alike hx).bind fun _ => (number_alike hy).bind fun _ => .refl _

theorem list_respelled (h : Option.Rel Json.ItemsRespelled (params.get? name) (other.get? name)) :
    params.list name = other.list name ∨ ∃ items others, params.list name = .ok items ∧
      other.list name = .ok others ∧ List.Forall₂ Json.Respelled items others := by
  have hpresent := present?_rel (fun _ _ => Json.ItemsRespelled.isNull_eq) h
  rw [list, list]
  generalize params.present? name = given, other.present? name = respelled at hpresent
  cases hpresent with
  | none => exact .inl rfl
  | some hitems =>
      cases hitems with
      | same => exact .inl rfl
      | items hitems => exact .inr ⟨_, _, rfl, rfl, hitems⟩

/-- A key code is read like its text, up to what is said of it if it is none. -/
theorem keyCodes_alike (h : Option.Rel Json.ItemsRespelled (params.get? name) (other.get? name)) :
    (params.keyCodes name).Alike (other.keyCodes name) := by
  rcases list_respelled h with hlist | ⟨items, others, hitems, hothers, hrespelled⟩
  · exact .of_eq (by rw [keyCodes, keyCodes, hlist])
  · rw [keyCodes, keyCodes, hitems, hothers]
    cases hrespelled with
    | nil => exact .error name .noKeyCodes .noKeyCodes
    | cons hfirst hrest =>
        refine Alike.mapM (fun j k hjk => ?_) (.cons hfirst hrest)
        exact (Alike.require _ _ (code?_respelled hjk)).bind fun _ => .refl _

end Params

/-! ## Commands -/

namespace CommandKind

/-- The parameters of a command that are numbers. -/
def numbers : CommandKind → List String
  | .describePoint => ["x", "y"]
  | .tap => ["x", "y", "duration"]
  | .swipe => ["startX", "startY", "endX", "endY", "duration"]
  | .pressDeviceButton => ["duration"]
  | .pressKey => ["keyCode", "duration"]
  | .setLocation => ["latitude", "longitude"]
  | _ => []

def numberLists : CommandKind → List String
  | .pressKeySequence => ["keyCodes"]
  | _ => []

theorem numbers_disjoint {kind : CommandKind} {name : String} (h : name ∈ kind.numbers) : name ∉ kind.numberLists := by
  cases kind with
  | pressKeySequence => cases h
  | _ => exact List.not_mem_nil

/-- Any of the integers among the parameters of a command may have become texts. -/
structure Respelled (kind : CommandKind) (params other : Params) : Prop where
  numbers : ∀ name ∈ kind.numbers, Option.Rel Json.Respelled (params.get? name) (other.get? name)
  lists : ∀ name ∈ kind.numberLists, Option.Rel Json.ItemsRespelled (params.get? name) (other.get? name)
  others : ∀ name, name ∉ kind.numbers → name ∉ kind.numberLists → other.get? name = params.get? name

theorem Respelled.refl (kind : CommandKind) (params : Params) : kind.Respelled params params where
  numbers name _ := by
    cases params.get? name with
    | none => exact .none
    | some j => exact .some (.same j)
  lists name _ := by
    cases params.get? name with
    | none => exact .none
    | some j => exact .some (.same j)
  others _ _ _ := rfl

theorem Respelled.insert {kind : CommandKind} {params other : Params} (h : kind.Respelled params other) {name : String}
    (hname : name ∈ kind.numbers) {j k : Json} (hget : params.get? name = some j) (hjk : j.Respelled k) :
    kind.Respelled params (other.insert name k) where
  numbers key hkey := by
    rw [Dictionary.get?_insert]
    split
    · rename_i heq
      rw [heq, hget]
      exact .some hjk
    · exact h.numbers key hkey
  lists key hkey := by
    rw [Dictionary.get?_insert, if_neg]
    · exact h.lists key hkey
    · rintro rfl
      exact numbers_disjoint hname hkey
  others key hnumbers hlists := by
    rw [Dictionary.get?_insert, if_neg]
    · exact h.others key hnumbers hlists
    · rintro rfl
      exact hnumbers hname

end CommandKind

namespace Operation

open Argument Params

variable {kind : CommandKind} {params other : Params}

theorem ofParams_alike (h : kind.Respelled params other) :
    (ofParams kind params).Alike (ofParams kind other) := by
  have hduration : "duration" ∈ kind.numbers →
      (params.optionalNatural "duration").Alike (other.optionalNatural "duration") :=
    fun hname => optionalNatural_alike (h.numbers _ hname)
  have hsame : kind.numbers = [] → kind.numberLists = [] → (ofParams kind params).Alike (ofParams kind other) :=
    fun hnumbers hlists => .of_eq <| (reads_ofParams kind).congr fun name _ => Params.present?_congr <|
      (h.others name (hnumbers ▸ List.not_mem_nil) (hlists ▸ List.not_mem_nil)).symm
  cases kind with
  | describePoint =>
      exact (point_alike (h.numbers "x" (by decide)) (h.numbers "y" (by decide))).bind fun _ => .refl _
  | tap =>
      exact (point_alike (h.numbers "x" (by decide)) (h.numbers "y" (by decide))).bind fun _ => .refl _
  | swipe =>
      exact (point_alike (h.numbers "startX" (by decide)) (h.numbers "startY" (by decide))).bind fun _ =>
        (point_alike (h.numbers "endX" (by decide)) (h.numbers "endY" (by decide))).bind fun _ =>
          (hduration (by decide)).bind fun _ => .refl _
  | pressDeviceButton =>
      have hbutton : params.button "button" = other.button "button" := by
        refine (reads_button "button").congr fun name hname => ?_
        obtain rfl := List.mem_singleton.1 hname
        exact Params.present?_congr (h.others "button" (by decide) (by decide)).symm
      exact (Alike.of_eq hbutton).bind fun _ => (hduration (by decide)).bind fun _ => .refl _
  | pressKey =>
      exact (keyCode_alike (h.numbers "keyCode" (by decide))).bind fun _ =>
        (hduration (by decide)).bind fun _ => .refl _
  | pressKeySequence =>
      exact (keyCodes_alike (h.lists "keyCodes" (by decide))).bind fun _ => .refl _
  | setLocation =>
      exact (number_alike (h.numbers "latitude" (by decide))).bind fun _ =>
        (number_alike (h.numbers "longitude" (by decide))).bind fun _ => .refl _
  | _ => exact hsame rfl rfl

end Operation

/-- Integers of 64 bits among the numbers of a command, or among the entries of a list of numbers, may as well be
given as texts: either the device is called once with the same operation and the outcome is the same, or both times
the same parameter is at fault and the device is not called. -/
theorem dispatch_respelled {σ : Type} (backend : Backend σ) {kind : CommandKind} {params other : Params}
    (h : kind.Respelled params other) (session : String) (w : World σ) :
    (∃ operation, Operation.ofParams kind params = .ok operation ∧
      dispatch backend kind params session w =
        ((backend ⟨operation, session⟩ w.device).ending.outcome kind ⟨operation, session⟩,
          w.afterAttempt ⟨operation, session⟩ (backend ⟨operation, session⟩ w.device)) ∧
      dispatch backend kind other session w = dispatch backend kind params session w) ∨
    ∃ name reason reason',
      dispatch backend kind params session w = (.error (.invalidParameter name reason), w) ∧
      dispatch backend kind other session w = (.error (.invalidParameter name reason'), w) := by
  have halike := Operation.ofParams_alike h
  cases hread : Operation.ofParams kind params with
  | ok operation =>
      have hother : Operation.ofParams kind other = .ok operation := by
        rw [hread] at halike
        generalize Operation.ofParams kind other = reading at halike
        cases halike
        rfl
      refine .inl ⟨operation, rfl, dispatch_of_ok hread session w, ?_⟩
      rw [dispatch_of_ok hread, dispatch_of_ok hother]
  | error e =>
      obtain ⟨fault, hother⟩ : ∃ fault, Operation.ofParams kind other = .error ⟨e.name, fault⟩ := by
        rw [hread] at halike
        generalize Operation.ofParams kind other = reading at halike
        cases halike with
        | error name _ fault => exact ⟨fault, rfl⟩
      exact .inr ⟨e.name, _, _, dispatch_of_error hread session w, dispatch_of_error hother session w⟩

/-- A long swipe from a point beyond the precision of doubles. -/
def farSwipe : Params :=
  .ofList [("startX", .ofUInt64 9007199254740993), ("startY", .number (.negative ⟨40, by decide, by decide⟩)),
    ("endX", .string "7,5"), ("endY", .ofUInt64 0), ("duration", .ofUInt64 18446744073709551615)]

/-- The swipe with some of its numbers as texts. -/
def farSwipeSpelled : Params :=
  ((farSwipe.insert "startX" (.string "9007199254740993")).insert "startY" (.string "-40")).insert "duration"
    (.string "18446744073709551615")

/-- The device is asked for the same swipe, from the nearest point that there is. -/
theorem dispatch_respelled_farSwipe :
    let nearest : Binary64 := ⟨false, 2 ^ 52, 1075, by decide, by decide, by decide⟩
    let minusForty : Binary64 := ⟨true, 40 * 2 ^ 47, 1027, by decide, by decide, by decide⟩
    let sevenAndHalf : Binary64 := ⟨false, 15 * 2 ^ 49, 1024, by decide, by decide, by decide⟩
    let swipe : Operation := .swipe ⟨nearest, minusForty⟩ ⟨sevenAndHalf, .zero false⟩ (some 18446744073709551615)
    (dispatch DryRun.backend .swipe farSwipe "pad" ⟨[], 0, []⟩).2.calls = [⟨swipe, "pad"⟩] ∧
    (dispatch DryRun.backend .swipe farSwipeSpelled "pad" ⟨[], 0, []⟩).2.calls = [⟨swipe, "pad"⟩] := by
  intro nearest minusForty sevenAndHalf swipe
  have hx : (Json.ofUInt64 9007199254740993).Respelled (.string "9007199254740993") := by
    rw [show "9007199254740993" = String.ofList (Json.Number.natural 9007199254740993).text by decide]
    exact .natural _
  have hy : (Json.number (.negative ⟨40, by decide, by decide⟩)).Respelled (.string "-40") := .negative _
  have hduration : (Json.ofUInt64 18446744073709551615).Respelled (.string "18446744073709551615") := by
    rw [show "18446744073709551615" = String.ofList (Json.Number.natural 18446744073709551615).text by decide]
    exact .natural _
  have hstart : CommandKind.swipe.Respelled farSwipe (farSwipe.insert "startX" (.string "9007199254740993")) :=
    (CommandKind.Respelled.refl .swipe farSwipe).insert (by decide) rfl hx
  have hrespelled : CommandKind.swipe.Respelled farSwipe farSwipeSpelled :=
    (hstart.insert (by decide : "startY" ∈ _) rfl hy).insert (by decide : "duration" ∈ _) rfl hduration
  have hcalls : (dispatch DryRun.backend .swipe farSwipe "pad" ⟨[], 0, []⟩).2.calls = [⟨swipe, "pad"⟩] := by
    decide +kernel
  rcases dispatch_respelled DryRun.backend hrespelled "pad" ⟨[], 0, []⟩ with
    ⟨operation, -, -, hsame⟩ | ⟨name, reason, reason', hrun, -⟩
  · rw [hsame]
    exact ⟨hcalls, hcalls⟩
  · rw [hrun] at hcalls
    cases hcalls

end SimControl
