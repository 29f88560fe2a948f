import SimControl.Proofs.Catalog.Numeral
import SimControl.Proofs.Device.Required
import SimControl.Proofs.Text.Caseless

/-!
# Lists of key codes

A list of key codes is given as a text, which is taken apart and read when the command is carried out, or as an
array of numbers, which an instruction has been taken apart into before. If the text consists of digits and
separators, both give the key codes that the text lists (`keyCodes_of_text`, `keyCodes_of_numbers`): its pieces have
to be numerals of ten digits, of which none is too big, and there has to be one at least.
-/

namespace SimControl

/-- What lists of numerals are written with: digits of all scripts, white space and commas. -/
def Text.isListChar (c : Char) : Bool :=
  isDecimalDigit c || isListSeparator c

/-- The text is a numeral of the key code, with any zeros in front. -/
structure IsCode (piece : List Char) (code : UInt32) : Prop where
  digits : ∀ c ∈ piece, c.isDigit = true
  value_eq : valueFrom 0 piece = code.toNat

/-- The text lists the key codes, with separators around them. -/
structure ListsCodes (cs : List Char) (codes : List UInt32) : Prop where
  ne_nil : codes ≠ []
  pieces : List.Forall₂ IsCode (Text.pieces Text.isListSeparator cs) codes

instance (piece : List Char) (code : UInt32) : Decidable (IsCode piece code) :=
  decidable_of_iff (piece.all Char.isDigit = true ∧ valueFrom 0 piece = code.toNat)
    ⟨fun h => ⟨List.all_eq_true.1 h.1, h.2⟩, fun h => ⟨List.all_eq_true.2 h.digits, h.value_eq⟩⟩

instance (cs : List Char) (codes : List UInt32) : Decidable (ListsCodes cs codes) :=
  decidable_of_iff (codes ≠ [] ∧ List.Forall₂ IsCode (Text.pieces Text.isListSeparator cs) codes)
    ⟨fun h => ⟨h.1, h.2⟩, fun h => ⟨h.ne_nil, h.pieces⟩⟩

/-- A text lists no other key codes than these. -/
theorem ListsCodes.unique {cs : List Char} {codes others : List UInt32} (h : ListsCodes cs codes)
    (hothers : ListsCodes cs others) : codes = others := by
  refine List.right_unique_forall₂' (fun piece code other hcode hother => ?_) h.pieces hothers.pieces
  exact UInt32.toNat_inj.1 (hcode.value_eq.symm.trans hother.value_eq)

/-! ## Pieces -/

namespace Text

variable {cs piece : List Char}

/-- The pieces of a list of numerals are made of digits. -/
theorem isDecimalDigit_of_mem_pieces (hcs : ∀ c ∈ cs, isListChar c = true) (h : piece ∈ pieces isListSeparator cs) :
    ∀ c ∈ piece, isDecimalDigit c = true := by
  intro c hc
  obtain ⟨hmem, hseparator⟩ := (mem_pieces h).2 c hc
  exact (Bool.or_eq_true_iff.1 (hcs c hmem)).resolve_right (Bool.eq_false_iff.1 hseparator)

/-! ## Numerals -/

/-- Digits of any script, of which only ten are read. -/
structure IsRun (cs : List Char) : Prop where
  ne_nil : cs ≠ []
  digits : ∀ c ∈ cs, isDecimalDigit c = true

theorem IsRun.digits?_eq_some_iff (h : IsRun cs) {n : Nat} :
    digits? (dropPlus cs) = some n ↔ (∀ c ∈ cs, c.isDigit = true) ∧ valueFrom 0 cs = n := by
  rw [digits?_dropPlus_eq_some_iff]
  constructor
  · rintro (hrun | hrun)
    · exact ⟨hrun.digits, hrun.value_eq⟩
    · exact absurd (h.digits _ List.mem_cons_self) (by decide)
  · exact fun hread => .bare ⟨h.ne_nil, hread.1, hread.2⟩

end Text

open Text

variable {piece : List Char} {code : UInt32}

/-- A run of digits is read as a number of 64 bits or, on the way over an instruction, of 63. That it is a number
of 32 bits comes to the same. -/
theorem Text.IsRun.uint64?_eq_some_iff (h : IsRun piece) : uint64? piece = some code.toUInt64 ↔ IsCode piece code := by
  rw [Text.uint64?_eq_some_iff, UInt32.toNat_toUInt64, ← digits?_dropPlus_eq_some_iff, h.digits?_eq_some_iff]
  exact ⟨fun hcode => ⟨hcode.1, hcode.2⟩, fun hcode => ⟨hcode.digits, hcode.value_eq⟩⟩

theorem Text.IsRun.integerValue?_iff (h : IsRun piece) :
    (∃ j, Extractor.integerValue? piece = some j ∧ Params.code? j = some code.toUInt64) ↔ IsCode piece code := by
  have hlt := code.toNat_lt
  by_cases hdigits : ∀ c ∈ piece, c.isDigit = true
  · have hnumeral : IsNumeral (String.ofList piece) := ⟨by simpa using h.ne_nil, by simpa using hdigits⟩
    have hvalue := hnumeral.integerValue?_eq
    rw [numberOf?, String.toList_ofList] at hvalue
    rw [hvalue]
    constructor
    · rintro ⟨j, hj, hcode⟩
      split at hj
      · rename_i hfits
        obtain rfl := Option.some.inj hj
        refine ⟨hdigits, ?_⟩
        have hnat := congrArg UInt64.toNat (Option.some.inj hcode)
        rwa [UInt64.toNat_ofNat_of_lt' (by rw [UInt64.size]; omega), UInt32.toNat_toUInt64] at hnat
      · cases hj
    · intro hcode
      rw [hcode.value_eq, if_pos (by omega)]
      refine ⟨_, rfl, congrArg some (UInt64.toNat_inj.1 ?_)⟩
      rw [UInt64.toNat_ofNat_of_lt' (by rw [UInt64.size]; omega), UInt32.toNat_toUInt64]
  · have hnone : Extractor.integerValue? piece = none := by
      obtain ⟨c, rest, rfl⟩ := List.exists_cons_of_ne_nil h.ne_nil
      have hminus : c ≠ '-' := by
        rintro rfl
        exact absurd (h.digits _ List.mem_cons_self) (by decide)
      have hread : digits? (dropPlus (c :: rest)) = none :=
        Option.eq_none_iff_forall_ne_some.2 fun n hn => hdigits (h.digits?_eq_some_iff.1 hn).1
      rw [Extractor.integerValue?, signed64?_of_ne hminus, hread]
      rfl
    rw [hnone]
    constructor
    · rintro ⟨j, hj, -⟩
      cases hj
    · exact fun hcode => absurd hcode.digits hdigits

/-! ## Parameters -/

namespace Params

variable {params : Params} {name : String} {codes : List UInt32}

theorem narrow_require_eq_ok {fault : ParameterFault} {a : Option UInt64} {code : UInt32} :
    (do narrow name (← require name fault a) : Argument UInt32) = .ok code ↔ a = some code.toUInt64 := by
  rw [bind_eq_ok]
  constructor
  · rintro ⟨n, hn, hnarrow⟩
    obtain ⟨hlt, rfl⟩ := narrow_eq_ok.1 hnarrow
    rw [require_eq_ok.1 hn]
    refine congrArg some (UInt64.toNat_inj.1 ?_)
    simp only [UInt32.toNat_toUInt64, UInt64.toNat_toUInt32]
    omega
  · exact fun h => ⟨code.toUInt64, require_eq_ok.2 h, narrow_toUInt64 code⟩

/-- Key codes are read from items that stand for them. -/
theorem keyCodes_eq_ok_iff {items : List Json} (hlist : params.list name = .ok items) :
    params.keyCodes name = .ok codes ↔
      codes ≠ [] ∧ List.Forall₂ (fun j code => code? j = some code.toUInt64) items codes := by
  rw [keyCodes, hlist]
  cases items with
  | nil =>
      constructor
      · intro h
        cases h
      · rintro ⟨hne, hitems⟩
        cases hitems
        exact absurd rfl hne
  | cons j items =>
      refine (mapM_eq_ok_iff (f := fun j => do narrow name (← require name (.notKeyCode j) (code? j)))).trans ?_
      simp only [narrow_require_eq_ok]
      refine ⟨fun h => ⟨?_, h⟩, And.right⟩
      rintro rfl
      cases h

section

variable {cs : List Char} (hcs : ∀ c ∈ cs, isListChar c = true)

include hcs

theorem isRun_of_mem_pieces : ∀ piece ∈ pieces isListSeparator cs, IsRun piece :=
  fun _ h => ⟨(mem_pieces h).1, isDecimalDigit_of_mem_pieces hcs h⟩

theorem keyCodes_of_text {s : String} (hs : s.toList = cs) (hget : params.get? name = some (.string s)) :
    params.keyCodes name = .ok codes ↔ ListsCodes cs codes := by
  have hlist : params.list name =
      .ok ((pieces isListSeparator cs).map fun piece => .string (String.ofList piece)) := by
    rw [list, present?_of_get? hget rfl, ← hs]
  have hpieces : List.Forall₂ (fun j code => code? j = some code.toUInt64)
      ((pieces isListSeparator cs).map fun piece => .string (String.ofList piece)) codes ↔
      List.Forall₂ IsCode (pieces isListSeparator cs) codes := by
    rw [List.forall₂_map_left_iff]
    refine forall₂_congr_of_mem fun piece hpiece code => ?_
    rw [code?, String.toList_ofList, (isRun_of_mem_pieces hcs piece hpiece).uint64?_eq_some_iff]
  rw [keyCodes_eq_ok_iff hlist, hpieces]
  exact ⟨fun h => ⟨h.1, h.2⟩, fun h => ⟨h.ne_nil, h.pieces⟩⟩

/-- Key codes that an instruction gives. They are left out if they are not read as integers. -/
theorem keyCodes_of_numbers (hget : params.get? name =
      ((pieces isListSeparator cs).mapM Extractor.integerValue?).map .array) :
    params.keyCodes name = .ok codes ↔ ListsCodes cs codes := by
  have hpieces : (∃ items, (pieces isListSeparator cs).mapM Extractor.integerValue? = some items ∧
      List.Forall₂ (fun j code => code? j = some code.toUInt64) items codes) ↔
      List.Forall₂ IsCode (pieces isListSeparator cs) codes := by
    simp only [mapM_eq_some_iff]
    rw [forall₂_comp_iff]
    exact forall₂_congr_of_mem fun piece hpiece code => (isRun_of_mem_pieces hcs piece hpiece).integerValue?_iff
  have hlists : ListsCodes cs codes ↔
      codes ≠ [] ∧ List.Forall₂ IsCode (pieces isListSeparator cs) codes :=
    ⟨fun h => ⟨h.ne_nil, h.pieces⟩, fun h => ⟨h.1, h.2⟩⟩
  rw [hlists, ← hpieces]
  cases hitems : (pieces isListSeparator cs).mapM Extractor.integerValue? with
  | none =>
      rw [hitems, Option.map_none] at hget
      obtain ⟨e, he⟩ : ∃ e, params.keyCodes name = .error e :=
        ⟨_, by rw [keyCodes, list, present?_of_none hget]; rfl⟩
      simp [he]
  | some items =>
      rw [hitems, Option.map_some] at hget
      have hlist : params.list name = .ok items := by rw [list, present?_of_get? hget rfl]
      simp [keyCodes_eq_ok_iff hlist]

end

end Params

end SimControl
