import SimControl.Text.Blank
import SimControl.Text.Folding
import SimControl.Text.Numeral

/-!
# Numerals of integers

The ten digits of numerals have no case and are no white space. What is read as an integer is a run of them, with a
sign in front of it or without one, whose value is within the limits of the integer. The readers are told apart by
their limits and by whether they take a minus sign: `unsigned?_eq_some_iff` and `signed64?_eq_some_iff`.
-/

namespace SimControl

/-- The decimal value of a run of digits that continues a numeral. -/
def valueFrom (value : Nat) (cs : List Char) : Nat :=
  cs.foldl (fun value c => value * 10 + (c.toNat - '0'.toNat)) value

namespace Text

/-! ## Digits -/

def digits : List Char :=
  ['0', '1', '2', '3', '4', '5', '6', '7', '8', '9']

theorem mem_digits {c : Char} (h : c.isDigit = true) : c ∈ digits := by
  have hbounds := Char.isDigit_iff_toNat.1 h
  have hall : ∀ n ∈ List.range 58, 48 ≤ n → Char.ofNat n ∈ digits := by decide +kernel
  exact Char.ofNat_toNat c ▸ hall c.toNat (List.mem_range.2 (Nat.lt_succ_of_le hbounds.2)) hbounds.1

theorem of_isDigit {p : Char → Prop} [DecidablePred p] (hall : digits.all (fun c => decide (p c)) = true) {c : Char}
    (h : c.isDigit = true) : p c :=
  of_decide_eq_true (List.all_eq_true.1 hall c (mem_digits h))

theorem fold_of_isDigit {c : Char} (h : c.isDigit = true) : fold c = c :=
  of_isDigit (p := fun c => fold c = c) (by decide +kernel) h

theorem isBlank_of_isDigit {c : Char} (h : c.isDigit = true) : isBlank c = false :=
  of_isDigit (p := fun c => isBlank c = false) (by decide +kernel) h

theorem digitValue?_of_isDigit {c : Char} (h : c.isDigit = true) : digitValue? c = some (c.toNat - '0'.toNat) :=
  of_isDigit (p := fun c => digitValue? c = some (c.toNat - '0'.toNat)) (by decide +kernel) h

theorem isDigit_of_digitValue? {c : Char} {d : Nat} (h : digitValue? c = some d) : c.isDigit = true := by
  rw [digitValue?] at h
  split at h
  · rename_i hrange
    simpa [Char.isDigit, Char.le_def] using hrange
  · cases h

theorem digitsFrom_of_digits {cs : List Char} (h : ∀ c ∈ cs, c.isDigit = true) (value : Nat) :
    digitsFrom value cs = some (valueFrom value cs) := by
  induction cs generalizing value with
  | nil => rfl
  | cons c cs ih =>
      rw [List.forall_mem_cons] at h
      rw [digitsFrom, digitValue?_of_isDigit h.1, Option.bind_some, ih h.2]
      rfl

theorem digitsFrom_eq_some_iff {cs : List Char} {value n : Nat} :
    digitsFrom value cs = some n ↔ (∀ c ∈ cs, c.isDigit = true) ∧ valueFrom value cs = n := by
  constructor
  · intro h
    have hdigits : ∀ c ∈ cs, c.isDigit = true := by
      induction cs generalizing value with
      | nil => exact List.forall_mem_nil _
      | cons c cs ih =>
          obtain ⟨d, hd, hrest⟩ := Option.bind_eq_some_iff.1 h
          exact List.forall_mem_cons.2 ⟨isDigit_of_digitValue? hd, ih hrest⟩
    exact ⟨hdigits, Option.some.inj ((digitsFrom_of_digits hdigits value).symm.trans h)⟩
  · rintro ⟨hdigits, rfl⟩
    exact digitsFrom_of_digits hdigits value

theorem dropPlus_of_ne {c : Char} (h : c ≠ '+') (rest : List Char) : dropPlus (c :: rest) = c :: rest := by
  simp [dropPlus, h]

theorem signed64?_of_ne {c : Char} (h : c ≠ '-') (rest : List Char) :
    signed64? (c :: rest) = ((digits? (dropPlus (c :: rest))).filter (· < 2 ^ 63)).map Int.ofNat := by
  rw [signed64?]
  rintro _ ⟨⟩
  exact h rfl

/-! ## Numerals -/

/-- A run of digits and the number that it stands for, with any zeros in front. -/
structure DigitRun (cs : List Char) (n : Nat) : Prop where
  ne_nil : cs ≠ []
  digits : ∀ c ∈ cs, c.isDigit = true
  value_eq : valueFrom 0 cs = n

/-- A numeral that may begin with a plus sign. -/
inductive UnsignedNumeral : List Char → Nat → Prop
  | bare {cs : List Char} {n : Nat} (run : DigitRun cs n) : UnsignedNumeral cs n
  | plus {cs : List Char} {n : Nat} (run : DigitRun cs n) : UnsignedNumeral ('+' :: cs) n

/-- A numeral that may begin with either sign. -/
inductive SignedNumeral : List Char → Int → Prop
  | unsigned {cs : List Char} {n : Nat} (numeral : UnsignedNumeral cs n) : SignedNumeral cs n
  | minus {cs : List Char} {n : Nat} (run : DigitRun cs n) : SignedNumeral ('-' :: cs) (-n)

/-- A numeral of a signed integer of 64 bits. -/
structure Numeral64 (cs : List Char) (i : Int) : Prop where
  numeral : SignedNumeral cs i
  low : -2 ^ 63 ≤ i
  high : i < 2 ^ 63

variable {cs : List Char} {n : Nat}

theorem digits?_eq_some_iff : digits? cs = some n ↔ DigitRun cs n := by
  cases cs with
  | nil =>
      constructor
      · intro h
        cases h
      · exact fun h => absurd rfl h.ne_nil
  | cons c rest =>
      rw [digits?, List.isEmpty_cons, if_neg Bool.false_ne_true, digitsFrom_eq_some_iff]
      exact ⟨fun h => ⟨List.cons_ne_nil _ _, h.1, h.2⟩, fun h => ⟨h.digits, h.value_eq⟩⟩

theorem DigitRun.head_ne (h : DigitRun cs n) {sign : Char} (hsign : sign.isDigit = false) :
    ∃ c rest, cs = c :: rest ∧ c ≠ sign := by
  obtain ⟨c, rest, rfl⟩ := List.exists_cons_of_ne_nil h.ne_nil
  refine ⟨c, rest, rfl, ?_⟩
  rintro rfl
  exact absurd (h.digits _ List.mem_cons_self) (Bool.eq_false_iff.1 hsign)

theorem digits?_dropPlus_eq_some_iff : digits? (dropPlus cs) = some n ↔ UnsignedNumeral cs n := by
  rw [digits?_eq_some_iff]
  constructor
  · intro h
    unfold dropPlus at h
    split at h
    · exact .plus h
    · exact .bare h
  · rintro (h | h)
    · obtain ⟨c, rest, rfl, hplus⟩ := h.head_ne (show '+'.isDigit = false by decide)
      rwa [dropPlus_of_ne hplus]
    · exact h

/-! ## Readers -/

theorem unsigned?_eq_some_iff {limit : Nat} : unsigned? limit cs = some n ↔ UnsignedNumeral cs n ∧ n < limit := by
  rw [unsigned?, Option.filter_eq_some_iff, digits?_dropPlus_eq_some_iff, decide_eq_true_iff]

/-- A type of the naturals below a limit is read as they are. -/
theorem unsigned?_map_eq_some_iff {α : Type} {limit : Nat} {ofNat : Nat → α} {toNat : α → Nat}
    (hbelow : ∀ a, toNat a < limit) (hto : ∀ {m}, m < limit → toNat (ofNat m) = m) (hof : ∀ a, ofNat (toNat a) = a)
    {a : α} : (unsigned? limit cs).map ofNat = some a ↔ UnsignedNumeral cs (toNat a) := by
  rw [Option.map_eq_some_iff]
  constructor
  · rintro ⟨m, hm, rfl⟩
    obtain ⟨hnumeral, hlt⟩ := unsigned?_eq_some_iff.1 hm
    rwa [hto hlt]
  · exact fun h => ⟨toNat a, unsigned?_eq_some_iff.2 ⟨h, hbelow a⟩, hof a⟩

theorem uint64?_eq_some_iff {n : UInt64} : uint64? cs = some n ↔ UnsignedNumeral cs n.toNat :=
  unsigned?_map_eq_some_iff UInt64.toNat_lt UInt64.toNat_ofNat_of_lt' fun _ => UInt64.ofNat_toNat

theorem uint32?_eq_some_iff {n : UInt32} : uint32? cs = some n ↔ UnsignedNumeral cs n.toNat :=
  unsigned?_map_eq_some_iff UInt32.toNat_lt UInt32.toNat_ofNat_of_lt' fun _ => UInt32.ofNat_toNat

theorem signed64?_eq_some_iff {i : Int} : signed64? cs = some i ↔ Numeral64 cs i := by
  constructor
  · intro h
    unfold signed64? at h
    split at h
    · obtain ⟨i, hi, rfl⟩ := Option.map_eq_some_iff.1 h
      obtain ⟨m, hm, hcast⟩ := Option.bind_eq_some_iff.1 hi
      obtain rfl : (m : Int) = i := Option.some.inj hcast
      obtain ⟨hread, hlimit⟩ := Option.filter_eq_some_iff.1 hm
      have hle : m ≤ 2 ^ 63 := of_decide_eq_true hlimit
      exact ⟨.minus (digits?_eq_some_iff.1 hread), by omega, by omega⟩
    · obtain ⟨m, hm, rfl⟩ := Option.map_eq_some_iff.1 h
      obtain ⟨hread, hlimit⟩ := Option.filter_eq_some_iff.1 hm
      have hlt : m < 2 ^ 63 := of_decide_eq_true hlimit
      have hcast : Int.ofNat m = (m : Int) := rfl
      exact ⟨.unsigned (digits?_dropPlus_eq_some_iff.1 hread), by omega, by omega⟩
  · rintro ⟨hnumeral | hrun, hlow, hhigh⟩
    · rename_i m
      have hread : (digits? (dropPlus cs)).filter (· < 2 ^ 63) = some m :=
        Option.filter_eq_some_iff.2 ⟨digits?_dropPlus_eq_some_iff.2 hnumeral, decide_eq_true (by omega)⟩
      have hfirst : ∃ c rest, cs = c :: rest ∧ c ≠ '-' := by
        cases hnumeral with
        | bare run => exact run.head_ne (by decide)
        | plus run => exact ⟨_, _, rfl, by decide⟩
      obtain ⟨c, rest, rfl, hminus⟩ := hfirst
      rw [signed64?_of_ne hminus, hread]
      rfl
    · rename_i rest m
      have hread : (digits? rest).filter (· ≤ 2 ^ 63) = some m :=
        Option.filter_eq_some_iff.2 ⟨digits?_eq_some_iff.2 hrun, decide_eq_true (by omega)⟩
      rw [signed64?, hread]
      rfl

end Text

end SimControl
