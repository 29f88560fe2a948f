import Mathlib.Data.List.TakeDrop
import SimControl.Decimal.Numeral
import SimControl.Proofs.Text.Numeral
import SimControl.Text.Blank
import SimControl.Text.Case
import SimControl.Text.Folding
import SimControl.Text.Word

/-!
# Texts up to ASCII case

Lowering the ASCII letters of a text changes none of the classes that its characters are told apart by,
neither its full lower case nor its full upper case, and no number that it writes. It commutes with
trimming and with cutting into pieces.
-/

namespace SimControl.Text

/-! ## Characters -/

def capitals : List Char :=
  (List.range 26).map fun i => Char.ofNat (65 + i)

theorem toLower_of_not_mem {c : Char} (h : c ∉ capitals) : c.toLower = c := by
  unfold Char.toLower
  split
  · rename_i hc
    have hlow : 65 ≤ c.toNat := UInt32.le_iff_toNat_le.1 hc.1
    have hhigh : c.toNat ≤ 90 := UInt32.le_iff_toNat_le.1 hc.2
    refine absurd (List.mem_map.2 ⟨c.toNat - 65, ?_, ?_⟩) h
    · exact List.mem_range.2 (by omega)
    · rw [show 65 + (c.toNat - 65) = c.toNat by omega, Char.ofNat_toNat]
  · rfl

/-- What is the same for each of the 26 capital letters and its small letter is the same for every
character and its lower case. -/
theorem toLower_of_capitals {α : Type} [BEq α] [LawfulBEq α] {f : Char → α}
    (h : (capitals.all fun c => f c.toLower == f c) = true) (c : Char) : f c.toLower = f c := by
  by_cases hc : c ∈ capitals
  · exact eq_of_beq (List.all_eq_true.1 h c hc)
  · rw [toLower_of_not_mem hc]

/-- A character that is no letter is the lower case of itself only. -/
theorem toLower_ne {c d : Char} (hd : (capitals.all fun c => (c.toLower == d) == (c == d)) = true) (h : c ≠ d) :
    c.toLower ≠ d := by
  have hsame : (c.toLower == d) = (c == d) := toLower_of_capitals (f := fun c => c == d) hd c
  exact beq_eq_false_iff_ne.1 (hsame.trans (beq_eq_false_iff_ne.2 h))

theorem toLower_toLower (c : Char) : c.toLower.toLower = c.toLower :=
  toLower_of_capitals (by decide) c

theorem isBlank_toLower (c : Char) : isBlank c.toLower = isBlank c :=
  toLower_of_capitals (by decide) c

theorem isListSeparator_toLower (c : Char) : isListSeparator c.toLower = isListSeparator c :=
  toLower_of_capitals (by decide) c

theorem isDecimalDigit_toLower (c : Char) : isDecimalDigit c.toLower = isDecimalDigit c :=
  toLower_of_capitals (by decide) c

theorem isWordChar_toLower (c : Char) : isWordChar c.toLower = isWordChar c :=
  toLower_of_capitals (by decide) c

theorem fold_toLower (c : Char) : fold c.toLower = fold c :=
  toLower_of_capitals (by decide) c

theorem isCased_toLower (c : Char) : isCased c.toLower = isCased c :=
  toLower_of_capitals (by decide +kernel) c

theorem isCaseIgnorable_toLower (c : Char) : isCaseIgnorable c.toLower = isCaseIgnorable c :=
  toLower_of_capitals (by decide +kernel) c

theorem upperChar_toLower (c : Char) : upperChar c.toLower = upperChar c :=
  toLower_of_capitals (by decide) c

theorem lowerChar_toLower (c : Char) : lowerChar c.toLower = lowerChar c :=
  toLower_of_capitals (by decide) c

theorem digitValue?_toLower (c : Char) : digitValue? c.toLower = digitValue? c :=
  toLower_of_capitals (by decide) c

/-! ## Texts -/

theorem asciiLower_cons (c : Char) (cs : List Char) : asciiLower (c :: cs) = c.toLower :: asciiLower cs :=
  rfl

theorem asciiLower_append (as bs : List Char) : asciiLower (as ++ bs) = asciiLower as ++ asciiLower bs :=
  List.map_append

theorem length_asciiLower (cs : List Char) : (asciiLower cs).length = cs.length :=
  List.length_map ..

theorem isEmpty_asciiLower (cs : List Char) : (asciiLower cs).isEmpty = cs.isEmpty :=
  List.isEmpty_map

theorem asciiLower_asciiLower (cs : List Char) : asciiLower (asciiLower cs) = asciiLower cs := by
  rw [asciiLower, asciiLower, List.map_map]
  exact List.map_congr_left fun c _ => toLower_toLower c

theorem sameAscii_iff {a b : List Char} : sameAscii a b = true ↔ asciiLower a = asciiLower b :=
  beq_iff_eq

theorem sameAscii_asciiLower (a b : List Char) : sameAscii (asciiLower a) b = sameAscii a b := by
  simp only [sameAscii, asciiLower_asciiLower]

theorem map_fold_of_sameAscii {a b : List Char} (h : sameAscii a b = true) : a.map fold = b.map fold := by
  have hlower : ∀ cs : List Char, (asciiLower cs).map fold = cs.map fold := fun cs => by
    rw [asciiLower, List.map_map]
    exact List.map_congr_left fun c _ => fold_toLower c
  rw [← hlower a, sameAscii_iff.1 h, hlower]

theorem takeWhile_asciiLower {p : Char → Bool} (hp : ∀ c, p c.toLower = p c) (cs : List Char) :
    (asciiLower cs).takeWhile p = asciiLower (cs.takeWhile p) := by
  rw [asciiLower, List.takeWhile_map, show p ∘ Char.toLower = p from funext hp]
  rfl

theorem dropWhile_asciiLower {p : Char → Bool} (hp : ∀ c, p c.toLower = p c) (cs : List Char) :
    (asciiLower cs).dropWhile p = asciiLower (cs.dropWhile p) := by
  rw [asciiLower, List.dropWhile_map, show p ∘ Char.toLower = p from funext hp]
  rfl

theorem trimEnd_asciiLower (cs : List Char) : trimEnd (asciiLower cs) = asciiLower (trimEnd cs) := by
  have hreverse : (asciiLower cs).reverse = asciiLower cs.reverse := List.map_reverse.symm
  rw [trimEnd, trimEnd, hreverse, dropWhile_asciiLower isBlank_toLower]
  exact List.map_reverse.symm

theorem trim_asciiLower (cs : List Char) : trim (asciiLower cs) = asciiLower (trim cs) := by
  rw [trim, trim, dropWhile_asciiLower isBlank_toLower, trimEnd_asciiLower]

theorem splitAll_asciiLower {p : Char → Bool} (hp : ∀ c, p c.toLower = p c) (cs : List Char) :
    splitAll p (asciiLower cs) = (splitAll p cs).map asciiLower := by
  induction cs with
  | nil => rfl
  | cons c rest ih =>
      rw [asciiLower_cons, splitAll, splitAll, hp, ih]
      split
      · rfl
      · cases splitAll p rest <;> rfl

theorem pieces_asciiLower {p : Char → Bool} (hp : ∀ c, p c.toLower = p c) (cs : List Char) :
    pieces p (asciiLower cs) = (pieces p cs).map asciiLower := by
  rw [pieces, pieces, splitAll_asciiLower hp, List.filter_map]
  congr 1
  exact List.filter_congr fun piece _ => congrArg (!·) (isEmpty_asciiLower piece)

/-! ## Full case mappings -/

theorem upper_asciiLower (cs : List Char) : upper (asciiLower cs) = upper cs := by
  rw [upper, upper, asciiLower, List.flatMap_map]
  exact congrArg (List.flatMap · cs) (funext upperChar_toLower)

theorem meetsCased_asciiLower (cs : List Char) : meetsCased (asciiLower cs) = meetsCased cs := by
  rw [meetsCased, meetsCased, dropWhile_asciiLower isCaseIgnorable_toLower]
  cases cs.dropWhile isCaseIgnorable with
  | nil => rfl
  | cons c rest => exact isCased_toLower c

/-- No small letter is a capital sigma, and lowering the letters around a capital sigma leaves its place
in the word. -/
theorem lowerFrom_asciiLower (before cs : List Char) :
    lowerFrom (asciiLower before) (asciiLower cs) = lowerFrom before cs := by
  induction cs generalizing before with
  | nil => rfl
  | cons c rest ih =>
      have hsigma : (c.toLower.toNat == 0x3A3) = (c.toNat == 0x3A3) :=
        toLower_of_capitals (f := fun c => c.toNat == 0x3A3) (by decide) c
      rw [asciiLower_cons, lowerFrom, lowerFrom, hsigma, lowerChar_toLower, ← asciiLower_cons, ih, lowerSigma,
        lowerSigma, meetsCased_asciiLower, meetsCased_asciiLower]

theorem lower_asciiLower (cs : List Char) : lower (asciiLower cs) = lower cs :=
  lowerFrom_asciiLower [] cs

/-! ## Integers -/

theorem digitsFrom_asciiLower (value : Nat) (cs : List Char) :
    digitsFrom value (asciiLower cs) = digitsFrom value cs := by
  induction cs generalizing value with
  | nil => rfl
  | cons c rest ih =>
      rw [asciiLower_cons, digitsFrom, digitsFrom, digitValue?_toLower]
      exact congrArg _ (funext fun d => ih _)

theorem digits?_asciiLower (cs : List Char) : digits? (asciiLower cs) = digits? cs := by
  rw [digits?, digits?, isEmpty_asciiLower, digitsFrom_asciiLower]

theorem dropPlus_asciiLower (cs : List Char) : dropPlus (asciiLower cs) = asciiLower (dropPlus cs) := by
  cases cs with
  | nil => rfl
  | cons c rest =>
      by_cases hplus : c = '+'
      · subst hplus
        rfl
      · rw [dropPlus_of_ne hplus, asciiLower_cons, dropPlus_of_ne (toLower_ne (by decide) hplus)]

theorem signed64?_asciiLower (cs : List Char) : signed64? (asciiLower cs) = signed64? cs := by
  cases cs with
  | nil => rfl
  | cons c rest =>
      by_cases hminus : c = '-'
      · subst hminus
        simp only [asciiLower_cons, show '-'.toLower = '-' from rfl, signed64?, digits?_asciiLower]
      · rw [signed64?_of_ne hminus, asciiLower_cons, signed64?_of_ne (toLower_ne (by decide) hminus),
          ← asciiLower_cons, dropPlus_asciiLower, digits?_asciiLower]

end SimControl.Text

namespace SimControl.Decimal

open Text

/-! ## Numerals with a fraction -/

theorem isDigit_toLower (c : Char) : isDigit c.toLower = isDigit c :=
  toLower_of_capitals (by decide) c

theorem span_asciiLower {p : Char → Bool} (hp : ∀ c, p c.toLower = p c) (cs : List Char) :
    (asciiLower cs).span p = (asciiLower (cs.span p).1, asciiLower (cs.span p).2) := by
  simp only [List.span_eq_takeWhile_dropWhile, takeWhile_asciiLower hp, dropWhile_asciiLower hp]

theorem takeSign_of_ne {c : Char} (hminus : c ≠ '-') (hplus : c ≠ '+') (rest : List Char) :
    takeSign (c :: rest) = (false, c :: rest) := by
  simp [takeSign, hminus, hplus]

theorem takeSign_asciiLower (cs : List Char) :
    takeSign (asciiLower cs) = ((takeSign cs).1, asciiLower (takeSign cs).2) := by
  cases cs with
  | nil => rfl
  | cons c rest =>
      by_cases hsign : c = '-' ∨ c = '+'
      · rcases hsign with rfl | rfl <;> rfl
      · obtain ⟨hminus, hplus⟩ := not_or.1 hsign
        rw [takeSign_of_ne hminus hplus, asciiLower_cons,
          takeSign_of_ne (toLower_ne (by decide) hminus) (toLower_ne (by decide) hplus)]

theorem fraction_of_ne {c : Char} (h : c ≠ '.') (rest : List Char) :
    fraction (c :: rest) = ([], c :: rest) := by
  simp [fraction, h]

theorem fraction_asciiLower (cs : List Char) :
    fraction (asciiLower cs) = (asciiLower (fraction cs).1, asciiLower (fraction cs).2) := by
  cases cs with
  | nil => rfl
  | cons c rest =>
      by_cases hpoint : c = '.'
      · subst hpoint
        simp only [asciiLower_cons, show '.'.toLower = '.' from rfl, fraction]
        exact span_asciiLower isDigit_toLower rest
      · rw [fraction_of_ne hpoint, asciiLower_cons, fraction_of_ne (toLower_ne (by decide) hpoint)]
        rfl

theorem exponent?_asciiLower (cs : List Char) : exponent? (asciiLower cs) = exponent? cs := by
  cases cs with
  | nil => rfl
  | cons c rest =>
      have hmark : (c.toLower == 'e' || c.toLower == 'E') = (c == 'e' || c == 'E') :=
        toLower_of_capitals (f := fun c => c == 'e' || c == 'E') (by decide) c
      simp only [asciiLower_cons, exponent?, hmark, takeSign_asciiLower, digits?_asciiLower]

theorem numeral?_asciiLower (cs : List Char) : numeral? (asciiLower cs) = numeral? cs := by
  simp only [numeral?, takeSign_asciiLower, span_asciiLower isDigit_toLower, fraction_asciiLower,
    ← asciiLower_append, digits?_asciiLower, exponent?_asciiLower, length_asciiLower]

theorem localNumeral?_asciiLower (cs : List Char) : localNumeral? (asciiLower cs) = localNumeral? cs := by
  rw [localNumeral?, localNumeral?, ← numeral?_asciiLower (cs.map _)]
  congr 1
  rw [asciiLower, asciiLower, List.map_map, List.map_map]
  refine List.map_congr_left fun c _ => ?_
  have hcomma : (c.toLower == ',') = (c == ',') :=
    toLower_of_capitals (f := fun c => c == ',') (by decide) c
  simp only [Function.comp_apply, hcomma]
  split
  · rfl
  · rfl

end SimControl.Decimal
