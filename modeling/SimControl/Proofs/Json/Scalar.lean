import Mathlib.Data.List.TakeDrop
import Mathlib.Data.List.TakeWhile
import SimControl.Json.Reader
import SimControl.Json.Writer

/-!
# Strings and numbers are read back

A written string is read back as it was, whatever stands behind its closing quote: `stringBody_quoted`. A number is
read from its text whatever stands behind it, as long as that does not go on like a number: `Delimited.number`. The
texts of integers are read back as those integers (`number_natural`, `number_negative`).
-/

namespace SimControl.Json.Reader

/-! ## Strings -/

theorem hexCode?_control : ∀ n < 0x20, hexCode? '0' '0' (hexDigit (n / 16)) (hexDigit (n % 16)) = some n := by
  decide

theorem stringBody_unicode {n : Nat} (h : n < 0x20) (cs : List Char) :
    stringBody true (['\\', 'u', '0', '0', hexDigit (n / 16), hexDigit (n % 16)] ++ cs) =
      (stringBody true cs).map fun (text, rest) => (Char.ofNat n :: text, rest) := by
  have hhigh : isHighSurrogate n = false := by
    simp only [isHighSurrogate, Bool.and_eq_false_iff, decide_eq_false_iff_not]
    omega
  have hlow : isLowSurrogate n = false := by
    simp only [isLowSurrogate, Bool.and_eq_false_iff, decide_eq_false_iff_not]
    omega
  rw [show ['\\', 'u', '0', '0', hexDigit (n / 16), hexDigit (n % 16)] ++ cs =
    '\\' :: 'u' :: '0' :: '0' :: hexDigit (n / 16) :: hexDigit (n % 16) :: cs from rfl, stringBody,
    hexCode?_control n h, Option.bind_eq_bind, Option.bind_some, hhigh, hlow]
  cases stringBody true cs <;> rfl

theorem stringBody_plain {c : Char} (hquote : c ≠ '"') (hslash : c ≠ '\\') (hcontrol : 0x20 ≤ c.toNat)
    (cs : List Char) :
    stringBody true (c :: cs) = (stringBody true cs).map fun (text, rest) => (c :: text, rest) := by
  have hplain : (c == '\\' || decide (c.toNat < 0x20)) = false := by
    rw [Bool.or_eq_false_iff]
    exact ⟨beq_eq_false_iff_ne.2 hslash, decide_eq_false (by omega)⟩
  rw [stringBody]
  · rw [hplain]
    rfl
  · exact hquote
  · exact fun _ _ _ _ _ h => absurd h hslash
  · exact fun _ _ h => absurd h hslash

theorem stringBody_escape {e c : Char} (hsimple : simpleEscape? e = some c) (cs : List Char) :
    stringBody true ('\\' :: e :: cs) = (stringBody true cs).map fun (text, rest) => (c :: text, rest) := by
  rw [stringBody, hsimple, Option.bind_eq_bind, Option.bind_some]
  · cases stringBody true cs <;> rfl
  · rintro _ _ _ _ _ rfl
    cases hsimple

/-- The text of a character is read as that character. -/
theorem stringBody_escapeChar (c : Char) (cs : List Char) :
    stringBody true (escapeChar c ++ cs) =
      (stringBody true cs).map fun (text, rest) => (c :: text, rest) := by
  unfold escapeChar
  split
  · exact stringBody_escape rfl cs
  · exact stringBody_escape rfl cs
  · exact stringBody_escape rfl cs
  · exact stringBody_escape rfl cs
  · exact stringBody_escape rfl cs
  · rename_i hquote hslash _ _ _
    have hcode : Char.ofNat c.toNat = c := Char.ofNat_toNat c
    split
    · rename_i heq
      rw [← hcode, beq_iff_eq.1 heq]
      exact stringBody_escape rfl cs
    · split
      · rename_i heq
        rw [← hcode, beq_iff_eq.1 heq]
        exact stringBody_escape rfl cs
      · split
        · rename_i hcontrol
          have hread := stringBody_unicode hcontrol cs
          rwa [hcode] at hread
        · rename_i hcontrol
          exact stringBody_plain hquote hslash (Nat.le_of_not_lt hcontrol) cs

theorem stringBody_escaped (text rest : List Char) :
    stringBody true (text.flatMap escapeChar ++ '"' :: rest) = some (text, rest) := by
  induction text with
  | nil => rw [List.flatMap_nil, List.nil_append, stringBody]
  | cons c text ih =>
      rw [List.flatMap_cons, List.append_assoc, stringBody_escapeChar, ih]
      rfl

theorem stringBody_quoted (s : String) (rest : List Char) :
    ∃ body, quoted s ++ rest = '"' :: body ∧ stringBody true body = some (s.toList, rest) := by
  refine ⟨s.toList.flatMap escapeChar ++ '"' :: rest, ?_, stringBody_escaped s.toList rest⟩
  rw [quoted, List.cons_append, List.append_assoc]
  rfl

/-! ## Numbers -/

/-- The text does not go on like a number. -/
def Delimited (rest : List Char) : Prop :=
  ∀ c ∈ rest.head?, isDigit c = false ∧ c ≠ '.' ∧ c ≠ 'e' ∧ c ≠ 'E'

theorem delimited_nil : Delimited [] := nofun

theorem delimited_cons {c : Char} (h : isDigit c = false ∧ c ≠ '.' ∧ c ≠ 'e' ∧ c ≠ 'E') (cs : List Char) :
    Delimited (c :: cs) := by
  intro d hd
  exact Option.some.inj hd ▸ h

variable {rest : List Char}

/-- The digits at the front end before what follows. -/
theorem Delimited.span (h : Delimited rest) (cs : List Char) :
    (cs ++ rest).span isDigit = ((cs.span isDigit).1, (cs.span isDigit).2 ++ rest) := by
  simp only [List.span_eq_takeWhile_dropWhile]
  induction cs with
  | nil =>
      cases rest with
      | nil => rfl
      | cons c rest =>
          obtain ⟨hdigit, -⟩ := h c rfl
          simp [hdigit]
  | cons c cs ih =>
      obtain ⟨htake, hdrop⟩ := Prod.mk.inj ih
      cases hdigit : isDigit c with
      | true => simp [hdigit, htake, hdrop]
      | false => simp [hdigit]

theorem fractionPart_of_ne {cs : List Char} (h : ∀ c ∈ cs.head?, c ≠ '.') : fractionPart cs = some (none, cs) := by
  unfold fractionPart
  split
  · exact absurd rfl (h '.' rfl)
  · rfl

theorem exponentPart_of_ne {cs : List Char} (h : ∀ c ∈ cs.head?, c ≠ 'e' ∧ c ≠ 'E') :
    exponentPart cs = some (none, cs) := by
  unfold exponentPart
  split
  · rename_i c rest
    obtain ⟨hlower, hupper⟩ := h c rfl
    rw [beq_eq_false_iff_ne.2 hlower, beq_eq_false_iff_ne.2 hupper]
    rfl
  · rfl

def digitsPart {α : Type} (f : List Char → α) : Reader α := fun cs =>
  match cs.span isDigit with
  | ([], _) => none
  | (digits, rest) => some (f digits, rest)

theorem Delimited.digitsPart {α : Type} {f : List Char → α} (h : Delimited rest) {cs remaining : List Char} {a : α}
    (hread : digitsPart f cs = some (a, remaining)) :
    Reader.digitsPart f (cs ++ rest) = some (a, remaining ++ rest) := by
  unfold Reader.digitsPart at hread ⊢
  rw [h.span]
  generalize cs.span isDigit = parts at hread ⊢
  obtain ⟨digits, after⟩ := parts
  cases digits with
  | nil => cases hread
  | cons digit digits =>
      obtain ⟨rfl, rfl⟩ := Prod.mk.inj (Option.some.inj hread)
      rfl

theorem fractionPart_point (cs : List Char) : fractionPart ('.' :: cs) = digitsPart some cs := rfl

/-- The sign of an exponent, and what follows it. -/
def exponentSign : List Char → Bool × List Char
  | '+' :: cs => (false, cs)
  | '-' :: cs => (true, cs)
  | cs => (false, cs)

theorem exponentSign_append {cs : List Char} (hne : cs ≠ []) (rest : List Char) :
    exponentSign (cs ++ rest) = ((exponentSign cs).1, (exponentSign cs).2 ++ rest) := by
  obtain ⟨c, cs, rfl⟩ := List.exists_cons_of_ne_nil hne
  by_cases hplus : c = '+'
  · subst hplus
    rfl
  · by_cases hminus : c = '-'
    · subst hminus
      rfl
    · have hplain : ∀ cs, exponentSign (c :: cs) = (false, c :: cs) := by
        intro cs
        simp [exponentSign, hplus, hminus]
      rw [List.cons_append, hplain, hplain]
      rfl

def exponentValue (negative : Bool) (digits : List Char) : Option Int :=
  let value : Nat := digits.foldl (fun n c => n * 10 + digitValue c) 0
  some (if negative then -(value : Int) else value)

theorem exponentPart_letter {c : Char} (h : c = 'e' ∨ c = 'E') (cs : List Char) :
    exponentPart (c :: cs) = digitsPart (exponentValue (exponentSign cs).1) (exponentSign cs).2 := by
  have hletter : (c == 'e' || c == 'E') = true := by simpa using h
  rw [exponentPart.eq_def]
  simp only [hletter, if_true]
  rfl

theorem Delimited.fractionPart (h : Delimited rest) {cs remaining : List Char} {decimals : Option (List Char)}
    (hread : fractionPart cs = some (decimals, remaining)) :
    Reader.fractionPart (cs ++ rest) = some (decimals, remaining ++ rest) := by
  by_cases hpoint : ∀ c ∈ cs.head?, c ≠ '.'
  · obtain ⟨rfl, rfl⟩ := Prod.mk.inj (Option.some.inj ((fractionPart_of_ne hpoint).symm.trans hread))
    refine fractionPart_of_ne fun c hc => ?_
    cases cs with
    | nil => exact (h c hc).2.1
    | cons d cs => exact hpoint c hc
  · cases cs with
    | nil => exact absurd nofun hpoint
    | cons c cs =>
        obtain rfl : c = '.' := by simpa using hpoint
        rw [fractionPart_point] at hread
        rw [List.cons_append, fractionPart_point]
        exact h.digitsPart hread

theorem Delimited.exponentPart (h : Delimited rest) {cs remaining : List Char} {scale : Option Int}
    (hread : exponentPart cs = some (scale, remaining)) :
    Reader.exponentPart (cs ++ rest) = some (scale, remaining ++ rest) := by
  by_cases hexponent : ∀ c ∈ cs.head?, c ≠ 'e' ∧ c ≠ 'E'
  · obtain ⟨rfl, rfl⟩ := Prod.mk.inj (Option.some.inj ((exponentPart_of_ne hexponent).symm.trans hread))
    refine exponentPart_of_ne fun c hc => ?_
    cases cs with
    | nil => exact (h c hc).2.2
    | cons d cs => exact hexponent c hc
  · cases cs with
    | nil => exact absurd nofun hexponent
    | cons c cs =>
        have hletter : c = 'e' ∨ c = 'E' := Decidable.or_iff_not_imp_left.2 (by simpa using hexponent)
        rw [exponentPart_letter hletter] at hread
        have hne : cs ≠ [] := by
          rintro rfl
          cases hread
        rw [List.cons_append, exponentPart_letter hletter, exponentSign_append hne]
        exact h.digitsPart hread

/-- The sign of a number, and what follows it. -/
def numberSign : List Char → Bool × List Char
  | '-' :: cs => (true, cs)
  | cs => (false, cs)

theorem numberSign_of_ne {c : Char} (h : c ≠ '-') (cs : List Char) : numberSign (c :: cs) = (false, c :: cs) := by
  unfold numberSign
  split
  · rename_i hminus
    exact absurd (List.cons.inj hminus).1 h
  · rfl

theorem numberSign_append {cs : List Char} (hne : cs ≠ []) (rest : List Char) :
    numberSign (cs ++ rest) = ((numberSign cs).1, (numberSign cs).2 ++ rest) := by
  obtain ⟨c, cs, rfl⟩ := List.exists_cons_of_ne_nil hne
  by_cases hminus : c = '-'
  · subst hminus
    rfl
  · rw [List.cons_append, numberSign_of_ne hminus, numberSign_of_ne hminus]
    rfl

/-- The number of a literal with these parts. -/
def ofParts? (negative : Bool) (whole : List Char) (decimals : Option (List Char)) (scale : Option Int) :
    Option Number :=
  if decimals.isNone && scale.isNone then integer? negative whole
  else (double? negative whole (decimals.getD []) (scale.getD 0)).map .double

theorem number_eq (cs : List Char) :
    number true cs =
      let whole := ((numberSign cs).2.span isDigit).1
      if !isWholePart whole then none
      else
        (fractionPart ((numberSign cs).2.span isDigit).2).bind fun (decimals, rest) =>
          (exponentPart rest).bind fun (scale, rest) =>
            (ofParts? (numberSign cs).1 whole decimals scale).map fun n => (n, rest) := by
  have hparts : ∀ negative whole (decimals : Option (List Char)) (scale : Option Int) (rest : List Char),
      ((ofParts? negative whole decimals scale).map fun n => (n, rest)) =
        if decimals.isNone && scale.isNone then (integer? negative whole).map fun n => (n, rest)
        else (double? negative whole (decimals.getD []) (scale.getD 0)).map fun x => (.double x, rest) := by
    intro negative whole decimals scale rest
    unfold ofParts?
    split
    · rfl
    · rw [Option.map_map]
      rfl
  simp only [number, Option.bind_eq_bind, Bool.not_true, Bool.false_eq_true, if_false, hparts]
  rfl

/-- What follows a number does not change it. -/
theorem Delimited.number (h : Delimited rest) {cs remaining : List Char} {n : Number}
    (hread : number true cs = some (n, remaining)) : Reader.number true (cs ++ rest) = some (n, remaining ++ rest) := by
  have hne : cs ≠ [] := by
    rintro rfl
    cases hread
  rw [number_eq] at hread ⊢
  simp only [numberSign_append hne, h.span] at hread ⊢
  split at hread
  · cases hread
  · rename_i hwhole
    rw [if_neg hwhole]
    obtain ⟨⟨decimals, afterFraction⟩, hfraction, hread⟩ := Option.bind_eq_some_iff.1 hread
    obtain ⟨⟨scale, afterExponent⟩, hexponent, hread⟩ := Option.bind_eq_some_iff.1 hread
    obtain ⟨found, hfound, hpair⟩ := Option.map_eq_some_iff.1 hread
    obtain ⟨rfl, rfl⟩ := Prod.mk.inj hpair
    simp only [h.fractionPart hfraction, h.exponentPart hexponent, Option.bind_some, hfound, Option.map_some]

/-- What a number begins with. -/
def startsNumber (c : Char) : Bool :=
  c == '-' || isDigit c

theorem ne_of_startsNumber {c d : Char} (hc : startsNumber c = true) (hd : startsNumber d = false) : c ≠ d := by
  rintro rfl
  rw [hc] at hd
  cases hd

theorem startsNumber_of_number {c : Char} {cs remaining : List Char} {n : Number}
    (hread : number true (c :: cs) = some (n, remaining)) : startsNumber c = true := by
  rw [startsNumber, Bool.or_eq_true, beq_iff_eq]
  by_cases hminus : c = '-'
  · exact .inl hminus
  · refine .inr (Bool.not_eq_false _ ▸ fun hdigit => ?_)
    rw [number_eq, numberSign_of_ne hminus] at hread
    simp only [List.span_eq_takeWhile_dropWhile, List.takeWhile_cons_of_neg (Bool.eq_false_iff.1 hdigit)] at hread
    cases hread

theorem scalar_number {c : Char} (h : startsNumber c = true) (cs : List Char) :
    scalar true (c :: cs) = (number true (c :: cs)).map fun (n, rest) => (.number n, rest) := by
  unfold scalar
  split
  all_goals
    first
      | rfl
      | exact absurd (List.cons.inj ‹_›).1 (ne_of_startsNumber h (by decide))

/-! ## Integers -/

theorem isDigit_of_mem_toDigits {n : Nat} {c : Char} (h : c ∈ Nat.toDigits 10 n) : isDigit c = true := by
  have hdigit : c.isDigit = true := Nat.isDigit_of_mem_toDigits (by decide) (by decide) h
  simpa [Char.isDigit, isDigit, Char.le_def] using hdigit

/-- Digits are not written with leading zeros. -/
theorem isWholePart_toDigits (n : Nat) : isWholePart (Nat.toDigits 10 n) = true := by
  have hzero : ∀ m < 10, 0 < m → Nat.digitChar m ≠ '0' := by decide
  have hhead : ∀ m, 0 < m → ∃ c cs, Nat.toDigits 10 m = c :: cs ∧ c ≠ '0' := by
    intro m
    induction m using Nat.strongRecOn with
    | ind m ih =>
        intro hm
        rw [Nat.toDigits_eq_if (by decide)]
        split
        · rename_i hlt
          exact ⟨_, [], rfl, hzero m hlt hm⟩
        · obtain ⟨c, cs, hcs, hc⟩ := ih (m / 10) (by omega) (by omega)
          exact ⟨c, cs ++ [Nat.digitChar (m % 10)], by rw [hcs, List.cons_append], hc⟩
  rcases Nat.eq_zero_or_pos n with rfl | hpos
  · rfl
  · obtain ⟨c, cs, hcs, hc⟩ := hhead n hpos
    rw [hcs, isWholePart]
    · exact bne_iff_ne.2 hc
    · exact fun hzero _ => hc hzero

theorem foldl_toDigits (n : Nat) :
    (Nat.toDigits 10 n).foldl (fun n c => n * 10 + digitValue c) 0 = n := by
  have hvalue : Nat.ofDigitChars 10 (Nat.toDigits 10 n) 0 = n := Nat.ofDigitChars_ten_toDigits
  have hstep : (fun (n : Nat) (c : Char) => n * 10 + digitValue c) = fun n c => 10 * n + (c.toNat - '0'.toNat) := by
    funext n c
    rw [Nat.mul_comm, digitValue]
  rw [hstep, ← Nat.ofDigitChars_eq_foldl, hvalue]

theorem number_toDigits {cs : List Char} {negative : Bool} {n : Nat}
    (hsign : numberSign cs = (negative, Nat.toDigits 10 n)) :
    number true cs = (integer? negative (Nat.toDigits 10 n)).map fun n => (n, []) := by
  have hspan : (Nat.toDigits 10 n).span isDigit = (Nat.toDigits 10 n, []) := by
    have hall : ∀ c ∈ Nat.toDigits 10 n, isDigit c = true := fun c => isDigit_of_mem_toDigits
    rw [List.span_eq_takeWhile_dropWhile, List.takeWhile_eq_self_iff.2 hall, List.dropWhile_eq_nil_iff.2 hall]
  rw [number_eq, hsign]
  simp only [hspan, isWholePart_toDigits, fractionPart, exponentPart, Option.bind_some, Bool.not_true,
    Bool.false_eq_true, if_false, ofParts?, Option.isNone_none, Bool.and_self, if_true]

theorem number_natural (n : UInt64) : number true (Number.natural n).text = some (.natural n, []) := by
  have hsign : numberSign (Nat.toDigits 10 n.toNat) = (false, Nat.toDigits 10 n.toNat) := by
    obtain ⟨c, cs, hcs⟩ := List.exists_cons_of_ne_nil (Nat.toDigits_ne_nil (n := n.toNat) (b := 10))
    have hdigit : isDigit c = true := isDigit_of_mem_toDigits (hcs ▸ List.mem_cons_self)
    rw [hcs]
    exact numberSign_of_ne (fun hminus => by simp [hminus, isDigit] at hdigit) cs
  have hnumber : Number.ofInt? (n.toNat : Int) = some (.natural n) := by
    have hlt := n.toNat_lt
    unfold Number.ofInt?
    rw [dif_neg (by omega), if_pos (by omega), Int.toNat_natCast, UInt64.ofNat_toNat]
  rw [Number.text, number_toDigits hsign, integer?]
  simp only [foldl_toDigits, Bool.false_and, Bool.false_eq_true, if_false, hnumber, Option.map_some]

theorem number_negative (n : Negative) : number true (Number.negative n).text = some (.negative n, []) := by
  have hnumber : Number.ofInt? (-(n.magnitude : Int)) = some (.negative n) := by
    have hpos := n.positive
    have hle := n.bounded
    unfold Number.ofInt?
    rw [dif_pos ⟨by omega, by omega, by omega⟩]
    simp only [Int.natAbs_neg, Int.natAbs_natCast]
  have hne : (n.magnitude == 0) = false := beq_eq_false_iff_ne.2 (Nat.ne_of_gt n.positive)
  rw [Number.text, number_toDigits rfl, integer?]
  simp only [foldl_toDigits, hne, Bool.and_false, Bool.false_eq_true, if_false, if_true, hnumber, Option.map_some]

end SimControl.Json.Reader
