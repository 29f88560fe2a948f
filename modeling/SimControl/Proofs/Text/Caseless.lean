import SimControl.Pattern.CharSet
import SimControl.Proofs.Text.AsciiCase
import SimControl.Proofs.Text.Blank
import SimControl.Proofs.Text.Numeral

/-!
# Characters without case

White space and the comma are no letters: such a character is a case variant of itself only
(`eq_of_mem_caseVariants`). So a class that lists nothing else holds no more than what it lists.
-/

namespace SimControl.Text

/-- No capital is lowered to the character, and no shift of the folding table comes from it or leads to it. -/
def isCaseless (x : Char) : Bool :=
  0 < x.toNat && (capitals.all fun c => (c.toLower == x) == (c == x)) && foldingShifts.all fun s =>
    !s.run.contains x.toNat && !(s.run.first + s.delta ≤ x.toNat && x.toNat ≤ s.run.last + s.delta)

theorem eq_of_ofNat {n : Nat} {x : Char} (h : Char.ofNat n = x) (hx : 0 < x.toNat) : n = x.toNat := by
  by_cases hn : n.isValidChar
  · rw [← h, show Char.ofNat n = Char.ofNatAux n hn from dif_pos hn]
    rfl
  · rw [← h, show Char.ofNat n = '\x00' from dif_neg hn] at hx
    exact absurd hx (Nat.lt_irrefl 0)

theorem Run.contains_iff {r : Run} {n : Nat} :
    r.contains n = true ↔ r.first ≤ n ∧ n ≤ r.last ∧ (n - r.first) % r.step = 0 := by
  simp [Run.contains, and_assoc]

theorem eq_of_fold {x c : Char} (hx : isCaseless x = true) (h : fold c = x) : c = x := by
  simp only [isCaseless, Bool.and_eq_true, decide_eq_true_eq] at hx
  obtain ⟨⟨hpos, hcapitals⟩, htable⟩ := hx
  rw [fold] at h
  split at h
  · by_contra hne
    exact toLower_ne hcapitals hne h
  · cases hshift : shifted? foldingShifts c with
    | none => rwa [hshift, Option.getD_none] at h
    | some image =>
        rw [hshift, Option.getD_some] at h
        obtain ⟨n, hn, himage⟩ := Option.map_eq_some_iff.1 hshift
        obtain ⟨s, hs, hsn⟩ := List.exists_of_findSome?_eq_some hn
        have htarget : n = x.toNat := eq_of_ofNat (himage.trans h) hpos
        rw [Shift.image?] at hsn
        split at hsn
        · rename_i hrun
          obtain ⟨hfirst, hlast, -⟩ := Run.contains_iff.1 hrun
          have hoff := List.all_eq_true.1 htable s hs
          have hsum : ((c.toNat : Int) + s.delta).toNat = n := Option.some.inj hsn
          simp only [Bool.and_eq_true, Bool.not_eq_true', Bool.and_eq_false_iff, decide_eq_false_iff_not] at hoff
          omega
        · cases hsn

/-- A character without case is a variant of itself only. -/
theorem eq_of_mem_caseVariants {x c : Char} (hx : isCaseless x = true) (h : x ∈ caseVariants c) : c = x := by
  rcases List.mem_cons.1 h with hfold | hunfold
  · exact eq_of_fold hx hfold.symm
  · simp only [isCaseless, Bool.and_eq_true, decide_eq_true_eq] at hx
    obtain ⟨⟨hpos, -⟩, htable⟩ := hx
    obtain ⟨n, hn, hx⟩ := List.mem_map.1 hunfold
    obtain ⟨s, hs, hsn⟩ := List.mem_filterMap.1 hn
    have hsource : n = x.toNat := eq_of_ofNat hx hpos
    have hoff := (Bool.and_eq_true_iff.1 (List.all_eq_true.1 htable s hs)).1
    simp only [Shift.preimage?] at hsn
    split at hsn
    · rename_i hrun
      rw [← hsource, ← Option.some.inj hsn, hrun.2] at hoff
      cases hoff
    · cases hsn

theorem isCaseless_of_isBlank {c : Char} (h : isBlank c = true) : isCaseless c = true :=
  of_isBlank (by decide +kernel) h

theorem isCaseless_comma : isCaseless ',' = true := by decide +kernel

theorem shifts_miss_digits : (foldingShifts.all fun s => decimalZeros.all fun start =>
    s.run.last < start || start + 10 ≤ s.run.first) = true := by
  decide +kernel

theorem fold_of_isDecimalDigit {c : Char} (h : isDecimalDigit c = true) : fold c = c := by
  obtain ⟨start, hstart, hrange⟩ := List.any_eq_true.1 h
  simp only [Bool.and_eq_true, decide_eq_true_eq] at hrange
  rw [fold]
  split
  · rename_i hascii
    have hten : ∀ n ∈ decimalZeros, n < 0x80 → n = '0'.toNat ∧ n + 9 = '9'.toNat := by decide
    have hfirst := hten start hstart (by omega)
    have hdigit : c.isDigit = true := Char.isDigit_iff_toNat.2 (by omega)
    exact of_isDigit (p := fun c => c.toLower = c) (by decide) hdigit
  · have hnone : shifted? foldingShifts c = none := by
      rw [shifted?, Option.map_eq_none_iff, List.findSome?_eq_none_iff]
      intro s hs
      rw [Shift.image?, if_neg]
      intro hrun
      obtain ⟨hfirst, hlast, -⟩ := Run.contains_iff.1 hrun
      have hmiss := List.all_eq_true.1 (List.all_eq_true.1 shifts_miss_digits s hs) start hstart
      simp only [Bool.or_eq_true, decide_eq_true_eq] at hmiss
      omega
    rw [hnone, Option.getD_none]

theorem isWordChar_of_isBlank {c : Char} (h : isBlank c = true) : isWordChar c = false :=
  of_decide_eq_true (of_isBlank (f := fun c => isWordChar c = false) (by decide +kernel) h)

end SimControl.Text

namespace SimControl.CharSet

open Text

/-- What is neither white space nor a comma is in the class that excludes just these. -/
theorem contains_unlisted {c : Char} (hblank : isBlank c = false) (hcomma : c ≠ ',') :
    (unlisted [.blank, .single ',']).contains c = true := by
  rw [contains, Bool.not_eq_true', anyVariant, List.any_eq_false]
  intro v hv
  simp only [List.any_cons, List.any_nil, Bool.or_false, ClassItem.contains, Bool.not_eq_true,
    Bool.or_eq_false_iff, beq_eq_false_iff_ne]
  refine ⟨?_, fun h => ?_⟩
  · cases hv' : isBlank v with
    | false => rfl
    | true =>
        rw [eq_of_mem_caseVariants (isCaseless_of_isBlank hv') hv, hv'] at hblank
        cases hblank
  · exact hcomma (eq_of_mem_caseVariants isCaseless_comma (h ▸ hv))

/-- A class holds a character without case that it lists. -/
theorem contains_listed {items : List ClassItem} {c : Char} (hfold : fold c = c)
    (h : ∃ item ∈ items, item.contains c = true) : (listed items).contains c = true := by
  rw [contains, anyVariant, caseVariants, hfold, List.any_cons, List.any_eq_true.2 h, Bool.true_or]

end SimControl.CharSet
