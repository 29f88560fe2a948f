import Mathlib.Data.Bool.AllAny
import SimControl.Proofs.Text.AsciiCase
import SimControl.Proofs.Text.Caseless

/-!
# Case variants

The variants of a letter are all the characters that are the same letter (`mem_caseVariants`). So what is to hold of
every spelling of a letter can be decided on its variants.
-/

namespace SimControl.Text

/-- A shift that maps a code point to another one leads back to it. -/
theorem preimage?_of_image? {s : Shift} {m n : Nat} (h : s.image? m = some n) (hn : 0 < n) :
    s.preimage? n = some m := by
  unfold Shift.image? at h
  split at h
  · rename_i hrun
    have hsum : ((m : Int) + s.delta).toNat = n := Option.some.inj h
    have hback : (n : Int) - s.delta = m := by omega
    unfold Shift.preimage?
    simp only [hback, Int.toNat_natCast, hrun, Int.natCast_nonneg, and_self, if_true]
  · cases h

theorem mem_unfoldings_of_capital : ∀ c ∈ capitals, c ∈ unfoldings c.toLower :=
  List.all_iff_forall_prop.1 (by decide +kernel)

/-- Every character that is the same letter is listed among the variants. -/
theorem mem_caseVariants {a c : Char} (h : sameLetter a c = true) (ha : 0 < (fold a).toNat) : c ∈ caseVariants a := by
  rw [caseVariants, List.mem_cons]
  rw [beq_iff_eq.1 h] at ha ⊢
  by_cases hascii : c.toNat < 0x80
  · rw [fold, if_pos hascii]
    by_cases hcapital : c ∈ capitals
    · exact .inr (mem_unfoldings_of_capital c hcapital)
    · exact .inl (toLower_of_not_mem hcapital).symm
  · rw [fold, if_neg hascii] at ha ⊢
    cases hshift : shifted? foldingShifts c with
    | none => exact .inl (by rw [Option.getD_none])
    | some image =>
        rw [hshift, Option.getD_some] at ha
        obtain ⟨n, hn, himage⟩ := Option.map_eq_some_iff.1 hshift
        obtain ⟨s, hs, hsn⟩ := List.exists_of_findSome?_eq_some hn
        have htarget : n = image.toNat := eq_of_ofNat himage ha
        refine .inr (List.mem_map.2 ⟨c.toNat, List.mem_filterMap.2 ⟨s, hs, ?_⟩, Char.ofNat_toNat c⟩)
        exact preimage?_of_image? (htarget ▸ hsn) ha

end SimControl.Text
