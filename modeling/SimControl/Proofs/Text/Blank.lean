import Mathlib.Data.List.DropRight
import SimControl.Text.Blank
import SimControl.Text.Folding
import SimControl.Text.Letter

/-!
# White space and trimmed texts

White space has no case and is no digit. Trimming twice is trimming once: a trimmed text neither begins nor
ends with white space.
-/

namespace SimControl.Text

/-! ## White space -/

def blankCodes : List Nat :=
  [9, 10, 11, 12, 13, 0x20, 0x85, 0xA0, 0x1680, 0x2000, 0x2001, 0x2002, 0x2003, 0x2004, 0x2005, 0x2006, 0x2007,
    0x2008, 0x2009, 0x200A, 0x2028, 0x2029, 0x202F, 0x205F, 0x3000]

theorem toNat_mem_blankCodes {c : Char} (h : isBlank c = true) : c.toNat ∈ blankCodes := by
  simp only [isBlank, Bool.or_eq_true, Bool.and_eq_true, decide_eq_true_eq, beq_iff_eq] at h
  simp only [blankCodes, List.mem_cons, List.not_mem_nil, or_false]
  omega

theorem of_isBlank {f : Char → Bool} (hall : ∀ n ∈ blankCodes, f (Char.ofNat n) = true) {c : Char}
    (h : isBlank c = true) : f c = true :=
  Char.ofNat_toNat c ▸ hall c.toNat (toNat_mem_blankCodes h)

theorem fold_of_isBlank {c : Char} (h : isBlank c = true) : fold c = c :=
  of_decide_eq_true (of_isBlank (f := fun c => fold c = c) (by decide +kernel) h)

theorem isDecimalDigit_of_isBlank {c : Char} (h : isBlank c = true) : isDecimalDigit c = false :=
  of_decide_eq_true (of_isBlank (f := fun c => isDecimalDigit c = false) (by decide +kernel) h)

/-! ## Trimmed texts -/

theorem trimEnd_eq (cs : List Char) : trimEnd cs = cs.rdropWhile isBlank := rfl

theorem dropWhile_trimEnd {cs : List Char} (h : cs.dropWhile isBlank = cs) :
    (trimEnd cs).dropWhile isBlank = trimEnd cs := by
  obtain ⟨rest, hrest⟩ : trimEnd cs <+: cs := List.rdropWhile_prefix isBlank cs
  cases htrim : trimEnd cs with
  | nil => rfl
  | cons c trimmed =>
      rw [htrim, List.cons_append] at hrest
      rw [← hrest] at h
      have hc : isBlank c = false := by
        rw [List.dropWhile_eq_self_iff] at h
        simpa using h
      rw [List.dropWhile_cons, hc, if_neg Bool.false_ne_true]

theorem trim_trim (cs : List Char) : trim (trim cs) = trim cs := by
  have hstart := dropWhile_trimEnd (List.dropWhile_idempotent isBlank cs)
  rw [trim, show (trim cs).dropWhile isBlank = trim cs from hstart, trim, trimEnd_eq, trimEnd_eq,
    List.rdropWhile_idempotent]

/-- A text that neither begins nor ends with white space is trimmed. -/
theorem trim_of_ends {cs : List Char} (hfirst : ∀ c ∈ cs.head?, isBlank c = false)
    (hlast : ∀ c ∈ cs.getLast?, isBlank c = false) : trim cs = cs := by
  have hdrop : cs.dropWhile isBlank = cs := by
    cases cs with
    | nil => rfl
    | cons c rest => rw [List.dropWhile_cons, hfirst c rfl, if_neg Bool.false_ne_true]
  rw [trim, hdrop, trimEnd_eq, List.rdropWhile_eq_self_iff]
  intro hne
  rw [hlast _ (List.getLast?_eq_getLast_of_ne_nil hne)]
  exact Bool.false_ne_true

theorem trim_of_no_blank {cs : List Char} (h : ∀ c ∈ cs, isBlank c = false) : trim cs = cs :=
  trim_of_ends (fun c hc => h c (List.mem_of_mem_head? hc)) fun c hc => h c (List.mem_of_mem_getLast? hc)

theorem mem_of_mem_trim {cs : List Char} {c : Char} (h : c ∈ trim cs) : c ∈ cs :=
  (List.dropWhile_sublist isBlank).subset ((List.rdropWhile_prefix isBlank _).subset h)

theorem trim_ne_nil {cs : List Char} {c : Char} (hc : c ∈ cs) (hblank : isBlank c = false) : trim cs ≠ [] := by
  intro htrim
  rw [trim, trimEnd_eq, List.rdropWhile_eq_nil_iff] at htrim
  rw [← List.takeWhile_append_dropWhile (p := isBlank) (l := cs), List.mem_append] at hc
  have hall := hc.elim List.mem_takeWhile_imp (htrim c)
  rw [hblank] at hall
  cases hall

theorem head_trim {cs : List Char} {c : Char} (h : c ∈ (trim cs).head?) : isBlank c = false := by
  have hstart : (trim cs).dropWhile isBlank = trim cs := dropWhile_trimEnd (List.dropWhile_idempotent isBlank cs)
  cases htrim : trim cs with
  | nil =>
      rw [htrim] at h
      cases h
  | cons d rest =>
      rw [htrim] at h hstart
      obtain rfl := Option.some.inj h
      rw [List.dropWhile_eq_self_iff] at hstart
      simpa using hstart

/-- Text at the end that is not blank is trimmed on its own. -/
theorem trimEnd_append {cs : List Char} (ds : List Char) (h : trimEnd cs ≠ []) :
    trimEnd (ds ++ cs) = ds ++ trimEnd cs := by
  have hne : (cs.reverse.dropWhile isBlank).isEmpty = false := by
    rw [List.isEmpty_eq_false_iff]
    exact fun hnil => h (by rw [trimEnd, hnil, List.reverse_nil])
  rw [trimEnd, List.reverse_append, List.dropWhile_append, hne, if_neg Bool.false_ne_true, List.reverse_append,
    List.reverse_reverse]
  rfl

/-- White space around a text does not change what it is trimmed to. -/
theorem trim_padded {front back : List Char} (hfront : ∀ c ∈ front, isBlank c = true)
    (hback : ∀ c ∈ back, isBlank c = true) (cs : List Char) : trim (front ++ cs ++ back) = trim cs := by
  have hback' : back.reverse.dropWhile isBlank = [] := by
    rw [List.dropWhile_eq_nil_iff]
    exact fun c hc => hback c (List.mem_reverse.1 hc)
  rw [List.append_assoc, trim, List.dropWhile_append_of_pos hfront, List.dropWhile_append]
  split
  · next hblank =>
      rw [List.dropWhile_eq_nil_iff.2 hback, trim, List.isEmpty_iff.1 hblank]
  · rw [trim, trimEnd, trimEnd, List.reverse_append, List.dropWhile_append, hback', List.isEmpty_nil, if_pos rfl]

/-- Words and a text that is not blank, with all the white space between them. -/
theorem trim_words {word text : List Char} {c : Char} (hc : isBlank c = false) (htext : trim text ≠ []) :
    trim (c :: word ++ ' ' :: text) = c :: word ++ (' ' :: text.takeWhile isBlank ++ trim text) := by
  have hsplit : c :: word ++ ' ' :: text =
      c :: word ++ (' ' :: text.takeWhile isBlank) ++ text.dropWhile isBlank := by
    simp only [List.append_assoc, List.cons_append, List.takeWhile_append_dropWhile]
  have hdrop : (c :: word ++ ' ' :: text).dropWhile isBlank = c :: word ++ ' ' :: text := by
    rw [List.cons_append, List.dropWhile_cons, hc, if_neg Bool.false_ne_true]
  rw [trim, hdrop, hsplit, trimEnd_append _ htext, List.append_assoc]
  rfl

theorem trimmed_trimmed (s : String) : trimmed (trimmed s) = trimmed s := by
  rw [trimmed, trimmed, String.toList_ofList, trim_trim]

end SimControl.Text
