import SimControl.Proofs.Text.Blank

/-!
# The pieces of a text

Between separators a text falls into pieces. A word with a separator behind it is the first piece (`pieces_append`),
and separators at either end do not count, so a text has the pieces of its trimmed form (`pieces_trim`).
-/

namespace SimControl.Text

variable {p : Char → Bool} {cs gap piece : List Char}

/-! ## Words and separators -/

theorem splitAll_append (h : ∀ c ∈ cs, p c = false) {c : Char} (hc : p c = true) (rest : List Char) :
    splitAll p (cs ++ c :: rest) = cs :: splitAll p rest := by
  induction cs with
  | nil => rw [List.nil_append, splitAll, if_pos hc]
  | cons d cs ih =>
      rw [List.forall_mem_cons] at h
      rw [List.cons_append, splitAll, if_neg (Bool.eq_false_iff.1 h.1), ih h.2]

theorem splitAll_of_none (h : ∀ c ∈ cs, p c = false) : splitAll p cs = [cs] := by
  induction cs with
  | nil => rfl
  | cons d cs ih =>
      rw [List.forall_mem_cons] at h
      rw [splitAll, if_neg (Bool.eq_false_iff.1 h.1), ih h.2]

theorem pieces_of_none (hne : cs ≠ []) (h : ∀ c ∈ cs, p c = false) : pieces p cs = [cs] := by
  rw [pieces, splitAll_of_none h, List.filter_cons_of_pos (by simpa using hne), List.filter_nil]

theorem pieces_of_separators (hgap : ∀ c ∈ gap, p c = true) (rest : List Char) :
    pieces p (gap ++ rest) = pieces p rest := by
  induction gap with
  | nil => rfl
  | cons c gap ih =>
      rw [List.forall_mem_cons] at hgap
      rw [List.cons_append, pieces, splitAll, if_pos hgap.1, List.filter_cons_of_neg (by simp)]
      exact ih hgap.2

theorem pieces_append (hne : cs ≠ []) (h : ∀ c ∈ cs, p c = false) (hgap : gap ≠ []) (hall : ∀ c ∈ gap, p c = true)
    (rest : List Char) : pieces p (cs ++ (gap ++ rest)) = cs :: pieces p rest := by
  obtain ⟨c, gap, rfl⟩ := List.exists_cons_of_ne_nil hgap
  rw [List.forall_mem_cons] at hall
  rw [List.cons_append, pieces, splitAll_append h hall.1, List.filter_cons_of_pos (by simpa using hne)]
  exact congrArg (cs :: ·) (pieces_of_separators hall.2 rest)

/-! ## The characters of a piece -/

theorem mem_splitAll (h : piece ∈ splitAll p cs) : ∀ c ∈ piece, c ∈ cs ∧ p c = false := by
  induction cs generalizing piece with
  | nil =>
      obtain rfl := List.mem_singleton.1 h
      exact List.forall_mem_nil _
  | cons d cs ih =>
      rw [splitAll] at h
      split at h
      · rcases List.mem_cons.1 h with rfl | h
        · exact List.forall_mem_nil _
        · exact fun c hc => (ih h c hc).imp_left (List.mem_cons_of_mem d)
      · rename_i hd
        have hrest : ∀ {other}, other ∈ splitAll p cs → ∀ c ∈ other, c ∈ d :: cs ∧ p c = false :=
          fun hother c hc => (ih hother c hc).imp_left (List.mem_cons_of_mem d)
        have hfirst : d ∈ d :: cs ∧ p d = false := ⟨List.mem_cons_self, Bool.eq_false_iff.2 hd⟩
        split at h
        · obtain rfl := List.mem_singleton.1 h
          exact List.forall_mem_singleton.2 hfirst
        · rename_i first others hsplit
          rcases List.mem_cons.1 h with rfl | h
          · exact List.forall_mem_cons.2 ⟨hfirst, hrest (hsplit ▸ List.mem_cons_self)⟩
          · exact hrest (hsplit ▸ List.mem_cons_of_mem _ h)

theorem mem_pieces (h : piece ∈ pieces p cs) : piece ≠ [] ∧ ∀ c ∈ piece, c ∈ cs ∧ p c = false := by
  obtain ⟨hsplit, hne⟩ := List.mem_filter.1 h
  exact ⟨by simpa using hne, mem_splitAll hsplit⟩

/-! ## Separators at the ends -/

theorem splitAll_ne_nil (cs : List Char) : splitAll p cs ≠ [] := by
  cases cs with
  | nil => exact List.cons_ne_nil _ _
  | cons c cs =>
      rw [splitAll]
      split
      · exact List.cons_ne_nil _ _
      · split <;> exact List.cons_ne_nil _ _

theorem splitAll_append_separators (hgap : ∀ c ∈ gap, p c = true) :
    splitAll p (cs ++ gap) = splitAll p cs ++ gap.map fun _ => [] := by
  induction cs with
  | nil =>
      induction gap with
      | nil => rfl
      | cons c gap ih =>
          rw [List.forall_mem_cons] at hgap
          have hfirst : splitAll p (c :: gap) = [] :: splitAll p gap := if_pos hgap.1
          exact hfirst.trans (congrArg ([] :: ·) (ih hgap.2))
  | cons c cs ih =>
      obtain ⟨piece, pieces, hsplit⟩ := List.exists_cons_of_ne_nil (splitAll_ne_nil (p := p) cs)
      rw [List.cons_append, splitAll, splitAll, ih, hsplit]
      split
      · rfl
      · rfl

theorem pieces_append_separators (hgap : ∀ c ∈ gap, p c = true) : pieces p (cs ++ gap) = pieces p cs := by
  have hempty : (gap.map fun _ => ([] : List Char)).filter (fun piece => !piece.isEmpty) = [] := by
    rw [List.filter_eq_nil_iff]
    intro piece hpiece
    obtain ⟨c, -, rfl⟩ := List.mem_map.1 hpiece
    exact Bool.false_ne_true
  rw [pieces, splitAll_append_separators hgap, List.filter_append, hempty, List.append_nil]
  rfl

theorem pieces_trim (cs : List Char) : pieces isListSeparator (trim cs) = pieces isListSeparator cs := by
  have hseparator : ∀ c, isBlank c = true → isListSeparator c = true :=
    fun c hc => by rw [isListSeparator, hc, Bool.or_true]
  have hlead : pieces isListSeparator (cs.takeWhile isBlank ++ cs.dropWhile isBlank) =
      pieces isListSeparator (cs.dropWhile isBlank) :=
    pieces_of_separators (fun c hc => hseparator c (List.mem_takeWhile_imp hc)) _
  have htrail : pieces isListSeparator (trim cs ++ (cs.dropWhile isBlank).rtakeWhile isBlank) =
      pieces isListSeparator (trim cs) :=
    pieces_append_separators fun c hc => hseparator c (List.mem_rtakeWhile_imp hc)
  rw [List.takeWhile_append_dropWhile] at hlead
  rw [← htrail, trim, trimEnd_eq, List.rdropWhile_append_rtakeWhile, hlead]

end SimControl.Text
