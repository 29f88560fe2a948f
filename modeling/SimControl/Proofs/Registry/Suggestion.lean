import Mathlib.Data.List.Nodup
import SimControl.Proofs.Text.Blank
import SimControl.Registry.Discovery

/-!
# Suggestions

Suggestions are collected phrase by phrase until there are five. What has been kept at any time has no duplicates, and
together with the matching phrases still to come it has the same first five: so the answer for a text that is not blank
is the first five of all matching phrases, each where it occurs first.
-/

namespace SimControl

namespace Text

variable {needle : List Char}

theorem occursIn_iff {cs : List Char} : occursIn needle cs = true ↔ needle <:+: cs := by
  induction cs with
  | nil => rw [occursIn, List.isEmpty_iff, List.infix_nil]
  | cons c rest ih => rw [occursIn, Bool.or_eq_true, List.isPrefixOf_iff_prefix, ih, List.infix_cons_iff]

theorem lower_ne_nil {cs : List Char} (h : cs ≠ []) : lower cs ≠ [] := by
  cases cs with
  | nil => exact absurd rfl h
  | cons c rest =>
      have hchar : lowerChar c ≠ [] := by
        rw [lowerChar]
        split
        · exact List.cons_ne_nil _ _
        · split <;> exact List.cons_ne_nil _ _
      rw [lower, lowerFrom]
      refine List.append_ne_nil_of_left_ne_nil ?_ _
      split
      · exact List.cons_ne_nil _ _
      · exact hchar

end Text

namespace Registry

/-! ## Lists without duplicates -/

section

variable {α : Type} [BEq α] [LawfulBEq α] {kept as bs : List α} {a : α}

/-- An element that has occurred before is not kept again. -/
theorem eraseDups_append_cons_of_mem (h : a ∈ as) : (as ++ a :: bs).eraseDups = (as ++ bs).eraseDups := by
  rw [List.eraseDups_append, List.eraseDups_append, List.cons_removeAll, List.contains_iff_mem.2 h,
    if_neg (by decide)]

theorem eraseDups_append_singleton_of_not_mem (h : a ∉ as) : (as ++ [a]).eraseDups = as.eraseDups ++ [a] := by
  have hnew : as.contains a = false := by rwa [List.contains_eq_mem, decide_eq_false_iff_not]
  rw [List.eraseDups_append, List.cons_removeAll, if_pos hnew]
  rfl

theorem nodup_eraseDups (as : List α) : as.eraseDups.Nodup := by
  induction as using List.reverseRecOn with
  | nil => exact List.nodup_nil
  | append_singleton as a ih =>
      by_cases h : a ∈ as
      · rwa [eraseDups_append_cons_of_mem h, List.append_nil]
      · rw [eraseDups_append_singleton_of_not_mem h, ← List.concat_eq_append, List.nodup_concat, List.mem_eraseDups]
        exact ⟨h, ih⟩

/-- What is not among the first elements comes after that many others. -/
theorem take_eraseDups_of_not_mem {n : Nat} (h : a ∉ (as ++ a :: bs).eraseDups.take n) :
    ((as ++ a :: bs).eraseDups.take n).length = n ∧ (as ++ a :: bs).eraseDups.take n ⊆ as := by
  rw [List.eraseDups_append] at h ⊢
  rcases Nat.lt_or_ge as.eraseDups.length n with hlt | hle
  · refine absurd ?_ h
    rw [List.take_append, List.take_of_length_le hlt.le, List.mem_append, List.mem_eraseDups]
    refine (Classical.em (a ∈ as)).imp_right fun hnew => ?_
    obtain ⟨k, hk⟩ : ∃ k, n - as.eraseDups.length = k + 1 := Nat.exists_eq_add_one.2 (Nat.sub_pos_of_lt hlt)
    have hnew' : as.contains a = false := by rwa [List.contains_eq_mem, decide_eq_false_iff_not]
    rw [hk, List.cons_removeAll, if_pos hnew', List.eraseDups_cons]
    exact List.mem_cons_self
  · rw [List.take_append_of_le_length hle]
    exact ⟨List.length_take_of_le hle, fun b hb => List.mem_eraseDups.1 (List.mem_of_mem_take hb)⟩

end

/-! ## Collecting -/

/-- The first five of what has been kept and what matches among the phrases to come are the answer. -/
theorem collectSuggestions_eq (needle : List Char) (phrases : List String) :
    ∀ kept : List String, kept.eraseDups = kept → kept.length < maxSuggestions →
      collectSuggestions needle kept phrases =
        (kept ++ phrases.filter fun phrase => Text.occursIn needle (Text.lower phrase.toList)).eraseDups.take
          maxSuggestions := by
  induction phrases with
  | nil =>
      intro kept hkept hroom
      rw [collectSuggestions, List.filter_nil, List.append_nil, hkept, List.take_of_length_le hroom.le]
  | cons phrase rest ih =>
      intro kept hkept hroom
      rw [collectSuggestions, List.filter_cons]
      cases Text.occursIn needle (Text.lower phrase.toList) with
      | false => exact ih kept hkept hroom
      | true =>
          by_cases hold : phrase ∈ kept
          · rw [List.contains_iff_mem.2 hold, if_neg (by decide), if_pos rfl, eraseDups_append_cons_of_mem hold]
            exact ih kept hkept hroom
          · have hnew : kept.contains phrase = false := by rwa [List.contains_eq_mem, decide_eq_false_iff_not]
            have hkept' : (kept ++ [phrase]).eraseDups = kept ++ [phrase] := by
              rw [eraseDups_append_singleton_of_not_mem hold, hkept]
            rw [hnew, if_pos (by decide), if_pos rfl, List.append_cons kept phrase (List.filter _ rest)]
            dsimp only
            by_cases hfull : (kept ++ [phrase]).length = maxSuggestions
            · rw [if_pos (beq_iff_eq.2 hfull), List.eraseDups_append, hkept', List.take_append_of_le_length hfull.ge,
                List.take_of_length_le hfull.le]
            · rw [if_neg (mt beq_iff_eq.1 hfull)]
              refine ih _ hkept' (Nat.lt_of_le_of_ne ?_ hfull)
              rw [List.length_append]
              exact hroom

/-! ## Suggestions -/

/-- The phrase holds the partial text, whatever the cases of both and the white space around the text. -/
def Completes (partialText phrase : String) : Prop :=
  Text.lower (Text.trim partialText.toList) <:+: Text.lower phrase.toList

instance (partialText : String) : DecidablePred (Completes partialText) := fun _ =>
  inferInstanceAs (Decidable (_ <:+: _))

/-- The names and examples that hold the partial text, in the order of the catalog. -/
def completions (r : Registry) (partialText : String) : List String :=
  (r.definitions.flatMap fun d => d.name :: d.entry.examples).filter fun phrase => Completes partialText phrase

theorem suggest_eq {partialText : String} (h : Text.trim partialText.toList ≠ []) (r : Registry) :
    r.suggest partialText = (r.completions partialText).eraseDups.take maxSuggestions := by
  have hneedle := List.isEmpty_eq_false_iff.2 (Text.lower_ne_nil h)
  have hmatch : (fun phrase : String => Text.occursIn (Text.lower (Text.trim partialText.toList))
      (Text.lower phrase.toList)) = fun phrase => decide (Completes partialText phrase) := by
    funext phrase
    rw [Bool.eq_iff_iff, Text.occursIn_iff, decide_eq_true_eq, Completes]
  rw [suggest]
  simp only [hneedle, if_neg Bool.false_ne_true]
  rw [collectSuggestions_eq _ _ [] rfl (by decide), List.nil_append, hmatch]
  rfl

theorem suggest_padded {front back : String} (hblank : ∀ c ∈ front.toList ++ back.toList, Text.isBlank c = true)
    (r : Registry) (partialText : String) : r.suggest (front ++ partialText ++ back) = r.suggest partialText := by
  rw [List.forall_mem_append] at hblank
  rw [suggest, suggest, String.toList_append, String.toList_append, Text.trim_padded hblank.1 hblank.2]

/-- For a partial text that is not blank, the first five of the phrases that hold it are suggested, each of them once,
where it occurs first. So a phrase that holds the text is left out only after five others, and white space around the
text does not matter. -/
theorem suggest_exact {partialText : String} (h : Text.trim partialText.toList ≠ []) (r : Registry) :
    r.suggest partialText = (r.completions partialText).eraseDups.take 5 ∧
      (r.suggest partialText).length ≤ 5 ∧ (r.suggest partialText).Nodup ∧
      (∀ before phrase after, r.completions partialText = before ++ phrase :: after → phrase ∉ r.suggest partialText →
        (r.suggest partialText).length = 5 ∧ r.suggest partialText ⊆ before) ∧
      ∀ front back : String, (∀ c ∈ front.toList ++ back.toList, Text.isBlank c = true) →
        r.suggest (front ++ partialText ++ back) = r.suggest partialText := by
  refine ⟨suggest_eq h r, ?_, ?_, fun before phrase after hsplit hout => ?_, fun front back hblank =>
    suggest_padded hblank r partialText⟩
  · rw [suggest_eq h]
    exact List.length_take_le _ _
  · rw [suggest_eq h]
    exact (nodup_eraseDups _).sublist (List.take_sublist _ _)
  · rw [suggest_eq h, hsplit] at hout ⊢
    exact take_eraseDups_of_not_mem hout

/-- A name that is also an example of another command is suggested once. -/
theorem suggest_app :
    let launch : Entry := ⟨"launch app", .launchApp, "", [], [], [], [], ["Open the App"]⟩
    let list : Entry := ⟨"list apps", .listApps, "", [], [], [], [], ["launch app", "list sessions"]⟩
    let r : Registry := { empty with groups := [⟨"apps", [⟨launch, []⟩, ⟨list, []⟩]⟩] }
    r.suggest "\tAPP " = ["launch app", "Open the App", "list apps"] ∧ (r.suggest "\tAPP ").Nodup := by
  intro launch list r
  have h := suggest_exact (show Text.trim "\tAPP ".toList ≠ [] by decide) r
  exact ⟨h.1.trans (by decide +kernel), h.2.2.1⟩

end Registry

end SimControl
