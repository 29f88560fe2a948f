import SimControl.Proofs.Pattern.Beginning
import SimControl.Proofs.Pattern.Case

/-!
# Searches over spoken words

A person may say the words of a phrase in any case and with any white space behind each of them (`Spoken`). A pattern
that matches from no place in the words on, as they are written and before white space, is searched for behind the
words, however they are spoken (`findFrom?_behind_spoken`). A pattern that only matches from the beginning of a word on
has to be looked for at the beginnings only.
-/

namespace SimControl.Pattern

open Position

/-! ## Words with something known behind them -/

/-- No way begins at one of the known characters, if the text behind them begins so. -/
def skipsBefore (pattern : Pattern) (ahead : List Clue) : List Char → Bool
  | [] => true
  | c :: known =>
    pattern.remainders? ((c :: known).map .exactly ++ ahead) == some [] && pattern.skipsBefore ahead known

theorem begins_append {clues : List Clue} {text : List Char} (h : Begins clues text) (known : List Char) :
    Begins (known.map .exactly ++ clues) (known ++ text) := by
  induction known with
  | nil => exact h
  | cons c known ih => exact ⟨beq_self_eq_true c, ih⟩

theorem findFrom?_of_skipsBefore {pattern : Pattern} {ahead : List Clue} {known rest : List Char}
    (h : pattern.skipsBefore ahead known = true) (hahead : Begins ahead rest) (before : List Char) (offset : Nat) :
    pattern.findFrom? before offset (known ++ rest) =
      pattern.findFrom? (known.reverse ++ before) (offset + known.length) rest := by
  induction known generalizing before offset with
  | nil => rfl
  | cons c known ih =>
      obtain ⟨hhere, hlater⟩ := Bool.and_eq_true_iff.1 h
      have hnone : ∀ p q : Position, p.rest = c :: (known ++ rest) → ¬ pattern.Leads p q := by
        intro p q hrest
        exact not_leads (beq_iff_eq.1 hhere) (hrest ▸ begins_append hahead (c :: known))
      rw [List.cons_append, findFrom?_cons hnone, ih hlater, List.reverse_cons, List.append_assoc,
        List.singleton_append, List.length_cons, Nat.add_comm known.length 1, Nat.add_assoc]

/-! ## Beginnings of words -/

/-- Every way begins at the boundary of a word. -/
def opensAtBoundary : Pattern → Bool
  | .seq .boundary _ => true
  | _ => false

theorem atBoundary_of_leads {pattern : Pattern} (h : pattern.opensAtBoundary = true) {p q : Position}
    (hway : pattern.Leads p q) : p.atBoundary = true := by
  unfold opensAtBoundary at h
  split at h
  · obtain ⟨mid, hboundary, -⟩ := hway
    exact hboundary.1
  · cases h

/-- Inside a word no way begins at a boundary. -/
theorem findFrom?_inside {pattern : Pattern} (h : pattern.opensAtBoundary = true) {word : List Char}
    (hword : ∀ c ∈ word, Text.isWordChar c = true) {before : List Char} (hbefore : startsWithWord before = true)
    (offset : Nat) (rest : List Char) : pattern.findFrom? before offset (word ++ rest) =
      pattern.findFrom? (word.reverse ++ before) (offset + word.length) rest := by
  induction word generalizing before offset with
  | nil => rfl
  | cons c word ih =>
      rw [List.forall_mem_cons] at hword
      have hnone : pattern.matchAt? ⟨before, c :: (word ++ rest), offset, [], []⟩ = none := by
        refine matchAt?_eq_none fun q hway => ?_
        have hboundary : (startsWithWord before != Text.isWordChar c) = true := atBoundary_of_leads h hway
        rw [hbefore, hword.1] at hboundary
        cases hboundary
      have hword' : startsWithWord (c :: before) = true := hword.1
      rw [List.cons_append, findFrom?, hnone, Option.orElse_none, ih hword.2 hword', List.reverse_cons,
        List.append_assoc, List.singleton_append, List.length_cons, Nat.add_comm word.length 1, Nat.add_assoc]

/-- No way begins at a place in the word before white space. -/
def passesWord (pattern : Pattern) (word : List Char) : Bool :=
  word.all Text.isWordChar && pattern.remainders? (word.map .exactly ++ [.blank]) == some [] &&
    (pattern.opensAtBoundary || pattern.skipsBefore [.blank] word.tail)

theorem findFrom?_of_passesWord {pattern : Pattern} {word rest : List Char} (h : pattern.passesWord word = true)
    (hrest : Begins [.blank] rest) (before : List Char) (offset : Nat) :
    pattern.findFrom? before offset (word ++ rest) =
      pattern.findFrom? (word.reverse ++ before) (offset + word.length) rest := by
  obtain ⟨hfirst, hinside⟩ := Bool.and_eq_true_iff.1 h
  obtain ⟨hword, hhere⟩ := Bool.and_eq_true_iff.1 hfirst
  cases word with
  | nil => rfl
  | cons c word =>
      have hchars := List.all_eq_true.1 hword
      rw [List.forall_mem_cons] at hchars
      have hnone : ∀ p q : Position, p.rest = c :: (word ++ rest) → ¬ pattern.Leads p q := by
        intro p q hp
        exact not_leads (beq_iff_eq.1 hhere) (hp ▸ begins_append hrest (c :: word))
      rw [List.cons_append, findFrom?_cons hnone, List.reverse_cons, List.append_assoc, List.singleton_append,
        List.length_cons, Nat.add_comm word.length 1, ← Nat.add_assoc]
      rcases Bool.or_eq_true_iff.1 hinside with hopens | hskips
      · have hword' : startsWithWord (c :: before) = true := hchars.1
        exact findFrom?_inside hopens hchars.2 hword' (offset + 1) rest
      · exact findFrom?_of_skipsBefore hskips hrest (c :: before) (offset + 1)

/-! ## Spoken words -/

/-- The words in any case of the English letters, each with white space behind it. -/
inductive Spoken : List (List Char) → List Char → Prop
  | nil : Spoken [] []
  | cons {word said gap rest : List Char} {words : List (List Char)} (same : Text.sameAscii said word = true)
      (ne_nil : gap ≠ []) (blank : ∀ c ∈ gap, Text.isBlank c = true) (more : Spoken words rest) :
      Spoken (word :: words) (said ++ (gap ++ rest))

theorem startsWithWord_of_sameAscii {said word : List Char} (h : Text.sameAscii said word = true) :
    startsWithWord said = startsWithWord word := by
  rw [← startsWithWord_asciiLower said, Text.sameAscii_iff.1 h, startsWithWord_asciiLower]

theorem startsWithWord_append {text : List Char} (h : startsWithWord text = true) (rest : List Char) :
    startsWithWord (text ++ rest) = true := by
  cases text with
  | nil => cases h
  | cons c text => exact h

theorem Spoken.startsWithWord {word : List Char} {words : List (List Char)} {said : List Char}
    (h : Spoken (word :: words) said) (hword : startsWithWord word = true) : startsWithWord said = true := by
  obtain _ | ⟨hsame, -, -, -⟩ := h
  exact startsWithWord_append (startsWithWord_of_sameAscii hsame ▸ hword) _

theorem not_blank_of_startsWithWord {text : List Char} (h : startsWithWord text = true) :
    ∀ c ∈ text.head?, Text.isBlank c = false := by
  intro c hc
  obtain ⟨others, rfl⟩ := List.head?_eq_some_iff.1 hc
  refine Bool.eq_false_iff.2 fun hblank => ?_
  rw [show startsWithWord (c :: others) = Text.isWordChar c from rfl, Text.isWordChar_of_isBlank hblank] at h
  cases h

/-- In the lowered text, a pattern that passes the words is searched for behind them. -/
theorem findFrom?_behind_spoken {pattern : Pattern} {words : List (List Char)}
    (hwords : ∀ word ∈ words, pattern.passesWord (Text.asciiLower word) = true)
    (hblank : pattern.remainders? [.blank] = some []) {said : List Char} (h : Spoken words said) (text : List Char)
    {before : List Char} (hbefore : startsWithWord before = false) (offset : Nat) :
    pattern.findFrom? before offset (Text.asciiLower said ++ text) = pattern.find? text := by
  induction h generalizing before offset with
  | nil => exact findFrom?_eq_find? pattern hbefore offset text
  | @cons word said gap rest words same ne_nil blank more ih =>
      rw [List.forall_mem_cons] at hwords
      obtain ⟨c, gap, rfl⟩ := List.exists_cons_of_ne_nil ne_nil
      have hblanks : ∀ d ∈ Text.asciiLower (c :: gap), Text.isBlank d = true := by
        refine List.forall_mem_map.2 fun d hd => ?_
        rw [Text.isBlank_toLower, blank d hd]
      have hbegins : ∀ rest, Begins [.blank] (Text.asciiLower (c :: gap) ++ rest) :=
        fun _ => ⟨hblanks _ List.mem_cons_self, trivial⟩
      have hend : startsWithWord ((Text.asciiLower (c :: gap)).reverse ++
          ((Text.asciiLower word).reverse ++ before)) = false := by
        obtain ⟨last, others, hlast⟩ := List.exists_cons_of_ne_nil
          (show (Text.asciiLower (c :: gap)).reverse ≠ [] by simp [Text.asciiLower])
        rw [hlast]
        exact Text.isWordChar_of_isBlank (hblanks last (List.mem_reverse.1 (hlast ▸ List.mem_cons_self)))
      rw [Text.asciiLower_append, Text.asciiLower_append, Text.sameAscii_iff.1 same, List.append_assoc,
        List.append_assoc, findFrom?_of_passesWord hwords.1 (hbegins _),
        findFrom?_of_blanks hblank hblanks]
      exact ih hwords.2 hend _

/-- Where nothing is found behind words that a pattern passes, it finds nothing at all. -/
theorem find?_of_spoken {pattern : Pattern} {words : List (List Char)}
    (hwords : ∀ word ∈ words, pattern.passesWord (Text.asciiLower word) = true)
    (hblank : pattern.remainders? [.blank] = some []) {said text : List Char} (h : Spoken words said)
    (htext : pattern.find? text = none) : pattern.find? (said ++ text) = none := by
  have hlower := find?_asciiLower pattern (said ++ text)
  rw [Text.asciiLower_append, find?, findFrom?_behind_spoken hwords hblank h _ rfl, find?_asciiLower, htext] at hlower
  exact Option.map_eq_none_iff.1 hlower.symm

end SimControl.Pattern
