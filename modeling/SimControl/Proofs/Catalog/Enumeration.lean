import SimControl.Proofs.Catalog.Extraction
import SimControl.Proofs.Text.AsciiCase
import SimControl.Proofs.Text.Numeral
import SimControl.Proofs.Text.Piece

/-!
# Lists in a text

A list is written with commas, white space and the conjunctions `and` and `y`, before its tokens, between and after
them. `Enumerates` says which tokens a text lists: just the entries of the text (`enumerates_iff`). So the extractors of
lists recover what was listed, and a list of integers is read as a whole or not at all (`apply_of_enumerates`).
-/

namespace SimControl

/-! ## Integers -/

/-- The integer that a number is, by its kind. -/
def Json.Number.integer? : Json.Number → Option Int
  | .natural n => some n.toNat
  | .negative n => some (-n.magnitude)
  | .double _ => none

theorem Json.Number.integer?_of_ofInt? {i : Int} {n : Json.Number} (h : ofInt? i = some n) : n.integer? = some i := by
  unfold ofInt? at h
  split at h
  · next hneg =>
      obtain rfl := Option.some.inj h
      exact congrArg some (by simp only; omega)
  · split at h
    · next hnat =>
        obtain rfl := Option.some.inj h
        rw [integer?, UInt64.toNat_ofNat_of_lt' (show i.toNat < 2 ^ 64 by omega), Int.toNat_of_nonneg hnat.1]
    · cases h

namespace Extractor

variable {word text : List Char} {tokens : List (List Char)}

theorem integerValue?_of_numeral {i : Int} (h : Text.Numeral64 word i) :
    ∃ n : Json.Number, n.integer? = some i ∧ integerValue? word = some (.number n) := by
  obtain ⟨n, hn⟩ := Json.Number.exists_ofInt? h.low h.high
  refine ⟨n, Json.Number.integer?_of_ofInt? hn, ?_⟩
  rw [integerValue?, Text.signed64?_eq_some_iff.2 h, Option.bind_some, hn, Option.map_some]

theorem integerValue?_of_no_numeral (h : ∀ i, ¬ Text.Numeral64 word i) : integerValue? word = none := by
  have hread : Text.signed64? word = none :=
    Option.eq_none_iff_forall_ne_some.2 fun i hi => h i (Text.signed64?_eq_some_iff.1 hi)
  exact integerValue?_eq_none (hread ▸ rfl)

/-! ## What a text lists -/

/-- The word is `and` or `y`, in any case. -/
def IsConjunction (word : List Char) : Prop :=
  Text.asciiLower word = ['a', 'n', 'd'] ∨ Text.asciiLower word = ['y']

theorem isConjunction_iff : isConjunction word = true ↔ IsConjunction word := by
  rw [isConjunction, Bool.or_eq_true, Text.sameAscii, Text.sameAscii, beq_iff_eq, beq_iff_eq]
  rfl

def IsSeparator (c : Char) : Prop :=
  c = ',' ∨ Text.isBlank c = true

theorem isListSeparator_iff {c : Char} : Text.isListSeparator c = true ↔ IsSeparator c := by
  rw [Text.isListSeparator, Bool.or_eq_true, beq_iff_eq, IsSeparator]

/-- A word has no separator in it. -/
structure IsWord (word : List Char) : Prop where
  ne_nil : word ≠ []
  unbroken : ∀ c ∈ word, ¬ IsSeparator c

/-- The text lists the tokens in their order. Every word, a token or a conjunction, ends at a separator or with the
text. -/
inductive Enumerates : List (List Char) → List Char → Prop
  | nil : Enumerates [] []
  | separator {tokens : List (List Char)} {c : Char} {text : List Char} (separator : IsSeparator c)
      (more : Enumerates tokens text) : Enumerates tokens (c :: text)
  | conjunction {tokens : List (List Char)} {word text : List Char} (conjunction : IsConjunction word)
      (ends : ∀ c ∈ text.head?, IsSeparator c) (more : Enumerates tokens text) : Enumerates tokens (word ++ text)
  | token {tokens : List (List Char)} {word text : List Char} (isWord : IsWord word) (token : ¬ IsConjunction word)
      (ends : ∀ c ∈ text.head?, IsSeparator c) (more : Enumerates tokens text) :
      Enumerates (word :: tokens) (word ++ text)

theorem IsConjunction.isWord (h : IsConjunction word) : IsWord word := by
  have hletters : Text.asciiLower word ≠ [] ∧
      ((Text.asciiLower word).all fun c => !Text.isListSeparator c) = true := by
    rcases h with h | h
    · exact h ▸ by decide
    · exact h ▸ by decide
  refine ⟨fun hnil => hletters.1 (congrArg Text.asciiLower hnil), fun c hc hseparator => ?_⟩
  have hlower := List.all_eq_true.1 hletters.2 c.toLower (List.mem_map_of_mem hc)
  rw [Text.isListSeparator_toLower, isListSeparator_iff.2 hseparator] at hlower
  cases hlower

theorem IsWord.pieces_append (h : IsWord word) (hends : ∀ c ∈ text.head?, IsSeparator c) :
    Text.pieces Text.isListSeparator (word ++ text) = word :: Text.pieces Text.isListSeparator text := by
  have hword : ∀ c ∈ word, Text.isListSeparator c = false := fun c hc =>
    Bool.eq_false_iff.2 (mt isListSeparator_iff.1 (h.unbroken c hc))
  cases text with
  | nil =>
      rw [List.append_nil, Text.pieces_of_none h.ne_nil hword]
      rfl
  | cons c rest =>
      have hgap : ∀ d ∈ [c], Text.isListSeparator d = true :=
        List.forall_mem_singleton.2 (isListSeparator_iff.2 (hends c rfl))
      exact (Text.pieces_append h.ne_nil hword (List.cons_ne_nil _ _) hgap rest).trans
        (congrArg (word :: ·) (Text.pieces_of_separators hgap rest).symm)

theorem entries_separator {c : Char} (h : IsSeparator c) (text : List Char) : entries (c :: text) = entries text := by
  have hgap : ∀ d ∈ [c], Text.isListSeparator d = true := List.forall_mem_singleton.2 (isListSeparator_iff.2 h)
  rw [entries, entries, ← Text.pieces_of_separators hgap text, List.singleton_append]

theorem entries_conjunction (h : IsConjunction word) (hends : ∀ c ∈ text.head?, IsSeparator c) :
    entries (word ++ text) = entries text := by
  rw [entries, h.isWord.pieces_append hends, List.filter_cons_of_neg (by simp [isConjunction_iff.2 h]), entries]

theorem entries_token (h : IsWord word) (htoken : ¬ IsConjunction word) (hends : ∀ c ∈ text.head?, IsSeparator c) :
    entries (word ++ text) = word :: entries text := by
  have hword := Bool.eq_false_iff.2 (mt isConjunction_iff.1 htoken)
  rw [entries, h.pieces_append hends, List.filter_cons_of_pos (by rw [hword, Bool.not_false]), entries]

theorem Enumerates.entries_eq (h : Enumerates tokens text) : entries text = tokens := by
  induction h with
  | nil => rfl
  | separator hseparator _ ih => rw [entries_separator hseparator, ih]
  | conjunction hword hends _ ih => rw [entries_conjunction hword hends, ih]
  | token hword htoken hends _ ih => rw [entries_token hword htoken hends, ih]

theorem enumerates_entries_append (hword : ∀ c ∈ word, ¬ IsSeparator c) (hends : ∀ c ∈ text.head?, IsSeparator c)
    (h : Enumerates (entries text) text) : Enumerates (entries (word ++ text)) (word ++ text) := by
  by_cases hne : word = []
  · rwa [hne]
  · by_cases hconjunction : IsConjunction word
    · rw [entries_conjunction hconjunction hends]
      exact .conjunction hconjunction hends h
    · rw [entries_token ⟨hne, hword⟩ hconjunction hends]
      exact .token ⟨hne, hword⟩ hconjunction hends h

/-- Every text lists something: its entries. -/
theorem enumerates_entries (text : List Char) : Enumerates (entries text) text := by
  suffices hall : ∀ word : List Char, (∀ c ∈ word, ¬ IsSeparator c) →
      Enumerates (entries (word ++ text)) (word ++ text) from hall [] (List.forall_mem_nil _)
  induction text with
  | nil => exact fun word hword => enumerates_entries_append hword (by simp) .nil
  | cons c rest ih =>
      intro word hword
      by_cases hc : IsSeparator c
      · refine enumerates_entries_append hword (fun d hd => Option.some.inj hd ▸ hc) ?_
        rw [entries_separator hc]
        exact .separator hc (ih [] (List.forall_mem_nil _))
      · rw [List.append_cons]
        exact ih (word ++ [c]) (List.forall_mem_append.2 ⟨hword, List.forall_mem_singleton.2 hc⟩)

theorem enumerates_iff : Enumerates tokens text ↔ entries text = tokens :=
  ⟨Enumerates.entries_eq, fun h => h ▸ enumerates_entries text⟩

/-! ## What the extractors return -/

variable {m : Pattern.Match} {name : String}

theorem apply_eq_of_enumerates (hgroup : m.group? name = some text) (hne : Text.trim text ≠ [])
    (h : Enumerates tokens text) :
    stringList.apply m name = some (.array (tokens.map Extractor.text)) ∧
      lowercaseList.apply m name = some (.array (tokens.map fun token => Extractor.text (Text.lower token))) ∧
      integerList.apply m name = (tokens.mapM integerValue?).map .array := by
  have hcaptured := captured?_of_group? hgroup hne
  have hentries : entries (Text.trim text) = tokens := by
    rw [entries, Text.pieces_trim, ← entries, h.entries_eq]
  simp only [apply, hcaptured, Option.map_some, Option.bind_some, hentries, and_self]

theorem mapM_integerValue? {values : List Int} (h : List.Forall₂ Text.Numeral64 tokens values) :
    ∃ numbers : List Json.Number, List.Forall₂ (fun n i => n.integer? = some i) numbers values ∧
      tokens.mapM integerValue? = some (numbers.map .number) := by
  induction h with
  | nil => exact ⟨[], .nil, rfl⟩
  | cons hnumeral _ ih =>
      obtain ⟨n, hn, hread⟩ := integerValue?_of_numeral hnumeral
      obtain ⟨numbers, hnumbers, hreads⟩ := ih
      refine ⟨n :: numbers, .cons hn hnumbers, ?_⟩
      rw [List.mapM_cons, hread, hreads]
      rfl

/-- From a text that lists some tokens and is not blank, just the tokens are recovered, and their lower case; and their
values if all of them are numerals of signed integers of 64 bits, but nothing if one of them is not. -/
theorem apply_of_enumerates (hgroup : m.group? name = some text) (hne : Text.trim text ≠ [])
    (h : Enumerates tokens text) :
    stringList.apply m name = some (.array (tokens.map fun token => .string (String.ofList token))) ∧
      lowercaseList.apply m name =
        some (.array (tokens.map fun token => .string (String.ofList (Text.lower token)))) ∧
      (∀ values, List.Forall₂ Text.Numeral64 tokens values →
        ∃ numbers : List Json.Number, List.Forall₂ (fun n i => n.integer? = some i) numbers values ∧
          integerList.apply m name = some (.array (numbers.map .number))) ∧
      ((∃ token ∈ tokens, ∀ i, ¬ Text.Numeral64 token i) → integerList.apply m name = none) := by
  obtain ⟨hstrings, hlowercase, hintegers⟩ := apply_eq_of_enumerates hgroup hne h
  refine ⟨hstrings, hlowercase, fun values hvalues => ?_, ?_⟩
  · obtain ⟨numbers, hnumbers, hread⟩ := mapM_integerValue? hvalues
    exact ⟨numbers, hnumbers, by rw [hintegers, hread, Option.map_some]⟩
  · rintro ⟨token, htoken, hbad⟩
    rw [hintegers, mapM_eq_none_of_mem htoken (integerValue?_of_no_numeral hbad), Option.map_none]

/-- A conjunction may stand at either end or next to a comma, and a token may begin with one. -/
theorem apply_of_enumerates_keys :
    let m (text : String) : Pattern.Match := ⟨text.toList, [("keys", text.toList)]⟩
    (stringList.apply (m " y,Andy AND, lady\t") "keys" = some (.array [.string "Andy", .string "lady"]) ∧
      lowercaseList.apply (m " y,Andy AND, lady\t") "keys" = some (.array [.string "andy", .string "lady"])) ∧
      (∃ numbers : List Json.Number, List.Forall₂ (fun n i => n.integer? = some i) numbers [4, 5, -6] ∧
        integerList.apply (m "4, and +5 Y -6") "keys" = some (.array (numbers.map .number))) ∧
      integerList.apply (m "4 and 5.0") "keys" = none := by
  intro m
  have hgroup : ∀ text, (m text).group? "keys" = some text.toList := fun _ => rfl
  have hwords := apply_of_enumerates (hgroup " y,Andy AND, lady\t") (by decide)
    (enumerates_iff.2 (show _ = [['A', 'n', 'd', 'y'], ['l', 'a', 'd', 'y']] by decide))
  have hnumbers := apply_of_enumerates (hgroup "4, and +5 Y -6") (by decide)
    (enumerates_iff.2 (show _ = [['4'], ['+', '5'], ['-', '6']] by decide))
  have hnone := apply_of_enumerates (hgroup "4 and 5.0") (by decide)
    (enumerates_iff.2 (show _ = [['4'], ['5', '.', '0']] by decide))
  refine ⟨⟨hwords.1, hwords.2.1⟩, hnumbers.2.2.1 _ ?_, hnone.2.2.2 ⟨_, List.mem_of_getElem? (i := 1) rfl, ?_⟩⟩
  · refine .cons ?_ (.cons ?_ (.cons ?_ .nil)) <;> exact Text.signed64?_eq_some_iff.1 (by decide)
  · intro i hi
    cases Text.signed64?_eq_some_iff.2 hi

end Extractor

end SimControl
