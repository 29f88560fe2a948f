import SimControl.Proofs.Catalog.Extraction
import SimControl.Proofs.Text.AsciiCase
import SimControl.Proofs.Text.Numeral
import SimControl.Proofs.Text.Piece

/-!
# Numerals as parameters

A numeral of digits is read as its decimal value if that is less than `2 ^ 63`, and otherwise not at all
(`IsNumeral.integerValue?_eq`). A list of numerals with spaces between them is read entry by entry, and not at all if
one of them is not read (`parameterValue?_of_spaced`). The parameters of a match are the values of its groups, if the
other parameters of the entry may be left out (`extract_of_values`).
-/

namespace SimControl

open Pattern

/-! ## Values -/

/-- A text of digits, of any length and with any zeros in front. -/
structure IsNumeral (s : String) : Prop where
  ne_nil : s.toList ≠ []
  digits : ∀ c ∈ s.toList, c.isDigit = true

instance (s : String) : Decidable (IsNumeral s) :=
  decidable_of_iff (s.toList ≠ [] ∧ s.toList.all Char.isDigit = true)
    ⟨fun h => ⟨h.1, List.all_eq_true.1 h.2⟩, fun h => ⟨h.ne_nil, List.all_eq_true.2 h.digits⟩⟩

/-- The number that a numeral stands for, unless it has more than 63 bits. -/
def numberOf? (s : String) : Option Json :=
  let value := valueFrom 0 s.toList
  if value < 2 ^ 63 then some (.number (.natural (UInt64.ofNat value))) else none

variable {s : String}

theorem IsNumeral.signed64?_eq (h : IsNumeral s) : Text.signed64? s.toList =
    if valueFrom 0 s.toList < 2 ^ 63 then some (valueFrom 0 s.toList : Int) else none := by
  obtain ⟨c, rest, hcs⟩ := List.exists_cons_of_ne_nil h.ne_nil
  have hdigit := h.digits c (hcs ▸ List.mem_cons_self)
  have hminus : c ≠ '-' := fun heq => absurd (heq ▸ hdigit) (by decide)
  have hplus : c ≠ '+' := fun heq => absurd (heq ▸ hdigit) (by decide)
  have hread := Text.digitsFrom_of_digits h.digits 0
  rw [hcs] at hread ⊢
  rw [Text.signed64?_of_ne hminus, Text.dropPlus_of_ne hplus, Text.digits?, List.isEmpty_cons,
    if_neg Bool.false_ne_true, hread, Option.filter_some]
  by_cases hfits : valueFrom 0 (c :: rest) < 2 ^ 63
  · simp only [hfits, decide_true, if_true, Option.map_some, Int.ofNat_eq_natCast]
  · simp only [hfits, decide_false, Bool.false_eq_true, if_false, Option.map_none]

theorem Json.Number.ofInt?_natCast {n : Nat} (h : n < 2 ^ 64) : ofInt? n = some (.natural (UInt64.ofNat n)) := by
  have hneg : ¬ (0 < (n : Int).natAbs ∧ (n : Int).natAbs ≤ 2 ^ 63 ∧ (n : Int) < 0) := by omega
  have hpos : 0 ≤ (n : Int) ∧ (n : Int) < 2 ^ 64 := by omega
  rw [ofInt?, dif_neg hneg, if_pos hpos, Int.toNat_natCast]

theorem IsNumeral.integerValue?_eq (h : IsNumeral s) : Extractor.integerValue? s.toList = numberOf? s := by
  rw [Extractor.integerValue?, h.signed64?_eq, numberOf?]
  by_cases hfits : valueFrom 0 s.toList < 2 ^ 63
  · rw [if_pos hfits, if_pos hfits, Option.bind_some, Json.Number.ofInt?_natCast (by omega), Option.map_some]
  · rw [if_neg hfits, if_neg hfits, Option.bind_none, Option.map_none]

theorem IsNumeral.trim_eq (h : IsNumeral s) : Text.trim s.toList = s.toList :=
  Text.trim_of_no_blank fun c hc => Text.isBlank_of_isDigit (h.digits c hc)

/-! ## Lists -/

/-- Numerals one after the other, with any number of spaces between them. -/
inductive Spaced : List String → List Char → Prop
  | last {s : String} (numeral : IsNumeral s) : Spaced [s] s.toList
  | cons {s : String} {gap rest : List Char} {entries : List String} (numeral : IsNumeral s) (ne_nil : gap ≠ [])
      (spaces : ∀ c ∈ gap, c = ' ') (more : Spaced entries rest) : Spaced (s :: entries) (s.toList ++ (gap ++ rest))

theorem IsNumeral.not_separator (h : IsNumeral s) : ∀ c ∈ s.toList, Text.isListSeparator c = false :=
  fun c hc => Text.of_isDigit (p := fun c => Text.isListSeparator c = false) (by decide +kernel) (h.digits c hc)

/-- What begins with another letter than the two conjunctions is none. -/
theorem Extractor.isConjunction_eq_false {c : Char} {rest : List Char} (hand : Text.fold c ≠ Text.fold 'a')
    (hy : Text.fold c ≠ Text.fold 'y') : isConjunction (c :: rest) = false := by
  have hother : ∀ {d : Char} {word : List Char}, Text.fold c ≠ Text.fold d →
      Text.sameAscii (c :: rest) (d :: word) = false := fun hne =>
    Bool.eq_false_iff.2 fun hsame => hne (List.cons.inj (Text.map_fold_of_sameAscii hsame)).1
  rw [isConjunction, hother hand, hother hy, Bool.or_false]

theorem IsNumeral.not_conjunction (h : IsNumeral s) : Extractor.isConjunction s.toList = false := by
  obtain ⟨c, rest, hcs⟩ := List.exists_cons_of_ne_nil h.ne_nil
  have hdigit := h.digits c (hcs ▸ List.mem_cons_self)
  have hfold : Text.fold c ≠ Text.fold 'a' ∧ Text.fold c ≠ Text.fold 'y' :=
    Text.of_isDigit (p := fun c => Text.fold c ≠ Text.fold 'a' ∧ Text.fold c ≠ Text.fold 'y') (by decide +kernel) hdigit
  rw [hcs]
  exact Extractor.isConjunction_eq_false hfold.1 hfold.2

namespace Spaced

variable {entries : List String} {codes : List Char}

theorem numerals (h : Spaced entries codes) : ∀ s ∈ entries, IsNumeral s := by
  induction h with
  | last hs => exact List.forall_mem_singleton.2 hs
  | cons hs _ _ _ ih => exact List.forall_mem_cons.2 ⟨hs, ih⟩

theorem head_isDigit (h : Spaced entries codes) : ∃ c ∈ codes.head?, c.isDigit = true := by
  have hhead : ∀ {s : String}, IsNumeral s → ∀ rest, ∃ c ∈ (s.toList ++ rest).head?, c.isDigit = true := by
    intro s hs rest
    obtain ⟨c, others, hcs⟩ := List.exists_cons_of_ne_nil hs.ne_nil
    rw [hcs]
    exact ⟨c, rfl, hs.digits c (hcs ▸ List.mem_cons_self)⟩
  cases h with
  | @last s hs => exact List.append_nil s.toList ▸ hhead hs []
  | cons hs => exact hhead hs _

theorem last_isDigit (h : Spaced entries codes) : ∃ c ∈ codes.getLast?, c.isDigit = true := by
  induction h with
  | @last s hs =>
      exact ⟨_, List.getLast?_eq_getLast_of_ne_nil hs.ne_nil, hs.digits _ (List.getLast_mem hs.ne_nil)⟩
  | @cons s gap rest entries _ _ _ _ ih =>
      obtain ⟨c, hc, hdigit⟩ := ih
      have hne : rest ≠ [] := fun hnil => by simp [hnil] at hc
      rw [← List.append_assoc, List.getLast?_append_of_ne_nil _ hne]
      exact ⟨c, hc, hdigit⟩

theorem digit_or_space (h : Spaced entries codes) : ∀ c ∈ codes, c.isDigit = true ∨ c = ' ' := by
  induction h with
  | last hs => exact fun c hc => .inl (hs.digits c hc)
  | cons hs _ hgap _ ih =>
      intro c hc
      rcases List.mem_append.1 hc with hc | hc
      · exact .inl (hs.digits c hc)
      · exact (List.mem_append.1 hc).elim (fun hc => .inr (hgap c hc)) (ih c)

theorem entries_eq (h : Spaced entries codes) : Extractor.entries codes = entries.map String.toList := by
  have hpieces : Text.pieces Text.isListSeparator codes = entries.map String.toList := by
    induction h with
    | last hs => exact Text.pieces_of_none hs.ne_nil hs.not_separator
    | cons hs hne hgap _ ih =>
        have hall : ∀ c ∈ _, Text.isListSeparator c = true := fun c hc => hgap c hc ▸ by decide
        rw [Text.pieces_append hs.ne_nil hs.not_separator hne hall, ih, List.map_cons]
  rw [Extractor.entries, hpieces, List.filter_eq_self]
  intro word hword
  obtain ⟨s, hs, rfl⟩ := List.mem_map.1 hword
  rw [(h.numerals s hs).not_conjunction]
  rfl

theorem trim_eq (h : Spaced entries codes) : Text.trim codes = codes := by
  obtain ⟨c, hc, hfirst⟩ := h.head_isDigit
  obtain ⟨d, hd, hlast⟩ := h.last_isDigit
  refine Text.trim_of_ends (fun e he => ?_) fun e he => ?_
  · obtain rfl : c = e := Option.some.inj (hc.symm.trans he)
    exact Text.isBlank_of_isDigit hfirst
  · obtain rfl : d = e := Option.some.inj (hd.symm.trans he)
    exact Text.isBlank_of_isDigit hlast

end Spaced

/-! ## Parameters -/

/-- The value of a list of numerals. -/
def numbersOf? (entries : List String) : Option Json :=
  (entries.mapM numberOf?).map .array

/-- Just the named parameters are read as integers, and no other one has a value by default. -/
def Entry.readsIntegers (entry : Entry) (names : List String) : Bool :=
  entry.parameterNames.filter names.contains == names && entry.parameterNames.all fun name =>
    let extractor := (entry.parameter? name).bind (·.extractor)
    if names.contains name then extractor == some .integer || extractor == some .optionalInteger
    else extractor != some .integer && extractor != some .decimal

namespace Definition

variable {d : Definition} {m : Match} {name : String}

theorem parameterValue?_of_numeral
    (hextractor : (d.entry.parameter? name).bind (·.extractor) = some .integer ∨
      (d.entry.parameter? name).bind (·.extractor) = some .optionalInteger)
    (hs : IsNumeral s) (hgroup : m.group? name = some s.toList) : d.parameterValue? m name = numberOf? s := by
  have hcaptured := Extractor.captured?_of_group? hgroup (hs.trim_eq.symm ▸ hs.ne_nil)
  rw [hs.trim_eq] at hcaptured
  rw [parameterValue?]
  rcases hextractor with hextractor | hextractor
  · simp only [hextractor, Extractor.apply, hcaptured, hs.integerValue?_eq]
  · simp only [hextractor, Extractor.apply, hcaptured, Option.bind_some, hs.integerValue?_eq]

theorem parameterValue?_of_spaced {entries : List String} {codes : List Char}
    (hextractor : (d.entry.parameter? name).bind (·.extractor) = some .integerList) (hcodes : Spaced entries codes)
    (hgroup : m.group? name = some codes) : d.parameterValue? m name = numbersOf? entries := by
  have hne : codes ≠ [] := by
    rintro rfl
    obtain ⟨c, hc, -⟩ := hcodes.head_isDigit
    cases hc
  have hcaptured := Extractor.captured?_of_group? hgroup (hcodes.trim_eq.symm ▸ hne)
  rw [hcodes.trim_eq] at hcaptured
  have hvalues : (entries.map String.toList).mapM Extractor.integerValue? = entries.mapM numberOf? := by
    rw [List.mapM_map]
    exact mapM_congr fun s hs => (hcodes.numerals s hs).integerValue?_eq
  rw [parameterValue?]
  simp only [hextractor, Extractor.apply, hcaptured, Option.bind_some, hcodes.entries_eq, hvalues]
  rfl

/-- A parameter without a group is left out, unless it has a value by default. -/
theorem parameterValue?_of_absent (hgroup : m.group? name = none)
    (hinteger : (d.entry.parameter? name).bind (·.extractor) ≠ some .integer)
    (hdecimal : (d.entry.parameter? name).bind (·.extractor) ≠ some .decimal) : d.parameterValue? m name = none := by
  have hcaptured : Extractor.captured? m name = none := by
    rw [Extractor.captured?, hgroup]
    rfl
  rw [parameterValue?]
  cases hextractor : (d.entry.parameter? name).bind (·.extractor) with
  | none => simp only [hgroup, Option.map_none]
  | some extractor =>
      cases extractor with
      | integer => exact absurd hextractor hinteger
      | decimal => exact absurd hextractor hdecimal
      | _ => simp [Extractor.apply, hcaptured, hgroup]

/-- The parameters of a match are the values of some names, if the others have none. -/
theorem extract_of_values {names : List String} {value : String → Option Json}
    (hnames : d.entry.parameterNames.filter names.contains = names)
    (hvalue : ∀ name ∈ d.entry.parameterNames, d.parameterValue? m name =
      if names.contains name then value name else none) :
    d.extract m = .ofList (names.filterMap fun name => (value name).map fun found => (name, found)) := by
  have hfilter : d.entry.parameterNames.filterMap (fun name =>
      (d.parameterValue? m name).map fun found => (name, found)) =
      (d.entry.parameterNames.filter names.contains).filterMap
        fun name => (value name).map fun found => (name, found) := by
    rw [List.filterMap_filter]
    refine List.filterMap_congr fun name hname => ?_
    rw [hvalue name hname]
    split
    · rfl
    · rfl
  rw [extract, hfilter, hnames]

theorem extract_of_numerals {names : List String} (h : d.entry.readsIntegers names = true) {texts : String → String}
    (hnumerals : ∀ name ∈ names, IsNumeral (texts name))
    (hgroups : ∀ name, m.group? name = if name ∈ names then some (texts name).toList else none) :
    d.extract m =
      .ofList (names.filterMap fun name => (numberOf? (texts name)).map fun found => (name, found)) := by
  obtain ⟨hnames, hall⟩ := Bool.and_eq_true_iff.1 h
  refine extract_of_values (beq_iff_eq.1 hnames) fun name hname => ?_
  have hextractor := List.all_eq_true.1 hall name hname
  have hgroup := hgroups name
  by_cases hmem : name ∈ names
  · rw [if_pos (List.contains_iff_mem.2 hmem)] at hextractor ⊢
    rw [if_pos hmem] at hgroup
    exact parameterValue?_of_numeral (by simpa using hextractor) (hnumerals name hmem) hgroup
  · have hother : ¬ names.contains name = true := fun hin => hmem (List.contains_iff_mem.1 hin)
    rw [if_neg hother] at hextractor ⊢
    rw [if_neg hmem] at hgroup
    obtain ⟨hinteger, hdecimal⟩ := Bool.and_eq_true_iff.1 hextractor
    exact parameterValue?_of_absent hgroup (bne_iff_ne.1 hinteger) (bne_iff_ne.1 hdecimal)

end Definition

end SimControl
