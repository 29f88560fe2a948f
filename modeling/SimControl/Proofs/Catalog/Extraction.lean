import SimControl.Catalog.Definition
import SimControl.Proofs.Device.Argument
import SimControl.Proofs.Reading
import SimControl.Proofs.Text.Numeral

/-!
# Parameters from a match

Each parameter of a definition is extracted from the group that is named after it, so the parameters are looked up
group by group (`get?_extract_of_mem`, `get?_extract_eq_none`). A text that does not fit a number leaves its
parameter out (`apply_of_unfit`), and a numeral that fits is read again as a number when the command is carried out
(`exists_number`).
-/

namespace SimControl

open Pattern

/-! ## Numerals -/

namespace Extractor

theorem captured?_of_group? {m : Match} {name : String} {cs : List Char} (hgroup : m.group? name = some cs)
    (hne : Text.trim cs ≠ []) : captured? m name = some (Text.trim cs) := by
  rw [captured?, hgroup, Option.map_some]
  exact Option.filter_eq_some_iff.2 ⟨rfl, by simpa using hne⟩

theorem captured?_of_blank {m : Match} {name : String} {cs : List Char} (hgroup : m.group? name = some cs)
    (hblank : Text.trim cs = []) : captured? m name = none := by
  rw [captured?, hgroup, Option.map_some, hblank]
  rfl

theorem integerValue?_eq_none {cs : List Char} (h : (Text.signed64? cs).isSome = false) :
    integerValue? cs = none := by
  rw [integerValue?, Option.isNone_iff_eq_none.1 (Option.isSome_eq_false_iff.1 h)]
  rfl

theorem exists_integerValue? {cs : List Char} (h : (Text.signed64? cs).isSome = true) :
    ∃ n x, integerValue? cs = some (.number n) ∧ n.toDouble? = some x := by
  obtain ⟨i, hi⟩ := Option.isSome_iff_exists.1 h
  obtain ⟨-, hlow, hhigh⟩ := Text.signed64?_eq_some_iff.1 hi
  obtain ⟨n, hn⟩ := Json.Number.exists_ofInt? hlow hhigh
  obtain ⟨x, hx⟩ := Binary64.exists_ofInt? (i := i) (by omega)
  refine ⟨n, x, ?_, (Json.Number.toDouble?_of_ofInt? hn).trans hx⟩
  rw [integerValue?, hi, Option.bind_some, hn, Option.map_some]

end Extractor

/-! ## Numbers -/

namespace Parameter

def isNumeric (p : Parameter) : Bool :=
  p.type == .number || p.type == .numberArray

/-- The text of a group is what the parameter stands for: a finite decimal, some integers of 64 bits each, or
one of them. -/
def fits (p : Parameter) (cs : List Char) : Bool :=
  match p.extractor with
  | some .decimal => (Decimal.localNumeral? (Text.trim cs)).isSome
  | some .integerList =>
    !(Text.trim cs).isEmpty && (Extractor.entries (Text.trim cs)).all fun word => (Text.signed64? word).isSome
  | _ => (Text.signed64? (Text.trim cs)).isSome

end Parameter

def Extractor.ofNumbers : List Extractor :=
  [.integer, .optionalInteger, .decimal, .integerList]

/-- A text that does not fit leaves the parameter out. Blank text is zero for some extractors. -/
theorem Extractor.apply_of_unfit {extractor : Extractor} (hnumbers : extractor ∈ ofNumbers) {p : Parameter}
    (hp : p.extractor = some extractor) {m : Match} {cs : List Char} (hgroup : m.group? p.name = some cs)
    (hne : extractor ≠ .integerList → Text.trim cs ≠ []) (hunfit : p.fits cs = false) :
    extractor.apply m p.name = none := by
  have hcaptured := captured?_of_group? hgroup
  rw [Parameter.fits, hp] at hunfit
  cases extractor with
  | integer =>
      rw [apply, hcaptured (hne (by decide))]
      exact integerValue?_eq_none hunfit
  | optionalInteger =>
      rw [apply, hcaptured (hne (by decide)), Option.bind_some]
      exact integerValue?_eq_none hunfit
  | decimal =>
      have hnone : Decimal.localNumeral? (Text.trim cs) = none :=
        Option.isNone_iff_eq_none.1 (Option.isSome_eq_false_iff.1 hunfit)
      rw [apply, hcaptured (hne (by decide))]
      simp only [hnone, Option.map_none]
  | integerList =>
      by_cases hblank : Text.trim cs = []
      · rw [apply, captured?_of_blank hgroup hblank, Option.bind_none]
      · obtain ⟨word, hword, hbad⟩ : ∃ word ∈ entries (Text.trim cs), (Text.signed64? word).isSome = false := by
          simpa [hblank] using hunfit
        rw [apply, hcaptured hblank, Option.bind_some, mapM_eq_none_of_mem hword (integerValue?_eq_none hbad),
          Option.map_none]
  | _ => exact absurd hnumbers (by decide)

/-! ## All parameters -/

/-- Only the named parameter has an extractor, which trims it. -/
def Entry.takesOnly (entry : Entry) (name : String) : Bool :=
  entry.parameterNames.filter (· == name) == [name] && entry.parameterNames.all fun other =>
    (entry.parameter? other).bind (·.extractor) == if other == name then some .trimmed else none

namespace Definition

variable {d : Definition} {m : Match} {name : String}

theorem get?_extract_eq_none (h : d.parameterValue? m name = none) : (d.extract m).get? name = none := by
  refine Dictionary.get?_ofList_of_not_mem fun hmem => ?_
  obtain ⟨⟨key, value⟩, hentry, rfl⟩ := List.mem_map.1 hmem
  obtain ⟨other, -, hvalue⟩ := List.mem_filterMap.1 hentry
  obtain ⟨found, hfound, hpair⟩ := Option.map_eq_some_iff.1 hvalue
  obtain ⟨rfl, rfl⟩ := Prod.mk.inj hpair
  rw [h] at hfound
  cases hfound

theorem keys_filterMap {α : Type} (f : String → Option α) (names : List String) :
    ((names.filterMap fun name => (f name).map fun value => (name, value)).map (·.1)).Sublist names := by
  induction names with
  | nil => exact .slnil
  | cons name names ih =>
      rw [List.filterMap_cons]
      cases f name with
      | none => exact ih.cons _
      | some value => exact ih.cons_cons _

theorem get?_extract_of_mem (hnodup : d.entry.parameterNames.Nodup) (hname : name ∈ d.entry.parameterNames)
    {value : Json} (h : d.parameterValue? m name = some value) : (d.extract m).get? name = some value := by
  refine Dictionary.get?_ofList_of_mem (hnodup.sublist (keys_filterMap _ _)) ?_
  exact List.mem_filterMap.2 ⟨name, hname, by rw [h, Option.map_some]⟩

/-- A plain integer that fits, or is not there, is read as a number. -/
theorem exists_number (hnodup : d.entry.parameterNames.Nodup) (hname : name ∈ d.entry.parameterNames)
    (hextractor : (d.entry.parameter? name).bind (·.extractor) = some .integer)
    (hfits : ∀ cs, m.group? name = some cs → (Text.signed64? (Text.trim cs)).isSome = true) :
    ∃ x, (d.extract m).number name = .ok x := by
  obtain ⟨n, x, hvalue, hx⟩ :
      ∃ n x, d.parameterValue? m name = some (.number n) ∧ n.toDouble? = some x := by
    rw [parameterValue?, hextractor]
    simp only [Extractor.apply]
    cases hgroup : m.group? name with
    | none =>
        obtain ⟨x, hx⟩ := Binary64.exists_ofInt? (i := 0) (by decide)
        exact ⟨.natural 0, x, by rw [Extractor.captured?, hgroup]; rfl, hx⟩
    | some cs =>
        have hcs := hfits cs hgroup
        have hne : Text.trim cs ≠ [] := by
          intro hnil
          rw [hnil] at hcs
          cases hcs
        rw [Extractor.captured?_of_group? hgroup hne]
        exact Extractor.exists_integerValue? hcs
  exact ⟨x, Params.number_of_present (Params.present?_of_get? (get?_extract_of_mem hnodup hname hvalue) rfl) hx⟩

/-- A match without other groups gives at most the one parameter. -/
theorem extract_of_takesOnly (h : d.entry.takesOnly name = true)
    (hgroups : ∀ other, other ≠ name → m.group? other = none) :
    d.extract m = .ofList (((Extractor.captured? m name).map fun cs => (name, Extractor.text cs)).toList) := by
  obtain ⟨hfilter, hall⟩ := Bool.and_eq_true_iff.1 h
  have hextractor : ∀ other ∈ d.entry.parameterNames, (d.entry.parameter? other).bind (·.extractor) =
      if other == name then some .trimmed else none := fun other hother =>
    beq_iff_eq.1 (List.all_eq_true.1 hall other hother)
  have hnone : ∀ other ∈ d.entry.parameterNames, other ≠ name →
      ((d.parameterValue? m other).map fun value => (other, value)) = none := by
    intro other hother hne
    rw [parameterValue?, hextractor other hother, if_neg (fun heq => hne (beq_iff_eq.1 heq))]
    simp only [hgroups other hne, Option.map_none]
  have hname : name ∈ d.entry.parameterNames := by
    have hmem : name ∈ d.entry.parameterNames.filter (· == name) :=
      (beq_iff_eq.1 hfilter).symm ▸ List.mem_singleton_self name
    exact List.mem_of_mem_filter hmem
  rw [extract, filterMap_of_only hnone, beq_iff_eq.1 hfilter]
  simp only [List.filterMap_cons, List.filterMap_nil, parameterValue?, hextractor name hname, beq_self_eq_true,
    if_true, Extractor.apply, Option.map_map]
  cases Extractor.captured? m name <;> rfl

/-- If the only group of a match is the one of the parameter, the parameter is its trimmed text. -/
theorem extract_of_group (h : d.entry.takesOnly name = true) {cs : List Char} (hgroups : m.groups = [(name, cs)])
    (hne : Text.trim cs ≠ []) : d.extract m = .ofList [(name, Extractor.text (Text.trim cs))] := by
  have hgroup : m.group? name = some cs := by
    rw [Match.group?, hgroups, List.lookup_cons_self]
  have hothers : ∀ other, other ≠ name → m.group? other = none := by
    intro other hother
    rw [Match.group?, hgroups, lookup_cons_eq_ite, if_neg hother, List.lookup_nil]
  rw [extract_of_takesOnly h hothers, Extractor.captured?_of_group? hgroup hne]
  rfl

end Definition

end SimControl
