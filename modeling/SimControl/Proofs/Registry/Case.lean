import SimControl.Catalog.Misc
import SimControl.Proofs.Dictionary
import SimControl.Proofs.Pattern.Case
import SimControl.Registry.Basic

/-!
# Instructions up to ASCII case

Two texts that are equal up to ASCII case once they are trimmed are the same instruction for every registry:
`resolve_ignores_case`. The parameters differ at most in the case of the texts that an extractor takes as
they stand.
-/

namespace SimControl

open Text

/-! ## Values -/

namespace Json

/-- The same value, or two texts that are equal up to ASCII case. -/
inductive SameText : Json → Json → Prop where
  | same (j : Json) : SameText j j
  | text {s t : String} (h : sameAscii s.toList t.toList = true) : SameText (.string s) (.string t)

/-- Lists are compared entry by entry. -/
inductive SameTexts : Json → Json → Prop where
  | item {v w : Json} (h : SameText v w) : SameTexts v w
  | list {vs ws : List Json} (h : List.Forall₂ SameText vs ws) : SameTexts (.array vs) (.array ws)

end Json

section

variable {α β : Type} {R : α → α → Prop} {S : β → β → Prop}

theorem rel_of_map_eq {f : α → β} (hR : ∀ x y, f x = f y → R x y) {a b : Option α}
    (h : a.map f = b.map f) : Option.Rel R a b := by
  cases a with
  | none =>
      cases b with
      | none => exact .none
      | some y => cases h
  | some x =>
      cases b with
      | none => cases h
      | some y => exact .some (hR x y (Option.some.inj h))

theorem rel_map {f : α → β} (hf : ∀ x y, R x y → S (f x) (f y)) {a b : Option α} (h : Option.Rel R a b) :
    Option.Rel S (a.map f) (b.map f) := by
  cases h with
  | none => exact .none
  | some hxy => exact .some (hf _ _ hxy)

theorem rel_cases {a b : Option α} (h : Option.Rel R a b) :
    (a = none ∧ b = none) ∨ ∃ x y, a = some x ∧ b = some y ∧ R x y := by
  cases h with
  | none => exact .inl ⟨rfl, rfl⟩
  | some hxy => exact .inr ⟨_, _, rfl, rfl, hxy⟩

end

/-! ## Extractors -/

namespace Extractor

theorem integerValue?_asciiLower (cs : List Char) : integerValue? (asciiLower cs) = integerValue? cs := by
  rw [integerValue?, integerValue?, signed64?_asciiLower]

theorem isConjunction_asciiLower (word : List Char) :
    isConjunction (asciiLower word) = isConjunction word := by
  rw [isConjunction, isConjunction, sameAscii_asciiLower, sameAscii_asciiLower]

theorem entries_asciiLower (cs : List Char) : entries (asciiLower cs) = (entries cs).map asciiLower := by
  rw [entries, entries, pieces_asciiLower isListSeparator_toLower, List.filter_map]
  congr 1
  exact List.filter_congr fun word _ => congrArg (!·) (isConjunction_asciiLower word)

theorem captured?_lower (m : Pattern.Match) (name : String) :
    captured? m.lower name = (captured? m name).map asciiLower := by
  rw [captured?, captured?, m.group?_lower]
  cases m.group? name with
  | none => rfl
  | some cs =>
      simp only [Option.map_some, trim_asciiLower, Option.filter_some, isEmpty_asciiLower]
      split
      · rfl
      · rfl

/-- A text is taken as it stands, except for white space around it or its entries. -/
def keepsCase : Extractor → Bool
  | .trimmed => true
  | .stringList => true
  | _ => false

/-- All other extractors give the same value for the lowered text. -/
theorem apply_lower {extractor : Extractor} (h : extractor.keepsCase = false) (m : Pattern.Match)
    (name : String) : extractor.apply m.lower name = extractor.apply m name := by
  cases extractor with
  | trimmed => cases h
  | stringList => cases h
  | uppercase =>
      rw [apply, apply, captured?_lower, Option.map_map]
      exact congrArg (Option.map · _) (funext fun cs => congrArg text (upper_asciiLower cs))
  | lowercase =>
      rw [apply, apply, captured?_lower, Option.map_map]
      exact congrArg (Option.map · _) (funext fun cs => congrArg text (lower_asciiLower cs))
  | integer =>
      rw [apply, apply, captured?_lower]
      cases captured? m name with
      | none => rfl
      | some cs => exact integerValue?_asciiLower cs
  | optionalInteger =>
      rw [apply, apply, captured?_lower]
      cases captured? m name with
      | none => rfl
      | some cs => exact integerValue?_asciiLower cs
  | decimal =>
      rw [apply, apply, captured?_lower]
      cases captured? m name with
      | none => rfl
      | some cs => exact congrArg (Option.map Json.ofDouble) (Decimal.localNumeral?_asciiLower cs)
  | integerList =>
      rw [apply, apply, captured?_lower]
      cases captured? m name with
      | none => rfl
      | some cs =>
          simp only [Option.map_some, Option.bind_some, entries_asciiLower, List.mapM_map, Function.comp_def,
            integerValue?_asciiLower]
  | lowercaseList =>
      rw [apply, apply, captured?_lower]
      cases captured? m name with
      | none => rfl
      | some cs =>
          simp only [Option.map_some, entries_asciiLower, List.map_map, Function.comp_def, lower_asciiLower]
  | flag =>
      rw [apply, apply, m.group?_lower, Option.map_map]
      rfl

/-- What two texts may give that are equal up to ASCII case. Without extractor, the text is the value. -/
def SameValue (extractor : Option Extractor) (v w : Json) : Prop :=
  if extractor.all keepsCase then v.SameTexts w else v = w

theorem sameText_text {as bs : List Char} (h : asciiLower as = asciiLower bs) :
    (text as).SameText (text bs) := by
  refine .text (sameAscii_iff.2 ?_)
  rw [String.toList_ofList, String.toList_ofList]
  exact h

variable {m m' : Pattern.Match}

theorem group?_rel (h : m.lower = m'.lower) (name : String) :
    Option.Rel (fun as bs => asciiLower as = asciiLower bs) (m.group? name) (m'.group? name) := by
  refine rel_of_map_eq (fun _ _ => id) ?_
  rw [← m.group?_lower, h, m'.group?_lower]

theorem captured?_rel (h : m.lower = m'.lower) (name : String) :
    Option.Rel (fun as bs => asciiLower as = asciiLower bs) (captured? m name) (captured? m' name) := by
  refine rel_of_map_eq (fun _ _ => id) ?_
  rw [← captured?_lower, h, captured?_lower]

theorem sameText_entries {as bs : List Char} (h : asciiLower as = asciiLower bs) :
    List.Forall₂ Json.SameText ((entries as).map text) ((entries bs).map text) := by
  have hentries : (entries as).map asciiLower = (entries bs).map asciiLower := by
    rw [← entries_asciiLower, h, entries_asciiLower]
  refine List.forall₂_map_left_iff.2 (List.forall₂_map_right_iff.2 ?_)
  refine List.Forall₂.imp (fun _ _ => sameText_text) ?_
  rw [← List.forall₂_map_right_iff (f := asciiLower), ← List.forall₂_map_left_iff (f := asciiLower),
    List.forall₂_eq_eq_eq]
  exact hentries

theorem apply_rel (h : m.lower = m'.lower) (extractor : Extractor) (name : String) :
    Option.Rel (SameValue (some extractor)) (extractor.apply m name) (extractor.apply m' name) := by
  cases hkeeps : extractor.keepsCase with
  | false =>
      have heq : extractor.apply m name = extractor.apply m' name := by
        rw [← apply_lower hkeeps m, h, apply_lower hkeeps m']
      rw [heq]
      cases extractor.apply m' name with
      | none => exact .none
      | some v => exact .some (by simp [SameValue, hkeeps])
  | true =>
      have hcaptured := captured?_rel h name
      cases extractor with
      | trimmed => exact rel_map (fun _ _ hcs => .item (sameText_text hcs)) hcaptured
      | stringList => exact rel_map (fun _ _ hcs => .list (sameText_entries hcs)) hcaptured
      | _ => cases hkeeps

end Extractor

/-! ## Definitions -/

namespace Definition

def extractor? (d : Definition) (name : String) : Option Extractor :=
  (d.entry.parameter? name).bind (·.extractor)

/-- Parameters that a definition may take from two texts that are equal up to ASCII case. -/
structure SameParams (d : Definition) (a b : Params) : Prop where
  keys : a.keys = b.keys
  values : ∀ name, Option.Rel (Extractor.SameValue (d.extractor? name)) (a.get? name) (b.get? name)

theorem match?_asciiLower (d : Definition) (text : List Char) :
    d.match? (asciiLower text) = (d.match? text).map Pattern.Match.lower := by
  rw [match?, match?, List.map_findSome?]
  exact congrArg (List.findSome? · d.patterns) (funext fun pattern => pattern.find?_asciiLower text)

variable {m m' : Pattern.Match}

theorem parameterValue?_rel (h : m.lower = m'.lower) (d : Definition) (name : String) :
    Option.Rel (Extractor.SameValue (d.extractor? name)) (d.parameterValue? m name)
      (d.parameterValue? m' name) := by
  rw [parameterValue?, parameterValue?, ← extractor?]
  cases d.extractor? name with
  | some extractor => exact extractor.apply_rel h name
  | none => exact rel_map (fun _ _ hcs => .item (Extractor.sameText_text hcs)) (Extractor.group?_rel h name)

theorem extract_related (h : m.lower = m'.lower) (d : Definition) :
    Dictionary.Related (fun name => Extractor.SameValue (d.extractor? name)) (d.extract m) (d.extract m') := by
  refine Dictionary.related_ofList (List.rel_filterMap (R := Eq) ?_ (List.forall₂_refl _))
  rintro name _ rfl
  exact rel_map (fun _ _ hvw => ⟨rfl, hvw⟩) (parameterValue?_rel h d name)

theorem extract_sameParams (h : m.lower = m'.lower) (d : Definition) :
    d.SameParams (d.extract m) (d.extract m') where
  keys := (extract_related h d).keys_eq
  values := (extract_related h d).get?

end Definition

/-! ## Registries -/

namespace Registry

theorem firstMatch?_asciiLower (r : Registry) (text : List Char) :
    r.firstMatch? (asciiLower text) = (r.firstMatch? text).map fun (d, m) => (d, m.lower) := by
  rw [firstMatch?, firstMatch?, List.map_findSome?]
  refine congrArg (List.findSome? · r.definitions) (funext fun d => ?_)
  rw [d.match?_asciiLower, Function.comp_apply, Option.map_map, Option.map_map]
  rfl

/-- Two texts that are equal up to ASCII case are matched alike. -/
theorem firstMatch?_rel (r : Registry) {as bs : List Char} (h : asciiLower as = asciiLower bs) :
    Option.Rel (fun a b => a.1 = b.1 ∧ a.2.lower = b.2.lower) (r.firstMatch? as) (r.firstMatch? bs) := by
  refine rel_of_map_eq (f := fun (d, m) => (d, m.lower)) (fun _ _ => Prod.mk.inj) ?_
  rw [← firstMatch?_asciiLower, h, firstMatch?_asciiLower]

theorem resolve_of_firstMatch? {r : Registry} {t : String} {d : Definition} {m : Pattern.Match}
    (hne : (trim t.toList).isEmpty = false) (h : r.firstMatch? (trim t.toList) = some (d, m)) :
    r.resolve t = .ok ⟨d.kind, d.name, d.extract m⟩ := by
  simp [resolve, recognize?, hne, h]

/-- An instruction without white space around it is recognized as it stands. -/
theorem resolve_ofList {r : Registry} {text : List Char} {d : Definition} {m : Pattern.Match}
    (htrim : trim text = text) (hne : text.isEmpty = false) (h : r.firstMatch? text = some (d, m)) :
    r.firstMatch? (trim (String.ofList text).toList) = some (d, m) ∧
      r.resolve (String.ofList text) = .ok ⟨d.kind, d.name, d.extract m⟩ := by
  have hsame : trim (String.ofList text).toList = text := by rw [String.toList_ofList, htrim]
  rw [← hsame] at hne h
  exact ⟨h, resolve_of_firstMatch? hne h⟩

theorem resolve_of_unmatched {r : Registry} {t : String}
    (h : (trim t.toList).isEmpty = true ∨ r.firstMatch? (trim t.toList) = none) :
    r.resolve t = .error (.unrecognizedInstruction t) := by
  rcases h with h | h
  · simp [resolve, recognize?, h]
  · simp [resolve, recognize?, h]

/-- An instruction is recognized by a definition of the registry. -/
theorem firstMatch?_of_resolve {r : Registry} {t : String} {recognition : Recognition}
    (h : r.resolve t = .ok recognition) :
    ∃ d m, r.firstMatch? (trim t.toList) = some (d, m) ∧ d ∈ r.definitions ∧
      recognition = ⟨d.kind, d.name, d.extract m⟩ := by
  cases hblank : (trim t.toList).isEmpty with
  | true =>
      rw [resolve_of_unmatched (.inl hblank)] at h
      cases h
  | false =>
      cases hfirst : r.firstMatch? (trim t.toList) with
      | none =>
          rw [resolve_of_unmatched (.inr hfirst)] at h
          cases h
      | some found =>
          obtain ⟨d, m⟩ := found
          rw [resolve_of_firstMatch? hblank hfirst] at h
          obtain ⟨e, he, hmatch⟩ := List.exists_of_findSome?_eq_some hfirst
          obtain ⟨m', -, hpair⟩ := Option.map_eq_some_iff.1 hmatch
          obtain ⟨rfl, rfl⟩ := Prod.mk.inj hpair
          exact ⟨e, m', rfl, he, (Except.ok.inj h).symm⟩

/-- Neither white space around an instruction nor the case of its ASCII letters matters: the same definition
is recognized, with the same parameters up to the case of texts that are taken as they stand. -/
theorem resolve_ignores_case (r : Registry) {t t' : String}
    (h : sameAscii (trim t.toList) (trim t'.toList) = true) :
    (r.resolve t = .error (.unrecognizedInstruction t) ∧
      r.resolve t' = .error (.unrecognizedInstruction t')) ∨
    ∃ d m m', r.firstMatch? (trim t.toList) = some (d, m) ∧ r.firstMatch? (trim t'.toList) = some (d, m') ∧
      r.resolve t = .ok ⟨d.kind, d.name, d.extract m⟩ ∧
      r.resolve t' = .ok ⟨d.kind, d.name, d.extract m'⟩ ∧
      d.SameParams (d.extract m) (d.extract m') := by
  have hlower := sameAscii_iff.1 h
  have hempty : (trim t.toList).isEmpty = (trim t'.toList).isEmpty := by
    rw [← isEmpty_asciiLower, hlower, isEmpty_asciiLower]
  cases hblank : (trim t.toList).isEmpty with
  | true =>
      exact .inl ⟨resolve_of_unmatched (.inl hblank), resolve_of_unmatched (.inl (hempty ▸ hblank))⟩
  | false =>
      rcases rel_cases (r.firstMatch?_rel hlower) with ⟨hnone, hnone'⟩ | ⟨a, b, hfirst, hfirst', hd, hm⟩
      · exact .inl ⟨resolve_of_unmatched (.inr hnone), resolve_of_unmatched (.inr hnone')⟩
      · obtain ⟨d, m⟩ := a
        obtain ⟨d', m'⟩ := b
        subst hd
        exact .inr ⟨d, m, m', hfirst, hfirst', resolve_of_firstMatch? hblank hfirst,
          resolve_of_firstMatch? (hempty ▸ hblank) hfirst', d.extract_sameParams hm⟩

/-- A command that takes one text as it stands and one in upper case. -/
def bootNamed : Entry where
  name := "boot named"
  kind := .bootSimulator
  description := ""
  patterns := [r"boot\s(?P<deviceName>\S+)\s(?P<udid>\S+)$"]
  required := ["deviceName", "udid"]
  optional := []
  parameters :=
    [{ name := "deviceName", type := .string, extractor := some .trimmed },
      { name := "udid", type := .string, extractor := some .uppercase }]
  examples := []

def bootOnly : Registry :=
  match Group.ofEntries "simulators" [bootNamed] with
  | .ok group => empty.addGroup group
  | .error _ => empty

theorem resolve_ignores_case_boot :
    sameAscii (trim "boot Pad a1".toList) (trim " BOOT pad A1 ".toList) = true ∧
    ∃ d : Definition, ∃ m m', bootOnly.resolve "boot Pad a1" = .ok ⟨d.kind, d.name, d.extract m⟩ ∧
      bootOnly.resolve " BOOT pad A1 " = .ok ⟨d.kind, d.name, d.extract m'⟩ ∧
      d.SameParams (d.extract m) (d.extract m') := by
  have hsame : sameAscii (trim "boot Pad a1".toList) (trim " BOOT pad A1 ".toList) = true := by
    decide
  have hfound : (bootOnly.recognize? "boot Pad a1").isSome := by decide
  obtain ⟨recognition, hrecognition⟩ := Option.isSome_iff_exists.1 hfound
  refine ⟨hsame, ?_⟩
  rcases resolve_ignores_case bootOnly hsame with ⟨herror, -⟩ | ⟨d, m, m', -, -, h, h', hparams⟩
  · rw [resolve, hrecognition] at herror
    cases herror
  · exact ⟨d, m, m', h, h', hparams⟩

end Registry

end SimControl
