import SimControl.Proofs.Catalog.Shape
import SimControl.Proofs.Registry.Builtin
import SimControl.Proofs.Registry.Case

/-!
# Shapes of instructions

The first pattern that is found in a text decides what the text gives (`Wins`). `resolve_shapes` says of all parameters
of an instruction what they look like. Over the built-in registry every value that is extracted has the declared type,
choices apart: `accepts_of_resolve_builtin`.
-/

namespace SimControl

open Pattern

namespace Registry

/-- Of all patterns, in the order of the definitions and then of their patterns, the first that is found in the text
is one of `d`, and it is found as `m`. -/
structure Wins (r : Registry) (text : List Char) (d : Definition) (m : Match) : Prop where
  definition : ∃ earlier later, r.definitions = earlier ++ d :: later ∧
    ∀ e ∈ earlier, ∀ pattern ∈ e.patterns, pattern.find? text = none
  pattern : ∃ earlier pattern later, d.patterns = earlier ++ pattern :: later ∧
    pattern.find? text = some m ∧ ∀ other ∈ earlier, other.find? text = none

variable {r : Registry} {text : List Char} {d : Definition} {m : Match}

theorem wins_of_firstMatch? (h : r.firstMatch? text = some (d, m)) : r.Wins text d m := by
  obtain ⟨earlier, e, later, hsplit, hmatch, hearlier⟩ := List.findSome?_eq_some_iff.1 h
  obtain ⟨m', hfound, hpair⟩ := Option.map_eq_some_iff.1 hmatch
  obtain ⟨rfl, rfl⟩ := Prod.mk.inj hpair
  obtain ⟨before, pattern, after, hpatterns, hfind, hbefore⟩ := List.findSome?_eq_some_iff.1 hfound
  refine ⟨⟨earlier, later, hsplit, fun other hother => ?_⟩, before, pattern, after, hpatterns, hfind, hbefore⟩
  have hnone : other.match? text = none := Option.map_eq_none_iff.1 (hearlier other hother)
  exact List.findSome?_eq_none_iff.1 hnone

/-- An instruction gives declared parameters of the winning definition only, none of them is null, and each that is
paired with a fitting extractor has its declared type. A declared parameter without an extractor is given if its group
took part in the match, as the text that the group took. -/
theorem resolve_shapes (r : Registry) (text : String) (found : Recognition) (h : r.resolve text = .ok found) :
    ∃ d m, r.Wins (Text.trim text.toList) d m ∧ found.kind = d.kind ∧ found.name = d.name ∧
      (∀ name value, found.params.get? name = some value →
        (name ∈ d.entry.required ∨ name ∈ d.entry.optional) ∧ value.isNull = false ∧
          (d.entry.Pairs name → (d.entry.typeOf name).accepts value = true)) ∧
      ∀ name ∈ d.entry.parameterNames, d.entry.extractorOf name = none →
        found.params.get? name = (m.group? name).map fun cs => Json.string (String.ofList cs) := by
  obtain ⟨d, m, hfirst, -, rfl⟩ := firstMatch?_of_resolve h
  refine ⟨d, m, wins_of_firstMatch? hfirst, rfl, rfl, fun name value => Definition.shape_of_get?_extract,
    fun name hname hextractor => ?_⟩
  show (d.extract m).get? name = (m.group? name).map Extractor.text
  rw [d.get?_extract m name, if_pos hname, d.parameterValue?_eq m name, hextractor]

/-- Presses keys on the device with an identifier, each for some time. -/
def pressOn : Entry where
  name := "press on"
  kind := .pressKeySequence
  description := ""
  patterns := [r"press (?P<keyCodes>.+) on (?P<sessionId>\S+)( for (?P<duration>\d+))?$"]
  required := ["keyCodes"]
  optional := ["sessionId", "duration"]
  parameters :=
    [{ name := "keyCodes", type := .numberArray, extractor := some .integerList },
      { name := "sessionId", type := .string },
      { name := "duration", type := .number, extractor := some .optionalInteger }]
  examples := []

def pressOnly : Registry :=
  match Group.ofEntries "keys" [pressOn] with
  | .ok keys => empty.addGroup keys
  | .error _ => empty

/-- A duration that has no 64 bits is left out. -/
theorem resolve_shapes_press :
    ∃ found, pressOnly.resolve "press 4, 5 on A1 for 99999999999999999999" = .ok found ∧
      found.params.keys = ["keyCodes", "sessionId"] ∧
      ∀ name value, found.params.get? name = some value →
        (name ∈ pressOn.required ∨ name ∈ pressOn.optional) ∧ value.isNull = false ∧
          (pressOn.typeOf name).accepts value = true := by
  have hkeys : (pressOnly.recognize? "press 4, 5 on A1 for 99999999999999999999").map (·.params.keys) =
      some ["keyCodes", "sessionId"] := by decide
  have hentries : pressOnly.definitions.map (·.entry) = [pressOn] := by decide
  obtain ⟨found, hfound, hnames⟩ := Option.map_eq_some_iff.1 hkeys
  have hresolve : pressOnly.resolve "press 4, 5 on A1 for 99999999999999999999" = .ok found := by
    rw [resolve, hfound]
  obtain ⟨d, m, hwins, -, -, hshape, -⟩ := resolve_shapes _ _ _ hresolve
  obtain ⟨earlier, later, hsplit, -⟩ := hwins.definition
  have hentry : d.entry = pressOn := by
    have hd : d ∈ pressOnly.definitions := hsplit ▸ List.mem_append_right _ List.mem_cons_self
    exact List.mem_singleton.1 (hentries ▸ List.mem_map_of_mem (f := fun d => d.entry) hd)
  rw [hentry] at hshape
  have hpairs : ∀ name ∈ pressOn.required ++ pressOn.optional, pressOn.Pairs name := by decide
  refine ⟨found, hresolve, hnames, fun name value hvalue => ?_⟩
  obtain ⟨hdeclared, hpresent, haccepts⟩ := hshape name value hvalue
  exact ⟨hdeclared, hpresent, haccepts (hpairs name (List.mem_append.2 hdeclared))⟩

/-- What an extractor of the built-in catalog gives is of the declared type or stands for a choice. -/
theorem accepts_of_resolve_builtin {text : String} {found : Recognition} (h : builtin.resolve text = .ok found) :
    ∃ d ∈ builtin.definitions, found.kind = d.kind ∧ ∀ name value, found.params.get? name = some value →
      d.entry.extractorOf name ≠ none →
        (d.entry.typeOf name).label = "choice" ∨ (d.entry.typeOf name).accepts value = true := by
  obtain ⟨d, m, hfirst, hd, rfl⟩ := firstMatch?_of_resolve h
  refine ⟨d, hd, rfl, fun name value hvalue hextracted => ?_⟩
  obtain ⟨hdeclared, -, haccepts⟩ := Definition.shape_of_get?_extract hvalue
  obtain ⟨domain, hentry⟩ := mem_catalog.1 (written_of_firstMatch? hfirst).1
  exact (domain.pairs _ hentry name (List.mem_append.2 hdeclared) hextracted).imp id haccepts

end Registry

end SimControl
