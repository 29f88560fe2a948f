import SimControl.Proofs.Registry.Number
import SimControl.Proofs.Runner.Leaf
import SimControl.Proofs.Runner.ToolCall

/-!
# Instructions with numbers that do not fit

A number that was said and does not fit is not replaced by another one: the instruction is refused before the
backend is asked, because its command needs the number. Only a swipe does without a number that it was given, its
duration. `runInstruction_of_unfit` says both.
-/

namespace SimControl

open Pattern

/-- A swipe whose coordinates fit is an operation. Without a duration among the parameters it has none. -/
theorem Definition.exists_swipe {d : Definition} {m : Match} (hentry : d.entry = Catalog.Ui.swipe)
    (habsent : (d.extract m).get? "duration" = none)
    (hfits : ∀ name ∈ CommandKind.needs .swipe, ∀ cs, m.group? name = some cs →
      (Text.signed64? (Text.trim cs)).isSome = true) :
    ∃ start stop, Operation.ofParams .swipe (d.extract m) = .ok (.swipe start stop none) := by
  have hnodup : d.entry.parameterNames.Nodup := by
    rw [hentry]
    decide
  have hcoordinates : ∀ name ∈ CommandKind.needs .swipe, name ∈ d.entry.parameterNames ∧
      (d.entry.parameter? name).bind (·.extractor) = some .integer := by
    rw [hentry]
    decide
  have hnumber : ∀ name ∈ CommandKind.needs .swipe, ∃ x, (d.extract m).number name = .ok x := by
    intro name hname
    obtain ⟨hlisted, hextractor⟩ := hcoordinates name hname
    exact d.exists_number hnodup hlisted hextractor (hfits name hname)
  obtain ⟨startX, hstartX⟩ := hnumber "startX" (by decide)
  obtain ⟨startY, hstartY⟩ := hnumber "startY" (by decide)
  obtain ⟨endX, hendX⟩ := hnumber "endX" (by decide)
  obtain ⟨endY, hendY⟩ := hnumber "endY" (by decide)
  refine ⟨⟨startX, startY⟩, ⟨endX, endY⟩, ?_⟩
  rw [Operation.ofParams, Params.point, Params.point, hstartX, hstartY, hendX, hendY,
    Params.optionalNatural_of_absent (Params.present?_of_none habsent)]
  rfl

namespace Runner

variable {σ : Type}

theorem callOf_bareLeaf (r : Runner σ) (kind : CommandKind) (params : Params) (context : Context) :
    r.callOf (bareLeaf kind params) context =
      match Operation.ofParams kind params with
      | .error e => .error (.invalidParameter e.name e.fault.message)
      | .ok operation => .ok ⟨operation, r.sessionFor params context⟩ := rfl

/-- A number that an instruction gives and that does not fit makes a parameter invalid, of which the backend does not
learn, and no time passes. Only the duration of a swipe is ignored: if the coordinates fit, the backend is asked for a
swipe without a duration. -/
theorem runInstruction_of_unfit (r : Runner σ) (hr : r.registry = Registry.builtin) {text : String}
    {recognition : Registry.Recognition} (hresolve : Registry.builtin.resolve text = .ok recognition)
    {d : Definition} {m : Match} (hfirst : Registry.builtin.firstMatch? (Text.trim text.toList) = some (d, m))
    {p : Parameter} (hp : p ∈ d.entry.parameters) (hnumeric : p.isNumeric = true) {cs : List Char}
    (hgroup : m.group? p.name = some cs) (hunfit : p.fits cs = false) (context : Context) (w : World σ) :
    (¬ (d.kind = .swipe ∧ p.name = "duration") → ∃ result name reason,
      r.runInstruction text context w = (.ok result, w) ∧
        result.Fails "invalid_parameter" ("Invalid parameter '" ++ name ++ "': " ++ reason)) ∧
    (d.kind = .swipe ∧ p.name = "duration" →
      (∀ q ∈ d.entry.parameters, q.isNumeric = true → q.name ≠ p.name →
        ∀ given, m.group? q.name = some given → q.fits given = true) →
      ∃ start stop session, r.callOf (bareLeaf .swipe (d.extract m)) context = .ok ⟨.swipe start stop none, session⟩ ∧
        r.runInstruction text context w =
          (.ok (r.runLeaf (bareLeaf .swipe (d.extract m)) context w).1,
            (r.runLeaf (bareLeaf .swipe (d.extract m)) context w).2)) := by
  obtain ⟨habsent, hneeds⟩ := Registry.absent_of_unfit hfirst hp hnumeric hgroup hunfit
  have hrun : r.runInstruction text context w =
      (.ok (r.runLeaf (bareLeaf d.kind (d.extract m)) context w).1,
        (r.runLeaf (bareLeaf d.kind (d.extract m)) context w).2) := by
    obtain ⟨d', m', hsame, -, rfl⟩ := Registry.firstMatch?_of_resolve hresolve
    obtain ⟨rfl, rfl⟩ := Prod.mk.inj (Option.some.inj (hfirst.symm.trans hsame))
    exact runInstruction_of_resolve (hr.symm ▸ hresolve) context w
  constructor
  · intro hswipe
    obtain ⟨e, he⟩ := Operation.ofParams_fails (hneeds.resolve_right hswipe) (Params.present?_of_none habsent)
    have hcall : r.callOf (bareLeaf d.kind (d.extract m)) context =
        .error (.invalidParameter e.name e.fault.message) := by
      rw [callOf_bareLeaf, he]
    obtain ⟨result, hresult, hfails⟩ := exists_runLeaf_fails hcall rfl w
    exact ⟨result, e.name, e.fault.message, by rw [hrun, hresult], hfails⟩
  · rintro ⟨hkind, hduration⟩ hothers
    have hentry : d.entry = Catalog.Ui.swipe :=
      Registry.swipe_of_kind d.entry (Registry.written_of_firstMatch? hfirst).1 hkind
    have hcoordinates : ∀ name ∈ CommandKind.needs .swipe,
        Catalog.Ui.coordinate name ∈ d.entry.parameters ∧ name ≠ p.name := by
      rw [hentry, hduration]
      decide
    have hfits : ∀ name ∈ CommandKind.needs .swipe, ∀ given, m.group? name = some given →
        (Text.signed64? (Text.trim given)).isSome = true := by
      intro name hname
      obtain ⟨hlisted, hne⟩ := hcoordinates name hname
      exact hothers (Catalog.Ui.coordinate name) hlisted rfl hne
    obtain ⟨start, stop, hoperation⟩ := d.exists_swipe hentry (hduration ▸ habsent) hfits
    refine ⟨start, stop, r.sessionFor (d.extract m) context, ?_, hkind ▸ hrun⟩
    rw [callOf_bareLeaf, hoperation]

def dryRunner : Runner DryRun.Journal where
  backend := DryRun.backend
  registry := Registry.builtin

theorem dryRunner_registry : dryRunner.registry = Registry.builtin := by
  rw [dryRunner]

/-- The characters of `what is at 1, ٥`. -/
def foreignPoint : List Char :=
  ['w', 'h', 'a', 't', ' ', 'i', 's', ' ', 'a', 't', ' ', '1', ',', ' ', '٥']

/-- The characters of `swipe from 1, 2 to 3, 4 with duration ٥`. -/
def foreignDuration : List Char :=
  ['s', 'w', 'i', 'p', 'e', ' ', 'f', 'r', 'o', 'm', ' ', '1', ',', ' ', '2', ' ', 't', 'o', ' ', '3', ',', ' ', '4',
    ' ', 'w', 'i', 't', 'h', ' ', 'd', 'u', 'r', 'a', 't', 'i', 'o', 'n', ' ', '٥']

theorem firstMatch?_foreignPoint : ∃ d m, d.entry = Catalog.Accessibility.describePoint ∧
    m.groups = [("y", ['٥']), ("x", ['1'])] ∧ Registry.builtin.firstMatch? foreignPoint = some (d, m) := by
  refine Registry.exists_firstMatch? (n := 7) rfl ?_ (by decide)
  repeat' first
    | exact Registry.silent_of_ofChars? (by decide)
    | exact List.forall_mem_nil _
    | refine List.forall_mem_cons.2 ⟨?_, ?_⟩

set_option maxRecDepth 4000 in
theorem firstMatch?_foreignDuration : ∃ d m, d.entry = Catalog.Ui.swipe ∧
    m.groups = [("duration", ['٥']), ("endY", ['4']), ("endX", ['3']), ("startY", ['2']), ("startX", ['1'])] ∧
    Registry.builtin.firstMatch? foreignDuration = some (d, m) := by
  refine Registry.exists_firstMatch? (n := 85) rfl ?_ (by decide)
  repeat' first
    | exact Registry.silent_of_ofChars? (by decide)
    | exact List.forall_mem_nil _
    | refine List.forall_mem_cons.2 ⟨?_, ?_⟩

/-- A digit of another script is no coordinate, and no duration either, but a swipe is carried out without it. -/
theorem runInstruction_of_unfit_foreign :
    (∃ d m, Registry.builtin.firstMatch? foreignPoint = some (d, m) ∧ m.group? "y" = some ['٥'] ∧
      (Catalog.Ui.coordinate "y").fits ['٥'] = false ∧
      ∃ result, dryRunner.runInstruction (String.ofList foreignPoint) {} ⟨[], 0, []⟩ = (.ok result, ⟨[], 0, []⟩) ∧
        result.success = false ∧ result.code = some "invalid_parameter") ∧
    ∃ d m, Registry.builtin.firstMatch? foreignDuration = some (d, m) ∧ m.group? "duration" = some ['٥'] ∧
      Catalog.Ui.duration.fits ['٥'] = false ∧
      ∃ result start stop session, (dryRunner.runInstruction (String.ofList foreignDuration) {} ⟨[], 0, []⟩).1 =
          .ok result ∧ result.success = true ∧
        (dryRunner.runInstruction (String.ofList foreignDuration) {} ⟨[], 0, []⟩).2.calls =
          [⟨.swipe start stop none, session⟩] := by
  constructor
  · obtain ⟨d, m, hentry, hgroups, hpoint⟩ := firstMatch?_foreignPoint
    obtain ⟨hfirst, hresolve⟩ := Registry.resolve_ofList (by decide) rfl hpoint
    have hp : Catalog.Ui.coordinate "y" ∈ d.entry.parameters := by
      rw [hentry]
      decide
    have hgroup : m.group? "y" = some ['٥'] := by
      rw [Match.group?, hgroups]
      decide
    have hunfit : (Catalog.Ui.coordinate "y").fits ['٥'] = false := by decide
    have hswipe : ¬ (d.kind = .swipe ∧ (Catalog.Ui.coordinate "y").name = "duration") := by
      rw [Definition.kind, hentry]
      decide
    obtain ⟨result, name, reason, hrun, hfails⟩ := (runInstruction_of_unfit dryRunner dryRunner_registry hresolve
      hfirst hp rfl hgroup hunfit {} ⟨[], 0, []⟩).1 hswipe
    exact ⟨d, m, hpoint, hgroup, hunfit, result, hrun, hfails.success, hfails.code⟩
  · obtain ⟨d, m, hentry, hgroups, hduration⟩ := firstMatch?_foreignDuration
    obtain ⟨hfirst, hresolve⟩ := Registry.resolve_ofList (by decide) rfl hduration
    have hp : Catalog.Ui.duration ∈ d.entry.parameters := by
      rw [hentry]
      decide
    have hgroup : m.group? "duration" = some ['٥'] := by
      rw [Match.group?, hgroups]
      decide
    have hunfit : Catalog.Ui.duration.fits ['٥'] = false := by decide
    have hswipe : d.kind = .swipe ∧ Catalog.Ui.duration.name = "duration" := by
      rw [Definition.kind, hentry]
      exact ⟨rfl, rfl⟩
    have hothers : ∀ q ∈ d.entry.parameters, q.isNumeric = true → q.name ≠ Catalog.Ui.duration.name →
        ∀ given, m.group? q.name = some given → q.fits given = true := by
      have hcoordinates : ∀ q ∈ Catalog.Ui.swipe.parameters, q.isNumeric = true →
          q.name ≠ Catalog.Ui.duration.name → (m.groups.lookup q.name).all q.fits = true := by
        rw [hgroups]
        decide
      intro q hq hnumeric hne given hgiven
      have hfits := hcoordinates q (hentry ▸ hq) hnumeric hne
      rwa [show m.groups.lookup q.name = some given from hgiven, Option.all_some] at hfits
    obtain ⟨start, stop, session, hcall, hrun⟩ := (runInstruction_of_unfit dryRunner dryRunner_registry hresolve
      hfirst hp rfl hgroup hunfit {} ⟨[], 0, []⟩).2 hswipe hothers
    refine ⟨d, m, hduration, hgroup, hunfit, _, start, stop, session, congrArg Prod.fst hrun, ?_⟩
    rw [hrun, runLeaf_eq, carryOut_eq, hcall]
    simp only []
    rw [attempts_last (by rfl) (.inl rfl)]
    exact ⟨rfl, rfl⟩

end Runner

end SimControl
