import Mathlib.Data.List.Infix
import SimControl.Proofs.Registry.Case
import SimControl.Proofs.Registry.Invariant
import SimControl.Proofs.Registry.Suggestion
import SimControl.Registry.ToolSchema

/-!
# One more group

A registration puts its group behind all others, so it only adds to what a registry answers: the order of
registration is an order of priority. `register_extends` collects it for recognition, listings, tools and
suggestions. What the group adds is told by the registry that holds nothing but the group.
-/

namespace SimControl.Registry

variable {r next : Registry} {group : Group}

/-- A group that some registry takes is taken by the empty one. -/
theorem Fresh.of_empty (h : r.Fresh group) : empty.Fresh group where
  key := List.not_mem_nil
  tools := fun _ _ => List.not_mem_nil
  kinds := fun _ _ => List.not_mem_nil
  tools_nodup := h.tools_nodup
  kinds_nodup := h.kinds_nodup

theorem register_empty (h : r.Fresh group) : empty.register group = .ok (empty.addGroup group) :=
  (inStep_empty.register_eq_ok_iff _).2 ⟨h.of_empty, rfl⟩

/-! ## Recognition -/

theorem firstMatch?_addGroup (r : Registry) (group : Group) (text : List Char) :
    (r.addGroup group).firstMatch? text =
      (r.firstMatch? text).or ((empty.addGroup group).firstMatch? text) := by
  simp only [firstMatch?, definitions_addGroup, List.findSome?_append, show empty.definitions = [] from rfl,
    List.nil_append]

/-- What a registry recognizes stays as it is; all else is left to the new group. -/
theorem recognize?_addGroup (r : Registry) (group : Group) (text : String) :
    (r.addGroup group).recognize? text = (r.recognize? text).or ((empty.addGroup group).recognize? text) := by
  unfold recognize?
  simp only []
  split
  · rfl
  · rw [firstMatch?_addGroup r group]
    cases r.firstMatch? (Text.trim text.toList) <;> rfl

theorem recognize?_of_resolve {text : String} {recognition : Recognition}
    (h : r.resolve text = .ok recognition) : r.recognize? text = some recognition := by
  unfold resolve at h
  cases hfound : r.recognize? text with
  | none =>
      rw [hfound] at h
      cases h
  | some found =>
      rw [hfound] at h
      exact congrArg some (Except.ok.inj h)

theorem recognize?_of_error {text : String} {error : RegistryError} (h : r.resolve text = .error error) :
    r.recognize? text = none := by
  unfold resolve at h
  cases hfound : r.recognize? text with
  | none => rfl
  | some found =>
      rw [hfound] at h
      cases h

/-! ## Suggestions -/

/-- The phrases of the new group come behind all others, so they only add to what is suggested. -/
theorem suggest_prefix (r : Registry) (group : Group) (partialText : String) :
    r.suggest partialText <+: (r.addGroup group).suggest partialText := by
  by_cases hblank : Text.trim partialText.toList = []
  · rw [suggest, suggest, hblank]
    exact List.prefix_rfl
  · rw [suggest_eq hblank, suggest_eq hblank, completions, completions, definitions_addGroup, List.flatMap_append,
      List.filter_append, List.eraseDups_append]
    exact List.IsPrefix.take (List.prefix_append _ _) _

/-! ## Registrations -/

/-- After a registration, an instruction that was recognized is recognized in the same way, and any other
one as if there were only the new group. The listings are continued, and so are the suggestions. -/
theorem register_extends (h : r.Reachable) (hregister : r.register group = .ok next) :
    ∃ alone, empty.register group = .ok alone ∧
      (∀ text recognition, r.resolve text = .ok recognition → next.resolve text = .ok recognition) ∧
      (∀ text error, r.resolve text = .error error → next.resolve text = alone.resolve text) ∧
      next.summaries = r.summaries ++ group.definitions.map Definition.summary ∧
      next.toolSchemas = r.toolSchemas ++ group.definitions.map ToolSchema.ofDefinition ∧
      (∀ tool kind, r.toolKind tool = .ok kind → next.toolKind tool = .ok kind) ∧
      ∀ partialText, r.suggest partialText <+: next.suggest partialText := by
  obtain ⟨hfresh, rfl⟩ := (h.inStep.register_eq_ok_iff next).1 hregister
  refine ⟨empty.addGroup group, register_empty hfresh, ?_, ?_, ?_, ?_, ?_, suggest_prefix r group⟩
  · intro text recognition hresolve
    rw [resolve, recognize?_addGroup, recognize?_of_resolve hresolve]
    rfl
  · intro text error hresolve
    rw [resolve, recognize?_addGroup, recognize?_of_error hresolve]
    rfl
  · rw [summaries, definitions_addGroup, List.map_append]
    rfl
  · rw [toolSchemas, definitions_addGroup, List.map_append]
    rfl
  · intro tool kind hkind
    have hold : r.tools.get? tool = some kind := by
      unfold toolKind at hkind
      cases hget : r.tools.get? tool with
      | none =>
          rw [hget] at hkind
          cases hkind
      | some found =>
          rw [hget] at hkind
          exact congrArg some (Except.ok.inj hkind)
    obtain ⟨d, hd, rfl, rfl⟩ := (h.inStep.tools_iff tool kind).1 hold
    exact (h.inStep.addGroup hfresh).toolKind_eq_ok
      (definitions_addGroup r group ▸ List.mem_append_left _ hd)

/-- A command with one pattern and no parameters. -/
def saying (name : String) (kind : CommandKind) (pattern : String) : Group :=
  match Group.ofEntries name [⟨name, kind, "", [pattern], [], [], [], [name]⟩] with
  | .ok group => group
  | .error _ => ⟨name, []⟩

/-- Clearing was registered before the crash logs, so it keeps the instruction that both match. -/
theorem register_extends_overlap :
    let r := empty.afterRegister (saying "clear" .clearKeychain r"clear")
    let group := saying "crash logs" .deleteCrashLogs r"(clear|drop)\s+crash\s+logs"
    r.Reachable ∧ ∃ next alone, r.register group = .ok next ∧ empty.register group = .ok alone ∧
      (∃ recognition, r.resolve "clear crash logs" = .ok recognition ∧
        next.resolve "clear crash logs" = .ok recognition) ∧
      next.resolve "drop crash logs" = alone.resolve "drop crash logs" ∧
      r.suggest "c" <+: next.suggest "c" := by
  intro r group
  have h : r.Reachable := .register _ .empty
  have hfresh : r.Fresh group :=
    ⟨by decide, by decide, by decide, by decide, by decide⟩
  have hregister : r.register group = .ok (r.addGroup group) := (h.inStep.register_eq_ok_iff _).2 ⟨hfresh, rfl⟩
  obtain ⟨alone, halone, hsame, hnew, -, -, -, hsuggest⟩ := register_extends h hregister
  have hfound : (r.recognize? "clear crash logs").isSome := by decide
  obtain ⟨recognition, hrecognition⟩ := Option.isSome_iff_exists.1 hfound
  have hresolve : r.resolve "clear crash logs" = .ok recognition := by rw [resolve, hrecognition]
  have hlost : (r.recognize? "drop crash logs").isNone := by decide
  have hunknown : r.resolve "drop crash logs" = .error (.unrecognizedInstruction "drop crash logs") := by
    rw [resolve, Option.isNone_iff_eq_none.1 hlost]
  exact ⟨h, r.addGroup group, alone, hregister, halone, ⟨recognition, hresolve, hsame _ _ hresolve⟩,
    hnew _ _ hunknown, hsuggest "c"⟩

end SimControl.Registry
