import SimControl.Proofs.Registry.Invariant

/-!
# Refused groups

A registration takes a whole group or changes nothing. `Clash` says what stands against one definition
of a group, given the definitions before it, and `Refusal` what is said of a group that is refused: its
key is taken, or it is fresh up to a definition with a clash. `register_takes_all_or_nothing` says that
this is what `register` answers, for every registry that a run of registrations leads to.
-/

namespace SimControl.Registry

/-- What stands against a definition `d` of the group `key`, behind the definitions `before` of the same
group. A tool goes before a kind, and a registered definition before one of the same group. -/
inductive Clash (r : Registry) (key : String) (before : List Definition) (d : Definition) :
    RegistryError → Prop where
  | toolTaken {g : Group} {e : Definition} (group : g ∈ r.groups) (declared : e ∈ g.definitions)
      (same : e.tool = d.tool) : Clash r key before d (.duplicateTool d.tool g.key)
  | toolRepeated {e : Definition} (free : d.tool ∉ r.definitions.map (·.tool)) (declared : e ∈ before)
      (same : e.tool = d.tool) : Clash r key before d (.duplicateTool d.tool key)
  | kindTaken {g : Group} {e : Definition} (free : d.tool ∉ (r.definitions ++ before).map (·.tool))
      (group : g ∈ r.groups) (declared : e ∈ g.definitions) (same : e.kind = d.kind) :
      Clash r key before d (.duplicateCommand d.kind g.key)
  | kindRepeated {e : Definition} (free : d.tool ∉ (r.definitions ++ before).map (·.tool))
      (unowned : d.kind ∉ r.definitions.map (·.kind)) (declared : e ∈ before) (same : e.kind = d.kind) :
      Clash r key before d (.duplicateCommand d.kind key)

/-- What is said of a group that is refused. The key is looked at first, then the definitions in their
order up to the first one with a clash. -/
inductive Refusal (r : Registry) (group : Group) : RegistryError → Prop where
  | keyTaken {g : Group} (registered : g ∈ r.groups) (same : g.key = group.key) :
      Refusal r group (.duplicateGroupKey group.key)
  | definition {before after : List Definition} {d : Definition} {error : RegistryError}
      (order : group.definitions = before ++ d :: after) (fresh : r.Fresh ⟨group.key, before⟩)
      (clash : r.Clash group.key before d error) : Refusal r group error

variable {r : Registry} {group : Group}

/-! ## One definition -/

theorem InStep.eq_of_kind_eq (h : r.InStep) {d e : Definition} (hd : d ∈ r.definitions)
    (he : e ∈ r.definitions) (hkind : d.kind = e.kind) : d = e := by
  have hfound := h.definition?_eq_some hd
  rw [hkind, h.definition?_eq_some he] at hfound
  exact (Option.some.inj hfound).symm

/-- The chain from a tool to its kind and from there to a group ends at the group that declares the tool. -/
theorem InStep.toolOwner?_eq_some_iff (h : r.InStep) (tool owner : String) :
    r.toolOwner? tool = some owner ↔
      ∃ g ∈ r.groups, g.key = owner ∧ ∃ e ∈ g.definitions, e.tool = tool := by
  unfold toolOwner?
  rw [Option.bind_eq_some_iff]
  constructor
  · rintro ⟨kind, hkind, howner⟩
    obtain ⟨d, hd, htool, rfl⟩ := (h.tools_iff tool kind).1 hkind
    obtain ⟨g, hg, hkey, e, he, hsame⟩ := (h.owner_iff d.kind owner).1 howner
    have hed : e = d := h.eq_of_kind_eq (mem_definitions.2 ⟨g, hg, he⟩) hd hsame
    exact ⟨g, hg, hkey, e, he, hed ▸ htool⟩
  · rintro ⟨g, hg, hkey, e, he, htool⟩
    refine ⟨e.kind, (h.tools_iff tool e.kind).2 ⟨e, mem_definitions.2 ⟨g, hg, he⟩, htool, rfl⟩, ?_⟩
    exact (h.owner_iff e.kind owner).2 ⟨g, hg, hkey, e, he, rfl⟩

section Conflict

variable {key : String} {before : List Definition} {tools : List String} {kinds : List CommandKind}
variable {d : Definition} {error : RegistryError}

theorem not_mem_append_tools (htools : ∀ tool, tool ∈ tools ↔ tool ∈ before.map (·.tool)) :
    d.tool ∉ (r.definitions ++ before).map (·.tool) ↔
      d.tool ∉ r.definitions.map (·.tool) ∧ d.tool ∉ tools := by
  rw [List.map_append, List.mem_append, not_or, htools]

theorem InStep.clash_of_conflictOf? (h : r.InStep)
    (htools : ∀ tool, tool ∈ tools ↔ tool ∈ before.map (·.tool))
    (hkinds : ∀ kind, kind ∈ kinds ↔ kind ∈ before.map (·.kind))
    (hconflict : r.conflictOf? key tools kinds d = some error) : r.Clash key before d error := by
  unfold conflictOf? at hconflict
  cases howner : r.toolOwner? d.tool with
  | some owner =>
      obtain ⟨g, hg, rfl, e, he, hsame⟩ := (h.toolOwner?_eq_some_iff d.tool owner).1 howner
      rw [howner] at hconflict
      exact Option.some.inj hconflict ▸ .toolTaken hg he hsame
  | none =>
      have hnew := (h.toolOwner?_eq_none_iff d.tool).1 howner
      simp only [howner, List.contains_iff_mem] at hconflict
      by_cases htool : d.tool ∈ tools
      · obtain ⟨e, he, hsame⟩ := List.mem_map.1 ((htools d.tool).1 htool)
        rw [if_pos htool] at hconflict
        exact Option.some.inj hconflict ▸ .toolRepeated hnew he hsame
      · have hfree := (not_mem_append_tools (r := r) htools).2 ⟨hnew, htool⟩
        rw [if_neg htool] at hconflict
        cases hkind : r.owner? d.kind with
        | some owner =>
            obtain ⟨g, hg, rfl, e, he, hsame⟩ := (h.owner_iff d.kind owner).1 hkind
            rw [hkind] at hconflict
            exact Option.some.inj hconflict ▸ .kindTaken hfree hg he hsame
        | none =>
            have hunowned := (h.owner?_eq_none_iff d.kind).1 hkind
            simp only [hkind] at hconflict
            by_cases hseen : d.kind ∈ kinds
            · obtain ⟨e, he, hsame⟩ := List.mem_map.1 ((hkinds d.kind).1 hseen)
              rw [if_pos hseen] at hconflict
              exact Option.some.inj hconflict ▸ .kindRepeated hfree hunowned he hsame
            · rw [if_neg hseen] at hconflict
              cases hconflict

theorem InStep.conflictOf?_of_clash (h : r.InStep)
    (htools : ∀ tool, tool ∈ tools ↔ tool ∈ before.map (·.tool))
    (hkinds : ∀ kind, kind ∈ kinds ↔ kind ∈ before.map (·.kind)) (hclash : r.Clash key before d error) :
    r.conflictOf? key tools kinds d = some error := by
  unfold conflictOf?
  simp only [List.contains_iff_mem]
  cases hclash with
  | toolTaken hg he hsame =>
      rw [(h.toolOwner?_eq_some_iff d.tool _).2 ⟨_, hg, rfl, _, he, hsame⟩]
  | toolRepeated hfree he hsame =>
      rw [(h.toolOwner?_eq_none_iff d.tool).2 hfree]
      exact if_pos ((htools d.tool).2 (List.mem_map.2 ⟨_, he, hsame⟩))
  | kindTaken hfree hg he hsame =>
      obtain ⟨hnew, htool⟩ := (not_mem_append_tools htools).1 hfree
      rw [(h.toolOwner?_eq_none_iff d.tool).2 hnew, (h.owner_iff d.kind _).2 ⟨_, hg, rfl, _, he, hsame⟩]
      exact if_neg htool
  | kindRepeated hfree hunowned he hsame =>
      obtain ⟨hnew, htool⟩ := (not_mem_append_tools htools).1 hfree
      have hseen := (hkinds d.kind).2 (List.mem_map.2 ⟨_, he, hsame⟩)
      rw [(h.toolOwner?_eq_none_iff d.tool).2 hnew, (h.owner?_eq_none_iff d.kind).2 hunowned]
      simp only [if_neg htool, if_pos hseen]

end Conflict

/-! ## The first definition with a clash -/

/-- The search for a conflict stops at the first definition with one. -/
theorem conflict?_eq_some_iff (r : Registry) (key : String) (error : RegistryError) (ds : List Definition) :
    ∀ (tools : List String) (kinds : List CommandKind), r.conflict? key tools kinds ds = some error ↔
      ∃ before d after, ds = before ++ d :: after ∧ r.conflict? key tools kinds before = none ∧
        r.conflictOf? key ((before.map (·.tool)).reverse ++ tools) ((before.map (·.kind)).reverse ++ kinds) d =
          some error := by
  induction ds with
  | nil => simp [conflict?]
  | cons first rest ih =>
      intro tools kinds
      rw [conflict?]
      constructor
      · intro hconflict
        cases hfirst : r.conflictOf? key tools kinds first with
        | some clash =>
            rw [hfirst] at hconflict
            exact ⟨[], first, rest, rfl, rfl, hfirst.trans hconflict⟩
        | none =>
            simp only [hfirst] at hconflict
            obtain ⟨before, d, after, rfl, hbefore, hd⟩ := (ih _ _).1 hconflict
            refine ⟨first :: before, d, after, rfl, ?_, ?_⟩
            · rw [conflict?, hfirst]
              exact hbefore
            · simpa using hd
      · rintro ⟨before, d, after, horder, hbefore, hd⟩
        cases before with
        | nil =>
            obtain ⟨rfl, rfl⟩ := List.cons.inj horder
            simp only [List.map_nil, List.reverse_nil, List.nil_append] at hd
            rw [hd]
        | cons e before =>
            obtain ⟨rfl, rfl⟩ := List.cons.inj horder
            rw [conflict?] at hbefore
            cases hfirst : r.conflictOf? key tools kinds first with
            | some clash => simp [hfirst] at hbefore
            | none =>
                simp only [hfirst] at hbefore
                exact (ih _ _).2 ⟨before, d, after, rfl, hbefore, by simpa using hd⟩

theorem InStep.key_mem_iff (h : r.InStep) (key : String) :
    key ∈ r.keys ↔ ∃ g ∈ r.groups, g.key = key := by
  rw [h.keys_eq, List.mem_map]

/-- A group is fresh exactly if its key is new and none of its definitions has a conflict. -/
theorem InStep.fresh_iff (h : r.InStep) (group : Group) :
    r.Fresh group ↔ group.key ∉ r.keys ∧ r.conflict? group.key [] [] group.definitions = none := by
  have hregister : r.register group = .ok (r.addGroup group) ↔ _ := h.register_eq_ok_iff (r.addGroup group)
  rw [and_iff_left rfl] at hregister
  rw [← hregister]
  unfold register
  by_cases hkey : group.key ∈ r.keys
  · simp [hkey]
  · cases r.conflict? group.key [] [] group.definitions <;> simp [hkey]

theorem InStep.register_eq_error_iff (h : r.InStep) (group : Group) (error : RegistryError) :
    r.register group = .error error ↔ r.Refusal group error := by
  have hmem : ∀ (before : List Definition) (α : Type) (f : Definition → α) (a : α),
      a ∈ (before.map f).reverse ++ [] ↔ a ∈ before.map f := by simp
  unfold register
  simp only [List.contains_iff_mem]
  constructor
  · intro herror
    by_cases hkey : group.key ∈ r.keys
    · obtain ⟨g, hg, hsame⟩ := (h.key_mem_iff group.key).1 hkey
      rw [if_pos hkey] at herror
      exact Except.error.inj herror ▸ .keyTaken hg hsame
    · rw [if_neg hkey] at herror
      cases hconflict : r.conflict? group.key [] [] group.definitions with
      | none => simp [hconflict] at herror
      | some clash =>
          simp only [hconflict] at herror
          obtain ⟨before, d, after, horder, hbefore, hd⟩ := (conflict?_eq_some_iff _ _ _ _ _ _).1 hconflict
          have hclash := h.clash_of_conflictOf? (hmem before _ _) (hmem before _ _) hd
          exact Except.error.inj herror ▸ .definition horder ((h.fresh_iff _).2 ⟨hkey, hbefore⟩) hclash
  · intro hrefusal
    cases hrefusal with
    | keyTaken hg hsame => rw [if_pos ((h.key_mem_iff group.key).2 ⟨_, hg, hsame⟩)]
    | @definition before after d _ horder hfresh hclash =>
        obtain ⟨hkey, hbefore⟩ := (h.fresh_iff _).1 hfresh
        have hd := h.conflictOf?_of_clash (hmem before _ _) (hmem before _ _) hclash
        rw [if_neg hkey, (conflict?_eq_some_iff _ _ _ _ _ _).2 ⟨before, d, after, horder, hbefore, hd⟩]

/-! ## Registrations -/

/-- A registration succeeds exactly for a fresh group, of which it then has every definition. It fails
exactly with the errors that `Refusal` gives, and leaves the registry as it was. -/
theorem register_takes_all_or_nothing (h : r.Reachable) (group : Group) :
    ((∃ next, r.register group = .ok next) ↔ r.Fresh group) ∧
    (∀ next, r.register group = .ok next →
      r.afterRegister group = next ∧ next.groups = r.groups ++ [group]) ∧
    (∀ error, r.register group = .error error ↔ r.Refusal group error) ∧
    ∀ error, r.register group = .error error → r.afterRegister group = r := by
  have hs := h.inStep
  refine ⟨⟨?_, fun hfresh => ?_⟩, fun next hnext => ?_, hs.register_eq_error_iff group, fun error herror => ?_⟩
  · rintro ⟨next, hnext⟩
    exact ((hs.register_eq_ok_iff next).1 hnext).1
  · exact ⟨r.addGroup group, (hs.register_eq_ok_iff _).2 ⟨hfresh, rfl⟩⟩
  · have hafter : r.afterRegister group = next := by rw [afterRegister, hnext]
    obtain ⟨-, rfl⟩ := (hs.register_eq_ok_iff next).1 hnext
    exact ⟨hafter, rfl⟩
  · rw [afterRegister, herror]

/-- The second definition of the new group has a taken tool and repeats a kind; the tool is reported, with
the group that declares it. -/
theorem register_takes_nothing_of_collision :
    let r := (empty.afterRegister ⟨"first", [plain "a b" .tap]⟩).afterRegister ⟨"second", [plain "c" .swipe]⟩
    let group : Group := ⟨"third", [plain "d" .focusSimulator, plain "a-b" .focusSimulator]⟩
    r.Reachable ∧ r.register group = .error (.duplicateTool "a-b" "first") ∧ r.afterRegister group = r ∧
      ∃ next, r.register ⟨"third", [plain "d" .focusSimulator]⟩ = .ok next := by
  intro r group
  have h : r.Reachable := .register _ (.register _ .empty)
  have hfresh : r.Fresh ⟨"third", [plain "d" .focusSimulator]⟩ :=
    ⟨by decide, by decide, by decide, by decide, by decide⟩
  have hclash : r.Clash "third" [plain "d" .focusSimulator] (plain "a-b" .focusSimulator)
      (.duplicateTool (plain "a-b" .focusSimulator).tool "first") :=
    have hfirst : (⟨"first", [plain "a b" .tap]⟩ : Group) ∈ r.groups := by decide
    .toolTaken hfirst List.mem_cons_self (by decide)
  have htool : (plain "a-b" .focusSimulator).tool = "a-b" := by decide
  have herror : r.register group = .error (.duplicateTool "a-b" "first") :=
    ((register_takes_all_or_nothing h group).2.2.1 _).2 (.definition rfl hfresh (htool ▸ hclash))
  exact ⟨h, herror, (register_takes_all_or_nothing h group).2.2.2 _ herror,
    (register_takes_all_or_nothing h _).1.2 hfresh⟩

end SimControl.Registry
