import SimControl.Proofs.Registry.Extension

/-!
# The order of registration

Groups that can be registered one after the other can be so in any order: what stands against a group does not
depend on which of two groups came first. The look-ups by tool and by kind then find the same. Recognition takes
the first definition that matches, so it may depend on the order, but not for a text that the definitions of one
group only match. `registerAll_perm` collects this.
-/

namespace SimControl

def Group.Matches (group : Group) (text : List Char) : Prop :=
  ∃ d ∈ group.definitions, (d.match? text).isSome = true

instance (group : Group) (text : List Char) : Decidable (group.Matches text) :=
  inferInstanceAs (Decidable (∃ d ∈ group.definitions, (d.match? text).isSome = true))

/-- A search finds the same in every order if there is only one item in which something is found. -/
theorem findSome?_eq_some_iff_of_unique {α β : Type} {f : α → Option β} {as : List α}
    (h : ∀ a ∈ as, ∀ b ∈ as, (f a).isSome = true → (f b).isSome = true → a = b) (x : β) :
    as.findSome? f = some x ↔ ∃ a ∈ as, f a = some x := by
  constructor
  · exact List.exists_of_findSome?_eq_some
  · rintro ⟨a, ha, hx⟩
    cases hfound : as.findSome? f with
    | none => rw [List.findSome?_eq_none_iff.1 hfound a ha] at hx; cases hx
    | some y =>
        obtain ⟨b, hb, hy⟩ := List.exists_of_findSome?_eq_some hfound
        obtain rfl := h a ha b hb (by rw [hx]; rfl) (by rw [hy]; rfl)
        rw [← hx, hy]

namespace Registry

variable {r next : Registry}

/-! ## Look-ups -/

/-- Registries with the same definitions answer every look-up in the same way. -/
theorem InStep.lookups_eq (h : r.InStep) (hnext : next.InStep)
    (hsame : ∀ d, d ∈ next.definitions ↔ d ∈ r.definitions) :
    (∀ tool, next.toolKind tool = r.toolKind tool) ∧ (∀ kind, next.definition? kind = r.definition? kind) ∧
      ∀ tool, next.toolDefinition? tool = r.toolDefinition? tool := by
  have htools : ∀ tool, next.tools.get? tool = r.tools.get? tool := by
    intro tool
    refine Option.ext fun kind => ?_
    rw [hnext.tools_iff, h.tools_iff]
    simp only [hsame]
  have hkinds : next.definition? = r.definition? := by
    refine funext fun kind => Option.ext fun d => ?_
    rw [hnext.definition?_eq_some_iff, h.definition?_eq_some_iff, hsame]
  refine ⟨fun tool => ?_, fun kind => by rw [hkinds], fun tool => ?_⟩
  · rw [toolKind, toolKind, htools]
  · rw [toolDefinition?, toolDefinition?, htools, hkinds]

/-! ## Recognition -/

def groupMatch? (text : List Char) (group : Group) : Option (Definition × Pattern.Match) :=
  group.definitions.findSome? fun d => (d.match? text).map fun m => (d, m)

theorem firstMatch?_eq_groups (r : Registry) (text : List Char) :
    r.firstMatch? text = r.groups.findSome? (groupMatch? text) :=
  findSome?_flatMap _ _ _

theorem matches_of_groupMatch? {text : List Char} {group : Group}
    (h : (groupMatch? text group).isSome = true) : group.Matches text := by
  obtain ⟨found, hfound⟩ := Option.isSome_iff_exists.1 h
  obtain ⟨d, hd, hm⟩ := List.exists_of_findSome?_eq_some hfound
  obtain ⟨m, hm, -⟩ := Option.map_eq_some_iff.1 hm
  exact ⟨d, hd, by rw [hm]; rfl⟩

/-- A text that one group at most matches is recognized in the same way in every order of the groups. -/
theorem resolve_eq_of_perm (hperm : r.groups.Perm next.groups) {text : String}
    (hunique : ∀ g ∈ r.groups, ∀ g' ∈ r.groups,
      g.Matches (Text.trim text.toList) → g'.Matches (Text.trim text.toList) → g = g') :
    next.resolve text = r.resolve text := by
  have hfirst : next.firstMatch? (Text.trim text.toList) = r.firstMatch? (Text.trim text.toList) := by
    refine Option.ext fun found => ?_
    rw [firstMatch?_eq_groups, firstMatch?_eq_groups, findSome?_eq_some_iff_of_unique,
      findSome?_eq_some_iff_of_unique]
    · simp only [hperm.mem_iff]
    · intro g hg g' hg' h h'
      exact hunique g hg g' hg' (matches_of_groupMatch? h) (matches_of_groupMatch? h')
    · intro g hg g' hg' h h'
      exact hunique g (hperm.mem_iff.2 hg) g' (hperm.mem_iff.2 hg') (matches_of_groupMatch? h)
        (matches_of_groupMatch? h')
  rw [resolve, resolve, recognize?, recognize?]
  simp only [hfirst]

/-! ## Registrations -/

/-- Groups that can be registered one after the other can be so in any order. The registries answer all look-ups
alike, and recognize alike what one group at most matches. -/
theorem registerAll_perm {groups others : List Group} (hperm : groups.Perm others)
    (h : empty.registerAll groups = .ok r) :
    ∃ next, empty.registerAll others = .ok next ∧ (∀ tool, next.toolKind tool = r.toolKind tool) ∧
      (∀ kind, next.definition? kind = r.definition? kind) ∧
      (∀ tool, next.toolDefinition? tool = r.toolDefinition? tool) ∧
      ∀ text : String, (∀ g ∈ groups, ∀ g' ∈ groups,
        g.Matches (Text.trim text.toList) → g'.Matches (Text.trim text.toList) → g = g') →
        next.resolve text = r.resolve text := by
  obtain ⟨hr, hgroups⟩ := inStep_empty.of_registerAll h
  have hdefinitions : r.definitions.Perm (others.flatMap (·.definitions)) := by
    rw [definitions, hgroups]
    exact hperm.flatMap_right _
  have hkeys : r.keys.Perm (others.map (·.key)) := by
    rw [hr.keys_eq, hgroups]
    exact hperm.map _
  obtain ⟨next, hnext⟩ : ∃ next, empty.registerAll others = .ok next :=
    inStep_empty.exists_registerAll (hkeys.nodup_iff.1 hr.keys_nodup)
      ((hdefinitions.map _).nodup_iff.1 hr.tools_nodup) ((hdefinitions.map _).nodup_iff.1 hr.kinds_nodup)
  obtain ⟨hs, hothers⟩ := inStep_empty.of_registerAll hnext
  have hsame : ∀ d, d ∈ next.definitions ↔ d ∈ r.definitions := by
    intro d
    rw [hdefinitions.mem_iff, definitions, hothers]
    rfl
  obtain ⟨htool, hkind, htoolDefinition⟩ := hr.lookups_eq hs hsame
  refine ⟨next, hnext, htool, hkind, htoolDefinition, fun text hunique => resolve_eq_of_perm ?_ ?_⟩
  · rw [hgroups, hothers]
    exact hperm
  · rw [hgroups]
    exact hunique

/-- Two commands in either order. Only crash logs are dropped, but both are cleared, by the one that was
registered first. -/
theorem registerAll_perm_crashLogs :
    let keychain := saying "clear" .clearKeychain r"clear"
    let crashLogs := saying "crash logs" .deleteCrashLogs r"(clear|drop)\s+crash\s+logs"
    let r := (empty.addGroup keychain).addGroup crashLogs
    empty.registerAll [keychain, crashLogs] = .ok r ∧ ∃ next, empty.registerAll [crashLogs, keychain] = .ok next ∧
      next.toolKind "crash-logs" = r.toolKind "crash-logs" ∧
      next.resolve "drop crash logs" = r.resolve "drop crash logs" ∧
      (r.recognize? "drop crash logs").map (·.name) = some "crash logs" ∧
      (r.recognize? "clear crash logs").map (·.name) = some "clear" := by
  intro keychain crashLogs r
  have hfirst : empty.Fresh keychain :=
    ⟨by decide, by decide, by decide, by decide, by decide⟩
  have hsecond : (empty.addGroup keychain).Fresh crashLogs :=
    ⟨by decide, by decide, by decide, by decide, by decide⟩
  have hregister : empty.registerAll [keychain, crashLogs] = .ok r := by
    rw [registerAll, List.foldlM_cons, (inStep_empty.register_eq_ok_iff _).2 ⟨hfirst, rfl⟩]
    exact ((inStep_empty.addGroup hfirst).register_eq_ok_iff _).2 ⟨hsecond, rfl⟩
  obtain ⟨next, hnext, htool, -, -, hresolve⟩ := registerAll_perm (.swap crashLogs keychain []) hregister
  have hunique : ∀ g ∈ [keychain, crashLogs], ∀ g' ∈ [keychain, crashLogs],
      g.Matches (Text.trim "drop crash logs".toList) → g'.Matches (Text.trim "drop crash logs".toList) →
      g = g' := by
    decide
  exact ⟨hregister, next, hnext, htool _, hresolve _ hunique, by decide, by decide⟩

end Registry

end SimControl
