import SimControl.Proofs.Dictionary
import SimControl.Proofs.Reading
import SimControl.Registry.Basic

/-!
# The indexes of a registry

A registry keeps its groups and three indexes over them, and reads the indexes through each other.
`InStep` says that they agree:

* no two definitions share a tool or a kind;
* `tools` and `owners` find exactly what the definitions say (`tools_iff`, `owner_iff`);
* `keys` are the keys of the groups, each once.

`InStep.addGroup` carries it over a group without conflicts, and `Reachable.inStep` over every run of
registrations, of which each one may fail. `indexes_agree` is what callers see of it. A run in which none fails
holds all its groups (`InStep.of_registerAll`).
-/

namespace SimControl.Registry

/-- The registry after a registration. One that fails changes nothing. -/
def afterRegister (r : Registry) (group : Group) : Registry :=
  match r.register group with
  | .ok next => next
  | .error _ => r

/-- The registries that runs of registrations lead to. -/
inductive Reachable : Registry → Prop where
  | empty : Reachable .empty
  | register {r : Registry} (group : Group) : Reachable r → Reachable (r.afterRegister group)

structure InStep (r : Registry) : Prop where
  tools_nodup : (r.definitions.map (·.tool)).Nodup
  kinds_nodup : (r.definitions.map (·.kind)).Nodup
  tools_iff : ∀ tool kind,
    r.tools.get? tool = some kind ↔ ∃ d ∈ r.definitions, d.tool = tool ∧ d.kind = kind
  owner_iff : ∀ kind key,
    r.owner? kind = some key ↔ ∃ g ∈ r.groups, g.key = key ∧ ∃ d ∈ g.definitions, d.kind = kind
  keys_eq : r.keys = r.groups.map (·.key)
  keys_nodup : r.keys.Nodup

/-! ## Groups without conflicts -/

theorem conflictOf?_eq_none_iff (r : Registry) (key : String) (tools : List String)
    (kinds : List CommandKind) (d : Definition) :
    r.conflictOf? key tools kinds d = none ↔
      r.toolOwner? d.tool = none ∧ d.tool ∉ tools ∧ r.owner? d.kind = none ∧ d.kind ∉ kinds := by
  unfold conflictOf?
  cases r.toolOwner? d.tool with
  | some owner => simp
  | none =>
      by_cases htool : d.tool ∈ tools
      · simp [htool]
      · cases r.owner? d.kind with
        | some owner => simp [htool]
        | none => simp [htool]

theorem conflict?_eq_none_iff (r : Registry) (key : String) (ds : List Definition) :
    ∀ (tools : List String) (kinds : List CommandKind), r.conflict? key tools kinds ds = none ↔
      (∀ d ∈ ds, r.toolOwner? d.tool = none ∧ r.owner? d.kind = none) ∧
        (∀ d ∈ ds, d.tool ∉ tools ∧ d.kind ∉ kinds) ∧
        (ds.map (·.tool)).Nodup ∧ (ds.map (·.kind)).Nodup := by
  induction ds with
  | nil => simp [conflict?]
  | cons d rest ih =>
      intro tools kinds
      have hstep : r.conflict? key tools kinds (d :: rest) = none ↔
          r.conflictOf? key tools kinds d = none ∧
            r.conflict? key (d.tool :: tools) (d.kind :: kinds) rest = none := by
        rw [conflict?]
        cases r.conflictOf? key tools kinds d <;> simp
      rw [hstep, conflictOf?_eq_none_iff, ih]
      simp only [List.mem_cons, List.map_cons, List.nodup_cons, List.mem_map, forall_eq_or_imp, not_or,
        not_exists, not_and]
      constructor
      · rintro ⟨⟨howner, htool, hkind, hseen⟩, hrest, hnew, htools, hkinds⟩
        exact ⟨⟨⟨howner, hkind⟩, hrest⟩, ⟨⟨htool, hseen⟩, fun e he => ⟨(hnew e he).1.2, (hnew e he).2.2⟩⟩,
          ⟨fun e he => (hnew e he).1.1, htools⟩, ⟨fun e he => (hnew e he).2.1, hkinds⟩⟩
      · rintro ⟨⟨⟨howner, hkind⟩, hrest⟩, ⟨⟨htool, hseen⟩, hnew⟩, ⟨htools, htnd⟩, ⟨hkinds, hknd⟩⟩
        exact ⟨⟨howner, htool, hkind, hseen⟩, hrest,
          fun e he => ⟨⟨htools e he, (hnew e he).1⟩, hkinds e he, (hnew e he).2⟩, htnd, hknd⟩

/-- What a group must be for `register` to take it. -/
structure Fresh (r : Registry) (group : Group) : Prop where
  key : group.key ∉ r.keys
  tools : ∀ d ∈ group.definitions, d.tool ∉ r.definitions.map (·.tool)
  kinds : ∀ d ∈ group.definitions, d.kind ∉ r.definitions.map (·.kind)
  tools_nodup : (group.definitions.map (·.tool)).Nodup
  kinds_nodup : (group.definitions.map (·.kind)).Nodup

variable {r : Registry} {group : Group}

theorem mem_definitions {d : Definition} : d ∈ r.definitions ↔ ∃ g ∈ r.groups, d ∈ g.definitions :=
  List.mem_flatMap

theorem InStep.owner?_eq_none_iff (h : r.InStep) (kind : CommandKind) :
    r.owner? kind = none ↔ kind ∉ r.definitions.map (·.kind) := by
  rw [← Option.not_isSome_iff_eq_none, Option.isSome_iff_exists, List.mem_map]
  refine not_congr ⟨?_, ?_⟩
  · rintro ⟨key, hkey⟩
    obtain ⟨g, hg, -, d, hd, hkind⟩ := (h.owner_iff kind key).1 hkey
    exact ⟨d, mem_definitions.2 ⟨g, hg, hd⟩, hkind⟩
  · rintro ⟨d, hd, hkind⟩
    obtain ⟨g, hg, hd⟩ := mem_definitions.1 hd
    exact ⟨g.key, (h.owner_iff kind g.key).2 ⟨g, hg, rfl, d, hd, hkind⟩⟩

/-- The chain from a tool to its kind and from there to a group never breaks off. -/
theorem InStep.toolOwner?_eq_none_iff (h : r.InStep) (tool : String) :
    r.toolOwner? tool = none ↔ tool ∉ r.definitions.map (·.tool) := by
  unfold toolOwner?
  constructor
  · intro hnone hmem
    obtain ⟨d, hd, rfl⟩ := List.mem_map.1 hmem
    rw [(h.tools_iff d.tool d.kind).2 ⟨d, hd, rfl, rfl⟩, Option.bind_some, h.owner?_eq_none_iff] at hnone
    exact hnone (List.mem_map_of_mem hd)
  · intro hmem
    cases hkind : r.tools.get? tool with
    | none => rfl
    | some kind =>
        obtain ⟨d, hd, htool, -⟩ := (h.tools_iff tool kind).1 hkind
        exact absurd (List.mem_map.2 ⟨d, hd, htool⟩) hmem

/-- `register` takes a group exactly if it is fresh. -/
theorem InStep.register_eq_ok_iff (h : r.InStep) (next : Registry) :
    r.register group = .ok next ↔ r.Fresh group ∧ next = r.addGroup group := by
  have hfree : r.conflict? group.key [] [] group.definitions = none ∧ group.key ∉ r.keys ↔
      r.Fresh group := by
    rw [conflict?_eq_none_iff]
    constructor
    · rintro ⟨⟨hfree, -, htools, hkinds⟩, hkey⟩
      exact ⟨hkey, fun d hd => (h.toolOwner?_eq_none_iff d.tool).1 (hfree d hd).1,
        fun d hd => (h.owner?_eq_none_iff d.kind).1 (hfree d hd).2, htools, hkinds⟩
    · intro hf
      exact ⟨⟨fun d hd => ⟨(h.toolOwner?_eq_none_iff d.tool).2 (hf.tools d hd),
        (h.owner?_eq_none_iff d.kind).2 (hf.kinds d hd)⟩, by simp, hf.tools_nodup, hf.kinds_nodup⟩, hf.key⟩
  rw [← hfree]
  unfold register
  by_cases hkey : group.key ∈ r.keys
  · simp [hkey]
  · cases r.conflict? group.key [] [] group.definitions with
    | some error => simp [hkey]
    | none => simp [hkey, eq_comm]

/-! ## One more group -/

theorem definitions_addGroup (r : Registry) (group : Group) :
    (r.addGroup group).definitions = r.definitions ++ group.definitions := by
  simp [definitions, addGroup]

theorem get?_foldl_insert (tool : String) (kind : CommandKind) (ds : List Definition) :
    ∀ tools : Dictionary CommandKind, (ds.map (·.tool)).Nodup →
      ((ds.foldl (fun tools d => tools.insert d.tool d.kind) tools).get? tool = some kind ↔
        (∃ d ∈ ds, d.tool = tool ∧ d.kind = kind) ∨
          tool ∉ ds.map (·.tool) ∧ tools.get? tool = some kind) := by
  induction ds with
  | nil => simp
  | cons d rest ih =>
      intro tools hnd
      rw [List.map_cons, List.nodup_cons] at hnd
      rw [List.foldl_cons, ih _ hnd.2, Dictionary.get?_insert]
      by_cases htool : tool = d.tool
      · subst htool
        simp only [if_true, Option.some.injEq, List.mem_cons, exists_eq_or_imp, true_and, List.map_cons,
          true_or, not_true_eq_false, false_and, or_false]
        constructor
        · rintro (h | ⟨-, h⟩)
          · exact .inr h
          · exact .inl h
        · rintro (h | h)
          · exact .inr ⟨hnd.1, h⟩
          · exact .inl h
      · have hne : d.tool ≠ tool := fun h => htool h.symm
        simp [htool, hne]

theorem lookup_foldl_cons (kind : CommandKind) (key : String) (ds : List Definition) :
    ∀ owners : List (CommandKind × String),
      (ds.foldl (fun owners d => (d.kind, key) :: owners) owners).lookup kind =
        if kind ∈ ds.map (·.kind) then some key else owners.lookup kind := by
  induction ds with
  | nil => simp
  | cons d rest ih =>
      intro owners
      rw [List.foldl_cons, ih, lookup_cons_eq_ite]
      by_cases hrest : kind ∈ rest.map (·.kind)
      · simp only [hrest, if_true, List.map_cons, List.mem_cons, or_true]
      · by_cases hkind : kind = d.kind <;> simp [hkind, hrest]

theorem owner?_addGroup (r : Registry) (group : Group) (kind : CommandKind) :
    (r.addGroup group).owner? kind =
      if kind ∈ group.definitions.map (·.kind) then some group.key else r.owner? kind :=
  lookup_foldl_cons kind group.key group.definitions r.owners

theorem InStep.tools_addGroup (h : r.InStep) (hf : r.Fresh group) (tool : String) (kind : CommandKind) :
    (r.addGroup group).tools.get? tool = some kind ↔
      ∃ d ∈ r.definitions ++ group.definitions, d.tool = tool ∧ d.kind = kind := by
  have hnew := get?_foldl_insert tool kind group.definitions r.tools hf.tools_nodup
  rw [show (r.addGroup group).tools.get? tool = some kind ↔ _ from hnew, h.tools_iff]
  constructor
  · rintro (⟨d, hd, he⟩ | ⟨-, d, hd, he⟩)
    · exact ⟨d, List.mem_append_right _ hd, he⟩
    · exact ⟨d, List.mem_append_left _ hd, he⟩
  · rintro ⟨d, hd, rfl, rfl⟩
    rcases List.mem_append.1 hd with hd | hd
    · refine .inr ⟨fun hmem => ?_, d, hd, rfl, rfl⟩
      obtain ⟨e, he, htool⟩ := List.mem_map.1 hmem
      exact hf.tools e he (List.mem_map.2 ⟨d, hd, htool.symm⟩)
    · exact .inl ⟨d, hd, rfl, rfl⟩

theorem InStep.owner_addGroup (h : r.InStep) (hf : r.Fresh group) (kind : CommandKind) (key : String) :
    (r.addGroup group).owner? kind = some key ↔
      ∃ g ∈ r.groups ++ [group], g.key = key ∧ ∃ d ∈ g.definitions, d.kind = kind := by
  rw [owner?_addGroup]
  split
  · rename_i hmem
    obtain ⟨d, hd, rfl⟩ := List.mem_map.1 hmem
    constructor
    · intro hkey
      exact ⟨group, by simp, Option.some.inj hkey, d, hd, rfl⟩
    · rintro ⟨g, hg, rfl, e, he, hkind⟩
      rcases List.mem_append.1 hg with hg | hg
      · have : e.kind ∈ r.definitions.map (·.kind) := List.mem_map_of_mem (mem_definitions.2 ⟨g, hg, he⟩)
        exact absurd (hkind ▸ this) (hf.kinds d hd)
      · rw [List.mem_singleton.1 hg]
  · rename_i hmem
    rw [h.owner_iff]
    constructor
    · rintro ⟨g, hg, hkey⟩
      exact ⟨g, List.mem_append_left _ hg, hkey⟩
    · rintro ⟨g, hg, hkey, d, hd, hkind⟩
      rcases List.mem_append.1 hg with hg | hg
      · exact ⟨g, hg, hkey, d, hd, hkind⟩
      · rw [List.mem_singleton.1 hg] at hd
        exact absurd (List.mem_map.2 ⟨d, hd, hkind⟩) hmem

theorem nodup_map_append {α β : Type} {f : α → β} {xs ys : List α} (hxs : (xs.map f).Nodup)
    (hys : (ys.map f).Nodup) (hne : ∀ y ∈ ys, f y ∉ xs.map f) : ((xs ++ ys).map f).Nodup := by
  rw [List.map_append, List.nodup_append]
  refine ⟨hxs, hys, fun a ha b hb hab => ?_⟩
  obtain ⟨y, hy, rfl⟩ := List.mem_map.1 hb
  exact hne y hy (hab ▸ ha)

theorem inStep_empty : empty.InStep where
  tools_nodup := .nil
  kinds_nodup := .nil
  tools_iff := by simp [empty, definitions]
  owner_iff := by simp [empty, owner?]
  keys_eq := rfl
  keys_nodup := .nil

theorem InStep.addGroup (h : r.InStep) (hf : r.Fresh group) : (r.addGroup group).InStep where
  tools_nodup := by
    rw [definitions_addGroup]
    exact nodup_map_append h.tools_nodup hf.tools_nodup hf.tools
  kinds_nodup := by
    rw [definitions_addGroup]
    exact nodup_map_append h.kinds_nodup hf.kinds_nodup hf.kinds
  tools_iff := by
    rw [definitions_addGroup]
    exact h.tools_addGroup hf
  owner_iff := h.owner_addGroup hf
  keys_eq := by simp [Registry.addGroup, h.keys_eq]
  keys_nodup := by
    refine List.nodup_append.2 ⟨h.keys_nodup, by simp, fun a ha b hb hab => ?_⟩
    rw [hab, List.mem_singleton.1 hb] at ha
    exact hf.key ha

/-! ## Runs of registrations -/

theorem InStep.afterRegister (h : r.InStep) (group : Group) : (r.afterRegister group).InStep := by
  unfold Registry.afterRegister
  cases hreg : r.register group with
  | error error => exact h
  | ok next =>
      obtain ⟨hf, rfl⟩ := (h.register_eq_ok_iff next).1 hreg
      exact h.addGroup hf

theorem Reachable.inStep (h : r.Reachable) : r.InStep := by
  induction h with
  | empty => exact inStep_empty
  | register group _ ih => exact ih.afterRegister group

/-! ## Groups one after the other -/

theorem fresh_of_nodup {r : Registry} {group : Group} {others : List Definition} (hkey : group.key ∉ r.keys)
    (htools : ((r.definitions ++ (group.definitions ++ others)).map (·.tool)).Nodup)
    (hkinds : ((r.definitions ++ (group.definitions ++ others)).map (·.kind)).Nodup) : r.Fresh group := by
  simp only [List.map_append, List.nodup_append] at htools hkinds
  refine ⟨hkey, fun d hd hmem => ?_, fun d hd hmem => ?_, htools.2.1.1, hkinds.2.1.1⟩
  · exact htools.2.2 _ hmem _ (List.mem_append_left _ (List.mem_map_of_mem hd)) rfl
  · exact hkinds.2.2 _ hmem _ (List.mem_append_left _ (List.mem_map_of_mem hd)) rfl

/-- Groups whose keys, tools and kinds are all different are registered one after the other. -/
theorem InStep.exists_registerAll {groups : List Group} {r : Registry} (h : r.InStep)
    (hkeys : (r.keys ++ groups.map (·.key)).Nodup)
    (htools : ((r.definitions ++ groups.flatMap (·.definitions)).map (·.tool)).Nodup)
    (hkinds : ((r.definitions ++ groups.flatMap (·.definitions)).map (·.kind)).Nodup) :
    ∃ next, r.registerAll groups = .ok next := by
  induction groups generalizing r with
  | nil => exact ⟨r, rfl⟩
  | cons group rest ih =>
      rw [List.flatMap_cons] at htools hkinds
      have hkey : group.key ∉ r.keys := fun hmem =>
        (List.nodup_append.1 hkeys).2.2 _ hmem _ List.mem_cons_self rfl
      have hfresh := fresh_of_nodup hkey htools hkinds
      rw [← List.append_assoc, ← definitions_addGroup] at htools hkinds
      have hkeysNext : ((r.addGroup group).keys ++ rest.map (·.key)).Nodup := by
        rw [show (r.addGroup group).keys = r.keys ++ [group.key] from rfl, List.append_assoc]
        exact hkeys
      obtain ⟨next, hnext⟩ := ih (h.addGroup hfresh) hkeysNext htools hkinds
      refine ⟨next, ?_⟩
      rw [registerAll, List.foldlM_cons, (h.register_eq_ok_iff _).2 ⟨hfresh, rfl⟩]
      exact hnext

/-- A registry that has taken some groups holds them behind its own, and its indexes agree. -/
theorem InStep.of_registerAll {groups : List Group} {r next : Registry} (h : r.InStep)
    (hregister : r.registerAll groups = .ok next) : next.InStep ∧ next.groups = r.groups ++ groups := by
  induction groups generalizing r with
  | nil => exact Except.ok.inj hregister ▸ ⟨h, (List.append_nil _).symm⟩
  | cons group rest ih =>
      rw [registerAll, List.foldlM_cons] at hregister
      obtain ⟨one, hone, hrest⟩ := bind_eq_ok.1 hregister
      obtain ⟨hfresh, rfl⟩ := (h.register_eq_ok_iff one).1 hone
      obtain ⟨hstep, hgroups⟩ := ih (h.addGroup hfresh) hrest
      exact ⟨hstep, hgroups.trans (List.append_assoc r.groups [group] rest)⟩

/-! ## What the look-ups find -/

theorem find?_eq_some_of_nodup {ds : List Definition} (hnd : (ds.map (·.kind)).Nodup) {d : Definition}
    (hd : d ∈ ds) : ds.find? (fun e => e.kind == d.kind) = some d := by
  induction ds with
  | nil => cases hd
  | cons first rest ih =>
      rw [List.map_cons, List.nodup_cons] at hnd
      rcases List.mem_cons.1 hd with rfl | hd
      · simp
      · have hne : first.kind ≠ d.kind := fun h => hnd.1 (List.mem_map.2 ⟨d, hd, h.symm⟩)
        rw [List.find?_cons, beq_eq_false_iff_ne.2 hne]
        exact ih hnd.2 hd

theorem InStep.toolKind_eq_ok (h : r.InStep) {d : Definition} (hd : d ∈ r.definitions) :
    r.toolKind d.tool = .ok d.kind := by
  rw [toolKind, (h.tools_iff d.tool d.kind).2 ⟨d, hd, rfl, rfl⟩]

theorem InStep.definition?_eq_some (h : r.InStep) {d : Definition} (hd : d ∈ r.definitions) :
    r.definition? d.kind = some d :=
  find?_eq_some_of_nodup h.kinds_nodup hd

theorem InStep.definition?_eq_some_iff (h : r.InStep) (kind : CommandKind) (d : Definition) :
    r.definition? kind = some d ↔ d ∈ r.definitions ∧ d.kind = kind := by
  constructor
  · intro hfound
    rw [definition?] at hfound
    have hkind := List.find?_some hfound
    exact ⟨List.mem_of_find?_eq_some hfound, beq_iff_eq.1 hkind⟩
  · rintro ⟨hd, rfl⟩
    exact h.definition?_eq_some hd

theorem InStep.toolDefinition?_eq_some (h : r.InStep) {d : Definition} (hd : d ∈ r.definitions) :
    r.toolDefinition? d.tool = some d := by
  rw [toolDefinition?, (h.tools_iff d.tool d.kind).2 ⟨d, hd, rfl, rfl⟩, Option.bind_some,
    h.definition?_eq_some hd]

theorem InStep.toolKind_eq_error (h : r.InStep) {tool : String} (hne : ∀ d ∈ r.definitions, d.tool ≠ tool) :
    r.toolKind tool = .error (.unknownTool tool) := by
  rw [toolKind]
  cases hkind : r.tools.get? tool with
  | none => rfl
  | some kind =>
      obtain ⟨d, hd, htool, -⟩ := (h.tools_iff tool kind).1 hkind
      exact absurd htool (hne d hd)

/-- After any run of registrations the indexes say what the groups say, a look-up finds the definition
that it names, and no other text is a tool. -/
theorem indexes_agree (h : r.Reachable) :
    ((r.definitions.map fun d => slugify d.name).Nodup ∧ (r.definitions.map (·.kind)).Nodup) ∧
    ((∀ tool kind, r.tools.get? tool = some kind ↔
        ∃ d ∈ r.definitions, slugify d.name = tool ∧ d.kind = kind) ∧
      (∀ kind key, r.owner? kind = some key ↔
        ∃ g ∈ r.groups, g.key = key ∧ ∃ d ∈ g.definitions, d.kind = kind) ∧
      r.keys = r.groups.map (·.key) ∧ r.keys.Nodup) ∧
    (∀ d ∈ r.definitions, r.toolKind (slugify d.name) = .ok d.kind ∧ r.definition? d.kind = some d ∧
      r.toolDefinition? (slugify d.name) = some d) ∧
    ∀ tool, (∀ d ∈ r.definitions, slugify d.name ≠ tool) →
      r.toolKind tool = .error (.unknownTool tool) := by
  have hs := h.inStep
  refine ⟨⟨hs.tools_nodup, hs.kinds_nodup⟩, ⟨hs.tools_iff, hs.owner_iff, hs.keys_eq, hs.keys_nodup⟩, ?_, ?_⟩
  · intro d hd
    exact ⟨hs.toolKind_eq_ok hd, hs.definition?_eq_some hd, hs.toolDefinition?_eq_some hd⟩
  · intro tool hne
    exact hs.toolKind_eq_error hne

def plain (name : String) (kind : CommandKind) : Definition :=
  ⟨⟨name, kind, "", [], [], [], [], []⟩, []⟩

/-- The second group is refused, since `a b` and `a-b` are the same tool. -/
theorem indexes_agree_after_collision :
    let r := ((empty.afterRegister ⟨"first", [plain "a b" .tap]⟩).afterRegister
      ⟨"second", [plain "a-b" .swipe]⟩).afterRegister ⟨"third", [plain "c d" .swipe]⟩
    r.Reachable ∧ plain "a b" .tap ∈ r.definitions ∧ r.toolKind "a-b" = .ok .tap ∧
      r.toolKind "c d" = .error (.unknownTool "c d") := by
  intro r
  have h : r.Reachable := .register _ (.register _ (.register _ .empty))
  have hmem : plain "a b" .tap ∈ r.definitions := by decide
  refine ⟨h, hmem, ?_, (indexes_agree h).2.2.2 "c d" (by decide)⟩
  have htool : slugify "a b" = "a-b" := by decide
  rw [← htool]
  exact ((indexes_agree h).2.2.1 _ hmem).1

end SimControl.Registry
