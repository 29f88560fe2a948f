import Mathlib.Data.List.Nodup
import SimControl.Proofs.Reading
import SimControl.Proofs.Registry.Invariant

/-!
# What the built-in registry holds

Every pattern of the catalog is well-formed, and no two entries share a name or a kind. So the built-in registry
holds the entries of all domains in their order, with their patterns read (`builtin_reads`), and its indexes agree
(`builtin_inStep`). Recognition goes through the rules of a registry, which are its definitions with one pattern
each (`firstMatch?_eq`).
-/

namespace SimControl

/-! ## Reading entries -/

namespace Pattern

/-- The pattern that a list of characters writes. -/
def ofChars? (cs : List Char) : Option Pattern :=
  match Reader.pattern (cs.length + 1) (cs.length + 1) cs with
  | some (pattern, []) => if pattern.groupNames.Nodup then some pattern else none
  | _ => none

theorem ofText?_ofList (cs : List Char) : ofText? (String.ofList cs) = ofChars? cs := by
  rw [show ofText? (String.ofList cs) = ofChars? (String.ofList cs).toList from rfl, String.toList_ofList]

theorem isSome_ofText? {cs : List Char} (h : (ofChars? cs).isSome = true) :
    (ofText? (String.ofList cs)).isSome = true := by
  rwa [ofText?_ofList]

end Pattern

namespace Definition

/-- The definition has the entry, with the patterns that its texts write. -/
structure Reads (entry : Entry) (d : Definition) : Prop where
  entry_eq : d.entry = entry
  patterns : List.Forall₂ (fun text pattern => Pattern.ofText? text = some pattern) entry.patterns d.patterns

/-- Reads one pattern of an entry. -/
def readPattern (entry : Entry) (text : String) : Except InvalidPattern Pattern :=
  match Pattern.ofText? text with
  | some pattern => .ok pattern
  | none => .error ⟨entry.name, text⟩

theorem ofEntry_eq (entry : Entry) :
    ofEntry entry = (do return ⟨entry, ← entry.patterns.mapM (readPattern entry)⟩) := rfl

theorem reads_of_ofEntry {entry : Entry} {d : Definition} (h : ofEntry entry = .ok d) : Reads entry d := by
  rw [ofEntry_eq] at h
  obtain ⟨patterns, hpatterns, h⟩ := bind_eq_ok.1 h
  obtain rfl := Except.ok.inj h
  refine ⟨rfl, (forall₂_of_mapM hpatterns).imp fun text pattern hread => ?_⟩
  unfold readPattern at hread
  split at hread
  · rename_i found hfound
    rw [hfound, Except.ok.inj hread]
  · cases hread

theorem exists_ofEntry {entry : Entry} (h : ∀ text ∈ entry.patterns, (Pattern.ofText? text).isSome) :
    ∃ d, ofEntry entry = .ok d := by
  have hread : ∀ text ∈ entry.patterns, ∃ pattern, readPattern entry text = .ok pattern := by
    intro text htext
    obtain ⟨pattern, hpattern⟩ := Option.isSome_iff_exists.1 (h text htext)
    exact ⟨pattern, by rw [readPattern, hpattern]⟩
  obtain ⟨patterns, hpatterns⟩ := exists_mapM hread
  exact ⟨⟨entry, patterns⟩, by rw [ofEntry_eq, hpatterns]; rfl⟩

end Definition

theorem Domain.reads_of_group {domain : Domain} {group : Group} (h : domain.group = .ok group) :
    group.key = domain.key ∧ List.Forall₂ Definition.Reads domain.entries group.definitions := by
  obtain ⟨definitions, hdefinitions, h⟩ := bind_eq_ok.1 h
  obtain rfl := Except.ok.inj h
  exact ⟨rfl, (forall₂_of_mapM hdefinitions).imp fun _ _ => Definition.reads_of_ofEntry⟩

namespace Registry

/-! ## The built-in catalog -/

/-- The entries of all domains, in the order of registration. -/
def catalog : List Entry :=
  Domain.all.flatMap Domain.entries

theorem mem_catalog {entry : Entry} : entry ∈ catalog ↔ ∃ domain : Domain, entry ∈ domain.entries := by
  rw [catalog, List.mem_flatMap]
  refine exists_congr fun domain => and_iff_right ?_
  cases domain <;> decide

set_option maxRecDepth 4000 in
theorem readable (domain : Domain) : ∀ entry ∈ domain.entries, ∀ text ∈ entry.patterns,
    (Pattern.ofText? text).isSome = true := by
  cases domain
  all_goals
    repeat' first
      | exact Pattern.isSome_ofText? (by decide)
      | exact List.forall_mem_nil _
      | refine List.forall_mem_cons.2 ⟨?_, ?_⟩

/-- A name that can be told from its tool. -/
def unslug (tool : String) : String :=
  String.ofList (tool.toList.map fun c => if c == '-' then ' ' else c)

theorem unslug_slugify {cs : List Char} (h : cs.all (· != '-') = true) :
    unslug (slugify (String.ofList cs)) = String.ofList cs := by
  rw [unslug, slugify, String.toList_ofList, String.toList_ofList, List.map_map]
  congr 1
  refine (List.map_congr_left fun c hc => ?_).trans (List.map_id _)
  have hdash : c ≠ '-' := bne_iff_ne.1 (List.all_eq_true.1 h c hc)
  by_cases hspace : c = ' '
  · simp [hspace]
  · simp [hspace, hdash]

theorem unslug_name (domain : Domain) : ∀ entry ∈ domain.entries, unslug (slugify entry.name) = entry.name := by
  cases domain
  all_goals
    repeat' first
      | exact unslug_slugify (by decide)
      | exact List.forall_mem_nil _
      | refine List.forall_mem_cons.2 ⟨?_, ?_⟩

theorem catalog_tools_nodup : (catalog.map fun entry => slugify entry.name).Nodup := by
  have hnames : (catalog.map (·.name)).Nodup := by decide
  have hunslug : ∀ entry ∈ catalog, unslug (slugify entry.name) = entry.name := by
    intro entry hentry
    obtain ⟨domain, hdomain⟩ := mem_catalog.1 hentry
    exact unslug_name domain entry hdomain
  refine List.Nodup.of_map unslug ?_
  rw [List.map_map]
  exact (List.map_congr_left hunslug).symm ▸ hnames

theorem catalog_kinds_nodup : (catalog.map (·.kind)).Nodup := by decide

/-- The built-in registry has been built, from groups with the entries of all domains in their order. -/
theorem builtin_registered : ∃ groups, empty.registerAll groups = .ok builtin ∧
    List.Forall₂ Definition.Reads catalog (groups.flatMap (·.definitions)) := by
  have hgroup : ∀ domain ∈ Domain.all, ∃ group, domain.group = .ok group := by
    intro domain _
    obtain ⟨definitions, hdefinitions⟩ := exists_mapM fun entry hentry =>
      Definition.exists_ofEntry (readable domain entry hentry)
    exact ⟨⟨domain.key, definitions⟩, by rw [Domain.group, Group.ofEntries, hdefinitions]; rfl⟩
  obtain ⟨groups, hgroups⟩ := exists_mapM hgroup
  have hreads := (forall₂_of_mapM hgroups).imp fun _ _ => Domain.reads_of_group
  have hall : List.Forall₂ Definition.Reads catalog (groups.flatMap (·.definitions)) :=
    List.rel_flatMap hreads fun _ _ h => h.2
  have hkeys : groups.map (·.key) = Domain.all.map Domain.key :=
    map_eq_of_forall₂ (fun _ _ h => h.1) hreads
  have htools : (groups.flatMap (·.definitions)).map (·.tool) = catalog.map fun entry => slugify entry.name :=
    map_eq_of_forall₂ (fun _ _ h => by rw [Definition.tool, h.entry_eq]) hall
  have hkinds : (groups.flatMap (·.definitions)).map (·.kind) = catalog.map (·.kind) :=
    map_eq_of_forall₂ (fun _ _ h => by rw [Definition.kind, h.entry_eq]) hall
  obtain ⟨next, hnext⟩ : ∃ next, empty.registerAll groups = .ok next := by
    have hempty : empty.definitions = [] := rfl
    refine inStep_empty.exists_registerAll ?_ ?_ ?_
    · rw [show empty.keys = [] from rfl, List.nil_append, hkeys]
      decide
    · rw [hempty, List.nil_append, htools]
      exact catalog_tools_nodup
    · rw [hempty, List.nil_append, hkinds]
      exact catalog_kinds_nodup
  have hdomains : ofDomains Domain.all = .ok next := by
    rw [ofDomains, hgroups]
    simp only [hnext]
  have hbuiltin : builtin = next := by
    rw [builtin, hdomains]
    rfl
  exact ⟨groups, hbuiltin ▸ hnext, hall⟩

theorem builtin_inStep : builtin.InStep := by
  obtain ⟨groups, hregister, -⟩ := builtin_registered
  exact (inStep_empty.of_registerAll hregister).1

/-- The built-in registry holds the entries of all domains in their order. -/
theorem builtin_reads : List.Forall₂ Definition.Reads catalog builtin.definitions := by
  obtain ⟨groups, hregister, hreads⟩ := builtin_registered
  rw [definitions, (inStep_empty.of_registerAll hregister).2]
  exact hreads

theorem exists_definition? {entry : Entry} (h : entry ∈ catalog) :
    ∃ d, builtin.definition? entry.kind = some d ∧ d.entry = entry := by
  obtain ⟨n, hn⟩ := List.mem_iff_getElem?.1 h
  obtain ⟨d, hd, hreads⟩ := exists_getElem? builtin_reads hn
  refine ⟨d, (builtin_inStep.definition?_eq_some_iff _ _).2 ⟨List.mem_of_getElem? hd, ?_⟩, hreads.entry_eq⟩
  rw [Definition.kind, hreads.entry_eq]

end Registry

/-! ## Rules -/

/-- A definition with one of its patterns. -/
structure Rule where
  definition : Definition
  pattern : Pattern

namespace Rule

/-- What a rule finds in a text. -/
def find? (rule : Rule) (text : List Char) : Option (Definition × Pattern.Match) :=
  (rule.pattern.find? text).map fun m => (rule.definition, m)

/-- The rule has the entry, with a pattern that the text writes. -/
structure Reads (written : Entry × String) (rule : Rule) : Prop where
  entry_eq : rule.definition.entry = written.1
  pattern_eq : Pattern.ofText? written.2 = some rule.pattern

end Rule

namespace Registry

/-- All rules, in the order in which they are tried. -/
def rules (r : Registry) : List Rule :=
  r.definitions.flatMap fun d => d.patterns.map (Rule.mk d)

theorem firstMatch?_eq (r : Registry) (text : List Char) :
    r.firstMatch? text = r.rules.findSome? fun rule => rule.find? text := by
  have hdefinition : ∀ d : Definition, (d.match? text).map (fun m => (d, m)) =
      (d.patterns.map (Rule.mk d)).findSome? fun rule => rule.find? text := by
    intro d
    rw [Definition.match?, List.map_findSome?, List.findSome?_map]
    rfl
  rw [firstMatch?, rules, findSome?_flatMap]
  exact congrArg (fun f => r.definitions.findSome? f) (funext hdefinition)

/-- A rule that finds something is overruled by the earlier ones only. -/
theorem firstMatch?_of_rule {r : Registry} {n : Nat} {rule : Rule} (hrule : r.rules[n]? = some rule)
    {text : List Char} {m : Pattern.Match} (hm : rule.pattern.find? text = some m) : r.firstMatch? text =
      some (((r.rules.take n).findSome? fun rule => rule.find? text).getD (rule.definition, m)) := by
  obtain ⟨hn, hat⟩ := List.getElem?_eq_some_iff.1 hrule
  rw [firstMatch?_eq]
  nth_rewrite 1 [← List.take_append_drop n r.rules]
  rw [List.findSome?_append, List.drop_eq_getElem_cons hn, hat, List.findSome?_cons, Rule.find?, hm]
  cases (r.rules.take n).findSome? fun rule => rule.find? text <;> rfl

theorem firstMatch?_of_earlier {r : Registry} {n : Nat} {rule : Rule} (hrule : r.rules[n]? = some rule)
    {text : List Char} (hearlier : ∀ rule ∈ r.rules.take n, rule.find? text = none) {m : Pattern.Match}
    (hm : rule.pattern.find? text = some m) : r.firstMatch? text = some (rule.definition, m) := by
  rw [firstMatch?_of_rule hrule hm, List.findSome?_eq_none_iff.2 hearlier, Option.getD_none]

/-- The entries of the catalog with one of their patterns each, as they are written. -/
def writtenRules : List (Entry × String) :=
  catalog.flatMap fun entry => entry.patterns.map (Prod.mk entry)

theorem builtin_rules_read : List.Forall₂ Rule.Reads writtenRules builtin.rules := by
  refine List.rel_flatMap builtin_reads fun entry d h => ?_
  refine List.forall₂_map_left_iff.2 (List.forall₂_map_right_iff.2 (h.patterns.imp fun text pattern hread => ?_))
  exact ⟨h.entry_eq, hread⟩

/-- The rule with a number is the one that is written under this number. -/
theorem exists_rule {n : Nat} {written : Entry × String} (h : writtenRules[n]? = some written) :
    ∃ rule, builtin.rules[n]? = some rule ∧ rule.Reads written :=
  exists_getElem? builtin_rules_read h

theorem exists_written {n : Nat} {rule : Rule} (h : builtin.rules[n]? = some rule) :
    ∃ written, writtenRules[n]? = some written ∧ rule.Reads written :=
  exists_getElem? builtin_rules_read.flip h

theorem exists_of_ofChars? {check : Pattern → Bool} {cs : List Char}
    (h : (Pattern.ofChars? cs).any check = true) :
    ∃ pattern, Pattern.ofText? (String.ofList cs) = some pattern ∧ check pattern = true := by
  rw [Pattern.ofText?_ofList]
  exact (Option.any_eq_true ..).1 h

/-- What has been checked of the first patterns, as they are written, is true of the first rules. -/
theorem check_of_rule {check : Nat → Pattern → Bool} {count : Nat}
    (hall : ∀ x ∈ (writtenRules.take count).zipIdx, ∃ pattern,
      Pattern.ofText? x.1.2 = some pattern ∧ check x.2 pattern = true)
    {n : Nat} (hn : n < count) {rule : Rule} (h : builtin.rules[n]? = some rule) : check n rule.pattern = true := by
  obtain ⟨written, hwritten, hreads⟩ := exists_written h
  have hmem : (written, n) ∈ (writtenRules.take count).zipIdx := by
    rw [List.mem_zipIdx_iff_getElem?, List.getElem?_take_of_lt hn]
    exact hwritten
  obtain ⟨pattern, hpattern, hcheck⟩ := hall _ hmem
  rw [hreads.pattern_eq] at hpattern
  exact Option.some.inj hpattern ▸ hcheck

/-- A written rule that finds something after all earlier ones found nothing. -/
theorem exists_firstMatch? {n : Nat} {entry : Entry} {source text : List Char} {groups : List (String × List Char)}
    (hlisted : writtenRules[n]? = some (entry, String.ofList source))
    (hearlier : ∀ written ∈ writtenRules.take n, ∃ pattern,
      Pattern.ofText? written.2 = some pattern ∧ pattern.find? text = none)
    (hfinds : ((Pattern.ofChars? source).bind fun pattern => pattern.find? text).map (·.groups) = some groups) :
    ∃ d m, d.entry = entry ∧ m.groups = groups ∧ builtin.firstMatch? text = some (d, m) := by
  obtain ⟨rule, hrule, hreads⟩ := exists_rule hlisted
  have hpattern := hreads.pattern_eq
  rw [Pattern.ofText?_ofList] at hpattern
  rw [hpattern, Option.bind_some] at hfinds
  obtain ⟨m, hm, hgroups⟩ := Option.map_eq_some_iff.1 hfinds
  refine ⟨rule.definition, m, hreads.entry_eq, hgroups, firstMatch?_of_earlier hrule (fun other hother => ?_) hm⟩
  obtain ⟨number, hnumber, hother⟩ := mem_take_iff_getElem?.1 hother
  obtain ⟨written, hwritten, hsame⟩ := exists_written hother
  obtain ⟨pattern, hread, hsilent⟩ := hearlier written (mem_take_iff_getElem?.2 ⟨number, hnumber, hwritten⟩)
  rw [hsame.pattern_eq] at hread
  rw [Rule.find?, Option.some.inj hread, hsilent, Option.map_none]

theorem silent_of_ofChars? {text cs : List Char}
    (h : (Pattern.ofChars? cs).any (fun pattern => (pattern.find? text).isNone) = true) :
    ∃ pattern, Pattern.ofText? (String.ofList cs) = some pattern ∧ pattern.find? text = none := by
  obtain ⟨pattern, hpattern, hsilent⟩ := exists_of_ofChars? h
  exact ⟨pattern, hpattern, Option.isNone_iff_eq_none.1 hsilent⟩

/-- What is recognized, a pattern of an entry finds. -/
theorem written_of_firstMatch? {text : List Char} {d : Definition} {m : Pattern.Match}
    (h : builtin.firstMatch? text = some (d, m)) :
    d.entry ∈ catalog ∧ ∃ source ∈ d.entry.patterns, ∃ pattern,
      Pattern.ofText? source = some pattern ∧ pattern.find? text = some m := by
  rw [firstMatch?_eq] at h
  obtain ⟨rule, hrule, hfind⟩ := List.exists_of_findSome?_eq_some h
  obtain ⟨m, hm, hpair⟩ := Option.map_eq_some_iff.1 hfind
  obtain ⟨rfl, rfl⟩ := Prod.mk.inj hpair
  obtain ⟨n, hn⟩ := List.mem_iff_getElem?.1 hrule
  obtain ⟨⟨entry, source⟩, hwritten, hreads⟩ := exists_written hn
  obtain ⟨other, hentry, hmem⟩ := List.mem_flatMap.1 (List.mem_of_getElem? hwritten)
  obtain ⟨_, hsource, hpair⟩ := List.mem_map.1 hmem
  obtain ⟨rfl, rfl⟩ := Prod.mk.inj hpair
  have hfrom : rule.definition.entry = other := hreads.entry_eq
  rw [hfrom]
  exact ⟨hentry, _, hsource, rule.pattern, hreads.pattern_eq, hm⟩

end Registry

end SimControl
