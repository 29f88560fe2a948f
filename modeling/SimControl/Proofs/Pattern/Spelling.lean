import SimControl.Proofs.Pattern.Leads

/-!
# Spelled words

A pattern of letters and alternatives stands for finitely many words (`spellings?`), and a way through it takes one
of them, in some case. If such a pattern is the body of a group that no way can do without (`records`), then every
match has a spelling of one of the words as the text of that group: `exists_spelled`.
-/

namespace SimControl.Pattern

open Position

/-! ## Words -/

/-- The words that a pattern of letters and alternatives stands for. -/
def spellings? : Pattern → Option (List (List Char))
  | .empty => some [[]]
  | .chars (.literal c) => some [[c]]
  | .seq a b => do
    let firsts ← a.spellings?
    let seconds ← b.spellings?
    return firsts.flatMap fun first => seconds.map (first ++ ·)
  | .alt a b => do
    let firsts ← a.spellings?
    let seconds ← b.spellings?
    return firsts ++ seconds
  | _ => none

/-- The word, each letter in some case. -/
def Spells (word cs : List Char) : Prop :=
  List.Forall₂ (fun a c => Text.sameLetter a c = true) word cs

theorem Leads.spells {pattern : Pattern} {words : List (List Char)} (h : pattern.spellings? = some words)
    {p q : Position} (hway : pattern.Leads p q) : ∃ word ∈ words, ∃ taken, Took taken p q ∧ Spells word taken := by
  induction pattern generalizing words p q with
  | empty =>
      obtain rfl := Option.some.inj h
      exact ⟨[], List.mem_singleton_self _, [], hway ▸ .refl p, .nil⟩
  | chars set =>
      cases set with
      | literal a =>
          obtain rfl := Option.some.inj h
          obtain ⟨c, rest, hrest, hc, rfl⟩ := hway
          exact ⟨[a], List.mem_singleton_self _, [c], .advance hrest, .cons hc .nil⟩
      | _ => cases h
  | seq a b iha ihb =>
      obtain ⟨firsts, hfirsts, h⟩ := Option.bind_eq_some_iff.1 h
      obtain ⟨seconds, hseconds, h⟩ := Option.bind_eq_some_iff.1 h
      obtain rfl := Option.some.inj h
      obtain ⟨mid, ha, hb⟩ := hway
      obtain ⟨first, hfirst, taken, htook, hspells⟩ := iha hfirsts ha
      obtain ⟨second, hsecond, more, hmore, hrest⟩ := ihb hseconds hb
      exact ⟨first ++ second, List.mem_flatMap.2 ⟨first, hfirst, List.mem_map.2 ⟨second, hsecond, rfl⟩⟩,
        taken ++ more, htook.trans hmore, List.rel_append hspells hrest⟩
  | alt a b iha ihb =>
      obtain ⟨firsts, hfirsts, h⟩ := Option.bind_eq_some_iff.1 h
      obtain ⟨seconds, hseconds, h⟩ := Option.bind_eq_some_iff.1 h
      obtain rfl := Option.some.inj h
      rcases hway with ha | hb
      · obtain ⟨word, hword, htaken⟩ := iha hfirsts ha
        exact ⟨word, List.mem_append_left _ hword, htaken⟩
      · obtain ⟨word, hword, htaken⟩ := ihb hseconds hb
        exact ⟨word, List.mem_append_right _ hword, htaken⟩
  | boundary | finish | many | oneOrMore | times | group => cases h

/-! ## Groups that are always recorded -/

/-- Every way records the group. -/
def records (name : String) : Pattern → Bool
  | .seq a b => a.records name || b.records name
  | .alt a b => a.records name && b.records name
  | .oneOrMore _ a => a.records name
  | .group other a => other == name || a.records name
  | _ => false

theorem Leads.groups_subset {pattern : Pattern} {p q : Position} (h : pattern.Leads p q) : p.groups ⊆ q.groups :=
  h.of_steps (S := fun p q => p.groups ⊆ q.groups) (fun _ => List.Subset.refl _) List.Subset.trans
    (fun _ => List.Subset.refl _) fun _ h => List.subset_cons_of_subset _ h

theorem Leads.recorded {name : String} {pattern : Pattern} (hrecords : pattern.records name = true) {p q : Position}
    (h : pattern.Leads p q) : ∃ cs, (name, cs) ∈ q.groups := by
  induction pattern generalizing p q with
  | seq a b iha ihb =>
      obtain ⟨mid, ha, hb⟩ := h
      rcases Bool.or_eq_true_iff.1 hrecords with hfirst | hsecond
      · obtain ⟨cs, hcs⟩ := iha hfirst ha
        exact ⟨cs, hb.groups_subset hcs⟩
      · exact ihb hsecond hb
  | alt a b iha ihb =>
      obtain ⟨hfirst, hsecond⟩ := Bool.and_eq_true_iff.1 hrecords
      exact h.elim (iha hfirst) (ihb hsecond)
  | oneOrMore greedy a ih =>
      obtain ⟨mid, hfirst, hmore⟩ := h
      obtain ⟨cs, hcs⟩ := ih hrecords hfirst
      have hrest : (many greedy a).Leads mid q := hmore
      exact ⟨cs, hrest.groups_subset hcs⟩
  | group other a ih =>
      obtain ⟨mid, ha, rfl⟩ := h
      rcases Bool.or_eq_true_iff.1 hrecords with hsame | hinner
      · obtain rfl := beq_iff_eq.1 hsame
        exact ⟨_, List.mem_cons_self⟩
      · obtain ⟨cs, hcs⟩ := ih hinner ha
        exact ⟨cs, List.mem_cons_of_mem _ hcs⟩
  | empty | chars | boundary | finish | many | times => cases hrecords

/-! ## Matches -/

/-- The text of a new group is a part of the text that lies ahead. -/
theorem Leads.groups_within {pattern : Pattern} {p q : Position} (h : pattern.Leads p q) :
    ∀ group ∈ q.groups, group ∈ p.groups ∨ group.2 <:+: p.rest := by
  refine (h.of_steps (S := fun p q => (∃ taken, Took taken p q) ∧
    ∀ group ∈ q.groups, group ∈ p.groups ∨ group.2 <:+: p.rest) (fun p => ⟨⟨[], .refl p⟩, fun _ => .inl⟩)
    ?_ (fun hrest => ⟨⟨_, .advance hrest⟩, fun _ => .inl⟩) ?_).2
  · rintro p q r ⟨⟨first, hpq⟩, hold⟩ ⟨⟨second, hqr⟩, hnew⟩
    refine ⟨⟨first ++ second, hpq.trans hqr⟩, fun group hgroup => ?_⟩
    rcases hnew group hgroup with hgroup | hwithin
    · exact hold group hgroup
    · exact .inr (hwithin.trans (hpq.rest ▸ (List.suffix_append first q.rest).isInfix))
  · rintro p q name ⟨⟨taken, htook⟩, hgroups⟩
    refine ⟨⟨taken, htook.record name⟩, fun group hgroup => ?_⟩
    rcases List.mem_cons.1 hgroup with rfl | hgroup
    · refine .inr ?_
      rw [htook.textTo, htook.rest]
      exact (List.prefix_append taken q.rest).isInfix
    · exact hgroups group hgroup

/-- A group that is always recorded has a text in every match. Where all its bodies spell one of some words, the text
is a spelling of one of them, and it is a part of the text that is searched. -/
theorem exists_spelled {pattern : Pattern} {name : String} {words : List (List Char)}
    (hrecords : pattern.records name = true)
    (hwords : ∀ capture ∈ pattern.captures, capture.1 = name → capture.2.spellings? = some words)
    {text : List Char} {m : Match} (h : pattern.find? text = some m) :
    ∃ cs, m.group? name = some cs ∧ cs <:+: text ∧ ∃ word ∈ words, Spells word cs := by
  obtain ⟨skipped, rest, rfl, q, hway, hgroups⟩ := leads_of_find? h
  obtain ⟨cs, hcs⟩ := hway.recorded hrecords
  obtain ⟨found, hfound⟩ : ∃ found, m.group? name = some found := by
    rw [Match.group?, hgroups, ← Option.isSome_iff_exists, List.lookup_isSome_iff]
    exact ⟨_, hcs, by simp⟩
  have hmem : (name, found) ∈ q.groups := hgroups ▸ mem_of_lookup hfound
  obtain ⟨body, hbody, a, b, hcaptured, htext⟩ := (hway.captures _ hmem).resolve_left List.not_mem_nil
  obtain ⟨word, hword, taken, htook, hspells⟩ := hcaptured.spells (hwords _ hbody rfl)
  have hwithin := (hway.groups_within _ hmem).resolve_left List.not_mem_nil
  refine ⟨found, hfound, hwithin.trans (List.suffix_append _ _).isInfix, word, hword, ?_⟩
  rwa [← show taken = found from htook.textTo.symm.trans htext]

end SimControl.Pattern
