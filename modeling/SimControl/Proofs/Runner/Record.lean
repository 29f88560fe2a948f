import Mathlib.Data.List.Nodup
import Mathlib.Data.List.Perm.Basic
import SimControl.Device.DryRun
import SimControl.Proofs.Dictionary
import SimControl.Proofs.Runner.History

/-!
# What a run records

`completions` lists the visits of a run in the order in which they are over: a command comes after all
that is below it and after all that is to the left of it. Of these visits the children of sequences are
recorded, each under its own identifier, and nothing else changes the context: `contextAfter_eq`, by
induction over the visits. `run_records` is what this means for look-ups.
-/

namespace SimControl

/-! ## Identifiers -/

namespace Command

def subcommands : Command → List Command
  | .leaf _ => []
  | .sequence _ _ _ children => children
  | .conditional _ _ _ ifTrue ifFalse => ifTrue :: ifFalse.toList

theorem child?_eq (c : Command) (i : Nat) : c.child? i = c.subcommands[i]? := by
  match c, i with
  | .leaf _, _ => rfl
  | .sequence _ _ _ _, _ => rfl
  | .conditional _ _ _ _ _, 0 => rfl
  | .conditional _ _ _ _ none, 1 => rfl
  | .conditional _ _ _ _ (some _), 1 => rfl
  | .conditional _ _ _ _ none, _ + 2 => rfl
  | .conditional _ _ _ _ (some _), _ + 2 => rfl

mutual

/-- The identifiers of a command and of all commands in it. -/
def ids : Command → List String
  | .leaf l => [l.id]
  | .sequence id _ _ children => id :: idsOfAll children
  | .conditional id _ _ ifTrue ifFalse => id :: (ids ifTrue ++ idsOfBranch ifFalse)

def idsOfAll : List Command → List String
  | [] => []
  | c :: rest => ids c ++ idsOfAll rest

def idsOfBranch : Option Command → List String
  | none => []
  | some branch => ids branch

end

theorem idsOfAll_eq : ∀ commands : List Command, idsOfAll commands = commands.flatMap ids
  | [] => rfl
  | c :: rest => by rw [idsOfAll, List.flatMap_cons, idsOfAll_eq rest]

theorem ids_eq (c : Command) : c.ids = c.id :: c.subcommands.flatMap ids := by
  match c with
  | .leaf _ => rfl
  | .sequence _ _ _ children => rw [ids, idsOfAll_eq]; rfl
  | .conditional _ _ _ _ none => simp [ids, idsOfBranch, subcommands, id]
  | .conditional _ _ _ _ (some _) => simp [ids, idsOfBranch, subcommands, id]

theorem id_mem_ids : ∀ (place : List Nat) {root c : Command}, root.at? place = some c → c.id ∈ root.ids
  | [], root, c, h => by
      rw [at?, Option.some.injEq] at h
      rw [ids_eq, h]
      exact List.mem_cons_self
  | i :: place, root, c, h => by
      rw [at?, Option.bind_eq_some_iff] at h
      obtain ⟨child, hchild, h⟩ := h
      rw [child?_eq] at hchild
      rw [ids_eq]
      exact List.mem_cons_of_mem _ (List.mem_flatMap.2
        ⟨child, List.mem_of_getElem? hchild, id_mem_ids place h⟩)

/-- If no identifier occurs twice, those of a command and of its parts are different. -/
theorem nodup_ids_iff (c : Command) : c.ids.Nodup ↔
    (∀ child ∈ c.subcommands, c.id ∉ child.ids ∧ child.ids.Nodup) ∧
      c.subcommands.Pairwise fun a b => List.Disjoint a.ids b.ids := by
  rw [ids_eq, List.nodup_cons, List.nodup_flatMap, List.mem_flatMap, not_exists]
  constructor
  · rintro ⟨hid, hnd, hdisjoint⟩
    exact ⟨fun child hchild => ⟨fun hmem => hid child ⟨hchild, hmem⟩, hnd child hchild⟩, hdisjoint⟩
  · rintro ⟨hchildren, hdisjoint⟩
    exact ⟨fun child hmem => (hchildren child hmem.1).1 hmem.2, fun child hchild => (hchildren child hchild).2,
      hdisjoint⟩

theorem id_ne_of_below {root c : Command} {i : Nat} {place : List Nat} (hnd : root.ids.Nodup)
    (h : root.at? (i :: place) = some c) : c.id ≠ root.id := by
  obtain ⟨child, hchild, h⟩ := Option.bind_eq_some_iff.1 h
  have hmem := List.mem_of_getElem? (child?_eq root i ▸ hchild)
  intro hid
  exact (((nodup_ids_iff root).1 hnd).1 child hmem).1 (hid ▸ id_mem_ids place h)

/-- If no identifier occurs twice, an identifier stands at one place only. -/
theorem place_eq_of_id_eq : ∀ {p q : List Nat} {root c d : Command}, root.ids.Nodup →
    root.at? p = some c → root.at? q = some d → c.id = d.id → p = q
  | [], [], _, _, _, _, _, _, _ => rfl
  | [], j :: q, root, c, d, hnd, hp, hq, hid => by
      obtain rfl := Option.some.inj hp
      exact absurd hid.symm (id_ne_of_below hnd hq)
  | i :: p, [], root, c, d, hnd, hp, hq, hid => by
      obtain rfl := Option.some.inj hq
      exact absurd hid (id_ne_of_below hnd hp)
  | i :: p, j :: q, root, c, d, hnd, hp, hq, hid => by
      obtain ⟨a, ha, hp⟩ := Option.bind_eq_some_iff.1 hp
      obtain ⟨b, hb, hq⟩ := Option.bind_eq_some_iff.1 hq
      rw [child?_eq] at ha hb
      obtain ⟨hi, ha⟩ := List.getElem?_eq_some_iff.1 ha
      obtain ⟨hj, hb⟩ := List.getElem?_eq_some_iff.1 hb
      obtain ⟨hchildren, hdisjoint⟩ := (nodup_ids_iff root).1 hnd
      rw [List.pairwise_iff_getElem] at hdisjoint
      have hida : d.id ∈ a.ids := hid ▸ id_mem_ids p hp
      have hidb : d.id ∈ b.ids := id_mem_ids q hq
      rcases Nat.lt_trichotomy i j with hlt | rfl | hlt
      · exact absurd (hb ▸ hidb) (hdisjoint i j hi hj hlt (ha ▸ hida))
      · obtain rfl : a = b := ha.symm.trans hb
        have hnodup := (hchildren a (ha ▸ List.getElem_mem hi)).2
        rw [place_eq_of_id_eq hnodup hp hq hid]
      · exact absurd (ha ▸ hida) (hdisjoint j i hj hi hlt (hb ▸ hidb))

/-! ## Children of sequences -/

def isSequence : Command → Bool
  | .sequence _ _ _ _ => true
  | _ => false

/-- Whether a place is that of a child of a sequence. -/
def isStep (root : Command) (place : List Nat) : Bool :=
  place != [] && (root.at? place.dropLast).any isSequence

theorem isStep_append {root c : Command} {place : List Nat} (h : root.at? place = some c) (i : Nat) :
    root.isStep (place ++ [i]) = c.isSequence := by
  simp [isStep, h]

end Command

/-! ## The order in which visits are over -/

/-- Whether what stands at the first place is over before what stands at the second one: it stands below
it, or to the left of it. -/
def OverBefore : List Nat → List Nat → Prop
  | [], _ => False
  | _ :: _, [] => True
  | i :: p, j :: q => i < j ∨ i = j ∧ OverBefore p q

theorem overBefore_append (place p q : List Nat) : OverBefore (place ++ p) (place ++ q) ↔ OverBefore p q := by
  induction place with
  | nil => rfl
  | cons i place ih => simp [OverBefore, ih]

theorem overBefore_of_below {place p : List Nat} {i : Nat} (h : place ++ [i] <+: p) : OverBefore p place := by
  obtain ⟨rest, rfl⟩ := h
  rw [List.append_assoc, List.singleton_append]
  have := (overBefore_append place (i :: rest) []).2 trivial
  rwa [List.append_nil] at this

theorem overBefore_of_left {place p q : List Nat} {i j : Nat} (hlt : i < j) (hp : place ++ [i] <+: p)
    (hq : place ++ [j] <+: q) : OverBefore p q := by
  obtain ⟨rest, rfl⟩ := hp
  obtain ⟨rest', rfl⟩ := hq
  rw [List.append_assoc, List.append_assoc, overBefore_append]
  exact .inl hlt

namespace Runner

variable {σ : Type} (r : Runner σ)

/-- All visits of the run of a command, each one after those of its children. -/
def completions (r : Runner σ) (v : Visit σ) : List (Visit σ) :=
  (r.children v).attach.flatMap (fun ⟨u, _⟩ => r.completions u) ++ [v]
termination_by sizeOf v.command
decreasing_by
  rename_i hu
  obtain ⟨i, -, hchild⟩ := r.child?_of_mem_children hu
  exact Command.sizeOf_child?_lt hchild

theorem completions_eq (v : Visit σ) : r.completions v = (r.children v).flatMap r.completions ++ [v] := by
  rw [completions, List.flatMap_subtype fun _ _ => rfl, List.unattach_attach]

theorem completions_perm (v : Visit σ) : (r.completions v).Perm (r.history v) := by
  induction v using r.visit_induction with
  | h v ih =>
      rw [completions_eq, history_eq]
      exact (List.perm_append_singleton v _).trans (.cons v (List.Perm.flatMap_left _ ih))

theorem place_prefix_of_mem_completions {u v : Visit σ} (h : u ∈ r.completions v) : v.place <+: u.place :=
  r.place_prefix_of_mem_history ((r.completions_perm v).mem_iff.1 h)

theorem leftToRight_childrenFrom (place : List Nat) (stopOnError : Bool) (commands : List Command)
    (context : Context) (w : World σ) :
    (r.childrenFrom place stopOnError 0 commands context w).Pairwise fun a b =>
      ∃ i j, i < j ∧ a.place = place ++ [i] ∧ b.place = place ++ [j] := by
  have hplaces := r.places_childrenFrom place stopOnError commands 0 context w
  generalize r.childrenFrom place stopOnError 0 commands context w = vs at *
  have hplace : ∀ k (hk : k < vs.length), vs[k].place = place ++ [k] := by
    intro k hk
    have := List.getElem_of_eq hplaces (show k < (vs.map (·.place)).length by simpa using hk)
    simpa using this
  rw [List.pairwise_iff_getElem]
  intro i j hi hj hlt
  exact ⟨i, j, hlt, hplace i hi, hplace j hj⟩

/-- The children of a visit stand from left to right. -/
theorem leftToRight_children (v : Visit σ) : (r.children v).Pairwise fun a b =>
    ∃ i j, i < j ∧ a.place = v.place ++ [i] ∧ b.place = v.place ++ [j] := by
  unfold children
  split
  · exact .nil
  · exact r.leftToRight_childrenFrom v.place _ _ v.context v.world
  · rename_i ifFalse _
    split
    · exact List.pairwise_singleton _ _
    · cases ifFalse with
      | none => exact .nil
      | some branch => exact List.pairwise_singleton _ _

/-- A completion comes after what is below it and what is to the left of it. -/
theorem pairwise_completions (v : Visit σ) :
    (r.completions v).Pairwise fun a b => OverBefore a.place b.place := by
  induction v using r.visit_induction with
  | h v ih =>
      rw [completions_eq, List.pairwise_append, List.pairwise_flatMap]
      refine ⟨⟨ih, (r.leftToRight_children v).imp ?_⟩, List.pairwise_singleton _ _, fun u hu w hw => ?_⟩
      · rintro k l ⟨i, j, hlt, hi, hj⟩ a ha b hb
        exact overBefore_of_left hlt (hi ▸ r.place_prefix_of_mem_completions ha)
          (hj ▸ r.place_prefix_of_mem_completions hb)
      · obtain ⟨k, hk, hu⟩ := List.mem_flatMap.1 hu
        obtain ⟨i, hplace, -⟩ := r.child?_of_mem_children hk
        rw [List.mem_singleton.1 hw]
        exact overBefore_of_below (hplace ▸ r.place_prefix_of_mem_completions hu)

/-! ## Records -/

/-- What the children of sequences among some visits are recorded as. -/
def records (root : Command) (visits : List (Visit σ)) : List (String × CommandResult) :=
  (visits.filter fun v => root.isStep v.place).map fun v => (v.command.id, r.result v)

theorem records_append (root : Command) (vs ws : List (Visit σ)) :
    r.records root (vs ++ ws) = r.records root vs ++ r.records root ws := by
  simp [records]

theorem records_singleton (root : Command) (v : Visit σ) :
    r.records root [v] = if root.isStep v.place then [(v.command.id, r.result v)] else [] := by
  by_cases h : root.isStep v.place = true <;> simp [records, h]

end Runner

/-- The context with more results recorded, one after the other. -/
def Context.recordAll (c : Context) (entries : List (String × CommandResult)) : Context :=
  { c with results := c.results.insertAll entries }

theorem Context.recordAll_append (c : Context) (xs ys : List (String × CommandResult)) :
    c.recordAll (xs ++ ys) = (c.recordAll xs).recordAll ys := by
  simp only [recordAll, Dictionary.insertAll_append]

theorem Context.record_eq (c : Context) (id : String) (result : CommandResult) :
    c.record id result = c.recordAll [(id, result)] := rfl

namespace Runner

variable {σ : Type} (r : Runner σ)

/-- A conditional is carried out as the only child that it runs, if it runs one. -/
theorem outcome_conditional {v : Visit σ} {id : String} {description : Option String}
    {condition : Context → Bool} {ifTrue : Command} {ifFalse : Option Command}
    (hv : v.command = .conditional id description condition ifTrue ifFalse) :
    (∃ u, r.children v = [u] ∧ u.context = v.context ∧ r.outcome v = r.outcome u) ∨
      r.children v = [] ∧ r.outcome v = (.noop, v.context, v.world) := by
  obtain ⟨place, command, context, w⟩ := v
  subst hv
  simp only [children, outcome, run]
  by_cases hcondition : condition context = true
  · rw [if_pos hcondition, if_pos hcondition]
    exact .inl ⟨_, rfl, rfl, rfl⟩
  · rw [if_neg hcondition, if_neg hcondition]
    cases ifFalse with
    | none => exact .inr ⟨rfl, rfl⟩
    | some branch => exact .inl ⟨_, rfl, rfl, rfl⟩

/-- If each child of a sequence leaves its records, then their records are what all of them leave. -/
theorem Consecutive.context {root : Command} {context context' : Context} {w w' : World σ}
    {vs : List (Visit σ)} (h : r.Consecutive context w vs context' w')
    (hstep : ∀ v ∈ vs, root.isStep v.place = true)
    (hvs : ∀ v ∈ vs, (r.outcome v).2.1 =
      v.context.recordAll (r.records root ((r.children v).flatMap r.completions))) :
    context' = context.recordAll (r.records root (vs.flatMap r.completions)) := by
  induction h with
  | nil => rfl
  | @cons v vs _ _ _ ih =>
      rw [List.forall_mem_cons] at hstep hvs
      rw [ih hstep.2 hvs.2, recorded, hvs.1, Context.record_eq, List.flatMap_cons, records_append,
        Context.recordAll_append, completions_eq, records_append, Context.recordAll_append, records_singleton,
        if_pos hstep.1]

/-- A run changes the context by its records and by nothing else. -/
theorem contextAfter_eq (root : Command) {v : Visit σ} : root.at? v.place = some v.command →
    (r.outcome v).2.1 = v.context.recordAll (r.records root ((r.children v).flatMap r.completions)) := by
  induction v using r.visit_induction with
  | h v ih =>
      intro hv
      have hchild : ∀ u ∈ r.children v, root.at? u.place = some u.command ∧
          root.isStep u.place = v.command.isSequence := by
        intro u hu
        obtain ⟨i, hplace, hchild⟩ := r.child?_of_mem_children hu
        rw [hplace, Command.at?_append, hv]
        exact ⟨hchild, Command.isStep_append hv i⟩
      match hcommand : v.command with
      | .leaf leaf => simp [outcome, run, children, hcommand, records, Context.recordAll, Dictionary.insertAll]
      | .sequence id description stopOnError commands =>
          obtain ⟨context', w', hchildren, hrun⟩ :=
            r.runAll_childrenFrom v.place stopOnError commands 0 .noop v.context v.world
          have hcs : r.children v = r.childrenFrom v.place stopOnError 0 commands v.context v.world := by
            rw [children, hcommand]
          rw [← hcs] at hchildren
          rw [outcome, hcommand, run, hrun]
          refine hchildren.context r (fun u hu => ?_) fun u hu => ih u hu (hchild u hu).1
          rw [(hchild u hu).2, hcommand]
          rfl
      | .conditional id description condition ifTrue ifFalse =>
          rcases r.outcome_conditional hcommand with ⟨u, hchildren, hcontext, houtcome⟩ | ⟨hchildren, houtcome⟩
          · have hu : u ∈ r.children v := hchildren ▸ List.mem_singleton_self u
            have hstep : root.isStep u.place = false := by
              rw [(hchild u hu).2, hcommand]
              rfl
            rw [houtcome, ih u hu (hchild u hu).1, hcontext, hchildren, List.flatMap_singleton, r.completions_eq u,
              records_append, records_singleton, hstep, if_neg Bool.false_ne_true, List.append_nil]
          · rw [houtcome, hchildren]
            rfl

/-! ## Look-ups after a run -/

theorem mem_records {root : Command} {visits : List (Visit σ)} {v : Visit σ} (hv : v ∈ visits)
    (hstep : root.isStep v.place = true) : (v.command.id, r.result v) ∈ r.records root visits :=
  List.mem_map.2 ⟨v, List.mem_filter.2 ⟨hv, hstep⟩, rfl⟩

/-- A command that runs a child without recording it has the child's result. -/
theorem result_of_mem_children {v u : Visit σ} (hu : u ∈ r.children v) (hv : v.command.isSequence = false) :
    r.result v = r.result u := by
  match hcommand : v.command with
  | .leaf _ => simp [children, hcommand] at hu
  | .sequence _ _ _ _ => simp [hcommand, Command.isSequence] at hv
  | .conditional _ _ _ _ _ =>
      rcases r.outcome_conditional hcommand with ⟨k, hchildren, -, houtcome⟩ | ⟨hchildren, -⟩
      · rw [hchildren, List.mem_singleton] at hu
        rw [result, houtcome, hu, result]
      · simp [hchildren] at hu

theorem mem_completions_of_mem_children {v u k : Visit σ} (hu : u ∈ r.completions v) (hk : k ∈ r.children u) :
    k ∈ r.completions v := by
  rw [(r.completions_perm v).mem_iff] at hu ⊢
  have hmem : k ∈ r.history u := r.mem_history.2 (.inr ⟨k, hk, r.mem_history.2 (.inl rfl)⟩)
  rw [← r.filter_history hu] at hmem
  exact (List.mem_filter.1 hmem).1

/-- In a tree in which no identifier occurs twice none is recorded twice. -/
theorem nodup_records {root : Command} (hnd : root.ids.Nodup) {v : Visit σ}
    (hv : root.at? v.place = some v.command) : ((r.records root (r.completions v)).map (·.1)).Nodup := by
  have hplaces : (r.completions v).Pairwise fun a b => a.place ≠ b.place :=
    ((r.completions_perm v).pairwise_iff fun h => h.symm).2 (r.pairwise_history v)
  have hat : ∀ u ∈ (r.completions v).filter (fun u => root.isStep u.place), root.at? u.place = some u.command :=
    fun u hu => r.at?_of_mem_history root hv ((r.completions_perm v).mem_iff.1 (List.mem_filter.1 hu).1)
  rw [records, List.map_map, List.Nodup, List.pairwise_map]
  refine (hplaces.filter _).imp_of_mem fun {a b} ha hb hne hid => ?_
  exact hne (Command.place_eq_of_id_eq hnd (hat a ha) (hat b hb) hid)

/-- What a run leaves in the context. It inserts the results of the children of sequences that it comes
to, at every depth, in the order in which they are over, and changes nothing else; a conditional has the
result of its branch. If no identifier occurs twice in the tree, each of these results is found again. -/
theorem run_records (root : Command) (context : Context) (w : World σ) :
    let visits := r.completions ⟨[], root, context, w⟩
    let steps := visits.filter fun v => root.isStep v.place
    let after := (r.run root context w).2.1
    visits.Perm (r.history ⟨[], root, context, w⟩) ∧
    visits.Pairwise (fun a b => OverBefore a.place b.place) ∧
    (∀ v ∈ visits, root.at? v.place = some v.command ∧
      ∀ u ∈ r.children v, u ∈ visits ∧ (v.command.isSequence = false → r.result v = r.result u)) ∧
    after = { context with
      results := context.results.insertAll (steps.map fun v => (v.command.id, r.result v)) } ∧
    (∀ id, (∀ v ∈ steps, v.command.id ≠ id) → after.result? id = context.result? id) ∧
    (root.ids.Nodup → ∀ v ∈ steps, after.result? v.command.id = some (r.result v) ∧
      (after.succeeded v.command.id = true ↔ (r.result v).success = true)) := by
  intro visits steps after
  have hafter : after = context.recordAll (r.records root visits) := by
    have hroot : r.records root visits =
        r.records root ((r.children ⟨[], root, context, w⟩).flatMap r.completions) := by
      rw [show visits = _ from r.completions_eq _, records_append, records_singleton]
      exact List.append_nil _
    rw [hroot]
    exact r.contextAfter_eq root (v := ⟨[], root, context, w⟩) rfl
  refine ⟨r.completions_perm _, r.pairwise_completions _, fun v hv => ⟨?_, fun u hu => ⟨?_, ?_⟩⟩, hafter,
    fun id hid => ?_, fun hnd v hv => ?_⟩
  · exact r.at?_of_mem_history root rfl ((r.completions_perm _).mem_iff.1 hv)
  · exact r.mem_completions_of_mem_children hv hu
  · exact r.result_of_mem_children hu
  · rw [hafter]
    refine Dictionary.get?_insertAll_of_not_mem (fun hmem => ?_) context.results
    obtain ⟨entry, hentry, rfl⟩ := List.mem_map.1 hmem
    obtain ⟨v, hv, rfl⟩ := List.mem_map.1 hentry
    exact hid v hv rfl
  · obtain ⟨hmem, hstep⟩ := List.mem_filter.1 hv
    have hfound : after.result? v.command.id = some (r.result v) := by
      rw [hafter]
      exact Dictionary.get?_insertAll_of_mem (r.nodup_records hnd rfl) (r.mem_records hmem hstep) _
    rw [Context.succeeded, hfound]
    exact ⟨rfl, Iff.rfl⟩

/-- A sequence in a branch in a sequence. Its first leaf fails its check and is recorded, its second one is
skipped, so that the older result under its identifier stays. -/
theorem run_records_skipped_child :
    let r : Runner DryRun.Journal := { backend := DryRun.backend, registry := .empty }
    let refused : Leaf :=
      { id := "refused", kind := .focusSimulator, params := .empty, validate := some fun _ _ => false }
    let skipped : Leaf := { id := "skipped", kind := .focusSimulator, params := .empty }
    let inner : Command := .sequence "inner" none true [.leaf refused, .leaf skipped]
    let choice : Command := .conditional "choice" none (fun _ => true) inner none
    let root : Command := .sequence "outer" none false [choice]
    let context := (({} : Context).record "skipped" .noop).record "elsewhere" .noop
    let after := (r.run root context ⟨[], 0, []⟩).2.1
    let v : Visit DryRun.Journal := ⟨[0, 0, 0], .leaf refused, context, ⟨[], 0, []⟩⟩
    root.ids.Nodup ∧ after.result? "refused" = some (r.result v) ∧
      (after.succeeded "refused" = true ↔ (r.result v).success = true) ∧ after.succeeded "choice" = false ∧
      after.result? "elsewhere" = some .noop ∧ after.succeeded "skipped" = true := by
  intro r refused skipped inner choice root context after v
  let innerVisit : Visit DryRun.Journal := ⟨[0, 0], inner, context, ⟨[], 0, []⟩⟩
  let choiceVisit : Visit DryRun.Journal := ⟨[0], choice, context, ⟨[], 0, []⟩⟩
  have hnd : root.ids.Nodup := by decide
  have hinner : v ∈ r.history innerVisit := r.mem_history.2 (.inr ⟨v, .head _, r.mem_history.2 (.inl rfl)⟩)
  have hchoice : v ∈ r.history choiceVisit := r.mem_history.2 (.inr ⟨innerVisit, .head _, hinner⟩)
  have hv : v ∈ r.history ⟨[], root, context, ⟨[], 0, []⟩⟩ :=
    r.mem_history.2 (.inr ⟨choiceVisit, .head _, hchoice⟩)
  obtain ⟨hperm, -, hat, -, hother, hfound⟩ := r.run_records root context ⟨[], 0, []⟩
  obtain ⟨hrefused, hsucceeded⟩ := hfound hnd v (List.mem_filter.2 ⟨hperm.mem_iff.2 hv, by decide⟩)
  refine ⟨hnd, hrefused, hsucceeded, by decide, (hother "elsewhere" fun u hu hid => ?_).trans rfl,
    by decide⟩
  have hmem := Command.id_mem_ids u.place (hat u (List.mem_filter.1 hu).1).1
  rw [hid] at hmem
  exact absurd hmem (by decide)

end Runner

end SimControl
