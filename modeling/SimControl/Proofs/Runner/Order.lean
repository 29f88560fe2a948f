import SimControl.Proofs.Runner.History

/-!
# The order of execution

`run_obeys` says what a run comes to at every depth of a tree: which branch of a conditional, which
children of a sequence, in which order, and with which result. `calls_history` says that a run calls
the backend for the leaves that it comes to and for nothing else.
-/

namespace SimControl.Runner

variable {σ : Type} (r : Runner σ)

/-! ## Calls -/

/-- The calls that a visited leaf adds. Other commands add none of their own. -/
def callsOf (v : Visit σ) : List Call :=
  match v.command with
  | .leaf _ => (r.worldAfter v).calls.drop v.world.calls.length
  | _ => []

theorem Consecutive.calls {context context' : Context} {w w' : World σ} {vs : List (Visit σ)}
    (h : r.Consecutive context w vs context' w')
    (hcalls : ∀ v ∈ vs, (r.worldAfter v).calls = v.world.calls ++ (r.history v).flatMap r.callsOf) :
    w'.calls = w.calls ++ (vs.flatMap r.history).flatMap r.callsOf := by
  induction h with
  | nil => simp
  | cons v _ ih =>
      rw [ih fun u hu => hcalls u (List.mem_cons_of_mem v hu), hcalls v List.mem_cons_self, List.flatMap_cons,
        List.flatMap_append, List.append_assoc]

/-- A run makes the calls of the leaves it comes to, in the order in which it comes to them. -/
theorem calls_history (v : Visit σ) :
    (r.worldAfter v).calls = v.world.calls ++ (r.history v).flatMap r.callsOf := by
  induction v using r.visit_induction with
  | h v ih =>
      obtain ⟨place, command, context, w⟩ := v
      rw [history_eq, List.flatMap_cons]
      match command with
      | .leaf leaf =>
          obtain ⟨added, hadded⟩ := r.runLeaf_calls leaf context w
          simp [children, callsOf, worldAfter, outcome, run, ← hadded]
      | .sequence id description stopOnError commands =>
          obtain ⟨context', w', hchildren, hrun⟩ :=
            r.runAll_childrenFrom place stopOnError commands 0 .noop context w
          simp only [worldAfter, outcome, run, hrun, callsOf, List.nil_append]
          exact hchildren.calls r ih
      | .conditional id description condition ifTrue ifFalse =>
          have hone : ∀ (i : Nat) (branch : Command),
              r.children ⟨place, .conditional id description condition ifTrue ifFalse, context, w⟩ =
                [⟨place ++ [i], branch, context, w⟩] →
              (r.run branch context w).2.2.calls = w.calls ++ ((r.children
                ⟨place, .conditional id description condition ifTrue ifFalse, context, w⟩).flatMap
                  r.history).flatMap r.callsOf := by
            intro i branch hchildren
            have := ih ⟨place ++ [i], branch, context, w⟩ (by rw [hchildren]; exact List.mem_singleton_self _)
            rw [hchildren, List.flatMap_singleton]
            exact this
          simp only [worldAfter, outcome, run, callsOf, List.nil_append]
          by_cases hcondition : condition context = true
          · rw [if_pos hcondition]
            exact hone 0 ifTrue (by simp [children, hcondition, Visit.child])
          · rw [if_neg hcondition]
            cases ifFalse with
            | none => simp [runBranch, children, hcondition]
            | some branch =>
                rw [runBranch]
                exact hone 1 branch (by simp [children, hcondition, Visit.child])

/-! ## Commands at every depth -/

/-- None of the visits is in the child of `v` with the number `i`. -/
def Avoids (v : Visit σ) (i : Nat) (visits : List (Visit σ)) : Prop :=
  ∀ u ∈ visits, ¬ v.place ++ [i] <+: u.place

/-- How a visited command is carried out, where `below` is what the history has at its place and below:

* a conditional looks at its context as it is then and runs one branch, or none;
* a sequence runs its children one after the other, each once, and reports the last result;
* only one that stops on errors may leave out children, namely those after the first failure. -/
def Obeys (v : Visit σ) (below : List (Visit σ)) : Prop :=
  match v.command with
  | .leaf leaf => below = [v] ∧ (r.result v, r.worldAfter v) = r.runLeaf leaf v.context v.world
  | .conditional _ _ condition ifTrue ifFalse =>
    if condition v.context then
      below = v :: r.history (v.child 0 ifTrue) ∧ Avoids v 1 below ∧
        r.outcome v = r.run ifTrue v.context v.world
    else
      match ifFalse with
      | some branch =>
        below = v :: r.history (v.child 1 branch) ∧ Avoids v 0 below ∧
          r.outcome v = r.run branch v.context v.world
      | none => below = [v] ∧ r.outcome v = (.noop, v.context, v.world)
  | .sequence _ _ stopOnError commands =>
    ∃ ran context w,
      below = v :: ran.flatMap r.history ∧
      ran.map (·.command) = commands.take ran.length ∧
      ran.map (·.place) = (List.range ran.length).map (fun i => v.place ++ [i]) ∧
      r.Consecutive v.context v.world ran context w ∧
      r.outcome v = ((ran.getLast?.map r.result).getD .noop, context, w) ∧
      (stopOnError = false → ran.length = commands.length) ∧
      (stopOnError = true → (∀ u ∈ ran.dropLast, (r.result u).success = true) ∧
        (ran.length < commands.length → ∃ u, ran.getLast? = some u ∧ (r.result u).success = false)) ∧
      ∀ i, ran.length ≤ i → Avoids v i below

/-- What is below one child is not in another one. -/
theorem avoids_history {v u : Visit σ} {i j : Nat} (hu : u.place = v.place ++ [i]) (hne : i ≠ j) :
    Avoids v j (r.history u) := by
  intro x hx hprefix
  have hplace := r.place_prefix_of_mem_history hx
  have hlength : u.place.length = (v.place ++ [j]).length := by simp [hu]
  have heq := (List.prefix_of_prefix_length_le hplace hprefix (Nat.le_of_eq hlength)).eq_of_length hlength
  rw [hu, List.append_cancel_left_eq, List.cons.injEq] at heq
  exact hne heq.1

theorem avoids_cons {v : Visit σ} {i : Nat} {visits : List (Visit σ)} (h : Avoids v i visits) :
    Avoids v i (v :: visits) := by
  refine List.forall_mem_cons.2 ⟨fun hprefix => ?_, h⟩
  have := hprefix.length_le
  rw [List.length_append, List.length_singleton] at this
  omega

theorem obeys_history (v : Visit σ) : r.Obeys v (r.history v) := by
  obtain ⟨place, command, context, w⟩ := v
  match command with
  | .leaf leaf =>
      simp only [Obeys]
      rw [history_eq]
      exact ⟨by simp [children], by simp [result, worldAfter, outcome, run]⟩
  | .conditional id description condition ifTrue ifFalse =>
      simp only [Obeys]
      rw [history_eq]
      by_cases hcondition : condition context = true
      · rw [if_pos hcondition]
        simp only [children, hcondition, if_true, List.flatMap_singleton, true_and]
        exact ⟨avoids_cons (r.avoids_history rfl (by decide)), by simp [outcome, run, hcondition]⟩
      · rw [if_neg hcondition]
        cases ifFalse with
        | none => exact ⟨by simp [children, hcondition], by simp [outcome, run, hcondition, runBranch]⟩
        | some branch =>
            simp only [children, if_neg hcondition, Option.map_some, Option.toList_some, List.flatMap_singleton,
              true_and]
            exact ⟨avoids_cons (r.avoids_history rfl (by decide)),
              by simp [outcome, run, hcondition, runBranch]⟩
  | .sequence id description stopOnError commands =>
      simp only [Obeys]
      obtain ⟨context', w', hran, hrun⟩ := r.runAll_childrenFrom place stopOnError commands 0 .noop context w
      have hplaces := r.places_childrenFrom place stopOnError commands 0 context w
      simp only [Nat.zero_add] at hplaces
      refine ⟨r.childrenFrom place stopOnError 0 commands context w, context', w', r.history_eq _,
        r.commands_childrenFrom place stopOnError commands 0 context w, hplaces, hran, ?_, ?_, ?_, ?_⟩
      · rw [outcome, run, hrun]
      · rintro rfl
        exact r.length_childrenFrom place commands 0 context w
      · rintro rfl
        exact r.stops_childrenFrom place commands 0 context w
      · intro i hi
        rw [history_eq]
        refine avoids_cons fun u hu => ?_
        obtain ⟨k, hk, hu⟩ := List.mem_flatMap.1 hu
        have hplace := List.mem_map_of_mem (f := (·.place)) hk
        simp only [children] at hplace
        rw [hplaces] at hplace
        obtain ⟨j, hj, hplace⟩ := List.mem_map.1 hplace
        have hne : j ≠ i := by
          have := List.mem_range.1 hj
          omega
        exact r.avoids_history hplace.symm hne u hu

/-- A run of a tree comes to the root first and to no place twice. It calls the backend for the leaves
that it comes to, in this order, and for nothing else. Each command that it comes to, at any depth, is
the one that stands there and is carried out as `Obeys` says. -/
theorem run_obeys (root : Command) (context : Context) (w : World σ) :
    let visits := r.history ⟨[], root, context, w⟩
    visits.head? = some ⟨[], root, context, w⟩ ∧
    visits.Pairwise (fun a b => a.place ≠ b.place) ∧
    (r.run root context w).2.2.calls = w.calls ++ visits.flatMap r.callsOf ∧
    ∀ v ∈ visits, root.at? v.place = some v.command ∧ r.Obeys v (visits.filter v.covers) := by
  intro visits
  refine ⟨by simp only [visits, history_eq, List.head?_cons], r.pairwise_history _,
    r.calls_history ⟨[], root, context, w⟩, ?_⟩
  intro v hv
  refine ⟨r.at?_of_mem_history root rfl hv, ?_⟩
  rw [r.filter_history hv]
  exact r.obeys_history v

def readyDevice : Backend Unit := fun _ _ => ⟨0, .replied .null, (), ()⟩

/-- A sequence in a conditional in a sequence, of which the first leaf fails its check. -/
theorem run_obeys_failed_check :
    let r : Runner Unit := { backend := readyDevice, registry := .empty }
    let refused : Leaf :=
      { id := "refused", kind := .focusSimulator, params := .empty, validate := some fun _ _ => false }
    let second : Leaf := { id := "second", kind := .focusSimulator, params := .empty }
    let inner : Command := .sequence "inner" none true [.leaf refused, .leaf second]
    let choice : Command := .conditional "choice" none (fun c => !c.succeeded "inner") inner none
    let root : Command := .sequence "outer" none false [choice, .leaf second]
    let v : Visit Unit := ⟨[0, 0], inner, {}, ⟨(), 0, []⟩⟩
    let visits := r.history ⟨[], root, {}, ⟨(), 0, []⟩⟩
    v ∈ visits ∧ root.at? v.place = some v.command ∧ r.Obeys v (visits.filter v.covers) ∧
      (r.result v).success = false ∧ (r.worldAfter v).calls = [] ∧
      (r.run root {} ⟨(), 0, []⟩).2.2.calls = [⟨.focus, ""⟩] := by
  intro r refused second inner choice root v visits
  let chosen : Visit Unit := ⟨[0], choice, {}, ⟨(), 0, []⟩⟩
  have hchosen : v ∈ r.history chosen := r.mem_history.2 (.inr ⟨v, .head _, r.mem_history.2 (.inl rfl)⟩)
  have hv : v ∈ visits := r.mem_history.2 (.inr ⟨chosen, .head _, hchosen⟩)
  obtain ⟨hplace, hobeys⟩ := (r.run_obeys root {} ⟨(), 0, []⟩).2.2.2 v hv
  exact ⟨hv, hplace, hobeys, by decide +kernel, by decide +kernel, by decide +kernel⟩

end SimControl.Runner
