import SimControl.Proofs.Runner.Leaf

/-!
# The history of a run

A `Visit` is a command that a run comes to, with its place in the tree and the context and the world
in which it begins. The `history` of a visit lists all visits of its run, in order: first the visit
itself, then the histories of the children that are run.
-/

namespace SimControl

/-! ## Places -/

namespace Command

/-- The child with a number. The branches of a conditional have the numbers 0 and 1. -/
def child? : Command → Nat → Option Command
  | .sequence _ _ _ children, i => children[i]?
  | .conditional _ _ _ ifTrue _, 0 => some ifTrue
  | .conditional _ _ _ _ ifFalse, 1 => ifFalse
  | _, _ => none

/-- The command at a place, which is the way to it from the root. -/
def at? : Command → List Nat → Option Command
  | c, [] => some c
  | c, i :: place => (c.child? i).bind fun child => child.at? place

theorem at?_append (i : Nat) : ∀ (place : List Nat) (root : Command),
    root.at? (place ++ [i]) = (root.at? place).bind (·.child? i)
  | [], root => by simp [at?]
  | j :: place, root => by
      rw [List.cons_append, at?, at?, Option.bind_assoc]
      congr 1
      funext child
      exact at?_append i place child

theorem sizeOf_child?_lt {c child : Command} {i : Nat} (h : c.child? i = some child) :
    sizeOf child < sizeOf c := by
  match c, i with
  | .leaf _, _ => cases h
  | .sequence id description stopOnError children, i =>
      have hlt : sizeOf child < sizeOf children := List.sizeOf_lt_of_mem (List.mem_of_getElem? h)
      simp only [sequence.sizeOf_spec]
      omega
  | .conditional id description condition ifTrue ifFalse, 0 =>
      obtain rfl := Option.some.inj h
      simp only [conditional.sizeOf_spec]
      omega
  | .conditional id description condition ifTrue ifFalse, 1 =>
      obtain rfl : ifFalse = some child := h
      simp only [conditional.sizeOf_spec, Option.some.sizeOf_spec]
      omega
  | .conditional _ _ _ _ _, _ + 2 => cases h

end Command

/-! ## Visits -/

structure Visit (σ : Type) where
  place : List Nat
  command : Command
  context : Context
  world : World σ

/-- The visit of a child that begins as this one does. -/
def Visit.child {σ : Type} (v : Visit σ) (i : Nat) (command : Command) : Visit σ :=
  { v with place := v.place ++ [i], command }

/-- The second visit has the place of the first one, or one below it. -/
def Visit.covers {σ : Type} (v u : Visit σ) : Bool :=
  v.place.isPrefixOf u.place

theorem Visit.covers_iff {σ : Type} {v u : Visit σ} : v.covers u = true ↔ v.place <+: u.place :=
  List.isPrefixOf_iff_prefix

namespace Runner

variable {σ : Type} (r : Runner σ)

def outcome (v : Visit σ) : CommandResult × Context × World σ :=
  r.run v.command v.context v.world

def result (v : Visit σ) : CommandResult :=
  (r.outcome v).1

/-- The context after a child of a sequence. -/
def recorded (v : Visit σ) : Context :=
  (r.outcome v).2.1.record v.command.id (r.result v)

def worldAfter (v : Visit σ) : World σ :=
  (r.outcome v).2.2

/-- The visits of the children of a sequence, of which the first has the number `i`. -/
def childrenFrom (place : List Nat) (stopOnError : Bool) :
    Nat → List Command → Context → World σ → List (Visit σ)
  | _, [], _, _ => []
  | i, child :: rest, context, w =>
    let v : Visit σ := ⟨place ++ [i], child, context, w⟩
    v :: if stopOnError && !(r.result v).success then []
      else childrenFrom place stopOnError (i + 1) rest (r.recorded v) (r.worldAfter v)

/-- The visits of the children that a command runs. -/
def children (v : Visit σ) : List (Visit σ) :=
  match v.command with
  | .leaf _ => []
  | .sequence _ _ stopOnError commands => r.childrenFrom v.place stopOnError 0 commands v.context v.world
  | .conditional _ _ condition ifTrue ifFalse =>
    if condition v.context then [v.child 0 ifTrue] else (ifFalse.map (v.child 1)).toList

theorem mem_of_mem_childrenFrom {place : List Nat} {stopOnError : Bool} {u : Visit σ} :
    ∀ {commands : List Command} {i : Nat} {context : Context} {w : World σ},
      u ∈ r.childrenFrom place stopOnError i commands context w →
      ∃ j, u.place = place ++ [i + j] ∧ commands[j]? = some u.command
  | child :: rest, i, context, w, h => by
      rw [childrenFrom] at h
      rcases List.mem_cons.1 h with rfl | h
      · exact ⟨0, rfl, rfl⟩
      · split at h
        · cases h
        · obtain ⟨j, hplace, hcommand⟩ := mem_of_mem_childrenFrom h
          exact ⟨j + 1, by rw [hplace, Nat.add_assoc, Nat.add_comm 1], hcommand⟩

/-- A visited child stands right below its parent. -/
theorem child?_of_mem_children {v u : Visit σ} (h : u ∈ r.children v) :
    ∃ i, u.place = v.place ++ [i] ∧ v.command.child? i = some u.command := by
  obtain ⟨place, command, context, w⟩ := v
  unfold children at h
  match command with
  | .leaf _ => cases h
  | .sequence _ _ _ commands =>
      obtain ⟨j, hplace, hcommand⟩ := mem_of_mem_childrenFrom r h
      exact ⟨j, by rw [hplace, Nat.zero_add], hcommand⟩
  | .conditional _ _ condition ifTrue ifFalse =>
      simp only at h
      split at h
      · rw [List.mem_singleton.1 h]
        exact ⟨0, rfl, rfl⟩
      · cases ifFalse with
        | none => cases h
        | some branch =>
            rw [List.mem_singleton.1 h]
            exact ⟨1, rfl, rfl⟩

/-- All visits of the run of a command, each one before those of its children. -/
def history (r : Runner σ) (v : Visit σ) : List (Visit σ) :=
  v :: (r.children v).attach.flatMap fun ⟨u, _⟩ => r.history u
termination_by sizeOf v.command
decreasing_by
  rename_i hu
  obtain ⟨i, -, hchild⟩ := r.child?_of_mem_children hu
  exact Command.sizeOf_child?_lt hchild

theorem history_eq (v : Visit σ) : r.history v = v :: (r.children v).flatMap r.history := by
  rw [history, List.flatMap_subtype fun _ _ => rfl, List.unattach_attach]

/-- What holds of a visit if it holds of its children holds of all visits. -/
theorem visit_induction {P : Visit σ → Prop} (h : ∀ v, (∀ u ∈ r.children v, P u) → P v) (v : Visit σ) :
    P v := by
  induction v using history.induct r with
  | case1 v ih => exact h v ih

theorem mem_history {u v : Visit σ} : u ∈ r.history v ↔ u = v ∨ ∃ k ∈ r.children v, u ∈ r.history k := by
  rw [history_eq, List.mem_cons, List.mem_flatMap]

/-! ## Places of visits -/

theorem place_prefix_of_mem_history {u v : Visit σ} : u ∈ r.history v → v.place <+: u.place := by
  induction v using r.visit_induction with
  | h v ih =>
      intro h
      rcases r.mem_history.1 h with rfl | ⟨k, hk, hu⟩
      · exact List.prefix_rfl
      · obtain ⟨i, hplace, -⟩ := r.child?_of_mem_children hk
        exact (hplace ▸ List.prefix_append v.place [i]).trans (ih k hk hu)

/-- A visit is of the command that stands at its place. -/
theorem at?_of_mem_history (root : Command) {u v : Visit σ} :
    root.at? v.place = some v.command → u ∈ r.history v → root.at? u.place = some u.command := by
  induction v using r.visit_induction with
  | h v ih =>
      intro hv h
      rcases r.mem_history.1 h with rfl | ⟨k, hk, hu⟩
      · exact hv
      · obtain ⟨i, hplace, hchild⟩ := r.child?_of_mem_children hk
        refine ih k hk ?_ hu
        rw [hplace, Command.at?_append, hv]
        exact hchild

theorem pairwise_childrenFrom (place : List Nat) (stopOnError : Bool) :
    ∀ (commands : List Command) (i : Nat) (context : Context) (w : World σ),
      (r.childrenFrom place stopOnError i commands context w).Pairwise fun a b => a.place ≠ b.place
  | [], _, _, _ => .nil
  | child :: rest, i, context, w => by
      rw [childrenFrom, List.pairwise_cons]
      constructor
      · intro u hu
        split at hu
        · cases hu
        · obtain ⟨j, hplace, -⟩ := r.mem_of_mem_childrenFrom hu
          rw [hplace]
          simp only [ne_eq, List.append_cancel_left_eq, List.cons.injEq, and_true]
          omega
      · split
        · exact .nil
        · exact pairwise_childrenFrom place stopOnError rest (i + 1) _ _

theorem pairwise_children (v : Visit σ) : (r.children v).Pairwise fun a b => a.place ≠ b.place := by
  unfold children
  split
  · exact .nil
  · exact r.pairwise_childrenFrom v.place _ _ 0 v.context v.world
  · rename_i ifFalse _
    split
    · exact List.pairwise_singleton _ _
    · cases ifFalse with
      | none => exact .nil
      | some branch => exact List.pairwise_singleton _ _

/-- Nothing stands below two children. -/
theorem not_prefix_of_ne {v k l : Visit σ} (hk : k ∈ r.children v) (hl : l ∈ r.children v)
    (hne : k.place ≠ l.place) {place : List Nat} (hplace : k.place <+: place) : ¬ l.place <+: place := by
  intro hprefix
  obtain ⟨i, hi, -⟩ := r.child?_of_mem_children hk
  obtain ⟨j, hj, -⟩ := r.child?_of_mem_children hl
  have hlength : k.place.length = l.place.length := by rw [hi, hj]; simp
  exact hne ((List.prefix_of_prefix_length_le hplace hprefix (Nat.le_of_eq hlength)).eq_of_length hlength)

theorem not_prefix_parent {v k : Visit σ} (hk : k ∈ r.children v) {place : List Nat}
    (hplace : k.place <+: place) : ¬ place <+: v.place := by
  intro hprefix
  obtain ⟨i, hi, -⟩ := r.child?_of_mem_children hk
  have hlength := (hplace.trans hprefix).length_le
  rw [hi, List.length_append, List.length_singleton] at hlength
  omega

/-- A run comes to no place twice. -/
theorem pairwise_history (v : Visit σ) : (r.history v).Pairwise fun a b => a.place ≠ b.place := by
  induction v using r.visit_induction with
  | h v ih =>
      rw [history_eq, List.pairwise_cons, List.pairwise_flatMap]
      refine ⟨fun u hu heq => ?_, ih, (r.pairwise_children v).imp_of_mem fun hk hl hne a ha b hb heq => ?_⟩
      · obtain ⟨k, hk, hu⟩ := List.mem_flatMap.1 hu
        refine r.not_prefix_parent hk (r.place_prefix_of_mem_history hu) ?_
        exact heq ▸ List.prefix_rfl
      · refine r.not_prefix_of_ne hk hl hne (r.place_prefix_of_mem_history ha) ?_
        rw [heq]
        exact r.place_prefix_of_mem_history hb

/-- What a history has at and below the place of a visit is the history of that visit. -/
theorem filter_history {u v : Visit σ} : u ∈ r.history v →
    (r.history v).filter u.covers = r.history u := by
  induction v using r.visit_induction with
  | h v ih =>
      intro h
      rcases r.mem_history.1 h with rfl | ⟨k, hk, hu⟩
      · exact List.filter_eq_self.2 fun x hx => Visit.covers_iff.2 (r.place_prefix_of_mem_history hx)
      · have hplace := r.place_prefix_of_mem_history hu
        have hother : ∀ l ∈ r.children v, k.place ≠ l.place → (r.history l).filter u.covers = [] := by
          intro l hl hne
          refine List.filter_eq_nil_iff.2 fun x hx hcovers => ?_
          exact r.not_prefix_of_ne hk hl hne (hplace.trans (Visit.covers_iff.1 hcovers))
            (r.place_prefix_of_mem_history hx)
        have hv : ¬ u.covers v = true := fun hcovers =>
          r.not_prefix_parent hk hplace (Visit.covers_iff.1 hcovers)
        -- Of the children only `k` stands above `u`, and it occurs once.
        obtain ⟨before, after, hchildren⟩ := List.append_of_mem hk
        have hdistinct := r.pairwise_children v
        rw [hchildren, List.pairwise_append, List.pairwise_cons] at hdistinct
        have hbefore : ∀ l ∈ before, (r.history l).filter u.covers = [] := fun l hl =>
          hother l (by simp [hchildren, hl]) (hdistinct.2.2 l hl k (by simp)).symm
        have hafter : ∀ l ∈ after, (r.history l).filter u.covers = [] := fun l hl =>
          hother l (by simp [hchildren, hl]) (hdistinct.2.1.1 l hl)
        rw [history_eq, List.filter_cons_of_neg hv, List.filter_flatMap, hchildren, List.flatMap_append,
          List.flatMap_cons, ih k hk hu, List.flatMap_eq_nil_iff.2 hbefore, List.flatMap_eq_nil_iff.2 hafter,
          List.nil_append, List.append_nil]

/-! ## What a command does with its children -/

/-- Visits of which each begins where the one before it ended, with its result recorded. -/
inductive Consecutive (r : Runner σ) : Context → World σ → List (Visit σ) → Context → World σ → Prop where
  | nil (context : Context) (w : World σ) : Consecutive r context w [] context w
  | cons (v : Visit σ) {vs : List (Visit σ)} {context : Context} {w : World σ} :
      Consecutive r (r.recorded v) (r.worldAfter v) vs context w →
      Consecutive r v.context v.world (v :: vs) context w

theorem runAll_childrenFrom (place : List Nat) (stopOnError : Bool) :
    ∀ (commands : List Command) (i : Nat) (last : CommandResult) (context : Context) (w : World σ),
      ∃ context' w',
        r.Consecutive context w (r.childrenFrom place stopOnError i commands context w) context' w' ∧
        r.runAll stopOnError commands last context w =
          (((r.childrenFrom place stopOnError i commands context w).getLast?.map r.result).getD last,
            context', w')
  | [], _, last, context, w => ⟨context, w, .nil context w, by simp [runAll, childrenFrom]⟩
  | child :: rest, i, last, context, w => by
      let v : Visit σ := ⟨place ++ [i], child, context, w⟩
      by_cases hstop : (stopOnError && !(r.result v).success) = true
      · refine ⟨r.recorded v, r.worldAfter v, ?_, ?_⟩
        · rw [childrenFrom, if_pos hstop]
          exact .cons v (.nil _ _)
        · rw [childrenFrom, if_pos hstop, runAll]
          exact if_pos hstop
      · obtain ⟨context', w', hrest, hrun⟩ := runAll_childrenFrom place stopOnError rest (i + 1) (r.result v)
          (r.recorded v) (r.worldAfter v)
        refine ⟨context', w', ?_, ?_⟩
        · rw [childrenFrom, if_neg hstop]
          exact .cons v hrest
        · have hstep : r.runAll stopOnError (child :: rest) last context w =
              r.runAll stopOnError rest (r.result v) (r.recorded v) (r.worldAfter v) := by
            rw [runAll]
            exact if_neg hstop
          rw [hstep, hrun, childrenFrom, if_neg hstop]
          cases hvs : r.childrenFrom place stopOnError (i + 1) rest (r.recorded v) (r.worldAfter v) with
          | nil => rfl
          | cons u us => simp [List.getLast?_cons]

theorem commands_childrenFrom (place : List Nat) (stopOnError : Bool) :
    ∀ (commands : List Command) (i : Nat) (context : Context) (w : World σ),
      (r.childrenFrom place stopOnError i commands context w).map (·.command) =
        commands.take (r.childrenFrom place stopOnError i commands context w).length
  | [], _, _, _ => rfl
  | child :: rest, i, context, w => by
      rw [childrenFrom]
      split
      · rfl
      · simp only [List.map_cons, List.length_cons, List.take_succ_cons,
          commands_childrenFrom place stopOnError rest]

theorem places_childrenFrom (place : List Nat) (stopOnError : Bool) :
    ∀ (commands : List Command) (i : Nat) (context : Context) (w : World σ),
      (r.childrenFrom place stopOnError i commands context w).map (·.place) =
        (List.range (r.childrenFrom place stopOnError i commands context w).length).map fun j => place ++ [i + j]
  | [], _, _, _ => rfl
  | child :: rest, i, context, w => by
      rw [childrenFrom]
      split
      · rfl
      · simp only [List.map_cons, List.length_cons, List.range_succ_eq_map, List.map_map,
          places_childrenFrom place stopOnError rest, Nat.add_zero, Function.comp_def, Nat.add_assoc,
          Nat.add_comm 1]

theorem length_childrenFrom (place : List Nat) :
    ∀ (commands : List Command) (i : Nat) (context : Context) (w : World σ),
      (r.childrenFrom place false i commands context w).length = commands.length
  | [], _, _, _ => rfl
  | child :: rest, i, context, w => by
      rw [childrenFrom, Bool.false_and, if_neg Bool.false_ne_true, List.length_cons,
        length_childrenFrom place rest, List.length_cons]

/-- Of a sequence that stops on errors all children but the last one that was run have succeeded, and if
not all were run, the last one has failed. -/
theorem stops_childrenFrom (place : List Nat) :
    ∀ (commands : List Command) (i : Nat) (context : Context) (w : World σ),
      (∀ u ∈ (r.childrenFrom place true i commands context w).dropLast, (r.result u).success = true) ∧
        ((r.childrenFrom place true i commands context w).length < commands.length →
          ∃ u, (r.childrenFrom place true i commands context w).getLast? = some u ∧
            (r.result u).success = false)
  | [], _, _, _ => by simp [childrenFrom]
  | child :: rest, i, context, w => by
      rw [childrenFrom]
      by_cases hsuccess : (r.result ⟨place ++ [i], child, context, w⟩).success = true
      · obtain ⟨hdrop, hlast⟩ := stops_childrenFrom place rest (i + 1)
          (r.recorded ⟨place ++ [i], child, context, w⟩) (r.worldAfter ⟨place ++ [i], child, context, w⟩)
        simp only [hsuccess, Bool.not_true, Bool.and_false, Bool.false_eq_true, if_false]
        generalize r.childrenFrom place true (i + 1) rest _ _ = vs at *
        cases vs with
        | nil =>
            refine ⟨by simp, fun hlt => ?_⟩
            obtain ⟨u, hu, -⟩ := hlast (by simpa using hlt)
            cases hu
        | cons u us =>
            refine ⟨?_, fun hlt => ?_⟩
            · rw [List.dropLast_cons_cons]
              exact List.forall_mem_cons.2 ⟨hsuccess, hdrop⟩
            · rw [List.getLast?_cons_cons]
              exact hlast (by simpa using hlt)
      · simp [hsuccess]

end Runner

end SimControl
