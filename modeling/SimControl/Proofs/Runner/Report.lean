import SimControl.Proofs.Result
import SimControl.Proofs.Runner.Record

/-!
# The results of a run are read back

Every result of a run is built as a success or as a failure, if the leaves' own results of failures are:
`built_result`. So whoever reads the text of a result that a run returns or records has that result, unless it is the
success without data: `results_read_back`.
-/

namespace SimControl

/-- The result that a leaf brings for its failure, if it brings one, is built as a success or as a failure. -/
def Leaf.HandlerBuilds (leaf : Leaf) : Prop :=
  ∀ handle, leaf.onError = some handle → ∀ error context, (handle error context).Built

theorem Leaf.HandlerBuilds.report {leaf : Leaf} (h : leaf.HandlerBuilds) (context : Context)
    (outcome : Except CommandError Json) : (leaf.report context outcome).Built := by
  cases outcome with
  | ok data => exact .ok data
  | error error =>
      show (leaf.failureResult context error).Built
      unfold failureResult
      split
      · rename_i handle hhandle
        exact h handle hhandle error context
      · exact .failure error.code error.message

namespace Command

def HandlersBuild (root : Command) : Prop :=
  ∀ place leaf, root.at? place = some (.leaf leaf) → leaf.HandlerBuilds

theorem handlersBuild_leaf {leaf : Leaf} (h : leaf.HandlerBuilds) : (Command.leaf leaf).HandlersBuild := by
  intro place other hat
  cases place with
  | nil =>
      obtain rfl := Command.leaf.inj (Option.some.inj hat)
      exact h
  | cons i place => cases hat

theorem handlersBuild_sequence {id : String} {description : Option String} {stopOnError : Bool}
    {commands : List Command} (h : ∀ c ∈ commands, c.HandlersBuild) :
    (Command.sequence id description stopOnError commands).HandlersBuild := by
  intro place leaf hat
  cases place with
  | nil => cases Option.some.inj hat
  | cons i place =>
      obtain ⟨child, hchild, hat⟩ := Option.bind_eq_some_iff.1 hat
      exact h child (List.mem_of_getElem? hchild) place leaf hat

end Command

namespace Runner

variable {σ : Type} (r : Runner σ)

/-- A sequence has the result of the last child that it runs. -/
theorem result_sequence {v : Visit σ} {id : String} {description : Option String} {stopOnError : Bool}
    {commands : List Command} (hv : v.command = .sequence id description stopOnError commands) :
    r.result v = ((r.children v).getLast?.map r.result).getD .noop := by
  obtain ⟨context', w', -, hrun⟩ := r.runAll_childrenFrom v.place stopOnError commands 0 .noop v.context v.world
  rw [result, outcome, children, hv, run, hrun]

/-- All results of a run are built as successes or failures. -/
theorem built_result {root : Command} (hroot : root.HandlersBuild) {v : Visit σ} :
    root.at? v.place = some v.command → (r.result v).Built := by
  induction v using r.visit_induction with
  | h v ih =>
      intro hv
      have hchild : ∀ u ∈ r.children v, (r.result u).Built := fun u hu =>
        ih u hu (r.at?_of_mem_history root hv (r.mem_history.2 (.inr ⟨u, hu, r.mem_history.2 (.inl rfl)⟩)))
      match hcommand : v.command with
      | .leaf leaf =>
          rw [hcommand] at hv
          rw [result, outcome, hcommand, run, runLeaf_eq]
          exact (hroot v.place leaf hv).report _ _
      | .sequence id description stopOnError commands =>
          rw [r.result_sequence hcommand]
          cases hlast : (r.children v).getLast? with
          | none => exact .ok .null
          | some u => exact hchild u (List.mem_of_getLast? hlast)
      | .conditional id description condition ifTrue ifFalse =>
          rcases r.outcome_conditional hcommand with ⟨u, hchildren, -, houtcome⟩ | ⟨-, houtcome⟩
          · rw [result, houtcome]
            exact hchild u (hchildren ▸ List.mem_singleton_self u)
          · rw [result, houtcome]
            exact .ok .null

/-- Whatever a run finds in the context is a result of one of its visits, or was there before. -/
theorem mem_results_of_recorded (root : Command) {v : Visit σ} (hv : root.at? v.place = some v.command) {id : String}
    {result : CommandResult} (h : (r.outcome v).2.1.result? id = some result) :
    result ∈ (r.history v).map r.result ∨ v.context.result? id = some result := by
  rw [r.contextAfter_eq root hv] at h
  rcases Dictionary.mem_or_get?_of_insertAll h with hrecord | hbefore
  · obtain ⟨u, hu, hpair⟩ := List.mem_map.1 hrecord
    obtain ⟨-, rfl⟩ := Prod.mk.inj hpair
    obtain ⟨k, hk, huk⟩ := List.mem_flatMap.1 (List.mem_filter.1 hu).1
    have hhistory : u ∈ r.history v := r.mem_history.2 (.inr ⟨k, hk, (r.completions_perm k).mem_iff.1 huk⟩)
    exact .inl (List.mem_map_of_mem hhistory)
  · exact .inr hbefore

/-- A run returns the result of one of its visits, and each result that it leaves in the context and that was not there
before is one as well. The texts of such a result, stamped with any time, are read as that result without data that is
null. So they are read as the result itself if and only if it is another one than the success without data. -/
theorem results_read_back (root : Command) (context : Context) (w : World σ) (hbuild : root.HandlersBuild)
    (timestamp : UInt64) :
    let results := (r.history ⟨[], root, context, w⟩).map r.result
    (r.run root context w).1 ∈ results ∧
    (∀ id result, (r.run root context w).2.1.result? id = some result →
      result ∈ results ∨ context.result? id = some result) ∧
    ∀ result ∈ results, result.Readable →
      let sent := result.stamped timestamp
      ∀ text ∈ [sent.toJson.compact, sent.toJson.pretty],
        CommandResult.parse? text = some { sent with data := Json.optional sent.data } ∧
          (CommandResult.parse? text = some sent ↔ result ≠ .noop) := by
  intro results
  refine ⟨?_, fun id result hresult => ?_, ?_⟩
  · exact List.mem_map_of_mem (f := r.result) (r.mem_history.2 (.inl rfl))
  · exact r.mem_results_of_recorded root (v := ⟨[], root, context, w⟩) rfl hresult
  · intro result hresult hreadable sent text htext
    have hparse : CommandResult.parse? text = some { sent with data := Json.optional sent.data } :=
      CommandResult.parse?_of_mem (r := sent) hreadable htext
    obtain ⟨v, hv, rfl⟩ := List.mem_map.1 hresult
    have hbuilt : (r.result v).Built := r.built_result hbuild (r.at?_of_mem_history root rfl hv)
    refine ⟨hparse, ?_⟩
    rw [hparse, Option.some.injEq, CommandResult.optional_data_eq_iff, ne_eq, ne_eq, ← hbuilt.data_eq_null_iff]
    rfl

def scale : Json :=
  .object [("scale", .ofDouble ⟨false, 3 * 2 ^ 51, 1022, by decide, by decide, by decide⟩)]

def scaleDevice : Backend Unit := fun _ _ => ⟨0, .replied scale, (), ()⟩

/-- The description of a device is read back as it was, the result of an empty sequence without its data. -/
theorem results_read_back_rest :
    let r : Runner Unit := { backend := scaleDevice, registry := .empty }
    let ask : Leaf := { id := "ask", kind := .describeElements, params := .empty }
    let root : Command := .sequence "all" none true [.leaf ask, .sequence "rest" none true []]
    let asked := (CommandResult.ok scale).stamped 7
    let rest := CommandResult.noop.stamped 7
    let after := (r.run root {} ⟨(), 0, []⟩).2.1
    root.HandlersBuild ∧ after.result? "ask" = some (.ok scale) ∧ after.result? "rest" = some .noop ∧
      asked.toJson.compact = "\x7b\"success\":true,\"data\":\x7b\"scale\":1.5\x7d,\"timestamp\":7\x7d" ∧
      CommandResult.parse? asked.toJson.compact = some asked ∧
      rest.toJson.compact = "\x7b\"success\":true,\"data\":null,\"timestamp\":7\x7d" ∧
      CommandResult.parse? rest.toJson.compact = some { rest with data := none } ∧
      CommandResult.parse? rest.toJson.compact ≠ some rest := by
  intro r ask root asked rest after
  have hbuild : root.HandlersBuild := by
    refine Command.handlersBuild_sequence fun c hc => ?_
    rcases List.mem_cons.1 hc with rfl | hc
    · exact Command.handlersBuild_leaf nofun
    · rw [List.mem_singleton.1 hc]
      exact Command.handlersBuild_sequence nofun
  have hanswer : r.runLeaf ask {} ⟨(), 0, []⟩ = (.ok scale, ⟨(), 0, [⟨.describeElements, ""⟩]⟩) := by
    have hcall : r.callOf ask {} = .ok ⟨.describeElements, ""⟩ := rfl
    have hattempts : attempts scaleDevice ask.kind ⟨.describeElements, ""⟩ r.settings.retryDelayMs.toNat
        (r.boundFor ask ⟨(), 0, []⟩) (r.retriesFor ask) ⟨(), 0, []⟩ = (.ok scale, ⟨(), 0, [⟨.describeElements, ""⟩]⟩) :=
      attempts_at_once rfl rfl _ _
    rw [runLeaf_eq, carryOut_eq, hcall]
    exact congrArg (fun carried => (ask.report {} carried.1, carried.2)) hattempts
  have hafter : after = (({} : Context).record "ask" (.ok scale)).record "rest" .noop := by
    simp only [after, root, run, runAll, hanswer]
    rfl
  have hasked : after.result? "ask" = some (.ok scale) := by rw [hafter]; rfl
  have hrest : after.result? "rest" = some .noop := by rw [hafter]; rfl
  have hreadable : (CommandResult.ok scale).Readable := by
    intro j hj
    obtain rfl := Option.some.inj hj
    refine .object (List.pairwise_singleton _ _) ?_
    rw [List.forall_mem_singleton]
    exact .number fun _ _ => by decide +kernel
  obtain ⟨-, hrecorded, hread⟩ := r.results_read_back root {} ⟨(), 0, []⟩ hbuild 7
  obtain ⟨-, hask⟩ := hread _ ((hrecorded _ _ hasked).resolve_right nofun) hreadable _ List.mem_cons_self
  obtain ⟨hempty, hnoop⟩ := hread _ ((hrecorded _ _ hrest).resolve_right nofun)
    (fun j hj => Option.some.inj hj ▸ .null) _ List.mem_cons_self
  exact ⟨hbuild, hasked, hrest, by decide +kernel, hask.2 nofun, by decide +kernel, hempty,
    fun heq => hnoop.1 heq rfl⟩

end Runner

end SimControl
