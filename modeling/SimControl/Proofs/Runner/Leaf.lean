import SimControl.Proofs.Runner.Attempts
import SimControl.Runner.Basic

/-!
# Running a leaf

`callOf` is what a leaf asks of the backend, or why it does not come to that; it knows neither the
world nor the limits of the leaf. `carryOut_eq` says that the rest is `attempts`. All that a leaf adds
to the calls is this one, some number of times (`runLeaf_calls`). The session of the call is the first of
those that may be meant (`sessionChoice_iff`). An error that no handler takes is reported as a failure with
its code and its text (`Leaf.report_fails`).
-/

namespace SimControl

/-! ## Results -/

/-- A success with data, of which nothing else is said. -/
structure CommandResult.Succeeds (r : CommandResult) (data : Json) : Prop where
  success : r.success = true
  data : r.data = some data
  code : r.code = none
  error : r.error = none

/-- A failure with a code and a text, and without data. -/
structure CommandResult.Fails (r : CommandResult) (code text : String) : Prop where
  success : r.success = false
  data : r.data = none
  code : r.code = some code
  error : r.error = some text

theorem CommandResult.succeeds_ok (data : Json) : (CommandResult.ok data).Succeeds data :=
  ⟨rfl, rfl, rfl, rfl⟩

theorem CommandError.fails_toResult (e : CommandError) : e.toResult.Fails e.code e.message :=
  ⟨rfl, rfl, rfl, rfl⟩

def Leaf.report (leaf : Leaf) (context : Context) : Except CommandError Json → CommandResult
  | .ok data => .ok data
  | .error e => leaf.failureResult context e

theorem Leaf.failureResult_fails {leaf : Leaf} (h : leaf.onError = none) (context : Context) (e : CommandError) :
    (leaf.failureResult context e).Fails e.code e.message := by
  rw [failureResult, h]
  exact e.fails_toResult

theorem Leaf.report_fails {leaf : Leaf} (h : leaf.onError = none) {outcome : Except CommandError Json}
    {e : CommandError} (he : outcome = .error e) (context : Context) :
    (leaf.report context outcome).Fails e.code e.message :=
  he ▸ leaf.failureResult_fails h context e

namespace Runner

variable {σ : Type}

/-- The call that a leaf stands for, unless it fails before. -/
def callOf (r : Runner σ) (leaf : Leaf) (context : Context) : Except CommandError Call :=
  if leaf.isValid context then
    match Operation.ofParams leaf.kind (leaf.effectiveParams context) with
    | .error e => .error (.invalidParameter e.name e.fault.message)
    | .ok operation => .ok ⟨operation, r.sessionFor (leaf.effectiveParams context) context⟩
  else .error .validationFailed

theorem carryOut_eq (r : Runner σ) (leaf : Leaf) (context : Context) (w : World σ) :
    r.carryOut leaf context w =
      match r.callOf leaf context with
      | .error e => (.error e, w)
      | .ok call => attempts r.backend leaf.kind call r.settings.retryDelayMs.toNat (r.boundFor leaf w)
          (r.retriesFor leaf) w := by
  unfold carryOut callOf
  by_cases hvalid : leaf.isValid context = true
  · rw [if_pos hvalid, if_pos hvalid]
    simp only []
    cases Operation.ofParams leaf.kind (leaf.effectiveParams context) <;> rfl
  · rw [if_neg hvalid, if_neg hvalid]

theorem runLeaf_eq (r : Runner σ) (leaf : Leaf) (context : Context) (w : World σ) :
    r.runLeaf leaf context w =
      (leaf.report context (r.carryOut leaf context w).1, (r.carryOut leaf context w).2) := by
  unfold runLeaf
  match r.carryOut leaf context w with
  | (.ok _, _) => rfl
  | (.error _, _) => rfl

theorem runLeaf_of_error {r : Runner σ} {leaf : Leaf} {context : Context} {e : CommandError}
    (h : r.callOf leaf context = .error e) (w : World σ) :
    r.runLeaf leaf context w = (leaf.failureResult context e, w) := by
  rw [runLeaf_eq, carryOut_eq, h]
  rfl

/-- A leaf without a handler that does not come to a call fails, and nothing else happens. -/
theorem exists_runLeaf_fails {r : Runner σ} {leaf : Leaf} {context : Context} {e : CommandError}
    (h : r.callOf leaf context = .error e) (hbare : leaf.onError = none) (w : World σ) :
    ∃ result, r.runLeaf leaf context w = (result, w) ∧ result.Fails e.code e.message :=
  ⟨_, runLeaf_of_error h w, leaf.failureResult_fails hbare context e⟩

/-! ## Sessions -/

/-- The session that is meant by parameters in a context, if there may be a default one: a text that is not
empty among the parameters, else in the context, else the default, else the empty text. -/
inductive SessionChoice (params : Params) (context : Context) (default : Option String) : String → Prop where
  | given {s : String} (said : params.get? "sessionId" = some (.string s)) (nonempty : s ≠ "") :
      SessionChoice params context default s
  | current {s : String} (unsaid : ∀ t, params.get? "sessionId" = some (.string t) → t = "")
      (entered : context.sessionId = some s) (nonempty : s ≠ "") : SessionChoice params context default s
  | default {s : String} (unsaid : ∀ t, params.get? "sessionId" = some (.string t) → t = "")
      (outside : ∀ t, context.sessionId = some t → t = "") (configured : default = some s) :
      SessionChoice params context default s
  | none (unsaid : ∀ t, params.get? "sessionId" = some (.string t) → t = "")
      (outside : ∀ t, context.sessionId = some t → t = "") (unconfigured : default = none) :
      SessionChoice params context default ""

theorem said_iff {params : Params} {s : String} :
    (params.get? "sessionId").bind Json.string? = some s ↔ params.get? "sessionId" = some (.string s) := by
  rw [Option.bind_eq_some_iff]
  constructor
  · rintro ⟨j, hj, hs⟩
    cases j with
    | string t => exact hj.trans (congrArg (fun t => some (Json.string t)) (Option.some.inj hs))
    | _ => cases hs
  · exact fun h => ⟨.string s, h, rfl⟩

/-- A text that is not empty, if it is one. -/
def nonempty? (o : Option String) : Option String :=
  o.filter (· ≠ "")

theorem nonempty?_eq_some_iff {o : Option String} {s : String} : nonempty? o = some s ↔ o = some s ∧ s ≠ "" := by
  simp [nonempty?, Option.filter_eq_some_iff]

theorem nonempty?_eq_none_iff {o : Option String} : nonempty? o = none ↔ ∀ s, o = some s → s = "" := by
  simp [nonempty?, Option.filter_eq_none_iff]

theorem sessionFor_eq (r : Runner σ) (params : Params) (context : Context) :
    r.sessionFor params context = (((nonempty? ((params.get? "sessionId").bind Json.string?)).or
      (nonempty? context.sessionId)).or r.settings.defaultSessionId).getD "" := rfl

theorem sessionChoice_iff (r : Runner σ) {params : Params} {context : Context} {s : String} :
    SessionChoice params context r.settings.defaultSessionId s ↔ r.sessionFor params context = s := by
  have hunsaid : nonempty? ((params.get? "sessionId").bind Json.string?) = none ↔
      ∀ t, params.get? "sessionId" = some (.string t) → t = "" := by
    simp only [nonempty?_eq_none_iff, said_iff]
  rw [sessionFor_eq]
  constructor
  · intro h
    cases h with
    | given said nonempty =>
        rw [nonempty?_eq_some_iff.2 ⟨said_iff.2 said, nonempty⟩]
        rfl
    | current unsaid entered nonempty =>
        rw [hunsaid.2 unsaid, nonempty?_eq_some_iff.2 ⟨entered, nonempty⟩]
        rfl
    | default unsaid outside configured =>
        rw [hunsaid.2 unsaid, nonempty?_eq_none_iff.2 outside, configured]
        rfl
    | none unsaid outside unconfigured =>
        rw [hunsaid.2 unsaid, nonempty?_eq_none_iff.2 outside, unconfigured]
        rfl
  · rintro rfl
    cases hgiven : nonempty? ((params.get? "sessionId").bind Json.string?) with
    | some s =>
        obtain ⟨hsaid, hne⟩ := nonempty?_eq_some_iff.1 hgiven
        exact .given (said_iff.1 hsaid) hne
    | none =>
        have hout := hunsaid.1 hgiven
        cases hcurrent : nonempty? context.sessionId with
        | some s =>
            obtain ⟨hentered, hne⟩ := nonempty?_eq_some_iff.1 hcurrent
            exact .current hout hentered hne
        | none =>
            have houtside := nonempty?_eq_none_iff.1 hcurrent
            cases hdefault : r.settings.defaultSessionId with
            | some s => exact .default hout houtside rfl
            | none => exact .none hout houtside rfl

/-- A leaf makes the call that it stands for, once and again for each retry, and no other one. -/
theorem runLeaf_calls_of_call {r : Runner σ} {leaf : Leaf} {context : Context} {call : Call}
    (h : r.callOf leaf context = .ok call) (w : World σ) : ∃ count ≤ r.retriesFor leaf,
      (r.runLeaf leaf context w).2.calls = w.calls ++ List.replicate (count + 1) call := by
  rw [runLeaf_eq, carryOut_eq, h]
  exact attempts_calls r.backend leaf.kind call r.settings.retryDelayMs.toNat (r.boundFor leaf w)
    (r.retriesFor leaf) w rfl

theorem runLeaf_calls (r : Runner σ) (leaf : Leaf) (context : Context) (w : World σ) :
    w.calls <+: (r.runLeaf leaf context w).2.calls := by
  cases h : r.callOf leaf context with
  | error e =>
      simp only [runLeaf_of_error h, List.prefix_rfl]
  | ok call =>
      obtain ⟨count, -, hcalls⟩ := runLeaf_calls_of_call h w
      exact ⟨List.replicate (count + 1) call, hcalls.symm⟩

end Runner

end SimControl
