import SimControl.Proofs.Runner.Failure

/-!
# Retries

A leaf without a time limit calls the backend until an attempt is something else than a transient failure, or until
its retries are used up. `endsWith_iff` ties the attempt with which that ends to the schedule of attempts, and
`retries_follow_script` says how often the backend is called and what comes of it, whatever the attempts come to.
-/

namespace SimControl

/-- The attempts end with number `k`, if `retries` further ones are allowed after the first: it is the first that is
no transient failure, or all that are allowed are transient failures and it is the last of them. -/
def EndsWith (script : Nat → AttemptEnd) (retries k : Nat) : Prop :=
  (k ≤ retries ∧ (script k).isTransient = false ∧ ∀ j < k, (script j).isTransient = true) ∨
    (k = retries ∧ ∀ j ≤ retries, (script j).isTransient = true)

section

variable {σ : Type} {script : Nat → Attempt σ} {retries k : Nat}

theorem Decides.endsWith (h : Decides script retries k) : EndsWith (fun j => (script j).ending) retries k := by
  cases hlast : (script k).ending.isTransient with
  | false => exact .inl ⟨h.allowed, hlast, h.before⟩
  | true =>
      have hk : k = retries := h.final hlast
      -- The last attempt is transient too, which `h.before` does not say of it.
      refine .inr ⟨hk, fun j hj => ?_⟩
      rcases Nat.lt_or_eq_of_le hj with hlt | heq
      · exact h.before j (by omega)
      · rw [show j = k by omega]
        exact hlast

theorem EndsWith.decides (h : EndsWith (fun j => (script j).ending) retries k) : Decides script retries k := by
  rcases h with ⟨hallowed, hfinal, hbefore⟩ | ⟨rfl, hall⟩
  · refine ⟨hallowed, hbefore, fun htransient => ?_⟩
    have hne : (script k).ending.isTransient = false := hfinal
    rw [htransient] at hne
    cases hne
  · exact ⟨Nat.le_refl k, fun j hj => hall j (Nat.le_of_lt hj), fun _ => rfl⟩

/-- The attempts end with the last one of the schedule, and with no other. -/
theorem endsWith_iff : EndsWith (fun j => (script j).ending) retries k ↔ k = lastAttempt script retries := by
  constructor
  · exact fun h => h.decides.eq_lastAttempt
  · rintro rfl
    exact (decides_lastAttempt script retries).endsWith

end

/-- What is reported of the attempt that ends the attempts at a call: a reply as the answer to the call, anything else
as a failure with the code and the text of the error, if no handler takes it. -/
structure Leaf.Reports (leaf : Leaf) (call : Call) (ending : AttemptEnd) (result : CommandResult) : Prop where
  replied : ∀ reply, ending = .replied reply → result.Succeeds (call.answer reply)
  transient : ∀ message, ending = .failed (.transient message) → leaf.onError = none →
    result.Fails "backend_failure" message
  operation : ∀ message, ending = .failed (.operation message) → leaf.onError = none →
    result.Fails "backend_failure" message
  unsupported : ending = .failed .unsupported → leaf.onError = none →
    result.Fails "unsupported_command" ("Unsupported command type: " ++ leaf.kind.label)
  invalidParameter : ∀ name reason, ending = .failed (.invalidParameter name reason) → leaf.onError = none →
    result.Fails "invalid_parameter" ("Invalid parameter '" ++ name ++ "': " ++ reason)
  crashed : ∀ lastWords, ending = .crashed lastWords → leaf.onError = none → result.Fails "backend_failure"
    ("backend panicked during " ++ leaf.kind.label ++ ": " ++ lastWords.getD "unknown panic")

theorem Leaf.reports (leaf : Leaf) (context : Context) (call : Call) (ending : AttemptEnd) :
    leaf.Reports call ending (leaf.report context (ending.outcome leaf.kind call)) where
  replied := by
    rintro reply rfl
    exact CommandResult.succeeds_ok (call.answer reply)
  transient := by
    rintro message rfl hbare
    exact report_fails hbare rfl context
  operation := by
    rintro message rfl hbare
    exact report_fails hbare rfl context
  unsupported := by
    rintro rfl hbare
    exact report_fails hbare rfl context
  invalidParameter := by
    rintro name reason rfl hbare
    exact report_fails hbare rfl context
  crashed := by
    rintro lastWords rfl hbare
    exact report_fails hbare rfl context

namespace Runner

variable {σ : Type}

/-- Without a limit, a leaf that comes to a call makes all attempts of the schedule. -/
theorem carryOut_unlimited {r : Runner σ} {leaf : Leaf} {context : Context} {call : Call}
    (hcall : r.callOf leaf context = .ok call) (hfree : leaf.timeoutMs.or r.settings.defaultTimeoutMs = none)
    (w : World σ) :
    let script := attemptAt r.backend call w.device
    let last := lastAttempt script (r.retriesFor leaf)
    (r.carryOut leaf context w).1 = (script last).ending.outcome leaf.kind call ∧
      (r.carryOut leaf context w).2.calls = w.calls ++ List.replicate (last + 1) call := by
  intro script last
  have hbound : r.boundFor leaf w = ⟨w.now, none⟩ := by rw [boundFor, hfree, Option.map_none]
  rw [carryOut_eq, hcall]
  simp only [hbound, attempts_unbounded]
  exact ⟨rfl, rfl⟩

/-- A leaf that is let through and has no limit calls the backend once for each attempt up to the one that ends
them, always with the same operation in the same session, and comes to what that attempt comes to; if the backend
broke down, to a failure of the backend. If its parameters cannot be read, it leaves the backend alone, whatever its
retries. -/
theorem retries_follow_script (r : Runner σ) (leaf : Leaf) (context : Context) (w : World σ)
    (hvalid : leaf.isValid context = true) (hfree : leaf.timeoutMs.or r.settings.defaultTimeoutMs = none) :
    let params := leaf.effectiveParams context
    let retries := (leaf.retries.getD r.settings.defaultRetries).toNat
    let outcome := (r.carryOut leaf context w).1
    let run := r.runLeaf leaf context w
    (∀ operation, Operation.ofParams leaf.kind params = .ok operation →
      let call : Call := ⟨operation, r.sessionFor params context⟩
      let script := fun k => (attemptAt r.backend call w.device k).ending
      ∃ k, (∀ j, EndsWith script retries j ↔ j = k) ∧
        run.2.calls = w.calls ++ List.replicate (k + 1) call ∧
        outcome = (script k).outcome leaf.kind call ∧
        run.1 = leaf.report context outcome ∧ leaf.Reports call (script k) run.1 ∧
        ∀ lastWords, script k = .crashed lastWords → ∃ message, outcome = .error (.backend message)) ∧
    ∀ e, Operation.ofParams leaf.kind params = .error e →
      outcome = .error (.invalidParameter e.name e.fault.message) ∧
        run = (leaf.failureResult context (.invalidParameter e.name e.fault.message), w) ∧
        (leaf.onError = none →
          run.1.Fails "invalid_parameter" ("Invalid parameter '" ++ e.name ++ "': " ++ e.fault.message)) := by
  intro params retries outcome run
  have hpassed : ¬ leaf.Refused context := by simp [Leaf.refused_iff, hvalid]
  constructor
  · intro operation hread call script
    have hcall : r.callOf leaf context = .ok call := by rw [callOf_of_passed hpassed, hread]
    obtain ⟨houtcome, hcalls⟩ := carryOut_unlimited hcall hfree w
    have hrun : run = (leaf.report context outcome, (r.carryOut leaf context w).2) := r.runLeaf_eq leaf context w
    refine ⟨lastAttempt (attemptAt r.backend call w.device) retries, fun j => endsWith_iff, ?_, houtcome, ?_, ?_, ?_⟩
    · rw [hrun]
      exact hcalls
    · rw [hrun]
    · rw [hrun, show outcome = _ from houtcome]
      exact leaf.reports context call _
    · intro lastWords hcrash
      exact ⟨_, houtcome.trans (congrArg (AttemptEnd.outcome leaf.kind call) hcrash)⟩
  · intro e hunread
    have hcall := callOf_of_unreadable (r := r) ⟨hpassed, hunread⟩
    have hrun : run = (leaf.failureResult context (.invalidParameter e.name e.fault.message), w) :=
      runLeaf_of_error hcall w
    refine ⟨congrArg Prod.fst (carryOut_of_error hcall w), hrun, fun hbare => ?_⟩
    rw [hrun]
    exact leaf.failureResult_fails hbare context _

/-- A device that plays a script, whatever it is asked. -/
def playing (script : Nat → AttemptEnd) : Backend Nat := fun _ n => ⟨0, script n, n + 1, n⟩

theorem ending_playing (script : Nat → AttemptEnd) (call : Call) (k n : Nat) :
    (attemptAt (playing script) call n k).ending = script (n + k) := by
  induction k generalizing n with
  | zero => rfl
  | succ k ih =>
      have htail : (attemptAt (playing script) call (n + 1) k).ending = script (n + 1 + k) := ih (n + 1)
      rw [show n + (k + 1) = n + 1 + k by omega, ← htail]
      rfl

def busyTwice (ending : AttemptEnd) (n : Nat) : AttemptEnd :=
  if n < 2 then .failed (.transient "busy") else ending

/-- A breakdown after two busy attempts is not tried again and is a failure, a reply is the answer. -/
theorem retries_follow_script_breakdown :
    let r ending : Runner Nat :=
      { backend := playing (busyTwice ending), registry := .empty, settings := { defaultRetries := 7 } }
    let leaf : Leaf :=
      { id := "stop", kind := .terminateApp, params := .ofList [("bundleId", .string " com.example.app ")] }
    let call : Call := ⟨.terminateApp "com.example.app", ""⟩
    let crash := (r (.crashed none)).runLeaf leaf {} ⟨0, 0, []⟩
    let reply := (r (.replied .null)).runLeaf leaf {} ⟨0, 0, []⟩
    leaf.isValid {} = true ∧ (∀ ending, leaf.timeoutMs.or (r ending).settings.defaultTimeoutMs = none) ∧
      Operation.ofParams leaf.kind leaf.params = .ok call.operation ∧
      (∀ ending : AttemptEnd, ending.isTransient = false → EndsWith (busyTwice ending) 7 2) ∧
      crash.2.calls = [call, call, call] ∧ crash.1.success = false ∧ crash.1.code = some "backend_failure" ∧
      crash.1.error = some "backend panicked during terminateApp: unknown panic" ∧
      reply.2.calls = [call, call, call] ∧ reply.1.success = true ∧
      reply.1.data = some (.object [("bundleId", .string "com.example.app")]) := by
  intro r leaf call crash reply
  have hread : Operation.ofParams leaf.kind leaf.params = .ok call.operation := by rfl
  have hends : ∀ ending : AttemptEnd, ending.isTransient = false → EndsWith (busyTwice ending) 7 2 :=
    fun ending hfinal => .inl ⟨by decide, hfinal, fun j hj => by rw [busyTwice, if_pos hj]; rfl⟩
  have hrun : ∀ ending : AttemptEnd, ending.isTransient = false →
      ((r ending).runLeaf leaf {} ⟨0, 0, []⟩).2.calls = [call, call, call] ∧
        leaf.Reports call ending ((r ending).runLeaf leaf {} ⟨0, 0, []⟩).1 := by
    intro ending hfinal
    have hscript : (fun k => (attemptAt (r ending).backend call 0 k).ending) = busyTwice ending :=
      funext fun k => (ending_playing _ call k 0).trans (congrArg (busyTwice ending) (Nat.zero_add k))
    obtain ⟨k, hk, hcalls, -, -, hreports, -⟩ :=
      (retries_follow_script (r ending) leaf {} ⟨0, 0, []⟩ rfl rfl).1 _ hread
    obtain rfl : 2 = k := (hk 2).1 (hscript.symm ▸ hends ending hfinal)
    have hlast : (attemptAt (r ending).backend call 0 2).ending = ending := congrFun hscript 2
    exact ⟨hcalls, hlast ▸ hreports⟩
  obtain ⟨hcrashCalls, hcrash⟩ := hrun (.crashed none) rfl
  obtain ⟨hsuccess, -, hcode, herror⟩ := hcrash.crashed none rfl rfl
  obtain ⟨hreplyCalls, hreply⟩ := hrun (.replied .null) rfl
  obtain ⟨hreplySuccess, hdata, -, -⟩ := hreply.replied .null rfl
  exact ⟨rfl, fun _ => rfl, hread, hends, hcrashCalls, hsuccess, hcode, herror, hreplyCalls, hreplySuccess, hdata⟩

end Runner

end SimControl
