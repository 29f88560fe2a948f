import SimControl.Proofs.Runner.Leaf

/-!
# One dispatch

What a leaf comes to without hooks, limits and retries: its arguments are read, and if that succeeds the
device is called once.
-/

namespace SimControl

variable {σ : Type}

/-- Reads the arguments of a command from its parameters and calls the device once. -/
def dispatch (backend : Backend σ) (kind : CommandKind) (params : Params) (session : String) (w : World σ) :
    Except CommandError Json × World σ :=
  match Operation.ofParams kind params with
  | .error e => (.error (.invalidParameter e.name e.fault.message), w)
  | .ok operation => attempts backend kind ⟨operation, session⟩ 0 ⟨w.now, none⟩ 0 w

variable {backend : Backend σ} {kind : CommandKind} {params : Params}

theorem dispatch_of_error {e : ParameterError} (h : Operation.ofParams kind params = .error e)
    (session : String) (w : World σ) : dispatch backend kind params session w =
      (.error (.invalidParameter e.name e.fault.message), w) := by
  rw [dispatch, h]

theorem dispatch_of_ok {operation : Operation} (h : Operation.ofParams kind params = .ok operation)
    (session : String) (w : World σ) : dispatch backend kind params session w =
      ((backend ⟨operation, session⟩ w.device).ending.outcome kind ⟨operation, session⟩,
        w.afterAttempt ⟨operation, session⟩ (backend ⟨operation, session⟩ w.device)) := by
  rw [dispatch, h]
  exact attempts_last (exceeded?_none _ _) (.inr rfl)

theorem dispatch_eq_ok_iff {session : String} {w w' : World σ} {answer : Json} :
    dispatch backend kind params session w = (.ok answer, w') ↔
      ∃ operation reply, Operation.ofParams kind params = .ok operation ∧
        (backend ⟨operation, session⟩ w.device).ending = .replied reply ∧
        Call.answer ⟨operation, session⟩ reply = answer ∧
        w.afterAttempt ⟨operation, session⟩ (backend ⟨operation, session⟩ w.device) = w' := by
  cases hread : Operation.ofParams kind params with
  | error e => simp [dispatch_of_error hread]
  | ok operation =>
      rw [dispatch_of_ok hread, Prod.mk.injEq]
      cases hending : (backend ⟨operation, session⟩ w.device).ending with
      | replied reply => simp [AttemptEnd.outcome, hending]
      | failed error => simp [AttemptEnd.outcome, hending]
      | crashed lastWords => simp [AttemptEnd.outcome, hending]

/-- A leaf that passes its check is dispatched, if it has neither a limit nor retries. -/
theorem carryOut_eq_dispatch (r : Runner σ) {leaf : Leaf} {context : Context} {w : World σ}
    (hvalid : leaf.isValid context = true) (hlimit : (r.boundFor leaf w).limitMs = none)
    (hretries : r.retriesFor leaf = 0) : r.carryOut leaf context w =
      dispatch r.backend leaf.kind (leaf.effectiveParams context)
        (r.sessionFor (leaf.effectiveParams context) context) w := by
  rw [r.carryOut_eq, Runner.callOf, if_pos hvalid]
  cases hread : Operation.ofParams leaf.kind (leaf.effectiveParams context) with
  | error e => rw [dispatch_of_error hread]
  | ok operation =>
      have hbound : r.boundFor leaf w = ⟨w.now, none⟩ := by
        rw [Runner.boundFor] at hlimit ⊢
        rw [show (leaf.timeoutMs.or r.settings.defaultTimeoutMs).map UInt64.toNat = none from hlimit]
      rw [dispatch_of_ok hread, hbound, hretries]
      exact attempts_last (exceeded?_none _ _) (.inr rfl)

end SimControl
