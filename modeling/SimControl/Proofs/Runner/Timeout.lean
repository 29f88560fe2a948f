import SimControl.Proofs.Runner.Leaf

/-!
# Time limits of leaves

A leaf with a time limit is compared with the same leaf without one. `limit_bounds_dispatch` says that
the limit is either invisible or all that is seen: if the free run is over in time, both runs are the
same; if not, the leaf fails with the limit, at the limit, and has called the backend for just those
attempts of the free run that begin by then.
-/

namespace SimControl

def Leaf.unbounded (leaf : Leaf) : Leaf :=
  { leaf with timeoutMs := none }

namespace Runner

variable {σ : Type}

def unbounded (r : Runner σ) : Runner σ :=
  { r with settings := { r.settings with defaultTimeoutMs := none } }

/-- Runs a leaf without a limit, be it one of its own or the default one. -/
def runFree (r : Runner σ) (leaf : Leaf) (context : Context) (w : World σ) : CommandResult × World σ :=
  r.unbounded.runLeaf leaf.unbounded context w

/-- A leaf that does not come to a call takes no time, and its limit does not matter. -/
theorem runFree_of_error {r : Runner σ} {leaf : Leaf} {context : Context} {e : CommandError}
    (h : r.callOf leaf context = .error e) (w : World σ) :
    r.runFree leaf context w = (leaf.failureResult context e, w) := by
  have hfree : r.unbounded.callOf leaf.unbounded context = .error e := h
  rw [runFree, runLeaf_of_error hfree]
  rfl

section

variable {r : Runner σ} {leaf : Leaf} {context : Context} {call : Call} {limit : UInt64}

theorem runFree_of_call (h : r.callOf leaf context = .ok call) (w : World σ) :
    r.runFree leaf context w =
      let run := attempts r.backend leaf.kind call r.settings.retryDelayMs.toNat ⟨w.now, none⟩
        (r.retriesFor leaf) w
      (leaf.report context run.1, run.2) := by
  have hfree : r.unbounded.callOf leaf.unbounded context = .ok call := h
  rw [runFree, runLeaf_eq, carryOut_eq, hfree]
  rfl

theorem runLeaf_of_limit (h : r.callOf leaf context = .ok call)
    (hlimit : leaf.timeoutMs.or r.settings.defaultTimeoutMs = some limit) (w : World σ) :
    r.runLeaf leaf context w =
      let run := attempts r.backend leaf.kind call r.settings.retryDelayMs.toNat
        ⟨w.now, some limit.toNat⟩ (r.retriesFor leaf) w
      (leaf.report context run.1, run.2) := by
  have hbound : r.boundFor leaf w = ⟨w.now, some limit.toNat⟩ := by simp [boundFor, hlimit]
  rw [runLeaf_eq, carryOut_eq, h, ← hbound]

theorem runFree_world (h : r.callOf leaf context = .ok call) (w : World σ) :
    let script := attemptAt r.backend call w.device
    let last := lastAttempt script (r.retriesFor leaf)
    (r.runFree leaf context w).2 = ⟨(script last).finished,
      w.now + endAt script r.settings.retryDelayMs.toNat last, w.calls ++ List.replicate (last + 1) call⟩ := by
  intro script last
  rw [runFree_of_call h, attempts_unbounded]

theorem runLeaf_in_time (h : r.callOf leaf context = .ok call)
    (hlimit : leaf.timeoutMs.or r.settings.defaultTimeoutMs = some limit) {w : World σ}
    (hnow : (r.runFree leaf context w).2.now ≤ w.now + limit.toNat) :
    r.runLeaf leaf context w = r.runFree leaf context w := by
  rw [runFree_world h] at hnow
  rw [runLeaf_of_limit h hlimit, runFree_of_call h, attempts_in_time _ _ _ _ _ _ _ _ hnow]

theorem runLeaf_cut_off (h : r.callOf leaf context = .ok call)
    (hlimit : leaf.timeoutMs.or r.settings.defaultTimeoutMs = some limit) {w : World σ}
    (hnow : w.now + limit.toNat < (r.runFree leaf context w).2.now) :
    let script := attemptAt r.backend call w.device
    ∃ device, r.runLeaf leaf context w = (leaf.failureResult context (.timeout limit.toNat),
      ⟨device, w.now + limit.toNat, w.calls ++ List.replicate (startedBy script
        r.settings.retryDelayMs.toNat limit.toNat (lastAttempt script (r.retriesFor leaf) + 1)) call⟩) := by
  intro script
  rw [runFree_world h] at hnow
  obtain ⟨device, hrun⟩ := attempts_cut_off r.backend leaf.kind call r.settings.retryDelayMs.toNat
    w.now limit.toNat (r.retriesFor leaf) w (by omega) hnow
  refine ⟨device, ?_⟩
  rw [runLeaf_of_limit h hlimit, hrun, Nat.add_sub_cancel_left]
  rfl

end

theorem replicate_prefix_replicate {α : Type} (a : α) {m n : Nat} (h : m ≤ n) :
    List.replicate m a <+: List.replicate n a := by
  refine ⟨List.replicate (n - m) a, ?_⟩
  rw [List.replicate_append_replicate, Nat.add_sub_cancel' h]

/-- With a limit, a leaf that is over in time without one runs the same. Any other one fails with the
limit when it is reached, and says so, unless it has a handler. It has then called the backend once for
each attempt of the free run that begins no later than the limit, which are the first ones of the free run. -/
theorem limit_bounds_dispatch (r : Runner σ) (leaf : Leaf) (context : Context) (w : World σ)
    (limit : UInt64) (hlimit : leaf.timeoutMs.or r.settings.defaultTimeoutMs = some limit) :
    let free := r.runFree leaf context w
    let limited := r.runLeaf leaf context w
    (free.2.now ≤ w.now + limit.toNat → limited = free) ∧
    (w.now + limit.toNat < free.2.now →
      limited.1 = leaf.failureResult context (.timeout limit.toNat) ∧
      (leaf.onError = none → limited.1.Fails "timeout"
        ("Command timed out after " ++ String.ofList (Nat.toDigits 10 limit.toNat) ++ " ms")) ∧
      limited.2.now = w.now + limit.toNat ∧
      ∃ call, r.callOf leaf context = .ok call ∧
        let script := attemptAt r.backend call w.device
        let pauseMs := r.settings.retryDelayMs.toNat
        let last := lastAttempt script (r.retriesFor leaf)
        free.2.now = w.now + startAt script pauseMs last + (script last).durationMs ∧
        free.2.calls = w.calls ++ (List.range (last + 1)).map (fun _ => call) ∧
        limited.2.calls = w.calls ++ ((List.range (last + 1)).filter fun k =>
          startAt script pauseMs k ≤ limit.toNat).map (fun _ => call) ∧
        limited.2.calls <+: free.2.calls) := by
  intro free limited
  cases hcall : r.callOf leaf context with
  | error e =>
      have hfree : free = (leaf.failureResult context e, w) := runFree_of_error hcall w
      have hlimited : limited = (leaf.failureResult context e, w) := runLeaf_of_error hcall w
      refine ⟨fun _ => hlimited.trans hfree.symm, fun h => ?_⟩
      rw [hfree] at h
      simp only at h
      omega
  | ok call =>
      refine ⟨runLeaf_in_time hcall hlimit, fun h => ?_⟩
      obtain ⟨device, hlimited⟩ := runLeaf_cut_off hcall hlimit h
      have hfree := runFree_world hcall w
      change limited = _ at hlimited
      change free.2 = _ at hfree
      rw [hlimited, hfree]
      refine ⟨rfl, fun hbare => leaf.failureResult_fails hbare context _, rfl, call, rfl,
        by simp only [endAt, Nat.add_assoc], ?_, ?_, ?_⟩
      · rw [List.map_const', List.length_range]
      · rw [List.map_const']
        rfl
      · rw [List.prefix_append_right_inj]
        refine replicate_prefix_replicate call ?_
        exact Nat.le_trans (List.length_filter_le _ _) (Nat.le_of_eq List.length_range)

def busyDevice : Backend Unit := fun _ _ => ⟨0, .failed (.transient "busy"), (), ()⟩

/-- A leaf with five retries, of which the limit leaves one. -/
theorem limit_bounds_dispatch_busy :
    let r : Runner Unit := { backend := busyDevice, registry := .empty, settings := { retryDelayMs := 1000 } }
    let leaf : Leaf :=
      { id := "stop", kind := .terminateApp, timeoutMs := some 1500, retries := some 5
        params := .ofList [("bundleId", .string "com.example.app")] }
    let w : World Unit := ⟨(), 0, []⟩
    leaf.timeoutMs.or r.settings.defaultTimeoutMs = some 1500 ∧ 1500 < (r.runFree leaf {} w).2.now ∧
      (r.runLeaf leaf {} w).1.success = false ∧ (r.runLeaf leaf {} w).1.code = some "timeout" ∧
      (r.runLeaf leaf {} w).1.error = some "Command timed out after 1500 ms" ∧
      (r.runLeaf leaf {} w).2.now = 1500 ∧ (r.runLeaf leaf {} w).2.calls <+: (r.runFree leaf {} w).2.calls ∧
      (r.runLeaf leaf {} w).2.calls.length = 2 ∧ (r.runFree leaf {} w).2.calls.length = 6 := by
  intro r leaf w
  have hlate : 1500 < (r.runFree leaf {} w).2.now := by decide +kernel
  obtain ⟨-, hfails, hnow, call, -, -, -, -, hprefix⟩ :=
    (limit_bounds_dispatch r leaf {} w 1500 rfl).2 hlate
  have htext : "Command timed out after " ++ String.ofList (Nat.toDigits 10 1500) ++ " ms" =
      "Command timed out after 1500 ms" := by decide
  obtain ⟨hsuccess, -, hcode, herror⟩ := hfails rfl
  exact ⟨rfl, hlate, hsuccess, hcode, htext ▸ herror, hnow, hprefix, by decide +kernel, by decide +kernel⟩

end Runner

end SimControl
