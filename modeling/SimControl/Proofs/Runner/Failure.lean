import SimControl.Proofs.Runner.Leaf
import SimControl.Runner.ToolCall

/-!
# Why leaves fail

A leaf fails because its check does not let it through, a parameter of it cannot be read, its limit expires, or the
deciding attempt at its call did not succeed. `Cause` says which error stands for what. `carryOut_eq_error_iff` says
that a leaf fails with an error just if there is a cause for it, and `failure_tells_cause` what is seen of that:
the code of a failed result can be relied on.
-/

namespace SimControl

/-- The check of a leaf does not let it through. It sees the parameters that were given. -/
def Leaf.Refused (leaf : Leaf) (context : Context) : Prop :=
  ∃ validate, leaf.validate = some validate ∧ validate leaf.params context = false

theorem Leaf.refused_iff {leaf : Leaf} {context : Context} :
    leaf.Refused context ↔ leaf.isValid context = false := by
  unfold Refused isValid
  cases leaf.validate with
  | none => simp
  | some validate => simp

/-- A leaf is let through, but one of the parameters that it is to be carried out with cannot be read. -/
structure Leaf.Unreadable (leaf : Leaf) (context : Context) (e : ParameterError) : Prop where
  passed : ¬ leaf.Refused context
  unread : Operation.ofParams leaf.kind (leaf.effectiveParams context) = .error e

namespace CommandError

/-! ## Codes -/

theorem code_eq_iff (e : CommandError) :
    (e.code = Code.validationFailed ↔ e = .validationFailed) ∧
    (e.code = Code.timeout ↔ ∃ limit, e = .timeout limit) ∧
    (e.code = Code.unsupportedCommand ↔ ∃ kind, e = .unsupported kind) ∧
    (e.code = Code.invalidParameter ↔ ∃ name reason, e = .invalidParameter name reason) ∧
    (e.code = Code.backendFailure ↔ ∃ message, e = .backend message) := by
  cases e <;> simp [code, Code.validationFailed, Code.timeout, Code.unsupportedCommand, Code.invalidParameter,
    Code.backendFailure]

end CommandError

namespace Runner

variable {σ : Type}

/-! ## Causes -/

/-- A leaf is let through and stands for this call: the operation that its parameters give, in the session that
is meant. -/
structure Asks (r : Runner σ) (leaf : Leaf) (context : Context) (call : Call) : Prop where
  passed : ¬ leaf.Refused context
  read : Operation.ofParams leaf.kind (leaf.effectiveParams context) = .ok call.operation
  session : SessionChoice (leaf.effectiveParams context) context r.settings.defaultSessionId call.session

/-- When the `k`-th attempt at a call that begins now would be over, were there no limit. -/
def overAfter (r : Runner σ) (w : World σ) (call : Call) (k : Nat) : Nat :=
  endAt (attemptAt r.backend call w.device) r.settings.retryDelayMs.toNat k

/-- The deciding attempt at the call of a leaf is not over when its limit is. -/
structure Expires (r : Runner σ) (leaf : Leaf) (context : Context) (w : World σ) (call : Call) (k : Nat)
    (limit : UInt64) : Prop where
  asks : r.Asks leaf context call
  decides : Decides (attemptAt r.backend call w.device) (r.retriesFor leaf) k
  limited : leaf.timeoutMs.or r.settings.defaultTimeoutMs = some limit
  late : limit.toNat < r.overAfter w call k

/-- The deciding attempt at the call of a leaf ends so, within the limit if there is one. -/
structure Ends (r : Runner σ) (leaf : Leaf) (context : Context) (w : World σ) (call : Call) (k : Nat)
    (ending : AttemptEnd) : Prop where
  asks : r.Asks leaf context call
  decides : Decides (attemptAt r.backend call w.device) (r.retriesFor leaf) k
  ending_eq : (attemptAt r.backend call w.device k).ending = ending
  inTime : ∀ limit, leaf.timeoutMs.or r.settings.defaultTimeoutMs = some limit →
    r.overAfter w call k ≤ limit.toNat

/-- Why a leaf fails, by the error that it is reported as. A transient failure of the deciding attempt leaves no
retry. -/
inductive Cause (r : Runner σ) (leaf : Leaf) (context : Context) (w : World σ) : CommandError → Prop where
  | refused (h : leaf.Refused context) : Cause r leaf context w .validationFailed
  | unreadable {e : ParameterError} (h : leaf.Unreadable context e) :
      Cause r leaf context w (.invalidParameter e.name e.fault.message)
  | expired {call : Call} {k : Nat} {limit : UInt64} (h : r.Expires leaf context w call k limit) :
      Cause r leaf context w (.timeout limit.toNat)
  | unsupported {call : Call} {k : Nat} (h : r.Ends leaf context w call k (.failed .unsupported)) :
      Cause r leaf context w (.unsupported leaf.kind)
  | rejected {call : Call} {k : Nat} {name reason : String}
      (h : r.Ends leaf context w call k (.failed (.invalidParameter name reason))) :
      Cause r leaf context w (.invalidParameter name reason)
  | crashed {call : Call} {k : Nat} {lastWords : Option String}
      (h : r.Ends leaf context w call k (.crashed lastWords)) :
      Cause r leaf context w (.crash leaf.kind lastWords)
  | failed {call : Call} {k : Nat} {message : String}
      (h : r.Ends leaf context w call k (.failed (.operation message))) : Cause r leaf context w (.backend message)
  | busy {call : Call} {k : Nat} {message : String}
      (h : r.Ends leaf context w call k (.failed (.transient message))) (spent : k = r.retriesFor leaf) :
      Cause r leaf context w (.backend message)

variable {r : Runner σ} {leaf : Leaf} {context : Context} {w : World σ} {call : Call} {k : Nat}

/-! ## What a leaf asks for -/

theorem callOf_of_refused (h : leaf.Refused context) : r.callOf leaf context = .error .validationFailed := by
  rw [callOf, if_neg (by simp [Leaf.refused_iff.1 h])]

theorem callOf_of_passed (h : ¬ leaf.Refused context) : r.callOf leaf context =
    match Operation.ofParams leaf.kind (leaf.effectiveParams context) with
    | .error e => .error (.invalidParameter e.name e.fault.message)
    | .ok operation => .ok ⟨operation, r.sessionFor (leaf.effectiveParams context) context⟩ := by
  rw [Leaf.refused_iff, Bool.not_eq_false] at h
  unfold callOf
  refine (if_pos h).trans ?_
  cases Operation.ofParams leaf.kind (leaf.effectiveParams context) <;> rfl

theorem callOf_of_unreadable {e : ParameterError} (h : leaf.Unreadable context e) :
    r.callOf leaf context = .error (.invalidParameter e.name e.fault.message) := by
  rw [callOf_of_passed h.passed, h.unread]

theorem Asks.callOf_eq (h : r.Asks leaf context call) : r.callOf leaf context = .ok call := by
  rw [callOf_of_passed h.passed, h.read, (sessionChoice_iff r).1 h.session]

/-- A leaf is refused, unreadable or asks for a call. -/
theorem refused_or_unreadable_or_asks (r : Runner σ) (leaf : Leaf) (context : Context) :
    leaf.Refused context ∨ (∃ e, leaf.Unreadable context e) ∨ ∃ call, r.Asks leaf context call := by
  by_cases hrefused : leaf.Refused context
  · exact .inl hrefused
  · cases hread : Operation.ofParams leaf.kind (leaf.effectiveParams context) with
    | error e => exact .inr (.inl ⟨e, hrefused, hread⟩)
    | ok operation =>
        exact .inr (.inr ⟨⟨operation, r.sessionFor (leaf.effectiveParams context) context⟩, hrefused, hread,
          (sessionChoice_iff r).2 rfl⟩)

/-! ## What comes of it -/

theorem carryOut_of_error {e : CommandError} (h : r.callOf leaf context = .error e) (w : World σ) :
    r.carryOut leaf context w = (.error e, w) := by
  rw [carryOut_eq, h]

theorem Asks.carryOut_eq (h : r.Asks leaf context call) (w : World σ) : r.carryOut leaf context w =
    attempts r.backend leaf.kind call r.settings.retryDelayMs.toNat
      ⟨w.now, (leaf.timeoutMs.or r.settings.defaultTimeoutMs).map UInt64.toNat⟩ (r.retriesFor leaf) w := by
  rw [Runner.carryOut_eq, h.callOf_eq]
  rfl

theorem Expires.carryOut_eq {limit : UInt64} (h : r.Expires leaf context w call k limit) :
    (r.carryOut leaf context w).1 = .error (.timeout limit.toNat) := by
  have hlate := h.late
  rw [overAfter, h.decides.eq_lastAttempt] at hlate
  obtain ⟨device, hrun⟩ := attempts_cut_off r.backend leaf.kind call r.settings.retryDelayMs.toNat w.now
    limit.toNat (r.retriesFor leaf) w (by omega) (by omega)
  rw [h.asks.carryOut_eq, h.limited, Option.map_some, hrun]

theorem Ends.carryOut_eq {ending : AttemptEnd} (h : r.Ends leaf context w call k ending) :
    (r.carryOut leaf context w).1 = ending.outcome leaf.kind call := by
  have hfree := congrArg Prod.fst (attempts_unbounded r.backend leaf.kind call r.settings.retryDelayMs.toNat
    w.now (r.retriesFor leaf) w)
  rw [← h.decides.eq_lastAttempt, h.ending_eq] at hfree
  rw [h.asks.carryOut_eq]
  cases hlimit : leaf.timeoutMs.or r.settings.defaultTimeoutMs with
  | none => exact hfree
  | some limit =>
      have hnow := h.inTime limit hlimit
      rw [overAfter, h.decides.eq_lastAttempt] at hnow
      rw [Option.map_some, attempts_in_time _ _ _ _ _ _ _ _ (by omega)]
      exact hfree

/-- The deciding attempt is late or ends in time. -/
theorem Asks.expires_or_ends (h : r.Asks leaf context call) (w : World σ) :
    (∃ k limit, r.Expires leaf context w call k limit) ∨ ∃ k ending, r.Ends leaf context w call k ending := by
  have hlast := decides_lastAttempt (attemptAt r.backend call w.device) (r.retriesFor leaf)
  by_cases hlate : ∃ limit, leaf.timeoutMs.or r.settings.defaultTimeoutMs = some limit ∧
      limit.toNat < r.overAfter w call (lastAttempt (attemptAt r.backend call w.device) (r.retriesFor leaf))
  · obtain ⟨limit, hlimit, hlt⟩ := hlate
    exact .inl ⟨_, limit, h, hlast, hlimit, hlt⟩
  · exact .inr ⟨_, _, h, hlast, rfl, fun limit hlimit => Nat.not_lt.1 fun hlt => hlate ⟨limit, hlimit, hlt⟩⟩

theorem Ends.cause {ending : AttemptEnd} (h : r.Ends leaf context w call k ending) {e : CommandError}
    (he : ending.outcome leaf.kind call = .error e) : r.Cause leaf context w e := by
  cases ending with
  | replied reply => cases he
  | crashed lastWords => exact Except.error.inj he ▸ .crashed h
  | failed error =>
      obtain rfl := Except.error.inj he
      cases error with
      | unsupported => exact .unsupported h
      | invalidParameter name reason => exact .rejected h
      | operation message => exact .failed h
      | transient message => exact .busy h (h.decides.final (by rw [h.ending_eq]; rfl))

theorem Cause.carryOut_eq {e : CommandError} (h : r.Cause leaf context w e) :
    (r.carryOut leaf context w).1 = .error e := by
  cases h with
  | refused h => rw [carryOut_of_error (callOf_of_refused h)]
  | unreadable h => rw [carryOut_of_error (callOf_of_unreadable h)]
  | expired h => exact h.carryOut_eq
  | unsupported h => exact h.carryOut_eq
  | rejected h => exact h.carryOut_eq
  | crashed h => exact h.carryOut_eq
  | failed h => exact h.carryOut_eq
  | busy h _ => exact h.carryOut_eq

/-- A leaf fails with an error just if there is a cause for it. -/
theorem carryOut_eq_error_iff {e : CommandError} :
    (r.carryOut leaf context w).1 = .error e ↔ r.Cause leaf context w e := by
  refine ⟨fun h => ?_, Cause.carryOut_eq⟩
  rcases refused_or_unreadable_or_asks r leaf context with hrefused | ⟨p, hunreadable⟩ | ⟨call, hasks⟩
  · rw [carryOut_of_error (callOf_of_refused hrefused)] at h
    exact Except.error.inj h ▸ .refused hrefused
  · rw [carryOut_of_error (callOf_of_unreadable hunreadable)] at h
    exact Except.error.inj h ▸ .unreadable hunreadable
  · rcases hasks.expires_or_ends w with ⟨k, limit, hexpires⟩ | ⟨k, ending, hends⟩
    · rw [hexpires.carryOut_eq] at h
      exact Except.error.inj h ▸ .expired hexpires
    · exact hends.cause (hends.carryOut_eq.symm.trans h)

/-- A leaf that asks for a call makes it, once and again for each retry, and no other one. -/
theorem Asks.calls (h : r.Asks leaf context call) (w : World σ) : ∃ count ≤ r.retriesFor leaf,
    (r.runLeaf leaf context w).2.calls = w.calls ++ List.replicate (count + 1) call :=
  runLeaf_calls_of_call h.callOf_eq w

/-! ## One kind of error after the other -/

theorem cause_validationFailed_iff : r.Cause leaf context w .validationFailed ↔ leaf.Refused context := by
  refine ⟨fun h => ?_, .refused⟩
  cases h with
  | refused h => exact h

theorem cause_timeout_iff {n : Nat} : r.Cause leaf context w (.timeout n) ↔
    ∃ call k limit, r.Expires leaf context w call k limit ∧ limit.toNat = n := by
  constructor
  · intro h
    cases h with
    | expired h => exact ⟨_, _, _, h, rfl⟩
  · rintro ⟨call, k, limit, h, rfl⟩
    exact .expired h

theorem cause_unsupported_iff {kind : CommandKind} : r.Cause leaf context w (.unsupported kind) ↔
    kind = leaf.kind ∧ ∃ call k, r.Ends leaf context w call k (.failed .unsupported) := by
  constructor
  · intro h
    cases h with
    | unsupported h => exact ⟨rfl, _, _, h⟩
  · rintro ⟨rfl, call, k, h⟩
    exact .unsupported h

theorem cause_invalidParameter_iff {name reason : String} :
    r.Cause leaf context w (.invalidParameter name reason) ↔
      (∃ e, leaf.Unreadable context e ∧ e.name = name ∧ e.fault.message = reason) ∨
        ∃ call k, r.Ends leaf context w call k (.failed (.invalidParameter name reason)) := by
  constructor
  · intro h
    cases h with
    | unreadable h => exact .inl ⟨_, h, rfl, rfl⟩
    | rejected h => exact .inr ⟨_, _, h⟩
  · rintro (⟨e, h, rfl, rfl⟩ | ⟨call, k, h⟩)
    · exact .unreadable h
    · exact .rejected h

theorem cause_backend_iff {message : String} : r.Cause leaf context w (.backend message) ↔
    ∃ call k, (∃ lastWords, r.Ends leaf context w call k (.crashed lastWords) ∧
        .crash leaf.kind lastWords = CommandError.backend message) ∨
      r.Ends leaf context w call k (.failed (.operation message)) ∨
      r.Ends leaf context w call k (.failed (.transient message)) ∧ k = r.retriesFor leaf := by
  constructor
  · intro h
    cases h with
    | crashed h => exact ⟨_, _, .inl ⟨_, h, rfl⟩⟩
    | failed h => exact ⟨_, _, .inr (.inl h)⟩
    | busy h spent => exact ⟨_, _, .inr (.inr ⟨h, spent⟩)⟩
  · rintro ⟨call, k, ⟨lastWords, h, hmessage⟩ | h | ⟨h, spent⟩⟩
    · exact hmessage ▸ .crashed h
    · exact .failed h
    · exact .busy h spent

/-! ## What is seen of it -/

theorem runLeaf_of_outcome_error {e : CommandError} (h : (r.carryOut leaf context w).1 = .error e) :
    (r.runLeaf leaf context w).1 = leaf.failureResult context e := by
  rw [runLeaf_eq, h]
  rfl

/-- A result has the code of the error, if no handler makes another one of it, and no code without an error. -/
theorem code_eq_some_iff (hbare : leaf.onError = none) {code : String} :
    (r.runLeaf leaf context w).1.code = some code ↔
      ∃ e, (r.carryOut leaf context w).1 = .error e ∧ e.code = code := by
  cases houtcome : (r.carryOut leaf context w).1 with
  | ok data => simp [runLeaf_eq, houtcome, Leaf.report, CommandResult.ok]
  | error e =>
      rw [runLeaf_of_outcome_error houtcome, Leaf.failureResult, hbare]
      simp [CommandError.toResult, CommandResult.failure]

/-- Each error that a leaf fails with has its own causes, and there is one error at most. A refused leaf and one
with a parameter that cannot be read leave the backend alone, and of a refused leaf nothing is transformed. Without
a handler, the result has the code and the message of the error. -/
theorem failure_tells_cause (r : Runner σ) (leaf : Leaf) (context : Context) (w : World σ) :
    let outcome := (r.carryOut leaf context w).1
    let run := r.runLeaf leaf context w
    ((∃ data, outcome = .ok data ∧ run.1 = .ok data) ∨
      ∃ e, (∀ other, outcome = .error other ↔ other = e) ∧ run.1 = leaf.failureResult context e) ∧
    (outcome = .error .validationFailed ↔ leaf.Refused context) ∧
    (∀ name reason, outcome = .error (.invalidParameter name reason) ↔
      (∃ e, leaf.Unreadable context e ∧ e.name = name ∧ e.fault.message = reason) ∨
        ∃ call k, r.Ends leaf context w call k (.failed (.invalidParameter name reason))) ∧
    (∀ kind, outcome = .error (.unsupported kind) ↔
      kind = leaf.kind ∧ ∃ call k, r.Ends leaf context w call k (.failed .unsupported)) ∧
    (∀ n, outcome = .error (.timeout n) ↔
      ∃ call k limit, r.Expires leaf context w call k limit ∧ limit.toNat = n) ∧
    (∀ message, outcome = .error (.backend message) ↔
      ∃ call k, (∃ lastWords, r.Ends leaf context w call k (.crashed lastWords) ∧
          .crash leaf.kind lastWords = CommandError.backend message) ∨
        r.Ends leaf context w call k (.failed (.operation message)) ∨
        r.Ends leaf context w call k (.failed (.transient message)) ∧ k = r.retriesFor leaf) ∧
    (leaf.Refused context → run.2 = w ∧ ∀ transform, r.runLeaf { leaf with transform } context w = run) ∧
    (∀ e, leaf.Unreadable context e → run.2 = w) ∧
    (∀ call, r.Asks leaf context call → ∃ count ≤ r.retriesFor leaf,
      run.2.calls = w.calls ++ List.replicate (count + 1) call) ∧
    (leaf.onError = none →
      (run.1.code = some Code.validationFailed ↔ outcome = .error .validationFailed) ∧
      (run.1.code = some Code.invalidParameter ↔
        ∃ name reason, outcome = .error (.invalidParameter name reason)) ∧
      (run.1.code = some Code.unsupportedCommand ↔ ∃ kind, outcome = .error (.unsupported kind)) ∧
      (run.1.code = some Code.timeout ↔ ∃ n, outcome = .error (.timeout n)) ∧
      (run.1.code = some Code.backendFailure ↔ ∃ message, outcome = .error (.backend message)) ∧
      ∀ e, outcome = .error e →
        run.1 = .failure e.code e.message ∧ ToolResponse.ofResult run.1 = .error e.message) := by
  intro outcome run
  have hiff : ∀ {e}, outcome = .error e ↔ r.Cause leaf context w e := carryOut_eq_error_iff
  refine ⟨?_, hiff.trans cause_validationFailed_iff, fun _ _ => hiff.trans cause_invalidParameter_iff,
    fun _ => hiff.trans cause_unsupported_iff, fun _ => hiff.trans cause_timeout_iff,
    fun _ => hiff.trans cause_backend_iff, fun hrefused => ?_, fun e hunreadable => ?_,
    fun call hasks => hasks.calls w, fun hbare => ?_⟩
  · cases houtcome : outcome with
    | ok data =>
        refine .inl ⟨data, rfl, ?_⟩
        rw [show run = _ from runLeaf_eq r leaf context w, show (r.carryOut leaf context w).1 = _ from houtcome]
        rfl
    | error e => exact .inr ⟨e, by simp [eq_comm], runLeaf_of_outcome_error houtcome⟩
  · have hrun : ∀ transform, r.runLeaf { leaf with transform } context w =
        (leaf.failureResult context .validationFailed, w) := by
      intro transform
      have hother : ({ leaf with transform } : Leaf).Refused context := hrefused
      rw [runLeaf_of_error (callOf_of_refused hother)]
      rfl
    have hsame : run = _ := hrun leaf.transform
    exact ⟨by rw [hsame], fun transform => (hrun transform).trans hsame.symm⟩
  · rw [show run = _ from runLeaf_of_error (callOf_of_unreadable hunreadable) w]
  · have hcode : ∀ {code}, run.1.code = some code ↔ ∃ e, outcome = .error e ∧ e.code = code :=
      code_eq_some_iff hbare
    have hkinds := CommandError.code_eq_iff
    simp only [hcode]
    refine ⟨by grind, by grind, by grind, by grind, by grind, fun e he => ?_⟩
    have hresult : run.1 = .failure e.code e.message := by
      rw [show run.1 = _ from runLeaf_of_outcome_error he, Leaf.failureResult, hbare]
      rfl
    exact ⟨hresult, by rw [hresult]; rfl⟩

/-- A device that is busy once and then does not know what is asked. -/
def reluctantDevice : Backend Nat := fun _ n =>
  ⟨5, .failed (if n = 0 then .transient "busy" else .unsupported), n + 1, n⟩

/-- The second attempt decides, although there would be retries and time left. Its parameters are the transformed
ones, which the check has not seen. -/
theorem failure_tells_cause_reluctant :
    let r : Runner Nat := { backend := reluctantDevice, registry := .empty, settings := { retryDelayMs := 10 } }
    let leaf : Leaf :=
      { id := "stop", kind := .terminateApp, params := .empty, retries := some 3, timeoutMs := some 20
        validate := some fun params _ => !params.contains "bundleId"
        transform := some fun params _ => params.insert "bundleId" (.string " com.example.app ") }
    let context : Context := { sessionId := some "pad" }
    let w : World Nat := ⟨0, 0, []⟩
    let call : Call := ⟨.terminateApp "com.example.app", "pad"⟩
    r.Asks leaf context call ∧ r.Ends leaf context w call 1 (.failed .unsupported) ∧
      (r.carryOut leaf context w).1 = .error (.unsupported .terminateApp) ∧
      (r.runLeaf leaf context w).1.code = some Code.unsupportedCommand ∧
      ∃ count ≤ 3, (r.runLeaf leaf context w).2.calls = List.replicate (count + 1) call := by
  intro r leaf context w call
  have hasks : r.Asks leaf context call := by
    have hunsaid : (leaf.effectiveParams context).get? "sessionId" = none := by rfl
    refine ⟨?_, by rfl, .current ?_ rfl (by decide)⟩
    · rw [Leaf.refused_iff]
      decide
    · intro t ht
      rw [hunsaid] at ht
      cases ht
  have hends : r.Ends leaf context w call 1 (.failed .unsupported) := by
    refine ⟨hasks, ⟨by decide, ?_, ?_⟩, by rfl, ?_⟩
    · intro j hj
      obtain rfl : j = 0 := by omega
      rfl
    · intro ht
      cases ht
    · intro limit hlimit
      obtain rfl : 20 = limit := Option.some.inj hlimit
      decide
  obtain ⟨-, -, -, hunsupported, -, -, -, -, hcalls, hbare⟩ := failure_tells_cause r leaf context w
  have houtcome := (hunsupported .terminateApp).2 ⟨rfl, call, 1, hends⟩
  exact ⟨hasks, hends, houtcome, (hbare rfl).2.2.1.2 ⟨_, houtcome⟩, hcalls call hasks⟩

end Runner

end SimControl
