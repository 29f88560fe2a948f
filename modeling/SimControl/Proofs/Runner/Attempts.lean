import SimControl.Runner.Attempts

/-!
# The schedule of attempts

What a backend does at a call is a script: `attemptAt` is its `k`-th attempt, if every attempt before
was played to its end. `startAt` is when that attempt begins and `lastAttempt` the index of the last
one, with `retries` to spend on transient failures. `Decides` says of that attempt what makes it the last.

* `attempts_unbounded` : without a limit, exactly the attempts up to `lastAttempt` are made, and the
  outcome is that of the last one;
* `attempts_in_time` : a limit that is not exceeded changes nothing;
* `attempts_cut_off` : a limit that is exceeded is reported, and the attempts made are those that
  begin no later than the limit.
-/

namespace SimControl

def AttemptEnd.isTransient : AttemptEnd → Bool
  | .failed (.transient _) => true
  | _ => false

/-- What a call comes to if an attempt that ends so is the last one. -/
def AttemptEnd.outcome (kind : CommandKind) (call : Call) : AttemptEnd → Except CommandError Json
  | .replied reply => .ok (call.answer reply)
  | .crashed lastWords => .error (.crash kind lastWords)
  | .failed error => .error (.ofBackend kind error)

/-! ## Scripts -/

section Schedule
variable {σ : Type} (script : Nat → Attempt σ) (pauseMs : Nat)

/-- When the `k`-th attempt begins, from the beginning of the first one on. -/
def startAt : Nat → Nat
  | 0 => 0
  | k + 1 => startAt k + (script k).durationMs + pauseMs

/-- When the `k`-th attempt ends, from the beginning of the first one on. -/
def endAt (k : Nat) : Nat :=
  startAt script pauseMs k + (script k).durationMs

/-- The index of the first attempt that is not a transient failure, but at most `retries`. -/
def lastAttempt (script : Nat → Attempt σ) : Nat → Nat
  | 0 => 0
  | retries + 1 =>
    if (script 0).ending.isTransient then lastAttempt (fun k => script (k + 1)) retries + 1 else 0

/-- Attempt `k` decides if no limit does: all before it are transient failures, and it is none or there is no
retry left. -/
structure Decides (script : Nat → Attempt σ) (retries k : Nat) : Prop where
  allowed : k ≤ retries
  before : ∀ j < k, (script j).ending.isTransient = true
  final : (script k).ending.isTransient = true → k = retries

/-- How many of the first `n` attempts begin no later than a limit. -/
def startedBy (limit n : Nat) : Nat :=
  ((List.range n).filter fun k => startAt script pauseMs k ≤ limit).length

theorem decides_lastAttempt (retries : Nat) : Decides script retries (lastAttempt script retries) := by
  induction retries generalizing script with
  | zero => exact ⟨Nat.le_refl 0, fun j hj => absurd hj (Nat.not_lt_zero j), fun _ => rfl⟩
  | succ retries ih =>
      rw [lastAttempt]
      split
      · rename_i hfirst
        obtain ⟨hallowed, hbefore, hfinal⟩ := ih fun k => script (k + 1)
        refine ⟨Nat.succ_le_succ hallowed, fun j hj => ?_, fun ht => congrArg Nat.succ (hfinal ht)⟩
        cases j with
        | zero => exact hfirst
        | succ j => exact hbefore j (Nat.lt_of_succ_lt_succ hj)
      · rename_i hfirst
        exact ⟨Nat.zero_le _, fun j hj => absurd hj (Nat.not_lt_zero j), fun ht => absurd ht hfirst⟩

theorem Decides.eq_lastAttempt {script : Nat → Attempt σ} {retries k : Nat} (h : Decides script retries k) :
    k = lastAttempt script retries := by
  have hlast := decides_lastAttempt script retries
  rcases Nat.lt_trichotomy k (lastAttempt script retries) with hlt | heq | hlt
  · have hk := h.final (hlast.before k hlt)
    have := hlast.allowed
    omega
  · exact heq
  · have hk := hlast.final (h.before _ hlt)
    have := h.allowed
    omega

/-- Leaving out the first attempt moves all others by its duration and the pause. -/
theorem startAt_succ (k : Nat) : startAt script pauseMs (k + 1) =
    (script 0).durationMs + pauseMs + startAt (fun k => script (k + 1)) pauseMs k := by
  induction k with
  | zero => simp [startAt]
  | succ k ih =>
      rw [startAt, ih, startAt]
      omega

theorem endAt_succ (k : Nat) : endAt script pauseMs (k + 1) =
    (script 0).durationMs + pauseMs + endAt (fun k => script (k + 1)) pauseMs k := by
  rw [endAt, startAt_succ, endAt]
  omega

theorem startedBy_succ (limit n : Nat) : startedBy script pauseMs limit (n + 1) =
    1 + ((List.range n).filter fun k => startAt script pauseMs (k + 1) ≤ limit).length := by
  rw [startedBy, List.range_succ_eq_map, List.filter_cons_of_pos (by simp [startAt]), List.filter_map,
    List.length_cons, List.length_map, Nat.add_comm]
  rfl

/-- The first attempt begins in time whatever the limit. -/
theorem exists_startedBy (limit n : Nat) : ∃ count ≤ n, startedBy script pauseMs limit (n + 1) = count + 1 := by
  rw [startedBy_succ, Nat.add_comm]
  exact ⟨_, Nat.le_trans (List.length_filter_le _ _) (Nat.le_of_eq List.length_range), rfl⟩

theorem startedBy_eq_one {limit : Nat} (h : limit < (script 0).durationMs + pauseMs) (n : Nat) :
    startedBy script pauseMs limit (n + 1) = 1 := by
  rw [startedBy_succ, List.filter_eq_nil_iff.2]
  · rfl
  · intro k _
    rw [startAt_succ]
    simp only [decide_eq_true_eq]
    omega

/-- A limit after the second attempt is the rest of it for the attempts from there on. -/
theorem startedBy_shift (limit : Nat) (h : (script 0).durationMs + pauseMs ≤ limit) (n : Nat) :
    startedBy script pauseMs limit (n + 1) =
      1 + startedBy (fun k => script (k + 1)) pauseMs (limit - ((script 0).durationMs + pauseMs)) n := by
  rw [startedBy_succ, startedBy]
  congr 3
  funext k
  rw [startAt_succ, decide_eq_decide]
  omega

end Schedule

/-- The `k`-th attempt at a call, if every attempt before was played to its end. -/
def attemptAt {σ : Type} (backend : Backend σ) (call : Call) (device : σ) : Nat → Attempt σ
  | 0 => backend call device
  | k + 1 => attemptAt backend call (backend call device).finished k

theorem attemptAt_tail {σ : Type} (backend : Backend σ) (call : Call) (device : σ) :
    (fun k => attemptAt backend call device (k + 1)) =
      attemptAt backend call (backend call device).finished := rfl

/-! ## One attempt -/

section Attempts
variable {σ : Type} {backend : Backend σ} {kind : CommandKind} {call : Call} {pauseMs : Nat}

theorem exceeded?_none (start time : Nat) : TimeBound.exceeded? ⟨start, none⟩ time = none := rfl

theorem exceeded?_of_le {start limit time : Nat} (h : time ≤ start + limit) :
    TimeBound.exceeded? ⟨start, some limit⟩ time = none := by
  simp only [TimeBound.exceeded?, Option.filter_eq_none_iff, Option.some.injEq, decide_eq_true_eq]
  omega

theorem exceeded?_of_lt {start limit time : Nat} (h : start + limit < time) :
    TimeBound.exceeded? ⟨start, some limit⟩ time = some limit := by
  simp [TimeBound.exceeded?, h]

/-- The world after an attempt that was played to its end. -/
def World.afterAttempt (w : World σ) (call : Call) (attempt : Attempt σ) : World σ :=
  ⟨attempt.finished, w.now + attempt.durationMs, w.calls ++ [call]⟩

theorem attempts_cut {b : TimeBound} {w : World σ} {limit : Nat}
    (h : b.exceeded? (w.now + (backend call w.device).durationMs) = some limit) (retries : Nat) :
    attempts backend kind call pauseMs b retries w =
      (.error (.timeout limit), ⟨(backend call w.device).abandoned, b.start + limit, w.calls ++ [call]⟩) := by
  rw [attempts]
  simp only [h]
  rfl

theorem attempts_last {b : TimeBound} {w : World σ}
    (h : b.exceeded? (w.now + (backend call w.device).durationMs) = none) {retries : Nat}
    (hlast : (backend call w.device).ending.isTransient = false ∨ retries = 0) :
    attempts backend kind call pauseMs b retries w =
      ((backend call w.device).ending.outcome kind call, w.afterAttempt call (backend call w.device)) := by
  rw [attempts]
  simp only [h]
  generalize backend call w.device = attempt at *
  obtain ⟨duration, ending, finished, abandoned⟩ := attempt
  match ending, retries, hlast with
  | .replied _, _, _ => rfl
  | .crashed _, _, _ => rfl
  | .failed .unsupported, _, _ => rfl
  | .failed (.invalidParameter _ _), _, _ => rfl
  | .failed (.operation _), _, _ => rfl
  | .failed (.transient _), 0, _ => rfl
  | .failed (.transient _), _ + 1, hlast => simp [AttemptEnd.isTransient] at hlast

/-- What takes no time is in time whatever the limit. -/
theorem exceeded?_start (start : Nat) (limitMs : Option Nat) : TimeBound.exceeded? ⟨start, limitMs⟩ start = none := by
  cases limitMs with
  | none => exact exceeded?_none start start
  | some limit => exact exceeded?_of_le (Nat.le_add_right start limit)

/-- A reply that comes at once is the end of the matter, whatever the limit and the retries. -/
theorem attempts_at_once {w : World σ} {reply : Json} (htime : (backend call w.device).durationMs = 0)
    (hreply : (backend call w.device).ending = .replied reply) (limitMs : Option Nat) (retries : Nat) :
    attempts backend kind call pauseMs ⟨w.now, limitMs⟩ retries w =
      (.ok (call.answer reply), w.afterAttempt call (backend call w.device)) := by
  rw [attempts_last (by rw [htime]; exact exceeded?_start _ _) (.inl (by rw [hreply]; rfl)), hreply]
  rfl

/-- A transient failure is followed by another attempt, unless the pause is longer than the limit. -/
theorem attempts_retry {b : TimeBound} {w : World σ}
    (h : b.exceeded? (w.now + (backend call w.device).durationMs) = none)
    (htransient : (backend call w.device).ending.isTransient = true) (retries : Nat) :
    attempts backend kind call pauseMs b (retries + 1) w =
      (b.exceeded? (w.now + (backend call w.device).durationMs + pauseMs)).elim
        (attempts backend kind call pauseMs b retries
          ⟨(backend call w.device).finished, w.now + (backend call w.device).durationMs + pauseMs,
            w.calls ++ [call]⟩)
        fun limit =>
          (.error (.timeout limit), ⟨(backend call w.device).finished, b.start + limit, w.calls ++ [call]⟩) := by
  rw [attempts]
  simp only [h]
  generalize backend call w.device = attempt at *
  obtain ⟨duration, ending, finished, abandoned⟩ := attempt
  match ending, htransient with
  | .failed (.transient _), _ => cases b.exceeded? (w.now + duration + pauseMs) <;> rfl

theorem lastAttempt_of_transient {device : σ} (h : (backend call device).ending.isTransient = true)
    (retries : Nat) : lastAttempt (attemptAt backend call device) (retries + 1) =
      lastAttempt (attemptAt backend call (backend call device).finished) retries + 1 := by
  rw [lastAttempt, attemptAt_tail]
  exact if_pos h

theorem lastAttempt_of_not_transient {device : σ} {retries : Nat}
    (h : (backend call device).ending.isTransient = false ∨ retries = 0) :
    lastAttempt (attemptAt backend call device) retries = 0 := by
  cases retries with
  | zero => rfl
  | succ retries =>
      rw [lastAttempt]
      exact if_neg (by simpa [attemptAt] using h)

theorem endAt_zero (device : σ) :
    endAt (attemptAt backend call device) pauseMs 0 = (backend call device).durationMs := by
  simp [endAt, startAt, attemptAt]

end Attempts

/-! ## All attempts -/

section Runs
variable {σ : Type} (backend : Backend σ) (kind : CommandKind) (call : Call) (pauseMs : Nat)

theorem attempts_unbounded (start : Nat) : ∀ (retries : Nat) (w : World σ),
    attempts backend kind call pauseMs ⟨start, none⟩ retries w =
      ((attemptAt backend call w.device
          (lastAttempt (attemptAt backend call w.device) retries)).ending.outcome kind call,
        ⟨(attemptAt backend call w.device
            (lastAttempt (attemptAt backend call w.device) retries)).finished,
          w.now + endAt (attemptAt backend call w.device) pauseMs
            (lastAttempt (attemptAt backend call w.device) retries),
          w.calls ++ List.replicate (lastAttempt (attemptAt backend call w.device) retries + 1) call⟩) := by
  intro retries
  induction retries with
  | zero =>
      intro w
      rw [attempts_last (exceeded?_none _ _) (.inr rfl), lastAttempt_of_not_transient (.inr rfl), endAt_zero]
      rfl
  | succ retries ih =>
      intro w
      cases ht : (backend call w.device).ending.isTransient with
      | true =>
          rw [attempts_retry (exceeded?_none _ _) ht, exceeded?_none, Option.elim_none, lastAttempt_of_transient ht,
            endAt_succ, attemptAt_tail]
          simp only [ih, attemptAt]
          rw [List.append_assoc, ← List.replicate_one, List.replicate_append_replicate]
          rw [Nat.add_comm 1, ← Nat.add_assoc w.now, ← Nat.add_assoc w.now]
      | false =>
          rw [attempts_last (exceeded?_none _ _) (.inl ht), lastAttempt_of_not_transient (.inl ht), endAt_zero]
          rfl

/-- A limit that the last attempt does not exceed changes nothing. -/
theorem attempts_in_time (start limit : Nat) : ∀ (retries : Nat) (w : World σ),
    w.now + endAt (attemptAt backend call w.device) pauseMs
      (lastAttempt (attemptAt backend call w.device) retries) ≤ start + limit →
    attempts backend kind call pauseMs ⟨start, some limit⟩ retries w =
      attempts backend kind call pauseMs ⟨start, none⟩ retries w := by
  intro retries
  induction retries with
  | zero =>
      intro w h
      rw [lastAttempt_of_not_transient (.inr rfl), endAt_zero] at h
      rw [attempts_last (exceeded?_of_le h) (.inr rfl), attempts_last (exceeded?_none _ _) (.inr rfl)]
  | succ retries ih =>
      intro w h
      cases ht : (backend call w.device).ending.isTransient with
      | true =>
          rw [lastAttempt_of_transient ht, endAt_succ, attemptAt_tail] at h
          simp only [attemptAt] at h
          rw [attempts_retry (exceeded?_of_le (by omega)) ht, attempts_retry (exceeded?_none _ _) ht,
            exceeded?_of_le (by omega), exceeded?_none, Option.elim_none, Option.elim_none]
          exact ih _ (by simp only; omega)
      | false =>
          rw [lastAttempt_of_not_transient (.inl ht), endAt_zero] at h
          rw [attempts_last (exceeded?_of_le h) (.inl ht), attempts_last (exceeded?_none _ _) (.inl ht)]

/-- A limit that the last attempt exceeds is reported at once, after the attempts that begin by then. -/
theorem attempts_cut_off (start limit : Nat) : ∀ (retries : Nat) (w : World σ), w.now ≤ start + limit →
    start + limit < w.now + endAt (attemptAt backend call w.device) pauseMs
      (lastAttempt (attemptAt backend call w.device) retries) →
    ∃ device, attempts backend kind call pauseMs ⟨start, some limit⟩ retries w =
      (.error (.timeout limit), ⟨device, start + limit, w.calls ++ List.replicate
        (startedBy (attemptAt backend call w.device) pauseMs (start + limit - w.now)
          (lastAttempt (attemptAt backend call w.device) retries + 1)) call⟩) := by
  intro retries
  induction retries with
  | zero =>
      intro w _ h
      rw [lastAttempt_of_not_transient (.inr rfl), endAt_zero] at h
      refine ⟨(backend call w.device).abandoned, ?_⟩
      rw [attempts_cut (exceeded?_of_lt h), startedBy_eq_one _ _ (by simp only [attemptAt]; omega)]
      rfl
  | succ retries ih =>
      intro w hstart h
      by_cases hcut : start + limit < w.now + (backend call w.device).durationMs
      · refine ⟨(backend call w.device).abandoned, ?_⟩
        rw [attempts_cut (exceeded?_of_lt hcut), startedBy_eq_one _ _ (by simp only [attemptAt]; omega)]
        rfl
      · have ht : (backend call w.device).ending.isTransient = true := by
          refine eq_true_of_ne_false fun hne => ?_
          rw [lastAttempt_of_not_transient (.inl hne), endAt_zero] at h
          omega
        rw [attempts_retry (exceeded?_of_le (by omega)) ht]
        by_cases hpause : start + limit < w.now + (backend call w.device).durationMs + pauseMs
        · refine ⟨(backend call w.device).finished, ?_⟩
          rw [exceeded?_of_lt hpause, startedBy_eq_one _ _ (by simp only [attemptAt]; omega)]
          rfl
        · rw [lastAttempt_of_transient ht, endAt_succ, attemptAt_tail] at h
          simp only [attemptAt] at h
          obtain ⟨device, hrun⟩ := ih ⟨(backend call w.device).finished,
            w.now + (backend call w.device).durationMs + pauseMs, w.calls ++ [call]⟩
            (by simp only; omega) (by simp only; omega)
          have hcount := startedBy_shift (attemptAt backend call w.device) pauseMs
            (start + limit - w.now) (by simp only [attemptAt]; omega)
            (lastAttempt (attemptAt backend call (backend call w.device).finished) retries + 1)
          simp only [attemptAt, Nat.sub_sub, ← Nat.add_assoc] at hcount
          refine ⟨device, ?_⟩
          rw [exceeded?_of_le (by omega), Option.elim_none, lastAttempt_of_transient ht, hcount]
          simp only [hrun]
          rw [List.append_assoc, ← List.replicate_one, List.replicate_append_replicate]

/-- Whatever the limit, the calls that are made are the given one, once and again for some of the retries. -/
theorem attempts_calls (b : TimeBound) (retries : Nat) (w : World σ) (hstart : b.start = w.now) :
    ∃ count ≤ retries, (attempts backend kind call pauseMs b retries w).2.calls =
      w.calls ++ List.replicate (count + 1) call := by
  obtain ⟨start, limitMs⟩ := b
  subst hstart
  have hallowed := (decides_lastAttempt (attemptAt backend call w.device) retries).allowed
  cases limitMs with
  | none => exact ⟨_, hallowed, by rw [attempts_unbounded]⟩
  | some limit =>
      by_cases h : w.now + endAt (attemptAt backend call w.device) pauseMs
          (lastAttempt (attemptAt backend call w.device) retries) ≤ w.now + limit
      · refine ⟨_, hallowed, ?_⟩
        rw [attempts_in_time backend kind call pauseMs w.now limit retries w h, attempts_unbounded]
      · obtain ⟨device, hrun⟩ := attempts_cut_off backend kind call pauseMs w.now limit retries w
          (by omega) (by omega)
        obtain ⟨count, hcount, hstarted⟩ := exists_startedBy (attemptAt backend call w.device) pauseMs
          (w.now + limit - w.now) (lastAttempt (attemptAt backend call w.device) retries)
        exact ⟨count, Nat.le_trans hcount hallowed, by rw [hrun, hstarted]⟩

end Runs

end SimControl
